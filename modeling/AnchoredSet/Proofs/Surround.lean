import AnchoredSet.Proofs.Gap

/-!
The members around an identifier, by their order alone. The search by place gives the least member,
the greatest member, or the two members next to the identifier, in exactly the cases in which these
surround it; halving and scanning agree on what is a member.
-/

namespace AnchoredSet

def Least (leaves : List Bytes) (least : Bytes) : Prop :=
  least ∈ leaves ∧ ∀ m ∈ leaves, least ≤ m

def Greatest (leaves : List Bytes) (greatest : Bytes) : Prop :=
  greatest ∈ leaves ∧ ∀ m ∈ leaves, m ≤ greatest

structure Adjacent (leaves : List Bytes) (lower upper : Bytes) : Prop where
  left : lower ∈ leaves
  right : upper ∈ leaves
  between : ∀ m ∈ leaves, ¬ (lower < m ∧ m < upper)

/-- What surrounds an identifier that is no member, with the parts it plays. -/
inductive Surrounds (s : LeafSet) (identifier : Bytes) : List (Bytes × Role) → Prop
  | empty (none : s.leaves = []) :
      Surrounds s identifier [(Bytes.zeros s.identifierLength.toNat, .empty)]
  | first {leaf : Bytes} (least : Least s.leaves leaf)
      (below : ∀ m ∈ s.leaves, identifier < m) : Surrounds s identifier [(leaf, .first)]
  | last {leaf : Bytes} (greatest : Greatest s.leaves leaf)
      (above : ∀ m ∈ s.leaves, m < identifier) : Surrounds s identifier [(leaf, .last)]
  | interior {lower upper : Bytes} (adjacent : Adjacent s.leaves lower upper)
      (above : lower < identifier) (below : identifier < upper) :
      Surrounds s identifier [(lower, .interior), (upper, .interior)]

section Place

variable {leaves : List Bytes} {leaf lower upper : Bytes} {i : Nat}

theorem least_iff (ascending : leaves.Pairwise (· < ·)) :
    Least leaves leaf ↔ leaves[0]? = some leaf := by
  constructor
  · rintro ⟨member, least⟩
    obtain ⟨j, found⟩ := List.mem_iff_getElem?.mp member
    obtain zero | later : j = 0 ∨ 0 < j := by omega
    · rwa [zero] at found
    · have inside := (List.getElem?_eq_some_iff.mp found).1
      have first := List.getElem?_eq_getElem (show 0 < leaves.length by omega)
      have below := getElem?_lt_of_lt ascending first found later
      exact absurd below (List.not_lt.mpr (least _ (List.mem_of_getElem? first)))
  · intro stored
    refine ⟨List.mem_of_getElem? stored, fun m member => ?_⟩
    obtain ⟨j, found⟩ := List.mem_iff_getElem?.mp member
    exact getElem?_not_lt_of_le ascending stored found (Nat.zero_le j)

theorem greatest_iff (ascending : leaves.Pairwise (· < ·)) :
    Greatest leaves leaf ↔ leaves[leaves.length - 1]? = some leaf := by
  constructor
  · rintro ⟨member, greatest⟩
    obtain ⟨j, found⟩ := List.mem_iff_getElem?.mp member
    have inside := (List.getElem?_eq_some_iff.mp found).1
    obtain same | before : j = leaves.length - 1 ∨ j < leaves.length - 1 := by omega
    · rwa [same] at found
    · have last := List.getElem?_eq_getElem (show leaves.length - 1 < leaves.length by omega)
      have above := getElem?_lt_of_lt ascending found last before
      exact absurd above (List.not_lt.mpr (greatest _ (List.mem_of_getElem? last)))
  · intro stored
    refine ⟨List.mem_of_getElem? stored, fun m member => ?_⟩
    obtain ⟨j, found⟩ := List.mem_iff_getElem?.mp member
    have inside := (List.getElem?_eq_some_iff.mp found).1
    exact getElem?_not_lt_of_le ascending found stored (by omega)

theorem adjacent_of_stored (ascending : leaves.Pairwise (· < ·)) (left : leaves[i]? = some lower)
    (right : leaves[i + 1]? = some upper) : Adjacent leaves lower upper where
  left := List.mem_of_getElem? left
  right := List.mem_of_getElem? right
  between m member := by
    rintro ⟨above, below⟩
    rcases le_or_le_of_adjacent ascending left right member with beneath | beyond
    · exact List.not_lt.mpr beneath above
    · exact List.not_lt.mpr beyond below

theorem Adjacent.exists_stored (ascending : leaves.Pairwise (· < ·))
    (adjacent : Adjacent leaves lower upper) (apart : lower < upper) :
    ∃ i, leaves[i]? = some lower ∧ leaves[i + 1]? = some upper := by
  obtain ⟨i, left⟩ := List.mem_iff_getElem?.mp adjacent.left
  obtain ⟨j, right⟩ := List.mem_iff_getElem?.mp adjacent.right
  have inside := (List.getElem?_eq_some_iff.mp right).1
  have before : i < j := by
    by_contra after
    exact getElem?_not_lt_of_le ascending right left (by omega) apart
  obtain next | gap : j = i + 1 ∨ i + 1 < j := by omega
  · exact ⟨i, left, next ▸ right⟩
  · have middle := List.getElem?_eq_getElem (show i + 1 < leaves.length by omega)
    exact absurd ⟨getElem?_lt_of_lt ascending left middle (Nat.lt_succ_self i),
      getElem?_lt_of_lt ascending middle right gap⟩
      (adjacent.between _ (List.mem_of_getElem? middle))

end Place

section Located

variable {s : LeafSet} {identifier leaf lower upper : Bytes} {located : List (Bytes × Role)}

theorem enclosed_iff_surrounds (ascending : s.leaves.Pairwise (· < ·)) :
    Enclosed s identifier located ↔ Surrounds s identifier located := by
  constructor
  · intro enclosed
    cases enclosed with
    | empty none => exact .empty none
    | first stored below =>
      exact .first ((least_iff ascending).mpr stored) fun m member =>
        lt_of_lt_first ascending stored below member
    | last stored above =>
      exact .last ((greatest_iff ascending).mpr stored) fun m member =>
        lt_of_last_lt ascending stored above member
    | interior left right above below =>
      exact .interior (adjacent_of_stored ascending left right) above below
  · intro surrounds
    cases surrounds with
    | empty none => exact .empty none
    | first least below => exact .first ((least_iff ascending).mp least) (below _ least.1)
    | last greatest above =>
      exact .last ((greatest_iff ascending).mp greatest) (above _ greatest.1)
    | interior adjacent above below =>
      obtain ⟨i, left, right⟩ := adjacent.exists_stored ascending (List.lt_trans above below)
      exact .interior left right above below

namespace Surrounds

theorem empty_iff (surrounds : Surrounds s identifier located) :
    located = [(Bytes.zeros s.identifierLength.toNat, .empty)] ↔ s.leaves = [] := by
  cases surrounds with
  | empty none => exact iff_of_true rfl none
  | first least _ => exact iff_of_false (by simp) (List.ne_nil_of_mem least.1)
  | last greatest _ => exact iff_of_false (by simp) (List.ne_nil_of_mem greatest.1)
  | interior adjacent _ _ => exact iff_of_false (by simp) (List.ne_nil_of_mem adjacent.left)

theorem first_iff (surrounds : Surrounds s identifier located) :
    (∃ leaf, Least s.leaves leaf ∧ located = [(leaf, .first)]) ↔
      s.leaves ≠ [] ∧ ∀ m ∈ s.leaves, identifier < m := by
  cases surrounds with
  | empty none => exact iff_of_false (by simp) fun filled => filled.1 none
  | first least below =>
    exact iff_of_true ⟨_, least, rfl⟩ ⟨List.ne_nil_of_mem least.1, below⟩
  | last greatest above =>
    refine iff_of_false (by simp) fun below => ?_
    exact List.lt_asymm (above _ greatest.1) (below.2 _ greatest.1)
  | interior adjacent above _ =>
    refine iff_of_false (by simp) fun below => ?_
    exact List.lt_asymm above (below.2 _ adjacent.left)

theorem last_iff (surrounds : Surrounds s identifier located) :
    (∃ leaf, Greatest s.leaves leaf ∧ located = [(leaf, .last)]) ↔
      s.leaves ≠ [] ∧ ∀ m ∈ s.leaves, m < identifier := by
  cases surrounds with
  | empty none => exact iff_of_false (by simp) fun filled => filled.1 none
  | first least below =>
    refine iff_of_false (by simp) fun above => ?_
    exact List.lt_asymm (below _ least.1) (above.2 _ least.1)
  | last greatest above =>
    exact iff_of_true ⟨_, greatest, rfl⟩ ⟨List.ne_nil_of_mem greatest.1, above⟩
  | interior adjacent _ below =>
    refine iff_of_false (by simp) fun above => ?_
    exact List.lt_asymm below (above.2 _ adjacent.right)

theorem interior_iff (surrounds : Surrounds s identifier located) :
    (∃ lower upper, Adjacent s.leaves lower upper ∧ (lower < identifier ∧ identifier < upper) ∧
        located = [(lower, .interior), (upper, .interior)]) ↔
      (∃ m ∈ s.leaves, m < identifier) ∧ ∃ m ∈ s.leaves, identifier < m := by
  cases surrounds with
  | empty none => exact iff_of_false (by simp) (by simp [none])
  | first _ below =>
    refine iff_of_false (by simp) ?_
    rintro ⟨⟨m, member, less⟩, _⟩
    exact List.lt_asymm less (below m member)
  | last _ above =>
    refine iff_of_false (by simp) ?_
    rintro ⟨_, m, member, more⟩
    exact List.lt_asymm more (above m member)
  | interior adjacent above below =>
    exact iff_of_true ⟨_, _, adjacent, ⟨above, below⟩, rfl⟩
      ⟨⟨_, adjacent.left, above⟩, _, adjacent.right, below⟩

end Surrounds

namespace LeafSet

theorem locate_of_not_hasPlaceholder (lacking : ¬ s.HasPlaceholder) (identifier : Bytes) :
    s.locate identifier ∈ [.error .negativeCount, .error .wideCount, .error .longCount] := by
  obtain ⟨empty, uncounted⟩ := Classical.not_imp.mp lacking
  have refused := Identifier.requireCount_eq_ok.not.mpr uncounted
  rw [locate_of_empty empty, Identifier.placeholder]
  rw [Identifier.requireCount] at refused ⊢
  split
  · simp [Except.map, bind, Except.bind]
  · split
    · simp [Except.map, bind, Except.bind]
    · split
      · simp [Except.map, bind, Except.bind]
      · rename_i word nonneg few
        rw [if_neg word, if_neg nonneg, if_neg few] at refused
        exact absurd rfl refused

/-- A member has no neighbors. Any other identifier, of any length, has the placeholder in a set
without members, the least member if it is below all of them, the greatest one if it is above all of
them, and else two members around it with none between them. Only a set without members whose
length is none of a byte string has no placeholder, and is refused for it. -/
theorem locate_exact (canonical : s.Canonical) (identifier : Bytes) :
    (s.locate identifier = .error (.leafAlreadyPresent identifier) ↔ identifier ∈ s.leaves) ∧
      (identifier ∉ s.leaves → s.HasPlaceholder → ∃ located, s.locate identifier = .ok located ∧
        (located = [(Bytes.zeros s.identifierLength.toNat, .empty)] ↔ s.leaves = []) ∧
        ((∃ leaf, Least s.leaves leaf ∧ located = [(leaf, .first)]) ↔
          s.leaves ≠ [] ∧ ∀ m ∈ s.leaves, identifier < m) ∧
        ((∃ leaf, Greatest s.leaves leaf ∧ located = [(leaf, .last)]) ↔
          s.leaves ≠ [] ∧ ∀ m ∈ s.leaves, m < identifier) ∧
        ((∃ lower upper, Adjacent s.leaves lower upper ∧
            (lower < identifier ∧ identifier < upper) ∧
            located = [(lower, .interior), (upper, .interior)]) ↔
          (∃ m ∈ s.leaves, m < identifier) ∧ ∃ m ∈ s.leaves, identifier < m)) ∧
      (¬ s.HasPlaceholder →
        s.locate identifier ∈ [.error .negativeCount, .error .wideCount, .error .longCount]) := by
  have ascending := canonical.ascending
  refine ⟨⟨?_, locate_of_mem ascending⟩, ?_, fun lacking => locate_of_not_hasPlaceholder lacking _⟩
  · intro refused
    by_contra absent
    by_cases placed : s.HasPlaceholder
    · obtain ⟨located, found, _⟩ := exists_locate ascending placed absent
      rw [refused] at found
      cases found
    · have other := locate_of_not_hasPlaceholder placed identifier
      rw [refused] at other
      simp at other
  · intro absent placed
    obtain ⟨located, found, enclosed⟩ := exists_locate ascending placed absent
    have surrounds := (enclosed_iff_surrounds ascending).mp enclosed
    exact ⟨located, found, surrounds.empty_iff, surrounds.first_iff, surrounds.last_iff,
      surrounds.interior_iff⟩

theorem locate_exact_extension : ∃ lower upper, Adjacent Sample.leafSet.leaves lower upper ∧
    (lower < [1, 0] ∧ [1, 0] < upper) ∧
      Sample.leafSet.locate [1, 0] = .ok [(lower, .interior), (upper, .interior)] := by
  obtain ⟨_, absent, _⟩ := locate_exact Sample.reachable.canonical [1, 0]
  obtain ⟨located, found, _, _, _, interior⟩ := absent (by decide) nofun
  obtain ⟨lower, upper, adjacent, between, rfl⟩ :=
    interior.mpr ⟨⟨[1], by decide, by decide⟩, [3], by decide, by decide⟩
  exact ⟨lower, upper, adjacent, between, found⟩

/-- A set can be made without members and with a length that no byte string has. Then it has no
placeholder to give. -/
theorem locate_refuses_wide : (⟨[], 2 ^ 63⟩ : LeafSet).Reachable ∧
    [5] ∉ (⟨[], 2 ^ 63⟩ : LeafSet).leaves ∧
    (⟨[], 2 ^ 63⟩ : LeafSet).locate [5] = .error .wideCount := by
  have made : ofIdentifiers [] (2 ^ 63) = .ok ⟨[], 2 ^ 63⟩ := rfl
  exact ⟨.ofIdentifiers (by decide) made, List.not_mem_nil, rfl⟩

end LeafSet

end Located

end AnchoredSet
