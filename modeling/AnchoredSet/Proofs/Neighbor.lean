import AnchoredSet.Proofs.Reachable

/-!
The neighbors of an identifier. Of a set without it they are the members that enclose it, and
members side by side enclose no other member.
-/

namespace AnchoredSet

theorem not_mem_of_gap {leaves : List Bytes} (ascending : leaves.Pairwise (· < ·))
    {identifier : Bytes} {place : Nat} (bound : place ≤ leaves.length)
    (below : ∀ leaf, 0 < place → leaves[place - 1]? = some leaf → leaf < identifier)
    (above : ∀ leaf, leaves[place]? = some leaf → identifier < leaf) : identifier ∉ leaves := by
  intro member
  rcases List.mem_iff_getElem?.mp member with ⟨i, stored⟩
  rcases List.getElem?_eq_some_iff.mp stored with ⟨inside, _⟩
  obtain before | after : i < place ∨ place ≤ i := by omega
  · have found := List.getElem?_eq_getElem (show place - 1 < leaves.length by omega)
    exact getElem?_not_lt_of_le ascending stored found (by omega) (below _ (by omega) found)
  · have found := List.getElem?_eq_getElem (show place < leaves.length by omega)
    exact getElem?_not_lt_of_le ascending found stored after (above _ found)

/-- The members that enclose an identifier, with the parts they play. -/
inductive Enclosed (s : LeafSet) (identifier : Bytes) : List (Bytes × Role) → Prop
  | empty (none : s.leaves = []) :
      Enclosed s identifier [(Bytes.zeros s.identifierLength.toNat, .empty)]
  | first {leaf : Bytes} (stored : s.leaves[0]? = some leaf) (below : identifier < leaf) :
      Enclosed s identifier [(leaf, .first)]
  | last {leaf : Bytes} (stored : s.leaves[s.size - 1]? = some leaf) (above : leaf < identifier) :
      Enclosed s identifier [(leaf, .last)]
  | interior {i : Nat} {lower upper : Bytes} (left : s.leaves[i]? = some lower)
      (right : s.leaves[i + 1]? = some upper) (above : lower < identifier)
      (below : identifier < upper) :
      Enclosed s identifier [(lower, .interior), (upper, .interior)]

namespace Enclosed

variable {s : LeafSet} {identifier leaf : Bytes} {located : List (Bytes × Role)}

theorem mem (enclosed : Enclosed s identifier located) (filled : s.leaves ≠ []) (neighbor : Bytes)
    (role : Role) (named : (neighbor, role) ∈ located) :
    role ≠ .empty ∧ neighbor ∈ s.leaves := by
  cases enclosed with
  | empty none => exact absurd none filled
  | first stored _ =>
    obtain ⟨rfl, rfl⟩ := Prod.mk.inj (List.mem_singleton.mp named)
    exact ⟨Role.noConfusion, List.mem_of_getElem? stored⟩
  | last stored _ =>
    obtain ⟨rfl, rfl⟩ := Prod.mk.inj (List.mem_singleton.mp named)
    exact ⟨Role.noConfusion, List.mem_of_getElem? stored⟩
  | interior left right _ _ =>
    rcases List.mem_cons.mp named with same | later
    · obtain ⟨rfl, rfl⟩ := Prod.mk.inj same
      exact ⟨Role.noConfusion, List.mem_of_getElem? left⟩
    · obtain ⟨rfl, rfl⟩ := Prod.mk.inj (List.mem_singleton.mp later)
      exact ⟨Role.noConfusion, List.mem_of_getElem? right⟩

theorem eq_of_empty (enclosed : Enclosed s identifier located) (empty : s.leaves = []) :
    located = [(Bytes.zeros s.identifierLength.toNat, .empty)] := by
  cases enclosed with
  | empty _ => rfl
  | first stored _ => simp [empty] at stored
  | last stored _ => simp [empty] at stored
  | interior left _ _ _ => simp [empty] at left

theorem eq_of_singleton (enclosed : Enclosed s identifier located) (alone : s.leaves = [leaf]) :
    ∃ role, role ≠ .empty ∧ located = [(leaf, role)] := by
  cases enclosed with
  | empty none => simp [alone] at none
  | first stored _ =>
    obtain rfl : leaf = _ := by simpa [alone] using stored
    exact ⟨.first, Role.noConfusion, rfl⟩
  | last stored _ =>
    obtain rfl : leaf = _ := by simpa [alone, LeafSet.size] using stored
    exact ⟨.last, Role.noConfusion, rfl⟩
  | interior _ right _ _ => simp [alone] at right

end Enclosed

namespace LeafSet

variable {s : LeafSet} {identifier : Bytes}

/-- A set without members needs a placeholder, so that its length has to be one that is counted. -/
def HasPlaceholder (s : LeafSet) : Prop :=
  s.leaves = [] → Identifier.Countable s.identifierLength

theorem locate_of_mem (ascending : s.leaves.Pairwise (· < ·)) (member : identifier ∈ s.leaves) :
    s.locate identifier = .error (.leafAlreadyPresent identifier) := by
  rw [locate, if_pos ((contains_iff ascending).mpr member)]

theorem locate_of_empty (empty : s.leaves = []) : s.locate identifier =
    (Identifier.placeholder s.identifierLength).map fun placeholder => [(placeholder, .empty)] := by
  have lacking : ¬ s.contains identifier = true := fun found => by
    rw [contains_iff (by simp [empty]), empty] at found
    cases found
  rw [locate, if_neg lacking, if_pos (by simp [isEmpty, empty])]

theorem lt_of_lt_insertionIndex {i : Nat} {leaf : Bytes} (stored : s.leaves[i]? = some leaf)
    (absent : identifier ∉ s.leaves) (before : i < s.insertionIndex identifier) :
    leaf < identifier := by
  rcases List.getElem?_eq_some_iff.mp stored with ⟨inside, rfl⟩
  have notAbove := List.not_of_lt_findIdx before
  rcases Std.lt_trichotomy s.leaves[i] identifier with less | same | more
  · exact less
  · exact absurd (same ▸ List.getElem_mem inside) absent
  · simp [more] at notAbove

theorem lt_of_insertionIndex {leaf : Bytes}
    (stored : s.leaves[s.insertionIndex identifier]? = some leaf) : identifier < leaf := by
  rcases List.getElem?_eq_some_iff.mp stored with ⟨inside, rfl⟩
  exact of_decide_eq_true (List.findIdx_getElem (w := inside))

theorem exists_locate (ascending : s.leaves.Pairwise (· < ·)) (placed : s.HasPlaceholder)
    (absent : identifier ∉ s.leaves) :
    ∃ located, s.locate identifier = .ok located ∧ Enclosed s identifier located := by
  by_cases empty : s.leaves = []
  · rw [locate_of_empty empty, Identifier.placeholder_of_countable (placed empty)]
    exact ⟨_, rfl, .empty empty⟩
  · have lacking : ¬ s.contains identifier = true := fun found =>
      absent ((contains_iff ascending).mp found)
    rw [locate, if_neg lacking]
    have positive := List.length_pos_iff.mpr empty
    have stored : ∀ i < s.leaves.length, s.leaves[i]? = some (s.leaves.getD i []) := by
      intro i inside
      simp [inside]
    rw [if_neg (by simpa [isEmpty] using empty)]
    dsimp only
    split
    · rename_i zero
      have found := stored 0 positive
      have below : identifier < s.leaves.getD 0 [] := by
        apply lt_of_insertionIndex
        rw [zero, found]
      exact ⟨_, rfl, .first found below⟩
    · split
      · rename_i past
        simp only [size] at past ⊢
        have found := stored (s.leaves.length - 1) (by omega)
        exact ⟨_, rfl, .last found (lt_of_lt_insertionIndex found absent (by omega))⟩
      · rename_i inner
        simp only [size] at inner
        have left := stored (s.insertionIndex identifier - 1) (by omega)
        have right := stored (s.insertionIndex identifier) (by omega)
        have next : s.insertionIndex identifier - 1 + 1 = s.insertionIndex identifier := by omega
        refine ⟨_, rfl, .interior left ?_ (lt_of_lt_insertionIndex left absent (by omega))
          (lt_of_insertionIndex right)⟩
        rw [next, right]

end LeafSet

end AnchoredSet
