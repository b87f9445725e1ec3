import AnchoredSet.LeafSet

/-!
Ascending lists of identifiers: a place parts such a list around an identifier, halving finds that
place, and members are put in there.
-/

namespace AnchoredSet

theorem getElem?_lt_of_lt {leaves : List Bytes} (ascending : leaves.Pairwise (· < ·))
    {i j : Nat} {a b : Bytes} (first : leaves[i]? = some a) (second : leaves[j]? = some b)
    (before : i < j) : a < b := by
  rcases List.getElem?_eq_some_iff.mp first with ⟨hi, rfl⟩
  rcases List.getElem?_eq_some_iff.mp second with ⟨hj, rfl⟩
  exact List.pairwise_iff_getElem.mp ascending i j hi hj before

theorem getElem?_not_lt_of_le {leaves : List Bytes} (ascending : leaves.Pairwise (· < ·))
    {i j : Nat} {a b : Bytes} (first : leaves[i]? = some a) (second : leaves[j]? = some b)
    (notAfter : i ≤ j) : ¬ b < a := by
  obtain rfl | before : i = j ∨ i < j := by omega
  · obtain rfl := Option.some.inj (first.symm.trans second)
    exact List.lt_irrefl a
  · exact List.lt_asymm (getElem?_lt_of_lt ascending first second before)

theorem exists_of_mem_take {α : Type} {items : List α} {place : Nat} {item : α}
    (member : item ∈ items.take place) : ∃ i, items[i]? = some item ∧ i < place := by
  rcases List.mem_iff_getElem?.mp member with ⟨i, found⟩
  rw [List.getElem?_take] at found
  split at found
  · exact ⟨i, found, ‹_›⟩
  · cases found

theorem exists_of_mem_drop {α : Type} {items : List α} {place : Nat} {item : α}
    (member : item ∈ items.drop place) : ∃ i, items[i]? = some item ∧ place ≤ i := by
  rcases List.mem_iff_getElem?.mp member with ⟨i, found⟩
  rw [List.getElem?_drop] at found
  exact ⟨place + i, found, Nat.le_add_right place i⟩

theorem nodup_of_ascending {leaves : List Bytes} (ascending : leaves.Pairwise (· < ·)) :
    leaves.Nodup :=
  List.Pairwise.imp Std.ne_of_lt ascending

/-- A place that parts a list: what stands before it is below the identifier, and nothing from it
on is. -/
structure Cut (leaves : List Bytes) (identifier : Bytes) (place : Nat) : Prop where
  bound : place ≤ leaves.length
  below : ∀ i leaf, leaves[i]? = some leaf → i < place → leaf < identifier
  above : ∀ i leaf, leaves[i]? = some leaf → place ≤ i → ¬ leaf < identifier

theorem cut_bisect {leaves : List Bytes} (ascending : leaves.Pairwise (· < ·))
    (identifier : Bytes) (low high : Nat) (ordered : low ≤ high) (inside : high ≤ leaves.length)
    (below : ∀ i leaf, leaves[i]? = some leaf → i < low → leaf < identifier)
    (above : ∀ i leaf, leaves[i]? = some leaf → high ≤ i → ¬ leaf < identifier) :
    Cut leaves identifier (LeafSet.bisect leaves identifier low high) := by
  fun_induction LeafSet.bisect leaves identifier low high with
  | case1 low high gap middle less ih =>
    have stored : leaves[middle]? = some (leaves.getD middle []) := by
      grind
    refine ih (by omega) inside ?_ above
    intro i leaf found place
    obtain same | before : i = middle ∨ i < middle := by omega
    · grind
    · exact List.lt_trans (getElem?_lt_of_lt ascending found stored before) less
  | case2 low high gap middle notLess ih =>
    have stored : leaves[middle]? = some (leaves.getD middle []) := by
      grind
    refine ih (by omega) (by omega) below ?_
    intro i leaf found place less
    obtain same | after : i = middle ∨ middle < i := by omega
    · grind
    · exact notLess (List.lt_trans (getElem?_lt_of_lt ascending stored found after) less)
  | case3 low high closed =>
    have same : low = high := by omega
    exact ⟨by omega, below, same ▸ above⟩

theorem Cut.pairwise_insert {leaves : List Bytes} {identifier : Bytes} {place : Nat}
    (cut : Cut leaves identifier place) (ascending : leaves.Pairwise (· < ·))
    (absent : leaves[place]? ≠ some identifier) :
    (leaves.take place ++ identifier :: leaves.drop place).Pairwise (· < ·) := by
  have lower : ∀ leaf ∈ leaves.take place, leaf < identifier := by
    intro leaf member
    rcases exists_of_mem_take member with ⟨i, found, before⟩
    exact cut.below i leaf found before
  have upper : ∀ leaf ∈ leaves.drop place, identifier < leaf := by
    intro leaf member
    rcases exists_of_mem_drop member with ⟨i, found, behind⟩
    have notBelow := cut.above i leaf found behind
    have differ : leaf ≠ identifier := by
      rintro rfl
      obtain rfl | after : i = place ∨ place < i := by omega
      · exact absent found
      · have inside := (List.getElem?_eq_some_iff.mp found).1
        have first := List.getElem?_eq_getElem (show place < leaves.length by omega)
        exact cut.above place _ first (Nat.le_refl _)
          (getElem?_lt_of_lt ascending first found after)
    rcases Std.lt_trichotomy identifier leaf with less | same | more
    · exact less
    · exact absurd same.symm differ
    · exact absurd more notBelow
  have parts : (leaves.take place ++ leaves.drop place).Pairwise (· < ·) := by
    rwa [List.take_append_drop]
  rw [List.pairwise_append] at parts ⊢
  refine ⟨parts.1, List.pairwise_cons.mpr ⟨upper, parts.2.1⟩, ?_⟩
  intro a left b right
  rcases List.mem_cons.mp right with rfl | right
  · exact lower a left
  · exact parts.2.2 a left b right

theorem mem_insertAscending {identifier leaf : Bytes} {leaves : List Bytes} :
    leaf ∈ insertAscending identifier leaves ↔ leaf = identifier ∨ leaf ∈ leaves := by
  fun_induction insertAscending identifier leaves <;> grind

theorem pairwise_insertAscending {identifier : Bytes} {leaves : List Bytes}
    (ascending : leaves.Pairwise (· < ·)) :
    (insertAscending identifier leaves).Pairwise (· < ·) := by
  fun_induction insertAscending identifier leaves with
  | case1 => simp
  | case2 leaf rest below =>
    refine List.pairwise_cons.mpr ⟨?_, ascending⟩
    intro other member
    rcases List.mem_cons.mp member with rfl | later
    · exact below
    · exact List.lt_trans below ((List.pairwise_cons.mp ascending).1 other later)
  | case3 rest _ => exact ascending
  | case4 leaf rest notBelow differ ih =>
    rcases List.pairwise_cons.mp ascending with ⟨first, others⟩
    refine List.pairwise_cons.mpr ⟨?_, ih others⟩
    intro other member
    rcases mem_insertAscending.mp member with rfl | later
    · rcases Std.lt_trichotomy other leaf with less | same | more
      · exact absurd less notBelow
      · exact absurd same differ
      · exact more
    · exact first other later

theorem pairwise_foldl_insertAscending (identifiers : List Bytes) {leaves : List Bytes}
    (ascending : leaves.Pairwise (· < ·)) :
    (identifiers.foldl (fun leaves identifier => insertAscending identifier leaves)
      leaves).Pairwise (· < ·) := by
  induction identifiers generalizing leaves with
  | nil => exact ascending
  | cons identifier rest ih => exact ih (pairwise_insertAscending ascending)

theorem mem_foldl_insertAscending {leaf : Bytes} (identifiers leaves : List Bytes) :
    leaf ∈ identifiers.foldl (fun leaves identifier => insertAscending identifier leaves) leaves ↔
      leaf ∈ identifiers ∨ leaf ∈ leaves := by
  induction identifiers generalizing leaves with
  | nil => simp
  | cons identifier rest ih =>
    rw [List.foldl_cons, ih, mem_insertAscending, List.mem_cons, or_assoc, or_left_comm]

namespace LeafSet

variable {s : LeafSet}

theorem cut_lowerBound (ascending : s.leaves.Pairwise (· < ·)) (identifier : Bytes) :
    Cut s.leaves identifier (s.lowerBound identifier) := by
  apply cut_bisect ascending
  · exact Nat.zero_le _
  · exact Nat.le_refl _
  · intro i leaf _ place
    omega
  · intro i leaf found place
    have inside := (List.getElem?_eq_some_iff.mp found).1
    simp only [size] at place
    omega

theorem position?_eq_some_iff (ascending : s.leaves.Pairwise (· < ·)) {identifier : Bytes}
    {i : Nat} : s.position? identifier = some i ↔ s.leaves[i]? = some identifier := by
  have cut := cut_lowerBound ascending identifier
  constructor
  · intro found
    simp only [position?] at found
    split at found <;> simp_all
  · intro stored
    have lower : ¬ i < s.lowerBound identifier := fun before =>
      List.lt_irrefl _ (cut.below i identifier stored before)
    have upper : ¬ s.lowerBound identifier < i := by
      intro after
      have inside := (List.getElem?_eq_some_iff.mp stored).1
      have found := List.getElem?_eq_getElem (Nat.lt_trans after inside)
      exact cut.above _ _ found (Nat.le_refl _) (getElem?_lt_of_lt ascending found stored after)
    have same : s.lowerBound identifier = i := by omega
    simp [position?, same, stored]

theorem position?_eq_none_iff (ascending : s.leaves.Pairwise (· < ·)) {identifier : Bytes} :
    s.position? identifier = none ↔ identifier ∉ s.leaves := by
  rw [Option.eq_none_iff_forall_ne_some, List.mem_iff_getElem?, not_exists]
  simp only [ne_eq, position?_eq_some_iff ascending]

theorem contains_iff (ascending : s.leaves.Pairwise (· < ·)) {identifier : Bytes} :
    s.contains identifier = true ↔ identifier ∈ s.leaves := by
  rw [contains, Option.isSome_iff_ne_none, ne_eq, position?_eq_none_iff ascending]
  exact Decidable.not_not

theorem getElem?_lowerBound_iff (ascending : s.leaves.Pairwise (· < ·)) {identifier : Bytes} :
    s.leaves[s.lowerBound identifier]? = some identifier ↔ identifier ∈ s.leaves := by
  rw [← contains_iff ascending, contains, position?]
  split <;> simp [*]

theorem indexOf_eq_ok_iff (ascending : s.leaves.Pairwise (· < ·)) {identifier : Bytes}
    {i : Nat} : s.indexOf identifier = .ok i ↔ s.leaves[i]? = some identifier := by
  rw [← position?_eq_some_iff ascending, indexOf]
  cases s.position? identifier <;> simp

theorem indexOf_of_not_mem (ascending : s.leaves.Pairwise (· < ·)) {identifier : Bytes}
    (absent : identifier ∉ s.leaves) :
    s.indexOf identifier = .error (.leafNotFound identifier) := by
  rw [indexOf, (position?_eq_none_iff ascending).mpr absent]

end LeafSet

end AnchoredSet
