import AnchoredSet.Proofs.Inclusion
import AnchoredSet.Proofs.Neighbor

/-!
Places by counting. Halving gives the number of members below an identifier, and the scan the number
of those that are not above it; so the two differ at members alone, by one, and a new member stands
where the scan has put it.
-/

namespace AnchoredSet

theorem countP_eq_of_parts {α : Type} {passes : α → Bool} {items : List α} {place : Nat}
    (bound : place ≤ items.length)
    (before : ∀ i item, items[i]? = some item → i < place → passes item = true)
    (after : ∀ i item, items[i]? = some item → place ≤ i → ¬ passes item = true) :
    items.countP passes = place := by
  have front : (items.take place).countP passes = (items.take place).length := by
    apply List.countP_eq_length.mpr
    intro item member
    rcases exists_of_mem_take member with ⟨i, found, inside⟩
    exact before i item found inside
  have back : (items.drop place).countP passes = 0 := by
    apply List.countP_eq_zero.mpr
    intro item member
    rcases exists_of_mem_drop member with ⟨i, found, behind⟩
    exact after i item found behind
  calc
    items.countP passes = (items.take place ++ items.drop place).countP passes := by
      rw [List.take_append_drop]
    _ = (items.take place).length := by rw [List.countP_append, front, back, Nat.add_zero]
    _ = place := List.length_take_of_le bound

theorem Cut.countP_eq {leaves : List Bytes} {identifier : Bytes} {place : Nat}
    (cut : Cut leaves identifier place) :
    leaves.countP (fun leaf => decide (leaf < identifier)) = place := by
  apply countP_eq_of_parts cut.bound
  · intro i leaf found before
    exact decide_eq_true (cut.below i leaf found before)
  · intro i leaf found after
    simpa using cut.above i leaf found after

theorem countP_not_above (leaves : List Bytes) (identifier : Bytes) :
    leaves.countP (fun leaf => decide (¬ identifier < leaf)) =
      leaves.countP (fun leaf => decide (leaf < identifier)) + leaves.count identifier := by
  induction leaves with
  | nil => rfl
  | cons leaf rest ih =>
    rw [List.countP_cons, List.countP_cons, List.count_cons, ih]
    rcases Std.lt_trichotomy leaf identifier with below | same | above
    · have notAbove : ¬ identifier < leaf := List.lt_asymm below
      have differ : leaf ≠ identifier := Std.ne_of_lt below
      simp [below, notAbove, differ]
      omega
    · simp [same, List.lt_irrefl]
      omega
    · have notBelow : ¬ leaf < identifier := List.lt_asymm above
      have differ : leaf ≠ identifier := (Std.ne_of_lt above).symm
      simp [above, notBelow, differ]

namespace LeafSet

variable {s t : LeafSet}

theorem lowerBound_eq_countP (ascending : s.leaves.Pairwise (· < ·)) (identifier : Bytes) :
    s.lowerBound identifier = s.leaves.countP (fun leaf => decide (leaf < identifier)) :=
  (cut_lowerBound ascending identifier).countP_eq.symm

theorem insertionIndex_le (identifier : Bytes) : s.insertionIndex identifier ≤ s.leaves.length :=
  List.findIdx_le_length

/-- The scan stops at the first member above, and in an ascending list all behind it are above. -/
theorem insertionIndex_eq_countP (ascending : s.leaves.Pairwise (· < ·)) (identifier : Bytes) :
    s.insertionIndex identifier =
      s.leaves.countP (fun leaf => decide (¬ identifier < leaf)) := by
  symm
  apply countP_eq_of_parts (insertionIndex_le identifier)
  · intro i leaf found before
    rcases List.getElem?_eq_some_iff.mp found with ⟨_, rfl⟩
    simpa using List.not_of_lt_findIdx before
  · intro i leaf found after
    have inside := (List.getElem?_eq_some_iff.mp found).1
    have first := List.getElem?_eq_getElem (Nat.lt_of_le_of_lt after inside)
    have above := lt_of_insertionIndex first
    simp only [decide_eq_true_eq, Decidable.not_not]
    obtain same | behind : s.insertionIndex identifier = i ∨ s.insertionIndex identifier < i := by
      omega
    · subst same
      exact lt_of_insertionIndex found
    · exact List.lt_trans above (getElem?_lt_of_lt ascending first found behind)

theorem insertionIndex_eq_add (ascending : s.leaves.Pairwise (· < ·)) (identifier : Bytes) :
    s.insertionIndex identifier = s.lowerBound identifier + s.leaves.count identifier := by
  rw [insertionIndex_eq_countP ascending, lowerBound_eq_countP ascending, countP_not_above]

theorem insertionIndex_of_not_mem (ascending : s.leaves.Pairwise (· < ·)) {identifier : Bytes}
    (absent : identifier ∉ s.leaves) : s.insertionIndex identifier = s.lowerBound identifier := by
  rw [insertionIndex_eq_add ascending, List.count_eq_zero.mpr absent, Nat.add_zero]

theorem insertionIndex_of_mem (ascending : s.leaves.Pairwise (· < ·)) {identifier : Bytes}
    (member : identifier ∈ s.leaves) :
    s.insertionIndex identifier = s.lowerBound identifier + 1 := by
  rw [insertionIndex_eq_add ascending,
    List.count_eq_one_of_mem (nodup_of_ascending ascending) member]

theorem withLeaf_eq_ok (ascending : s.leaves.Pairwise (· < ·)) {value : Value} :
    s.withLeaf value = .ok t ↔ ∃ identifier, s.decode value = .ok identifier ∧
      identifier.isZero = false ∧ identifier ∉ s.leaves ∧
      t = { s with leaves := s.leaves.take (s.insertionIndex identifier) ++
        identifier :: s.leaves.drop (s.insertionIndex identifier) } := by
  rw [withLeaf, bind_eq_ok]
  apply exists_congr
  intro identifier
  apply and_congr_right
  intro _
  rw [insert_eq_ok, ne_eq, getElem?_lowerBound_iff ascending]
  apply and_congr_right
  intro _
  apply and_congr_right
  intro absent
  rw [insertionIndex_of_not_mem ascending absent]

theorem getElem?_insertionIndex (identifier : Bytes) :
    (s.leaves.take (s.insertionIndex identifier) ++
      identifier :: s.leaves.drop (s.insertionIndex identifier))[s.insertionIndex identifier]? =
        some identifier := by
  have front : (s.leaves.take (s.insertionIndex identifier)).length =
      s.insertionIndex identifier := List.length_take_of_le (insertionIndex_le identifier)
  rw [List.getElem?_append_right (Nat.le_of_eq front), front, Nat.sub_self]
  rfl

/-- Of any byte string, halving counts the members below it and the scan those not above it: the same
place for what is no member, and the next one for a member. Halving finds every member where it
stands, and a value that is taken in stands where the scan of the old set has put it. -/
theorem places_exact (canonical : s.Canonical) :
    (∀ identifier,
      s.lowerBound identifier = s.leaves.countP (fun leaf => decide (leaf < identifier)) ∧
      s.insertionIndex identifier =
        s.leaves.countP (fun leaf => decide (¬ identifier < leaf)) ∧
      (identifier ∉ s.leaves → s.insertionIndex identifier = s.lowerBound identifier) ∧
      (identifier ∈ s.leaves → s.insertionIndex identifier = s.lowerBound identifier + 1) ∧
      ∀ i, s.position? identifier = some i ↔ s.leaves[i]? = some identifier) ∧
    ∀ value t, s.withLeaf value = .ok t ↔ ∃ identifier, s.decode value = .ok identifier ∧
      identifier.isZero = false ∧ identifier ∉ s.leaves ∧
      t = { s with leaves := s.leaves.take (s.insertionIndex identifier) ++
        identifier :: s.leaves.drop (s.insertionIndex identifier) } ∧
      t.leaves[s.insertionIndex identifier]? = some identifier := by
  have ascending := canonical.ascending
  constructor
  · intro identifier
    refine ⟨lowerBound_eq_countP ascending identifier, insertionIndex_eq_countP ascending identifier,
      insertionIndex_of_not_mem ascending, insertionIndex_of_mem ascending, ?_⟩
    intro i
    exact position?_eq_some_iff ascending
  · intro value t
    constructor
    · intro taken
      rcases (withLeaf_eq_ok ascending).mp taken with ⟨identifier, decoded, nonzero, absent, rfl⟩
      exact ⟨identifier, decoded, nonzero, absent, rfl, getElem?_insertionIndex identifier⟩
    · rintro ⟨identifier, decoded, nonzero, absent, put, _⟩
      exact (withLeaf_eq_ok ascending).mpr ⟨identifier, decoded, nonzero, absent, put⟩

theorem places_exact_three :
    (Sample.leafSet.lowerBound [1, 0] = 1 ∧ Sample.leafSet.insertionIndex [1, 0] = 1) ∧
      (Sample.leafSet.lowerBound [3] = 1 ∧ Sample.leafSet.insertionIndex [3] = 2) ∧
      Sample.leafSet.position? [3] = some 1 ∧
      Sample.leafSet.withLeaf (.bytes .constant [4]) = .ok ⟨[[1], [3], [4], [5]], 1⟩ ∧
      Sample.leafSet.insertionIndex [4] = 2 := by
  have places := places_exact Sample.reachable.canonical
  have extension := (places.1 [1, 0]).1
  have member := places.1 [3]
  refine ⟨⟨extension, rfl⟩, ⟨member.1, rfl⟩, (member.2.2.2.2 1).mpr rfl, ?_, rfl⟩
  exact (places.2 _ _).mpr ⟨[4], rfl, rfl, by decide, rfl, rfl⟩

end LeafSet

end AnchoredSet
