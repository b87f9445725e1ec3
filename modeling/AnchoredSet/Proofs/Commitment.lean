import AnchoredSet.Proofs.Inclusion

/-!
What a root commits to: the members of a set, and the place of every identifier that a proof leads
from. Two sets have one root exactly when they have the same members and, without members, the same
length of identifiers.
-/

namespace AnchoredSet

namespace Sample

def front : LeafSet := ⟨[[1], [3]], 1⟩

theorem canonical_front : front.Canonical := ⟨by decide, by decide, by decide⟩

theorem levels_front : front.levels = .ok [[hashLeaf [1], hashLeaf [3]], [left]] := by
  simp [front, LeafSet.levels, LeafSet.isEmpty, Levels.build, climb, evenOut, pairUp, left, pure,
    Except.pure]

theorem texts_front : Levels.texts front.leaves front.identifierLength.toNat ⊆ texts := by
  simp [front, Levels.texts, climbTexts, evenOut, pairUp, pairTexts, texts]

end Sample

namespace LeafSet

variable {s t : LeafSet} {levels levels' : Levels} {root root' : Bytes}

theorem Canonical.zeros_not_mem (canonical : s.Canonical) (count : Nat) :
    Bytes.zeros count ∉ s.leaves := by
  intro member
  have nonzero := canonical.nonzero _ member
  rw [Bytes.isZero_zeros] at nonzero
  cases nonzero

theorem nonneg_of_levels_eq_ok (built : s.levels = .ok levels) (empty : s.leaves = []) :
    0 ≤ s.identifierLength :=
  (Identifier.requireCount_eq_ok.mp
    ((LeafSet.levels_eq_ok.mp built).1 (List.isEmpty_iff.mpr empty))).1

theorem Canonical.slots_ne_of_empty (canonical : t.Canonical) (filled : t.leaves ≠ [])
    (empty : s.leaves = []) : s.slots ≠ t.slots := by
  rw [slots_of_empty empty, slots_of_ne_nil filled]
  intro same
  have lacking := canonical.zeros_not_mem s.identifierLength.toNat
  rw [← same] at lacking
  exact lacking (List.mem_singleton_self _)

theorem zeros_toNat_inj {m n : Int} (nonneg : 0 ≤ m) (nonneg' : 0 ≤ n) :
    Bytes.zeros m.toNat = Bytes.zeros n.toNat ↔ m = n := by
  simp only [Bytes.zeros, List.replicate_inj, or_true, and_true]
  omega

theorem slots_eq_iff (canonical : s.Canonical) (canonical' : t.Canonical)
    (nonneg : s.leaves = [] → 0 ≤ s.identifierLength)
    (nonneg' : t.leaves = [] → 0 ≤ t.identifierLength) :
    s.slots = t.slots ↔
      s.leaves = t.leaves ∧ (s.leaves = [] → s.identifierLength = t.identifierLength) := by
  by_cases empty : s.leaves = []
  · by_cases empty' : t.leaves = []
    · have zeros := zeros_toNat_inj (nonneg empty) (nonneg' empty')
      simp [slots_of_empty empty, slots_of_empty empty', empty, empty', zeros]
    · have apart := canonical'.slots_ne_of_empty empty' empty
      simp [apart, empty, Ne.symm empty']
  · by_cases empty' : t.leaves = []
    · have apart := canonical.slots_ne_of_empty empty empty'
      simp [apart.symm, empty, empty']
    · simp [slots_of_ne_nil empty, slots_of_ne_nil empty', empty]

theorem root_eq_iff_slots_eq {texts : List Bytes} (free : CollisionFree texts)
    (nodup : s.leaves.Nodup) (nodup' : t.leaves.Nodup)
    (inside : Levels.texts s.leaves s.identifierLength.toNat ⊆ texts)
    (inside' : Levels.texts t.leaves t.identifierLength.toNat ⊆ texts)
    (rooted : (Levels.build s.leaves s.identifierLength.toNat).root? = some root)
    (rooted' : (Levels.build t.leaves t.identifierLength.toNat).root? = some root') :
    root = root' ↔ s.slots = t.slots := by
  rw [root?_build_slots, Option.some.injEq] at rooted rooted'
  rw [← rooted, ← rooted']
  constructor
  · intro same
    exact (((hashed_slots nodup).mono inside).inj free ((hashed_slots nodup').mono inside') same).2
  · intro same
    rw [same]

/-- Sets with one root have the same members and, without members, the same length of
identifiers. -/
theorem root_eq_iff_leaves_eq (canonical : s.Canonical) (canonical' : t.Canonical)
    (built : s.levels = .ok levels) (built' : t.levels = .ok levels')
    (rooted : levels.root? = some root) (rooted' : levels'.root? = some root')
    (free : CollisionFree (Levels.texts s.leaves s.identifierLength.toNat ++
      Levels.texts t.leaves t.identifierLength.toNat)) :
    root = root' ↔
      s.leaves = t.leaves ∧ (s.leaves = [] → s.identifierLength = t.identifierLength) := by
  have nodup := nodup_of_ascending canonical.ascending
  have nodup' := nodup_of_ascending canonical'.ascending
  rw [(LeafSet.levels_eq_ok.mp built).2] at rooted
  rw [(LeafSet.levels_eq_ok.mp built').2] at rooted'
  rw [root_eq_iff_slots_eq free nodup nodup' (List.subset_append_left _ _)
    (List.subset_append_right _ _) rooted rooted']
  exact slots_eq_iff canonical canonical' (nonneg_of_levels_eq_ok built)
    (nonneg_of_levels_eq_ok built')

theorem root_eq_iff_leaves_eq_front : Sample.root ≠ Sample.left := by
  have iff := root_eq_iff_leaves_eq Sample.reachable.canonical Sample.canonical_front
    Sample.levels_eq Sample.levels_front Sample.root?_levels rfl
    (Sample.collisionFree Sample.texts_front)
  exact fun same => absurd (iff.mp same).1 (by decide)

end LeafSet

/-- A proof that leads to the root of a set with members, whatever its siblings and sides, tells the
one place of its identifier among them, and keeps to the right edge exactly for the last of them. -/
theorem leafPosition_of_root {s : LeafSet} (canonical : s.Canonical) (filled : s.leaves ≠ [])
    {levels : Levels} (built : s.levels = .ok levels) {root : Bytes}
    (rooted : levels.root? = some root) (x : Bytes) (proof : InclusionProof)
    (free : CollisionFree
      (Levels.texts s.leaves s.identifierLength.toNat ++ Fold.texts x proof))
    (leads : computeRoot x proof = root) :
    (∀ i, s.leaves[i]? = some x ↔ i = leafPosition x proof) ∧
      s.indexOf x = .ok (leafPosition x proof) ∧
      (isRightmost x proof = true ↔ s.leaves.getLast? = some x) := by
  have ascending := canonical.ascending
  have nodup := nodup_of_ascending ascending
  rw [(LeafSet.levels_eq_ok.mp built).2] at rooted
  have opens := LeafSet.opens_of_root free nodup rooted (List.subset_append_left _ _)
    (List.subset_append_right _ _) leads
  rw [LeafSet.slots_of_ne_nil filled] at opens
  have found := opens.found
  have only : ∀ i, s.leaves[i]? = some x ↔ i = leafPosition x proof := by
    intro i
    constructor
    · intro stored
      have inside := (List.getElem?_eq_some_iff.mp stored).1
      exact (List.getElem?_inj inside nodup).mp (stored.trans found.symm)
    · rintro rfl
      exact found
  refine ⟨only, (LeafSet.indexOf_eq_ok_iff ascending).mpr found, ?_⟩
  have some := List.length_pos_iff.mpr filled
  rw [opens.rightmost, List.getLast?_eq_getElem?, only]
  omega

theorem leafPosition_of_root_copy : computeRoot [5] Sample.copy = Sample.root ∧
    leafPosition [5] Sample.copy = 2 ∧ isRightmost [5] Sample.copy = true := by
  have position := leafPosition_of_root Sample.reachable.canonical (by decide) Sample.levels_eq
    Sample.root?_levels [5] Sample.copy (Sample.collisionFree Sample.texts_copy)
    Sample.computeRoot_copy
  exact ⟨Sample.computeRoot_copy, ((position.1 2).mp rfl).symm, position.2.2.mpr rfl⟩

end AnchoredSet
