import AnchoredSet.Proofs.Inclusion
import AnchoredSet.Proofs.Neighbor

/-!
Proofs of absence. An accepted one is of an identifier that is no member, whatever its siblings,
sides and neighbors; a tree hands out an accepted one for every identifier that is no member.
-/

namespace AnchoredSet

section Verify

variable {identifier neighbor lower upper root : Bytes}
  {proof lowerProof upperProof : InclusionProof}

theorem verifyOutside_eq_true : verifyOutside identifier neighbor proof root = true ↔
    neighbor.length = identifier.length ∧ computeRoot neighbor proof = root ∧
      (neighbor.isZero = true ∧ proof = [] ∨
        identifier < neighbor ∧ leafPosition neighbor proof = 0 ∨
        neighbor < identifier ∧ isRightmost neighbor proof = true) := by
  rw [verifyOutside]
  by_cases sized : neighbor.length = identifier.length
  · rw [if_neg (not_not.mpr sized)]
    by_cases empty : neighbor.isZero = true ∧ proof = []
    · rcases empty with ⟨zero, rfl⟩
      have leaf : computeRoot neighbor [] = hashLeaf neighbor := rfl
      simp [sized, zero, leaf]
    · rw [if_neg (by simpa using empty)]
      by_cases leads : computeRoot neighbor proof = root
      · rw [if_neg (not_not.mpr leads)]
        by_cases below : identifier < neighbor
        · simp [sized, empty, leads, below, List.lt_asymm below]
        · by_cases above : neighbor < identifier
          · simp [sized, empty, leads, below, above]
          · simp [empty, below, above]
      · simp [leads]
  · simp [sized]

theorem verifyBetween_eq_true :
    verifyBetween identifier lower upper lowerProof upperProof root = true ↔
      (lower.length = identifier.length ∧ upper.length = identifier.length ∧
        lowerProof.length = upperProof.length) ∧ (lower < identifier ∧ identifier < upper) ∧
        (computeRoot lower lowerProof = root ∧ computeRoot upper upperProof = root) ∧
        leafPosition upper upperProof = leafPosition lower lowerProof + 1 := by
  simp only [verifyBetween, Bool.and_eq_true, decide_eq_true_eq]
  tauto

theorem verifyExclusion_eq_ok_true {proofs : List InclusionProof} {neighbors : List Bytes} :
    verifyExclusion identifier proofs neighbors root = .ok true ↔
      (∃ proof neighbor, proofs = [proof] ∧ neighbors = [neighbor] ∧
        verifyOutside identifier neighbor proof root = true) ∨
      ∃ lowerProof upperProof lower upper, proofs = [lowerProof, upperProof] ∧
        neighbors = [lower, upper] ∧
        verifyBetween identifier lower upper lowerProof upperProof root = true := by
  unfold verifyExclusion
  split
  · simp
  · simp
  · rename_i proofs neighbors notOne notTwo
    constructor
    · intro accepted
      split at accepted <;> cases accepted
    · rintro (⟨proof, neighbor, rfl, rfl, _⟩ | ⟨_, _, lower, upper, rfl, rfl, _⟩)
      · exact (notOne proof neighbor rfl rfl).elim
      · exact (notTwo _ _ lower upper rfl rfl).elim

end Verify

section Gap

variable {leaves : List Bytes} {height other : Nat} {identifier neighbor lower upper : Bytes}
  {proof lowerProof upperProof : InclusionProof}

theorem Opens.not_mem_outside (ascending : leaves.Pairwise (· < ·))
    (opens : Opens leaves height neighbor proof)
    (outside : identifier < neighbor ∧ leafPosition neighbor proof = 0 ∨
      neighbor < identifier ∧ isRightmost neighbor proof = true) : identifier ∉ leaves := by
  have found := opens.found
  rcases outside with ⟨below, first⟩ | ⟨above, last⟩
  · rw [first] at found
    apply not_mem_of_gap ascending (Nat.zero_le _)
    · intro leaf positive
      omega
    · intro leaf stored
      rwa [← Option.some.inj (found.symm.trans stored)]
  · have place := opens.rightmost.mp last
    apply not_mem_of_gap ascending place.le
    · intro leaf _ stored
      rw [Nat.add_sub_cancel] at stored
      rwa [← Option.some.inj (found.symm.trans stored)]
    · intro leaf stored
      have inside := (List.getElem?_eq_some_iff.mp stored).1
      omega

theorem Opens.not_mem_between (ascending : leaves.Pairwise (· < ·))
    (left : Opens leaves height lower lowerProof) (right : Opens leaves other upper upperProof)
    (above : lower < identifier) (below : identifier < upper)
    (next : leafPosition upper upperProof = leafPosition lower lowerProof + 1) :
    identifier ∉ leaves := by
  have found := left.found
  have found' := right.found
  rw [next] at found'
  apply not_mem_of_gap ascending (List.getElem?_eq_some_iff.mp found').1.le
  · intro leaf _ stored
    rw [Nat.add_sub_cancel] at stored
    rwa [← Option.some.inj (found.symm.trans stored)]
  · intro leaf stored
    rwa [← Option.some.inj (found'.symm.trans stored)]

end Gap

theorem LeafSet.Reachable.length_of_mem_slots {s : LeafSet} (reached : s.Reachable) {x : Bytes}
    (member : x ∈ s.slots) : (x.length : Int) = s.identifierLength := by
  rcases LeafSet.mem_slots.mp member with member | ⟨_, rfl⟩
  · exact reached.canonical.sized x member
  · rw [Bytes.length_zeros, Int.toNat_of_nonneg reached.nonneg]

/-- An accepted proof of absence, of any shape, is of an identifier of the set's length that is no
member. -/
theorem verifyExclusion_sound {s : LeafSet} (reached : s.Reachable) {levels : Levels}
    (built : s.levels = .ok levels) {root : Bytes} (rooted : levels.root? = some root)
    (identifier : Bytes) (proofs : List InclusionProof) (neighbors : List Bytes)
    (free : CollisionFree
      (Levels.texts s.leaves s.identifierLength.toNat ++ exclusionTexts proofs neighbors))
    (accepted : verifyExclusion identifier proofs neighbors root = .ok true) :
    (identifier.length : Int) = s.identifierLength ∧ identifier ∉ s.leaves := by
  rcases LeafSet.levels_eq_ok.mp built with ⟨_, rfl⟩
  have ascending := reached.canonical.ascending
  have open_of {neighbor : Bytes} {proof : InclusionProof}
      (folded : Fold.texts neighbor proof ⊆ exclusionTexts proofs neighbors)
      (leads : computeRoot neighbor proof = root) :=
    LeafSet.opens_of_root free (nodup_of_ascending ascending) rooted
      (List.subset_append_left _ _) (List.subset_append_of_subset_right _ folded) leads
  rcases verifyExclusion_eq_ok_true.mp accepted with
    ⟨proof, neighbor, rfl, rfl, outside⟩ |
    ⟨lowerProof, upperProof, lower, upper, rfl, rfl, between⟩
  · rcases verifyOutside_eq_true.mp outside with ⟨sized, leads, place⟩
    have opens := open_of (by simp [exclusionTexts]) leads
    have slot := List.mem_of_getElem? opens.found
    refine ⟨sized ▸ reached.length_of_mem_slots slot, ?_⟩
    by_cases empty : s.leaves = []
    · simp [empty]
    · rw [LeafSet.slots_of_ne_nil empty] at opens slot
      -- A stored member is not all zero, so it is not accepted as the placeholder.
      refine opens.not_mem_outside ascending (place.resolve_left ?_)
      rintro ⟨zero, _⟩
      simp [reached.canonical.nonzero neighbor slot] at zero
  · obtain ⟨⟨sized, _, _⟩, ⟨above, below⟩, ⟨leads, leads'⟩, next⟩ :=
      verifyBetween_eq_true.mp between
    have left := open_of (by simp [exclusionTexts]) leads
    have right := open_of (by simp [exclusionTexts]) leads'
    refine ⟨sized ▸ reached.length_of_mem_slots (List.mem_of_getElem? left.found), ?_⟩
    by_cases empty : s.leaves = []
    · simp [empty]
    · rw [LeafSet.slots_of_ne_nil empty] at left right
      exact left.not_mem_between ascending right above below next

theorem verifyExclusion_sound_copy :
    verifyExclusion [6] [Sample.copy] [[5]] Sample.root = .ok true ∧
      [6] ∉ Sample.leafSet.leaves := by
  have outside : verifyOutside [6] [5] Sample.copy Sample.root = true :=
    verifyOutside_eq_true.mpr ⟨rfl, Sample.computeRoot_copy, .inr (.inr ⟨by decide, rfl⟩)⟩
  have accepted : verifyExclusion [6] [Sample.copy] [[5]] Sample.root = .ok true :=
    verifyExclusion_eq_ok_true.mpr (.inl ⟨Sample.copy, [5], rfl, rfl, outside⟩)
  have sound := verifyExclusion_sound Sample.reachable Sample.levels_eq Sample.root?_levels [6]
    [Sample.copy] [[5]] (Sample.collisionFree (by simpa [exclusionTexts] using Sample.texts_copy))
    accepted
  exact ⟨accepted, sound.2⟩

section Complete

variable {s : LeafSet} {identifier root : Bytes}

theorem exists_opening (ascending : s.leaves.Pairwise (· < ·))
    (free : CollisionFree (Levels.texts s.leaves s.identifierLength.toNat))
    (rooted : (Tree.ofLeafSet s).root? = some root) {i : Nat} {x : Bytes}
    (stored : s.leaves[i]? = some x) (useDuplicate : Bool) :
    ∃ proof, (Tree.ofLeafSet s).inclusionProofOf x useDuplicate = ⟨.ok proof, []⟩ ∧
      proof.length = (Tree.ofLeafSet s).depth ∧ computeRoot x proof = root ∧
      leafPosition x proof = i ∧ (isRightmost x proof = true ↔ i + 1 = s.leaves.length) := by
  have member := List.mem_of_getElem? stored
  have nodup := nodup_of_ascending ascending
  rcases exists_inclusionProofOf ascending member useDuplicate with ⟨proof, ok, handed⟩
  have opens := LeafSet.opens_of_root free nodup handed.root (List.Subset.refl _) handed.texts rfl
  rw [LeafSet.slots_of_ne_nil (List.ne_nil_of_mem member)] at opens
  have position : leafPosition x proof = i := opens.leafPosition_eq nodup stored
  exact ⟨proof, ok, handed.length, Option.some.inj (handed.root.symm.trans rooted), position,
    position ▸ opens.rightmost⟩

/-- What a tree puts together to exclude an identifier. -/
structure Excludes (tree : Tree) (identifier root : Bytes) (neighbors : List Bytes)
    (proofs : List InclusionProof) : Prop where
  count : neighbors.length = proofs.length
  few : proofs.length = 1 ∨ proofs.length = 2
  length : ∀ proof ∈ proofs, proof.length = tree.depth
  sized : ∀ neighbor ∈ neighbors, neighbor.length = identifier.length
  accepted : verifyExclusion identifier proofs neighbors root = .ok true

theorem excludes_outside {tree : Tree} {neighbor : Bytes} {proof : InclusionProof}
    (length : proof.length = tree.depth) (sized : neighbor.length = identifier.length)
    (leads : computeRoot neighbor proof = root)
    (place : neighbor.isZero = true ∧ proof = [] ∨
        identifier < neighbor ∧ leafPosition neighbor proof = 0 ∨
        neighbor < identifier ∧ isRightmost neighbor proof = true) :
    Excludes tree identifier root [neighbor] [proof] where
  count := rfl
  few := .inl rfl
  length := by simpa using length
  sized := by simpa using sized
  accepted := verifyExclusion_eq_ok_true.mpr (.inl ⟨proof, neighbor, rfl, rfl,
    verifyOutside_eq_true.mpr ⟨sized, leads, place⟩⟩)

theorem Tree.neighborProofs_cons {tree : Tree} {neighbor : Bytes} {role : Role}
    {rest : List (Bytes × Role)} {proof : InclusionProof} {proofs : List InclusionProof}
    (first : tree.neighborProof neighbor role = ⟨.ok proof, []⟩)
    (others : tree.neighborProofs rest = ⟨.ok proofs, []⟩) :
    tree.neighborProofs ((neighbor, role) :: rest) = ⟨.ok (proof :: proofs), []⟩ := by
  rw [Tree.neighborProofs, first]
  simp only [others]
  rfl

theorem exists_neighborProofs (canonical : s.Canonical)
    (free : CollisionFree (Levels.texts s.leaves s.identifierLength.toNat))
    (rooted : (Tree.ofLeafSet s).root? = some root)
    (sized : (identifier.length : Int) = s.identifierLength) {located : List (Bytes × Role)}
    (enclosed : Enclosed s identifier located) :
    ∃ proofs, (Tree.ofLeafSet s).neighborProofs located = ⟨.ok proofs, []⟩ ∧
      Excludes (Tree.ofLeafSet s) identifier root (located.map Prod.fst) proofs := by
  have opening := @exists_opening s root canonical.ascending free rooted
  have length_of : ∀ {i : Nat} {leaf : Bytes}, s.leaves[i]? = some leaf →
      leaf.length = identifier.length := by
    intro i leaf stored
    have := canonical.sized leaf (List.mem_of_getElem? stored)
    omega
  cases enclosed with
  | empty none =>
    refine ⟨[[]], rfl, excludes_outside ?_ ?_ ?_ (.inl ⟨Bytes.isZero_zeros _, rfl⟩)⟩
    · rw [Tree.ofLeafSet, none]
      rfl
    · rw [Bytes.length_zeros]
      omega
    · rw [Tree.ofLeafSet, none] at rooted
      exact Option.some.inj rooted
  | first stored below =>
    rcases opening stored false with ⟨proof, ok, length, leads, position, _⟩
    refine ⟨[proof], Tree.neighborProofs_cons ok rfl,
      excludes_outside length (length_of stored) leads ?_⟩
    exact .inr (.inl ⟨below, position⟩)
  | last stored above =>
    rcases opening stored true with ⟨proof, ok, length, leads, _, rightmost⟩
    have inside := (List.getElem?_eq_some_iff.mp stored).1
    refine ⟨[proof], Tree.neighborProofs_cons ok rfl,
      excludes_outside length (length_of stored) leads ?_⟩
    refine .inr (.inr ⟨above, rightmost.mpr ?_⟩)
    simp only [LeafSet.size] at inside ⊢
    omega
  | interior left right above below =>
    rename_i lower upper
    rcases opening left false with ⟨proof, ok, length, leads, position, _⟩
    rcases opening right false with ⟨proof', ok', length', leads', position', _⟩
    refine ⟨[proof, proof'], Tree.neighborProofs_cons ok (Tree.neighborProofs_cons ok' rfl), rfl,
      .inr rfl, ?_, ?_, ?_⟩
    · simp [length, length']
    · simp [length_of left, length_of right]
    · refine verifyExclusion_eq_ok_true.mpr (.inr ⟨proof, proof', lower, upper, rfl, rfl, ?_⟩)
      exact verifyBetween_eq_true.mpr ⟨⟨length_of left, length_of right, length.trans length'.symm⟩,
        ⟨above, below⟩, ⟨leads, leads'⟩, by rw [position, position']⟩

end Complete

theorem readNeighbors_of_sized {neighbors : List Bytes} {length : Int}
    (sized : ∀ neighbor ∈ neighbors, (neighbor.length : Int) = length) :
    readNeighbors (neighbors.map (Value.bytes .constant)) length = .ok neighbors := by
  have read : (neighbors.map (Value.bytes .constant)).mapM
      (fun value => Identifier.ofValue value length) = .ok neighbors := by
    rw [mapM_eq_ok_iff, List.map_map]
    refine List.map_congr_left fun neighbor member => ?_
    exact Identifier.ofValue_eq_ok.mpr ⟨rfl, sized neighbor member⟩
  rw [readNeighbors, read]
  rfl

theorem Tree.checkExclusion_of_accepted {tree : Tree} {value : Value} {identifier root : Bytes}
    {proof : ExclusionProof} (rooted : tree.root? = some root)
    (decoded : tree.decode value = .ok identifier)
    (sized : ∀ neighbor ∈ proof.neighbors,
      (neighbor.length : Int) = tree.leafSet.identifierLength)
    (accepted : verifyExclusion identifier proof.proofs proof.neighbors root = .ok true) :
    (tree.checkExclusion value proof none).result = .ok true := by
  have decoded : Identifier.decode value tree.leafSet.identifierLength = .ok identifier := decoded
  have read := readNeighbors_of_sized sized
  simp only [Tree.checkExclusion, AnchoredSet.checkExclusion, rooted, Option.map_some,
    Option.orElse_none, decoded, read, readRoot, accepted, mapError_ok, bind, Except.bind, pure,
    Except.pure]

/-- For every identifier of its length that is no member, and for no member, a tree has a proof of
absence that it accepts. -/
theorem exclusionProof_complete {tree : Tree} (reached : tree.Reachable) {value : Value}
    {identifier : Bytes} (decoded : tree.decode value = .ok identifier)
    (free : CollisionFree
      (Levels.texts tree.leafSet.leaves tree.leafSet.identifierLength.toNat)) :
    (identifier ∈ tree.rawLeaves →
      (tree.exclusionProof value).result = .error (.leafAlreadyPresent identifier)) ∧
    (identifier ∉ tree.rawLeaves → ∃ proof,
      (tree.exclusionProof value).result = .ok proof ∧
      proof.neighbors.length = proof.proofs.length ∧
      (proof.proofs.length = 1 ∨ proof.proofs.length = 2) ∧
      (∀ path ∈ proof.proofs, path.length = tree.depth) ∧
      ∀ presented, tree.decode presented = .ok identifier →
        (tree.checkExclusion presented proof none).result = .ok true) := by
  have placed : tree.leafSet.HasPlaceholder := fun _ => reached.countable
  rcases reached.canonical with ⟨reached, shape⟩
  have canonical := reached.canonical
  have sized := Identifier.length_of_decode decoded
  have read : tree.exclusionProof value = tree.exclusionProofOf identifier := by
    rw [Tree.exclusionProof, decoded]
  rw [read]
  constructor
  · intro member
    rw [Tree.exclusionProofOf, LeafSet.locate_of_mem canonical.ascending member]
  · intro absent
    rcases LeafSet.exists_locate canonical.ascending placed absent with ⟨located, found, enclosed⟩
    obtain ⟨root, rooted⟩ : ∃ root, (Tree.ofLeafSet tree.leafSet).root? = some root :=
      ⟨_, LeafSet.root?_build_slots tree.leafSet⟩
    obtain ⟨proofs, ok, excludes⟩ :=
      exists_neighborProofs canonical free rooted sized enclosed
    rw [← shape] at rooted ok excludes
    refine ⟨⟨proofs, located.map Prod.fst⟩, ?_, excludes.count, excludes.few, excludes.length, ?_⟩
    · simp only [Tree.exclusionProofOf, found, ok]
    · intro presented decoded
      apply Tree.checkExclusion_of_accepted rooted decoded _ excludes.accepted
      intro neighbor member
      rw [excludes.sized neighbor member, sized]

theorem exclusionProof_complete_between : ∃ proof,
    ((Tree.ofLeafSet Sample.leafSet).exclusionProof (.bytes .constant [4])).result = .ok proof ∧
      ((Tree.ofLeafSet Sample.leafSet).checkExclusion (.bytes .view [4]) proof none).result =
        .ok true := by
  have decoded : (Tree.ofLeafSet Sample.leafSet).decode (.bytes .constant [4]) = .ok [4] := rfl
  have free : CollisionFree (Levels.texts Sample.leafSet.leaves
      Sample.leafSet.identifierLength.toNat) :=
    collisionFree_of_nodup Sample.nodup_digests (Sample.texts_eq ▸ List.Subset.refl _)
  have complete := exclusionProof_complete (.create Sample.created) decoded free
  rcases complete.2 (by decide) with ⟨proof, ok, _, _, _, checked⟩
  exact ⟨proof, ok, checked _ rfl⟩

end AnchoredSet
