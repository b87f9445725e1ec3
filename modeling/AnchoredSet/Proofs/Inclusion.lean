import AnchoredSet.Proofs.Path

/-!
Proofs of membership. A proof that is accepted against the root of a set is a proof of a member, of
the length of the tree's depth; a tree hands out an accepted proof for every member and for nothing
else.
-/

namespace AnchoredSet

/-! A set of three members, the last of which is also hashed as its own copy. -/

namespace Sample

def leafSet : LeafSet := ⟨[[1], [3], [5]], 1⟩

def values : List Value :=
  [.bytes .constant [5], .bytes .buffer [3], .bytes .view [1], .bytes .constant [5]]

def left : Bytes := hashNode (hashLeaf [1]) (hashLeaf [3])

def right : Bytes := hashNode (hashLeaf [5]) (hashLeaf [5])

def root : Bytes := hashNode left right

def levels : Levels :=
  [[hashLeaf [1], hashLeaf [3], hashLeaf [5], hashLeaf [5]], [left, right], [root]]

def texts : List Bytes :=
  [leafText [1], leafText [3], leafText [5], nodeText (hashLeaf [1]) (hashLeaf [3]),
    nodeText (hashLeaf [5]) (hashLeaf [5]), nodeText left right]

def copy : InclusionProof := [⟨hashLeaf [5], false⟩, ⟨left, false⟩]

theorem reachable : leafSet.Reachable :=
  .ofIdentifiers (Int.zero_le_ofNat 1)
    (show LeafSet.ofIdentifiers values 1 = .ok leafSet from rfl)

theorem levels_eq : leafSet.levels = .ok levels := by
  simp [leafSet, LeafSet.levels, LeafSet.isEmpty, Levels.build, climb, evenOut, pairUp, levels,
    left, right, root, pure, Except.pure]

theorem root?_levels : levels.root? = some root := by
  simp [levels, Levels.root?]

theorem texts_eq : Levels.texts leafSet.leaves leafSet.identifierLength.toNat = texts := by
  simp [leafSet, Levels.texts, climbTexts, evenOut, pairUp, pairTexts, left, right, texts]

theorem texts_copy : Fold.texts [5] copy ⊆ texts := by
  simp [Fold.texts, Fold.stepTexts, Fold.stepText, Fold.step, Fold.start, copy, texts, right]

theorem computeRoot_copy : computeRoot [5] copy = root := by
  simp only [computeRoot, Fold.run, copy, List.foldl_cons, List.foldl_nil, Fold.hash_step,
    Fold.stepText, Bool.false_eq_true, if_false]
  rfl

theorem nodup_digests : (texts.map keccak256).Nodup := by decide +kernel

theorem collisionFree {folded : List Bytes} (inside : folded ⊆ texts) : CollisionFree
    (Levels.texts leafSet.leaves leafSet.identifierLength.toNat ++ folded) := by
  apply collisionFree_of_nodup nodup_digests
  rw [texts_eq]
  exact List.append_subset.mpr ⟨List.Subset.refl _, inside⟩

theorem created :
    (Tree.create values leafSet.identifierLength).result = .ok (Tree.ofLeafSet leafSet) :=
  rfl

end Sample

/-- An accepted proof of any shape is one of a member, or the empty one of the placeholder of an
empty set. -/
theorem verifyInclusion_sound {s : LeafSet} (canonical : s.Canonical) {levels : Levels}
    (built : s.levels = .ok levels) {root : Bytes} (rooted : levels.root? = some root) (x : Bytes)
    (proof : InclusionProof)
    (free : CollisionFree
      (Levels.texts s.leaves s.identifierLength.toNat ++ Fold.texts x proof))
    (accepted : verifyInclusion x proof root = true) :
    proof.length = levels.depth ∧ (∀ sibling ∈ proof, sibling.node.length = digestLength) ∧
      (x ∈ s.leaves ∨
        s.leaves = [] ∧ x = Bytes.zeros s.identifierLength.toNat ∧ proof = []) := by
  rcases LeafSet.levels_eq_ok.mp built with ⟨_, rfl⟩
  have opens := LeafSet.opens_of_root free (nodup_of_ascending canonical.ascending) rooted
    (List.subset_append_left _ _) (List.subset_append_right _ _) (of_decide_eq_true accepted)
  refine ⟨opens.length, opens.sized, ?_⟩
  rcases LeafSet.mem_slots.mp (List.mem_of_getElem? opens.found) with member | ⟨empty, zeros⟩
  · exact .inl member
  · have length := opens.length
    rw [empty] at length
    exact .inr ⟨empty, zeros, List.length_eq_zero_iff.mp length⟩

theorem verifyInclusion_sound_copy :
    verifyInclusion [5] Sample.copy Sample.root = true ∧ [5] ∈ Sample.leafSet.leaves := by
  have accepted : verifyInclusion [5] Sample.copy Sample.root = true :=
    decide_eq_true Sample.computeRoot_copy
  have sound := verifyInclusion_sound Sample.reachable.canonical Sample.levels_eq
    Sample.root?_levels [5] Sample.copy (Sample.collisionFree Sample.texts_copy) accepted
  rcases sound.2.2 with member | ⟨empty, _⟩
  · exact ⟨accepted, member⟩
  · cases empty

/-- A tree, however it was made and changed, has a proof of exactly its members, and the proof leads
to its root. -/
theorem inclusionProof_complete {tree : Tree} (reached : tree.Reachable) {value : Value}
    {identifier : Bytes} (decoded : tree.decode value = .ok identifier) (useDuplicate : Bool) :
    ((∃ proof, (tree.inclusionProof value useDuplicate).result = .ok proof) ↔
      identifier ∈ tree.rawLeaves) ∧
    (identifier ∉ tree.rawLeaves →
      (tree.inclusionProof value useDuplicate).result = .error (.leafNotFound identifier)) ∧
    ∀ proof, (tree.inclusionProof value useDuplicate).result = .ok proof →
      proof.length = tree.depth ∧ (∀ sibling ∈ proof, sibling.node.length = digestLength) ∧
        tree.root? = some (computeRoot identifier proof) := by
  rcases reached.canonical with ⟨reached, shape⟩
  have ascending := reached.canonical.ascending
  have read : tree.inclusionProof value useDuplicate =
      tree.inclusionProofOf identifier useDuplicate := by
    rw [Tree.inclusionProof, decoded]
  rw [read, shape]
  by_cases member : identifier ∈ tree.leafSet.leaves
  · rcases exists_inclusionProofOf ascending member useDuplicate with ⟨proof, ok, handed⟩
    rw [ok]
    refine ⟨⟨fun _ => member, fun _ => ⟨proof, rfl⟩⟩, fun absent => absurd member absent, ?_⟩
    rintro _ ⟨rfl⟩
    exact ⟨handed.length, handed.sized, handed.root⟩
  · rw [inclusionProofOf_of_not_mem ascending member]
    refine ⟨⟨?_, fun present => absurd present member⟩, fun _ => rfl, ?_⟩
    · rintro ⟨_, ⟨⟩⟩
    · rintro _ ⟨⟩

theorem inclusionProof_complete_copy : ∃ proof,
    ((Tree.ofLeafSet Sample.leafSet).inclusionProof (.bytes .constant [5]) true).result =
      .ok proof ∧ proof.length = (Tree.ofLeafSet Sample.leafSet).depth := by
  have decoded : (Tree.ofLeafSet Sample.leafSet).decode (.bytes .constant [5]) = .ok [5] := rfl
  have complete := inclusionProof_complete (.create Sample.created) decoded true
  rcases complete.1.mpr (by decide) with ⟨proof, ok⟩
  exact ⟨proof, ok, (complete.2.2 proof ok).1⟩

end AnchoredSet
