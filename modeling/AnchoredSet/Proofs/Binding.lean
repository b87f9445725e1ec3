import AnchoredSet.Proofs.Levels
import AnchoredSet.Verify
import Mathlib.Data.List.Basic
import Mathlib.Data.List.Induction
import Mathlib.Data.List.Nodup

/-!
What the hash of a tree binds when the texts hashed have different digests: the height and the
leaves of the tree, and of a proof that leads to it the length, the identifier, its position and
whether it is the last.
-/

namespace AnchoredSet

theorem collisionFree_of_nodup {texts all : List Bytes} (nodup : (all.map keccak256).Nodup)
    (subset : texts ⊆ all) : CollisionFree texts :=
  fun _ left _ right same => List.inj_on_of_nodup_map nodup (subset left) (subset right) same

theorem nodeText_inj {a b c d : Bytes} (sized : a.length = c.length ∨ b.length = d.length)
    (same : nodeText a b = nodeText c d) : a = c ∧ b = d := by
  have joined := (List.cons.inj same).2
  rcases sized with first | second
  · exact List.append_inj joined first
  · exact List.append_inj' joined second

theorem ne_of_nodup_append {front back : List Bytes} (nodup : (front ++ back).Nodup)
    (filled : front ≠ []) : front ≠ back := by
  rintro rfl
  rcases List.exists_mem_of_ne_nil _ filled with ⟨leaf, member⟩
  exact (List.nodup_append.mp nodup).2.2 leaf member leaf member rfl

/-- A tree of a height over different leaves, all of whose texts are among the given ones. -/
structure Hashed (texts : List Bytes) (height : Nat) (leaves : List Bytes) : Prop where
  filled : leaves ≠ []
  fits : leaves.length ≤ 2 ^ height
  nodup : leaves.Nodup
  inside : subtreeTexts height leaves ⊆ texts

namespace Hashed

variable {texts leaves members : List Bytes} {height other : Nat}

theorem mono {more : List Bytes} (hashed : Hashed texts height leaves) (subset : texts ⊆ more) :
    Hashed more height leaves :=
  ⟨hashed.filled, hashed.fits, hashed.nodup, List.Subset.trans hashed.inside subset⟩

theorem leaf (hashed : Hashed texts 0 leaves) :
    ∃ leaf, leaves = [leaf] ∧ leafText leaf ∈ texts := by
  rcases eq_singleton_of_fits hashed.filled hashed.fits with ⟨leaf, rfl⟩
  exact ⟨leaf, rfl, hashed.inside List.mem_cons_self⟩

theorem children (hashed : Hashed texts (height + 1) leaves) :
    ∃ left right, Hashed texts height left ∧ Hashed texts height right ∧
      nodeText (subtree height left) (subtree height right) ∈ texts ∧
      subtree (height + 1) leaves = hashNode (subtree height left) (subtree height right) ∧
      (leaves = left ∧ leaves = right ∨ leaves = left ++ right ∧ left.length = 2 ^ height) := by
  rcases hashed with ⟨filled, fits, nodup, inside⟩
  rcases halves fits with small | ⟨front, back, rfl, full, some, rest⟩
  · rw [subtreeTexts_half small, List.cons_subset] at inside
    have child : Hashed texts height leaves := ⟨filled, small, nodup, inside.2⟩
    exact ⟨leaves, leaves, child, child, inside.1, subtree_half small, .inl ⟨rfl, rfl⟩⟩
  · rw [subtreeTexts_append full some, List.cons_subset, List.append_subset] at inside
    rcases List.nodup_append.mp nodup with ⟨nodupFront, nodupBack, _⟩
    exact ⟨front, back, ⟨ne_nil_of_full full, full.le, nodupFront, inside.2.1⟩,
      ⟨some, rest, nodupBack, inside.2.2⟩, inside.1, subtree_append full some, .inr ⟨rfl, full⟩⟩

/-- Its hash binds the height and the leaves of a tree. -/
theorem inj (free : CollisionFree texts) (first : Hashed texts height leaves)
    (second : Hashed texts other members)
    (same : subtree height leaves = subtree other members) :
    height = other ∧ leaves = members := by
  induction height generalizing leaves other members with
  | zero =>
    rcases first.leaf with ⟨leaf, rfl, text⟩
    cases other with
    | zero =>
      rcases second.leaf with ⟨member, rfl, text'⟩
      rw [leafText_inj.mp (free _ text _ text' same)]
      exact ⟨rfl, rfl⟩
    | succ other =>
      rcases second.children with ⟨left, right, _, _, text', hash, _⟩
      exact absurd (free _ text _ text' (same.trans hash)) (leafText_ne_nodeText _ _ _)
  | succ height ih =>
    rcases first.children with ⟨left, right, hashedLeft, hashedRight, text, hash, parts⟩
    cases other with
    | zero =>
      rcases second.leaf with ⟨member, rfl, text'⟩
      exact absurd (free _ text' _ text (same.symm.trans hash)) (leafText_ne_nodeText _ _ _)
    | succ other =>
      rcases second.children with ⟨left', right', hashedLeft', hashedRight', text', hash', parts'⟩
      have joined := free _ text _ text' (hash.symm.trans (same.trans hash'))
      obtain ⟨sameLeft, sameRight⟩ :=
        nodeText_inj (.inl (by simp only [length_subtree])) joined
      rcases ih hashedLeft hashedLeft' sameLeft with ⟨rfl, rfl⟩
      rcases ih hashedRight hashedRight' sameRight with ⟨_, rfl⟩
      refine ⟨rfl, ?_⟩
      -- The children are one tree exactly when the leaves are not parted.
      rcases parts with ⟨rfl, own⟩ | ⟨rfl, _⟩
      · rcases parts' with ⟨rfl, _⟩ | ⟨rfl, _⟩
        · rfl
        · exact absurd own (ne_of_nodup_append second.nodup hashedLeft.filled)
      · rcases parts' with ⟨own, own'⟩ | ⟨rfl, _⟩
        · exact absurd (own.symm.trans own')
            (ne_of_nodup_append first.nodup hashedLeft.filled)
        · rfl

end Hashed

namespace Fold

theorem run_append_singleton (x : Bytes) (proof : InclusionProof) (sibling : Sibling) :
    run x (proof ++ [sibling]) = (run x proof).step sibling := by
  simp [run]

theorem stepTexts_append (fold : Fold) (front back : InclusionProof) :
    fold.stepTexts (front ++ back) =
      fold.stepTexts front ++ (front.foldl step fold).stepTexts back := by
  induction front generalizing fold with
  | nil => rfl
  | cons sibling rest ih => simp only [List.cons_append, stepTexts, ih, List.foldl_cons]

theorem texts_append_singleton (x : Bytes) (proof : InclusionProof) (sibling : Sibling) :
    texts x (proof ++ [sibling]) = texts x proof ++ [(run x proof).stepText sibling] := by
  simp only [texts, stepTexts_append, stepTexts, List.cons_append, run]

theorem hash_step (fold : Fold) (sibling : Sibling) :
    (fold.step sibling).hash = keccak256 (fold.stepText sibling) := by
  rw [step, stepText]
  split <;> rfl

theorem weight_step (fold : Fold) (sibling : Sibling) :
    (fold.step sibling).weight = 2 * fold.weight := by
  rw [step]
  split <;> rfl

@[simp] theorem length_hash_step (fold : Fold) (sibling : Sibling) :
    (fold.step sibling).hash.length = digestLength := by
  rw [hash_step, length_keccak256, digestLength]

end Fold

section Step

variable {x : Bytes} {proof : InclusionProof} {sibling : Sibling}

theorem weight_run (x : Bytes) (proof : InclusionProof) :
    (Fold.run x proof).weight = 2 ^ proof.length := by
  induction proof using List.reverseRecOn with
  | nil => rfl
  | append_singleton proof sibling ih =>
    rw [Fold.run_append_singleton, Fold.weight_step, ih, List.length_append, List.length_singleton,
      Nat.pow_succ']

theorem length_computeRoot (x : Bytes) (proof : InclusionProof) :
    (computeRoot x proof).length = digestLength := by
  rcases proof.eq_nil_or_concat' with rfl | ⟨proof, sibling, rfl⟩
  · exact length_hashLeaf x
  · rw [computeRoot, Fold.run_append_singleton, Fold.length_hash_step]

theorem step_self (self : sibling.node = computeRoot x proof) :
    leafPosition x (proof ++ [sibling]) = leafPosition x proof ∧
      isRightmost x (proof ++ [sibling]) = isRightmost x proof := by
  simp only [computeRoot] at self
  cases side : sibling.onRight <;>
    simp [leafPosition, isRightmost, Fold.run_append_singleton, Fold.step, side, self]

theorem step_right (other : sibling.node ≠ computeRoot x proof) (side : sibling.onRight = true) :
    leafPosition x (proof ++ [sibling]) = leafPosition x proof ∧
      isRightmost x (proof ++ [sibling]) = false := by
  simp only [computeRoot] at other
  simp [leafPosition, isRightmost, Fold.run_append_singleton, Fold.step, side, other]

theorem step_left (other : sibling.node ≠ computeRoot x proof) (side : sibling.onRight = false) :
    leafPosition x (proof ++ [sibling]) = leafPosition x proof + 2 ^ proof.length ∧
      isRightmost x (proof ++ [sibling]) = isRightmost x proof := by
  simp only [computeRoot] at other
  simp [leafPosition, isRightmost, Fold.run_append_singleton, Fold.step, side, other, weight_run]

end Step

/-- What a proof shows of an identifier in a tree of a height over some leaves. -/
structure Opens (leaves : List Bytes) (height : Nat) (x : Bytes) (proof : InclusionProof) :
    Prop where
  length : proof.length = height
  sized : ∀ sibling ∈ proof, sibling.node.length = digestLength
  found : leaves[leafPosition x proof]? = some x
  rightmost : isRightmost x proof = true ↔ leafPosition x proof + 1 = leaves.length

namespace Opens

variable {leaves front back : List Bytes} {height : Nat} {x : Bytes} {proof : InclusionProof}
  {sibling : Sibling}

theorem nil (x : Bytes) : Opens [x] 0 x [] where
  length := rfl
  sized := by simp
  found := rfl
  rightmost := by simp [isRightmost, leafPosition, Fold.run, Fold.start]

theorem leafPosition_eq (opens : Opens leaves height x proof) (nodup : leaves.Nodup) {i : Nat}
    (stored : leaves[i]? = some x) : leafPosition x proof = i := by
  have inside := (List.getElem?_eq_some_iff.mp opens.found).1
  exact (List.getElem?_inj inside nodup).mp (opens.found.trans stored.symm)

theorem sized_append (opens : Opens leaves height x proof)
    (sized : sibling.node.length = digestLength) :
    ∀ s ∈ proof ++ [sibling], s.node.length = digestLength := by
  intro s member
  rcases List.mem_append.mp member with before | last
  · exact opens.sized s before
  · rwa [List.mem_singleton.mp last]

theorem self (opens : Opens leaves height x proof)
    (self : sibling.node = computeRoot x proof) :
    Opens leaves (height + 1) x (proof ++ [sibling]) := by
  rcases step_self self with ⟨position, rightmost⟩
  refine ⟨?_, opens.sized_append (self ▸ length_computeRoot x proof), ?_, ?_⟩
  · simp [opens.length]
  · rw [position, opens.found]
  · rw [position, rightmost, opens.rightmost]

theorem right (opens : Opens front height x proof) (full : front.length = 2 ^ height)
    (some : back ≠ []) (sized : sibling.node.length = digestLength)
    (other : sibling.node ≠ computeRoot x proof) (side : sibling.onRight = true) :
    Opens (front ++ back) (height + 1) x (proof ++ [sibling]) := by
  rcases step_right other side with ⟨position, rightmost⟩
  rcases List.getElem?_eq_some_iff.mp opens.found with ⟨bound, _⟩
  have later := List.length_pos_iff.mpr some
  refine ⟨by simp [opens.length], opens.sized_append sized, ?_, ?_⟩
  · rw [position, List.getElem?_append_left bound, opens.found]
  · rw [position, rightmost, List.length_append]
    simp only [Bool.false_eq_true, false_iff]
    omega

theorem left (opens : Opens back height x proof) (full : front.length = 2 ^ height)
    (sized : sibling.node.length = digestLength)
    (other : sibling.node ≠ computeRoot x proof) (side : sibling.onRight = false) :
    Opens (front ++ back) (height + 1) x (proof ++ [sibling]) := by
  rcases step_left other side with ⟨position, rightmost⟩
  rw [opens.length, ← full, Nat.add_comm] at position
  refine ⟨by simp [opens.length], opens.sized_append sized, ?_, ?_⟩
  · rw [position, List.getElem?_append_right (Nat.le_add_right _ _), Nat.add_sub_cancel_left,
      opens.found]
  · rw [position, rightmost, opens.rightmost, List.length_append]
    omega

end Opens

theorem stepText_eq_nodeText {fold : Fold} {sibling : Sibling} {left right : Bytes}
    (hash : fold.hash.length = digestLength) (first : left.length = digestLength)
    (second : right.length = digestLength) (same : fold.stepText sibling = nodeText left right) :
    sibling.onRight = true ∧ fold.hash = left ∧ sibling.node = right ∨
      sibling.onRight = false ∧ sibling.node = left ∧ fold.hash = right := by
  rw [Fold.stepText] at same
  split at same
  · rename_i side
    rcases nodeText_inj (.inl (hash.trans first.symm)) same with ⟨own, node⟩
    exact .inl ⟨side, own, node⟩
  · rename_i side
    rcases nodeText_inj (.inr (hash.trans second.symm)) same with ⟨node, own⟩
    exact .inr ⟨Bool.eq_false_iff.mpr side, node, own⟩

theorem Hashed.opens {texts : List Bytes} (free : CollisionFree texts) {height : Nat}
    {leaves : List Bytes} (hashed : Hashed texts height leaves) {x : Bytes}
    {proof : InclusionProof} (folded : Fold.texts x proof ⊆ texts)
    (leads : computeRoot x proof = subtree height leaves) : Opens leaves height x proof := by
  -- The induction is on the tree; it takes the last sibling, the one below the root, off the proof.
  induction height generalizing leaves proof with
  | zero =>
    rcases hashed.leaf with ⟨leaf, rfl, text⟩
    rcases proof.eq_nil_or_concat' with rfl | ⟨proof, sibling, rfl⟩
    · have own : leafText x ∈ texts := folded List.mem_cons_self
      rw [leafText_inj.mp (free _ own _ text leads)]
      exact Opens.nil leaf
    · rw [Fold.texts_append_singleton, List.append_subset] at folded
      rw [computeRoot, Fold.run_append_singleton, Fold.hash_step] at leads
      have own := free _ (folded.2 List.mem_cons_self) _ text leads
      rw [Fold.stepText] at own
      split at own <;> exact absurd own.symm (leafText_ne_nodeText _ _ _)
  | succ height ih =>
    rcases hashed.children with ⟨left, right, hashedLeft, hashedRight, text, hash, parts⟩
    rcases proof.eq_nil_or_concat' with rfl | ⟨proof, sibling, rfl⟩
    · have own : leafText x ∈ texts := folded List.mem_cons_self
      exact absurd (free _ own _ text (leads.trans hash)) (leafText_ne_nodeText _ _ _)
    · rw [Fold.texts_append_singleton, List.append_subset] at folded
      rw [computeRoot, Fold.run_append_singleton, Fold.hash_step] at leads
      have own := free _ (folded.2 List.mem_cons_self) _ text (leads.trans hash)
      have sides := stepText_eq_nodeText (length_computeRoot x proof) (length_subtree height left)
        (length_subtree height right) own
      rcases parts with ⟨rfl, rfl⟩ | ⟨rfl, full⟩
      · rcases sides with ⟨_, first, second⟩ | ⟨_, second, first⟩
        · exact (ih hashedLeft folded.1 first).self (second.trans first.symm)
        · exact (ih hashedLeft folded.1 first).self (second.trans first.symm)
      · have apart : subtree height left ≠ subtree height right := fun same =>
          ne_of_nodup_append hashed.nodup hashedLeft.filled
            (hashedLeft.inj free hashedRight same).2
        rcases sides with ⟨side, first, second⟩ | ⟨side, first, second⟩
        · have other : sibling.node ≠ computeRoot x proof := fun same =>
            apart (first.symm.trans (same.symm.trans second))
          exact (ih hashedLeft folded.1 first).right full hashedRight.filled
            (second ▸ length_subtree height right) other side
        · have other : sibling.node ≠ computeRoot x proof := fun same =>
            apart (first.symm.trans (same.trans second))
          exact (ih hashedRight folded.1 second).left full
            (first ▸ length_subtree height left) other side

/-! The tree of a set. -/

namespace LeafSet

/-- What stands at the leaves of the tree of a set: its members, or the placeholder. -/
def slots (s : LeafSet) : List Bytes :=
  if s.isEmpty then [Bytes.zeros s.identifierLength.toNat] else s.leaves

variable {s : LeafSet}

theorem slots_of_empty (empty : s.leaves = []) :
    s.slots = [Bytes.zeros s.identifierLength.toNat] := by
  rw [slots, isEmpty, empty]
  rfl

theorem slots_of_ne_nil (some : s.leaves ≠ []) : s.slots = s.leaves := by
  rw [slots, isEmpty, if_neg (by simpa using some)]

theorem mem_slots {x : Bytes} : x ∈ s.slots ↔
    x ∈ s.leaves ∨ s.leaves = [] ∧ x = Bytes.zeros s.identifierLength.toNat := by
  by_cases empty : s.leaves = []
  · simp [slots_of_empty empty, empty]
  · simp [slots_of_ne_nil empty, empty]

theorem hashed_slots (nodup : s.leaves.Nodup) :
    Hashed (Levels.texts s.leaves s.identifierLength.toNat) (Nat.clog 2 s.slots.length)
      s.slots := by
  by_cases empty : s.leaves = []
  · rw [slots_of_empty empty, empty]
    exact ⟨by simp, by simp, by simp, List.Subset.refl _⟩
  · rw [slots_of_ne_nil empty]
    exact ⟨empty, Nat.le_pow_clog (Nat.le_refl 2) _, nodup,
      Levels.subtreeTexts_subset_texts empty _⟩

theorem depth_build_slots (s : LeafSet) :
    (Levels.build s.leaves s.identifierLength.toNat).depth = Nat.clog 2 s.slots.length := by
  by_cases empty : s.leaves = []
  · rw [slots_of_empty empty, empty]
    rfl
  · rw [slots_of_ne_nil empty, Levels.depth_build]

theorem root?_build_slots (s : LeafSet) :
    (Levels.build s.leaves s.identifierLength.toNat).root? =
      some (subtree (Nat.clog 2 s.slots.length) s.slots) := by
  by_cases empty : s.leaves = []
  · rw [slots_of_empty empty, empty]
    rfl
  · rw [slots_of_ne_nil empty, Levels.root?_build empty]

theorem opens_of_root {texts : List Bytes} (free : CollisionFree texts) (nodup : s.leaves.Nodup)
    {root : Bytes} (rooted : (Levels.build s.leaves s.identifierLength.toNat).root? = some root)
    (inside : Levels.texts s.leaves s.identifierLength.toNat ⊆ texts) {x : Bytes}
    {proof : InclusionProof} (folded : Fold.texts x proof ⊆ texts)
    (leads : computeRoot x proof = root) :
    Opens s.slots (Levels.build s.leaves s.identifierLength.toNat).depth x proof := by
  rw [root?_build_slots, Option.some.injEq] at rooted
  rw [depth_build_slots]
  exact ((hashed_slots nodup).mono inside).opens free folded (leads.trans rooted.symm)

end LeafSet

end AnchoredSet
