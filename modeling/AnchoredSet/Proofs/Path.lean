import AnchoredSet.Proofs.Binding
import AnchoredSet.Proofs.Reachable

/-!
The proofs that a tree hands out. From a stored node the path finds a stored sibling and the stored
parent on every level, so it ends at the root, and it hashes only what the build has hashed.
-/

namespace AnchoredSet

open AnchoredSet.Tree

theorem getElem?_pairTexts {nodes : List Bytes} {place : Nat} {left : Bytes}
    (stored : nodes[2 * place]? = some left) :
    (pairTexts nodes)[place]? = some (nodeText left (nodes.getD (2 * place + 1) left)) := by
  fun_induction pairTexts nodes generalizing place with
  | case1 => simp at stored
  | case2 node =>
    obtain rfl : place = 0 := by
      have := (List.getElem?_eq_some_iff.mp stored).1
      simp at this
      omega
    simp_all
  | case3 first second rest ih =>
    cases place with
    | zero => simp_all
    | succ place =>
      have stored : rest[2 * place]? = some left := by
        simpa [Nat.mul_add] using stored
      simpa [Nat.mul_add] using ih stored

theorem siblingAt_of_stored {nodes : List Bytes} {index place : Nat} {node : Bytes}
    (sibling : siblingIndex nodes.length index = place) (stored : nodes[place]? = some node) :
    siblingAt nodes index = .ok ⟨node, index % 2 = 0⟩ := by
  simp only [siblingAt, sibling, stored]

theorem exists_siblingAt {nodes : List Bytes} {index : Nat} {fold : Fold}
    (stored : nodes[index]? = some fold.hash) :
    ∃ sibling, siblingAt nodes index = .ok sibling ∧ sibling.node ∈ nodes ∧
      (pairTexts nodes)[index / 2]? = some (fold.stepText sibling) := by
  rcases List.getElem?_eq_some_iff.mp stored with ⟨inside, _⟩
  rcases Nat.mod_two_eq_zero_or_one index with even | odd
  · have whole : 2 * (index / 2) = index := by omega
    have text := getElem?_pairTexts ((congrArg (nodes[·]?) whole).trans stored)
    rw [whole] at text
    -- A last node without a partner is read as its own sibling.
    by_cases partner : index + 1 < nodes.length
    · have place : siblingIndex nodes.length index = index + 1 := by
        rw [siblingIndex, if_neg (by omega), if_pos partner]
      have found := List.getElem?_eq_getElem partner
      refine ⟨_, siblingAt_of_stored place found, List.mem_of_getElem? found, ?_⟩
      simpa [Fold.stepText, even, found] using text
    · have place : siblingIndex nodes.length index = index := by
        rw [siblingIndex, if_neg (by omega), if_neg partner]
      have none : nodes[index + 1]? = none := List.getElem?_eq_none (Nat.not_lt.mp partner)
      refine ⟨_, siblingAt_of_stored place stored, List.mem_of_getElem? stored, ?_⟩
      simpa [Fold.stepText, even, none] using text
  · have whole : 2 * (index / 2) = index - 1 := by omega
    have place : siblingIndex nodes.length index = index - 1 := by
      rw [siblingIndex, if_pos odd]
    have found := List.getElem?_eq_getElem (show index - 1 < nodes.length by omega)
    have text := getElem?_pairTexts ((congrArg (nodes[·]?) whole).trans found)
    rw [whole, show index - 1 + 1 = index by omega] at text
    refine ⟨_, siblingAt_of_stored place found, List.mem_of_getElem? found, ?_⟩
    simpa [Fold.stepText, odd, stored] using text

/-- What the fold meets that starts at a node of a level and follows a proof up from there. -/
structure Leads (nodes : List Bytes) (fold : Fold) (proof : InclusionProof) : Prop where
  length : proof.length = (climb nodes).depth
  sized : ∀ sibling ∈ proof, sibling.node.length = digestLength
  root : (climb nodes).root? = some (proof.foldl Fold.step fold).hash
  texts : fold.stepTexts proof ⊆ climbTexts nodes

theorem leads_nil {nodes : List Bytes} (small : nodes.length ≤ 1) {index : Nat} {fold : Fold}
    (stored : nodes[index]? = some fold.hash) : Leads nodes fold [] := by
  have top : climb nodes = [nodes] := by rw [climb, if_pos small]
  rcases List.getElem?_eq_some_iff.mp stored with ⟨inside, same⟩
  obtain rfl : index = 0 := by omega
  refine ⟨by simp [top, Levels.depth], by simp, ?_, by simp [Fold.stepTexts]⟩
  rw [top, Levels.root?, List.getLast?_singleton, Option.bind_some, List.head?_eq_getElem?]
  exact stored

theorem Leads.cons {nodes : List Bytes} {fold : Fold} {sibling : Sibling} {proof : InclusionProof}
    (many : 1 < nodes.length) (sized : sibling.node.length = digestLength)
    (text : fold.stepText sibling ∈ pairTexts nodes)
    (leads : Leads (pairUp nodes) (fold.step sibling) proof) :
    Leads nodes fold (sibling :: proof) := by
  rcases climb_eq_cons (pairUp nodes) with ⟨above, rest⟩
  refine ⟨?_, ?_, ?_, ?_⟩
  · rw [climb_of_one_lt many, List.length_cons, leads.length, rest]
    rfl
  · intro other member
    rcases List.mem_cons.mp member with rfl | later
    · exact sized
    · exact leads.sized other later
  · have higher : (climb nodes).getLast? = (climb (pairUp nodes)).getLast? := by
      rw [climb_of_one_lt many, rest, List.getLast?_cons_cons]
    rw [Levels.root?, higher]
    exact leads.root
  · rw [climbTexts_of_one_lt many, Fold.stepTexts, List.cons_subset]
    exact ⟨List.mem_append_left _ text,
      fun other member => List.mem_append_right _ (leads.texts member)⟩

theorem checkNode_of_stored {nodes : List Bytes} {level index : Nat} {expected : Bytes}
    (stored : nodes[index]? = some expected) : checkNode nodes level index expected = .ok () := by
  rw [checkNode, if_pos stored]

theorem join_eq_hash_step (fold : Fold) (sibling : Sibling) :
    join fold.hash sibling = (fold.step sibling).hash := by
  rw [join, Fold.step]
  split <;> rfl

theorem path_cons {nodes next : List Bytes} {above : Levels} {level index : Nat} {fold : Fold}
    {sibling : Sibling} (found : siblingAt nodes index = .ok sibling) :
    path level index fold.hash (nodes :: next :: above) =
      (checkNode next (level + 1) (index / 2) (fold.step sibling).hash).bind fun _ =>
        (path (level + 1) (index / 2) (fold.step sibling).hash (next :: above)).map
          (sibling :: ·) := by
  rw [path, found]
  simp only [bind, Except.bind, join_eq_hash_step]
  rfl

theorem exists_path {nodes : List Bytes} (sized : ∀ node ∈ nodes, node.length = digestLength)
    {index : Nat} {fold : Fold} (stored : nodes[index]? = some fold.hash) (level : Nat) :
    ∃ proof, path level index fold.hash (climb nodes) = .ok proof ∧ Leads nodes fold proof := by
  -- On every level the node at the index is the hash of the fold.
  fun_induction climb nodes generalizing index fold level with
  | case1 nodes small => exact ⟨[], rfl, leads_nil small stored⟩
  | case2 nodes large ih =>
    rcases exists_siblingAt stored with ⟨sibling, found, member, text⟩
    have parent : (pairUp nodes)[index / 2]? = some (fold.step sibling).hash := by
      rw [pairUp_eq_map, List.getElem?_map, text, Option.map_some, Fold.hash_step]
    have sizedAbove : ∀ node ∈ pairUp nodes, node.length = digestLength := by
      intro node member
      rw [pairUp_eq_map] at member
      rcases List.mem_map.mp member with ⟨_, _, rfl⟩
      exact length_keccak256 _
    rcases ih sizedAbove parent (level + 1) with ⟨proof, ok, leads⟩
    rcases climb_eq_cons (pairUp nodes) with ⟨above, rest⟩
    refine ⟨sibling :: proof, ?_, leads.cons (Nat.not_le.mp large) (sized _ member)
      (List.mem_of_getElem? text)⟩
    rw [rest] at ok ⊢
    rw [path_cons found, checkNode_of_stored parent]
    simp only [Except.bind, ok, Except.map]

theorem getElem?_evenOut {hashes : List Bytes} {index : Nat} {hash : Bytes}
    (stored : hashes[index]? = some hash) : (evenOut hashes)[index]? = some hash := by
  rw [evenOut]
  split
  · rw [List.getElem?_append_left (List.getElem?_eq_some_iff.mp stored).1, stored]
  · exact stored

theorem mem_of_mem_evenOut {hashes : List Bytes} {hash : Bytes} (member : hash ∈ evenOut hashes) :
    hash ∈ hashes := by
  rw [evenOut] at member
  split at member
  · rcases List.mem_append.mp member with stored | copied
    · exact stored
    · exact List.mem_of_mem_getLast? (Option.mem_toList.mp copied)
  · exact member

theorem getElem?_evenOut_startIndex {hashes : List Bytes} {index : Nat} {hash : Bytes}
    (stored : hashes[index]? = some hash) (useDuplicate : Bool) :
    (evenOut hashes)[startIndex hashes.length index useDuplicate]? = some hash := by
  rw [startIndex]
  split
  · rename_i copied
    simp only [Bool.and_eq_true, decide_eq_true_eq] at copied
    rcases copied with ⟨⟨_, odd⟩, rfl⟩
    have last : hashes.getLast? = some hash := by rw [List.getLast?_eq_getElem?, stored]
    have place : hashes.length - 1 + 1 = hashes.length := by omega
    rw [evenOut, if_pos odd, place, List.getElem?_append_right (Nat.le_refl _), last]
    simp
  · exact getElem?_evenOut stored

/-- What holds of a proof that a tree hands out for a member. -/
structure HandedOut (tree : Tree) (x : Bytes) (proof : InclusionProof) : Prop where
  length : proof.length = tree.depth
  sized : ∀ sibling ∈ proof, sibling.node.length = digestLength
  root : tree.root? = some (computeRoot x proof)
  texts : Fold.texts x proof ⊆
    Levels.texts tree.leafSet.leaves tree.leafSet.identifierLength.toNat

@[simp] theorem leafSet_ofLeafSet (s : LeafSet) : (ofLeafSet s).leafSet = s := rfl

section PathFrom

variable {s : LeafSet} {x : Bytes} {index : Nat}

theorem pathFrom_of_one_lt (many : 1 < s.leaves.length) (useDuplicate : Bool)
    (stored : s.leaves[index]? = some x) :
    ∃ proof, (ofLeafSet s).pathFrom x (startIndex s.size index useDuplicate) = .ok proof ∧
      HandedOut (ofLeafSet s) x proof := by
  have hashed : (s.leaves.map hashLeaf)[index]? = some (Fold.start x).hash := by
    rw [List.getElem?_map, stored]
    rfl
  have start := getElem?_evenOut_startIndex hashed useDuplicate
  rw [List.length_map] at start
  have sized : ∀ node ∈ evenOut (s.leaves.map hashLeaf), node.length = digestLength := by
    intro node member
    rcases List.mem_map.mp (mem_of_mem_evenOut member) with ⟨leaf, _, rfl⟩
    exact length_hashLeaf leaf
  rcases exists_path sized start 0 with ⟨proof, ok, leads⟩
  have levels : (ofLeafSet s).levels = climb (evenOut (s.leaves.map hashLeaf)) :=
    Levels.build_of_one_lt many
  refine ⟨proof, ?_, ?_, leads.sized, ?_, ?_⟩
  · have high : ¬ (ofLeafSet s).depth = 0 := by
      rw [show (ofLeafSet s).depth = _ from Levels.depth_build]
      exact (Nat.clog_pos (Nat.le_refl 2) many).ne'
    rcases climb_eq_cons (evenOut (s.leaves.map hashLeaf)) with ⟨above, shape⟩
    have bottom : (climb (evenOut (s.leaves.map hashLeaf))).headD [] =
        evenOut (s.leaves.map hashLeaf) := by rw [shape, List.headD_cons]
    have check : checkNode (evenOut (s.leaves.map hashLeaf)) 0
        (startIndex s.size index useDuplicate) (hashLeaf x) = .ok () :=
      checkNode_of_stored start
    rw [pathFrom, if_neg high, levels, bottom, check]
    exact ok
  · rw [leads.length, Tree.depth, levels]
  · rw [root?, levels, leads.root]
    rfl
  · rw [leafSet_ofLeafSet, Levels.texts_of_one_lt many, Fold.texts, List.cons_subset]
    exact ⟨List.mem_append_left _ (List.mem_map_of_mem (List.mem_of_getElem? stored)),
      fun text member => List.mem_append_right _ (leads.texts member)⟩

theorem pathFrom_singleton (alone : s.leaves = [x]) (index : Nat) :
    (ofLeafSet s).pathFrom x index = .ok [] ∧ HandedOut (ofLeafSet s) x [] := by
  have flat : (ofLeafSet s).depth = 0 := by
    rw [Tree.depth, ofLeafSet, alone]
    rfl
  refine ⟨by rw [pathFrom, if_pos flat], flat.symm, by simp, ?_, ?_⟩
  · rw [root?, ofLeafSet, alone]
    rfl
  · rw [ofLeafSet, alone]
    exact List.Subset.refl _

theorem exists_pathFrom (useDuplicate : Bool) (stored : s.leaves[index]? = some x) :
    ∃ proof, (ofLeafSet s).pathFrom x (startIndex s.size index useDuplicate) = .ok proof ∧
      HandedOut (ofLeafSet s) x proof := by
  have inside := (List.getElem?_eq_some_iff.mp stored).1
  by_cases many : 1 < s.leaves.length
  · exact pathFrom_of_one_lt many useDuplicate stored
  · rcases List.length_eq_one_iff.mp (show s.leaves.length = 1 by omega) with ⟨leaf, alone⟩
    obtain rfl : index = 0 := by omega
    obtain rfl : leaf = x := by simpa [alone] using stored
    exact ⟨[], pathFrom_singleton alone _⟩

end PathFrom

theorem exists_inclusionProofOf {s : LeafSet} (ascending : s.leaves.Pairwise (· < ·)) {x : Bytes}
    (member : x ∈ s.leaves) (useDuplicate : Bool) :
    ∃ proof, (ofLeafSet s).inclusionProofOf x useDuplicate = ⟨.ok proof, []⟩ ∧
      HandedOut (ofLeafSet s) x proof := by
  rcases List.mem_iff_getElem?.mp member with ⟨index, stored⟩
  have found : (ofLeafSet s).leafSet.indexOf x = .ok index :=
    (LeafSet.indexOf_eq_ok_iff ascending).mpr stored
  rcases exists_pathFrom useDuplicate stored with ⟨proof, ok, handed⟩
  have ok : (ofLeafSet s).pathFrom x (startIndex (ofLeafSet s).size index useDuplicate) =
    .ok proof := ok
  refine ⟨proof, ?_, handed⟩
  simp only [inclusionProofOf, found, ok]

theorem inclusionProofOf_of_not_mem {s : LeafSet} (ascending : s.leaves.Pairwise (· < ·))
    {x : Bytes} (absent : x ∉ s.leaves) (useDuplicate : Bool) :
    (ofLeafSet s).inclusionProofOf x useDuplicate = ⟨.error (.leafNotFound x), []⟩ := by
  have found : (ofLeafSet s).leafSet.indexOf x = .error (.leafNotFound x) :=
    LeafSet.indexOf_of_not_mem ascending absent
  simp only [inclusionProofOf, found]

end AnchoredSet
