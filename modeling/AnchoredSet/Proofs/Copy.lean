import AnchoredSet.Proofs.Checked
import AnchoredSet.Proofs.Inclusion

/-!
The copy of the last leaf. A leaf and its copy are joined with each other, so a path from the copy
differs from the one from the leaf in the side of its first sibling only, whatever the levels above.
-/

namespace AnchoredSet

open AnchoredSet.Tree

section Twins

variable {nodes next : List Bytes} {above : Levels} {level index : Nat} {fold : Fold}
  {proof : InclusionProof}

theorem siblingAt_left (even : index % 2 = 0) (partner : nodes[index + 1]? = some fold.hash) :
    siblingAt nodes index = .ok ⟨fold.hash, true⟩ := by
  have inside := (List.getElem?_eq_some_iff.mp partner).1
  have place : siblingIndex nodes.length index = index + 1 := by
    rw [siblingIndex, if_neg (by omega), if_pos inside]
  rw [siblingAt_of_stored place partner, even]
  rfl

theorem siblingAt_right (even : index % 2 = 0) (partner : nodes[index]? = some fold.hash) :
    siblingAt nodes (index + 1) = .ok ⟨fold.hash, false⟩ := by
  have odd : (index + 1) % 2 = 1 := by omega
  have place : siblingIndex nodes.length (index + 1) = index := by
    rw [siblingIndex, if_pos odd, Nat.add_sub_cancel]
  rw [siblingAt_of_stored place partner, odd]
  rfl

theorem path_of_twins (even : index % 2 = 0) (left : nodes[index]? = some fold.hash)
    (right : nodes[index + 1]? = some fold.hash)
    (ok : path level index fold.hash (nodes :: next :: above) = .ok proof) :
    ∃ rest, proof = ⟨fold.hash, true⟩ :: rest ∧
      path level (index + 1) fold.hash (nodes :: next :: above) =
        .ok (⟨fold.hash, false⟩ :: rest) := by
  have parent : (index + 1) / 2 = index / 2 := by omega
  have joined : (fold.step ⟨fold.hash, false⟩).hash = (fold.step ⟨fold.hash, true⟩).hash := rfl
  rw [path_cons (siblingAt_left even right)] at ok
  rw [path_cons (siblingAt_right even left), parent, joined]
  obtain ⟨_, check, ok⟩ := bind_eq_ok.mp ok
  cases higher : path (level + 1) (index / 2) (fold.step ⟨fold.hash, true⟩).hash
      (next :: above) with
  | error fault =>
    rw [higher] at ok
    cases ok
  | ok rest =>
    rw [higher] at ok
    exact ⟨rest, (Except.ok.inj ok).symm, by rw [check]; rfl⟩

end Twins

section Copy

variable {s : LeafSet} {x : Bytes} {proof : InclusionProof}

theorem getElem?_evenOut_copy {hashes : List Bytes} {hash : Bytes} (odd : hashes.length % 2 = 1)
    (last : hashes.getLast? = some hash) : (evenOut hashes)[hashes.length]? = some hash := by
  rw [evenOut, if_pos odd, List.getElem?_append_right (Nat.le_refl _), last, Nat.sub_self]
  rfl

theorem pathFrom_copy (odd : s.leaves.length % 2 = 1) (many : 3 ≤ s.leaves.length)
    (last : s.leaves.getLast? = some x)
    (ok : (ofLeafSet s).pathFrom x (s.leaves.length - 1) = .ok proof) :
    ∃ rest, proof = ⟨hashLeaf x, true⟩ :: rest ∧
      (ofLeafSet s).pathFrom x s.leaves.length = .ok (⟨hashLeaf x, false⟩ :: rest) := by
  have hashed : (s.leaves.map hashLeaf).getLast? = some (hashLeaf x) := by
    rw [List.getLast?_map, last, Option.map_some]
  have count : (s.leaves.map hashLeaf).length = s.leaves.length := List.length_map _
  have place : s.leaves.length - 1 + 1 = s.leaves.length := by omega
  have left : (evenOut (s.leaves.map hashLeaf))[s.leaves.length - 1]? =
      some (Fold.start x).hash := by
    apply getElem?_evenOut
    rw [← count, ← List.getLast?_eq_getElem?, hashed]
    rfl
  have right : (evenOut (s.leaves.map hashLeaf))[s.leaves.length - 1 + 1]? =
      some (Fold.start x).hash := by
    rw [place, ← count]
    exact getElem?_evenOut_copy (count ▸ odd) hashed
  have deep : (ofLeafSet s).depth ≠ 0 := by
    rw [show (ofLeafSet s).depth = _ from Levels.depth_build]
    exact (Nat.clog_pos (Nat.le_refl 2) (show 1 < s.leaves.length by omega)).ne'
  have large : 1 < (evenOut (s.leaves.map hashLeaf)).length :=
    one_lt_length_evenOut (by omega)
  obtain ⟨above, rest⟩ := climb_eq_cons (pairUp (evenOut (s.leaves.map hashLeaf)))
  have shape : (ofLeafSet s).levels = evenOut (s.leaves.map hashLeaf) ::
      pairUp (evenOut (s.leaves.map hashLeaf)) :: above := by
    rw [ofLeafSet, Levels.build_of_one_lt (by omega), climb_of_one_lt large, rest]
  rw [pathFrom_of_deep deep shape, checkNode_of_stored left] at ok
  rw [← place, pathFrom_of_deep deep shape, checkNode_of_stored right]
  exact path_of_twins (by omega) left right ok

theorem startIndex_of_ne {size index : Nat} (apart : size % 2 = 1 → index ≠ size - 1)
    (useDuplicate : Bool) : startIndex size index useDuplicate = index := by
  rw [startIndex, if_neg]
  simp only [Bool.and_eq_true, decide_eq_true_eq]
  rintro ⟨⟨_, odd⟩, last⟩
  exact apart odd last

theorem startIndex_of_last {size : Nat} (odd : size % 2 = 1) :
    startIndex size (size - 1) true = size := by
  rw [startIndex, if_pos (by simp [odd])]
  omega

end Copy

namespace Tree

/-- Whether a member has a leaf and a copy of it: the last of an odd number, three or more. -/
structure HasCopy (tree : Tree) (x : Bytes) : Prop where
  odd : tree.size % 2 = 1
  many : 3 ≤ tree.size
  last : tree.rawLeaves.getLast? = some x

variable {s : LeafSet} {x : Bytes} {index : Nat} {proof : InclusionProof}

theorem inclusionProofOf_of_pathFrom (ascending : s.leaves.Pairwise (· < ·))
    (stored : s.leaves[index]? = some x) {useDuplicate : Bool}
    (ok : (ofLeafSet s).pathFrom x (startIndex s.leaves.length index useDuplicate) = .ok proof) :
    (ofLeafSet s).inclusionProofOf x useDuplicate = ⟨.ok proof, []⟩ := by
  have found : (ofLeafSet s).leafSet.indexOf x = .ok index :=
    (LeafSet.indexOf_eq_ok_iff ascending).mpr stored
  have ok : (ofLeafSet s).pathFrom x (startIndex (ofLeafSet s).size index useDuplicate) =
    .ok proof := ok
  simp only [inclusionProofOf, found, ok]

theorem pathFrom_startIndex_of_not_hasCopy (stored : s.leaves[index]? = some x)
    (single : ¬ HasCopy (ofLeafSet s) x) :
    (ofLeafSet s).pathFrom x (startIndex s.leaves.length index true) =
      (ofLeafSet s).pathFrom x index := by
  have inside := (List.getElem?_eq_some_iff.mp stored).1
  by_cases alone : s.leaves.length = 1
  · obtain ⟨leaf, alone⟩ := List.length_eq_one_iff.mp alone
    obtain rfl : leaf = x := by
      obtain rfl : index = 0 := by
        rw [alone] at inside
        exact Nat.lt_one_iff.mp inside
      simpa [alone] using stored
    rw [(pathFrom_singleton alone _).1, (pathFrom_singleton alone _).1]
  · rw [startIndex_of_ne]
    rintro odd rfl
    refine single ⟨odd, ?_, ?_⟩
    · change 3 ≤ s.leaves.length
      omega
    · exact List.getLast?_eq_getElem?.trans stored

end Tree

/-- A member is proven alike with and without its copy, unless it has one; then the copy's proof is
the leaf's with the first sibling, the hash of the member itself, on the left and not on the
right. -/
theorem inclusionProof_duplicate {tree : Tree} (reached : tree.Reachable) {value : Value}
    {x : Bytes} (decoded : tree.decode value = .ok x) (member : x ∈ tree.rawLeaves) :
    ∃ plain, tree.inclusionProof value false = ⟨.ok plain, []⟩ ∧
      (¬ tree.HasCopy x →
        tree.inclusionProof value true = tree.inclusionProof value false) ∧
      (tree.HasCopy x → ∃ rest, plain = ⟨hashLeaf x, true⟩ :: rest ∧
        tree.inclusionProof value true = ⟨.ok (⟨hashLeaf x, false⟩ :: rest), []⟩) := by
  obtain ⟨reached, shape⟩ := reached.canonical
  have ascending := reached.canonical.ascending
  have read (useDuplicate : Bool) : tree.inclusionProof value useDuplicate =
      tree.inclusionProofOf x useDuplicate := by
    rw [Tree.inclusionProof, decoded]
  rw [read, read]
  generalize tree.leafSet = s at shape ascending
  subst shape
  by_cases copied : (ofLeafSet s).HasCopy x
  · have odd : s.leaves.length % 2 = 1 := copied.odd
    have last : s.leaves.getLast? = some x := copied.last
    have stored := List.getLast?_eq_getElem?.symm.trans last
    obtain ⟨plain, ok, _⟩ := exists_pathFrom false stored
    have leaf := inclusionProofOf_of_pathFrom ascending stored ok
    obtain ⟨rest, split, twin⟩ := pathFrom_copy odd copied.many last ok
    refine ⟨plain, leaf, absurd copied, fun _ => ⟨rest, split, ?_⟩⟩
    apply inclusionProofOf_of_pathFrom ascending stored
    rw [startIndex_of_last odd, twin]
  · obtain ⟨index, stored⟩ : ∃ index, s.leaves[index]? = some x :=
      List.mem_iff_getElem?.mp member
    obtain ⟨plain, ok, _⟩ := exists_pathFrom false stored
    have leaf := inclusionProofOf_of_pathFrom ascending stored ok
    refine ⟨plain, leaf, fun _ => ?_, fun has => absurd has copied⟩
    rw [leaf]
    apply inclusionProofOf_of_pathFrom ascending stored
    rw [pathFrom_startIndex_of_not_hasCopy stored copied]
    exact ok

theorem inclusionProof_duplicate_last :
    (∃ rest, ((Tree.ofLeafSet Sample.leafSet).inclusionProof (.bytes .constant [5]) false).result =
        .ok (⟨hashLeaf [5], true⟩ :: rest) ∧
      ((Tree.ofLeafSet Sample.leafSet).inclusionProof (.bytes .constant [5]) true).result =
        .ok (⟨hashLeaf [5], false⟩ :: rest)) ∧
      (Tree.ofLeafSet Sample.leafSet).inclusionProof (.bytes .constant [1]) true =
        (Tree.ofLeafSet Sample.leafSet).inclusionProof (.bytes .constant [1]) false := by
  have reached : (Tree.ofLeafSet Sample.leafSet).Reachable := .create Sample.created
  have last : (Tree.ofLeafSet Sample.leafSet).HasCopy [5] := ⟨rfl, by decide, rfl⟩
  have first : ¬ (Tree.ofLeafSet Sample.leafSet).HasCopy [1] := fun copied =>
    absurd copied.last (by decide)
  constructor
  · obtain ⟨plain, leaf, _, twin⟩ := inclusionProof_duplicate reached
      (show (Tree.ofLeafSet Sample.leafSet).decode (.bytes .constant [5]) = .ok [5] from rfl)
      (by decide)
    obtain ⟨rest, rfl, copy⟩ := twin last
    exact ⟨rest, by rw [leaf], by rw [copy]⟩
  · obtain ⟨_, _, alike, _⟩ := inclusionProof_duplicate reached
      (show (Tree.ofLeafSet Sample.leafSet).decode (.bytes .constant [1]) = .ok [1] from rfl)
      (by decide)
    exact alike first

end AnchoredSet
