import AnchoredSet.Proofs.Checked
import AnchoredSet.Proofs.Inclusion
import AnchoredSet.Proofs.Neighbor

/-!
Damage from outside: stored nodes are overwritten and removed, while the members and the number of
levels stay. A tree of two or more members then either hands out proofs that lead to the root it
stores, or names a node that is not stored where it should be. A tree of fewer members compares
nothing: its proofs lead to the root that its set has, whatever is stored.
-/

namespace AnchoredSet

open AnchoredSet.Tree

namespace Tree

variable {tree next : Tree} {level index : Int} {node : Bytes}

/-- The trees reached by changes and by damage to the stored levels, in any order. -/
inductive Damaged : Tree → Prop
  | reached {tree : Tree} (reached : tree.Reachable) : Damaged tree
  | after {tree : Tree} (damaged : Damaged tree) (change : Change) (value : Value) :
      Damaged (tree.after change value)
  | setNode {tree next : Tree} {level index : Int} {node : Bytes} (damaged : Damaged tree)
      (ok : tree.setNode level index node = .ok next) : Damaged next
  | dropNode {tree next : Tree} {level index : Int} (damaged : Damaged tree)
      (ok : tree.dropNode level index = .ok next) : Damaged next

theorem setNode_eq_ok (ok : tree.setNode level index node = .ok next) :
    ∃ l i, next = { tree with levels := tree.levels.setNode l i node } := by
  rcases bind_eq_ok.mp ok with ⟨⟨l, i⟩, _, ok⟩
  exact ⟨l, i, (Except.ok.inj ok).symm⟩

theorem dropNode_eq_ok (ok : tree.dropNode level index = .ok next) :
    ∃ l i, next = { tree with levels := tree.levels.dropNode l i } := by
  rcases bind_eq_ok.mp ok with ⟨⟨l, i⟩, _, ok⟩
  exact ⟨l, i, (Except.ok.inj ok).symm⟩

/-- What damage leaves: a set of members, and as many levels as its tree has. -/
structure Kept (tree : Tree) : Prop where
  reachable : tree.leafSet.Reachable
  counted : Identifier.Countable tree.leafSet.identifierLength
  length : tree.levels.length = Nat.clog 2 tree.size + 1

theorem kept_ofLeafSet {s : LeafSet} (reachable : s.Reachable)
    (counted : Identifier.Countable s.identifierLength) : Kept (ofLeafSet s) :=
  ⟨reachable, counted, Levels.length_build _ _⟩

theorem Kept.after (kept : Kept tree) (change : Change) (value : Value) :
    Kept (tree.after change value) := by
  rw [Tree.after]
  cases result : (tree.change change value).result with
  | error e => exact kept
  | ok next =>
    rcases change_eq_ok.mp result with ⟨identifier, s, decoded, changed, rfl⟩
    have counted := kept.counted
    rw [← identifierLength_of_changedSet changed] at counted
    exact kept_ofLeafSet (leafSet_reachable_of_change kept.reachable decoded changed) counted

theorem Damaged.kept (damaged : tree.Damaged) : Kept tree := by
  induction damaged with
  | reached reached =>
    rcases reached.canonical with ⟨reachable, shape⟩
    rw [shape]
    exact kept_ofLeafSet reachable reached.countable
  | after _ change value ih => exact ih.after change value
  | setNode _ ok ih =>
    rcases setNode_eq_ok ok with ⟨l, i, rfl⟩
    refine ⟨ih.reachable, ih.counted, ?_⟩
    rw [Levels.setNode, List.length_modify]
    exact ih.length
  | dropNode _ ok ih =>
    rcases dropNode_eq_ok ok with ⟨l, i, rfl⟩
    refine ⟨ih.reachable, ih.counted, ?_⟩
    rw [Levels.dropNode, List.length_modify]
    exact ih.length

theorem Kept.depth_eq (kept : Kept tree) : tree.depth = Nat.clog 2 tree.size := by
  rw [Tree.depth, Levels.depth, kept.length, Nat.add_sub_cancel]

end Tree

/-! Proofs of membership and of absence from a damaged tree. -/

section Proofs

variable {tree : Tree} {value : Value} {identifier x : Bytes}

theorem result_inclusionProofOf {index : Nat} (found : tree.leafSet.indexOf x = .ok index)
    (useDuplicate : Bool) : (tree.inclusionProofOf x useDuplicate).result =
      (tree.pathFrom x (startIndex tree.size index useDuplicate)).mapError PathFault.error := by
  rw [inclusionProofOf, found]
  cases ended : tree.pathFrom x (startIndex tree.size index useDuplicate) <;>
    simp only [ended] <;> rfl

theorem checked_inclusionProofOf (kept : tree.Kept) (many : 2 ≤ tree.size)
    (member : x ∈ tree.rawLeaves) (useDuplicate : Bool) :
    Checked tree.levels
      (fun proof => proof.length = tree.depth ∧ tree.root? = some (computeRoot x proof))
      (tree.inclusionProofOf x useDuplicate).result := by
  have ascending := kept.reachable.canonical.ascending
  rcases List.mem_iff_getElem?.mp member with ⟨index, stored⟩
  have inside : index < tree.size := (List.getElem?_eq_some_iff.mp stored).1
  have within := startIndex_lt many inside useDuplicate
  rw [← kept.depth_eq] at within
  have deep : tree.depth ≠ 0 := by
    rw [kept.depth_eq]
    exact (Nat.clog_pos (Nat.le_refl 2) many).ne'
  have found := (LeafSet.indexOf_eq_ok_iff ascending).mpr stored
  rw [result_inclusionProofOf found]
  exact (checked_pathFrom deep x _).mono fun _ climbs => ⟨climbs.length, climbs.root within⟩

theorem inclusionProofOf_of_small (kept : tree.Kept) (small : tree.size < 2)
    (member : x ∈ tree.rawLeaves) (useDuplicate : Bool) :
    (tree.inclusionProofOf x useDuplicate).result = .ok [] := by
  have ascending := kept.reachable.canonical.ascending
  rcases List.mem_iff_getElem?.mp member with ⟨index, stored⟩
  have found := (LeafSet.indexOf_eq_ok_iff ascending).mpr stored
  have flat : tree.depth = 0 := by
    rw [kept.depth_eq]
    exact Nat.clog_of_right_le_one (by omega) 2
  rw [result_inclusionProofOf found, pathFrom, if_pos flat]
  rfl

theorem result_neighborProofs_cons (neighbor : Bytes) (role : Role) (rest : List (Bytes × Role)) :
    (tree.neighborProofs ((neighbor, role) :: rest)).result =
      (tree.neighborProof neighbor role).result.bind fun proof =>
        (tree.neighborProofs rest).result.map (proof :: ·) := by
  rw [neighborProofs]
  rcases tree.neighborProof neighbor role with ⟨_ | _, _⟩ <;> rfl

theorem exists_neighborProof_eq (tree : Tree) {role : Role} (filled : role ≠ .empty)
    (neighbor : Bytes) :
    ∃ useDuplicate,
      tree.neighborProof neighbor role = tree.inclusionProofOf neighbor useDuplicate := by
  cases role with
  | empty => exact absurd rfl filled
  | first => exact ⟨false, rfl⟩
  | last => exact ⟨true, rfl⟩
  | interior => exact ⟨false, rfl⟩

theorem checked_neighborProofs (kept : tree.Kept) (many : 2 ≤ tree.size)
    {located : List (Bytes × Role)}
    (members : ∀ neighbor role, (neighbor, role) ∈ located →
      role ≠ .empty ∧ neighbor ∈ tree.rawLeaves) :
    Checked tree.levels
      (List.Forall₂ (fun neighbor proof => tree.root? = some (computeRoot neighbor proof))
        (located.map Prod.fst))
      (tree.neighborProofs located).result := by
  induction located with
  | nil => exact .ok .nil
  | cons pair rest ih =>
    obtain ⟨neighbor, role⟩ := pair
    obtain ⟨filled, member⟩ := members neighbor role List.mem_cons_self
    obtain ⟨useDuplicate, proven⟩ := exists_neighborProof_eq tree filled neighbor
    have others := ih fun other part later => members other part (List.mem_cons_of_mem _ later)
    rw [result_neighborProofs_cons, proven]
    apply (checked_inclusionProofOf kept many member useDuplicate).bind
    rintro proof ⟨_, root⟩
    exact others.map fun _ roots => .cons root roots

theorem exists_neighborProofs_of_small (kept : tree.Kept) (small : tree.size < 2)
    {located : List (Bytes × Role)} (enclosed : Enclosed tree.leafSet identifier located) :
    ∃ neighbor, tree.leafSet.slots = [neighbor] ∧ located.map Prod.fst = [neighbor] ∧
      (tree.neighborProofs located).result = .ok [[]] := by
  by_cases empty : tree.leafSet.leaves = []
  · obtain rfl := enclosed.eq_of_empty empty
    exact ⟨_, LeafSet.slots_of_empty empty, rfl, rfl⟩
  · have some := List.length_pos_iff.mpr empty
    have small' : tree.leafSet.leaves.length < 2 := small
    obtain ⟨leaf, alone⟩ := List.length_eq_one_iff.mp
      (show tree.leafSet.leaves.length = 1 by omega)
    obtain ⟨role, filled, rfl⟩ := enclosed.eq_of_singleton alone
    have member : leaf ∈ tree.rawLeaves := by
      rw [rawLeaves, alone]
      exact List.mem_singleton_self leaf
    obtain ⟨useDuplicate, proven⟩ := exists_neighborProof_eq tree filled leaf
    refine ⟨leaf, (LeafSet.slots_of_ne_nil empty).trans alone, rfl, ?_⟩
    rw [result_neighborProofs_cons, proven, inclusionProofOf_of_small kept small member]
    rfl

theorem exists_located (kept : tree.Kept) (decoded : tree.decode value = .ok identifier)
    (absent : identifier ∉ tree.rawLeaves) : ∃ located,
      Enclosed tree.leafSet identifier located ∧ (tree.exclusionProof value).result =
        (tree.neighborProofs located).result.map fun proofs =>
          ⟨proofs, located.map Prod.fst⟩ := by
  obtain ⟨located, found, enclosed⟩ :=
    LeafSet.exists_locate kept.reachable.canonical.ascending (fun _ => kept.counted) absent
  refine ⟨located, enclosed, ?_⟩
  rw [exclusionProof, decoded]
  dsimp only
  rw [exclusionProofOf, found]
  cases ended : (tree.neighborProofs located).result <;> simp only [ended] <;> rfl

theorem checked_exclusionProof (kept : tree.Kept) (many : 2 ≤ tree.size)
    (decoded : tree.decode value = .ok identifier) (absent : identifier ∉ tree.rawLeaves) :
    Checked tree.levels
      (fun proof => List.Forall₂
        (fun neighbor path => tree.root? = some (computeRoot neighbor path))
        proof.neighbors proof.proofs)
      (tree.exclusionProof value).result := by
  obtain ⟨located, enclosed, result⟩ := exists_located kept decoded absent
  have filled : tree.leafSet.leaves ≠ [] := by
    rw [← List.length_pos_iff]
    exact Nat.lt_of_lt_of_le Nat.zero_lt_two many
  rw [result]
  exact (checked_neighborProofs kept many (enclosed.mem filled)).map fun _ roots => roots

theorem exists_exclusionProof_of_small (kept : tree.Kept) (small : tree.size < 2)
    (decoded : tree.decode value = .ok identifier) (absent : identifier ∉ tree.rawLeaves) :
    ∃ neighbor, tree.leafSet.slots = [neighbor] ∧
      (tree.exclusionProof value).result = .ok ⟨[[]], [neighbor]⟩ := by
  obtain ⟨located, enclosed, result⟩ := exists_located kept decoded absent
  obtain ⟨neighbor, alone, named, proofs⟩ := exists_neighborProofs_of_small kept small enclosed
  refine ⟨neighbor, alone, ?_⟩
  rw [result, proofs, named]
  rfl

theorem root?_of_slots {s : LeafSet} (alone : s.slots = [x]) :
    (ofLeafSet s).root? = some (computeRoot x []) := by
  have root : (ofLeafSet s).root? = _ := LeafSet.root?_build_slots s
  rw [root, alone, List.length_singleton, Nat.clog_one_right]
  rfl

end Proofs

namespace Sample

def holed : Tree :=
  ⟨leafSet, [[hashLeaf [3], hashLeaf [5], hashLeaf [5]], [left, right], [root]]⟩

def overwritten : Tree := ⟨⟨[[10]], 1⟩, [[List.replicate 32 0xFF]]⟩

theorem damaged_holed : holed.Damaged := by
  have intact : (ofLeafSet leafSet).Damaged := .reached (.create created)
  have built : ofLeafSet leafSet = ⟨leafSet, levels⟩ := by
    rw [ofLeafSet, ← (LeafSet.levels_eq_ok.mp levels_eq).2]
  rw [built] at intact
  exact intact.dropNode (show Tree.dropNode ⟨leafSet, levels⟩ 0 0 = .ok holed from rfl)

theorem damaged_overwritten : overwritten.Damaged := by
  have made : (Tree.create [.bytes .constant [10]] 1).result =
      .ok ⟨⟨[[10]], 1⟩, [[hashLeaf [10]]]⟩ := rfl
  have intact : Tree.Damaged ⟨⟨[[10]], 1⟩, [[hashLeaf [10]]]⟩ := .reached (.create made)
  exact intact.setNode (show Tree.setNode ⟨⟨[[10]], 1⟩, [[hashLeaf [10]]]⟩ 0 0
    (List.replicate 32 0xFF) = .ok overwritten from rfl)

end Sample

/-- A tree of two or more members, changed and damaged in any order, refuses what is no identifier
or no member, and hands out a proof of a member only if it has the length of the tree's depth and
leads to the root that is stored; else it names a node that is not stored where it should be. -/
theorem inclusionProof_of_damaged {tree : Tree} (damaged : tree.Damaged) (many : 2 ≤ tree.size)
    (value : Value) (useDuplicate : Bool) :
    (∀ e, tree.decode value = .error e → e.kind? = some .invalidIdentifier ∧
      (tree.inclusionProof value useDuplicate).result = .error e) ∧
    ∀ identifier, tree.decode value = .ok identifier →
      ((tree.inclusionProof value useDuplicate).result = .error (.leafNotFound identifier) ↔
        identifier ∉ tree.rawLeaves) ∧
      (identifier ∈ tree.rawLeaves → Checked tree.levels
        (fun proof => proof.length = tree.depth ∧
          tree.root? = some (computeRoot identifier proof))
        (tree.inclusionProof value useDuplicate).result) := by
  have kept := damaged.kept
  have ascending := kept.reachable.canonical.ascending
  constructor
  · intro e refused
    rw [inclusionProof, refused]
    exact ⟨Identifier.kind?_of_decode_eq_error kept.counted refused, rfl⟩
  · intro identifier decoded
    have read : tree.inclusionProof value useDuplicate =
        tree.inclusionProofOf identifier useDuplicate := by
      rw [inclusionProof, decoded]
    rw [read]
    have checked (member : identifier ∈ tree.rawLeaves) :=
      checked_inclusionProofOf kept many member useDuplicate
    refine ⟨⟨?_, ?_⟩, checked⟩
    · intro refused member
      have proven := checked member
      rw [refused] at proven
      cases proven
    · intro absent
      have lost : tree.leafSet.indexOf identifier = _ :=
        LeafSet.indexOf_of_not_mem ascending absent
      rw [inclusionProofOf, lost]

theorem inclusionProof_of_damaged_holed :
    (Sample.holed.inclusionProof (.bytes .constant [4]) true).result =
        .error (.leafNotFound [4]) ∧
      Checked Sample.holed.levels
        (fun proof => proof.length = 2 ∧ Sample.holed.root? = some (computeRoot [5] proof))
        (Sample.holed.inclusionProof (.bytes .constant [5]) true).result := by
  have answers (value : Value) :=
    (inclusionProof_of_damaged Sample.damaged_holed (by decide) value true).2
  have absent := (answers (.bytes .constant [4]) [4] rfl).1
  have present := (answers (.bytes .constant [5]) [5] rfl).2
  exact ⟨absent.mpr (by decide), present (by decide)⟩

/-- Of an identifier that is no member, a damaged tree hands out proofs of the neighbors that lead
to the root that is stored, or names a node that is not stored where it should be, exactly if it
has two members or more, or else if the root that is stored is the one of its set. -/
theorem exclusionProof_checked_iff {tree : Tree} (damaged : tree.Damaged) {value : Value}
    {identifier : Bytes} (decoded : tree.decode value = .ok identifier)
    (absent : identifier ∉ tree.rawLeaves) :
    Checked tree.levels
        (fun proof => List.Forall₂
          (fun neighbor path => tree.root? = some (computeRoot neighbor path))
          proof.neighbors proof.proofs)
        (tree.exclusionProof value).result ↔
      2 ≤ tree.size ∨ tree.root? = (ofLeafSet tree.leafSet).root? := by
  have kept := damaged.kept
  by_cases many : 2 ≤ tree.size
  · exact iff_of_true (checked_exclusionProof kept many decoded absent) (.inl many)
  · obtain ⟨neighbor, alone, result⟩ :=
      exists_exclusionProof_of_small kept (Nat.not_le.mp many) decoded absent
    rw [result, root?_of_slots alone, or_iff_right many, Checked.ok_iff]
    -- The only proof is empty, and it leads to the root of the set.
    constructor
    · rintro (_ | ⟨root, _⟩)
      exact root
    · intro root
      exact .cons root .nil

theorem exclusionProof_checked_iff_holed : Checked Sample.holed.levels
    (fun proof => List.Forall₂
      (fun neighbor path => Sample.holed.root? = some (computeRoot neighbor path))
      proof.neighbors proof.proofs)
    (Sample.holed.exclusionProof (.bytes .constant [4])).result :=
  (exclusionProof_checked_iff Sample.damaged_holed rfl (by decide)).mpr (.inl (by decide))

/-- A tree of one member whose stored hash is overwritten still hands out the empty proof, which
leads elsewhere than to the root that the tree tells. -/
theorem exclusionProof_unchecked_overwritten :
    Sample.overwritten.Damaged ∧ [5] ∉ Sample.overwritten.rawLeaves ∧
      (Sample.overwritten.exclusionProof (.bytes .constant [5])).result = .ok ⟨[[]], [[10]]⟩ ∧
      Sample.overwritten.root? ≠ some (computeRoot [10] []) := by
  have small : Sample.overwritten.size < 2 := by decide
  have absent : [5] ∉ Sample.overwritten.rawLeaves := by decide
  have decoded : Sample.overwritten.decode (.bytes .constant [5]) = .ok [5] := rfl
  obtain ⟨neighbor, alone, result⟩ :=
    exists_exclusionProof_of_small Sample.damaged_overwritten.kept small decoded absent
  obtain rfl : [10] = neighbor := List.head_eq_of_cons_eq alone
  exact ⟨Sample.damaged_overwritten, absent, result, by decide +kernel⟩

end AnchoredSet
