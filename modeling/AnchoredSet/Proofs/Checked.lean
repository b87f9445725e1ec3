import AnchoredSet.Proofs.Path

/-!
Paths over levels of any shape. A path that starts at a stored node never leaves the levels: it ends
at a node of the top level, or it names the first parent that is not stored where it should be.
-/

namespace AnchoredSet

open AnchoredSet.Tree

/-- A result with a property, or an error that names a node which is not stored where it should
be. -/
inductive Checked (levels : Levels) {α : Type} (holds : α → Prop) : Except Error α → Prop
  | ok {result : α} (right : holds result) : Checked levels holds (.ok result)
  | corrupt {expected : Bytes} {level index : Nat}
      (missing : levels.node? level index ≠ some expected) :
      Checked levels holds (.error (.corruptTree expected level index))

namespace Checked

variable {levels : Levels} {α β : Type} {first : Except Error α} {P : α → Prop} {Q : β → Prop}

theorem bind {next : α → Except Error β} (checked : Checked levels P first)
    (step : ∀ a, P a → Checked levels Q (next a)) : Checked levels Q (first.bind next) := by
  cases checked with
  | ok right => exact step _ right
  | corrupt missing => exact .corrupt missing

theorem map {f : α → β} (checked : Checked levels P first) (step : ∀ a, P a → Q (f a)) :
    Checked levels Q (first.map f) := by
  cases checked with
  | ok right => exact .ok (step _ right)
  | corrupt missing => exact .corrupt missing

theorem mono {R : α → Prop} (checked : Checked levels P first) (step : ∀ a, P a → R a) :
    Checked levels R first := by
  cases checked with
  | ok right => exact .ok (step _ right)
  | corrupt missing => exact .corrupt missing

theorem ok_iff {result : α} : Checked levels P (.ok result) ↔ P result := by
  constructor
  · rintro ⟨right⟩
    exact right
  · exact .ok

end Checked

/-! A path over levels of any shape. -/

section Path

variable {levels above : Levels} {nodes next : List Bytes} {level index : Nat} {fold : Fold}
  {sibling : Sibling} {proof : InclusionProof} {x : Bytes}

theorem checked_checkNode (here : levels[level]? = some nodes) (index : Nat) (expected : Bytes) :
    Checked levels (fun _ => nodes[index]? = some expected)
      ((checkNode nodes level index expected).mapError PathFault.error) := by
  by_cases stored : nodes[index]? = some expected
  · rw [checkNode, if_pos stored]
    exact .ok stored
  · rw [checkNode, if_neg stored]
    apply Checked.corrupt
    rw [Levels.node?, here]
    exact stored

/-- The fold of a proof from a level up ends at a node of the top level. -/
structure Climbs (levels : Levels) (index : Nat) (fold : Fold) (proof : InclusionProof) : Prop where
  length : proof.length = levels.depth
  top : levels.getLast?.bind (·[index / 2 ^ levels.depth]?) =
    some (proof.foldl Fold.step fold).hash

theorem climbs_nil (stored : nodes[index]? = some fold.hash) : Climbs [nodes] index fold [] where
  length := rfl
  top := by
    have flat : Levels.depth [nodes] = 0 := rfl
    rw [List.getLast?_singleton, Option.bind_some, flat, Nat.pow_zero, Nat.div_one, stored,
      List.foldl_nil]

theorem Climbs.cons (climbs : Climbs (next :: above) (index / 2) (fold.step sibling) proof) :
    Climbs (nodes :: next :: above) index fold (sibling :: proof) := by
  have higher : Levels.depth (nodes :: next :: above) = Levels.depth (next :: above) + 1 := rfl
  refine ⟨?_, ?_⟩
  · rw [List.length_cons, climbs.length, higher]
  · rw [List.getLast?_cons_cons, higher, Nat.pow_succ', ← Nat.div_div_eq_div_mul, climbs.top,
      List.foldl_cons]

theorem checked_path (here : levels.drop level = nodes :: above)
    (stored : nodes[index]? = some fold.hash) :
    Checked levels (Climbs (nodes :: above) index fold)
      ((path level index fold.hash (nodes :: above)).mapError PathFault.error) := by
  induction above generalizing nodes level index fold with
  | nil => exact .ok (climbs_nil stored)
  | cons next above ih =>
    obtain ⟨sibling, found, _, _⟩ := exists_siblingAt stored
    have higher : levels.drop (level + 1) = next :: above := by
      rw [← List.drop_drop, here, List.drop_one, List.tail_cons]
    have parent : levels[level + 1]? = some next := by
      rw [← List.head?_drop, higher, List.head?_cons]
    rw [path_cons found, mapError_bind]
    apply (checked_checkNode parent _ _).bind
    intro _ stored
    rw [mapError_map]
    exact (ih higher stored).map fun _ climbs => climbs.cons

theorem pathFrom_of_deep {tree : Tree} (deep : tree.depth ≠ 0)
    (shape : tree.levels = nodes :: above) (x : Bytes) (index : Nat) : tree.pathFrom x index =
      (checkNode nodes 0 index (Fold.start x).hash).bind fun _ =>
        path 0 index (Fold.start x).hash (nodes :: above) := by
  rw [pathFrom, if_neg deep, shape]
  rfl

theorem checked_pathFrom {tree : Tree} (deep : tree.depth ≠ 0) (x : Bytes) (index : Nat) :
    Checked tree.levels (Climbs tree.levels index (Fold.start x))
      ((tree.pathFrom x index).mapError PathFault.error) := by
  cases shape : tree.levels with
  | nil =>
    rw [Tree.depth, shape] at deep
    exact absurd rfl deep
  | cons nodes above =>
    have here : (nodes :: above)[0]? = some nodes := rfl
    rw [pathFrom_of_deep deep shape, mapError_bind]
    apply (checked_checkNode here _ _).bind
    intro _ stored
    exact checked_path rfl stored

theorem Climbs.root {tree : Tree} (climbs : Climbs tree.levels index (Fold.start x) proof)
    (within : index < 2 ^ tree.depth) : tree.root? = some (computeRoot x proof) := by
  have first : (List.head? : List Bytes → Option Bytes) = (·[0]?) :=
    funext fun _ => List.head?_eq_getElem?
  have top := climbs.top
  rw [Tree.depth] at within
  rw [Nat.div_eq_of_lt within] at top
  rw [root?, Levels.root?, first]
  exact top

theorem startIndex_lt {size : Nat} (many : 2 ≤ size) (inside : index < size)
    (useDuplicate : Bool) : startIndex size index useDuplicate < 2 ^ Nat.clog 2 size := by
  have wide : size ≤ 2 ^ Nat.clog 2 size := Nat.le_pow_clog (Nat.le_refl 2) size
  obtain ⟨height, positive⟩ : ∃ height, Nat.clog 2 size = height + 1 :=
    ⟨_, clog_two_of_one_lt many⟩
  rw [positive, Nat.pow_succ] at wide ⊢
  rw [startIndex]
  split
  · rename_i copied
    simp only [Bool.and_eq_true, decide_eq_true_eq] at copied
    omega
  · omega

end Path

end AnchoredSet
