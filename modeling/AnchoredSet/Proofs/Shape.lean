import AnchoredSet.Proofs.Reachable
import AnchoredSet.Proofs.Levels
import Mathlib.Algebra.Order.Floor.Div
import Mathlib.GroupTheory.GroupAction.Ring

/-!
The shape of a build. On every level above the leaves, each node is the tree from the top over its
own block of leaves, and the blocks of a level part all leaves from the front.
-/

namespace AnchoredSet

/-- The leaves below the node at an index of a level. -/
def block (height index : Nat) (leaves : List Bytes) : List Bytes :=
  leaves.extract (index * 2 ^ height) ((index + 1) * 2 ^ height)

theorem block_eq (height index : Nat) (leaves : List Bytes) :
    block height index leaves = (leaves.drop (index * 2 ^ height)).take (2 ^ height) := by
  rw [block, List.extract_eq_take_drop, Nat.succ_mul, Nat.add_sub_cancel_left]

@[simp] theorem block_zero (height : Nat) (leaves : List Bytes) :
    block height 0 leaves = leaves.take (2 ^ height) := by
  simp [block_eq]

theorem block_succ (height index : Nat) (leaves : List Bytes) :
    block height (index + 1) leaves = block height index (leaves.drop (2 ^ height)) := by
  rw [block_eq, block_eq, List.drop_drop, Nat.succ_mul, Nat.add_comm]

theorem ceilDiv_of_pos {n d : Nat} (some : 0 < n) (positive : 0 < d) :
    n ⌈/⌉ d = (n - d) ⌈/⌉ d + 1 := by
  rw [Nat.ceilDiv_eq_add_pred_div, Nat.ceilDiv_eq_add_pred_div,
    Nat.div_eq_sub_div positive (by omega)]
  obtain small | large : n < d ∨ d ≤ n := by omega
  · rw [Nat.div_eq_of_lt (by omega), Nat.div_eq_of_lt (by omega)]
  · rw [show n - d + d - 1 = n + d - 1 - d by omega]

theorem iterate_pairUp_nil (height : Nat) : pairUp^[height] [] = [] := by
  induction height with
  | zero => rfl
  | succ height ih => exact ih

theorem iterate_pairUp_cons {height : Nat} {leaves : List Bytes} (filled : leaves ≠ []) :
    pairUp^[height] (leaves.map hashLeaf) = subtree height (leaves.take (2 ^ height)) ::
      pairUp^[height] ((leaves.drop (2 ^ height)).map hashLeaf) := by
  by_cases small : leaves.length ≤ 2 ^ height
  · rw [List.take_of_length_le small, List.drop_of_length_le small,
      iterate_pairUp_eq_subtree filled small, List.map_nil, iterate_pairUp_nil]
  · have full : (leaves.take (2 ^ height)).length = 2 ^ height := by
      rw [List.length_take]
      omega
    have parts := iterate_pairUp_halves (Nat.le_refl height) full (leaves.drop (2 ^ height))
    rwa [List.take_append_drop, iterate_pairUp_eq_subtree (ne_nil_of_full full) full.le] at parts

theorem iterate_pairUp_eq_blocks (height : Nat) (leaves : List Bytes) :
    pairUp^[height] (leaves.map hashLeaf) =
      (List.range (leaves.length ⌈/⌉ 2 ^ height)).map fun index =>
        subtree height (block height index leaves) := by
  -- The induction takes the first block of leaves, and with it the first node, off the level.
  have positive := Nat.two_pow_pos height
  induction size : leaves.length using Nat.strong_induction_on generalizing leaves with
  | h n ih =>
    subst size
    by_cases empty : leaves = []
    · simp [empty, iterate_pairUp_nil]
    · have some := List.length_pos_iff.mpr empty
      have shorter : (leaves.drop (2 ^ height)).length < leaves.length := by
        rw [List.length_drop]
        omega
      rw [iterate_pairUp_cons empty, ih _ shorter _ rfl, List.length_drop,
        ceilDiv_of_pos some positive, List.range_succ_eq_map, List.map_cons, List.map_map,
        block_zero]
      simp only [Function.comp_def, Nat.succ_eq_add_one, block_succ]

namespace Levels

variable {leaves : List Bytes}

def padding (leaves : List Bytes) : List Bytes :=
  if leaves.length % 2 = 1 ∧ 1 < leaves.length then (leaves.getLast?.map hashLeaf).toList else []

theorem evenOut_eq_append_padding (many : 1 < leaves.length) :
    evenOut (leaves.map hashLeaf) = leaves.map hashLeaf ++ padding leaves := by
  rw [evenOut, padding, List.length_map, List.getLast?_map]
  split <;> simp [*]

theorem build_eq_cons (filled : leaves ≠ []) (length : Nat) : build leaves length =
    (leaves.map hashLeaf ++ padding leaves) ::
      (List.range (Nat.clog 2 leaves.length)).map fun height =>
        pairUp^[height + 1] (leaves.map hashLeaf) := by
  by_cases many : 1 < leaves.length
  · rw [build_of_one_lt many, climb_evenOut many, evenOut_eq_append_padding many, climb_eq_map,
      length_pairUp, List.length_map, clog_two_of_one_lt many]
    rfl
  · match leaves, filled, many with
    | [leaf], _, _ => rfl
    | _ :: _ :: _, _, many => simp at many

end Levels

/-- The levels of a set with members: the hashes of the members, the last of an odd number twice,
and above them on each level the trees over the blocks of members, up to the tree over all. -/
theorem LeafSet.levels_eq_blocks {s : LeafSet} (filled : s.leaves ≠ []) :
    ∃ levels, s.levels = .ok levels ∧
      levels.length = Nat.clog 2 s.size + 1 ∧
      levels[0]? = some (s.leaves.map hashLeaf ++
        if s.size % 2 = 1 ∧ 1 < s.size then [hashLeaf (s.leaves.getLast filled)] else []) ∧
      (∀ k, 1 ≤ k → k ≤ Nat.clog 2 s.size →
        levels[k]? = some ((List.range (s.size ⌈/⌉ 2 ^ k)).map fun j =>
          subtree k (block k j s.leaves))) ∧
      levels.root? = some (subtree (Nat.clog 2 s.size) s.leaves) := by
  have shape := Levels.build_eq_cons filled s.identifierLength.toNat
  refine ⟨Levels.build s.leaves s.identifierLength.toNat, ?_, ?_, ?_, ?_, ?_⟩
  · refine LeafSet.levels_eq_ok.mpr ⟨fun empty => ?_, rfl⟩
    exact absurd (List.isEmpty_iff.mp empty) filled
  · rw [shape, List.length_cons, List.length_map, List.length_range, size]
  · rw [shape, List.getElem?_cons_zero, Levels.padding, List.getLast?_eq_some_getLast filled]
    rfl
  · intro k above below
    obtain ⟨height, rfl⟩ : ∃ height, k = height + 1 := ⟨k - 1, by omega⟩
    rw [size] at below ⊢
    rw [shape, List.getElem?_cons_succ, List.getElem?_map, List.getElem?_range below,
      Option.map_some, iterate_pairUp_eq_blocks]
  · exact Levels.root?_build filled

theorem LeafSet.levels_eq_blocks_five : ∃ levels,
    (LeafSet.mk [[1], [2], [3], [4], [5]] 1).levels = .ok levels ∧ levels.length = 4 ∧
      levels[2]? = some [subtree 2 [[1], [2], [3], [4]], subtree 2 [[5]]] := by
  have filled : (LeafSet.mk [[1], [2], [3], [4], [5]] 1).leaves ≠ [] := by decide
  have height : Nat.clog 2 (LeafSet.mk [[1], [2], [3], [4], [5]] 1).size = 3 := by
    decide
  rcases levels_eq_blocks filled with ⟨levels, built, length, _, nodes, _⟩
  rw [height] at length nodes
  exact ⟨levels, built, length, nodes 2 (by decide) (by decide)⟩

end AnchoredSet
