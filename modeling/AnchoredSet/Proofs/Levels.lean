import AnchoredSet.Levels
import Mathlib.Algebra.Group.Nat.Defs
import Mathlib.Data.Nat.Log
import Mathlib.Logic.Function.Iterate

/-!
The levels of a build, and the texts hashed for them. Read from the top they are one tree: the node
of a height over some leaves joins the nodes over the two halves of the leaves.
-/

namespace AnchoredSet

theorem capacity_eq (height : Nat) : capacity height = 2 ^ height := by
  induction height with
  | zero => rfl
  | succ height ih => rw [capacity, ih, Nat.pow_succ, Nat.mul_comm]

theorem pairUp_eq_map (level : List Bytes) : pairUp level = (pairTexts level).map keccak256 := by
  fun_induction pairUp level with
  | case1 => rfl
  | case2 => rfl
  | case3 left right rest ih => rw [ih, pairTexts, List.map_cons, hashNode]

theorem pairTexts_append {front : List Bytes} (even : front.length % 2 = 0) (back : List Bytes) :
    pairTexts (front ++ back) = pairTexts front ++ pairTexts back := by
  fun_induction pairTexts front with
  | case1 => rfl
  | case2 node => simp at even
  | case3 left right rest ih =>
    have even : rest.length % 2 = 0 := by simpa [Nat.add_assoc] using even
    simp only [List.cons_append, pairTexts, ih even]

theorem pairUp_append {front : List Bytes} (even : front.length % 2 = 0) (back : List Bytes) :
    pairUp (front ++ back) = pairUp front ++ pairUp back := by
  simp only [pairUp_eq_map, pairTexts_append even, List.map_append]

theorem pairTexts_append_getLast? {level : List Bytes} (odd : level.length % 2 = 1) :
    pairTexts (level ++ level.getLast?.toList) = pairTexts level := by
  fun_induction pairTexts level with
  | case1 => simp at odd
  | case2 => rfl
  | case3 left right rest ih =>
    have odd : rest.length % 2 = 1 := by simpa [Nat.add_assoc] using odd
    obtain ⟨node, others, rfl⟩ : ∃ node others, rest = node :: others :=
      List.exists_cons_of_length_pos (by omega)
    simpa [pairTexts] using ih odd

theorem pairTexts_evenOut (level : List Bytes) : pairTexts (evenOut level) = pairTexts level := by
  rw [evenOut]
  split
  · exact pairTexts_append_getLast? ‹_›
  · rfl

theorem pairUp_evenOut (level : List Bytes) : pairUp (evenOut level) = pairUp level := by
  rw [pairUp_eq_map, pairTexts_evenOut, pairUp_eq_map]

theorem length_pairUp_blocks {height blocks : Nat} {level : List Bytes}
    (count : level.length = 2 ^ (height + 1) * blocks) :
    level.length % 2 = 0 ∧ (pairUp level).length = 2 ^ height * blocks := by
  rw [Nat.pow_succ, Nat.mul_right_comm] at count
  rw [length_pairUp]
  omega

theorem length_iterate_pairUp {height blocks : Nat} {level : List Bytes}
    (count : level.length = 2 ^ height * blocks) : (pairUp^[height] level).length = blocks := by
  induction height generalizing level with
  | zero => simpa using count
  | succ height ih => exact ih (length_pairUp_blocks count).2

theorem iterate_pairUp_append {height blocks : Nat} {front : List Bytes}
    (count : front.length = 2 ^ height * blocks) (back : List Bytes) :
    pairUp^[height] (front ++ back) = pairUp^[height] front ++ pairUp^[height] back := by
  induction height generalizing front back with
  | zero => rfl
  | succ height ih =>
    rcases length_pairUp_blocks count with ⟨even, half⟩
    simp only [Function.iterate_succ_apply, pairUp_append even, ih half]

/-! The tree from the top, one half at a time. -/

theorem halves {height : Nat} {leaves : List Bytes} (fits : leaves.length ≤ 2 ^ (height + 1)) :
    leaves.length ≤ 2 ^ height ∨ ∃ front back, leaves = front ++ back ∧
      front.length = 2 ^ height ∧ back ≠ [] ∧ back.length ≤ 2 ^ height := by
  by_cases small : leaves.length ≤ 2 ^ height
  · exact .inl small
  · refine .inr ⟨leaves.take (2 ^ height), leaves.drop (2 ^ height), ?_, ?_, ?_, ?_⟩
    · exact (List.take_append_drop _ _).symm
    · rw [List.length_take]
      omega
    · rw [← List.length_pos_iff, List.length_drop]
      omega
    · rw [List.length_drop]
      omega

theorem eq_singleton_of_fits {leaves : List Bytes} (some : leaves ≠ [])
    (fits : leaves.length ≤ 2 ^ 0) : ∃ leaf, leaves = [leaf] := by
  have := List.length_pos_iff.mpr some
  rw [← List.length_eq_one_iff]
  omega

def subtreeTexts : Nat → List Bytes → List Bytes
  | 0, leaves => [leafText (leaves.headD [])]
  | height + 1, leaves =>
    if leaves.length ≤ capacity height then
      nodeText (subtree height leaves) (subtree height leaves) :: subtreeTexts height leaves
    else
      nodeText (subtree height (leaves.take (capacity height)))
          (subtree height (leaves.drop (capacity height))) ::
        (subtreeTexts height (leaves.take (capacity height)) ++
          subtreeTexts height (leaves.drop (capacity height)))

section Halves

variable {height : Nat} {leaves front back : List Bytes}

theorem subtree_half (small : leaves.length ≤ 2 ^ height) :
    subtree (height + 1) leaves = hashNode (subtree height leaves) (subtree height leaves) := by
  rw [subtree, if_pos (by rwa [capacity_eq])]

theorem subtreeTexts_half (small : leaves.length ≤ 2 ^ height) : subtreeTexts (height + 1) leaves =
    nodeText (subtree height leaves) (subtree height leaves) :: subtreeTexts height leaves := by
  rw [subtreeTexts, if_pos (by rwa [capacity_eq])]

theorem not_length_append_le (full : front.length = 2 ^ height) (some : back ≠ []) :
    ¬ (front ++ back).length ≤ capacity height := by
  have := List.length_pos_iff.mpr some
  rw [capacity_eq, List.length_append]
  omega

theorem subtree_append (full : front.length = 2 ^ height) (some : back ≠ []) :
    subtree (height + 1) (front ++ back) =
      hashNode (subtree height front) (subtree height back) := by
  rw [subtree, if_neg (not_length_append_le full some), capacity_eq, List.take_left' full,
    List.drop_left' full]

theorem subtreeTexts_append (full : front.length = 2 ^ height) (some : back ≠ []) :
    subtreeTexts (height + 1) (front ++ back) =
      nodeText (subtree height front) (subtree height back) ::
        (subtreeTexts height front ++ subtreeTexts height back) := by
  rw [subtreeTexts, if_neg (not_length_append_le full some), capacity_eq, List.take_left' full,
    List.drop_left' full]

theorem ne_nil_of_full (full : front.length = 2 ^ height) : front ≠ [] := by
  rw [← List.length_pos_iff, full]
  exact Nat.two_pow_pos height

end Halves

theorem iterate_pairUp_halves {height lower : Nat} (below : lower ≤ height)
    {front : List Bytes} (full : front.length = 2 ^ height) (back : List Bytes) :
    pairUp^[lower] ((front ++ back).map hashLeaf) =
      pairUp^[lower] (front.map hashLeaf) ++ pairUp^[lower] (back.map hashLeaf) := by
  have count : (front.map hashLeaf).length = 2 ^ lower * 2 ^ (height - lower) := by
    rw [List.length_map, full, ← Nat.pow_add, Nat.add_sub_cancel' below]
  rw [List.map_append, iterate_pairUp_append count]

/-- The levels from below and the tree from the top agree on the node over a list of leaves. -/
theorem iterate_pairUp_eq_subtree {height : Nat} {leaves : List Bytes} (some : leaves ≠ [])
    (fits : leaves.length ≤ 2 ^ height) :
    pairUp^[height] (leaves.map hashLeaf) = [subtree height leaves] := by
  induction height generalizing leaves with
  | zero =>
    rcases eq_singleton_of_fits some fits with ⟨leaf, rfl⟩
    rfl
  | succ height ih =>
    rw [Function.iterate_succ_apply']
    rcases halves fits with small | ⟨front, back, rfl, full, filled, rest⟩
    · rw [subtree_half small, ih some small, pairUp]
    · rw [subtree_append full filled, iterate_pairUp_halves (Nat.le_refl height) full,
        ih (ne_nil_of_full full) full.le, ih filled rest]
      rfl

theorem pairTexts_iterate_append {height lower : Nat} (below : lower < height)
    {front : List Bytes} (full : front.length = 2 ^ height) (back : List Bytes) :
    pairTexts (pairUp^[lower] ((front ++ back).map hashLeaf)) =
      pairTexts (pairUp^[lower] (front.map hashLeaf)) ++
        pairTexts (pairUp^[lower] (back.map hashLeaf)) := by
  have count : (front.map hashLeaf).length = 2 ^ lower * (2 * 2 ^ (height - lower - 1)) := by
    rw [List.length_map, full, ← Nat.pow_succ', ← Nat.pow_add]
    congr 1
    omega
  have even : (pairUp^[lower] (front.map hashLeaf)).length % 2 = 0 := by
    rw [length_iterate_pairUp count]
    omega
  rw [iterate_pairUp_halves below.le full, pairTexts_append even]

def lowerTexts (height : Nat) (leaves : List Bytes) : List Bytes :=
  leaves.map leafText ++ (List.range height).flatMap fun lower =>
    pairTexts (pairUp^[lower] (leaves.map hashLeaf))

theorem mem_lowerTexts {height : Nat} {leaves : List Bytes} {text : Bytes} :
    text ∈ lowerTexts height leaves ↔ text ∈ leaves.map leafText ∨
      ∃ lower < height, text ∈ pairTexts (pairUp^[lower] (leaves.map hashLeaf)) := by
  simp only [lowerTexts, List.mem_append, List.mem_flatMap, List.mem_range]

theorem lowerTexts_succ (height : Nat) (leaves : List Bytes) : lowerTexts (height + 1) leaves =
    lowerTexts height leaves ++ pairTexts (pairUp^[height] (leaves.map hashLeaf)) := by
  rw [lowerTexts, List.range_succ, List.flatMap_append, List.flatMap_singleton,
    ← List.append_assoc, lowerTexts]

theorem mem_lowerTexts_append {height : Nat} {front : List Bytes}
    (full : front.length = 2 ^ height) {back : List Bytes} {text : Bytes}
    (half : text ∈ lowerTexts height front ∨ text ∈ lowerTexts height back) :
    text ∈ lowerTexts height (front ++ back) := by
  simp only [mem_lowerTexts] at half ⊢
  rcases half with (leaf | ⟨lower, below, pair⟩) | leaf | ⟨lower, below, pair⟩
  · exact .inl (by simp [leaf])
  · refine .inr ⟨lower, below, ?_⟩
    rw [pairTexts_iterate_append below full]
    exact List.mem_append_left _ pair
  · exact .inl (by simp [leaf])
  · refine .inr ⟨lower, below, ?_⟩
    rw [pairTexts_iterate_append below full]
    exact List.mem_append_right _ pair

theorem subtreeTexts_subset {height : Nat} {leaves : List Bytes} (some : leaves ≠ [])
    (fits : leaves.length ≤ 2 ^ height) :
    subtreeTexts height leaves ⊆ lowerTexts height leaves := by
  induction height generalizing leaves with
  | zero =>
    rcases eq_singleton_of_fits some fits with ⟨leaf, rfl⟩
    simp [subtreeTexts, lowerTexts]
  | succ height ih =>
    intro text member
    rw [lowerTexts_succ, List.mem_append]
    rcases halves fits with small | ⟨front, back, rfl, full, filled, rest⟩
    · rw [subtreeTexts_half small, List.mem_cons] at member
      rcases member with rfl | member
      · rw [iterate_pairUp_eq_subtree some small]
        exact .inr List.mem_cons_self
      · exact .inl (ih some small member)
    · rw [subtreeTexts_append full filled, List.mem_cons, List.mem_append] at member
      rcases member with rfl | member
      · rw [iterate_pairUp_halves (Nat.le_refl height) full, iterate_pairUp_eq_subtree filled rest,
          iterate_pairUp_eq_subtree (ne_nil_of_full full) full.le]
        exact .inr List.mem_cons_self
      · exact .inl (mem_lowerTexts_append full
          (member.imp (@ih _ (ne_nil_of_full full) full.le _) (@ih _ filled rest _)))

theorem clog_two_of_one_lt {n : Nat} (many : 1 < n) :
    Nat.clog 2 n = Nat.clog 2 ((n + 1) / 2) + 1 :=
  Nat.clog_of_two_le (Nat.le_refl 2) many

theorem climb_eq_map (level : List Bytes) : climb level =
    (List.range (Nat.clog 2 level.length + 1)).map fun height => pairUp^[height] level := by
  fun_induction climb level with
  | case1 level small =>
    have zero : Nat.clog 2 level.length = 0 := Nat.clog_of_right_le_one small 2
    rw [zero]
    rfl
  | case2 level large ih =>
    have higher : Nat.clog 2 level.length = Nat.clog 2 (pairUp level).length + 1 := by
      rw [length_pairUp]
      exact clog_two_of_one_lt (by omega)
    rw [ih, higher, List.range_succ_eq_map (n := _ + 1), List.map_cons, List.map_map]
    rfl

theorem getLast?_climb {level : List Bytes} :
    (climb level).getLast? = some (pairUp^[Nat.clog 2 level.length] level) := by
  rw [climb_eq_map, List.getLast?_map, List.getLast?_range]
  simp

theorem length_climb (level : List Bytes) :
    (climb level).length = Nat.clog 2 level.length + 1 := by
  rw [climb_eq_map, List.length_map, List.length_range]

theorem one_lt_length_evenOut {level : List Bytes} (many : 1 < level.length) :
    1 < (evenOut level).length := by
  rw [evenOut]
  split
  · rw [List.length_append]
    omega
  · exact many

theorem climb_eq_cons (level : List Bytes) : ∃ above, climb level = level :: above := by
  rw [climb]
  split
  · exact ⟨[], rfl⟩
  · exact ⟨_, rfl⟩

theorem climb_of_one_lt {level : List Bytes} (many : 1 < level.length) :
    climb level = level :: climb (pairUp level) := by
  rw [climb, if_neg (Nat.not_le.mpr many)]

theorem climbTexts_of_one_lt {level : List Bytes} (many : 1 < level.length) :
    climbTexts level = pairTexts level ++ climbTexts (pairUp level) := by
  rw [climbTexts, if_neg (Nat.not_le.mpr many)]

namespace Levels

variable {leaves : List Bytes} {length : Nat}

theorem build_of_one_lt (many : 1 < leaves.length) :
    build leaves length = climb (evenOut (leaves.map hashLeaf)) := by
  match leaves, many with
  | first :: second :: rest, _ => rfl

theorem texts_of_one_lt (many : 1 < leaves.length) : texts leaves length =
    leaves.map leafText ++ climbTexts (evenOut (leaves.map hashLeaf)) := by
  match leaves, many with
  | first :: second :: rest, _ => rfl

/-- Above the leaves, the copy of the last one makes no difference. -/
theorem climb_evenOut (many : 1 < leaves.length) : climb (evenOut (leaves.map hashLeaf)) =
    evenOut (leaves.map hashLeaf) :: climb (pairUp (leaves.map hashLeaf)) := by
  rw [climb_of_one_lt (one_lt_length_evenOut (by simpa using many)), pairUp_evenOut]

theorem length_build (leaves : List Bytes) (length : Nat) :
    (build leaves length).length = Nat.clog 2 leaves.length + 1 := by
  match leaves with
  | [] => rfl
  | [leaf] => rfl
  | first :: second :: rest =>
    have many : 1 < (first :: second :: rest).length := by simp
    rw [build_of_one_lt many, climb_evenOut many, List.length_cons, length_climb, length_pairUp,
      List.length_map, clog_two_of_one_lt many]

theorem depth_build : (build leaves length).depth = Nat.clog 2 leaves.length := by
  rw [depth, length_build, Nat.add_sub_cancel]

theorem root?_build (some : leaves ≠ []) :
    (build leaves length).root? = .some (subtree (Nat.clog 2 leaves.length) leaves) := by
  by_cases many : 1 < leaves.length
  · have fits : leaves.length ≤ 2 ^ Nat.clog 2 leaves.length :=
      Nat.le_pow_clog (Nat.le_refl 2) _
    have top := iterate_pairUp_eq_subtree some fits
    rw [clog_two_of_one_lt many, Function.iterate_succ_apply] at top
    rw [build_of_one_lt many, climb_evenOut many, root?, List.getLast?_cons, getLast?_climb,
      length_pairUp, List.length_map, clog_two_of_one_lt many]
    simp [top]
  · match leaves, some, many with
    | [leaf], _, _ => rfl
    | _ :: _ :: _, _, many => simp at many

end Levels

/-! The texts hashed by a build, level by level and from the top. -/

theorem climbTexts_eq_flatMap (level : List Bytes) : climbTexts level =
    (List.range (Nat.clog 2 level.length)).flatMap fun height =>
      pairTexts (pairUp^[height] level) := by
  fun_induction climbTexts level with
  | case1 level small =>
    rw [Nat.clog_of_right_le_one small 2]
    rfl
  | case2 level large ih =>
    have higher : Nat.clog 2 level.length = Nat.clog 2 (pairUp level).length + 1 := by
      rw [length_pairUp]
      exact clog_two_of_one_lt (by omega)
    rw [ih, higher, List.range_succ_eq_map, List.flatMap_cons, List.flatMap_map]
    rfl

namespace Levels

theorem texts_of_ne_nil {leaves : List Bytes} (some : leaves ≠ []) (length : Nat) :
    texts leaves length = lowerTexts (Nat.clog 2 leaves.length) leaves := by
  rw [lowerTexts, ← List.length_map hashLeaf, ← climbTexts_eq_flatMap]
  by_cases many : 1 < leaves.length
  · have large : 1 < (leaves.map hashLeaf).length := by simpa using many
    rw [texts_of_one_lt many, climbTexts_of_one_lt (one_lt_length_evenOut large),
      pairTexts_evenOut, pairUp_evenOut, climbTexts_of_one_lt large]
  · match leaves, some, many with
    | [leaf], _, _ => simp [texts, climbTexts]
    | _ :: _ :: _, _, many => simp at many

theorem subtreeTexts_subset_texts {leaves : List Bytes} (some : leaves ≠ []) (length : Nat) :
    subtreeTexts (Nat.clog 2 leaves.length) leaves ⊆ texts leaves length := by
  rw [texts_of_ne_nil some]
  exact subtreeTexts_subset some (Nat.le_pow_clog (Nat.le_refl 2) _)

end Levels

theorem length_subtree (height : Nat) (leaves : List Bytes) :
    (subtree height leaves).length = digestLength := by
  cases height with
  | zero => exact length_hashLeaf _
  | succ height =>
    rw [subtree]
    split <;> exact length_hashNode _ _

end AnchoredSet
