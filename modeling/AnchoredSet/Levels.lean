import AnchoredSet.Hash
import AnchoredSet.LeafSet

/-!
The levels of the tree, leaves first and the root alone in the last. Of an odd number of leaves,
two or more, the last hash is written twice; on the levels above, a last node without a partner is
paired with itself.
-/

namespace AnchoredSet

abbrev Levels := List (List Bytes)

def pairUp : List Bytes → List Bytes
  | [] => []
  | [node] => [hashNode node node]
  | left :: right :: rest => hashNode left right :: pairUp rest

theorem length_pairUp (level : List Bytes) : (pairUp level).length = (level.length + 1) / 2 := by
  fun_induction pairUp level with
  | case1 => rfl
  | case2 => simp
  | case3 left right rest ih => simp [ih]; omega

/-- The leaf hashes as they are stored: an even number of them, or one. -/
def evenOut (hashes : List Bytes) : List Bytes :=
  if hashes.length % 2 = 1 then hashes ++ hashes.getLast?.toList else hashes

def climb (level : List Bytes) : Levels :=
  if level.length ≤ 1 then [level] else level :: climb (pairUp level)
termination_by level.length
decreasing_by rw [length_pairUp]; omega

namespace Levels

/-- No members are represented by the placeholder of the given length. -/
def build (leaves : List Bytes) (length : Nat) : Levels :=
  match leaves with
  | [] => [[hashLeaf (Bytes.zeros length)]]
  | [leaf] => [[hashLeaf leaf]]
  | leaves => climb (evenOut (leaves.map hashLeaf))

def depth (levels : Levels) : Nat := levels.length - 1

def root? (levels : Levels) : Option Bytes := levels.getLast?.bind List.head?

def node? (levels : Levels) (level index : Nat) : Option Bytes := levels[level]?.bind (·[index]?)

def setNode (levels : Levels) (level index : Nat) (node : Bytes) : Levels :=
  levels.modify level fun nodes => nodes.set index node

def dropNode (levels : Levels) (level index : Nat) : Levels :=
  levels.modify level fun nodes => nodes.eraseIdx index

/-- Finds a stored node; negative numbers count from the end. -/
def locate (levels : Levels) (level index : Int) : Except Error (Nat × Nat) := do
  let l ← resolveIndex levels.length level .levelIndex
  return (l, ← resolveIndex (levels.getD l []).length index .nodeIndex)

end Levels

def LeafSet.levels (s : LeafSet) : Except Error Levels := do
  if s.isEmpty then Identifier.requireCount s.identifierLength
  return Levels.build s.leaves s.identifierLength.toNat

/-! The same tree from the top. -/

def capacity : Nat → Nat
  | 0 => 1
  | height + 1 => 2 * capacity height

/-- The node of a height over a list of leaves. A half without leaves is the copy of the other. -/
def subtree : Nat → List Bytes → Bytes
  | 0, leaves => hashLeaf (leaves.headD [])
  | height + 1, leaves =>
    if leaves.length ≤ capacity height then
      hashNode (subtree height leaves) (subtree height leaves)
    else
      hashNode (subtree height (leaves.take (capacity height)))
        (subtree height (leaves.drop (capacity height)))

/-! The texts that are hashed on the way. -/

def pairTexts : List Bytes → List Bytes
  | [] => []
  | [node] => [nodeText node node]
  | left :: right :: rest => nodeText left right :: pairTexts rest

def climbTexts (level : List Bytes) : List Bytes :=
  if level.length ≤ 1 then [] else pairTexts level ++ climbTexts (pairUp level)
termination_by level.length
decreasing_by rw [length_pairUp]; omega

/-- Every text hashed by `Levels.build`. -/
def Levels.texts (leaves : List Bytes) (length : Nat) : List Bytes :=
  match leaves with
  | [] => [leafText (Bytes.zeros length)]
  | [leaf] => [leafText leaf]
  | leaves => leaves.map leafText ++ climbTexts (evenOut (leaves.map hashLeaf))

end AnchoredSet
