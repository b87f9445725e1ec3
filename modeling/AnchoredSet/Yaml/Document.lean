import AnchoredSet.Yaml.Node
import AnchoredSet.Yaml.Typed

/-!
A document as a value: the keys of a mapping are scalars of which the last of equal ones wins.
Values are made from the outside in: of all faults the one in the outermost collection counts, and
there the first.
-/

namespace AnchoredSet.Yaml

namespace Node

def fail {α : Type} (reason : String) : Except Fault α := .error (.malformed reason 0 0)

def tag : Node → Tag
  | .scalar points .plain => Plain.tag points
  | .scalar _ .quoted => .text
  | .scalar _ (.tagged tag) => tag
  | .sequence tag _ | .mapping tag _ | .enclosing tag => tag

mutual

def scalarText : Node → Except Fault Text.Points
  | .scalar points _ => .ok points
  | .mapping _ entries => defaultText entries
  | .sequence _ _ => fail "a sequence in place of a scalar"
  | .enclosing tag =>
    if tag.isList then fail "a sequence in place of a scalar" else .error (.failure .nesting)

def defaultText : List (Node × Node) → Except Fault Text.Points
  | [] => fail "a mapping without a default value in place of a scalar"
  | (key, value) :: rest => if key.tag = .default then value.scalarText else defaultText rest

end

def toScalar (node : Node) : Except Fault Scalar := do
  if !node.tag.isScalar then fail "a tag without a meaning here"
  let points ← node.scalarText
  match node.tag, node with
  | .timestamp, .mapping _ _ => .error (Typed.refused (.notText "list"))
  | tag, _ => Typed.read tag points

def isCollection : Node → Bool
  | .enclosing _ => false
  | node => node.tag.isCollection

/-- As a key the word for a default value is a text, and a collection is none. -/
def toKey (node : Node) : Except Fault Scalar := do
  if node.tag.isCollection then fail "a key that is not a scalar"
  else if node.tag = .default then return .ofPoints (← node.scalarText)
  else node.toScalar

mutual

/-- The entries of a mapping, those of other mappings that are merged into it in front. -/
def merged : List (Node × Node) → Except Fault (List (Node × Node) × List (Node × Node))
  | [] => .ok ([], [])
  | (key, value) :: rest =>
    if key.tag = .merge then do
      let taken ← value.mergedNode
      let (front, own) ← merged rest
      return (taken ++ front, own)
    else do
      let (front, own) ← merged rest
      return (front, (key, value) :: own)

def mergedNode : Node → Except Fault (List (Node × Node))
  | .mapping _ entries => do
    let (front, own) ← merged entries
    return front ++ own
  | .sequence _ items => mergedItems items
  | .enclosing _ => .ok []
  | .scalar _ _ => fail "a scalar merged into a mapping"

def mergedItems : List Node → Except Fault (List (Node × Node))
  | [] => .ok []
  | .mapping _ entries :: rest => do
    let (front, own) ← merged entries
    return (← mergedItems rest) ++ (front ++ own)
  | .enclosing tag :: rest =>
    if tag.isList then fail "a sequence in place of a mapping" else mergedItems rest
  | _ :: _ => fail "no mapping merged into a mapping"

end

def flattened (entries : List (Node × Node)) : Except Fault (List (Node × Node)) := do
  let (front, own) ← merged entries
  return front ++ own

def onlyEntry : Node → Except Fault (Node × Node)
  | .mapping _ [entry] => .ok entry
  | _ => fail "an item that is not one entry"

mutual

def height : Node → Nat
  | .scalar _ _ | .enclosing _ => 0
  | .sequence _ items => itemsHeight items + 1
  | .mapping _ entries => entriesHeight entries + 1

def itemsHeight : List Node → Nat
  | [] => 0
  | item :: rest => max item.height (itemsHeight rest)

def entriesHeight : List (Node × Node) → Nat
  | [] => 0
  | (key, value) :: rest => max (max key.height value.height) (entriesHeight rest)

end

def checkSelf (node : Node) : Except Fault Unit :=
  if node.tag.isCollection then .ok () else node.toScalar.map fun _ => ()

def checkInside (node : Node) : Except Fault (List Node) :=
  match node.tag, node with
  | .sequence, .sequence _ items => do
    items.forM checkSelf
    return items.filter isCollection
  | .mapping, .mapping _ entries | .set, .mapping _ entries => do
    let entries ← flattened entries
    entries.forM fun (key, value) => do
      let _ ← key.toKey
      value.checkSelf
    return (entries.map Prod.snd).filter isCollection
  | .orderedMap, .sequence _ items | .pairs, .sequence _ items => do
    let inside ← items.mapM fun item => do
      let (key, value) ← item.onlyEntry
      key.checkSelf
      value.checkSelf
      return [key, value]
    return inside.flatten.filter isCollection
  | _, _ => fail "a collection of another kind than its tag says"

/-- Finds the first fault in collections of one depth, then in those inside them. -/
def checkLevels : Nat → List Node → Except Fault Unit
  | 0, _ => .ok ()
  | depth + 1, nodes => do
    let inside ← nodes.mapM checkInside
    checkLevels depth inside.flatten

def check (node : Node) : Except Fault Unit := do
  node.checkSelf
  if node.isCollection then checkLevels (node.height + 1) [node]

/-- The value of a node of some height. What is within itself is as deep as there is room for. -/
def toValue (room : Room) (height : Nat) (node : Node) : Except Fault Value :=
  match height, node.tag, node with
  | _, tag, .enclosing _ => .ok (.endless (tag = .mapping) room.bound)
  | height + 1, .sequence, .sequence _ items => (items.mapM (toValue room height)).map .list
  | height + 1, .mapping, .mapping _ entries => do
    let entries ← (← flattened entries).mapM fun (key, value) => do
      return (← key.toKey, ← toValue room height value)
    return .ofEntries entries
  | _, .set, .mapping _ entries => do
    return .ofKeys (← (← flattened entries).mapM fun (key, _) => key.toKey)
  | height + 1, .orderedMap, .sequence _ items | height + 1, .pairs, .sequence _ items => do
    let pairs ← items.mapM fun item => do
      let (key, value) ← item.onlyEntry
      return .pair (← toValue room height key) (← toValue room height value)
    return .list pairs
  | _, _, node => node.toScalar.map .ofScalar

end Node

def read (room : Room) (text : Cursor) : Except Fault Value := do
  match ← Node.ofText? room.collections text with
  | none => return .null
  | some node =>
    node.check
    node.toValue room node.height

end AnchoredSet.Yaml
