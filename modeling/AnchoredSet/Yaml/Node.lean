import AnchoredSet.Yaml.Tag
import AnchoredSet.Yaml.Token

/-!
Nodes: scalars, sequences and mappings as the tokens of one document nest them. A missing node is
an empty plain scalar. A node with a name can stand again further on, even within itself, and a tag
says of what type a node is.
-/

namespace AnchoredSet.Yaml

inductive Form where
  | plain
  | quoted
  | tagged (tag : Tag)
  deriving DecidableEq, Repr

/-- The tag of a collection can be that of the other kind, or of a scalar. -/
inductive Node where
  | scalar (points : Text.Points) (form : Form)
  | sequence (tag : Tag) (items : List Node)
  | mapping (tag : Tag) (entries : List (Node × Node))
  /-- A collection around this place, once more. -/
  | enclosing (tag : Tag)
  deriving Repr

/-- The meanings of handles, the nodes with names, and for how many more collections inside one
another there is room. -/
structure Names where
  handles : List (List Char × List Char)
  nodes : List (List Char × Node)
  room : Nat

abbrev Composing := StateT Names Scanner

structure Properties where
  name : Option (List Char)
  tag : Option (List Char)

namespace Properties

def form (given : Properties) (isPlain : Bool) : Form :=
  match given.tag with
  | none => if isPlain then .plain else .quoted
  | some name => if name = ['!'] then .plain else .tagged (.ofName name)

def tagOr (given : Properties) (own : Tag) : Tag :=
  match given.tag with
  | none => own
  | some name => if name = ['!'] then own else .ofName name

end Properties

namespace Composing

variable {α : Type}

def fail (reason : String) : Composing α := fun _ => Scanner.fail reason

def peek : Composing Token := fun names => do return (← Scanner.peek, names)

def pass : Composing Unit := fun names => do
  Scanner.pass
  return ((), names)

def following : Composing Token := do
  pass
  peek

def missing : Node := .scalar [] .plain

/-- The kinds of places where a node stands: in a block, in a block as the value of a key, where a
sequence need not be indented, and in a flow collection. -/
inductive Place where
  | block
  | entry
  | flow
  deriving DecidableEq, Repr

def tagName (text : TagText) : Composing (List Char) := do
  match text.handle with
  | none => return text.rest
  | some handle =>
    match (← get).handles.lookup handle with
    | some meaning => return meaning ++ text.rest
    | none => fail "a handle without a meaning"

def properties : Composing Properties := do
  match ← peek with
  | .anchor name =>
    match ← following with
    | .tag text =>
      pass
      return ⟨some name, some (← tagName text)⟩
    | _ => return ⟨some name, none⟩
  | .tag text =>
    match ← following with
    | .anchor name =>
      pass
      return ⟨some name, some (← tagName text)⟩
    | _ => return ⟨none, some (← tagName text)⟩
  | _ => return ⟨none, none⟩

def requireNew (given : Properties) : Composing Unit := do
  match given.name with
  | none => return
  | some name => if ((← get).nodes.lookup name).isSome then fail "a name that is taken"

def named (given : Properties) (node : Node) : Composing Node := do
  match given.name with
  | none => return node
  | some name =>
    modify fun names => { names with nodes := (name, node) :: names.nodes }
    return node

def tooDeep : Composing α := fun _ _ => .error (.failure .nesting)

/-- Reads a collection, which stands under its name in itself. -/
def collection (given : Properties) (tag : Tag) (read : Composing Node) : Composing Node := do
  requireNew given
  let _ ← named given (.enclosing tag)
  if (← get).room = 0 then tooDeep
  modify fun names => { names with room := names.room - 1 }
  let node ← read
  modify fun names => { names with room := names.room + 1 }
  named given node

def again (name : List Char) : Composing Node := do
  match (← get).nodes.lookup name with
  | some node => return node
  | none => fail "a name without a node"

mutual

def node (place : Place) : Nat → Composing Node
  | 0 => fail "less nesting"
  | fuel + 1 => do
    match ← peek with
    | .again name =>
      pass
      again name
    | _ =>
      let given ← properties
      content place given fuel

def content (place : Place) (given : Properties) : Nat → Composing Node
  | 0 => fail "less nesting"
  | fuel + 1 => do
    match place, ← peek with
    | .entry, .blockEntry =>
      let tag := given.tagOr .sequence
      collection given tag (do return .sequence tag (← items false fuel []))
    | _, .scalar points isPlain =>
      pass
      requireNew given
      named given (.scalar points (given.form isPlain))
    | _, .flowSequence =>
      let tag := given.tagOr .sequence
      collection given tag do
        pass
        return .sequence tag (← flowItems fuel true [])
    | _, .flowMapping =>
      let tag := given.tagOr .mapping
      collection given tag do
        pass
        return .mapping tag (← flowEntries fuel true [])
    | .block, .blockSequence | .entry, .blockSequence =>
      let tag := given.tagOr .sequence
      collection given tag do
        pass
        return .sequence tag (← items true fuel [])
    | .block, .blockMapping | .entry, .blockMapping =>
      let tag := given.tagOr .mapping
      collection given tag do
        pass
        return .mapping tag (← entries fuel [])
    | _, _ =>
      if given.name.isNone && given.tag.isNone then fail "no node"
      requireNew given
      named given (.scalar [] (given.form true))

def nodeOr (marks : List Token) (place : Place) : Nat → Composing Node
  | 0 => fail "less nesting"
  | fuel + 1 => do
    if marks.contains (← peek) then return missing else node place fuel

def valueOr (marks : List Token) (place : Place) : Nat → Composing Node
  | 0 => fail "less nesting"
  | fuel + 1 => do
    match ← peek with
    | .value =>
      pass
      nodeOr marks place fuel
    | _ => return missing

def items (indented : Bool) : Nat → List Node → Composing (List Node)
  | 0, _ => fail "less nesting"
  | fuel + 1, read => do
    match ← peek with
    | .blockEntry =>
      pass
      let marks := if indented then [.blockEntry, .blockEnd]
        else [.blockEntry, .key, .value, .blockEnd]
      let item ← nodeOr marks .block fuel
      items indented fuel (item :: read)
    | .blockEnd =>
      if indented then pass
      return read.reverse
    | _ => if indented then fail "an open block" else return read.reverse

def entries : Nat → List (Node × Node) → Composing (List (Node × Node))
  | 0, _ => fail "less nesting"
  | fuel + 1, read => do
    match ← peek with
    | .key =>
      pass
      let marks := [.key, .value, .blockEnd]
      let key ← nodeOr marks .entry fuel
      let value ← valueOr marks .entry fuel
      entries fuel ((key, value) :: read)
    | .blockEnd =>
      pass
      return read.reverse
    | _ => fail "an open block"

def flowItems : Nat → Bool → List Node → Composing (List Node)
  | 0, _, _ => fail "less nesting"
  | fuel + 1, isFirst, read => do
    match isFirst, ← peek with
    | _, .flowSequenceEnd =>
      pass
      return read.reverse
    | false, .flowEntry =>
      if (← following) = .flowSequenceEnd then
        pass
        return read.reverse
      else
        let item ← flowItem fuel
        flowItems fuel false (item :: read)
    | true, _ =>
      let item ← flowItem fuel
      flowItems fuel false (item :: read)
    | false, _ => fail "no comma and no end of a sequence"

def flowItem : Nat → Composing Node
  | 0 => fail "less nesting"
  | fuel + 1 => do
    match ← peek with
    | .key =>
      pass
      let key ← nodeOr [.value, .flowEntry, .flowSequenceEnd] .flow fuel
      let value ← valueOr [.flowEntry, .flowSequenceEnd] .flow fuel
      return .mapping .mapping [(key, value)]
    | _ => node .flow fuel

def flowEntries : Nat → Bool → List (Node × Node) → Composing (List (Node × Node))
  | 0, _, _ => fail "less nesting"
  | fuel + 1, isFirst, read => do
    match isFirst, ← peek with
    | _, .flowMappingEnd =>
      pass
      return read.reverse
    | false, .flowEntry =>
      if (← following) = .flowMappingEnd then
        pass
        return read.reverse
      else
        let entry ← flowPair fuel
        flowEntries fuel false (entry :: read)
    | true, _ =>
      let entry ← flowPair fuel
      flowEntries fuel false (entry :: read)
    | false, _ => fail "no comma and no end of a mapping"

def flowPair : Nat → Composing (Node × Node)
  | 0 => fail "less nesting"
  | fuel + 1 => do
    match ← peek with
    | .key =>
      pass
      let key ← nodeOr [.value, .flowEntry, .flowMappingEnd] .flow fuel
      let value ← valueOr [.flowEntry, .flowMappingEnd] .flow fuel
      return (key, value)
    | _ => return (← node .flow fuel, missing)

end

/-! The one document of a stream. -/

def ownHandles : List (List Char × List Char) := [(['!'], ['!']), (['!', '!'], Tag.ownStart)]

/-- The directives before a document: one version at most, which must be of the first edition, and
one meaning for each handle. -/
def directives : Nat → Bool → List (List Char × List Char) → Composing Unit
  | 0, _, _ => fail "fewer directives"
  | fuel + 1, versioned, handles => do
    match ← peek with
    | .directive found =>
      pass
      match found with
      | .version major _ =>
        if versioned then fail "a second version"
        if major ≠ 1 then fail "an unknown version"
        directives fuel true handles
      | .handle written meaning =>
        if (handles.lookup written).isSome then fail "a second meaning of a handle"
        directives fuel versioned ((written, meaning) :: handles)
      | .other => directives fuel versioned handles
    | _ => modify fun names => { names with handles := handles ++ ownHandles }

def documentStart (fuel : Nat) : Composing Unit := do
  directives fuel false []
  if (← peek) ≠ .documentStart then fail "no start of a document"
  pass

def isDirective : Token → Bool
  | .directive _ => true
  | _ => false

def markedDocument (fuel : Nat) : Composing Node := do
  documentStart fuel
  let next ← peek
  if isDirective next || [.documentStart, .documentEnd, .streamEnd].contains next then
    return missing
  else node .block fuel

def streamEnd : Nat → Composing Unit
  | 0 => fail "fewer ends of documents"
  | fuel + 1 => do
    match ← peek with
    | .documentEnd =>
      pass
      streamEnd fuel
    | .streamEnd => return
    | _ =>
      documentStart fuel
      fail "a second document"

def document? (fuel : Nat) : Composing (Option Node) := do
  let next ← peek
  if next = .streamEnd then return none
  let root ←
    if next = .documentStart || isDirective next then markedDocument fuel else node .block fuel
  streamEnd fuel
  return some root

end Composing

/-- The one document of a text, where there is room for so many collections inside one another.
Every character gives at most four tokens, and every token is passed by at most eight nested
calls. -/
def Node.ofText? (room : Nat) (text : Cursor) : Except Fault (Option Node) :=
  let fuel := 32 * (text.size + 2)
  (((Composing.document? fuel).run ⟨Composing.ownHandles, [], room⟩).run (.start text)).map (·.1.1)

end AnchoredSet.Yaml
