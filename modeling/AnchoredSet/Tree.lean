import AnchoredSet.Audit.Event
import AnchoredSet.Levels
import AnchoredSet.Verify

/-!
The tree over a set of members. Every change builds all levels anew, so the levels are those of the
set as long as no stored node is altered from outside; a proof is handed out only if every node on
its path is the stored one.
-/

namespace AnchoredSet

structure Tree where
  leafSet : LeafSet
  levels : Levels
  deriving DecidableEq, Repr

structure Corruption where
  level : Nat
  index : Nat
  size : Nat
  expected : Bytes
  deriving DecidableEq, Repr

inductive PathFault where
  | corrupt (c : Corruption)
  | outside
  deriving DecidableEq, Repr

namespace PathFault

def error : PathFault → Error
  | corrupt c => .corruptTree c.expected c.level c.index
  | outside => .levelIndex

def events : PathFault → List Event
  | corrupt c => [.nodeCorrupt c.level c.index c.size c.expected]
  | outside => []

end PathFault

namespace Tree

def size (tree : Tree) : Nat := tree.leafSet.size

def depth (tree : Tree) : Nat := tree.levels.depth

def root? (tree : Tree) : Option Bytes := tree.levels.root?

def root (tree : Tree) : Bytes := tree.root?.getD []

def rawLeaves (tree : Tree) : List Bytes := tree.leafSet.leaves

def decode (tree : Tree) (value : Value) : Except Error Bytes := tree.leafSet.decode value

def contains (tree : Tree) (value : Value) : Except Error Bool := do
  return tree.leafSet.contains (← tree.decode value)

def ofLeafSet (s : LeafSet) : Tree := ⟨s, Levels.build s.leaves s.identifierLength.toNat⟩

def rebuiltEvent (tree : Tree) : Event := .treeRebuilt tree.size tree.depth tree.root

/-- Members are byte strings, so that only without any of them the length can be one that is not
counted. -/
def create (values : List Value) (length : Int) : Outcome Tree :=
  let made := do
    let s ← LeafSet.ofIdentifiers values length
    Identifier.requireCount length
    return ofLeafSet s
  match made with
  | .ok tree => ⟨.ok tree, [tree.rebuiltEvent]⟩
  | .error e => ⟨.error e, []⟩

def changedSet (s : LeafSet) (identifier : Bytes) : Change → Except Error LeafSet
  | .add => s.insert identifier
  | .remove => s.erase identifier

/-- Adds or removes a member. A value that is no identifier leaves no trace in the log; any other
refusal does. -/
def change (tree : Tree) (change : Change) (value : Value) : Outcome Tree :=
  match tree.decode value with
  | .error e => ⟨.error e, []⟩
  | .ok identifier =>
    match changedSet tree.leafSet identifier change with
    | .error e => ⟨.error e, [.changeRejected change identifier e]⟩
    | .ok s =>
      let next := ofLeafSet s
      ⟨.ok next, [next.rebuiltEvent, .leafChanged change identifier next.size next.root]⟩

def answer (changed : Outcome Tree) : Except Error Bytes := changed.result.map root

def add (tree : Tree) (value : Value) : Outcome Tree := tree.change .add value

def remove (tree : Tree) (value : Value) : Outcome Tree := tree.change .remove value

def after (tree : Tree) (change : Change) (value : Value) : Tree :=
  match (tree.change change value).result with
  | .ok next => next
  | .error _ => tree

def checkNode (nodes : List Bytes) (level index : Nat) (expected : Bytes) :
    Except PathFault Unit :=
  if nodes[index]? = some expected then .ok ()
  else .error (.corrupt ⟨level, index, nodes.length, expected⟩)

/-- The place of a node's sibling on a level of some size: its own when the node is last and has no
partner. -/
def siblingIndex (size index : Nat) : Nat :=
  if index % 2 = 1 then index - 1 else if index + 1 < size then index + 1 else index

def siblingAt (nodes : List Bytes) (index : Nat) : Except PathFault Sibling :=
  match nodes[siblingIndex nodes.length index]? with
  | some node => .ok ⟨node, index % 2 = 0⟩
  | none => .error .outside

def join (hash : Bytes) (sibling : Sibling) : Bytes :=
  if sibling.onRight then hashNode hash sibling.node else hashNode sibling.node hash

/-- The siblings from a node up. Each parent is compared with the stored one. -/
def path (level index : Nat) (hash : Bytes) : Levels → Except PathFault InclusionProof
  | nodes :: above :: rest => do
    let sibling ← siblingAt nodes index
    let parent := join hash sibling
    checkNode above (level + 1) (index / 2) parent
    return sibling :: (← path (level + 1) (index / 2) parent (above :: rest))
  | _ => return []

/-- Where the path of a member starts. On request the last of an odd number of members starts at
its copy. -/
def startIndex (size index : Nat) (useDuplicate : Bool) : Nat :=
  if useDuplicate && size % 2 = 1 && index = size - 1 then index + 1 else index

def pathFrom (tree : Tree) (identifier : Bytes) (index : Nat) : Except PathFault InclusionProof :=
  if tree.depth = 0 then .ok []
  else do
    checkNode (tree.levels.headD []) 0 index (hashLeaf identifier)
    path 0 index (hashLeaf identifier) tree.levels

def inclusionProofOf (tree : Tree) (identifier : Bytes) (useDuplicate : Bool) :
    Outcome InclusionProof :=
  match tree.leafSet.indexOf identifier with
  | .error e => ⟨.error e, []⟩
  | .ok index =>
    match tree.pathFrom identifier (startIndex tree.size index useDuplicate) with
    | .ok proof => ⟨.ok proof, []⟩
    | .error fault => ⟨.error fault.error, fault.events⟩

def inclusionProof (tree : Tree) (value : Value) (useDuplicate : Bool) : Outcome InclusionProof :=
  match tree.decode value with
  | .error e => ⟨.error e, []⟩
  | .ok identifier => tree.inclusionProofOf identifier useDuplicate

/-- Only the last member of an odd number is proven through its copy. -/
def neighborProof (tree : Tree) (neighbor : Bytes) : Role → Outcome InclusionProof
  | .empty => ⟨.ok [], []⟩
  | .last => tree.inclusionProofOf neighbor true
  | _ => tree.inclusionProofOf neighbor false

def neighborProofs (tree : Tree) : List (Bytes × Role) → Outcome (List InclusionProof)
  | [] => ⟨.ok [], []⟩
  | (neighbor, role) :: rest =>
    let ⟨first, told⟩ := tree.neighborProof neighbor role
    match first with
    | .error e => ⟨.error e, told⟩
    | .ok proof =>
      let ⟨others, more⟩ := tree.neighborProofs rest
      ⟨others.map (proof :: ·), told ++ more⟩

def exclusionProofOf (tree : Tree) (identifier : Bytes) : Outcome ExclusionProof :=
  match tree.leafSet.locate identifier with
  | .error e => ⟨.error e, []⟩
  | .ok located =>
    let ⟨proofs, told⟩ := tree.neighborProofs located
    match proofs with
    | .error e => ⟨.error e, told⟩
    | .ok proofs =>
      ⟨.ok ⟨proofs, located.map Prod.fst⟩,
        told ++ [.exclusionProved identifier (located.map Prod.snd) tree.depth]⟩

def exclusionProof (tree : Tree) (value : Value) : Outcome ExclusionProof :=
  match tree.decode value with
  | .error e => ⟨.error e, []⟩
  | .ok identifier => tree.exclusionProofOf identifier

def setNode (tree : Tree) (level index : Int) (node : Bytes) : Except Error Tree := do
  let (l, i) ← tree.levels.locate level index
  return { tree with levels := tree.levels.setNode l i node }

def dropNode (tree : Tree) (level index : Int) : Except Error Tree := do
  let (l, i) ← tree.levels.locate level index
  return { tree with levels := tree.levels.dropNode l i }

end Tree

/-! Verification for callers: identifiers and roots in any form, and the answer logged. -/

/-- A root is given as bytes, or as digits of base 16 with or without their marker. -/
def readRoot : Value → Except ProofFault Bytes
  | .scalar (.text s) => (Hex.decode (Text.strip s.toList)).mapError (.rootText (Text.quoted s))
  | .scalar (.halves points) => .error (.rootText points.quoted (Hex.refuseHalves points.strip))
  | .bytes _ data => .ok data
  | value => .error (.rootType value.typeName)

def readNeighbors (values : List Value) (length : Int) : Except Error (List Bytes) :=
  (values.mapM fun value => Identifier.ofValue value length).mapError
    (IdentifierFault.raise fun fault => .malformedProof (.neighbor fault))

def checkInclusion (value : Value) (proof : InclusionProof) (root : Value) (length : Int) :
    Outcome Bool :=
  let checked := do
    let identifier ← Identifier.decode value length
    let root ← (readRoot root).mapError .malformedProof
    return (identifier, verifyInclusion identifier proof root)
  match checked with
  | .error e => ⟨.error e, []⟩
  | .ok (identifier, success) => ⟨.ok success, [.proofVerified .inclusion identifier success]⟩

def checkExclusion (value : Value) (proofs : List InclusionProof) (neighbors : List Value)
    (root : Value) (length : Int) : Outcome Bool :=
  let checked := do
    let identifier ← Identifier.decode value length
    let read ← readNeighbors neighbors length
    let root ← (readRoot root).mapError .malformedProof
    return (identifier, ← verifyExclusion identifier proofs read root)
  match checked with
  | .error e => ⟨.error e, []⟩
  | .ok (identifier, success) =>
    ⟨.ok success, [.proofVerified (.exclusion neighbors.length) identifier success]⟩

def Tree.checkExclusion (tree : Tree) (value : Value) (proof : ExclusionProof)
    (root : Option Value) : Outcome Bool :=
  let against := root.orElse fun _ => tree.root?.map (Value.bytes .constant)
  match against with
  | none => ⟨.error .levelIndex, []⟩
  | some root =>
    AnchoredSet.checkExclusion value proof.proofs
      (proof.neighbors.map (Value.bytes .constant)) root tree.leafSet.identifierLength

end AnchoredSet
