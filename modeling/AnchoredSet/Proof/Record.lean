import AnchoredSet.Error
import AnchoredSet.Proof
import AnchoredSet.Value.Access

/-!
Proofs as records of named values: what a proof is written as, and what a value of any shape is
read as.
-/

namespace AnchoredSet

def Sibling.toValue (sibling : Sibling) : Value :=
  .map [(.text "node", .text (Hex.marked sibling.node)), (.text "onRight", .bool sibling.onRight)]

def Sibling.parts (value : Value) : Except ValueFault (Bytes × Value) := do
  let node ← (← value.entry "node").decodeHex
  return (node, ← value.entry "onRight")

/-- A fault shows the whole record, and its cause where a part could not be read. A record that
cannot be shown is no fault of the proof. -/
def Sibling.fault (room : Room) (value : Value) (cause : Option ValueFault) : Error :=
  match value.shown room.fits 0 with
  | .ok shown => .malformedProof (.element shown cause)
  | .error .longInteger => .value .longInteger
  | .error .nesting => .nestingShown

def Sibling.ofValue (room : Room) (value : Value) : Except Error Sibling :=
  match Sibling.parts value with
  | .error cause => .error (Sibling.fault room value (some cause))
  | .ok (node, .scalar (.bool onRight)) =>
    if node.length = digestLength then .ok ⟨node, onRight⟩
    else .error (Sibling.fault room value none)
  | .ok _ => .error (Sibling.fault room value none)

namespace ExclusionProof

def toValue (proof : ExclusionProof) : Value :=
  .map
    [(.text "proofs", .list (proof.proofs.map fun path => .list (path.map Sibling.toValue))),
     (.text "neighbors", .list (proof.neighbors.map fun neighbor => .text (Hex.marked neighbor)))]

def ofValueFault (fault : ValueFault) : Error := .malformedProof (.exclusion fault)

def handle {α : Type} : Except Error α → Except Error α
  | .error (.value fault) => .error (ofValueFault fault)
  | result => result

def readPath (room : Room) (value : Value) : Except Error InclusionProof := do
  (← value.elements.mapError .value).mapM (Sibling.ofValue room)

def ofValue (room : Room) (value : Value) : Except Error ExclusionProof := handle do
  let listed ← value.entry "proofs" |>.bind Value.elements |>.mapError .value
  let proofs ← listed.mapM (readPath room)
  let named ← value.entry "neighbors" |>.bind Value.elements |>.mapError .value
  let neighbors ← named.mapM fun neighbor => neighbor.decodeHex.mapError .value
  return ⟨proofs, neighbors⟩

end ExclusionProof

end AnchoredSet
