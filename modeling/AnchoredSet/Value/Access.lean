import AnchoredSet.Value
import AnchoredSet.Value.Fault

/-!
Reaching into a value: the entry under a text key, the elements in order, the number or truth it
stands for.
-/

namespace AnchoredSet.Value

def find? (key : String) : Value → Except ValueFault (Option Value)
  | map entries => .ok (entries.lookup (.text key))
  | value => .error (.noLookup value.typeName)

def entry (key : String) : Value → Except ValueFault Value
  | map entries =>
    match entries.lookup (.text key) with
    | some value => .ok value
    | none => .error (.missingKey (Text.quoted key))
  | scalar (.text _) | scalar (.halves _) => .error (.badIndex "str")
  | scalar (.bytes _) => .error (.badIndex "bytes")
  | scalar s => .error (.notSubscriptable s.typeName)
  | set _ => .error (.notSubscriptable "set")
  | value => .error (.badIndex value.typeName)

/-- A text gives its characters, a byte string its bytes as numbers, and a map its keys. -/
def elements : Value → Except ValueFault (List Value)
  | list items => .ok items
  | pair first second => .ok [first, second]
  | map entries => .ok (entries.map fun (key, _) => ofScalar key)
  | set items => .ok (items.map ofScalar)
  | scalar (.bytes data) => .ok (data.map fun byte => int byte.toNat)
  | bytes _ data => .ok (data.map fun byte => int byte.toNat)
  | scalar (.text s) => .ok (s.toList.map fun c => text (String.singleton c))
  | scalar (.halves points) => .ok (points.map fun point => scalar (.ofPoints [point]))
  | scalar s => .error (.notIterable s.typeName)

def decodeHex : Value → Except ValueFault Bytes
  | scalar (.text s) => (Hex.decode s.toList).mapError .hex
  | scalar (.halves points) => .error (.hex (Hex.refuseHalves points))
  | _ => .error (.hex .notText)

def readNumeral (base : Nat) (text : List Char) (shown : String) : Except ValueFault Int :=
  match Integer.readIn base text with
  | .ok n => .ok n
  | .error .literal => .error (.badNumeral base (String.ofList (shown.toList.take 200)))
  | .error (.digits count) => .error (.longNumeral count)

/-- Texts and byte strings are read as numerals, doubles are cut toward zero. Of a byte string only
ASCII counts, and a fault shows its first 200 bytes. -/
def toInt : Value → Except ValueFault Int
  | scalar (.bool b) => .ok (if b then 1 else 0)
  | scalar (.int n) => .ok n
  | scalar (.float x) =>
    if x.isNaN then .error .notANumber
    else if x.isInfinite then .error .infinite
    else .ok x.truncate
  | scalar (.text s) => readNumeral 10 s.toList (Text.quoted s)
  | scalar (.halves points) => readNumeral 10 (points.map Text.Points.numeralChar) points.quoted
  | scalar (.bytes data) | bytes _ data =>
    let chars := data.map fun byte => if byte < 128 then Char.ofNat byte.toNat else '?'
    readNumeral 10 chars (Text.quotedBytes (data.take 200))
  | value => .error (.notNumber value.typeName)

end AnchoredSet.Value
