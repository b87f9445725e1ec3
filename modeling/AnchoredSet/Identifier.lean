import AnchoredSet.Error
import AnchoredSet.Text.Blank
import AnchoredSet.Value

/-!
Identifiers: byte strings of one length. Texts are read behind the marker `0x` as digits of base
16, and otherwise in base 58; blanks around them do not count.
-/

namespace AnchoredSet.Identifier

def defaultLength : Int := 32

def isWord (n : Int) : Bool := -0x8000000000000000 ≤ n && n < 0x8000000000000000

/-- Byte strings come with 33 bytes of their own. -/
def longestCount : Int := 0x7FFFFFFFFFFFFFFF - 33

def requireCount (length : Int) : Except Error Unit :=
  if !isWord length then .error .wideCount
  else if length < 0 then .error .negativeCount
  else if longestCount < length then .error .longCount
  else .ok ()

def placeholder (length : Int) : Except Error Bytes := do
  requireCount length
  return Bytes.zeros length.toNat

def ofText (text : String) : Except IdentifierFault Bytes :=
  let inner := Text.strip text.toList
  if Hex.hasMarker inner then (Hex.decode inner).mapError (.hex (Text.quoted text))
  else (Base58.decode inner).mapError (.base58 (Text.quoted text))

def refuseHalves (points : Text.Points) : IdentifierFault :=
  let inner := points.strip
  if Hex.hasMarkerPoints inner then .hex points.quoted (Hex.refuseHalves inner)
  else .base58 points.quoted (.notAscii inner.asciiFault)

def rawOfValue : Value → Except IdentifierFault Bytes
  | .bytes _ data => .ok data
  | .scalar (.text s) => ofText s
  | .scalar (.halves points) => .error (refuseHalves points)
  | value => .error (.unsupportedType value.typeName)

def ofValue (value : Value) (length : Int) : Except IdentifierFault Bytes := do
  let raw ← rawOfValue value
  if (raw.length : Int) = length then return raw else throw (.wrongLength length raw.length)

def requireMember (identifier : Bytes) : Except Error Unit :=
  if identifier.isZero then .error .zeroLeaf else .ok ()

def decode (value : Value) (length : Int) : Except Error Bytes :=
  (ofValue value length).mapError (IdentifierFault.raise .invalidIdentifier)

def decodeMember (value : Value) (length : Int) : Except Error Bytes := do
  let identifier ← decode value length
  requireMember identifier
  return identifier

end AnchoredSet.Identifier
