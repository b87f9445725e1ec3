import AnchoredSet.Text.Blank
import AnchoredSet.Text.Points

/-!
Bytes as pairs of digits of base 16, with the marker `0x` in front where they are shown.
-/

namespace AnchoredSet

namespace Text

structure AsciiFault where
  start : Nat
  run : Points
  deriving DecidableEq, Repr

def isAscii (c : Char) : Bool := c.toNat < 128

def AsciiFault.message (fault : AsciiFault) : String :=
  let subject := match fault.run with
    | [point] => s!"character '{String.ofList (escapeCode point)}' in position {fault.start}"
    | run => s!"characters in position {fault.start}-{fault.start + run.length - 1}"
  "'ascii' codec can't encode " ++ subject ++ ": ordinal not in range(128)"

def Points.asciiFault (points : Points) : AsciiFault :=
  let plain := points.takeWhile (· < 128)
  ⟨plain.length, (points.drop plain.length).takeWhile (128 ≤ ·)⟩

def requireAscii (text : List Char) : Except AsciiFault Unit :=
  if text.all isAscii then .ok () else .error (Points.asciiFault (.ofChars text))

namespace Points

def isBlank (point : Nat) : Bool := (char? point).any Text.isBlank

def strip (points : Points) : Points :=
  ((points.dropWhile isBlank).reverse.dropWhile isBlank).reverse

end Points

end Text

namespace Hex

inductive Fault where
  | notText
  | notAscii (fault : Text.AsciiFault)
  | oddLength
  | badDigit
  deriving DecidableEq, Repr

def Fault.message : Fault → String
  | .notText => "Value must be an instance of str"
  | .notAscii fault => fault.message
  | .oddLength => "Odd-length string"
  | .badDigit => "Non-hexadecimal digit found"

def encode (data : Bytes) : List Char := data.flatMap fun byte => Text.hexDigits 2 byte.toNat

def marked (data : Bytes) : String := String.ofList ('0' :: 'x' :: encode data)

def hasMarker : List Char → Bool
  | '0' :: 'x' :: _ => true
  | '0' :: 'X' :: _ => true
  | _ => false

def unmarked (text : List Char) : List Char := if hasMarker text then text.drop 2 else text

def hasMarkerPoints (points : Text.Points) : Bool :=
  hasMarker ((points.take 2).map Text.Points.numeralChar)

def refuseHalves (points : Text.Points) : Fault :=
  .notAscii (Text.Points.asciiFault (if hasMarkerPoints points then points.drop 2 else points))

def readPairs? : List Char → Option Bytes
  | high :: low :: rest => do
    let h ← Text.hexValue? high
    let l ← Text.hexValue? low
    let tail ← readPairs? rest
    return UInt8.ofNat (16 * h + l) :: tail
  | [] => some []
  | [_] => none

/-- One marker may stand in front. Characters beyond ASCII are refused first, then an odd number of
digits. -/
def decode (text : List Char) : Except Fault Bytes := do
  let digits := unmarked text
  (Text.requireAscii digits).mapError .notAscii
  if digits.length % 2 = 1 then throw .oddLength
  match readPairs? digits with
  | some data => return data
  | none => throw .badDigit

end Hex

end AnchoredSet
