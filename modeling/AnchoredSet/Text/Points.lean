import AnchoredSet.Text.Quoted
import AnchoredSet.Text.Utf8

/-!
Texts by their code points. A string holds characters only, but an escape in a document can also
name one half of a surrogate pair; a text with such a half is held by its code points.
-/

namespace AnchoredSet.Text

abbrev Points := List Nat

namespace Points

def ofChars (text : List Char) : Points := text.map Char.toNat

def char? (point : Nat) : Option Char :=
  if point.isValidChar then some (Char.ofNat point) else none

def chars? (points : Points) : Option (List Char) := points.mapM char?

def isHigh (point : Nat) : Bool := 0xD800 ≤ point && point ≤ 0xDBFF

def isLow (point : Nat) : Bool := 0xDC00 ≤ point && point ≤ 0xDFFF

def isHalf (point : Nat) : Bool := isHigh point || isLow point

def pair (high low : Nat) : Char :=
  Char.ofNat (0x10000 + (high - 0xD800) * 0x400 + (low - 0xDC00))

/-- The characters as they are passed on: two halves in order make one, and a half that is left
is shown by the replacement character. -/
def joined : Points → List Char
  | high :: low :: rest =>
    if isHigh high && isLow low then pair high low :: joined rest
    else (char? high).getD '\uFFFD' :: joined (low :: rest)
  | [point] => [(char? point).getD '\uFFFD']
  | [] => []

def numeralChar (point : Nat) : Char := (char? point).getD '?'

def escapePoint (quote : Char) (point : Nat) : List Char :=
  match char? point with
  | some c => escape quote c
  | none => escapeCode point

def quoted (points : Points) : String :=
  let quote := chooseQuote (points.filterMap char?)
  String.ofList (quote :: points.flatMap (escapePoint quote) ++ [quote])

/-! Texts of the environment are bytes, and a half from U+DC80 to U+DCFF stands for a byte that is
no part of a character. -/

structure HalfFault where
  start : Nat
  run : Points
  deriving DecidableEq, Repr

def HalfFault.message (fault : HalfFault) : String :=
  let subject := match fault.run with
    | [point] => s!"character '{String.ofList (escapeCode point)}' in position {fault.start}"
    | run => s!"characters in position {fault.start}-{fault.start + run.length - 1}"
  "'utf-8' codec can't encode " ++ subject ++ ": surrogates not allowed"

def standsForByte (point : Nat) : Bool := 0xDC80 ≤ point && point ≤ 0xDCFF

/-- The first half that stands for no byte, and all halves that follow it directly. -/
def halfFault? (points : Points) : Option HalfFault :=
  let before := points.takeWhile fun point => !isHalf point || standsForByte point
  match points.drop before.length with
  | [] => none
  | rest => some ⟨before.length, rest.takeWhile isHalf⟩

def pointBytes (point : Nat) : Bytes :=
  match char? point with
  | some c => String.utf8EncodeChar c
  | none => [UInt8.ofNat point]

def toBytes (points : Points) : Except HalfFault Bytes :=
  match halfFault? points with
  | some fault => .error fault
  | none => .ok (points.flatMap pointBytes)

def firstChar? (data : Bytes) : Option (Char × Nat) :=
  [1, 2, 3, 4].findSome? fun width =>
    match decodeUtf8 (data.take width) with
    | .ok [c] => some (c, width)
    | _ => none

/-- The text of bytes. A byte that begins no character stands for itself. -/
def ofBytes : Bytes → Points
  | [] => []
  | byte :: rest =>
    match firstChar? (byte :: rest) with
    | some (c, width) => c.toNat :: ofBytes (rest.drop (width - 1))
    | none => (0xDC00 + byte.toNat) :: ofBytes rest
termination_by data => data.length
decreasing_by all_goals simp only [List.length_drop, List.length_cons]; omega

end Points

end AnchoredSet.Text
