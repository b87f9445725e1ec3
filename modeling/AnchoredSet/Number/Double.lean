import AnchoredSet.Number.Integer

/-!
Numbers of 64 bits with a binary exponent, held by their bits, and their exact values.
-/

namespace AnchoredSet

structure Double where
  bits : UInt64
  deriving DecidableEq, Repr

namespace Double

def negative (x : Double) : Bool := x.bits >>> 63 = 1

def exponentField (x : Double) : Nat := (x.bits >>> 52 &&& 0x7FF).toNat

def fraction (x : Double) : Nat := (x.bits &&& 0xFFFFFFFFFFFFF).toNat

def isFinite (x : Double) : Bool := x.exponentField ≠ 0x7FF

def isNaN (x : Double) : Bool := !x.isFinite && x.fraction ≠ 0

def isInfinite (x : Double) : Bool := !x.isFinite && x.fraction = 0

def isZero (x : Double) : Bool := x.exponentField = 0 && x.fraction = 0

/-- The whole number that is scaled by `2 ^ scale` to give the size of a finite number. -/
def mantissa (x : Double) : Nat :=
  if x.exponentField = 0 then x.fraction else x.fraction + 0x10000000000000

def scale (x : Double) : Int := (max x.exponentField 1 : Nat) - 1075

def wholeSize (x : Double) : Nat :=
  if x.scale < 0 then x.mantissa >>> x.scale.natAbs else x.mantissa <<< x.scale.natAbs

def truncate (x : Double) : Int := Integer.signed x.negative x.wholeSize

def toInt? (x : Double) : Option Int :=
  let exact := 0 ≤ x.scale || x.wholeSize <<< x.scale.natAbs = x.mantissa
  if x.isFinite && exact then some x.truncate
  else none

def zero : Double := ⟨0⟩

def infinity : Double := ⟨0x7FF0000000000000⟩

def nan : Double := ⟨0x7FF8000000000000⟩

/-- A value that is not a number and is like no other one. -/
def strayNaN : Double := ⟨0xFFF8000000000000⟩

def negate (x : Double) : Double := ⟨x.bits ^^^ 0x8000000000000000⟩

/-- The double next to `m * 10 ^ e`. Beyond the exponents tested here every number is zero or
infinite. -/
def ofDecimal (m : Nat) (e : Int) : Double :=
  let top := (toString m).length + e
  if m = 0 || top < -400 then zero
  else if top > 400 then infinity
  else if e < 0 then ⟨(Float.ofScientific m true e.natAbs).toBits⟩
  else ⟨(Float.ofScientific m false e.natAbs).toBits⟩

def readUnsigned? (text : List Char) : Option Double :=
  let whole := text.takeWhile Integer.isDigit
  let rest := text.drop whole.length
  let (decimals, rest) := match rest with
    | '.' :: rest => (rest.takeWhile Integer.isDigit, rest.dropWhile Integer.isDigit)
    | rest => ([], rest)
  let digits := whole ++ decimals
  let value (exponent : Int) : Double :=
    ofDecimal (Positional.ofDigits 10 (digits.map Integer.digitValue)) (exponent - decimals.length)
  match digits, rest with
  | [], _ => none
  | _, [] => some (value 0)
  | _, c :: rest =>
    let (negative, exponent) := Integer.splitSign rest
    if (c = 'e' || c = 'E') && !exponent.isEmpty && exponent.all Integer.isDigit then
      let size := Positional.ofDigits 10 (exponent.map Integer.digitValue)
      some (value (Integer.signed negative size))
    else none

def signed (negative : Bool) (x : Double) : Double :=
  if negative && !x.isNaN then x.negate else x

def read? (text : List Char) : Option Double :=
  let text := (text.map Integer.plain).dropWhile Integer.isPadding
  let text := (text.reverse.dropWhile Integer.isPadding).reverse
  let (negative, body) := Integer.splitSign text
  let word := String.ofList (body.map Char.toLower)
  let size :=
    if word = "inf" || word = "infinity" then some infinity
    else if word = "nan" then some strayNaN
    else readUnsigned? body
  size.map (signed negative)

end Double

end AnchoredSet
