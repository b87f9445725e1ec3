import AnchoredSet.Number.Positional
import AnchoredSet.Text.Blank
import AnchoredSet.Text.Digit

/-!
Integers in digits. In decimal neither reading nor writing goes beyond 4300 digits; bases of powers
of two are read only, and without a limit.
-/

namespace AnchoredSet.Integer

def digitLimit : Nat := 4300

def decimal (n : Int) : String :=
  if n < 0 then "-" ++ toString n.natAbs else toString n.natAbs

/-- Nothing for a number of more digits than the limit. -/
def render? (n : Int) : Option String :=
  if (toString n.natAbs).length > digitLimit then none else some (decimal n)

inductive ReadFault where
  | literal
  | digits (count : Nat)
  deriving DecidableEq, Repr

/-- What a character stands for in a number: blanks and digits of every script count as the ASCII
ones, and any other character beyond ASCII as a question mark. -/
def plain (c : Char) : Char :=
  if c.toNat < 128 then c
  else if Text.isBlank c then ' '
  else match Text.decimalValue? c with
    | some value => Char.ofNat (0x30 + value)
    | none => '?'

/-- Of the ASCII blanks the separators 28 to 31 do not surround numbers. -/
def isPadding (c : Char) : Bool := c = ' ' || (9 ≤ c.toNat && c.toNat ≤ 13)

def isDigit (c : Char) : Bool := '0' ≤ c && c ≤ '9'

def digitValue (c : Char) : Nat := c.toNat - 0x30

def wellSpaced : List Char → Bool
  | [] => true
  | ['_'] => false
  | '_' :: '_' :: _ => false
  | _ :: rest => wellSpaced rest

def splitSign : List Char → Bool × List Char
  | '-' :: rest => (true, rest)
  | '+' :: rest => (false, rest)
  | text => (false, text)

def signed (negative : Bool) (n : Nat) : Int := if negative then -(n : Int) else n

def digitIn? (base : Nat) (c : Char) : Option Nat := (Text.hexValue? c).filter (· < base)

def baseMarks : List (Char × Nat) := [('b', 2), ('o', 8), ('x', 16)]

def dropMark (base : Nat) (text : List Char) : List Char :=
  match text with
  | '0' :: mark :: rest => if baseMarks.lookup mark.toLower = some base then rest else text
  | text => text

/-- Blanks around, one sign, the mark of the base, and digits with single underscores between them.
The limit is tested before what follows the digits. -/
def readIn (base : Nat) (text : List Char) : Except ReadFault Int :=
  let (negative, body) := splitSign ((text.map plain).dropWhile isPadding)
  let body := dropMark base body
  let run := body.takeWhile fun c => (digitIn? base c).isSome || c = '_'
  let digits := run.filterMap (digitIn? base)
  if run.head? = some '_' || !wellSpaced run then .error .literal
  else if base = 10 && digits.length > digitLimit then .error (.digits digits.length)
  else if digits.isEmpty || !(body.drop run.length).all isPadding then .error .literal
  else .ok (signed negative (Positional.ofDigits base digits))

def read (text : List Char) : Except ReadFault Int := readIn 10 text

end AnchoredSet.Integer
