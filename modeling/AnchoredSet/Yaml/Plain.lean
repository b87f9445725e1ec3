import AnchoredSet.Yaml.Tag
import AnchoredSet.Yaml.Timestamp

/-!
Of what type a scalar without a tag is, by its form: null, a truth value, an integer in one of
several bases, a double, a time, a word with a meaning of its own, or a text.
-/

namespace AnchoredSet.Yaml.Plain

open AnchoredSet.Integer (isDigit splitSign)

def nullWords : List String := ["", "~", "null", "Null", "NULL"]

def truthWords : List String :=
  ["yes", "Yes", "YES", "no", "No", "NO", "true", "True", "TRUE", "false", "False", "FALSE",
   "on", "On", "ON", "off", "Off", "OFF"]

def isSpaced (p : Char → Bool) (text : List Char) : Bool := text.all fun c => c = '_' || p c

def isBinary (c : Char) : Bool := c = '0' || c = '1'

def isOctal (c : Char) : Bool := '0' ≤ c && c ≤ '7'

def isHexDigit (c : Char) : Bool := (AnchoredSet.Text.hexValue? c).isSome

def colonParts : List Char → List (List Char)
  | [] => [[]]
  | ':' :: rest => [] :: colonParts rest
  | c :: rest =>
    match colonParts rest with
    | part :: parts => (c :: part) :: parts
    | [] => [[c]]

def isSixtieth (part : List Char) : Bool :=
  match part with
  | [d] => isDigit d
  | [t, d] => '0' ≤ t && t ≤ '5' && isDigit d
  | _ => false

def isCount : List Char → Bool
  | d :: rest => '1' ≤ d && d ≤ '9' && isSpaced isDigit rest
  | [] => false

def isSixtyCount (text : List Char) : Bool :=
  match colonParts text with
  | first :: second :: others => isCount first && (second :: others).all isSixtieth
  | _ => false

def isInteger (text : List Char) : Bool :=
  match (splitSign text).2 with
  | '0' :: 'b' :: c :: rest => isSpaced isBinary (c :: rest)
  | '0' :: 'x' :: c :: rest => isSpaced isHexDigit (c :: rest)
  | '0' :: rest => isSpaced isOctal rest
  | body => isCount body || isSixtyCount body

def isExponent : List Char → Bool
  | [] => true
  | e :: sign :: d :: rest =>
    (e = 'e' || e = 'E') && (sign = '+' || sign = '-') && (d :: rest).all isDigit
  | _ => false

/-- Digits, a point, and digits and an exponent that may be left out; without digits before the
point there must be one behind it. -/
def isPointed (text : List Char) : Bool :=
  let whole := text.takeWhile fun c => isDigit c || c = '_'
  match text.drop whole.length with
  | '.' :: rest =>
    let decimals := rest.takeWhile fun c => isDigit c || c = '_'
    let digits := if whole.isEmpty then decimals else whole
    digits.head?.any isDigit && isExponent (rest.drop decimals.length)
  | _ => false

def isSixtyPointed (text : List Char) : Bool :=
  match colonParts text with
  | first :: second :: others =>
    let later := second :: others
    let last := later.getLast?.getD []
    let decimals := last.dropWhile (· ≠ '.')
    first.head?.any isDigit && isSpaced isDigit first && later.dropLast.all isSixtieth
      && isSixtieth (last.takeWhile (· ≠ '.')) && decimals.head? = some '.'
      && isSpaced isDigit (decimals.drop 1)
  | _ => false

def isInfinity (text : List Char) : Bool :=
  [".inf", ".Inf", ".INF"].contains (String.ofList text)

def isNaN (text : List Char) : Bool := [".nan", ".NaN", ".NAN"].contains (String.ofList text)

/-- Only a number with digits before the point, or in sixtieths, or infinity has a sign. -/
def isDouble (text : List Char) : Bool :=
  let body := (splitSign text).2
  let bare := body.length = text.length
  isInfinity body || (isNaN body && bare) || (isPointed body && (bare || body.head? ≠ some '.'))
    || isSixtyPointed body

/-- One break at the end of a text does not count, if there is something before it. -/
def withoutBreak (text : List Char) : List Char :=
  if 1 < text.length && text.getLast? = some '\n' then text.dropLast else text

def tagOfChars (text : List Char) : Tag :=
  let text := withoutBreak text
  let word := String.ofList text
  if nullWords.contains word then .null
  else if truthWords.contains word then .bool
  else if isInteger text then .int
  else if isDouble text then .float
  else if Timestamp.isTime text then .timestamp
  else if word = "<<" then .merge
  else if word = "=" then .default
  else .text

def tag (points : Text.Points) : Tag := (points.chars?.map tagOfChars).getD .text

end AnchoredSet.Yaml.Plain
