import AnchoredSet.Text.Points
import AnchoredSet.Yaml.Text

/-!
Scalars between quotes. Line breaks are folded, and between quotation marks a backslash starts an
escape.
-/

namespace AnchoredSet.Yaml

open AnchoredSet.Text (Points apostrophe quotationMark hexValue?)

namespace Reading

def quotedBreaks : Nat → Reading (List Char)
  | 0 => fail "unterminated line"
  | fuel + 1 => do
    if ← atDocumentMarker then fail "document marker within quotes"
    let _ ← run isSpace
    match ← lineBreak with
    | none => return []
    | some x => return x :: (← quotedBreaks fuel)

def quotedBlanks : Reading (List Char) := do
  let blanks ← run isSpace
  match ← peek 0 with
  | none => fail "unclosed quote"
  | some _ =>
    match ← lineBreak with
    | none => return blanks
    | some x => return folded x (← quotedBreaks (← bound))

def escapes : List (Char × Char) :=
  [('0', '\x00'), ('a', '\x07'), ('b', '\x08'), ('t', '\t'), ('\t', '\t'), ('n', '\n'),
   ('v', '\x0B'), ('f', '\x0C'), ('r', '\r'), ('e', '\x1B'), (' ', ' '),
   (quotationMark, quotationMark), ('\\', '\\'), ('/', '/'),
   ('N', '\x85'), ('_', '\xA0'), ('L', '\u2028'), ('P', '\u2029')]

def escapeWidths : List (Char × Nat) := [('x', 2), ('u', 4), ('U', 8)]

def hexAhead (known : Nat) : Nat → Reading (List Nat)
  | 0 => return []
  | more + 1 => do
    match (← peek known).bind hexValue? with
    | some value => return value :: (← hexAhead (known + 1) more)
    | none => fail "escape without its digits"

def escapedPoint (width : Nat) : Reading Points := do
  let code := Positional.ofDigits 16 (← hexAhead 0 width)
  if 0x110000 ≤ code then throw (.failure (.codePoint code))
  skip width
  return [code]

def escape : Reading Points := do
  match ← peek 0 with
  | none => fail "unclosed quote"
  | some x =>
    match escapes.lookup x, escapeWidths.lookup x with
    | some y, _ =>
      skip 1
      return [y.toNat]
    | none, some width =>
      skip 1
      escapedPoint width
    | none, none =>
      match ← lineBreak with
      | some _ => return Points.ofChars (← quotedBreaks (← bound))
      | none => fail "unknown escape"

def isQuotedPlain (x : Char) : Bool :=
  !(x = apostrophe || x = quotationMark || x = '\\' || isSpace x || isBreak x)

/-- Reads up to the closing quote, with the parts so far (last first). Between apostrophes an
apostrophe is written twice; between quotation marks a backslash starts an escape. -/
def quotedParts (quote : Char) : Nat → List Points → Reading Points
  | 0, _ => fail "unclosed quote"
  | fuel + 1, parts => do
    let taken ← run isQuotedPlain
    let parts := Points.ofChars taken :: parts
    let double := quote = quotationMark
    match ← peek 0 with
    | none => fail "unclosed quote"
    | some x =>
      if x = quote then
        let twice ← if double then pure false else pure ((← peek 1) = some quote)
        if twice then
          skip 2
          quotedParts quote fuel ([quote.toNat] :: parts)
        else
          skip 1
          return parts.reverse.flatten
      else if isSpace x || isBreak x then
        let blanks ← quotedBlanks
        quotedParts quote fuel (Points.ofChars blanks :: parts)
      else if double && x = '\\' then
        skip 1
        let points ← escape
        quotedParts quote fuel (points :: parts)
      else
        skip 1
        quotedParts quote fuel ([x.toNat] :: parts)

def quoted (quote : Char) : Reading Points := do
  skip 1
  quotedParts quote (← bound) []

end Reading

end AnchoredSet.Yaml
