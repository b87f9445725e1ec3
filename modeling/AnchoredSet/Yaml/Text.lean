import AnchoredSet.Yaml.Cursor

/-!
Plain scalars as they stand in a document. A line break within one is folded: a single break is a
space, and of several the first is dropped.
-/

namespace AnchoredSet.Yaml

def folded (first : Char) (others : List Char) : List Char :=
  if first ≠ '\n' then first :: others
  else if others.isEmpty then [' ']
  else others

def isSpace (x : Char) : Bool := x = ' ' || x = '\t'

namespace Reading

def isFlowMark (x : Char) : Bool := x = ',' || x = '[' || x = ']' || x = '\x7b' || x = '\x7d'

/-- The part of a plain scalar up to a blank, a line break, a colon that ends a key, or a mark of
the flow collection around. -/
def plainFront (inFlow : Bool) : List Char → List Char
  | [] => []
  | x :: rest =>
    let ends := endsToken (some x)
      || (x = ':' && (endsToken rest.head? || (inFlow && rest.head?.any isFlowMark)))
      || (inFlow && (isFlowMark x || x = '?'))
    if ends then [] else x :: plainFront inFlow rest

def plainPart (inFlow : Bool) : Reading (List Char) := do
  let taken := plainFront inFlow (← get).rest
  if (← peek taken.length) = some ':' then
    let _ ← peek (taken.length + 1)
  skip taken.length
  return taken

def plainBreaks : Nat → Reading (Option (List Char))
  | 0 => return none
  | fuel + 1 => do
    if ← atDocumentMarker then return none
    let _ ← run (· = ' ')
    match ← lineBreak with
    | none => return some []
    | some x => return (← plainBreaks fuel).map (x :: ·)

def plainBlanks : Reading (List Char × Bool) := do
  let blanks ← run (· = ' ')
  match ← lineBreak with
  | none => return (blanks, false)
  | some x => return (((← plainBreaks (← bound)).map (folded x)).getD [], true)

/-- Parts and the blanks between them, as long as the lines are indented deeper than the parent.
Tells whether the scalar ended at the end of a line. -/
def plainParts (inFlow : Bool) (indent : Int) :
    Nat → List (List Char) → Bool → List Char → Reading (List Char × Bool)
  | 0, parts, broke, _ => return (parts.reverse.flatten, broke)
  | fuel + 1, parts, broke, blanks => do
    if (← peek 0) = some '#' then return (parts.reverse.flatten, broke)
    let taken ← plainPart inFlow
    if taken.isEmpty then return (parts.reverse.flatten, broke)
    let parts := taken :: blanks :: parts
    let (blanks, broke) ← plainBlanks
    if blanks.isEmpty || (← peek 0) = some '#' || (!inFlow && ((← column) : Int) < indent) then
      return (parts.reverse.flatten, broke)
    plainParts inFlow indent fuel parts broke blanks

def plain (inFlow : Bool) (indent : Int) : Reading (List Char × Bool) := do
  plainParts inFlow indent (← bound) [] false []

end Reading

end AnchoredSet.Yaml
