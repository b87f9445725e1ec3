import AnchoredSet.Number.Integer
import AnchoredSet.Yaml.Text

/-!
Scalars as blocks of lines that are deeper than their parent. A mark says whether the lines are
folded, and what becomes of the breaks behind the last one.
-/

namespace AnchoredSet.Yaml

inductive Chomping where
  | strip
  | clip
  | keep
  deriving DecidableEq, Repr

namespace Reading

def chomping? : Option Char → Option Chomping
  | some '+' => some .keep
  | some '-' => some .strip
  | _ => none

def takeChomping : Reading (Option Chomping) := do
  let found := chomping? (← peek 0)
  if found.isSome then skip 1
  return found

def takeIncrement : Reading (Option Nat) := do
  match ← peek 0 with
  | some x =>
    if x = '0' then fail "no indentation"
    else if Integer.isDigit x then
      skip 1
      return some (Integer.digitValue x)
    else return none
  | none => return none

def blockHeader : Reading (Chomping × Option Nat) := do
  let first ← takeChomping
  let increment ← takeIncrement
  let chomping ← if first.isNone && increment.isSome then takeChomping else pure first
  if !endsMark (← peek 0) then fail "more behind the mark of a block"
  restOfLine
  return (chomping.getD .clip, increment)

def blockIndentation : Nat → List Char → Nat → Reading (List Char × Nat)
  | 0, breaks, deepest => return (breaks.reverse, deepest)
  | fuel + 1, breaks, deepest => do
    if (← peek 0) = some ' ' then
      skip 1
      blockIndentation fuel breaks (max deepest (← column))
    else
      match ← lineBreak with
      | some x => blockIndentation fuel (x :: breaks) deepest
      | none => return (breaks.reverse, deepest)

def indentTo (indent : Nat) : Reading Unit := do
  let taken := ((← get).rest.take (indent - (← column))).takeWhile (· = ' ')
  if !taken.isEmpty then skip taken.length

def blockBreaks (indent : Nat) : Nat → List Char → Reading (List Char)
  | 0, breaks => return breaks.reverse
  | fuel + 1, breaks => do
    indentTo indent
    match ← lineBreak with
    | some x => blockBreaks indent fuel (x :: breaks)
    | none => return breaks.reverse

def atBlockLine (indent : Nat) : Reading Bool := do
  return (← column) = indent && (← peek 0).isSome

/-- The lines of a block, with the parts so far (last first). Folded lines are joined by a space
unless one of them starts with a blank. -/
def blockLines (isFolded : Bool) (chomping : Chomping) (indent : Nat) :
    Nat → List (List Char) → List Char → Reading (List Char)
  | 0, _, _ => fail "unterminated block"
  | fuel + 1, parts, breaks => do
    let starts ← peek 0
    let line ← run fun x => !isBreak x
    let ending := (← lineBreak).toList
    let parts := line :: breaks :: parts
    let breaks ← blockBreaks indent (← bound) []
    if ← atBlockLine indent then
      let joins := isFolded && ending = ['\n'] && !starts.any isSpace && !(← peek 0).any isSpace
      let between := if !joins then ending else if breaks.isEmpty then [' '] else []
      blockLines isFolded chomping indent fuel (between :: parts) breaks
    else
      let tail := match chomping with
        | .strip => []
        | .clip => ending
        | .keep => ending ++ breaks
      return (tail :: parts).reverse.flatten

def block (isFolded : Bool) (around : Int) : Reading (List Char) := do
  skip 1
  let (chomping, increment) ← blockHeader
  let least := (max 1 (around + 1)).toNat
  let (breaks, indent) ← match increment with
    | some columns =>
      let indent := least + columns - 1
      pure (← blockBreaks indent (← bound) [], indent)
    | none =>
      let (breaks, deepest) ← blockIndentation (← bound) [] 0
      pure (breaks, max least deepest)
  if ← atBlockLine indent then blockLines isFolded chomping indent (← bound) [] breaks
  else return if chomping = .keep then breaks else []

end Reading

end AnchoredSet.Yaml
