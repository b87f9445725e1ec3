import AnchoredSet.Error
import AnchoredSet.Text.File

/-!
A place in a document: the characters that follow, and where in the text they stand. Characters
are asked for one after the other, so that a fault behind them tells only when it is reached.
-/

namespace AnchoredSet.Yaml

inductive ScalarFault where
  | value (fault : ValueFault)
  | emptyNumeral
  | wideNumber
  | noTime
  | notText (typeName : String)
  | calendar (fault : CalendarFault)
  deriving DecidableEq, Repr

/-- What ends the reading of a document and is told as something else than a fault of it. -/
inductive Failure where
  | undecodable (fault : Text.Utf8Fault)
  | codePoint (code : Nat)
  | nesting
  | scalar (fault : ScalarFault)
  deriving DecidableEq, Repr

inductive Fault where
  | malformed (reason : String) (line column : Nat)
  | failure (failure : Failure)
  deriving DecidableEq, Repr

def ScalarFault.error : ScalarFault → Error
  | value fault => .value fault
  | emptyNumeral => .emptyNumeral
  | wideNumber => .wideNumber
  | noTime => .noTime
  | notText typeName => .notText typeName
  | calendar fault => .calendar fault

def Failure.error : Failure → Error
  | undecodable fault => .utf8 fault
  | codePoint code => .codePoint code
  | nesting => .nesting
  | scalar fault => fault.error

/-- Without a fault in `stop` the text ends where the rest ends. -/
structure Cursor where
  rest : List Char
  stop : Option Fault
  size : Nat
  index : Nat
  line : Nat
  column : Nat

def isAllowed (c : Char) : Bool :=
  let n := c.toNat
  n = 0x9 || n = 0xA || n = 0xD || (0x20 ≤ n && n ≤ 0x7E) || n = 0x85
    || (0xA0 ≤ n && n ≤ 0xD7FF) || (0xE000 ≤ n && n ≤ 0xFFFD) || 0x10000 ≤ n

def isBreak (c : Char) : Bool := c = '\n' || c = '\x85' || c = '\u2028' || c = '\u2029'

def endsToken : Option Char → Bool
  | none => true
  | some c => c = ' ' || c = '\t' || isBreak c

def endsLine : Option Char → Bool
  | none => true
  | some c => isBreak c

def endsMark : Option Char → Bool
  | none => true
  | some c => c = ' ' || isBreak c

namespace Cursor

def start (rest : List Char) (stop : Option Fault) : Cursor := ⟨rest, stop, rest.length, 0, 0, 0⟩

/-- The start of a file. A portion with bytes that cannot be read or with a character that is not
allowed is not given out; the bytes are read before its characters are looked at. -/
def ofFile (file : Text.FileText) : Cursor :=
  let text := file.chars
  let undecoded := file.fault.map fun fault =>
    (Text.FileText.portionStart text.length, Fault.failure (.undecodable fault))
  let refused := (text.findIdx? (!isAllowed ·)).map fun place =>
    (Text.FileText.portionStart place, Fault.malformed "a character that is not allowed" 0 0)
  match undecoded, refused with
  | none, none => start text none
  | some (place, fault), none | none, some (place, fault) => start (text.take place) (some fault)
  | some (place, fault), some (other, refusal) =>
    if other < place then start (text.take other) (some refusal)
    else start (text.take place) (some fault)

def next (c : Cursor) : Cursor :=
  match c.rest with
  | [] => c
  | x :: rest =>
    if isBreak x then { c with rest := rest, index := c.index + 1, line := c.line + 1, column := 0 }
    else if x = '\uFEFF' then { c with rest := rest, index := c.index + 1 }
    else { c with rest := rest, index := c.index + 1, column := c.column + 1 }

def skip : Nat → Cursor → Cursor
  | 0, c => c
  | n + 1, c => skip n c.next

end Cursor

abbrev Reading := StateT Cursor (Except Fault)

namespace Reading

variable {α : Type}

def fail (reason : String) : Reading α := fun c => .error (.malformed reason c.line c.column)

def bound : Reading Nat := do return (← get).size + 1

def column : Reading Nat := do return (← get).column

def peek (ahead : Nat) : Reading (Option Char) := fun c =>
  match c.rest[ahead]?, c.stop with
  | none, some fault => .error fault
  | found, _ => .ok (found, c)

def skip (width : Nat) : Reading Unit := do
  let _ ← peek width
  modify (Cursor.skip width)

def shown (width : Nat) : Reading (List Char) := do
  let _ ← peek (width - 1)
  return (← get).rest.take width

def take (width : Nat) : Reading (List Char) := do
  let taken := (← get).rest.take width
  skip width
  return taken

def run (p : Char → Bool) : Reading (List Char) := do
  let taken := (← get).rest.takeWhile p
  skip taken.length
  return taken

/-- Takes the line break here, if there is one. Breaks are written as line feeds, but for the
separators of lines and paragraphs. -/
def lineBreak : Reading (Option Char) := do
  match ← peek 0 with
  | none => return none
  | some x =>
    if isBreak x then
      skip 1
      return some (if x = '\u2028' || x = '\u2029' then x else '\n')
    else return none

def atMarker (marks : List Char) : Reading Bool := do
  match ← shown 3 with
  | [x, y, z] =>
    if marks.contains x && x = y && y = z then return endsToken (← peek 3) else return false
  | _ => return false

def atDocumentMarker : Reading Bool := atMarker ['-', '.']

def restOfLine : Reading Unit := do
  let _ ← run (· = ' ')
  if (← peek 0) = some '#' then
    let _ ← run fun x => !isBreak x
  if !endsLine (← peek 0) then fail "more in the line"
  let _ ← lineBreak

end Reading

end AnchoredSet.Yaml
