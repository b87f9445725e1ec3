import AnchoredSet.Yaml.Name
import AnchoredSet.Yaml.Text.Block
import AnchoredSet.Yaml.Text.Quoted

/-!
The tokens of a document, one after the other as they are asked for. Indentation is made explicit
by tokens that open and close block collections. A key is recognised by the colon behind it, so a
place where a key may start is remembered, and the tokens of the key are put in there when the colon
comes; a key must end within its line and within 1024 characters. Tokens are held back as long as
the first of them may start a key.
-/

namespace AnchoredSet.Yaml

inductive Token where
  | scalar (points : Text.Points) (isPlain : Bool)
  | anchor (name : List Char)
  | again (name : List Char)
  | tag (text : TagText)
  | directive (directive : Directive)
  | documentStart
  | documentEnd
  | streamEnd
  | blockSequence
  | blockMapping
  | blockEnd
  | flowSequence
  | flowSequenceEnd
  | flowMapping
  | flowMappingEnd
  | blockEntry
  | flowEntry
  | key
  | value
  deriving DecidableEq, Repr

/-- A place where a key may have started: the number of its token, whether something else cannot
start there, and where it stands. -/
structure Candidate where
  number : Nat
  required : Bool
  index : Nat
  line : Nat
  column : Nat

structure Scan where
  cursor : Cursor
  waiting : List Token
  given : Nat
  ended : Bool
  flowDepth : Nat
  indent : Int
  indents : List Int
  keyAllowed : Bool
  candidates : List (Nat × Candidate)

abbrev Scanner := StateT Scan (Except Fault)

namespace Scan

def start (cursor : Cursor) : Scan := ⟨cursor, [], 0, false, 0, -1, [], true, []⟩

def inFlow (s : Scan) : Bool := s.flowDepth ≠ 0

def push (s : Scan) (token : Token) : Scan := { s with waiting := s.waiting ++ [token] }

def insertAt (s : Scan) (number : Nat) (token : Token) : Scan :=
  let before := number - s.given
  { s with waiting := s.waiting.take before ++ token :: s.waiting.drop before }

def opensAt (s : Scan) (column : Int) : Bool := decide (s.indent < column)

def openIndent (s : Scan) (column : Int) : Scan :=
  { s with indents := s.indent :: s.indents, indent := column }

def close (s : Scan) (column : Int) : List Int → Scan
  | outer :: rest =>
    if s.indent ≤ column then s
    else close { s.push .blockEnd with indent := outer, indents := rest } column rest
  | [] => s

def unwind (s : Scan) (column : Int) : Scan := if s.inFlow then s else s.close column s.indents

def openBlock (s : Scan) (token : Token) : Scan :=
  if !s.inFlow && s.opensAt s.cursor.column then (s.openIndent s.cursor.column).push token else s

def isStale (s : Scan) (candidate : Candidate) : Bool :=
  candidate.line ≠ s.cursor.line || candidate.index + 1024 < s.cursor.index

/-- Whether the first of the waiting tokens may turn out to start a key. -/
def mayStartKey (s : Scan) : Bool :=
  s.candidates.any fun (_, candidate) => candidate.number = s.given

end Scan

namespace Scanner

variable {α : Type}

def fail (reason : String) : Scanner α := fun s =>
  .error (.malformed reason s.cursor.line s.cursor.column)

def reading (part : Reading α) : Scanner α := fun s =>
  (part s.cursor).map fun (found, cursor) => (found, { s with cursor := cursor })

def take (width : Nat) (token : Token) : Scanner Unit := do
  reading (Reading.skip width)
  modify (·.push token)

def allowKey (allowed : Bool) : Scanner Unit := modify fun s => { s with keyAllowed := allowed }

def dropCandidate : Scanner Unit := do
  let s ← get
  if (s.candidates.lookup s.flowDepth).any Candidate.required then fail "a key without a colon"
  set { s with candidates := s.candidates.filter fun (depth, _) => depth ≠ s.flowDepth }

def dropStale : Scanner Unit := do
  let s ← get
  let (stale, fresh) := s.candidates.partition fun (_, candidate) => s.isStale candidate
  if stale.any fun (_, candidate) => candidate.required then fail "a key without a colon"
  set { s with candidates := fresh }

def saveCandidate : Scanner Unit := do
  if (← get).keyAllowed then
    dropCandidate
    modify fun s =>
      let c := s.cursor
      let required := !s.inFlow && s.indent = c.column
      let candidate := ⟨s.given + s.waiting.length, required, c.index, c.line, c.column⟩
      { s with candidates := (s.flowDepth, candidate) :: s.candidates }

/-- Passes blanks, comments and line breaks. Outside flow collections a new line allows a key. -/
def toNextToken : Nat → Scanner Unit
  | 0 => return
  | fuel + 1 => do
    let broke ← reading do
      let _ ← Reading.run (· = ' ')
      if (← Reading.peek 0) = some '#' then
        let _ ← Reading.run fun x => !isBreak x
      Reading.lineBreak
    if broke.isSome then
      if !(← get).inFlow then allowKey true
      toNextToken fuel

def passMark : Scanner Unit := reading do
  if (← get).index = 0 && (← Reading.peek 0) = some '\uFEFF' then Reading.skip 1

/-! The tokens. -/

def finish : Scanner Unit := do
  modify (·.unwind (-1))
  dropCandidate
  modify fun s => { s.push .streamEnd with keyAllowed := false, candidates := [], ended := true }

def directive : Scanner Unit := do
  modify (·.unwind (-1))
  dropCandidate
  allowKey false
  let found ← reading Reading.directive
  modify (·.push (.directive found))

def documentMarker (token : Token) : Scanner Unit := do
  modify (·.unwind (-1))
  dropCandidate
  allowKey false
  take 3 token

def openFlow (token : Token) : Scanner Unit := do
  saveCandidate
  modify fun s => { s with flowDepth := s.flowDepth + 1, keyAllowed := true }
  take 1 token

def closeFlow (token : Token) : Scanner Unit := do
  dropCandidate
  if !(← get).inFlow then fail "a bracket that was not opened"
  modify fun s => { s with flowDepth := s.flowDepth - 1, keyAllowed := false }
  take 1 token

def flowEntry : Scanner Unit := do
  allowKey true
  dropCandidate
  take 1 .flowEntry

def requireAllowed : Scanner Unit := do
  let s ← get
  if !s.inFlow && !s.keyAllowed then fail "a mark that is not allowed here"

def blockEntry : Scanner Unit := do
  requireAllowed
  modify (·.openBlock .blockSequence)
  allowKey true
  dropCandidate
  take 1 .blockEntry

def explicitKey : Scanner Unit := do
  requireAllowed
  modify fun s => { s.openBlock .blockMapping with keyAllowed := !s.inFlow }
  dropCandidate
  take 1 .key

def insertKey (candidate : Candidate) : Scanner Unit :=
  modify fun s =>
    let candidates := s.candidates.filter fun (depth, _) => depth ≠ s.flowDepth
    let s := { s.insertAt candidate.number .key with candidates := candidates, keyAllowed := false }
    if !s.inFlow && s.opensAt candidate.column then
      (s.openIndent candidate.column).insertAt candidate.number .blockMapping
    else s

def value : Scanner Unit := do
  let s ← get
  match s.candidates.lookup s.flowDepth with
  | some candidate => insertKey candidate
  | none =>
    requireAllowed
    modify fun s => { s.openBlock .blockMapping with keyAllowed := !s.inFlow }
    dropCandidate
  take 1 .value

def name (token : List Char → Token) : Scanner Unit := do
  saveCandidate
  allowKey false
  let found ← reading Reading.nodeName
  modify (·.push (token found))

def tag : Scanner Unit := do
  saveCandidate
  allowKey false
  let found ← reading Reading.tagText
  modify (·.push (.tag found))

def block (isFolded : Bool) : Scanner Unit := do
  allowKey true
  dropCandidate
  let text ← reading (Reading.block isFolded (← get).indent)
  modify (·.push (.scalar (Text.Points.ofChars text) false))

def quoted (quote : Char) : Scanner Unit := do
  saveCandidate
  allowKey false
  let points ← reading (Reading.quoted quote)
  modify (·.push (.scalar points false))

def plain : Scanner Unit := do
  saveCandidate
  let s ← get
  let (text, broke) ← reading (Reading.plain s.inFlow (s.indent + 1))
  modify fun s => { s.push (.scalar (Text.Points.ofChars text) true) with keyAllowed := broke }

def isIndicator (x : Char) : Bool := "-?:,[]\x7b\x7d#&*!|>'\"%@`".toList.contains x

def startsPlain (x : Char) : Scanner Bool := do
  if endsToken (some x) then return false
  else if !isIndicator x then return true
  else if endsToken (← reading (Reading.peek 1)) then return false
  else return x = '-' || (!(← get).inFlow && (x = '?' || x = ':'))

/-- Whether one of three marks is here and stands alone; in flow collections two of them need
not. -/
def standsAlone (x : Char) : Scanner Bool := do
  if x = '-' then return endsToken (← reading (Reading.peek 1))
  else if x = '?' || x = ':' then
    if (← get).inFlow then return true else return endsToken (← reading (Reading.peek 1))
  else return false

def atMarker (mark : Char) : Scanner Bool := do
  if (← get).cursor.column = 0 then reading (Reading.atMarker [mark]) else return false

def token (x : Char) : Scanner Unit := do
  let s ← get
  let marks ← if x = '-' || x = '.' then atMarker x else pure false
  if x = '%' && s.cursor.column = 0 then directive
  else if marks then documentMarker (if x = '-' then .documentStart else .documentEnd)
  else if x = '[' then openFlow .flowSequence
  else if x = '\x7b' then openFlow .flowMapping
  else if x = ']' then closeFlow .flowSequenceEnd
  else if x = '\x7d' then closeFlow .flowMappingEnd
  else if x = ',' then flowEntry
  else if ← standsAlone x then
    if x = '-' then blockEntry
    else if x = '?' then explicitKey
    else value
  else if x = '*' then name .again
  else if x = '&' then name .anchor
  else if x = '!' then tag
  else if x = '|' && !s.inFlow then block false
  else if x = '>' && !s.inFlow then block true
  else if x = Text.apostrophe || x = Text.quotationMark then quoted x
  else if ← startsPlain x then plain
  else fail "a character that starts no token"

def fetch : Scanner Unit := do
  passMark
  toNextToken (← reading Reading.bound)
  dropStale
  modify fun s => s.unwind s.cursor.column
  match ← reading (Reading.peek 0) with
  | none => finish
  | some x => token x

def fetchAhead : Nat → Scanner Unit
  | 0 => fail "unread text"
  | fuel + 1 => do
    if !(← get).ended then
      if (← get).waiting.isEmpty then
        fetch
        fetchAhead fuel
      else
        dropStale
        if (← get).mayStartKey then
          fetch
          fetchAhead fuel

def peek : Scanner Token := do
  fetchAhead ((← reading Reading.bound) + 1)
  return (← get).waiting.headD .streamEnd

def pass : Scanner Unit :=
  modify fun s => { s with waiting := s.waiting.drop 1, given := s.given + 1 }

end Scanner

end AnchoredSet.Yaml
