import AnchoredSet.Error
import AnchoredSet.Value

/-!
References to the environment in texts: `$` and a name between braces, or a name and, behind a
colon, a text for a name that is not set. A name is any run of code points other than a colon and a
closing brace; the text behind the colon is any run without a closing brace. References are taken
from the left, and what takes their place is not read again.
-/

namespace AnchoredSet

open Text (Points)

/-- Names and what they are set to, as bytes. -/
abbrev Environment := List (Bytes × Bytes)

structure Reference where
  name : Points
  fallback : Option Points
  deriving DecidableEq, Repr

namespace Reference

def opening : Points := ['$'.toNat, '\x7b'.toNat]

def closing : Nat := '\x7d'.toNat

def colon : Nat := ':'.toNat

def isNamePoint (x : Nat) : Bool := x ≠ closing && x ≠ colon

def written (reference : Reference) : Points :=
  opening ++ reference.name ++
    (match reference.fallback with
      | none => []
      | some text => colon :: text)
    ++ [closing]

def readEnd? (name : Points) : Points → Option Reference
  | [] => none
  | x :: rest =>
    if x = colon then
      let fallback := rest.takeWhile (· ≠ closing)
      if rest.drop fallback.length = [] then none else some ⟨name, some fallback⟩
    else some ⟨name, none⟩

def read? (text : Points) : Option Reference :=
  if opening.isPrefixOf text then
    let inner := text.drop opening.length
    let name := inner.takeWhile isNamePoint
    if name = [] then none else readEnd? name (inner.drop name.length)
  else none

/-- What the environment says under the name, even if it is empty, else the text of the reference,
else nothing. -/
def value (environment : Environment) (reference : Reference) : Points :=
  match reference.name.toBytes.toOption.bind (environment.lookup ·) with
  | some data => .ofBytes data
  | none => reference.fallback.getD []

def expand (environment : Environment) : Points → Points
  | [] => []
  | x :: rest =>
    match read? (x :: rest) with
    | some reference =>
      reference.value environment ++
        expand environment (rest.drop (reference.written.length - 1))
    | none => x :: expand environment rest
termination_by text => text.length
decreasing_by all_goals simp only [List.length_drop, List.length_cons]; omega

def inText : Points → List Reference
  | [] => []
  | x :: rest =>
    match read? (x :: rest) with
    | some reference => reference :: inText (rest.drop (reference.written.length - 1))
    | none => inText rest
termination_by text => text.length
decreasing_by all_goals simp only [List.length_drop, List.length_cons]; omega

def nameFault? (text : Points) : Option Text.Points.HalfFault :=
  (inText text).findSome? fun reference => reference.name.halfFault?

end Reference

def Scalar.points? : Scalar → Option Points
  | text s => some (.ofChars s.toList)
  | halves points => some points
  | _ => none

def Scalar.resolve (environment : Environment) (s : Scalar) : Except Error Scalar :=
  match s.points? with
  | none => .ok s
  | some points =>
    match Reference.nameFault? points with
    | some fault => .error (.halves fault)
    | none => .ok (.ofPoints (Reference.expand environment points))

namespace Value

mutual

/-- Replaces the references in every text of a value inside so many others, if there is room for
it; keys stay as they are. -/
def resolveAt (room : Room) (environment : Environment) (depth : Nat) (value : Value) :
    Except Error Value :=
  if room.fits depth value then
    match value with
    | scalar s => (s.resolve environment).map scalar
    | list items => (resolveItems room environment (depth + 1) items).map list
    | map entries => (resolveEntries room environment (depth + 1) entries).map map
    | value => .ok value
  else .error .nesting

def resolveItems (room : Room) (environment : Environment) (depth : Nat) :
    List Value → Except Error (List Value)
  | [] => .ok []
  | item :: rest => do
    let first ← item.resolveAt room environment depth
    return first :: (← resolveItems room environment depth rest)

def resolveEntries (room : Room) (environment : Environment) (depth : Nat) :
    List (Scalar × Value) → Except Error (List (Scalar × Value))
  | [] => .ok []
  | (key, value) :: rest => do
    let first ← value.resolveAt room environment depth
    return (key, first) :: (← resolveEntries room environment depth rest)

end

def resolve (room : Room) (environment : Environment) (value : Value) : Except Error Value :=
  value.resolveAt room environment 0

end Value

end AnchoredSet
