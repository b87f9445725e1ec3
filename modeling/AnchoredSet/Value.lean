import AnchoredSet.Number.Shortest
import AnchoredSet.Text.Points
import AnchoredSet.Value.Moment

/-!
Values as callers and documents hand them in: scalars, byte strings of three kinds, lists,
pairs, and maps from scalars and sets of them in the order of their entries.
-/

namespace AnchoredSet

inductive Scalar where
  | null
  | bool (b : Bool)
  | int (n : Int)
  | float (x : Double)
  | text (s : String)
  /-- A text with halves of characters, by its code points. -/
  | halves (points : Text.Points)
  | date (d : Date)
  | moment (m : Moment)
  | bytes (data : Bytes)
  deriving DecidableEq, Repr, Inhabited

inductive ByteKind where
  | constant
  | buffer
  | view
  deriving DecidableEq, Repr

inductive Value where
  | scalar (s : Scalar)
  | bytes (kind : ByteKind) (data : Bytes)
  | list (items : List Value)
  | pair (first second : Value)
  | map (entries : List (Scalar × Value))
  | set (items : List Scalar)
  deriving Repr, Inhabited

/-- What there is room for on the stack of a runtime: how many collections of a document around one
another, and which values inside so many other values. At some depth there is no room for any
value, but there always is for a collection of scalars. -/
structure Room where
  collections : Nat
  fits : Nat → Value → Bool
  bound : Nat
  bounded : ∀ depth value, bound ≤ depth → fits depth value = false
  shallow : ∀ depth value, depth ≤ 1 → fits depth value = true

def Room.upTo (count : Nat) : Room where
  collections := count
  fits depth _ := decide (depth < count + 2)
  bound := count + 2
  bounded _ _ deep := decide_eq_false (Nat.not_lt.mpr deep)
  shallow _ _ shallow := decide_eq_true (by omega)

inductive ShowFault where
  | longInteger
  | nesting
  deriving DecidableEq, Repr

@[elab_as_elim]
theorem Value.nested {motive : Value → Prop} (scalar : ∀ s, motive (.scalar s))
    (bytes : ∀ kind data, motive (.bytes kind data))
    (list : ∀ items, (∀ item ∈ items, motive item) → motive (.list items))
    (pair : ∀ first second, motive first → motive second → motive (.pair first second))
    (map : ∀ entries, (∀ entry ∈ entries, motive entry.2) → motive (.map entries))
    (set : ∀ items, motive (.set items)) (value : Value) : motive value := by
  refine @Value.rec motive (fun items => ∀ item ∈ items, motive item)
    (fun entries => ∀ entry ∈ entries, motive entry.2) (fun entry => motive entry.2)
    scalar bytes list pair map set ?_ ?_ ?_ ?_ ?_ value
  · exact nofun
  · intro first rest here others
    exact List.forall_mem_cons.mpr ⟨here, others⟩
  · exact nofun
  · intro first rest here others
    exact List.forall_mem_cons.mpr ⟨here, others⟩
  · intro key value here
    exact here

namespace Scalar

def ofPoints (points : Text.Points) : Scalar :=
  match points.chars? with
  | some chars => text (String.ofList chars)
  | none => halves points

def typeName : Scalar → String
  | null => "NoneType"
  | bool _ => "bool"
  | int _ => "int"
  | float _ => "float"
  | text _ | halves _ => "str"
  | date _ => "datetime.date"
  | moment _ => "datetime.datetime"
  | bytes _ => "bytes"

def render? : Scalar → Option String
  | null => some "None"
  | bool true => some "True"
  | bool false => some "False"
  | int n => Integer.render? n
  | float x => some x.render
  | text s => some (Text.quoted s)
  | halves points => some points.quoted
  | date d => some d.shown
  | moment m => some m.shown
  | bytes data => some (Text.quotedBytes data)

def shown (s : Scalar) : Except ShowFault String :=
  match s.render? with
  | some written => .ok written
  | none => .error .longInteger

def truthy : Scalar → Bool
  | null => false
  | bool b => b
  | int n => n ≠ 0
  | float x => !x.isZero
  | text s => s ≠ ""
  | bytes data => !data.isEmpty
  | halves _ | date _ | moment _ => true

def keyNumber? : Scalar → Option Int
  | bool b => some (if b then 1 else 0)
  | int n => some n
  | float x => x.toInt?
  | _ => none

/-- Keys of equal numbers are one key, whatever their types, and so are those of one moment. The
value that is not a number is one key, unless it is like no other one. -/
def sameKey (s t : Scalar) : Bool :=
  match s, t with
  | moment m, moment n => m.same n
  | float x, float y => if x.isNaN then x = y && x = .nan else x = y || x.isZero && y.isZero
  | _, _ =>
    match s.keyNumber?, t.keyNumber? with
    | some m, some n => m = n
    | none, none => s = t
    | _, _ => false

end Scalar

namespace ByteKind

def typeName : ByteKind → String
  | constant => "bytes"
  | buffer => "bytearray"
  | view => "memoryview"

def render (data : Bytes) : ByteKind → String
  | constant => Text.quotedBytes data
  | buffer => Text.quotedBuffer data
  | view => "<memory>"

end ByteKind

namespace Value

def null : Value := scalar .null

def bool (b : Bool) : Value := scalar (.bool b)

def int (n : Int) : Value := scalar (.int n)

def text (s : String) : Value := scalar (.text s)

def ofScalar : Scalar → Value
  | .bytes data => bytes .constant data
  | s => scalar s

def typeName : Value → String
  | scalar s => s.typeName
  | bytes kind _ => kind.typeName
  | list _ => "list"
  | pair _ _ => "tuple"
  | map _ => "dict"
  | set _ => "set"

def truthy : Value → Bool
  | scalar s => s.truthy
  | bytes _ data => !data.isEmpty
  | list items => !items.isEmpty
  | map entries => !entries.isEmpty
  | set items => !items.isEmpty
  | pair _ _ => true

def shownKey (fits : Nat → Value → Bool) (depth : Nat) (key : Scalar) : Except ShowFault String :=
  if fits depth (ofScalar key) then key.shown else .error .nesting

mutual

/-- The value as messages show it, inside so many other values, if there is room for it. -/
def shown (fits : Nat → Value → Bool) (depth : Nat) (value : Value) : Except ShowFault String :=
  if fits depth value then
    match value with
    | scalar s => s.shown
    | bytes kind data => .ok (kind.render data)
    | list items => do
      return "[" ++ ", ".intercalate (← shownItems fits (depth + 1) items) ++ "]"
    | pair first second => do
      let shownFirst ← first.shown fits (depth + 1)
      return "(" ++ shownFirst ++ ", " ++ (← second.shown fits (depth + 1)) ++ ")"
    | map entries => do
      return "\x7b" ++ ", ".intercalate (← shownEntries fits (depth + 1) entries) ++ "\x7d"
    | set [] => .ok "set()"
    | set items => do return "\x7b" ++ ", ".intercalate (← items.mapM Scalar.shown) ++ "\x7d"
  else .error .nesting

def shownItems (fits : Nat → Value → Bool) (depth : Nat) :
    List Value → Except ShowFault (List String)
  | [] => .ok []
  | item :: rest => do return (← item.shown fits depth) :: (← shownItems fits depth rest)

def shownEntries (fits : Nat → Value → Bool) (depth : Nat) :
    List (Scalar × Value) → Except ShowFault (List String)
  | [] => .ok []
  | (key, value) :: rest => do
    let entry := (← shownKey fits depth key) ++ ": " ++ (← value.shown fits depth)
    return entry :: (← shownEntries fits depth rest)

end

def render? (value : Value) : Option String := (value.shown (fun _ _ => true) 0).toOption

/-- A text is its own text, and a day or a moment is written; any other value is shown. -/
def toText? : Value → Option String
  | scalar (.text s) => some s
  | scalar (.date d) => some d.written
  | scalar (.moment m) => some m.written
  | scalar (.halves points) => some (String.ofList points.joined)
  | value => value.render?

/-- Puts an entry into a map. A key that is there already keeps its place and takes the value. -/
def insertEntry (key : Scalar) (value : Value) :
    List (Scalar × Value) → List (Scalar × Value)
  | [] => [(key, value)]
  | (k, v) :: rest =>
    if k.sameKey key then (k, value) :: rest else (k, v) :: insertEntry key value rest

def ofKeys (keys : List Scalar) : Value :=
  set (keys.foldl (fun known key => if known.any key.sameKey then known else known ++ [key]) [])

def ofEntries (entries : List (Scalar × Value)) : Value :=
  map (entries.foldl (fun known (key, value) => insertEntry key value known) [])

/-- A list or a map within itself, as far as it is followed. -/
def endless (isMap : Bool) : Nat → Value
  | 0 => if isMap then map [] else list []
  | depth + 1 =>
    if isMap then map [(.null, endless isMap depth)] else list [endless isMap depth]

end Value

end AnchoredSet
