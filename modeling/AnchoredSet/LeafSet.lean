import AnchoredSet.Identifier

/-!
The set of members: identifiers of one length in strictly ascending order. Membership is found by
halving; the place where a new member goes is also found by a plain scan.
-/

namespace AnchoredSet

def insertAscending (identifier : Bytes) : List Bytes → List Bytes
  | [] => [identifier]
  | leaf :: rest =>
    if identifier < leaf then identifier :: leaf :: rest
    else if identifier = leaf then leaf :: rest
    else leaf :: insertAscending identifier rest

/-- The place from 0 that an index means; a negative index counts from the end. An index that is no
word is refused as such, any other without a place by the given error. -/
def resolveIndex (size : Nat) (index : Int) (outside : Error) : Except Error Nat :=
  let place := if index < 0 then index + size else index
  if !Identifier.isWord index then .error .wideIndex
  else if 0 ≤ place ∧ place < size then .ok place.toNat
  else .error outside

structure LeafSet where
  leaves : List Bytes
  identifierLength : Int
  deriving DecidableEq, Repr

namespace LeafSet

/-- Strictly ascending members of the set's length, none of them all zero. -/
structure Canonical (s : LeafSet) : Prop where
  ascending : s.leaves.Pairwise (· < ·)
  sized : ∀ leaf ∈ s.leaves, (leaf.length : Int) = s.identifierLength
  nonzero : ∀ leaf ∈ s.leaves, leaf.isZero = false

def ofIdentifiers (values : List Value) (length : Int) : Except Error LeafSet := do
  let identifiers ← values.mapM fun value => Identifier.decodeMember value length
  return ⟨identifiers.foldl (fun leaves identifier => insertAscending identifier leaves) [], length⟩

def size (s : LeafSet) : Nat := s.leaves.length

def isEmpty (s : LeafSet) : Bool := s.leaves.isEmpty

def summary (s : LeafSet) : String := s!"LeafSet(size={s.size})"

def get (s : LeafSet) (index : Int) : Except Error Bytes := do
  return s.leaves.getD (← resolveIndex s.size index .leafIndex) []

/-- The first place in `low ≤ i < high` whose leaf is not below the identifier, or `high`. -/
def bisect (leaves : List Bytes) (identifier : Bytes) (low high : Nat) : Nat :=
  if low < high then
    let middle := (low + high) / 2
    if leaves.getD middle [] < identifier then bisect leaves identifier (middle + 1) high
    else bisect leaves identifier low middle
  else low
termination_by high - low
decreasing_by all_goals omega

def lowerBound (s : LeafSet) (identifier : Bytes) : Nat := bisect s.leaves identifier 0 s.size

def position? (s : LeafSet) (identifier : Bytes) : Option Nat :=
  let i := s.lowerBound identifier
  if s.leaves[i]? = some identifier then some i else none

def contains (s : LeafSet) (identifier : Bytes) : Bool := (s.position? identifier).isSome

/-- Of all values only constant byte strings can be members. -/
def containsValue (s : LeafSet) : Value → Bool
  | .bytes .constant data => s.contains data
  | _ => false

/-- The first place whose leaf is above the identifier, by a scan from the front. -/
def insertionIndex (s : LeafSet) (identifier : Bytes) : Nat :=
  s.leaves.findIdx fun leaf => decide (identifier < leaf)

def indexOf (s : LeafSet) (identifier : Bytes) : Except Error Nat :=
  match s.position? identifier with
  | some i => .ok i
  | none => .error (.leafNotFound identifier)

def insert (s : LeafSet) (identifier : Bytes) : Except Error LeafSet := do
  Identifier.requireMember identifier
  let i := s.lowerBound identifier
  if s.leaves[i]? = some identifier then throw (.duplicateLeaf identifier)
  return { s with leaves := s.leaves.take i ++ identifier :: s.leaves.drop i }

def erase (s : LeafSet) (identifier : Bytes) : Except Error LeafSet := do
  let i ← s.indexOf identifier
  return { s with leaves := s.leaves.take i ++ s.leaves.drop (i + 1) }

def decode (s : LeafSet) (value : Value) : Except Error Bytes :=
  Identifier.decode value s.identifierLength

def indexOfValue (s : LeafSet) (value : Value) : Except Error Nat := do
  s.indexOf (← s.decode value)

def withLeaf (s : LeafSet) (value : Value) : Except Error LeafSet := do
  s.insert (← s.decode value)

def withoutLeaf (s : LeafSet) (value : Value) : Except Error LeafSet := do
  s.erase (← s.decode value)

/-- Sets with the same members are the same, whatever length their identifiers were asked to
have. -/
def same (s t : LeafSet) : Bool := s.leaves = t.leaves

end LeafSet

end AnchoredSet
