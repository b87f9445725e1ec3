import AnchoredSet.LeafSet

/-!
The members around an identifier that is not a member, each with the part it plays.
-/

namespace AnchoredSet

inductive Role where
  | empty
  | first
  | last
  | interior
  deriving DecidableEq, Repr

def Role.name : Role → String
  | empty => "empty"
  | first => "first"
  | last => "last"
  | interior => "interior"

/-- The placeholder of an empty set, the first member, the last member, or the two members that
enclose the identifier. -/
def LeafSet.locate (s : LeafSet) (identifier : Bytes) : Except Error (List (Bytes × Role)) :=
  if s.contains identifier then .error (.leafAlreadyPresent identifier)
  else if s.isEmpty then
    (Identifier.placeholder s.identifierLength).map fun placeholder => [(placeholder, .empty)]
  else
    let index := s.insertionIndex identifier
    let leaf (i : Nat) : Bytes := s.leaves.getD i []
    if index = 0 then .ok [(leaf 0, .first)]
    else if s.size ≤ index then .ok [(leaf (s.size - 1), .last)]
    else .ok [(leaf (index - 1), .interior), (leaf index, .interior)]

end AnchoredSet
