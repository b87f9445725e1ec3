/-!
Tags: of what type a node is. The known ones have names with one start.
-/

namespace AnchoredSet.Yaml

inductive Tag where
  | null
  | bool
  | int
  | float
  | timestamp
  | binary
  | text
  | merge
  | default
  | sequence
  | mapping
  | set
  | orderedMap
  | pairs
  | unknown
  deriving DecidableEq, Repr

namespace Tag

def ownStart : List Char := "tag:yaml.org,2002:".toList

def ownNames : List (String × Tag) :=
  [("null", null), ("bool", bool), ("int", int), ("float", float),
   ("timestamp", timestamp), ("binary", binary), ("str", text), ("merge", merge),
   ("value", default), ("seq", sequence), ("map", mapping), ("set", set),
   ("omap", orderedMap), ("pairs", pairs)]

def ofName (name : List Char) : Tag :=
  if ownStart.isPrefixOf name then
    (ownNames.lookup (String.ofList (name.drop ownStart.length))).getD unknown
  else unknown

def isList (tag : Tag) : Bool := [sequence, orderedMap, pairs].contains tag

/-- Whether a node of this type is made before what is in it. -/
def isCollection (tag : Tag) : Bool := tag.isList || tag = mapping || tag = set

def isScalar (tag : Tag) : Bool :=
  [null, bool, int, float, timestamp, binary, text].contains tag

end Tag

end AnchoredSet.Yaml
