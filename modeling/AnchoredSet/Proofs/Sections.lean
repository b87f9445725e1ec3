import AnchoredSet.Proofs.Configuration
import AnchoredSet.Proofs.Record

/-!
What the sections of the settings are read for: four fields, each under its own name. Keys of any
other name are passed over, so they change neither what is read nor what is refused, and a field
under a misspelt name is left at its default.
-/

namespace AnchoredSet

namespace Value

variable {fields : List (String × (Value → Value))} {key : String} {change : Value → Value}

end Value

namespace Settings

def sections : List (String × List String) :=
  [("tree", ["identifier_length"]), ("logging", ["level", "file", "json_format"])]

/-- A value with the known sections only, and in them the known fields only. -/
def known (data : Value) : Value :=
  data.select <| sections.map fun (name, fields) =>
    (name, Value.select (fields.map fun field => (field, id)))

/-- A field that cannot be read: its section is no map, or what it holds is refused. -/
inductive Unread {α : Type} (data : Value) (name : String) (read : Value → Except ValueFault α) :
    Prop
  | noMap (other : ∀ held, data ≠ .map held) : Unread data name read
  | refused {value : Value} {fault : ValueFault} (found : data.find? name = .ok (some value))
      (refused : read value = .error fault) : Unread data name read

section Build

variable {data tree logging : Value}

end Build

end Settings

end AnchoredSet
