import AnchoredSet.Text.Blank
import AnchoredSet.Text.File

/-!
The version of the program, as its version file tells it.
-/

namespace AnchoredSet.Version

def current : String := "0.1.0"

def ofFile : Option (List Char) → String
  | some text => String.ofList (Text.strip (Text.unifyLines text))
  | none => "0.0.0+unknown"

end AnchoredSet.Version
