import AnchoredSet.Settings.Reference
import AnchoredSet.Audit.Record
import AnchoredSet.Text.Blank
import AnchoredSet.Text.Lower
import AnchoredSet.Value.Access

/-!
Settings: the length of identifiers, and the level, file and form of the log. They are read from a
value with the sections `tree` and `logging`, and what is left out has a default.
-/

namespace AnchoredSet

structure Settings where
  identifierLength : Int
  level : String
  file : String
  jsonFormat : Bool
  deriving DecidableEq, Repr

namespace Settings

def default : Settings := ⟨32, "INFO", "", true⟩

def validLevels : List String := ["DEBUG", "INFO", "WARNING", "ERROR", "CRITICAL"]

def trueWords : List String := ["true", "yes", "1", "on"]

def falseWords : List String := ["false", "no", "0", "off", ""]

/-- A text must be one of the words for truth, in any case and with blanks around; any other value
is true unless it counts as nothing. -/
def asBool : Value → Except ValueFault Bool
  | .scalar (.text s) =>
    let word := String.ofList (Text.lower (Text.strip s.toList))
    if trueWords.contains word then .ok true
    else if falseWords.contains word then .ok false
    else .error (.notBoolean (Text.quoted s))
  | .scalar (.halves points) => .error (.notBoolean points.quoted)
  | value => .ok value.truthy

def section? (data : Value) (name : String) : Except ValueFault Value := do
  let found ← data.find? name
  return (found.filter Value.truthy).getD (.map [])

def textOf (value : Value) : Except ValueFault String :=
  match value.toText? with
  | some text => .ok text
  | none => .error .longInteger

def field (data : Value) (name : String) (otherwise : Value) : Except ValueFault Value := do
  return (← data.find? name).getD otherwise

def readSections (tree logging : Value) : Except ValueFault Settings := do
  let length ← (← field tree "identifier_length" (.int default.identifierLength)).toInt
  let level ← textOf (← field logging "level" (.text default.level))
  let file ← field logging "file" (.text default.file)
  let file ← if file.truthy then textOf file else pure ""
  let json ← asBool (← field logging "json_format" (.bool default.jsonFormat))
  return ⟨length, level, file, json⟩

/-- An infinite number is not taken for a fault of the settings; every other fault in a section
is. -/
def sectionFault : ValueFault → Error
  | .infinite => .value .infinite
  | fault => .invalidSettings (.value fault)

def build (data : Value) : Except Error Settings := do
  let tree ← (section? data "tree").mapError .value
  let logging ← (section? data "logging").mapError .value
  (readSections tree logging).mapError sectionFault

def hasValidLevel (settings : Settings) : Bool :=
  validLevels.contains (String.ofList (Text.upper settings.level.toList))

/-- The length is tested before the level. A length with too many digits cannot be reported. -/
def validate (settings : Settings) : Except Error Unit :=
  if settings.identifierLength ≤ 0 then
    match Integer.render? settings.identifierLength with
    | some _ => .error (.invalidSettings (.length settings.identifierLength))
    | none => .error (.value .longInteger)
  else if settings.hasValidLevel then .ok ()
  else .error (.invalidSettings (.level settings.level))

def ofValue (data : Value) : Except Error Settings := do
  let settings ← build data
  settings.validate
  return settings

def defaultPath (home : String) : String :=
  let kept := (home.toList.reverse.dropWhile (· = '/')).reverse
  String.ofList kept ++ "/.memberroot/config.yaml"

end Settings

/-! Where log records go. -/

inductive Destination where
  | file (path : String)
  | console
  deriving DecidableEq, Repr

structure Logging where
  rank : Nat
  destination : Destination
  jsonFormat : Bool
  deriving DecidableEq, Repr

namespace Logging

def setUp (level : String) (file : Option String) (jsonFormat : Bool) : Except Error Logging := do
  let rank ← levelRank level
  return ⟨rank, file.elim .console .file, jsonFormat⟩

def ofSettings (settings : Settings) : Except Error Logging :=
  setUp settings.level (if settings.file = "" then none else some settings.file)
    settings.jsonFormat

def keeps (logging : Logging) (record : Record) : Bool := record.reaches logging.rank

end Logging

end AnchoredSet
