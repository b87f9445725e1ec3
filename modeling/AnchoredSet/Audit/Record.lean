import AnchoredSet.Error
import AnchoredSet.Text.Case
import AnchoredSet.Value

/-!
Log records and the two forms they are written in: an entry of named values, and a line for the
console. A record is kept when its severity reaches the level that logging is set to.
-/

namespace AnchoredSet

inductive Severity where
  | debug
  | info
  | warning
  | error
  | critical
  deriving DecidableEq, Repr

def Severity.name : Severity → String
  | debug => "debug"
  | info => "info"
  | warning => "warning"
  | error => "error"
  | critical => "critical"

def Severity.rank : Severity → Nat
  | debug => 10
  | info => 20
  | warning => 30
  | error => 40
  | critical => 50

structure Record where
  severity : Severity
  logger : String
  event : String
  fields : List (String × Value)
  deriving Repr

def qualifyLogger (name : String) : String :=
  if "memberroot".toList.isPrefixOf name.toList then name else "memberroot." ++ name

def levelRanks : List (String × Nat) :=
  [("DEBUG", 10), ("INFO", 20), ("WARNING", 30), ("WARN", 30), ("ERROR", 40), ("CRITICAL", 50),
   ("FATAL", 50), ("NOTSET", 0)]

def lineFormat : String := "%(levelname)s:%(name)s:%(message)s"

def styleTable : String :=
  "\x7b'%': (<class 'logging.PercentStyle'>, '" ++ lineFormat ++ "'), "
    ++ "'\x7b': (<class 'logging.StrFormatStyle'>, "
    ++ "'\x7blevelname\x7d:\x7bname\x7d:\x7bmessage\x7d'), "
    ++ "'$': (<class 'logging.StringTemplateStyle'>, "
    ++ "'$\x7blevelname\x7d:$\x7bname\x7d:$\x7bmessage\x7d')\x7d"

/-- The rank of a level in any case; an unknown one is that of information. The words for the
default line format and for the table of styles are not levels and are refused as what they
name. -/
def levelRank (level : String) : Except Error Nat :=
  let name := String.ofList (Text.upper level.toList)
  if name = "BASIC_FORMAT" then .error (.unknownLevel lineFormat)
  else if name = "_STYLES" then .error (.noLevel styleTable)
  else .ok ((levelRanks.lookup name).getD Severity.info.rank)

namespace Record

def reaches (record : Record) (rank : Nat) : Bool := rank ≤ record.severity.rank

def setField (name : String) (value : Value) : List (String × Value) → List (String × Value)
  | [] => [(name, value)]
  | (n, v) :: rest => if n = name then (n, value) :: rest else (n, v) :: setField name value rest

def steering : List String := ["exc_info", "stack_info"]

/-- The fields with the correlation identifier, unless that is missing or empty. -/
def correlated (record : Record) (correlation : Option String) : List (String × Value) :=
  let fields := record.fields.filter fun (name, _) => !steering.contains name
  match correlation with
  | some id => if id = "" then fields else setField "correlation_id" (.text id) fields
  | none => fields

/-- The named values of a record. Its own level, logger, time and event win over fields of those
names. -/
def entry (record : Record) (correlation : Option String) (time : String) :
    List (String × Value) :=
  setField "event" (.text record.event)
    (setField "timestamp" (.text time)
      (setField "logger" (.text record.logger)
        (setField "level" (.text record.severity.name) (record.correlated correlation))))

end Record

inductive RecordFault where
  | noMethod (name : String)
  | reserved (call name : String)
  | missing (call : String) (names : List String)
  | noName (typeName : String)
  | notText (typeName : String)
  | longInteger
  deriving DecidableEq, Repr

namespace RecordFault

def enumerate (names : List String) : String :=
  match names.reverse with
  | last :: [first] => first ++ " and " ++ last
  | last :: second :: others => ", ".intercalate (second :: others).reverse ++ ", and " ++ last
  | [only] => only
  | [] => ""

def message : RecordFault → String
  | noMethod name => s!"'BoundLogger' object has no attribute '{name}'"
  | reserved call name => s!"{call}() got multiple values for argument '{name}'"
  | missing call names =>
    let plural := if names.length = 1 then "argument" else "arguments"
    s!"{call}() missing {names.length} required positional {plural}: "
      ++ enumerate (names.map fun name => s!"'{name}'")
  | noName typeName => s!"'{typeName}' object has no attribute 'name'"
  | notText typeName => s!"can only concatenate str (not \"{typeName}\") to str"
  | longInteger => ValueFault.message .longInteger

end RecordFault

namespace Record

def shown (text : Option String) : Except RecordFault String :=
  match text with
  | some text => .ok text
  | none => .error .longInteger

def isSpecial (c : Char) : Bool :=
  c = ' ' || c = '\t' || c = '=' || c = '\r' || c = '\n' || c = Text.quotationMark
    || c = Text.apostrophe

def consoleValue : Value → Except RecordFault String
  | .scalar (.text s) => .ok (if s.toList.any isSpecial then Text.quoted s else s)
  | value => shown value.render?

def padRight (width : Nat) (text : String) : String :=
  text ++ String.ofList (List.replicate (width - text.length) ' ')

def placed : List String :=
  ["timestamp", "level", "event", "logger", "logger_name", "exception", "stack"]

def present? (fields : List (String × Value)) (name : String) : Option Value :=
  (fields.lookup name).filter fun value => match value with
    | .scalar .null => false
    | _ => true

def below : Option Value → Except RecordFault (Option String)
  | none => .ok none
  | some (.scalar (.text s)) => .ok (some s)
  | some value => .error (.notText value.typeName)

def lineEnds : List Char :=
  ['\n', '\r', '\x0b', '\x0c', '\x1c', '\x1d', '\x1e', '\x85', '\u2028', '\u2029']

def splitLines : List Char → List (List Char)
  | [] => []
  | '\r' :: '\n' :: rest => [] :: splitLines rest
  | c :: rest =>
    if lineEnds.contains c then [] :: splitLines rest
    else match splitLines rest with
      | line :: others => (c :: line) :: others
      | [] => [[c]]

def ended (text : String) : String :=
  if text.toList.getLast? = some '\n' then text else text ++ "\n"

def noFailure : String := "NoneType: None"

/-- Time, level, event and logger in columns, then the other fields by name, and below them a stack
and an exception, with a rule between the two. -/
def text (record : Record) (correlation : Option String) (time : String) :
    Except RecordFault String := do
  let fields := record.correlated correlation
  let other ← (fields.lookup "logger_name").toList.mapM fun name => do
    return "[" ++ (← shown name.toText?) ++ "]"
  let sorted := (fields.filter fun (name, _) => !placed.contains name).mergeSort
    fun (m, _) (n, _) => decide (m ≤ n)
  let named ← sorted.mapM fun (name, value) => do return name ++ "=" ++ (← consoleValue value)
  let columns :=
    [time, "[" ++ padRight 9 record.severity.name ++ "]", padRight 30 record.event,
     "[" ++ record.logger ++ "]"] ++ other
  let stack ← below (present? fields "stack")
  let failure ← below (present? fields "exception")
  let rule := if stack.isSome && failure.isSome
    then ["", String.ofList (List.replicate 79 '='), ""] else []
  return "\n".intercalate
    (" ".intercalate (columns ++ named) :: (stack.toList ++ rule ++ failure.toList))

def lines (record : Record) (correlation : Option String) (time : String) (tellsFailure : Bool) :
    Except RecordFault (List String) := do
  let text ← record.text correlation time
  let text := if tellsFailure then ended text ++ noFailure else text
  return (splitLines (text ++ "\n").toList).map String.ofList

end Record

/-! Records that several parts of the program write, with further fields at the end; a further
field of a known name takes its place. -/

def withFields (known extra : List (String × Value)) : List (String × Value) :=
  extra.foldl (fun fields (name, value) => Record.setField name value fields) known

def Record.treeRebuild (logger : String) (leafCount depth root duration : Value)
    (extra : List (String × Value)) : Record :=
  ⟨.debug, logger, "tree_rebuild", withFields
    [("event_type", .text "tree_rebuild"), ("leaf_count", leafCount), ("depth", depth),
     ("merkle_root", root), ("duration_ms", duration)] extra⟩

def Record.leafMutation (logger : String) (operation identifier leafCount root : Value)
    (extra : List (String × Value)) : Record :=
  ⟨.info, logger, "leaf_mutation", withFields
    [("event_type", .text "leaf_mutation"), ("operation", operation), ("identifier", identifier),
     ("leaf_count", leafCount), ("merkle_root", root)] extra⟩

def Record.proofVerification (logger : String) (proofType identifier success reason : Value)
    (extra : List (String × Value)) : Record :=
  let known :=
    [("event_type", .text "proof_verification"), ("proof_type", proofType),
     ("identifier", identifier), ("success", success)]
  let known := match reason with
    | .scalar .null => known
    | reason => known ++ [("failure_reason", reason)]
  if success.truthy then ⟨.debug, logger, "proof_verification", withFields known extra⟩
  else ⟨.info, logger, "proof_verification_failed", withFields known extra⟩

end AnchoredSet
