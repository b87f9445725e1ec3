import AnchoredSet.Audit.Record

/-!
Calls of the log from outside, with named values as arguments, and the records they make. Names that
a call gives a meaning of its own cannot be given again.
-/

namespace AnchoredSet

inductive Method where
  | debug
  | info
  | warning
  | error
  | exception
  | critical
  | fatal
  deriving DecidableEq, Repr

def Method.names : List (String × Method) :=
  [("debug", debug), ("info", info), ("warning", warning), ("warn", warning), ("error", error),
   ("exception", exception), ("critical", critical), ("fatal", fatal)]

def Method.named (name : String) : Except RecordFault Method :=
  match names.lookup name with
  | some method => .ok method
  | none => .error (.noMethod name)

def Method.name : Method → String
  | debug => "debug"
  | info => "info"
  | warning => "warning"
  | error => "error"
  | exception => "exception"
  | critical => "critical"
  | fatal => "fatal"

def Method.severity : Method → Severity
  | debug => .debug
  | info => .info
  | warning => .warning
  | error | exception => .error
  | critical | fatal => .critical

inductive Call where
  | emit (method : Method) (event : String)
  | treeRebuild
  | leafMutation
  | proofVerification
  deriving DecidableEq, Repr

namespace Call

abbrev Arguments := List (String × Value)

def without (names : List String) (arguments : Arguments) : Arguments :=
  arguments.filter fun (name, _) => !names.contains name

def requireFree (method : Method) (arguments : Arguments) : Except RecordFault Unit := do
  let call := "BoundLogger." ++ method.name
  for name in ["event", "self"] do
    if (arguments.lookup name).isSome then throw (.reserved call name)
  if (arguments.lookup "method_name").isSome then
    throw (.reserved "BoundLogger._proxy_to_logger" "method_name")

/-- A field of this name stands for a record made elsewhere, which has a name. -/
def requireNoRecord (arguments : Arguments) : Except RecordFault Unit :=
  match arguments.lookup "_record" with
  | none | some (.scalar .null) => .ok ()
  | some value => .error (.noName value.typeName)

def requireNamed (call : String) (names : List String) (arguments : Arguments) :
    Except RecordFault Unit := do
  if (arguments.lookup "logger").isSome then throw (.reserved call "logger")
  let missing := names.filter fun name => (arguments.lookup name).isNone
  if !missing.isEmpty then throw (.missing call missing)

def argument (arguments : Arguments) (name : String) : Value := (arguments.lookup name).getD .null

def made (logger : String) (arguments : Arguments) : Call → Except RecordFault (Method × Record)
  | emit method event => .ok (method, ⟨method.severity, logger, event, arguments⟩)
  | treeRebuild => do
    let names := ["leaf_count", "depth", "merkle_root", "duration_ms"]
    requireNamed "log_tree_rebuild" names arguments
    return (.debug, .treeRebuild logger (argument arguments "leaf_count")
      (argument arguments "depth") (argument arguments "merkle_root")
      (argument arguments "duration_ms") (without names arguments))
  | leafMutation => do
    let names := ["operation", "identifier", "leaf_count", "merkle_root"]
    requireNamed "log_leaf_mutation" names arguments
    return (.info, .leafMutation logger (argument arguments "operation")
      (argument arguments "identifier") (argument arguments "leaf_count")
      (argument arguments "merkle_root") (without names arguments))
  | proofVerification => do
    let names := ["proof_type", "identifier", "success"]
    requireNamed "log_proof_verification" names arguments
    let success := argument arguments "success"
    return (if success.truthy then .debug else .info, .proofVerification logger
      (argument arguments "proof_type") (argument arguments "identifier") success
      (argument arguments "failure_reason") (without ("failure_reason" :: names) arguments))

def tellsFailure : Call → Bool
  | emit .exception _ => true
  | _ => false

def record (logger : String) (arguments : Arguments) (call : Call) :
    Except RecordFault Record := do
  let (method, record) ← call.made logger arguments
  requireFree method arguments
  requireNoRecord arguments
  return record

end Call

end AnchoredSet
