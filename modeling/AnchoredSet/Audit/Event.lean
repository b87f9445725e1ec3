import AnchoredSet.Audit.Record
import AnchoredSet.Hex
import AnchoredSet.Neighbor

/-!
What the tree and the settings tell the log, as events with their data, and the record of each.
-/

namespace AnchoredSet

inductive Change where
  | add
  | remove
  deriving DecidableEq, Repr

def Change.name : Change → String
  | add => "add"
  | remove => "remove"

inductive ProofKind where
  | inclusion
  | exclusion (neighbors : Nat)
  deriving DecidableEq, Repr

inductive Event where
  | treeRebuilt (leafCount depth : Nat) (root : Bytes)
  | leafChanged (change : Change) (identifier : Bytes) (leafCount : Nat) (root : Bytes)
  | changeRejected (change : Change) (identifier : Bytes) (reason : Error)
  | nodeCorrupt (level index size : Nat) (expected : Bytes)
  | exclusionProved (identifier : Bytes) (roles : List Role) (depth : Nat)
  | proofVerified (kind : ProofKind) (identifier : Bytes) (success : Bool)
  | settingsMissing (path : String)
  | settingsRead (path : String)
  | settingsEmpty (path : String)
  | settingsExpanded
  | settingsAccepted (path : String)
  | settingsUnreadable (fault : SettingsFault)
  | settingsRejected (path : String) (error : Error) (isWritable : Bool)
  deriving DecidableEq, Repr

namespace Event

def treeLogger : String := "memberroot.merkle.tree"

def exclusionLogger : String := "memberroot.merkle.exclusion"

def settingsLogger : String := "memberroot.config.settings"

private def number (n : Nat) : Value := .int n

private def hexText (data : Bytes) : Value := .text (Hex.marked data)

/-- The record of an event. Rebuilding the tree takes a time that is measured outside. -/
def record (duration : Value) : Event → Record
  | treeRebuilt leafCount depth root =>
    .treeRebuild treeLogger (number leafCount) (number depth) (hexText root) duration []
  | leafChanged change identifier leafCount root =>
    .leafMutation treeLogger (.text change.name) (hexText identifier) (number leafCount)
      (hexText root) []
  | changeRejected change identifier reason =>
    ⟨.warning, treeLogger, "leaf_" ++ change.name ++ "_rejected",
      [("identifier", hexText identifier), ("reason", .text reason.message)]⟩
  | nodeCorrupt level index size expected =>
    ⟨.error, treeLogger, "corrupt_tree",
      [("depth", number level), ("index", number index), ("level_size", number size),
       ("expected", hexText expected)]⟩
  | exclusionProved identifier roles depth =>
    ⟨.debug, exclusionLogger, "exclusion_proof_generated",
      [("identifier", hexText identifier),
       ("roles", .list (roles.map fun role => .text role.name)), ("depth", number depth)]⟩
  | proofVerified .inclusion identifier success =>
    .proofVerification treeLogger (.text "inclusion") (hexText identifier) (.bool success)
      (if success then .null else .text "root_mismatch") []
  | proofVerified (.exclusion neighbors) identifier success =>
    .proofVerification treeLogger (.text "exclusion") (hexText identifier) (.bool success) .null
      [("neighbor_count", number neighbors)]
  | settingsMissing path =>
    ⟨.info, settingsLogger, s!"Configuration file not found at {path}, using defaults", []⟩
  | settingsRead path => ⟨.debug, settingsLogger, s!"Loaded configuration from {path}", []⟩
  | settingsEmpty path =>
    ⟨.info, settingsLogger, s!"Configuration file {path} is empty, using defaults", []⟩
  | settingsExpanded =>
    ⟨.debug, settingsLogger, "Expanded environment variables in configuration", []⟩
  | settingsAccepted path =>
    ⟨.info, settingsLogger, s!"Successfully loaded and validated configuration from {path}", []⟩
  | settingsUnreadable fault => ⟨.error, settingsLogger, fault.message, []⟩
  | settingsRejected path error _ =>
    ⟨.error, settingsLogger, s!"Invalid configuration in '{path}': {error.message}", []⟩

/-- Whether the record of an event gets into the log. As an entry all text is written in ASCII. -/
def isLogged (jsonFormat : Bool) : Event → Bool
  | settingsRejected _ _ isWritable => jsonFormat || isWritable
  | _ => true

end Event

structure Outcome (α : Type) where
  result : Except Error α
  events : List Event

end AnchoredSet
