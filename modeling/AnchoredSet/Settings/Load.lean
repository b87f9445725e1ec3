import AnchoredSet.Audit.Event
import AnchoredSet.Settings
import AnchoredSet.Yaml.Document

/-!
Settings from a file. A file that is missing or empty gives the defaults.
-/

namespace AnchoredSet

inductive Source where
  | missing
  | directory
  | file (data : Bytes)

namespace Settings

def faultText (reason : String) (line column : Nat) : String :=
  s!"{reason} (line {line + 1}, column {column + 1})"

/-- Whether the words of an error can be written in UTF-8. A level with halves of characters
cannot. -/
def isWritable (data : Value) : Error → Bool
  | .invalidSettings (.level _) =>
    let level := do (← section? data "logging").find? "level"
    match level with
    | .ok (some (.scalar (.halves _))) => false
    | _ => true
  | _ => true

def ofExpanded (path : String) (data : Value) : Outcome Settings :=
  match ofValue data with
  | .ok settings => ⟨.ok settings, [.settingsExpanded, .settingsAccepted path]⟩
  | .error error =>
    if error.isA .invalidSettings then
      ⟨.error error, [.settingsExpanded, .settingsRejected path error (isWritable data error)]⟩
    else ⟨.error error, [.settingsExpanded]⟩

def ofDocument (room : Room) (path : String) (environment : Environment) (data : Value) :
    Outcome Settings :=
  match data.resolve room environment with
  | .ok data => ofExpanded path data
  | .error error => ⟨.error error, []⟩

def unreadable (fault : SettingsFault) : Outcome Settings :=
  ⟨.error (.invalidSettings fault), [.settingsUnreadable fault]⟩

def ofFile (room : Room) (path : String) (environment : Environment) (file : Text.FileText) :
    Outcome Settings :=
  match Yaml.read room (.ofFile file) with
  | .error (.malformed reason line column) =>
    unreadable (.unparsable path (faultText reason line column))
  | .error (.failure failure) => ⟨.error failure.error, []⟩
  | .ok (.scalar .null) => ⟨.ok default, [.settingsRead path, .settingsEmpty path]⟩
  | .ok (.map entries) =>
    let outcome := ofDocument room path environment (.map entries)
    { outcome with events := .settingsRead path :: outcome.events }
  | .ok _ => ⟨.error (.invalidSettings (.notMapping path)), [.settingsRead path]⟩

def load (room : Room) (path : String) (environment : Environment) : Source → Outcome Settings
  | .missing => ⟨.ok default, [.settingsMissing path]⟩
  | .directory => unreadable (.directory path)
  | .file data => ofFile room path environment (.ofBytes data)

end Settings

end AnchoredSet
