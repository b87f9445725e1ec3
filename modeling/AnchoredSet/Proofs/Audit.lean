import AnchoredSet.Proofs.Inclusion
import AnchoredSet.Settings

/-!
What the log holds of the changes of a tree. An entry names what was told under names of its own,
so it can be read back from the log. A change that is refused leaves one warning, but only where the
value is an identifier: any other value is refused before the log is thought of.
-/

namespace AnchoredSet

abbrev Entry := List (String × Value)

namespace Record

variable {record : Record} {correlation : Option String} {time key : String}

theorem lookup_cons (name key : String) (value : Value) (fields : Entry) :
    List.lookup key ((name, value) :: fields) =
      if key = name then some value else fields.lookup key := by
  by_cases same : key = name
  · simp [same]
  · have differ : (key == name) = false := beq_false_of_ne same
    simp [List.lookup_cons, differ, same]

theorem lookup_setField (name key : String) (value : Value) (fields : Entry) :
    (setField name value fields).lookup key =
      if key = name then some value else fields.lookup key := by
  induction fields with
  | nil => simp [setField, lookup_cons]
  | cons field rest ih =>
    rcases field with ⟨other, held⟩
    by_cases here : other = name
    · subst here
      by_cases same : key = other <;> simp [setField, lookup_cons, same]
    · by_cases same : key = other
      · simp [setField, here, same]
      · simp [setField, lookup_cons, here, same, ih]

theorem lookup_filter (kept : String → Bool) (keeps : kept key = true) (fields : Entry) :
    (fields.filter fun (name, _) => kept name).lookup key = fields.lookup key := by
  induction fields with
  | nil => rfl
  | cons field rest ih =>
    rcases field with ⟨name, held⟩
    by_cases same : key = name
    · simp [← same, keeps]
    · cases inside : kept name <;> simp [inside, lookup_cons, same, ih]

def reserved : List String :=
  ["event", "timestamp", "logger", "level", "correlation_id"] ++ steering

theorem ne_of_free (free : key ∉ reserved) {name : String} (member : name ∈ reserved) :
    key ≠ name := by
  intro same
  rw [same] at free
  exact free member

theorem lookup_correlated (free : key ∉ reserved) :
    (record.correlated correlation).lookup key = record.fields.lookup key := by
  have written : (!steering.contains key) = true := by
    simpa using fun member => free (List.mem_append_right _ member)
  have kept := lookup_filter (fun name => !steering.contains name) written record.fields
  have other : key ≠ "correlation_id" := ne_of_free free (by decide)
  cases correlation with
  | none => exact kept
  | some id =>
    by_cases empty : id = ""
    · simpa [correlated, empty] using kept
    · simpa [correlated, empty, lookup_setField, other] using kept

theorem lookup_entry (free : key ∉ reserved) :
    (record.entry correlation time).lookup key = record.fields.lookup key := by
  have inside : (record.correlated correlation).lookup key = record.fields.lookup key :=
    lookup_correlated free
  have event : key ≠ "event" := ne_of_free free (by decide)
  have timestamp : key ≠ "timestamp" := ne_of_free free (by decide)
  have logger : key ≠ "logger" := ne_of_free free (by decide)
  have level : key ≠ "level" := ne_of_free free (by decide)
  simpa [entry, lookup_setField, event, timestamp, logger, level] using inside

@[simp] theorem lookup_event (record : Record) (correlation : Option String) (time : String) :
    (record.entry correlation time).lookup "event" = some (.text record.event) := by
  simp [entry, lookup_setField]

@[simp] theorem lookup_level (record : Record) (correlation : Option String) (time : String) :
    (record.entry correlation time).lookup "level" = some (.text record.severity.name) := by
  simp [entry, lookup_setField]

end Record

/-- What is at hand when an event is written: how long the levels took to build, an identifier that
ties entries together, and the time. -/
structure Stamp where
  duration : Value
  correlation : Option String
  time : String

def Event.entry (event : Event) (stamp : Stamp) : Entry :=
  (event.record stamp.duration).entry stamp.correlation stamp.time

def Logging.writes (logging : Logging) (event : Event) (stamp : Stamp) : Bool :=
  event.isLogged logging.jsonFormat && logging.keeps (event.record stamp.duration)

def Logging.written (logging : Logging) : List (Event × Stamp) → List Entry
  | [] => []
  | (event, stamp) :: rest =>
    if logging.writes event stamp then event.entry stamp :: logging.written rest
    else logging.written rest

namespace Entry

def text? (entry : Entry) (name : String) : Option String :=
  match entry.lookup name with
  | some (.scalar (.text s)) => some s
  | _ => none

def number? (entry : Entry) (name : String) : Option Int :=
  match entry.lookup name with
  | some (.scalar (.int n)) => some n
  | _ => none

theorem text?_entry {event : Event} {stamp : Stamp} {name : String}
    (free : name ∉ Record.reserved) :
    (event.entry stamp).text? name = text? (event.record stamp.duration).fields name := by
  rw [text?, text?, Event.entry, Record.lookup_entry free]

theorem number?_entry {event : Event} {stamp : Stamp} {name : String}
    (free : name ∉ Record.reserved) :
    (event.entry stamp).number? name = number? (event.record stamp.duration).fields name := by
  rw [number?, number?, Event.entry, Record.lookup_entry free]

@[simp] theorem text?_event (event : Event) (stamp : Stamp) :
    (event.entry stamp).text? "event" = some (event.record stamp.duration).event := by
  simp [text?, Event.entry, Value.text]

@[simp] theorem text?_level (event : Event) (stamp : Stamp) :
    (event.entry stamp).text? "level" = some (event.record stamp.duration).severity.name := by
  simp [text?, Event.entry, Value.text]

def isMutation (entry : Entry) : Bool := entry.text? "event" = some "leaf_mutation"

/-- An entry that warns of a refused change, and says of which identifier and why. -/
structure Warns (change : Change) (identifier : Bytes) (reason : Error) (entry : Entry) :
    Prop where
  level : entry.text? "level" = some "warning"
  event : entry.text? "event" = some ("leaf_" ++ change.name ++ "_rejected")
  identifier : entry.text? "identifier" = some (Hex.marked identifier)
  reason : entry.text? "reason" = some reason.message

theorem Warns.not_isMutation {change : Change} {identifier : Bytes} {reason : Error}
    {entry : Entry} (warns : Warns change identifier reason entry) :
    entry.isMutation = false := by
  rw [isMutation, warns.event]
  cases change <;> decide

theorem warns_changeRejected (change : Change) (identifier : Bytes) (reason : Error)
    (stamp : Stamp) :
    Warns change identifier reason ((Event.changeRejected change identifier reason).entry stamp)
    where
  level := text?_level _ stamp
  event := text?_event _ stamp
  identifier := by
    rw [text?_entry (by decide)]
    rfl
  reason := by
    rw [text?_entry (by decide)]
    rfl

end Entry

namespace Tree

variable {tree : Tree} {change : Change} {value : Value} {identifier : Bytes} {e : Error}

/-- What a change gives, in the three ways that it can end. -/
inductive Changed (tree : Tree) (change : Change) (value : Value) : Outcome Tree → Prop
  | undecoded {e : Error} (refused : tree.decode value = .error e) :
      Changed tree change value ⟨.error e, []⟩
  | rejected {identifier : Bytes} {e : Error} (decoded : tree.decode value = .ok identifier)
      (refused : changedSet tree.leafSet identifier change = .error e) :
      Changed tree change value ⟨.error e, [.changeRejected change identifier e]⟩
  | accepted {identifier : Bytes} {s : LeafSet} (decoded : tree.decode value = .ok identifier)
      (changed : changedSet tree.leafSet identifier change = .ok s) :
      Changed tree change value ⟨.ok (ofLeafSet s), [(ofLeafSet s).rebuiltEvent,
        .leafChanged change identifier (ofLeafSet s).size (ofLeafSet s).root]⟩

theorem changed_change (tree : Tree) (change : Change) (value : Value) :
    Changed tree change value (tree.change change value) := by
  cases decoded : tree.decode value with
  | error e =>
    simp only [Tree.change, decoded]
    exact .undecoded decoded
  | ok identifier =>
    cases result : changedSet tree.leafSet identifier change with
    | error e =>
      simp only [Tree.change, decoded, result]
      exact .rejected decoded result
    | ok s =>
      simp only [Tree.change, decoded, result]
      exact .accepted decoded result

theorem isA_leaf_of_decode (counted : Identifier.Countable tree.leafSet.identifierLength)
    (refused : tree.decode value = .error e) : e.isA .leaf = true := by
  have kind := Identifier.kind?_of_decode_eq_error counted refused
  simp [Error.isA, kind, Kind.chain]

theorem isA_leaf_of_insert {s : LeafSet} (refused : s.insert identifier = .error e) :
    e.isA .leaf = true := by
  cases zero : identifier.isZero with
  | true =>
    rw [LeafSet.insert_of_isZero zero] at refused
    cases refused
    rfl
  | false =>
    by_cases present : s.leaves[s.lowerBound identifier]? = some identifier
    · simp [LeafSet.insert, Identifier.requireMember, zero, present, bind, Except.bind, throw,
        throwThe, MonadExceptOf.throw] at refused
      rw [← refused]
      rfl
    · have ok := LeafSet.insert_eq_ok.mpr ⟨zero, present, rfl⟩
      rw [ok] at refused
      cases refused

theorem isA_leaf_of_erase {s : LeafSet} (refused : s.erase identifier = .error e) :
    e.isA .leaf = true := by
  rw [LeafSet.erase, LeafSet.indexOf] at refused
  cases found : s.position? identifier with
  | none =>
    rw [found] at refused
    cases refused
    rfl
  | some i =>
    rw [found] at refused
    cases refused

theorem isA_leaf_of_changedSet {s : LeafSet}
    (refused : changedSet s identifier change = .error e) : e.isA .leaf = true := by
  cases change with
  | add => exact isA_leaf_of_insert refused
  | remove => exact isA_leaf_of_erase refused

end Tree

namespace Logging

theorem writes_of_rank {logging : Logging} {event : Event} {stamp : Stamp}
    (logged : event.isLogged logging.jsonFormat = true)
    (reaches : logging.rank ≤ (event.record stamp.duration).severity.rank) :
    logging.writes event stamp = true := by
  simp [writes, logged, keeps, Record.reaches, reaches]

theorem exists_warning {logging : Logging} (warns : logging.rank ≤ Severity.warning.rank)
    {change : Change} {identifier : Bytes} {reason : Error} {told : List (Event × Stamp)}
    (tells : told.map Prod.fst = [.changeRejected change identifier reason]) :
    ∃ entry, logging.written told = [entry] ∧ entry.Warns change identifier reason := by
  rcases List.map_eq_singleton_iff.mp tells with ⟨⟨event, stamp⟩, rfl, rfl⟩
  have writes : logging.writes (.changeRejected change identifier reason) stamp = true :=
    writes_of_rank rfl warns
  exact ⟨_, if_pos writes, Entry.warns_changeRejected change identifier reason stamp⟩

end Logging

/-- A change that is refused, whatever refuses it, is refused for its identifier, and no change is
told to the log. Where the value is an identifier, the log gets one warning; any other value leaves
no trace in it. -/
theorem refused_change_written {tree : Tree} {change : Change} {value : Value} {e : Error}
    (refused : (tree.change change value).result = .error e) {logging : Logging}
    (warns : logging.rank ≤ Severity.warning.rank) {told : List (Event × Stamp)}
    (tells : told.map Prod.fst = (tree.change change value).events) :
    (tree.Reachable → e.isA .leaf = true) ∧
      (∀ entry ∈ logging.written told, entry.isMutation = false) ∧
      (∀ identifier, tree.decode value = .ok identifier →
        ∃ entry, logging.written told = [entry] ∧ entry.Warns change identifier e) ∧
      (∀ fault, tree.decode value = .error fault → logging.written told = []) := by
  have shape := tree.changed_change change value
  generalize tree.change change value = outcome at refused tells shape
  cases shape with
  | undecoded undecoded =>
    cases refused
    obtain rfl := List.map_eq_nil_iff.mp tells
    refine ⟨fun reached => Tree.isA_leaf_of_decode reached.countable undecoded, nofun, ?_,
      fun _ _ => rfl⟩
    intro identifier decoded
    rw [undecoded] at decoded
    cases decoded
  | rejected decoded rejected =>
    cases refused
    rcases logging.exists_warning warns tells with ⟨entry, written, warning⟩
    rw [written]
    refine ⟨fun _ => Tree.isA_leaf_of_changedSet rejected, ?_, ?_, ?_⟩
    · intro other member
      rw [List.mem_singleton.mp member]
      exact warning.not_isMutation
    · intro other named
      rw [decoded, Except.ok.injEq] at named
      subst named
      exact ⟨entry, rfl, warning⟩
    · intro fault undecoded
      rw [decoded] at undecoded
      cases undecoded
  | accepted => cases refused

theorem refused_change_written_zero :
    ((Tree.ofLeafSet Sample.leafSet).add (.bytes .constant [0])).result = .error .zeroLeaf ∧
      ∃ entry, Logging.written ⟨Severity.warning.rank, .console, true⟩
          [(.changeRejected .add [0] .zeroLeaf, ⟨.null, none, ""⟩)] = [entry] ∧
        entry.Warns .add [0] .zeroLeaf := by
  have refused : ((Tree.ofLeafSet Sample.leafSet).change .add (.bytes .constant [0])).result =
      .error .zeroLeaf := rfl
  have warns : (Logging.mk Severity.warning.rank .console true).rank ≤ Severity.warning.rank :=
    Nat.le_refl _
  have tells : [(Event.changeRejected .add [0] .zeroLeaf, Stamp.mk .null none "")].map Prod.fst =
      ((Tree.ofLeafSet Sample.leafSet).change .add (.bytes .constant [0])).events := rfl
  rcases refused_change_written refused warns tells with ⟨_, _, warned, _⟩
  exact ⟨refused, warned [0] rfl⟩

/-- An identifier of another length is refused for that, and no log shows it. -/
theorem refused_change_unwritten :
    (Tree.ofLeafSet Sample.leafSet).Reachable ∧
      ((Tree.ofLeafSet Sample.leafSet).add (.bytes .constant [1, 2])).result =
        .error (.invalidIdentifier (.wrongLength 1 2)) ∧
      (Error.invalidIdentifier (.wrongLength 1 2)).isA .leaf = true ∧
      ∀ (logging : Logging) (told : List (Event × Stamp)),
        told.map Prod.fst =
            ((Tree.ofLeafSet Sample.leafSet).add (.bytes .constant [1, 2])).events →
          logging.written told = [] := by
  refine ⟨.create Sample.created, rfl, rfl, ?_⟩
  intro logging told tells
  obtain rfl := List.map_eq_nil_iff.mp tells
  rfl

end AnchoredSet
