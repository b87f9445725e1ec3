import AnchoredSet.Proofs.Hex
import AnchoredSet.Proofs.Members
import AnchoredSet.Proofs.Session

/-!
The log read back. The changes that the log of a session tells, done to the set that the tree was
made of, lead through the sets that the tree had to the one that it has, whatever failed and
whatever was done to its stored nodes in between.
-/

namespace AnchoredSet

structure Mutation where
  change : Change
  identifier : Bytes
  leafCount : Int
  root : String
  deriving DecidableEq, Repr

def Change.ofName? (name : String) : Option Change :=
  if name = Change.add.name then some .add
  else if name = Change.remove.name then some .remove
  else none

@[simp] theorem Change.ofName?_name (change : Change) : ofName? change.name = some change := by
  cases change <;> decide

namespace Entry

def mutation? (entry : Entry) : Option Mutation := do
  let change ← Change.ofName? (← entry.text? "operation")
  let identifier ← (Hex.decode (← entry.text? "identifier").toList).toOption
  return ⟨change, identifier, ← entry.number? "leaf_count", ← entry.text? "merkle_root"⟩

/-- The changes that a log tells; nothing if an entry that should tell of one cannot be read. -/
def mutations? (log : List Entry) : Option (List Mutation) :=
  (log.filter isMutation).mapM mutation?

end Entry

namespace Event

def mutation? : Event → Option Mutation
  | leafChanged change identifier leafCount root =>
    some ⟨change, identifier, leafCount, Hex.marked root⟩
  | _ => none

variable {event : Event}

theorem OfProof.mutation?_eq_none (ofProof : event.OfProof) : event.mutation? = none := by
  cases ofProof <;> rfl

theorem OfProof.isMutation_entry (ofProof : event.OfProof) (stamp : Stamp) :
    (event.entry stamp).isMutation = false := by
  cases ofProof with
  | corrupt level index size expected => simp [Entry.isMutation, record]
  | proved identifier roles depth => simp [Entry.isMutation, record]
  | verified kind identifier success =>
    cases kind <;> cases success <;>
      simp [Entry.isMutation, record, Record.proofVerification, Value.bool, Value.truthy,
        Scalar.truthy]

theorem OfTree.isMutation_entry (ofTree : event.OfTree) (stamp : Stamp) :
    (event.entry stamp).isMutation = event.mutation?.isSome := by
  cases ofTree with
  | rebuilt leafCount depth root =>
    simp [Entry.isMutation, record, Record.treeRebuild, mutation?]
  | changed change identifier leafCount root =>
    simp [Entry.isMutation, record, Record.leafMutation, mutation?]
  | rejected change identifier reason =>
    exact (Entry.warns_changeRejected change identifier reason stamp).not_isMutation
  | proof ofProof => rw [ofProof.isMutation_entry, ofProof.mutation?_eq_none, Option.isSome_none]

theorem mutation?_entry {mutation : Mutation} (tells : event.mutation? = some mutation)
    (stamp : Stamp) : (event.entry stamp).mutation? = some mutation := by
  cases event with
  | leafChanged change identifier leafCount root =>
    cases tells
    have fields : ((leafChanged change identifier leafCount root).record stamp.duration).fields =
        [("event_type", .text "leaf_mutation"), ("operation", .text change.name),
          ("identifier", .text (Hex.marked identifier)), ("leaf_count", .int leafCount),
          ("merkle_root", .text (Hex.marked root))] := rfl
    rw [Entry.mutation?, Entry.text?_entry (by decide), Entry.text?_entry (by decide),
      Entry.number?_entry (by decide), Entry.text?_entry (by decide), fields]
    simp [Entry.text?, Entry.number?, Record.lookup_cons, Value.text, Value.int,
      Hex.decode_marked, Except.toOption]
  | _ => cases tells

end Event

/-- The log of what a tree told gives back every change that was told, in order. -/
theorem mutations?_written {logging : Logging} (informs : logging.rank ≤ Severity.info.rank)
    {told : List (Event × Stamp)} (ofTree : ∀ event ∈ told.map Prod.fst, event.OfTree) :
    Entry.mutations? (logging.written told) =
      some ((told.map Prod.fst).filterMap Event.mutation?) := by
  induction told with
  | nil => rfl
  | cons first rest ih =>
    rcases first with ⟨event, stamp⟩
    have others := ih fun event member => ofTree event (List.mem_cons_of_mem _ member)
    have isMutation := (ofTree event List.mem_cons_self).isMutation_entry stamp
    rw [List.map_cons]
    cases tells : event.mutation? with
    | none =>
      rw [tells] at isMutation
      -- Whether such an event is written or not, no change is read from it.
      rw [List.filterMap_cons_none tells, ← others, Logging.written]
      split
      · rw [Entry.mutations?, List.filter_cons_of_neg (by simp [isMutation]), Entry.mutations?]
      · rfl
    | some mutation =>
      rw [tells] at isMutation
      have writes : logging.writes event stamp = true := by
        cases event with
        | leafChanged => exact Logging.writes_of_rank rfl informs
        | _ => cases tells
      rw [List.filterMap_cons_some tells, Logging.written, if_pos writes, Entry.mutations?,
        List.filter_cons_of_pos (by simp [isMutation]), List.mapM_cons,
        Event.mutation?_entry tells stamp]
      rw [Entry.mutations?] at others
      simp [others]

inductive Moves (members : Members) (mutation : Mutation) : Members → Prop
  | add (change : mutation.change = .add) (absent : mutation.identifier ∉ members) :
      Moves members mutation (insert mutation.identifier members)
  | remove (change : mutation.change = .remove) (present : mutation.identifier ∈ members) :
      Moves members mutation (members.erase mutation.identifier)

/-- Changes done to a set one after the other, up to the last set. Each is told with the size of
the set that it leads to, and with the root of the tree that is built over that. -/
inductive Replays (length : Int) : Members → List Mutation → Members → Prop
  | nil {members : Members} : Replays length members [] members
  | cons {members next last : Members} {mutation : Mutation} {rest : List Mutation}
      (moves : Moves members mutation next) (leafCount : mutation.leafCount = next.card)
      (root : mutation.root = Hex.marked (next.tree length).root)
      (replays : Replays length next rest last) : Replays length members (mutation :: rest) last

/-- A change in the log is the one that a call asked for. -/
structure Mutation.Answers (length : Int) (mutation : Mutation) (call : Change × Value) : Prop where
  change : mutation.change = call.1
  identifier : Identifier.ofValue call.2 length = .ok mutation.identifier

theorem Members.moves_of_changed {members next : Members} {identifier : Bytes} {change : Change}
    (ok : members.changed identifier change = .ok next) (leafCount : Int) (root : String) :
    Moves members ⟨change, identifier, leafCount, root⟩ next := by
  cases change with
  | add =>
    cases zero : identifier.isZero with
    | true => simp [changed, zero] at ok
    | false =>
      by_cases member : identifier ∈ members
      · simp [changed, zero, member] at ok
      · simp only [changed, zero, member, if_false, Bool.false_eq_true, Except.ok.injEq] at ok
        subst ok
        exact .add rfl member
  | remove =>
    by_cases member : identifier ∈ members
    · simp only [changed, member, if_true, Except.ok.injEq] at ok
      subst ok
      exact .remove rfl member
    · simp [changed, member] at ok

section Acts

variable {tree : Tree} {members : Members} {length : Int}

/-- What an act does to a tree that stores a set, and what it tells of that. -/
inductive Acted (length : Int) (tree : Tree) (members : Members) (act : Act) : Prop
  | still (stored : (tree.acted act).leafSet = members.leafSet length)
      (quiet : (tree.act act).events.filterMap Event.mutation? = [])
      (fails : tree.success? act = none)
  | moved {next : Members} {call : Change × Value} {mutation : Mutation}
      (stored : (tree.acted act).leafSet = next.leafSet length)
      (tells : (tree.act act).events.filterMap Event.mutation? = [mutation])
      (succeeds : tree.success? act = some call) (answers : mutation.Answers length call)
      (moves : Moves members mutation next) (leafCount : mutation.leafCount = next.card)
      (root : mutation.root = Hex.marked (next.tree length).root)

theorem acted_of_kept (stored : tree.leafSet = members.leafSet length) {act : Act}
    (quiet : (tree.act act).events.filterMap Event.mutation? = []) (fails : tree.success? act = none)
    (kept : ∀ next, (tree.act act).result = .ok next → next.leafSet = tree.leafSet) :
    Acted length tree members act := by
  refine .still ?_ quiet fails
  rw [Tree.acted]
  cases result : (tree.act act).result with
  | error e => exact stored
  | ok next => exact (kept next result).trans stored

theorem acted_change (stored : tree.leafSet = members.leafSet length) (change : Change)
    (value : Value) : Acted length tree members (.change change value) := by
  have shape := tree.changed_change change value
  have act : tree.act (.change change value) = tree.change change value := rfl
  have success : tree.success? (.change change value) =
      (tree.change change value).result.toOption.map fun _ => (change, value) := rfl
  generalize tree.change change value = outcome at shape act success
  cases shape with
  | undecoded =>
    refine acted_of_kept stored (by rw [act]; rfl) success ?_
    rw [act]
    nofun
  | rejected =>
    refine acted_of_kept stored (by rw [act]; rfl) success ?_
    rw [act]
    nofun
  | @accepted identifier s decoded changed =>
    -- What the stored set allows is what the finite set allows.
    rw [stored, members.changedSet_leafSet] at changed
    rw [Tree.decode, stored] at decoded
    cases result : members.changed identifier change with
    | error e =>
      rw [result] at changed
      cases changed
    | ok next =>
      rw [result] at changed
      cases changed
      have named : Identifier.ofValue value length = .ok identifier :=
        Identifier.decode_eq_ok.mp decoded
      refine .moved ?_ (by rw [act]; rfl) success ⟨rfl, named⟩
        (Members.moves_of_changed result _ _) ?_ rfl
      · rw [Tree.acted, act]
        rfl
      · exact congrArg Nat.cast (Finset.length_sort _)

theorem acted_act (stored : tree.leafSet = members.leafSet length) (act : Act) :
    Acted length tree members act := by
  cases act with
  | change change value => exact acted_change stored change value
  | setNode level index node =>
    apply acted_of_kept stored rfl rfl
    intro next ok
    rcases Tree.setNode_eq_ok ok with ⟨l, i, rfl⟩
    rfl
  | dropNode level index =>
    apply acted_of_kept stored rfl rfl
    intro next ok
    rcases Tree.dropNode_eq_ok ok with ⟨l, i, rfl⟩
    rfl
  | ask question =>
    have quiet : (tree.act (.ask question)).events.filterMap Event.mutation? = [] :=
      List.filterMap_eq_nil_iff.mpr fun _ member =>
        (Tree.ofProof_asked member).mutation?_eq_none
    apply acted_of_kept stored quiet rfl
    intro next ok
    cases ok
    rfl

theorem exists_replay (stored : tree.leafSet = members.leafSet length) (acts : List Act) :
    ∃ last, (tree.through acts).leafSet = last.leafSet length ∧
      List.Forall₂ (Mutation.Answers length) ((tree.told acts).filterMap Event.mutation?)
        (tree.successes acts) ∧
      Replays length members ((tree.told acts).filterMap Event.mutation?) last := by
  -- The levels play no part: only the stored set is carried from act to act.
  induction acts generalizing tree members with
  | nil => exact ⟨members, stored, .nil, .nil⟩
  | cons act rest ih =>
    rw [Tree.told, Tree.successes, Tree.through, List.filterMap_append]
    cases acted_act stored act with
    | still stored quiet fails =>
      rw [quiet, fails]
      exact ih stored
    | @moved next call mutation stored tells succeeds answers moves leafCount root =>
      rw [tells, succeeds]
      rcases ih stored with ⟨last, ended, answered, replays⟩
      exact ⟨last, ended, .cons answers answered, .cons moves leafCount root replays⟩

end Acts

/-- Read back from a log that is set to tell of news, the changes of a session are the calls that
succeeded, one for one and in order, whatever failed and whatever was done to the stored nodes in
between. Done to the set that the tree was made of, each is a change that the set allows and leads
to a set of the size and the root it is told with, and the last of them to the members that the
tree has. -/
theorem written_replays {values : List Value} {length : Int} {tree : Tree}
    (made : (Tree.create values length).result = .ok tree) (acts : List Act) {logging : Logging}
    (informs : logging.rank ≤ Severity.info.rank) {told : List (Event × Stamp)}
    (tells : told.map Prod.fst = (Tree.create values length).events ++ tree.told acts) :
    ∃ mutations last, Entry.mutations? (logging.written told) = some mutations ∧
      List.Forall₂ (Mutation.Answers length) mutations (tree.successes acts) ∧
      Replays length (Members.ofValues values length) mutations last ∧
      (tree.through acts).rawLeaves = last.sort := by
  have stored : tree.leafSet = (Members.ofValues values length).leafSet length := by
    rw [(Members.create_eq_ok_tree made).2]
    rfl
  rcases exists_replay stored acts with ⟨last, ended, answered, replays⟩
  have ofTree : ∀ event ∈ told.map Prod.fst, event.OfTree := by
    rw [tells, Tree.events_create made]
    intro event member
    rcases List.mem_cons.mp member with rfl | later
    · exact .rebuilt _ _ _
    · exact Tree.ofTree_told later
  have read := mutations?_written informs ofTree
  rw [tells, Tree.events_create made] at read
  exact ⟨_, last, read, answered, replays, congrArg LeafSet.leaves ended⟩

def Sample.acts : List Act :=
  [.change .remove (.bytes .constant [3]), .dropNode 0 0, .ask (.exclusion (.bytes .constant [4])),
    .change .add (.bytes .view [0]), .change .add (.bytes .constant [4])]

def Sample.told : List (Event × Stamp) :=
  ((Tree.create values leafSet.identifierLength).events ++
    (Tree.ofLeafSet leafSet).told acts).map fun event => (event, ⟨.null, none, ""⟩)

theorem written_replays_acts :
    ∃ mutations last,
      Entry.mutations? (Logging.written ⟨Severity.info.rank, .console, true⟩ Sample.told) =
        some mutations ∧
      List.Forall₂ (Mutation.Answers 1) mutations
        ((Tree.ofLeafSet Sample.leafSet).successes Sample.acts) ∧
      Replays 1 (Members.ofValues Sample.values 1) mutations last ∧
      ((Tree.ofLeafSet Sample.leafSet).through Sample.acts).rawLeaves = last.sort := by
  have tells : Sample.told.map Prod.fst =
      (Tree.create Sample.values Sample.leafSet.identifierLength).events ++
        (Tree.ofLeafSet Sample.leafSet).told Sample.acts := by
    rw [Sample.told, List.map_map]
    exact List.map_id _
  have informs : (Logging.mk Severity.info.rank .console true).rank ≤ Severity.info.rank :=
    Nat.le_refl _
  exact written_replays Sample.created Sample.acts informs tells

end AnchoredSet
