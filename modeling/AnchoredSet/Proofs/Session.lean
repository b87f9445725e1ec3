import AnchoredSet.Proofs.Audit
import AnchoredSet.Proofs.Damage

/-!
Sessions: what may happen to a tree between being made and being looked at, and what it tells of
that. It is changed, with success or without, its stored nodes are overwritten and removed, and it
is asked for proofs and for their truth.
-/

namespace AnchoredSet

inductive Question where
  | inclusion (value : Value) (useDuplicate : Bool)
  | exclusion (value : Value)
  | checkInclusion (value : Value) (proof : InclusionProof) (root : Value) (length : Int)
  | checkExclusion (value : Value) (proof : ExclusionProof) (root : Option Value)

inductive Act where
  | change (change : Change) (value : Value)
  | setNode (level index : Int) (node : Bytes)
  | dropNode (level index : Int)
  | ask (question : Question)

namespace Tree

def asked (tree : Tree) : Question → List Event
  | .inclusion value useDuplicate => (tree.inclusionProof value useDuplicate).events
  | .exclusion value => (tree.exclusionProof value).events
  | .checkInclusion value proof root length =>
    (AnchoredSet.checkInclusion value proof root length).events
  | .checkExclusion value proof root => (tree.checkExclusion value proof root).events

/-- What an act makes of a tree, with what it tells; damage is not told. -/
def act (tree : Tree) : Act → Outcome Tree
  | .change change value => tree.change change value
  | .setNode level index node => ⟨tree.setNode level index node, []⟩
  | .dropNode level index => ⟨tree.dropNode level index, []⟩
  | .ask question => ⟨.ok tree, tree.asked question⟩

def acted (tree : Tree) (act : Act) : Tree := (tree.act act).result.toOption.getD tree

/-- The call that an act is, if it is a change that succeeds. -/
def success? (tree : Tree) : Act → Option (Change × Value)
  | .change change value => (tree.change change value).result.toOption.map fun _ => (change, value)
  | _ => none

def through (tree : Tree) : List Act → Tree
  | [] => tree
  | act :: rest => (tree.acted act).through rest

def told (tree : Tree) : List Act → List Event
  | [] => []
  | act :: rest => (tree.act act).events ++ (tree.acted act).told rest

def successes (tree : Tree) : List Act → List (Change × Value)
  | [] => []
  | act :: rest => (tree.success? act).toList ++ (tree.acted act).successes rest

end Tree

inductive Event.OfProof : Event → Prop
  | corrupt (level index size : Nat) (expected : Bytes) :
      OfProof (nodeCorrupt level index size expected)
  | proved (identifier : Bytes) (roles : List Role) (depth : Nat) :
      OfProof (exclusionProved identifier roles depth)
  | verified (kind : ProofKind) (identifier : Bytes) (success : Bool) :
      OfProof (proofVerified kind identifier success)

inductive Event.OfTree : Event → Prop
  | rebuilt (leafCount depth : Nat) (root : Bytes) : OfTree (treeRebuilt leafCount depth root)
  | changed (change : Change) (identifier : Bytes) (leafCount : Nat) (root : Bytes) :
      OfTree (leafChanged change identifier leafCount root)
  | rejected (change : Change) (identifier : Bytes) (reason : Error) :
      OfTree (changeRejected change identifier reason)
  | proof {event : Event} (ofProof : event.OfProof) : OfTree event

namespace Tree

variable {tree : Tree} {event : Event}

theorem ofProof_fault {fault : PathFault} (member : event ∈ fault.events) : event.OfProof := by
  cases fault with
  | corrupt corruption =>
    rw [List.mem_singleton.mp member]
    exact .corrupt _ _ _ _
  | outside => cases member

theorem ofProof_inclusionProofOf {identifier : Bytes} {useDuplicate : Bool}
    (member : event ∈ (tree.inclusionProofOf identifier useDuplicate).events) :
    event.OfProof := by
  rw [inclusionProofOf] at member
  split at member
  · cases member
  · split at member
    · cases member
    · exact ofProof_fault member

theorem ofProof_neighborProof {neighbor : Bytes} {role : Role}
    (member : event ∈ (tree.neighborProof neighbor role).events) : event.OfProof := by
  cases role with
  | empty => cases member
  | _ => exact ofProof_inclusionProofOf member

theorem ofProof_neighborProofs {located : List (Bytes × Role)}
    (member : event ∈ (tree.neighborProofs located).events) : event.OfProof := by
  induction located with
  | nil => cases member
  | cons first rest ih =>
    rcases first with ⟨neighbor, role⟩
    have now : ∀ event ∈ (tree.neighborProof neighbor role).events, event.OfProof :=
      fun _ => ofProof_neighborProof
    rw [neighborProofs] at member
    generalize tree.neighborProof neighbor role = proved at member now
    generalize tree.neighborProofs rest = others at member ih
    rcases proved with ⟨result, told⟩
    rcases others with ⟨proofs, more⟩
    cases result with
    | error e => exact now event member
    | ok proof =>
      rcases List.mem_append.mp member with first | later
      · exact now event first
      · exact ih later

theorem ofProof_exclusionProofOf {identifier : Bytes}
    (member : event ∈ (tree.exclusionProofOf identifier).events) : event.OfProof := by
  rw [exclusionProofOf] at member
  split at member
  · cases member
  · rename_i located _
    have neighbors : ∀ event ∈ (tree.neighborProofs located).events, event.OfProof :=
      fun _ => ofProof_neighborProofs
    generalize tree.neighborProofs located = proved at member neighbors
    rcases proved with ⟨result, told⟩
    cases result with
    | error e => exact neighbors event member
    | ok proofs =>
      rcases List.mem_append.mp member with first | last
      · exact neighbors event first
      · rw [List.mem_singleton.mp last]
        exact .proved _ _ _

theorem ofProof_checkExclusion {value root : Value} {proofs : List InclusionProof}
    {neighbors : List Value} {length : Int}
    (member : event ∈ (AnchoredSet.checkExclusion value proofs neighbors root length).events) :
    event.OfProof := by
  simp only [AnchoredSet.checkExclusion] at member
  split at member
  · cases member
  · rw [List.mem_singleton.mp member]
    exact .verified _ _ _

theorem ofProof_asked {question : Question} (member : event ∈ tree.asked question) :
    event.OfProof := by
  cases question with
  | inclusion value useDuplicate =>
    rw [asked, inclusionProof] at member
    split at member
    · cases member
    · exact ofProof_inclusionProofOf member
  | exclusion value =>
    rw [asked, exclusionProof] at member
    split at member
    · cases member
    · exact ofProof_exclusionProofOf member
  | checkInclusion value proof root length =>
    simp only [asked, AnchoredSet.checkInclusion] at member
    split at member
    · cases member
    · rw [List.mem_singleton.mp member]
      exact .verified _ _ _
  | checkExclusion value proof root =>
    simp only [asked, checkExclusion] at member
    split at member
    · cases member
    · exact ofProof_checkExclusion member

theorem ofTree_change {change : Change} {value : Value}
    (member : event ∈ (tree.change change value).events) : event.OfTree := by
  have shape := tree.changed_change change value
  generalize tree.change change value = outcome at member shape
  cases shape with
  | undecoded => cases member
  | rejected =>
    rw [List.mem_singleton.mp member]
    exact .rejected _ _ _
  | accepted =>
    rcases List.mem_pair.mp member with rfl | rfl
    · exact .rebuilt _ _ _
    · exact .changed _ _ _ _

theorem ofTree_act {act : Act} (member : event ∈ (tree.act act).events) : event.OfTree := by
  cases act with
  | change change value => exact ofTree_change member
  | setNode level index node => cases member
  | dropNode level index => cases member
  | ask question => exact .proof (ofProof_asked member)

theorem ofTree_told {acts : List Act} (member : event ∈ tree.told acts) : event.OfTree := by
  induction acts generalizing tree with
  | nil => cases member
  | cons act rest ih =>
    rcases List.mem_append.mp member with now | later
    · exact ofTree_act now
    · exact ih later

theorem events_create {values : List Value} {length : Int}
    (made : (create values length).result = .ok tree) :
    (create values length).events = [tree.rebuiltEvent] := by
  simp only [create] at made ⊢
  split at made
  · cases made
    rfl
  · cases made

end Tree

end AnchoredSet
