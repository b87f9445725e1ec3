import AnchoredSet.Proofs.Ends
import AnchoredSet.Proofs.Record
import Mathlib.Data.List.Basic

/-!
Exclusion proofs from outside. A value of any shape is read as a proof and checked against a root:
that gives an answer, or one of the errors that callers are told of.
-/

namespace AnchoredSet

def verifyRecord (room : Room) (record identifier root : Value) (length : Int) :
    Except Error Bool := do
  let proof ← ExclusionProof.ofValue room record
  (checkExclusion identifier proof.proofs (proof.neighbors.map (.bytes .constant)) root
    length).result

/-- The first element of a record that is none of a proof, where it is nested so deep that there is
no room to show it. -/
inductive ExclusionProof.Unshown (room : Room) (record : Value) : Prop
  | element {proofs path element : Value} {before after front back : List Value}
      (entry : record.entry "proofs" = .ok proofs)
      (paths : proofs.elements = .ok (before ++ path :: after))
      (earlier : ∀ other ∈ before, ∃ read, readPath room other = .ok read)
      (elements : path.elements = .ok (front ++ element :: back))
      (ahead : ∀ other ∈ front, ∃ sibling, Sibling.ofValue room other = .ok sibling)
      (malformed : ∀ sibling, Sibling.ofValue room element ≠ .ok sibling)
      (deep : element.shown room.fits 0 = .error .nesting) : Unshown room record

/-- The errors that a caller who checks a proof is told of, with what each of them says. -/
inductive Error.Documented (identifier : Value) (length : Int) : Error → Prop
  | malformed (fault : ProofFault) : Documented identifier length (.malformedProof fault)
  | mismatch {proofs neighbors : Nat} (differ : proofs ≠ neighbors) :
      Documented identifier length (.proofNeighborMismatch proofs neighbors)
  | count {count : Nat} (unusual : count ≠ 1 ∧ count ≠ 2) :
      Documented identifier length (.invalidProofCount count)
  | identifier {fault : IdentifierFault}
      (refused : Identifier.ofValue identifier length = .error fault) :
      Documented identifier length (.invalidIdentifier fault)

/-- Of the identifier and the neighbors, the first that is not read gives bytes of another number
than the length, and the length cannot be told. -/
def FirstUntold (identifier : Value) (neighbors : List Value) (length : Int) : Prop :=
  ∃ before value after, identifier :: neighbors = before ++ value :: after ∧
    (∀ other ∈ before, ∃ data, Identifier.ofValue other length = .ok data) ∧
    Identifier.Untold value length

/-- The errors that a caller is not told of: an element nested too deep for the message that it is
malformed, and a length with too many digits for the message that bytes are of another one. -/
inductive Error.Escaping (room : Room) (record identifier : Value) (length : Int) : Error → Prop
  | nesting (unshown : ExclusionProof.Unshown room record) :
      Escaping room record identifier length .nestingShown
  | length {proof : ExclusionProof} (read : ExclusionProof.ofValue room record = .ok proof)
      (first : FirstUntold identifier (proof.neighbors.map (.bytes .constant)) length) :
      Escaping room record identifier length (.value .longInteger)

inductive Error.Unread : Error → Prop
  | value (fault : ValueFault) : Unread (.value fault)
  | proof (fault : ProofFault) : Unread (.malformedProof fault)
  | nesting : Unread .nestingShown

inductive Error.Malformed : Error → Prop
  | proof (fault : ProofFault) : Malformed (.malformedProof fault)
  | nesting : Malformed .nestingShown

inductive Error.OfCheck (identifier : Value) (neighbors : List Value) (length : Int) :
    Error → Prop
  | documented {e : Error} (documented : e.Documented identifier length) :
      OfCheck identifier neighbors length e
  | length (first : FirstUntold identifier neighbors length) :
      OfCheck identifier neighbors length (.value .longInteger)

namespace Sibling

variable {room : Room} {value : Value}

theorem fault_unread (room : Room) (value : Value) (cause : Option ValueFault) :
    (fault room value cause).Unread := by
  rw [fault]
  cases value.shown room.fits 0 with
  | ok shown => exact .proof _
  | error fault =>
    cases fault with
    | longInteger => exact .value _
    | nesting => exact .nesting

theorem fault_eq_nestingShown {cause : Option ValueFault} :
    fault room value cause = .nestingShown ↔ value.shown room.fits 0 = .error .nesting := by
  rw [fault]
  cases value.shown room.fits 0 with
  | ok shown => simp
  | error fault => cases fault <;> simp

theorem ofValue_cases (room : Room) (value : Value) :
    (∃ sibling, ofValue room value = .ok sibling ∧ sibling.node.length = digestLength) ∨
      ∃ cause, ofValue room value = .error (fault room value cause) := by
  rw [ofValue]
  split
  · exact .inr ⟨_, rfl⟩
  · split
    · rename_i sized
      exact .inl ⟨_, rfl, sized⟩
    · exact .inr ⟨none, rfl⟩
  · exact .inr ⟨none, rfl⟩

theorem ends_ofValue (room : Room) (value : Value) :
    Ends Error.Unread (fun sibling => sibling.node.length = digestLength) (ofValue room value) := by
  rcases ofValue_cases room value with ⟨sibling, read, sized⟩ | ⟨cause, refused⟩
  · rw [read]
    exact .ok sized
  · rw [refused]
    exact .error (fault_unread room value cause)

theorem ofValue_eq_nestingShown : ofValue room value = .error .nestingShown ↔
    (∀ sibling, ofValue room value ≠ .ok sibling) ∧
      value.shown room.fits 0 = .error .nesting := by
  rcases ofValue_cases room value with ⟨sibling, read, _⟩ | ⟨cause, refused⟩
  · rw [read]
    exact iff_of_false nofun fun malformed => malformed.1 sibling rfl
  · rw [refused, Except.error.injEq, fault_eq_nestingShown, and_iff_right]
    exact nofun

end Sibling

namespace ExclusionProof

variable {room : Room}

theorem ends_readPath (room : Room) (value : Value) : Ends Error.Unread
    (fun path => ∀ sibling ∈ path, sibling.node.length = digestLength) (readPath room value) := by
  apply ((Ends.any value.elements).mapError fun fault _ => Error.Unread.value fault).bind
  intro items _
  exact .mapM fun item _ => Sibling.ends_ofValue room item

theorem ends_handle {α : Type} {holds : α → Prop} {result : Except Error α}
    (ends : Ends Error.Unread holds result) : Ends Error.Malformed holds (handle result) := by
  cases ends with
  | ok right => exact .ok right
  | error among =>
    cases among with
    | value fault => exact .error (.proof _)
    | proof fault => exact .error (.proof fault)
    | nesting => exact .error .nesting

theorem ends_ofValue (room : Room) (value : Value) : Ends Error.Malformed
    (fun proof => ∀ path ∈ proof.proofs, ∀ sibling ∈ path, sibling.node.length = digestLength)
    (ofValue room value) := by
  have unread {α : Type} (read : Except ValueFault α) :
      Ends Error.Unread (fun _ => True) (read.mapError .value) :=
    (Ends.any read).mapError fun fault _ => .value fault
  apply ends_handle
  apply (unread _).bind
  intro listed _
  apply (Ends.mapM fun item _ => ends_readPath room item).bind
  intro proofs sized
  apply (unread _).bind
  intro named _
  apply (Ends.mapM fun neighbor _ => unread neighbor.decodeHex).bind
  intro neighbors _
  exact .ok sized

theorem handle_eq_nestingShown {α : Type} {result : Except Error α} :
    handle result = .error .nestingShown ↔ result = .error .nestingShown := by
  cases result with
  | ok read => exact iff_of_false nofun nofun
  | error e => cases e <;> simp [handle, ofValueFault]

theorem mapError_value_ne {α : Type} (read : Except ValueFault α) :
    read.mapError Error.value ≠ .error .nestingShown := by
  cases read <;> exact nofun

theorem readPath_eq_nestingShown {value : Value} :
    readPath room value = .error .nestingShown ↔ ∃ front element back,
      value.elements = .ok (front ++ element :: back) ∧
        (∀ other ∈ front, ∃ sibling, Sibling.ofValue room other = .ok sibling) ∧
        (∀ sibling, Sibling.ofValue room element ≠ .ok sibling) ∧
        element.shown room.fits 0 = .error .nesting := by
  rw [readPath, bind_eq_error, or_iff_right (mapError_value_ne _)]
  simp only [mapError_eq_ok, mapM_eq_error_iff, Sibling.ofValue_eq_nestingShown]
  constructor
  · rintro ⟨_, items, front, element, back, rfl, ahead⟩
    exact ⟨front, element, back, items, ahead⟩
  · rintro ⟨front, element, back, items, ahead⟩
    exact ⟨_, items, front, element, back, rfl, ahead⟩

theorem ofValue_eq_nestingShown {record : Value} :
    ofValue room record = .error .nestingShown ↔ Unshown room record := by
  rw [ofValue, handle_eq_nestingShown]
  constructor
  · intro refused
    rcases bind_eq_error.mp refused with listing | ⟨listed, held, refused⟩
    · exact absurd listing (mapError_value_ne _)
    obtain ⟨proofs, entry, elements⟩ := bind_eq_ok.mp (mapError_eq_ok.mp held)
    rcases bind_eq_error.mp refused with reading | ⟨_, _, refused⟩
    · obtain ⟨before, path, after, rfl, earlier, refused⟩ := mapM_eq_error_iff.mp reading
      obtain ⟨front, element, back, items, ahead, malformed, deep⟩ :=
        readPath_eq_nestingShown.mp refused
      exact .element entry elements earlier items ahead malformed deep
    -- Neighbors are not shown.
    rcases bind_eq_error.mp refused with naming | ⟨_, _, refused⟩
    · exact absurd naming (mapError_value_ne _)
    rcases bind_eq_error.mp refused with reading | ⟨_, _, refused⟩
    · obtain ⟨_, _, _, _, _, refused⟩ := mapM_eq_error_iff.mp reading
      exact absurd refused (mapError_value_ne _)
    · cases refused
  · rintro ⟨entry, paths, earlier, elements, ahead, malformed, deep⟩
    refine bind_eq_error.mpr (.inr ⟨_, mapError_eq_ok.mpr (bind_eq_ok.mpr ⟨_, entry, paths⟩), ?_⟩)
    refine bind_eq_error.mpr (.inl (mapM_eq_error_iff.mpr ⟨_, _, _, rfl, earlier, ?_⟩))
    exact readPath_eq_nestingShown.mpr ⟨_, _, _, elements, ahead, malformed, deep⟩

end ExclusionProof

section Check

variable {identifier : Value} {length : Int}

theorem documented_count {proofs : List InclusionProof} {neighbors : List Bytes}
    (same : proofs.length = neighbors.length)
    (single : ∀ proof neighbor, proofs = [proof] → neighbors = [neighbor] → False)
    (double : ∀ lowerProof upperProof lower upper, proofs = [lowerProof, upperProof] →
      neighbors = [lower, upper] → False) :
    Error.Documented identifier length (.invalidProofCount proofs.length) := by
  apply Error.Documented.count
  constructor
  · intro one
    rcases List.length_eq_one_iff.mp one with ⟨proof, rfl⟩
    rcases List.length_eq_one_iff.mp same.symm with ⟨neighbor, rfl⟩
    exact single proof neighbor rfl rfl
  · intro two
    rcases List.length_eq_two.mp two with ⟨lowerProof, upperProof, rfl⟩
    rcases List.length_eq_two.mp same.symm with ⟨lower, upper, rfl⟩
    exact double lowerProof upperProof lower upper rfl rfl

theorem ends_verifyExclusion (data : Bytes) (proofs : List InclusionProof)
    (neighbors : List Bytes) (root : Bytes) :
    Ends (Error.Documented identifier length) (fun _ => True)
      (verifyExclusion data proofs neighbors root) := by
  unfold verifyExclusion
  split
  · exact .ok trivial
  · exact .ok trivial
  · rename_i single double
    split
    · rename_i same
      exact .error (documented_count same single double)
    · rename_i differ
      exact .error (.mismatch differ)

theorem readNeighbors_eq_error {neighbors : List Value} {e : Error} :
    readNeighbors neighbors length = .error e ↔ ∃ before value after fault,
      neighbors = before ++ value :: after ∧
        (∀ other ∈ before, ∃ data, Identifier.ofValue other length = .ok data) ∧
        Identifier.ofValue value length = .error fault ∧
        fault.raise (fun fault => .malformedProof (.neighbor fault)) = e := by
  simp only [readNeighbors, mapError_eq_error, mapM_eq_error_iff]
  constructor
  · rintro ⟨fault, ⟨before, value, after, order, earlier, refused⟩, raised⟩
    exact ⟨before, value, after, fault, order, earlier, refused, raised⟩
  · rintro ⟨before, value, after, fault, order, earlier, refused, raised⟩
    exact ⟨fault, ⟨before, value, after, order, earlier, refused⟩, raised⟩

theorem ends_decode {neighbors : List Value} :
    Ends (Error.OfCheck identifier neighbors length)
      (fun data => Identifier.ofValue identifier length = .ok data)
      (Identifier.decode identifier length) := by
  rw [Identifier.decode]
  cases read : Identifier.ofValue identifier length with
  | ok data => exact .ok rfl
  | error fault =>
    apply Ends.error
    rcases Identifier.raise_of_ofValue read .invalidIdentifier with ⟨untold, raised⟩ | ⟨_, raised⟩
    · rw [raised]
      exact .length ⟨[], identifier, neighbors, rfl, List.forall_mem_nil _, untold⟩
    · rw [raised]
      exact .documented (.identifier read)

theorem ends_readNeighbors {neighbors : List Value} {data : Bytes}
    (named : Identifier.ofValue identifier length = .ok data) :
    Ends (Error.OfCheck identifier neighbors length) (fun _ => True)
      (readNeighbors neighbors length) := by
  apply Ends.iff.mpr ⟨fun _ _ => trivial, ?_⟩
  intro e refused
  rcases readNeighbors_eq_error.mp refused with
    ⟨before, value, after, fault, rfl, earlier, unread, rfl⟩
  rcases Identifier.raise_of_ofValue unread fun fault => .malformedProof (.neighbor fault)
    with ⟨untold, raised⟩ | ⟨_, raised⟩
  · rw [raised]
    apply Error.OfCheck.length
    exact ⟨identifier :: before, value, after, rfl,
      List.forall_mem_cons.mpr ⟨⟨data, named⟩, earlier⟩, untold⟩
  · rw [raised]
    exact .documented (.malformed _)

theorem ends_checkExclusion (proofs : List InclusionProof) (neighbors : List Value)
    (root : Value) : Ends (Error.OfCheck identifier neighbors length) (fun _ => True)
      (checkExclusion identifier proofs neighbors root length).result := by
  -- The check in the order in which it goes: identifier, neighbors, root, counts.
  have ends : Ends (Error.OfCheck identifier neighbors length) (fun _ => True) (do
      let data ← Identifier.decode identifier length
      let read ← readNeighbors neighbors length
      let root ← (readRoot root).mapError .malformedProof
      return (data, ← verifyExclusion data proofs read root)) := by
    apply ends_decode.bind
    intro data named
    apply (ends_readNeighbors named).bind
    intro read _
    apply ((Ends.any (readRoot root)).mapError fun fault _ => .documented (.malformed fault)).bind
    intro root _
    apply ((ends_verifyExclusion data proofs read root).mono (fun _ => .documented)
      fun _ => id).bind
    intro success _
    exact .ok trivial
  simp only [checkExclusion]
  split
  · rename_i refused
    exact .error ((Ends.iff.mp ends).2 _ refused)
  · exact .ok trivial

theorem checkExclusion_of_firstUntold {neighbors : List Value}
    (first : FirstUntold identifier neighbors length) (proofs : List InclusionProof)
    (root : Value) : (checkExclusion identifier proofs neighbors root length).result =
      .error (.value .longInteger) := by
  obtain ⟨before, value, after, order, earlier, untold⟩ := first
  obtain ⟨fault, refused, raised⟩ := Identifier.exists_fault_of_untold untold
  cases before with
  | nil =>
    obtain ⟨rfl, rfl⟩ := List.cons.inj order
    have decoded : Identifier.decode identifier length = .error (.value .longInteger) := by
      rw [Identifier.decode, refused]
      exact congrArg Except.error (raised _)
    rw [checkExclusion, decoded]
    rfl
  | cons head before =>
    obtain ⟨rfl, rest⟩ := List.cons.inj order
    obtain ⟨⟨data, named⟩, earlier⟩ := List.forall_mem_cons.mp earlier
    have read : readNeighbors neighbors length = .error (.value .longInteger) :=
      readNeighbors_eq_error.mpr ⟨before, value, after, fault, rest, earlier, refused, raised _⟩
    rw [checkExclusion, Identifier.decode_eq_ok.mpr named, read]
    rfl

end Check

/-- A proof from outside is read and checked with an answer, or with an error that callers are told
of: the proof, a neighbor or the root is malformed, there are more or fewer proofs than neighbors,
there are neither one nor two of them, or the identifier in question is none of the length asked
for. Two errors escape, each in the one case that is named: an element too deep to be shown as
malformed, and a length too long to be told. Every node of a proof that is read has the length of a
hash. -/
theorem verifyRecord_documented (room : Room) (record identifier root : Value) (length : Int) :
    (∀ e, verifyRecord room record identifier root length = .error e →
        Error.Documented identifier length e ∨
          Error.Escaping room record identifier length e) ∧
      (∀ e, Error.Escaping room record identifier length e →
        verifyRecord room record identifier root length = .error e) ∧
      ∀ proof, ExclusionProof.ofValue room record = .ok proof →
        ∀ path ∈ proof.proofs, ∀ sibling ∈ path, sibling.node.length = 32 := by
  have read := ExclusionProof.ends_ofValue room record
  refine ⟨fun e refused => ?_, fun e escaping => ?_, (Ends.iff.mp read).1⟩
  · rcases bind_eq_error.mp refused with unread | ⟨proof, held, refused⟩
    · cases (Ends.iff.mp read).2 e unread with
      | proof fault => exact .inl (.malformed fault)
      | nesting => exact .inr (.nesting (ExclusionProof.ofValue_eq_nestingShown.mp unread))
    · cases (Ends.iff.mp (ends_checkExclusion _ _ root)).2 e refused with
      | documented documented => exact .inl documented
      | length first => exact .inr (.length held first)
  · cases escaping with
    | nesting unshown =>
      exact bind_eq_error.mpr (.inl (ExclusionProof.ofValue_eq_nestingShown.mpr unshown))
    | length held first =>
      exact bind_eq_error.mpr (.inr ⟨_, held, checkExclusion_of_firstUntold first _ root⟩)

def Sample.record (element : Value) : Value :=
  .map [(.text "proofs", .list [.list [element]]), (.text "neighbors", .list [])]

theorem ExclusionProof.unshown_record {room : Room} {element : Value}
    (malformed : ∀ sibling, Sibling.ofValue room element ≠ .ok sibling)
    (deep : element.shown room.fits 0 = .error .nesting) :
    Unshown room (Sample.record element) := by
  have paths : (Value.list [.list [element]]).elements = .ok ([] ++ .list [element] :: []) := rfl
  have elements : (Value.list [element]).elements = .ok ([] ++ element :: []) := rfl
  exact .element rfl paths nofun elements nofun malformed deep

theorem verifyRecord_documented_nested :
    verifyRecord (.upTo 0) (Sample.record (.list [.list [.list []]])) (.bytes .constant [1])
        (.text "0x") 1 = .error .nestingShown ∧
      Error.Documented (.bytes .constant [1]) 1
        (.malformedProof (.element "[[[]]]" (some (.badIndex "list")))) := by
  have deep : ExclusionProof.Unshown (.upTo 0) (Sample.record (.list [.list [.list []]])) :=
    ExclusionProof.unshown_record nofun rfl
  have told : verifyRecord (.upTo 1) (Sample.record (.list [.list [.list []]]))
      (.bytes .constant [1]) (.text "0x") 1 =
        .error (.malformedProof (.element "[[[]]]" (some (.badIndex "list")))) := by
    decide
  refine ⟨(verifyRecord_documented _ _ _ _ _).2.1 _ (.nesting deep), ?_⟩
  rcases (verifyRecord_documented _ _ _ _ _).1 _ told with documented | escaping
  · exact documented
  · cases escaping

theorem Value.shown_endless {room : Room} {depth count : Nat}
    (deep : room.bound ≤ depth + count) :
    (Value.endless false count).shown room.fits depth = .error .nesting := by
  induction count generalizing depth with
  | zero => rw [Value.shown.eq_def, room.bounded depth _ deep, if_neg Bool.false_ne_true]
  | succ count ih =>
    have inner := @ih (depth + 1) (by omega)
    rw [Value.shown.eq_def]
    split
    · have items : Value.shownItems room.fits (depth + 1) [.endless false count] =
          .error .nesting := by
        rw [Value.shownItems]
        exact bind_eq_error.mpr (.inl inner)
      exact bind_eq_error.mpr (.inl items)
    · rfl

/-- An element of more lists within one another than can be shown, and a length of more digits than
can be told, each with an error that callers are not told of. -/
theorem verifyRecord_escapes :
    verifyRecord (.upTo 1000) (Sample.record (.endless false 1002)) (.bytes .constant [1])
        (.text "0x") 1 = .error .nestingShown ∧
      verifyRecord (.upTo 1000) (ExclusionProof.toValue ⟨[], []⟩) (.text "0x") (.text "0x")
        (10 ^ 4300) = .error (.value .longInteger) := by
  have deep : ExclusionProof.Unshown (.upTo 1000) (Sample.record (.endless false 1002)) :=
    ExclusionProof.unshown_record nofun (Value.shown_endless (Nat.le_refl _))
  have untold : Identifier.Untold (.text "0x") (10 ^ 4300) :=
    Identifier.untold_marker (Nat.le_refl Integer.digitLimit)
  refine ⟨bind_eq_error.mpr (.inl (ExclusionProof.ofValue_eq_nestingShown.mpr deep)), ?_⟩
  refine bind_eq_error.mpr (.inr ⟨⟨[], []⟩, rfl, ?_⟩)
  exact checkExclusion_of_firstUntold ⟨[], _, [], rfl, nofun, untold⟩ _ _

end AnchoredSet
