import AnchoredSet.Proof.Record
import AnchoredSet.Proofs.Hex

/-!
Proofs as records of named values. A proof is read back from the record that it is written as if
its nodes have the length of a digest. A record that is read is written again in one form: with
the known keys only, and with digits in lower case behind the marker.
-/

namespace AnchoredSet

namespace Value

/-- The entries of a map under some keys, each with its change; any other value as it is. -/
def select (fields : List (String × (Value → Value))) : Value → Value
  | map entries => map <| fields.filterMap fun (key, change) =>
      (entries.lookup (.text key)).map fun value => (.text key, change value)
  | value => value

def mapItems (change : Value → Value) : Value → Value
  | list items => list (items.map change)
  | value => value

def normalHex : Value → Value
  | scalar (.text s) => text (String.ofList (Hex.normal s.toList))
  | value => value

theorem entry_eq_ok {value found : Value} {key : String} : value.entry key = .ok found ↔
    ∃ entries, value = .map entries ∧ entries.lookup (.text key) = some found := by
  constructor
  · intro ok
    cases value with
    | map entries =>
      rw [entry] at ok
      cases stored : entries.lookup (.text key) with
      | none =>
        rw [stored] at ok
        cases ok
      | some held =>
        rw [stored] at ok
        cases ok
        exact ⟨entries, rfl, stored⟩
    | scalar s => cases s <;> cases ok
    | _ => cases ok
  · rintro ⟨entries, rfl, stored⟩
    rw [entry, stored]

theorem select_two {value first second : Value} {key key' : String} {change change' : Value → Value}
    (here : value.entry key = .ok first) (there : value.entry key' = .ok second) :
    value.select [(key, change), (key', change')] =
      .map [(.text key, change first), (.text key', change' second)] := by
  obtain ⟨entries, rfl, stored⟩ := entry_eq_ok.mp here
  obtain ⟨_, same, stored'⟩ := entry_eq_ok.mp there
  cases same
  simp only [select, List.filterMap_cons, List.filterMap_nil, stored, stored', Option.map_some]

theorem decodeHex_eq_ok {value : Value} {data : Bytes} : value.decodeHex = .ok data ↔
    ∃ digits, value = .text digits ∧ Hex.decode digits.toList = .ok data := by
  constructor
  · intro ok
    cases value with
    | scalar s =>
      cases s with
      | text digits => exact ⟨digits, rfl, mapError_eq_ok.mp ok⟩
      | _ => cases ok
    | _ => cases ok
  · rintro ⟨digits, rfl, ok⟩
    exact mapError_eq_ok.mpr ok

theorem decodeHex_marked (data : Bytes) : (text (Hex.marked data)).decodeHex = .ok data :=
  decodeHex_eq_ok.mpr ⟨_, rfl, Hex.decode_marked data⟩

theorem text_marked_of_decodeHex {value : Value} {data : Bytes} (ok : value.decodeHex = .ok data) :
    text (Hex.marked data) = value.normalHex := by
  obtain ⟨digits, rfl, read⟩ := decodeHex_eq_ok.mp ok
  rw [Hex.marked_of_decode read]
  rfl

end Value

namespace Sibling

variable {room : Room} {value : Value} {sibling : Sibling}

def normal : Value → Value := Value.select [("node", Value.normalHex), ("onRight", id)]

theorem parts_eq_ok {node : Bytes} {side : Value} : parts value = .ok (node, side) ↔
    (∃ digits, value.entry "node" = .ok digits ∧ digits.decodeHex = .ok node) ∧
      value.entry "onRight" = .ok side := by
  constructor
  · intro ok
    obtain ⟨digits, held, ok⟩ := bind_eq_ok.mp ok
    obtain ⟨_, read, ok⟩ := bind_eq_ok.mp ok
    obtain ⟨_, beside, ok⟩ := bind_eq_ok.mp ok
    cases ok
    exact ⟨⟨digits, held, read⟩, beside⟩
  · rintro ⟨⟨digits, held, read⟩, beside⟩
    simp only [parts, held, read, beside, bind, Except.bind, pure, Except.pure]

theorem ofValue_of_parts {node : Bytes} {onRight : Bool}
    (read : parts value = .ok (node, .bool onRight)) :
    ofValue room value = if node.length = digestLength then .ok ⟨node, onRight⟩
      else .error (fault room value none) := by
  rw [ofValue, read]
  rfl

theorem parts_of_ofValue (ok : ofValue room value = .ok sibling) :
    parts value = .ok (sibling.node, .bool sibling.onRight) := by
  rw [ofValue] at ok
  split at ok
  · cases ok
  · rename_i node onRight read
    split at ok
    · cases ok
      exact read
    · cases ok
  · cases ok

theorem parts_toValue (sibling : Sibling) :
    parts sibling.toValue = .ok (sibling.node, .bool sibling.onRight) :=
  parts_eq_ok.mpr ⟨⟨_, rfl, Value.decodeHex_marked sibling.node⟩, rfl⟩

theorem ofValue_toValue (sized : sibling.node.length = digestLength) :
    ofValue room sibling.toValue = .ok sibling := by
  rw [ofValue_of_parts (parts_toValue sibling), if_pos sized]

theorem exists_shown_toValue (sibling : Sibling) : ∃ shown,
    sibling.toValue.render? = some shown ∧
      ∀ room : Room, sibling.toValue.shown room.fits 0 = .ok shown := by
  have everywhere : ∃ shown, ∀ fits : Nat → Value → Bool,
      (∀ depth value, depth ≤ 1 → fits depth value = true) →
        sibling.toValue.shown fits 0 = .ok shown := by
    obtain ⟨side, flag⟩ : ∃ side, (Scalar.bool sibling.onRight).shown = .ok side := by
      cases sibling.onRight <;> exact ⟨_, rfl⟩
    refine ⟨"\x7b" ++ ", ".intercalate
      [Text.quoted "node" ++ ": " ++ Text.quoted (Hex.marked sibling.node),
        Text.quoted "onRight" ++ ": " ++ side] ++ "\x7d", fun fits room => ?_⟩
    simp only [toValue, Value.text, Value.bool, Value.shown, Value.shownEntries, Value.shownKey,
      Value.ofScalar, room _ _ (Nat.zero_le 1), room _ _ (Nat.le_refl 1), if_true, flag]
    rfl
  obtain ⟨shown, same⟩ := everywhere
  refine ⟨shown, ?_, fun room => same room.fits room.shallow⟩
  rw [Value.render?, same _ fun _ _ _ => rfl]
  rfl

theorem ofValue_toValue_of_ne (room : Room) (unsized : sibling.node.length ≠ digestLength) :
    ∃ shown, sibling.toValue.render? = some shown ∧
      ofValue room sibling.toValue = .error (.malformedProof (.element shown none)) := by
  obtain ⟨shown, rendered, told⟩ := exists_shown_toValue sibling
  refine ⟨shown, rendered, ?_⟩
  rw [ofValue_of_parts (parts_toValue sibling), if_neg unsized, fault, told room]

theorem toValue_of_ofValue (ok : ofValue room value = .ok sibling) :
    sibling.toValue = normal value := by
  obtain ⟨⟨digits, held, decoded⟩, beside⟩ := parts_eq_ok.mp (parts_of_ofValue ok)
  rw [normal, Value.select_two held beside, ← Value.text_marked_of_decodeHex decoded]
  rfl

end Sibling

namespace ExclusionProof

variable {room : Room} {value : Value} {proof : ExclusionProof} {listed named : List Value}

def normal : Value → Value :=
  Value.select [("proofs", Value.mapItems (Value.mapItems Sibling.normal)),
    ("neighbors", Value.mapItems Value.normalHex)]

def pathValue (path : InclusionProof) : Value := .list (path.map Sibling.toValue)

def readNeighbor (value : Value) : Except Error Bytes := value.decodeHex.mapError .value

theorem handle_eq_ok {α : Type} {result : Except Error α} {a : α} :
    handle result = .ok a ↔ result = .ok a := by
  cases result with
  | ok b => rfl
  | error e => cases e <;> exact ⟨nofun, nofun⟩

theorem ofValue_eq_ok (first : value.entry "proofs" = .ok (.list listed))
    (second : value.entry "neighbors" = .ok (.list named)) : ofValue room value = .ok proof ↔
      listed.mapM (readPath room) = .ok proof.proofs ∧
      named.mapM readNeighbor = .ok proof.neighbors := by
  rw [ofValue, handle_eq_ok, first, second]
  constructor
  · intro ok
    obtain ⟨_, same, ok⟩ := bind_eq_ok.mp ok
    cases same
    obtain ⟨proofs, read, ok⟩ := bind_eq_ok.mp ok
    obtain ⟨_, same, ok⟩ := bind_eq_ok.mp ok
    cases same
    obtain ⟨neighbors, read', ok⟩ := bind_eq_ok.mp ok
    cases ok
    exact ⟨read, read'⟩
  · rintro ⟨read, read'⟩
    exact bind_eq_ok.mpr ⟨_, rfl, bind_eq_ok.mpr ⟨_, read, bind_eq_ok.mpr ⟨_, rfl,
      bind_eq_ok.mpr ⟨_, read', rfl⟩⟩⟩⟩

theorem ofValue_of_error {e : Error} (first : value.entry "proofs" = .ok (.list listed))
    (refused : listed.mapM (readPath room) = .error e) :
    ofValue room value = handle (.error e) := by
  rw [ofValue, first]
  change handle ((listed.mapM (readPath room)).bind _) = _
  rw [refused]
  rfl

theorem readPath_pathValue {path : InclusionProof}
    (sized : ∀ sibling ∈ path, sibling.node.length = digestLength) :
    readPath room (pathValue path) = .ok path :=
  mapM_of_forall_ok fun sibling member => Sibling.ofValue_toValue (sized sibling member)

theorem mapM_readPath {paths : List InclusionProof}
    (sized : ∀ path ∈ paths, ∀ sibling ∈ path, sibling.node.length = digestLength) :
    (paths.map pathValue).mapM (readPath room) = .ok paths :=
  mapM_of_forall_ok fun path member => readPath_pathValue (sized path member)

theorem ofValue_toValue
    (sized : ∀ path ∈ proof.proofs, ∀ sibling ∈ path, sibling.node.length = digestLength) :
    ofValue room proof.toValue = .ok proof := by
  have neighbors : (proof.neighbors.map fun neighbor => Value.text (Hex.marked neighbor)).mapM
      readNeighbor = .ok proof.neighbors :=
    mapM_of_forall_ok fun neighbor _ => mapError_eq_ok.mpr (Value.decodeHex_marked neighbor)
  exact (ofValue_eq_ok rfl rfl).mpr ⟨mapM_readPath sized, neighbors⟩

theorem ofValue_toValue_of_find? (room : Room) {sibling : Sibling}
    (first : proof.proofs.flatten.find? (fun sibling => sibling.node.length ≠ digestLength) =
      some sibling) :
    ∃ shown, sibling.toValue.render? = some shown ∧
      ofValue room proof.toValue = .error (.malformedProof (.element shown none)) := by
  obtain ⟨unsized, before, front, back, after, paths, earlier, inside⟩ :=
    List.find?_flatten_eq_some_iff.mp first
  simp only [ne_eq, decide_not, Bool.not_eq_true', decide_eq_false_iff_not, Bool.not_not,
    decide_eq_true_eq] at unsized earlier inside
  obtain ⟨shown, rendered, refused⟩ := Sibling.ofValue_toValue_of_ne room unsized
  have path : readPath room (pathValue (front ++ sibling :: back)) =
      .error (.malformedProof (.element shown none)) := by
    rw [pathValue, List.map_append, List.map_cons]
    refine mapM_eq_error_iff.mpr ⟨_, _, _, rfl, List.forall_mem_map.mpr ?_, refused⟩
    exact fun other member => ⟨other, Sibling.ofValue_toValue (inside other member)⟩
  have whole : (proof.proofs.map pathValue).mapM (readPath room) =
      .error (.malformedProof (.element shown none)) := by
    rw [paths, List.map_append, List.map_cons]
    refine mapM_eq_error_iff.mpr ⟨_, _, _, rfl, List.forall_mem_map.mpr ?_, path⟩
    exact fun other member => ⟨other, readPath_pathValue (earlier other member)⟩
  exact ⟨shown, rendered, ofValue_of_error rfl whole⟩

theorem toValue_of_ofValue {paths : List (List Value)}
    (first : value.entry "proofs" = .ok (.list (paths.map .list)))
    (second : value.entry "neighbors" = .ok (.list named)) (ok : ofValue room value = .ok proof) :
    proof.toValue = normal value := by
  obtain ⟨read, read'⟩ := (ofValue_eq_ok first second).mp ok
  have proofs : proof.proofs.map pathValue =
      (paths.map .list).map (Value.mapItems Sibling.normal) := by
    refine map_eq_of_mapM_ok ?_ read
    intro input member path held
    obtain ⟨items, _, rfl⟩ := List.mem_map.mp member
    rw [pathValue, Value.mapItems]
    exact congrArg _ (map_eq_of_mapM_ok (fun _ _ _ => Sibling.toValue_of_ofValue) held)
  have neighbors : proof.neighbors.map (fun neighbor => .text (Hex.marked neighbor)) =
      named.map Value.normalHex :=
    map_eq_of_mapM_ok (fun _ _ _ held => Value.text_marked_of_decodeHex (mapError_eq_ok.mp held))
      read'
  rw [normal, Value.select_two first second, Value.mapItems, Value.mapItems, ← proofs, ← neighbors]
  rfl

/-- A proof is read back from its record unless a node has another length, and then the first such
node is told. A record of lists that is read is written again in its normal form. -/
theorem record_roundTrip (room : Room) :
    (∀ proof : ExclusionProof,
      ((∀ path ∈ proof.proofs, ∀ sibling ∈ path, sibling.node.length = 32) →
        ofValue room proof.toValue = .ok proof) ∧
      ((∃ path ∈ proof.proofs, ∃ sibling ∈ path, sibling.node.length ≠ 32) →
        ∃ sibling shown,
          proof.proofs.flatten.find? (fun sibling => sibling.node.length ≠ 32) = some sibling ∧
          sibling.toValue.render? = some shown ∧
          ofValue room proof.toValue = .error (.malformedProof (.element shown none)))) ∧
    ∀ (value : Value) (paths : List (List Value)) (named : List Value) (proof : ExclusionProof),
      value.entry "proofs" = .ok (.list (paths.map .list)) →
      value.entry "neighbors" = .ok (.list named) →
      ofValue room value = .ok proof → proof.toValue = normal value := by
  refine ⟨fun proof => ⟨ofValue_toValue, ?_⟩, fun _ _ _ _ => toValue_of_ofValue⟩
  rintro ⟨path, member, sibling, inside, unsized⟩
  have somewhere : (proof.proofs.flatten.find? fun sibling => sibling.node.length ≠ 32).isSome := by
    rw [List.find?_isSome]
    exact ⟨sibling, List.mem_flatten_of_mem member inside, decide_eq_true unsized⟩
  obtain ⟨first, found⟩ := Option.isSome_iff_exists.mp somewhere
  obtain ⟨shown, rendered, refused⟩ := ofValue_toValue_of_find? room found
  exact ⟨first, shown, found, rendered, refused⟩

theorem record_roundTrip_capitals :
    ofValue (.upTo 0) (toValue ⟨[[⟨Bytes.zeros 32, true⟩]], [[7]]⟩) =
        .ok ⟨[[⟨Bytes.zeros 32, true⟩]], [[7]]⟩ ∧
      (∃ shown, ofValue (.upTo 0) (toValue ⟨[[⟨[7], true⟩]], []⟩) =
        .error (.malformedProof (.element shown none))) ∧
      (⟨[[⟨List.replicate 32 170, true⟩]], [[171]]⟩ : ExclusionProof).toValue = normal (.map
        [(.text "size", .int 3), (.text "neighbors", .list [.text "0XaB"]),
          (.text "proofs", .list [.list [.map [(.text "onRight", .bool true),
            (.text "depth", .int 1),
            (.text "node", .text (String.ofList (List.replicate 64 'A')))]]])]) := by
  have sized : ∀ path ∈ [[Sibling.mk (Bytes.zeros 32) true]], ∀ sibling ∈ path,
      sibling.node.length = 32 := by
    simp
  obtain ⟨_, shown, _, _, refused⟩ :=
    ((record_roundTrip (.upTo 0)).1 ⟨[[⟨[7], true⟩]], []⟩).2 ⟨_, .head _, _, .head _, by decide⟩
  refine ⟨((record_roundTrip (.upTo 0)).1 ⟨_, [[7]]⟩).1 sized, ⟨shown, refused⟩, ?_⟩
  exact (record_roundTrip (.upTo 0)).2 _ [[_]] [.text "0XaB"] _ rfl rfl (by decide +kernel)

end ExclusionProof

end AnchoredSet
