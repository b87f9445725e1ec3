import Mathlib.Data.List.TakeWhile
import Mathlib.Logic.ExistsUnique
import AnchoredSet.Proofs.Reachable
import AnchoredSet.Proofs.Reference

/-!
Values with references. Of a value every text is replaced, at any depth and once, and nothing else.
This goes on up to the first place where a name cannot be looked up or the stack has no room.
-/

namespace AnchoredSet

open Text (Points)

def Value.IsFixed : Value → Prop
  | scalar s => s.points? = none
  | list _ | map _ => False
  | _ => True

/-- A value inside so many others and what becomes of it: in texts the references are replaced, in
lists and maps the values, and all else stays. There has to be room for it, and every name in it has
to be one that can be looked up. -/
inductive Expanded (room : Room) (environment : Environment) : Nat → Value → Value → Prop
  | text {depth : Nat} {s : Scalar} {points : Points} {parts : Reference.Parts}
      (fits : room.fits depth (.scalar s) = true) (text : s.points? = some points)
      (splits : Reference.Splits points parts)
      (known : ∀ reference ∈ parts.references, reference.name.halfFault? = none) :
      Expanded room environment depth (.scalar s)
        (.scalar (.ofPoints (parts.filled environment)))
  | list {depth : Nat} {items results : List Value} (fits : room.fits depth (.list items) = true)
      (count : items.length = results.length)
      (each : ∀ pair ∈ items.zip results,
        Expanded room environment (depth + 1) pair.1 pair.2) :
      Expanded room environment depth (.list items) (.list results)
  | map {depth : Nat} {entries results : List (Scalar × Value)}
      (fits : room.fits depth (.map entries) = true)
      (keys : entries.map Prod.fst = results.map Prod.fst)
      (each : ∀ pair ∈ entries.zip results,
        Expanded room environment (depth + 1) pair.1.2 pair.2.2) :
      Expanded room environment depth (.map entries) (.map results)
  | fixed {depth : Nat} {value : Value} (fits : room.fits depth value = true)
      (fixed : value.IsFixed) : Expanded room environment depth value value

/-- The first place at which the replacing ends: there is no room, or a name has a half that stands
for no byte. All places before it are expanded. -/
inductive Stuck (room : Room) (environment : Environment) : Nat → Value → Error → Prop
  | nesting {depth : Nat} {value : Value} (full : room.fits depth value = false) :
      Stuck room environment depth value .nesting
  | name {depth : Nat} {s : Scalar} {points : Points} {parts : Reference.Parts}
      {before after : List Reference} {reference : Reference} {fault : Text.Points.HalfFault}
      (fits : room.fits depth (.scalar s) = true) (text : s.points? = some points)
      (splits : Reference.Splits points parts)
      (order : parts.references = before ++ reference :: after)
      (known : ∀ earlier ∈ before, earlier.name.halfFault? = none)
      (unknown : reference.name.halfFault? = some fault) :
      Stuck room environment depth (.scalar s) (.halves fault)
  | item {depth : Nat} {before after : List Value} {item : Value} {e : Error}
      (fits : room.fits depth (.list (before ++ item :: after)) = true)
      (earlier : ∀ other ∈ before, ∃ result, Expanded room environment (depth + 1) other result)
      (here : Stuck room environment (depth + 1) item e) :
      Stuck room environment depth (.list (before ++ item :: after)) e
  | value {depth : Nat} {before after : List (Scalar × Value)} {key : Scalar} {value : Value}
      {e : Error} (fits : room.fits depth (.map (before ++ (key, value) :: after)) = true)
      (earlier : ∀ other ∈ before, ∃ result,
        Expanded room environment (depth + 1) other.2 result)
      (here : Stuck room environment (depth + 1) value e) :
      Stuck room environment depth (.map (before ++ (key, value) :: after)) e

section Texts

variable {room : Room} {environment : Environment} {depth : Nat} {s : Scalar}

theorem nameFault?_eq_none_iff {points : Points} : Reference.nameFault? points = none ↔
    ∀ reference ∈ (Reference.parts points).references, reference.name.halfFault? = none := by
  rw [Reference.nameFault?, Reference.inText_eq_references, List.findSome?_eq_none_iff]

theorem nameFault?_eq_some_iff {points : Points} {fault : Text.Points.HalfFault} :
    Reference.nameFault? points = some fault ↔ ∃ before reference after,
      (Reference.parts points).references = before ++ reference :: after ∧
        reference.name.halfFault? = some fault ∧
        ∀ earlier ∈ before, earlier.name.halfFault? = none := by
  rw [Reference.nameFault?, Reference.inText_eq_references, List.findSome?_eq_some_iff]

theorem resolve_eq_ok_iff_of_points {points : Points} {result : Scalar}
    (text : s.points? = some points) : s.resolve environment = .ok result ↔
      (∀ reference ∈ (Reference.parts points).references, reference.name.halfFault? = none) ∧
        result = .ofPoints ((Reference.parts points).filled environment) := by
  rw [Scalar.resolve, text, ← Reference.expand_eq_filled, ← nameFault?_eq_none_iff]
  dsimp only
  cases Reference.nameFault? points with
  | none => rw [and_iff_right rfl, Except.ok.injEq, eq_comm]
  | some fault => exact iff_of_false nofun nofun

theorem resolve_eq_error_iff_of_points {points : Points} {e : Error}
    (text : s.points? = some points) : s.resolve environment = .error e ↔
      ∃ fault, Reference.nameFault? points = some fault ∧ e = .halves fault := by
  rw [Scalar.resolve, text]
  dsimp only
  cases Reference.nameFault? points with
  | none => exact iff_of_false nofun nofun
  | some fault => simp [eq_comm]

theorem expanded_scalar_iff (fits : room.fits depth (.scalar s) = true) {result : Value} :
    Expanded room environment depth (.scalar s) result ↔
      (s.resolve environment).map Value.scalar = .ok result := by
  cases text : s.points? with
  | none =>
    rw [Scalar.resolve, text]
    constructor
    · rintro (⟨_, points⟩ | _)
      · rw [text] at points
        cases points
      · rfl
    · rintro ⟨⟩
      exact .fixed fits text
  | some points =>
    constructor
    · rintro (⟨_, same, splits, known⟩ | _ | _ | ⟨_, fixed⟩)
      · rw [text, Option.some.injEq] at same
        subst same
        obtain rfl := Reference.splits_iff.mp splits
        rw [(resolve_eq_ok_iff_of_points text).mpr ⟨known, rfl⟩]
        rfl
      · rw [Value.IsFixed, text] at fixed
        cases fixed
    · intro ok
      cases resolved : s.resolve environment with
      | error e =>
        rw [resolved] at ok
        cases ok
      | ok replaced =>
        rw [resolved] at ok
        cases ok
        obtain ⟨known, rfl⟩ := (resolve_eq_ok_iff_of_points text).mp resolved
        exact .text fits text (Reference.splits_parts points) known

theorem stuck_scalar_iff (fits : room.fits depth (.scalar s) = true) {e : Error} :
    Stuck room environment depth (.scalar s) e ↔
      (s.resolve environment).map Value.scalar = .error e := by
  have map : (s.resolve environment).map Value.scalar = .error e ↔
      s.resolve environment = .error e := by
    cases s.resolve environment with
    | ok result => exact iff_of_false nofun nofun
    | error e' => rw [Except.map, Except.error.injEq, Except.error.injEq]
  rw [map]
  cases text : s.points? with
  | none =>
    rw [Scalar.resolve, text]
    refine iff_of_false ?_ nofun
    rintro (full | ⟨_, points⟩)
    · rw [fits] at full
      cases full
    · rw [text] at points
      cases points
  | some points =>
    rw [resolve_eq_error_iff_of_points text]
    constructor
    · rintro (full | ⟨_, same, splits, order, known, unknown⟩)
      · rw [fits] at full
        cases full
      · rw [text, Option.some.injEq] at same
        subst same
        obtain rfl := Reference.splits_iff.mp splits
        exact ⟨_, nameFault?_eq_some_iff.mpr ⟨_, _, _, order, unknown, known⟩, rfl⟩
    · rintro ⟨fault, found, rfl⟩
      obtain ⟨before, reference, after, order, unknown, known⟩ := nameFault?_eq_some_iff.mp found
      exact .name fits text (Reference.splits_parts points) order known unknown

end Texts

section Nested

variable {room : Room} {environment : Environment} {depth : Nat}

theorem map_eq_map_iff_zip {α β γ : Type} {f : α → γ} {g : β → γ} {inputs : List α}
    {outputs : List β} : inputs.map f = outputs.map g ↔
      inputs.length = outputs.length ∧ ∀ pair ∈ inputs.zip outputs, f pair.1 = g pair.2 := by
  induction inputs generalizing outputs with
  | nil => cases outputs <;> simp
  | cons input rest ih =>
    cases outputs with
    | nil => simp
    | cons output others =>
      rw [List.map_cons, List.map_cons, List.cons.injEq, ih, List.zip_cons_cons,
        List.forall_mem_cons, List.length_cons, List.length_cons, Nat.add_right_cancel_iff,
        and_left_comm]

theorem resolveItems_eq_mapM (room : Room) (environment : Environment) (depth : Nat)
    (items : List Value) : Value.resolveItems room environment depth items =
      items.mapM fun item => item.resolveAt room environment depth := by
  induction items with
  | nil => rfl
  | cons item rest ih => rw [Value.resolveItems, List.mapM_cons, ih]

theorem resolveEntries_eq_mapM (room : Room) (environment : Environment) (depth : Nat)
    (entries : List (Scalar × Value)) : Value.resolveEntries room environment depth entries =
      entries.mapM fun entry =>
        (entry.2.resolveAt room environment depth).map fun result => (entry.1, result) := by
  induction entries with
  | nil => rfl
  | cons entry rest ih =>
    rw [Value.resolveEntries, List.mapM_cons, ih]
    cases entry.2.resolveAt room environment depth <;> rfl

theorem Expanded.fits {value result : Value}
    (expanded : Expanded room environment depth value result) :
    room.fits depth value = true := by
  cases expanded <;> assumption

theorem resolveAt_of_full {value : Value} (full : room.fits depth value = false) :
    value.resolveAt room environment depth = .error .nesting := by
  rw [Value.resolveAt.eq_def, if_neg (by simp [full])]

theorem resolveAt_scalar {s : Scalar} (fits : room.fits depth (.scalar s) = true) :
    (Value.scalar s).resolveAt room environment depth =
      (s.resolve environment).map .scalar := by
  rw [Value.resolveAt.eq_def, if_pos fits]

theorem resolveAt_list {items : List Value} (fits : room.fits depth (.list items) = true) :
    (Value.list items).resolveAt room environment depth =
      (items.mapM fun item : Value => item.resolveAt room environment (depth + 1)).map .list := by
  rw [Value.resolveAt.eq_def, if_pos fits, ← resolveItems_eq_mapM]

theorem resolveAt_map {entries : List (Scalar × Value)}
    (fits : room.fits depth (.map entries) = true) :
    (Value.map entries).resolveAt room environment depth =
      (entries.mapM fun entry : Scalar × Value =>
        (entry.2.resolveAt room environment (depth + 1)).map
          fun result => (entry.1, result)).map .map := by
  rw [Value.resolveAt.eq_def, if_pos fits, ← resolveEntries_eq_mapM]

theorem resolveAt_of_isFixed {value : Value} (fits : room.fits depth value = true)
    (fixed : value.IsFixed) : value.resolveAt room environment depth = .ok value := by
  rw [Value.resolveAt.eq_def, if_pos fits]
  cases value with
  | scalar s =>
    dsimp only
    rw [Scalar.resolve, show s.points? = none from fixed]
    rfl
  | list items => cases fixed
  | map entries => cases fixed
  | _ => rfl

theorem expanded_iff_of_room {value result : Value}
    (inside : room.fits depth value = true → (Expanded room environment depth value result ↔
      value.resolveAt room environment depth = .ok result)) :
    Expanded room environment depth value result ↔
      value.resolveAt room environment depth = .ok result := by
  cases fits : room.fits depth value with
  | true => exact inside fits
  | false =>
    rw [resolveAt_of_full fits]
    refine iff_of_false (fun expanded => ?_) nofun
    rw [expanded.fits] at fits
    cases fits

theorem expanded_iff_of_isFixed {value result : Value} (fixed : value.IsFixed) :
    Expanded room environment depth value result ↔
      value.resolveAt room environment depth = .ok result := by
  refine expanded_iff_of_room fun fits => ?_
  rw [resolveAt_of_isFixed fits fixed]
  constructor
  · intro expanded
    cases expanded with
    | text _ points => rw [show _ = none from fixed] at points; cases points
    | list | map => cases fixed
    | fixed => rfl
  · rintro ⟨⟩
    exact .fixed fits fixed

theorem expanded_iff {value result : Value} : Expanded room environment depth value result ↔
    value.resolveAt room environment depth = .ok result := by
  induction value using Value.nested generalizing depth result with
  | scalar s =>
    refine expanded_iff_of_room fun fits => ?_
    rw [expanded_scalar_iff fits, resolveAt_scalar fits]
  | list items ih =>
    refine expanded_iff_of_room fun fits => ?_
    rw [resolveAt_list fits, map_eq_ok]
    constructor
    · rintro (_ | ⟨_, count, each⟩ | _ | ⟨_, fixed⟩)
      · refine ⟨_, mapM_eq_ok_iff.mpr (map_eq_map_iff_zip.mpr ⟨count, ?_⟩), rfl⟩
        intro pair member
        exact (ih pair.1 (List.of_mem_zip member).1).mp (each pair member)
      · cases fixed
    · rintro ⟨results, ok, rfl⟩
      obtain ⟨count, each⟩ := map_eq_map_iff_zip.mp (mapM_eq_ok_iff.mp ok)
      apply Expanded.list fits count
      intro pair member
      exact (ih pair.1 (List.of_mem_zip member).1).mpr (each pair member)
  | map entries ih =>
    refine expanded_iff_of_room fun fits => ?_
    rw [resolveAt_map fits, map_eq_ok]
    constructor
    · rintro (_ | _ | ⟨_, keys, each⟩ | ⟨_, fixed⟩)
      · obtain ⟨count, same⟩ := map_eq_map_iff_zip.mp keys
        refine ⟨_, mapM_eq_ok_iff.mpr (map_eq_map_iff_zip.mpr ⟨count, ?_⟩), rfl⟩
        intro pair member
        have inner := (ih pair.1 (List.of_mem_zip member).1).mp (each pair member)
        exact map_prodMk_eq_ok.mpr ⟨same pair member, inner⟩
      · cases fixed
    · rintro ⟨results, ok, rfl⟩
      obtain ⟨count, each⟩ := map_eq_map_iff_zip.mp (mapM_eq_ok_iff.mp ok)
      apply Expanded.map fits (map_eq_map_iff_zip.mpr ⟨count, ?_⟩)
      · intro pair member
        have inner := (map_prodMk_eq_ok.mp (each pair member)).2
        exact (ih pair.1 (List.of_mem_zip member).1).mpr inner
      · intro pair member
        exact (map_prodMk_eq_ok.mp (each pair member)).1
  | bytes kind data => exact expanded_iff_of_isFixed trivial
  | pair first second _ _ => exact expanded_iff_of_isFixed trivial
  | set items => exact expanded_iff_of_isFixed trivial

theorem exists_expanded_iff {value : Value} :
    (∃ result, Expanded room environment depth value result) ↔
      ∃ result, value.resolveAt room environment depth = .ok result :=
  exists_congr fun _ => expanded_iff

theorem stuck_iff_of_room {value : Value} {e : Error}
    (inside : room.fits depth value = true → (Stuck room environment depth value e ↔
      value.resolveAt room environment depth = .error e)) :
    Stuck room environment depth value e ↔
      value.resolveAt room environment depth = .error e := by
  cases fits : room.fits depth value with
  | true => exact inside fits
  | false =>
    rw [resolveAt_of_full fits, Except.error.injEq]
    constructor
    · intro stuck
      cases stuck with
      | nesting => rfl
      | name room | item room | value room => rw [room] at fits; cases fits
    · rintro rfl
      exact .nesting fits

theorem stuck_iff_of_isFixed {value : Value} {e : Error} (fixed : value.IsFixed) :
    Stuck room environment depth value e ↔
      value.resolveAt room environment depth = .error e := by
  refine stuck_iff_of_room fun fits => ?_
  rw [resolveAt_of_isFixed fits fixed]
  refine iff_of_false (fun stuck => ?_) nofun
  cases stuck with
  | nesting full => simp [fits] at full
  | name _ points => rw [show _ = none from fixed] at points; cases points
  | item | value => cases fixed

theorem stuck_iff {value : Value} {e : Error} : Stuck room environment depth value e ↔
    value.resolveAt room environment depth = .error e := by
  induction value using Value.nested generalizing depth with
  | scalar s =>
    refine stuck_iff_of_room fun fits => ?_
    rw [stuck_scalar_iff fits, resolveAt_scalar fits]
  | list items ih =>
    refine stuck_iff_of_room fun fits => ?_
    rw [resolveAt_list fits, map_eq_error, mapM_eq_error_iff]
    constructor
    · intro stuck
      generalize shape : Value.list items = value at stuck
      cases stuck with
      | nesting full => simp [← shape, fits] at full
      | name => cases shape
      | @item _ before after item _ _ earlier here =>
        cases shape
        refine ⟨before, item, after, rfl, fun other member => ?_, ?_⟩
        · exact exists_expanded_iff.mp (earlier other member)
        · exact (ih item (by simp)).mp here
      | value => cases shape
    · rintro ⟨before, item, after, rfl, earlier, here⟩
      refine .item fits (fun other member => ?_) ?_
      · exact exists_expanded_iff.mpr (earlier other member)
      · exact (ih item (by simp)).mpr here
  | map entries ih =>
    refine stuck_iff_of_room fun fits => ?_
    rw [resolveAt_map fits, map_eq_error, mapM_eq_error_iff]
    have reached (entry : Scalar × Value) :
        (∃ result, (entry.2.resolveAt room environment (depth + 1)).map
          (fun result => (entry.1, result)) = .ok result) ↔
          ∃ result, Expanded room environment (depth + 1) entry.2 result := by
      simp [map_prodMk_eq_ok, exists_expanded_iff]
    constructor
    · intro stuck
      generalize shape : Value.map entries = value at stuck
      cases stuck with
      | nesting full => simp [← shape, fits] at full
      | name => cases shape
      | item => cases shape
      | @value _ before after key value _ _ earlier here =>
        cases shape
        refine ⟨before, (key, value), after, rfl, fun other member => ?_, ?_⟩
        · exact (reached other).mpr (earlier other member)
        · exact map_eq_error.mpr ((ih (key, value) (by simp)).mp here)
    · rintro ⟨before, ⟨key, value⟩, after, rfl, earlier, here⟩
      refine .value fits (fun other member => ?_) ?_
      · exact (reached other).mp (earlier other member)
      · exact (ih (key, value) (by simp)).mpr (map_eq_error.mp here)
  | bytes kind data => exact stuck_iff_of_isFixed trivial
  | pair first second _ _ => exact stuck_iff_of_isFixed trivial
  | set items => exact stuck_iff_of_isFixed trivial

end Nested

section Whole

theorem mem_of_splits {points : Points} {parts : Reference.Parts}
    (splits : Reference.Splits points parts) {reference : Reference}
    (member : reference ∈ parts.references) {x : Nat} (named : x ∈ reference.name) :
    x ∈ points := by
  induction splits with
  | last => cases member
  | piece _ _ _ ih =>
    rw [Reference.Parts.references_cons, List.mem_cons] at member
    rcases member with rfl | later
    · simp [Reference.written, named]
    · exact List.mem_append_right _ (ih later)

theorem halfFault?_eq_none {points : Points} (whole : ∀ x ∈ points, Text.Points.isHalf x = false) :
    points.halfFault? = none := by
  have all : points.takeWhile (fun x => !Text.Points.isHalf x || Text.Points.standsForByte x) =
      points := by
    rw [List.takeWhile_eq_self_iff]
    intro x member
    rw [whole x member]
    rfl
  rw [Text.Points.halfFault?, all, List.drop_length]

theorem isHalf_toNat (c : Char) : Text.Points.isHalf c.toNat = false := by
  have valid : c.toNat < 0xD800 ∨ 0xDFFF < c.toNat ∧ c.toNat < 0x110000 := c.valid
  simp only [Text.Points.isHalf, Text.Points.isHigh, Text.Points.isLow, Bool.or_eq_false_iff,
    Bool.and_eq_false_iff, decide_eq_false_iff_not]
  omega

theorem halfFault?_of_splits_ofChars {text : List Char} {parts : Reference.Parts}
    (splits : Reference.Splits (.ofChars text) parts) {reference : Reference}
    (member : reference ∈ parts.references) : reference.name.halfFault? = none := by
  refine halfFault?_eq_none fun x named => ?_
  obtain ⟨c, _, rfl⟩ := List.mem_map.mp (mem_of_splits splits member named)
  exact isHalf_toNat c

end Whole

namespace Value

/-- Every text, by its code points, parts in one way into references and texts in which none starts.
Where there is room for a value and all names in it can be looked up, the references of every text
in it are replaced and all else stays; else the replacing ends at the first place where that is not
so. The names in a text of whole characters can always be looked up. -/
theorem resolve_exact (room : Room) (environment : Environment) :
    (∀ points : Points, ∃! parts, Reference.Splits points parts) ∧
      (∀ value result : Value, value.resolve room environment = .ok result ↔
        Expanded room environment 0 value result) ∧
      (∀ (value : Value) (e : Error), value.resolve room environment = .error e ↔
        Stuck room environment 0 value e) ∧
      ∀ (text : List Char) (parts : Reference.Parts), Reference.Splits (.ofChars text) parts →
        ∀ reference ∈ parts.references, reference.name.halfFault? = none := by
  refine ⟨fun points => ?_, fun value result => expanded_iff.symm, fun value e => stuck_iff.symm,
    fun text parts splits reference => halfFault?_of_splits_ofChars splits⟩
  exact ⟨_, Reference.splits_parts points, fun _ splits => Reference.splits_iff.mp splits⟩

def halfReference : Reference := ⟨[0xD800], some [51, 50]⟩

theorem splits_halfReference :
    Reference.Splits halfReference.written ⟨[([], halfReference)], []⟩ := by
  apply Reference.splits_written
  refine ⟨List.cons_ne_nil _ _, by decide, ?_⟩
  rintro _ ⟨⟩
  decide

theorem stuck_halfReference (count : Nat) : Stuck (.upTo count) [] 0
    (.scalar (.halves halfReference.written)) (.halves ⟨0, [0xD800]⟩) :=
  .name (Room.shallow _ _ _ (Nat.zero_le 1)) rfl splits_halfReference
    (List.nil_append [halfReference]).symm nofun rfl

theorem resolve_exact_empty : (list [text "$\x7bA:x\x7d/", int 1]).resolve (.upTo 0) [([65], [])] =
      .ok (list [text "/", int 1]) ∧
    (list [list [list []]]).resolve (.upTo 0) [] = .error .nesting := by
  have room : ∀ value : Value, (Room.upTo 0).fits 0 value = true ∧
      (Room.upTo 0).fits 1 value = true ∧ (Room.upTo 0).fits 2 value = false :=
    fun _ => ⟨rfl, rfl, rfl⟩
  have plain : Reference.Plain [47] [] := by
    refine (Reference.plain_nil []).cons ?_
    rw [← Reference.read?_eq_none_iff]
    rfl
  have valid : Reference.Valid ⟨[65], some [120]⟩ :=
    ⟨List.cons_ne_nil _ _, List.forall_mem_singleton.mpr (by decide), fun _ same =>
      Option.some.inj same ▸ List.forall_mem_singleton.mpr (by decide)⟩
  have splits : Reference.Splits (.ofChars "$\x7bA:x\x7d/".toList)
      ⟨[([], ⟨[65], some [120]⟩)], [47]⟩ :=
    .piece (Reference.plain_nil _) valid (.last plain)
  have filled : Reference.Parts.filled [([65], [])] ⟨[([], ⟨[65], some [120]⟩)], [47]⟩ = [47] := by
    have name : Text.Points.toBytes [65] = .ok [65] := rfl
    simp [Reference.Parts.filled, Reference.value, name, Text.Points.ofBytes, Except.toOption]
  obtain ⟨_, expanded, _, whole⟩ := resolve_exact (.upTo 0) [([65], [])]
  obtain ⟨_, _, stuck, _⟩ := resolve_exact (.upTo 0) []
  refine ⟨(expanded _ _).mpr ?_, (stuck _ _).mpr ?_⟩
  · refine .list (room _).1 rfl (List.forall_mem_cons.mpr ⟨?_, List.forall_mem_singleton.mpr ?_⟩)
    · have replaced : Expanded (.upTo 0) [([65], [])] 1 (text "$\x7bA:x\x7d/") _ :=
        .text (room _).2.1 rfl splits (whole _ _ splits)
      rwa [filled] at replaced
    · exact .fixed (room _).2.1 rfl
  · have inner : Stuck (.upTo 0) [] 1 (list ([] ++ list [] :: [])) .nesting :=
      .item (room _).2.1 (List.forall_mem_nil _) (.nesting (room _).2.2)
    have outer : Stuck (.upTo 0) [] 0 (list ([] ++ list [list []] :: [])) .nesting :=
      .item (room _).1 (List.forall_mem_nil _) inner
    exact outer

/-- A name with half a character is not set, but the reference by it is not replaced by its text:
the whole value is refused. -/
theorem resolve_refuses_half : ∃ parts, Reference.Splits halfReference.written parts ∧
    parts.filled [] = .ofChars "32".toList ∧
      (scalar (.halves halfReference.written)).resolve (.upTo 0) [] =
        .error (.halves ⟨0, [0xD800]⟩) :=
  ⟨_, splits_halfReference, rfl, stuck_iff.mp (stuck_halfReference 0)⟩

end Value

end AnchoredSet
