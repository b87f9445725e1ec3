import AnchoredSet.Proofs.Ends
import AnchoredSet.Proofs.Expansion
import AnchoredSet.Settings.Load

/-!
What a settings file can give. Settings that are read can be used, and most of what keeps them from
being read is told as a fault of the settings. What is told otherwise is listed in full: bytes that
are no text, scalars that cannot be made, collections too deep to be read or expanded, names that
cannot be looked up, and two kinds of length.
-/

namespace AnchoredSet

def Value.IsInfinite (value : Value) : Prop :=
  ∃ x : Double, value = .scalar (.float x) ∧ x.isInfinite = true

namespace Settings

/-- Settings that a tree and a log can be set up with. -/
structure Usable (settings : Settings) : Prop where
  length : 1 ≤ settings.identifierLength
  level : settings.hasValidLevel = true

def HasInfiniteLength (tree : Value) : Prop :=
  ∃ length, tree.find? "identifier_length" = .ok (some length) ∧ length.IsInfinite

/-- The lengths that are refused without a word of the settings: an infinite one, and one below one
that has too many digits to be shown. -/
inductive Unruly (data : Value) : Error → Prop
  | infinite {tree : Value} (held : section? data "tree" = .ok tree)
      (infinite : HasInfiniteLength tree) : Unruly data (.value .infinite)
  | unshown {settings : Settings} (built : build data = .ok settings)
      (low : settings.identifierLength ≤ 0)
      (long : 10 ^ Integer.digitLimit ≤ settings.identifierLength.natAbs) :
      Unruly data (.value .longInteger)

def Rejects (other : Error → Prop) (e : Error) : Prop := e.isA .invalidSettings = true ∨ other e

section Build

variable {entries : List (Scalar × Value)} {other : Error → Prop} {e : Error}

theorem Rejects.resolve (rejects : Rejects other e) (differ : e.isA .invalidSettings = false) :
    other e := by
  rcases rejects with told | escapes
  · rw [told] at differ
    cases differ
  · exact escapes

theorem ends_validate (settings : Settings) :
    Ends (Rejects fun e => settings.identifierLength ≤ 0 ∧
        10 ^ Integer.digitLimit ≤ settings.identifierLength.natAbs ∧ e = .value .longInteger)
      (fun _ => settings.Usable) settings.validate := by
  rw [validate]
  split
  · rename_i low
    cases shown : Integer.render? settings.identifierLength with
    | some text => exact .error (.inl rfl)
    | none => exact .error (.inr ⟨low, Integer.render?_eq_none_iff.mp shown, rfl⟩)
  · rename_i high
    split
    · rename_i level
      exact .ok ⟨by omega, level⟩
    · exact .error (.inl rfl)

theorem ends_find? (data : Value) (name : String) :
    Ends (· ≠ .infinite) (fun _ => True) (data.find? name) := by
  cases data with
  | map entries => exact .ok trivial
  | _ => exact .error nofun

theorem ends_field (data : Value) (name : String) (otherwise : Value) :
    Ends (· ≠ .infinite)
      (fun value => data.find? name = .ok (some value) ∨ value = otherwise)
      (field data name otherwise) := by
  rw [field]
  cases found : data.find? name with
  | error fault => exact .error ((Ends.iff.mp (ends_find? data name)).2 fault found)
  | ok held =>
    cases held with
    | none => exact .ok (.inr rfl)
    | some value => exact .ok (.inl rfl)

theorem ends_readNumeral (text : List Char) (shown : String) :
    Ends (· ≠ .infinite) (fun _ => True) (Value.readNumeral 10 text shown) := by
  rw [Value.readNumeral]
  split
  · exact .ok trivial
  · exact .error nofun
  · exact .error nofun

theorem ends_toInt (value : Value) :
    Ends (· = .infinite → value.IsInfinite) (fun _ => True) value.toInt := by
  have numeral (text : List Char) (shown : String) :
      Ends (· = .infinite → value.IsInfinite) (fun _ => True)
        (Value.readNumeral 10 text shown) :=
    (ends_readNumeral text shown).mono (fun _ differ same => absurd same differ)
      fun _ _ => trivial
  rw [Value.toInt.eq_def]
  split
  · exact .ok trivial
  · exact .ok trivial
  · rename_i x
    split
    · exact .error nofun
    · split
      · rename_i infinite
        exact .error fun _ => ⟨x, rfl, infinite⟩
      · exact .ok trivial
  · exact numeral _ _
  · exact numeral _ _
  · exact numeral _ _
  · exact numeral _ _
  · exact .error nofun

theorem ends_textOf (value : Value) : Ends (· ≠ .infinite) (fun _ => True) (textOf value) := by
  rw [textOf]
  cases value.toText? with
  | some text => exact .ok trivial
  | none => exact .error nofun

theorem ends_asBool (value : Value) : Ends (· ≠ .infinite) (fun _ => True) (asBool value) := by
  rw [asBool.eq_def]
  split
  · simp only
    split
    · exact .ok trivial
    · split
      · exact .ok trivial
      · exact .error nofun
  · exact .error nofun
  · exact .ok trivial

theorem ends_readSections (tree logging : Value) :
    Ends (· = .infinite → HasInfiniteLength tree) (fun _ => True) (readSections tree logging) := by
  have other {α : Type} {holds : α → Prop} {read : Except ValueFault α}
      (ends : Ends (· ≠ .infinite) holds read) :
      Ends (· = .infinite → HasInfiniteLength tree) holds read :=
    ends.mono (fun _ differ same => absurd same differ) fun _ right => right
  rw [readSections]
  apply (other (ends_field tree "identifier_length" (.int default.identifierLength))).bind
  intro length held
  have whole : Ends (· = .infinite → HasInfiniteLength tree) (fun _ => True) length.toInt := by
    rcases held with found | rfl
    · exact (ends_toInt length).mono (fun _ infinite same => ⟨length, found, infinite same⟩)
        fun _ _ => trivial
    · exact .ok trivial
  apply whole.bind
  intro length _
  apply (other (ends_field logging "level" (.text default.level))).bind
  intro level _
  apply (other (ends_textOf level)).bind
  intro level _
  apply (other (ends_field logging "file" (.text default.file))).bind
  intro file _
  -- The last field is read behind both ways of reading the one before.
  have formed (file : String) : Ends (· = .infinite → HasInfiniteLength tree) (fun _ => True) (do
      let form ← field logging "json_format" (.bool default.jsonFormat)
      let json ← asBool form
      return Settings.mk length level file json) := by
    apply (other (ends_field logging "json_format" (.bool default.jsonFormat))).bind
    intro form _
    apply (other (ends_asBool form)).bind
    intro json _
    exact .ok trivial
  dsimp only
  split
  · exact (other (ends_textOf file)).bind fun file _ => formed file
  · exact formed ""

theorem section?_map (entries : List (Scalar × Value)) (name : String) : section? (.map entries)
    name = .ok (((entries.lookup (.text name)).filter Value.truthy).getD (.map [])) := rfl

theorem isA_sectionFault {fault : ValueFault} (differ : fault ≠ .infinite) :
    (sectionFault fault).isA .invalidSettings = true := by
  cases fault with
  | infinite => exact absurd rfl differ
  | _ => rfl

theorem ends_build (entries : List (Scalar × Value)) :
    Ends (Rejects (Unruly (.map entries)))
      (fun settings => build (.map entries) = .ok settings) (build (.map entries)) := by
  refine Ends.iff.mpr ⟨fun _ same => same, ?_⟩
  have ends : Ends (Rejects (Unruly (.map entries)))
      (fun _ => True) (build (.map entries)) := by
    rw [build, section?_map, section?_map]
    apply (ends_readSections _ _).mapError
    intro fault infinite
    by_cases same : fault = .infinite
    · subst same
      exact .inr (.infinite (section?_map entries "tree") (infinite rfl))
    · exact .inl (isA_sectionFault same)
  exact (Ends.iff.mp ends).2

theorem ends_ofValue (entries : List (Scalar × Value)) :
    Ends (Rejects (Unruly (.map entries))) Usable
      (ofValue (.map entries)) := by
  apply (ends_build entries).bind
  intro settings built
  have validated : Ends (Rejects (Unruly (.map entries)))
      (fun _ => settings.Usable) settings.validate := by
    apply (ends_validate settings).mono ?_ fun _ usable => usable
    intro e rejects
    rcases rejects with told | ⟨low, long, rfl⟩
    · exact .inl told
    · exact .inr (.unshown built low long)
  apply validated.bind
  intro _ usable
  exact .ok usable

end Build

/-! From the file to the value in it. -/

section File

variable {room : Room} {environment : Environment} {data : Bytes}

end File

end Settings

end AnchoredSet
