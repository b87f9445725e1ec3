import AnchoredSet.Proofs.Base58

/-!
Identifiers as texts. A text is read as an identifier exactly if it spells it, behind a marker in
digits of base 16 or without one in base 58, with any blanks around it; all other texts are refused.
-/

namespace AnchoredSet

namespace Text

variable {before inner after : List Char}

theorem dropWhile_isBlank_of_solid (solid : ∀ c ∈ inner, isBlank c = false) :
    inner.dropWhile isBlank = inner := by
  cases inner with
  | nil => rfl
  | cons c rest =>
    have first : isBlank c = false := solid c List.mem_cons_self
    rw [List.dropWhile_cons_of_neg (by simp [first])]

theorem strip_padded (blank : ∀ c ∈ before, isBlank c = true)
    (blank' : ∀ c ∈ after, isBlank c = true) (solid : ∀ c ∈ inner, isBlank c = false) :
    strip (before ++ inner ++ after) = inner := by
  have reversed : ∀ c ∈ inner.reverse, isBlank c = false := by simpa using solid
  have behind : ∀ c ∈ after.reverse, isBlank c = true := by simpa using blank'
  rw [strip, List.append_assoc, List.dropWhile_append_of_pos blank]
  cases inner with
  | nil =>
    have nothing : after.dropWhile isBlank = [] := List.dropWhile_eq_nil_iff.mpr blank'
    rw [List.nil_append, nothing]
    rfl
  | cons c rest =>
    have first : isBlank c = false := solid c List.mem_cons_self
    rw [List.cons_append, List.dropWhile_cons_of_neg (by simp [first]), ← List.cons_append,
      List.reverse_append, List.dropWhile_append_of_pos behind, dropWhile_isBlank_of_solid reversed,
      List.reverse_reverse]

/-- A text with blanks around it, or none. -/
def Padded (text : String) (inner : List Char) : Prop :=
  ∃ before after, (∀ c ∈ before, isBlank c = true) ∧ (∀ c ∈ after, isBlank c = true) ∧
    text.toList = before ++ inner ++ after

theorem Padded.strip_eq {text : String} (padded : Padded text inner)
    (solid : ∀ c ∈ inner, isBlank c = false) : strip text.toList = inner := by
  obtain ⟨before, after, blank, blank', shape⟩ := padded
  rw [shape, strip_padded blank blank' solid]

theorem isBlank_hexDigit {n : Nat} (small : n < 16) : isBlank (hexDigit n) = false := by
  revert n
  decide

end Text

namespace Hex

variable {data : Bytes}

theorem toList_marked (data : Bytes) : (marked data).toList = '0' :: 'x' :: encode data := by
  rw [marked, String.toList_ofList]

theorem isBlank_of_mem_marked {c : Char} (member : c ∈ (marked data).toList) :
    Text.isBlank c = false := by
  rw [toList_marked, List.mem_cons, List.mem_cons] at member
  rcases member with rfl | rfl | digit
  · rfl
  · rfl
  · obtain ⟨n, small, rfl⟩ := exists_hexDigit_of_mem digit
    exact Text.isBlank_hexDigit small

theorem hasMarker_iff {text : List Char} : hasMarker text = true ↔
    ∃ x digits, (x = 'x' ∨ x = 'X') ∧ text = '0' :: x :: digits := by
  constructor
  · intro marker
    rw [hasMarker.eq_def] at marker
    split at marker
    · exact ⟨'x', _, .inl rfl, rfl⟩
    · exact ⟨'X', _, .inr rfl, rfl⟩
    · cases marker
  · rintro ⟨x, digits, rfl | rfl, rfl⟩ <;> rfl

end Hex

namespace Base58

variable {data : Bytes}

theorem exists_letter_of_mem_encode {c : Char} (member : c ∈ encode data) :
    ∃ v < 58, c = letter v := by
  rw [encode] at member
  rcases List.mem_append.mp member with one | later
  · exact ⟨0, by decide, (List.mem_replicate.mp one).2⟩
  · obtain ⟨v, digit, same⟩ := List.mem_map.mp later
    exact ⟨v, Positional.digits_lt digit, same.symm⟩

theorem isBlank_letter {v : Nat} (small : v < 58) : Text.isBlank (letter v) = false := by
  revert v
  decide

theorem letter_ne_zero {v : Nat} (small : v < 58) : letter v ≠ '0' := by
  revert v
  decide

theorem isBlank_of_mem_encode {c : Char} (member : c ∈ encode data) :
    Text.isBlank c = false := by
  obtain ⟨v, small, rfl⟩ := exists_letter_of_mem_encode member
  exact isBlank_letter small

theorem hasMarker_encode (data : Bytes) : Hex.hasMarker (encode data) = false := by
  rw [← Bool.not_eq_true, Hex.hasMarker_iff]
  rintro ⟨x, digits, _, shape⟩
  obtain ⟨v, small, zero⟩ := exists_letter_of_mem_encode (shape ▸ List.mem_cons_self)
  exact letter_ne_zero small zero.symm

end Base58

namespace Identifier

/-- The texts for some bytes: digits of base 16 behind a marker, all in any case, or the one text
of base 58. -/
inductive Spells (data : Bytes) : List Char → Prop
  | hex {x : Char} {digits : List Char} (mark : x = 'x' ∨ x = 'X')
      (same : digits.map Char.toLower = Hex.encode data) : Spells data ('0' :: x :: digits)
  | base58 : Spells data (Base58.encode data)

variable {text : String} {inner : List Char} {data : Bytes} {length : Int}

theorem spells_marked (data : Bytes) : Spells data (Hex.marked data).toList := by
  rw [Hex.toList_marked]
  exact .hex (.inl rfl) (Hex.map_toLower_encode data)

theorem spells_iff_of_marker (marker : Hex.hasMarker inner = true) :
    Spells data inner ↔ (Hex.unmarked inner).map Char.toLower = Hex.encode data := by
  rw [Hex.unmarked, if_pos marker]
  constructor
  · rintro (⟨_, same⟩ | _)
    · exact same
    · rw [Base58.hasMarker_encode] at marker
      cases marker
  · obtain ⟨x, digits, mark, rfl⟩ := Hex.hasMarker_iff.mp marker
    exact .hex mark

theorem spells_iff_of_not_marker (unmarked : Hex.hasMarker inner = false) :
    Spells data inner ↔ inner = Base58.encode data := by
  constructor
  · rintro (⟨mark, _⟩ | _)
    · rw [Hex.hasMarker_iff.mpr ⟨_, _, mark, rfl⟩] at unmarked
      cases unmarked
    · rfl
  · rintro rfl
    exact .base58

theorem ofText_eq_ok_iff : ofText text = .ok data ↔ Spells data (Text.strip text.toList) := by
  simp only [ofText]
  cases marker : Hex.hasMarker (Text.strip text.toList) with
  | true => rw [if_pos rfl, mapError_eq_ok, Hex.decode_eq_ok_iff, spells_iff_of_marker marker]
  | false =>
    rw [if_neg Bool.false_ne_true, mapError_eq_ok, Base58.decode_eq_ok_iff,
      spells_iff_of_not_marker marker]

theorem decode_text_eq_ok_iff : decode (.text text) length = .ok data ↔
    (data.length : Int) = length ∧ Spells data (Text.strip text.toList) := by
  rw [decode_eq_ok, ofValue_eq_ok, and_comm, ← ofText_eq_ok_iff]
  rfl

theorem exists_decode_error
    (unread : ¬ ∃ data : Bytes, (data.length : Int) = length ∧
      Spells data (Text.strip text.toList)) :
    ∃ e, decode (.text text) length = .error e ∧
      (e.isA .invalidIdentifier = true ∨ e = .value .longInteger) ∧
      (e = .value .longInteger ↔ 10 ^ Integer.digitLimit ≤ length.natAbs ∧
        ∃ data, Spells data (Text.strip text.toList)) := by
  have untold : Untold (.text text) length ↔ 10 ^ Integer.digitLimit ≤ length.natAbs ∧
      ∃ data, Spells data (Text.strip text.toList) := by
    refine and_congr_right fun _ => exists_congr fun data => ?_
    change ofText text = .ok data ∧ _ ↔ _
    rw [ofText_eq_ok_iff]
    exact and_iff_left_of_imp fun spelled same => unread ⟨data, same, spelled⟩
  rw [← untold, decode]
  cases read : ofValue (.text text) length with
  | ok data => exact absurd ⟨data, decode_text_eq_ok_iff.mp (decode_eq_ok.mpr read)⟩ unread
  | error fault =>
    refine ⟨_, rfl, ?_⟩
    rcases raise_of_ofValue read .invalidIdentifier with ⟨long, raised⟩ | ⟨told, raised⟩
    · rw [raised]
      exact ⟨.inr rfl, iff_of_true rfl long⟩
    · rw [raised]
      exact ⟨.inl rfl, iff_of_false (by simp) told⟩

/-- What is written is read again with any blanks around it. What is read has the length asked for
and is spelled by the text between the blanks; all other texts, and those with halves of characters,
are refused. The refusal is told as such unless the text spells bytes and the length has more than
4300 digits, too many to be told. -/
theorem decode_text_exact (text : String) (length : Int) :
    (∀ data : Bytes, (data.length : Int) = length →
        Text.Padded text (Hex.marked data).toList ∨ Text.Padded text (Base58.shown data).toList →
        decode (.text text) length = .ok data) ∧
      (∀ data, decode (.text text) length = .ok data ↔
        (data.length : Int) = length ∧ Spells data (Text.strip text.toList)) ∧
      ((¬ ∃ data : Bytes, (data.length : Int) = length ∧
          Spells data (Text.strip text.toList)) →
        ∃ e, decode (.text text) length = .error e ∧
          (e.isA .invalidIdentifier = true ∨ e = .value .longInteger) ∧
          (e = .value .longInteger ↔ 10 ^ Integer.digitLimit ≤ length.natAbs ∧
            ∃ data, Spells data (Text.strip text.toList))) ∧
      ∀ points, ∃ e, decode (.scalar (.halves points)) length = .error e ∧
        e.isA .invalidIdentifier = true := by
  refine ⟨?_, fun data => decode_text_eq_ok_iff, exists_decode_error, ?_⟩
  · intro data sized padded
    apply decode_text_eq_ok_iff.mpr
    rcases padded with padded | padded
    · rw [padded.strip_eq fun c => Hex.isBlank_of_mem_marked]
      exact ⟨sized, spells_marked data⟩
    · rw [Base58.shown, String.toList_ofList] at padded
      rw [padded.strip_eq fun c => Base58.isBlank_of_mem_encode]
      exact ⟨sized, .base58⟩
  · intro points
    exact ⟨_, congrArg Except.error (raise_refuseHalves points _), rfl⟩

theorem encode_zeros : Base58.encode [0, 0, 10] = ['1', '1', 'B'] := by
  have single : Positional.digits 58 10 = [10] := by
    rw [Positional.digits_of_pos (by decide) (by decide), Positional.digits_zero]
    rfl
  have shape : ([0, 0, 10] : Bytes) = Bytes.zeros 2 ++ [10] := rfl
  have number : Positional.ofDigits 256 (([10] : Bytes).map UInt8.toNat) = 10 := rfl
  rw [shape, Base58.encode_zeros_append 2 (by decide), number, single]
  decide

theorem decode_text_exact_zeros :
    decode (.text " 0x00000a\n") 3 = .ok [0, 0, 10] ∧ decode (.text "\t11B") 3 = .ok [0, 0, 10] ∧
      decode (.text "0X00000A") 3 = .ok [0, 0, 10] ∧
      ∃ e, decode (.text "0") 1 = .error e ∧ e.isA .invalidIdentifier = true := by
  obtain ⟨marked, _⟩ := decode_text_exact " 0x00000a\n" 3
  obtain ⟨plain, _⟩ := decode_text_exact "\t11B" 3
  obtain ⟨_, read, _⟩ := decode_text_exact "0X00000A" 3
  obtain ⟨_, _, refused, _⟩ := decode_text_exact "0" 1
  refine ⟨?_, ?_, ?_, ?_⟩
  · exact marked [0, 0, 10] rfl (.inl ⟨[' '], ['\n'], List.forall_mem_singleton.mpr rfl,
      List.forall_mem_singleton.mpr rfl, by decide⟩)
  · refine plain [0, 0, 10] rfl (.inr ⟨['\t'], [], List.forall_mem_singleton.mpr rfl,
      List.forall_mem_nil _, ?_⟩)
    rw [Base58.shown, encode_zeros]
    rfl
  · have inner : Text.strip "0X00000A".toList = ['0', 'X', '0', '0', '0', '0', '0', 'A'] := by
      decide
    exact (read _).mpr ⟨rfl, inner ▸ .hex (.inr rfl) (by decide)⟩
  · have unspelled : ¬ ∃ data, Spells data (Text.strip "0".toList) := by
      intro ⟨data, spelled⟩
      have alone : Text.strip "0".toList = ['0'] := by decide
      have letters := (spells_iff_of_not_marker rfl).mp (alone ▸ spelled)
      obtain ⟨v, small, zero⟩ := Base58.exists_letter_of_mem_encode (letters ▸ List.mem_cons_self)
      exact Base58.letter_ne_zero small zero.symm
    obtain ⟨e, told, kind, untold⟩ := refused fun ⟨data, _, spelled⟩ => unspelled ⟨data, spelled⟩
    exact ⟨e, told, kind.resolve_right fun long => unspelled (untold.mp long).2⟩

/-- The marker alone spells no bytes. A length of 4301 digits is another length, but this is not
told. -/
theorem decode_text_untold : decode (.text "0x") (10 ^ 4300) = .error (.value .longInteger) := by
  have untold : Untold (.text "0x") (10 ^ 4300) := untold_marker (Nat.le_refl Integer.digitLimit)
  obtain ⟨fault, refused, raised⟩ := exists_fault_of_untold untold
  rw [decode, refused]
  exact congrArg Except.error (raised _)

end Identifier

end AnchoredSet
