import Mathlib.Data.List.Basic
import Mathlib.Data.List.GetD
import Mathlib.Data.List.Induction
import AnchoredSet.Base58
import AnchoredSet.Proofs.Hex

/-!
Texts in base 58. A number has one numeral without zeros in front, whatever the base, and the zero
bytes in front of a number are kept apart from it; so a text is read as bytes exactly if it is the
one that the bytes are written as.
-/

namespace AnchoredSet

namespace Positional

/-- Digits of a base, with no zero in front. -/
structure Numeral (base : Nat) (ds : List Nat) : Prop where
  small : ∀ d ∈ ds, d < base
  front : ds.head? ≠ some 0

variable {base n d : Nat} {ds : List Nat}

@[simp] theorem digits_zero (base : Nat) : digits base 0 = [] := by
  rw [digits, dif_pos (.inl rfl)]

theorem digits_of_pos (large : 1 < base) (positive : 0 < n) :
    digits base n = digits base (n / base) ++ [n % base] := by
  rw [digits, dif_neg (by omega)]

theorem head?_digits (large : 1 < base) (n : Nat) : (digits base n).head? ≠ some 0 := by
  induction n using Nat.strongRecOn with
  | _ n ih =>
    by_cases zero : n = 0
    · rw [zero, digits_zero]
      exact nofun
    · have positive : 0 < n := Nat.pos_of_ne_zero zero
      rw [digits_of_pos large positive]
      by_cases single : n < base
      · rw [Nat.div_eq_of_lt single, Nat.mod_eq_of_lt single, digits_zero]
        simpa using zero
      · have higher : 0 < n / base := Nat.div_pos (by omega) (by omega)
        have filled : digits base (n / base) ≠ [] := by
          rw [digits_of_pos large higher]
          simp
        rw [List.head?_append_of_ne_nil _ filled]
        exact ih (n / base) (Nat.div_lt_self positive large)

theorem numeral_digits (large : 1 < base) (n : Nat) : Numeral base (digits base n) where
  small _ present := digits_lt present
  front := head?_digits large n

theorem Numeral.of_append_singleton (numeral : Numeral base (ds ++ [d])) : Numeral base ds where
  small e present := numeral.small e (List.mem_append_left _ present)
  front := by
    cases ds with
    | nil => exact nofun
    | cons first rest => exact numeral.front

theorem digits_ofDigits (large : 1 < base) (numeral : Numeral base ds) :
    digits base (ofDigits base ds) = ds := by
  induction ds using List.reverseRecOn with
  | nil => exact digits_zero base
  | append_singleton ds d ih =>
    have ih := ih numeral.of_append_singleton
    have small : d < base := numeral.small d (by simp)
    have quotient : (ofDigits base ds * base + d) / base = ofDigits base ds := by
      rw [Nat.mul_comm, Nat.mul_add_div (by omega), Nat.div_eq_of_lt small, Nat.add_zero]
    have remainder : (ofDigits base ds * base + d) % base = d := by
      rw [Nat.mul_comm, Nat.mul_add_mod, Nat.mod_eq_of_lt small]
    have positive : 0 < ofDigits base ds * base + d := by
      -- Zero has no digits, so a numeral of zero would be the digit zero alone.
      by_contra zero
      obtain ⟨high, rfl⟩ : ofDigits base ds * base = 0 ∧ d = 0 := by omega
      obtain none : ofDigits base ds = 0 :=
        (Nat.mul_eq_zero.mp high).resolve_right (by omega)
      rw [none, digits_zero] at ih
      exact numeral.front (by rw [← ih]; rfl)
    rw [ofDigits_append_singleton, digits_of_pos large positive, quotient, remainder, ih]

end Positional

/-! Symbols of one kind in front of a list. -/

section Front

variable {α : Type}

theorem exists_eq_replicate_append (a : α) (symbols : List α) :
    ∃ count rest, symbols = List.replicate count a ++ rest ∧ rest.head? ≠ some a := by
  induction symbols with
  | nil => exact ⟨0, [], rfl, nofun⟩
  | cons first rest ih =>
    by_cases same : first = a
    · obtain ⟨count, others, split, front⟩ := ih
      exact ⟨count + 1, others, by rw [same, split, List.replicate_succ, List.cons_append], front⟩
    · exact ⟨0, first :: rest, rfl, by simpa using same⟩

theorem dropWhile_replicate_append [BEq α] [LawfulBEq α] (count : Nat) {a : α} {rest : List α}
    (front : rest.head? ≠ some a) :
    (List.replicate count a ++ rest).dropWhile (· == a) = rest := by
  induction count with
  | zero =>
    cases rest with
    | nil => rfl
    | cons first rest =>
      have differ : ¬ first = a := by simpa using front
      simp [differ]
  | succ count ih => simpa [List.replicate_succ] using ih

end Front

namespace Base58

open Positional

variable {text : List Char} {data number : Bytes} {values : List Nat}

theorem letterValue?_letter {v : Nat} (small : v < 58) : letterValue? (letter v) = some v := by
  revert v
  decide

theorem letterValue?_eq_some_iff {c : Char} {v : Nat} :
    letterValue? c = some v ↔ v < 58 ∧ c = letter v := by
  constructor
  · intro found
    rw [letterValue?, List.idxOf?, List.findIdx?_eq_some_iff_getElem] at found
    obtain ⟨inside, same, _⟩ := found
    have same : alphabet[v] = c := by simpa using same
    refine ⟨inside, ?_⟩
    rw [letter, List.getD_eq_getElem _ _ inside, same]
  · rintro ⟨small, rfl⟩
    exact letterValue?_letter small

theorem isAscii_letter {v : Nat} (small : v < 58) : Text.isAscii (letter v) = true := by
  revert v
  decide

theorem letter_eq_one_iff {v : Nat} (small : v < 58) : letter v = '1' ↔ v = 0 := by
  revert v
  decide

theorem readLetters_eq_ok_iff :
    readLetters text = .ok values ↔ text = values.map letter ∧ ∀ v ∈ values, v < 58 := by
  induction text generalizing values with
  | nil => cases values <;> simp [readLetters]
  | cons c rest ih =>
    rw [readLetters]
    cases values with
    | nil =>
      refine iff_of_false ?_ (by simp)
      cases letterValue? c <;> cases readLetters rest <;> simp [Except.map]
    | cons v values =>
      rw [List.map_cons, List.cons.injEq, List.forall_mem_cons, and_and_and_comm,
        and_comm (a := c = letter v), ← ih, ← letterValue?_eq_some_iff]
      cases letterValue? c <;> cases readLetters rest <;> simp [Except.map]

theorem head?_map_letter (small : ∀ v ∈ values, v < 58) :
    (values.map letter).head? ≠ some '1' ↔ values.head? ≠ some 0 := by
  cases values with
  | nil => exact iff_of_true nofun nofun
  | cons v values => simp [letter_eq_one_iff (small v List.mem_cons_self)]

theorem numeral_map_toNat (front : number.head? ≠ some 0) :
    Numeral 256 (number.map UInt8.toNat) where
  small d present := by
    obtain ⟨byte, _, rfl⟩ := List.mem_map.mp present
    exact byte.toNat_lt
  front := by
    cases number with
    | nil => exact nofun
    | cons byte rest => simpa [← UInt8.toNat_inj] using front

theorem map_toNat_map_ofNat {ds : List Nat} (small : ∀ d ∈ ds, d < 256) :
    (ds.map UInt8.ofNat).map UInt8.toNat = ds := by
  rw [List.map_map]
  refine (List.map_congr_left fun d present => ?_).trans (List.map_id _)
  have bound := small d present
  simp only [Function.comp_apply, UInt8.toNat_ofNat', id_eq]
  omega

theorem map_ofNat_map_toNat (data : Bytes) : (data.map UInt8.toNat).map UInt8.ofNat = data := by
  simp [Function.comp_def]

theorem encode_zeros_append (count : Nat) (front : number.head? ≠ some 0) :
    encode (Bytes.zeros count ++ number) = List.replicate count '1' ++
      (digits 58 (ofDigits 256 (number.map UInt8.toNat))).map letter := by
  have rest := dropWhile_replicate_append count front
  have leading : (Bytes.zeros count ++ number).length - number.length = count := by simp
  rw [encode, Bytes.zeros, rest, ← Bytes.zeros, leading]

theorem decode_replicate_append (count : Nat) (front : text.head? ≠ some '1') :
    decode (List.replicate count '1' ++ text) = .ok data ↔
      (∃ values, text = values.map letter ∧ Numeral 58 values ∧
        data = Bytes.zeros count ++ (digits 256 (ofDigits 58 values)).map UInt8.ofNat) := by
  have rest := dropWhile_replicate_append count front
  have leading : (List.replicate count '1' ++ text).length - text.length = count := by simp
  rw [decode]
  constructor
  · intro ok
    obtain ⟨_, _, ok⟩ := bind_eq_ok.mp ok
    dsimp only at ok
    rw [rest, leading] at ok
    obtain ⟨values, read, same⟩ := bind_eq_ok.mp ok
    obtain ⟨shape, small⟩ := readLetters_eq_ok_iff.mp read
    rw [shape, head?_map_letter small] at front
    exact ⟨values, shape, ⟨small, front⟩, (Except.ok.inj same).symm⟩
  · rintro ⟨values, rfl, numeral, rfl⟩
    have plain : ∀ c ∈ List.replicate count '1' ++ values.map letter, Text.isAscii c = true := by
      intro c present
      rcases List.mem_append.mp present with one | later
      · rw [(List.mem_replicate.mp one).2]
        rfl
      · obtain ⟨v, member, rfl⟩ := List.mem_map.mp later
        exact isAscii_letter (numeral.small v member)
    have read := readLetters_eq_ok_iff.mpr ⟨rfl, numeral.small⟩
    refine bind_eq_ok.mpr ⟨(), mapError_eq_ok.mpr (Text.requireAscii_eq_ok plain), ?_⟩
    dsimp only
    rw [rest, leading]
    exact bind_eq_ok.mpr ⟨values, read, rfl⟩

theorem decode_eq_ok_iff : decode text = .ok data ↔ text = encode data := by
  constructor
  · intro ok
    obtain ⟨count, rest, rfl, front⟩ := exists_eq_replicate_append '1' text
    obtain ⟨values, rfl, numeral, rfl⟩ := (decode_replicate_append count front).mp ok
    have large := numeral_digits (show 1 < 256 by decide) (ofDigits 58 values)
    have bytes := map_toNat_map_ofNat large.small
    have first : ((digits 256 (ofDigits 58 values)).map UInt8.ofNat).head? ≠ some 0 := by
      intro zero
      have front := large.front
      rw [← bytes, List.head?_map, zero] at front
      exact front rfl
    rw [encode_zeros_append count first, bytes, ofDigits_digits (by decide),
      digits_ofDigits (by decide) numeral]
  · rintro rfl
    obtain ⟨count, number, rfl, front⟩ := exists_eq_replicate_append 0 data
    have numeral := numeral_digits (show 1 < 58 by decide) (ofDigits 256 (number.map UInt8.toNat))
    rw [← Bytes.zeros, encode_zeros_append count front,
      decode_replicate_append count ((head?_map_letter numeral.small).mpr numeral.front)]
    refine ⟨_, rfl, numeral, ?_⟩
    rw [ofDigits_digits (by decide), digits_ofDigits (by decide) (numeral_map_toNat front),
      map_ofNat_map_toNat]

end Base58

end AnchoredSet
