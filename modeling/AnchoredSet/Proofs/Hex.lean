import Mathlib.Data.List.TakeWhile
import AnchoredSet.Hex
import AnchoredSet.Proofs.Reachable

/-!
Digits of base 16. A text is read as bytes exactly if its digits, in lower case and without a marker
in front, are the ones that the bytes are written in.
-/

namespace AnchoredSet

namespace Text

theorem toLower_of_large {c : Char} (large : 128 ≤ c.toNat) : c.toLower = c := by
  have above : ¬ (c.val ≥ 'A'.val ∧ c.val ≤ 'Z'.val) := by
    rintro ⟨_, below⟩
    have below : c.toNat ≤ 90 := below
    omega
  exact dif_neg above

theorem hexValue?_of_large {c : Char} (large : 128 ≤ c.toNat) : hexValue? c = none := by
  simp only [hexValue?]
  rw [if_neg (by omega), if_neg (by omega), if_neg (by omega)]

theorem toNat_hexDigit_lt {n : Nat} (small : n < 16) : (hexDigit n).toNat < 128 := by
  revert n
  decide

theorem hexValue?_eq_some_iff {c : Char} {n : Nat} :
    hexValue? c = some n ↔ n < 16 ∧ c.toLower = hexDigit n := by
  by_cases large : 128 ≤ c.toNat
  · rw [hexValue?_of_large large, toLower_of_large large]
    refine iff_of_false (Option.some_ne_none n).symm ?_
    rintro ⟨small, rfl⟩
    have := toNat_hexDigit_lt small
    omega
  · have read : ∀ k < 128, ((hexValue? (Char.ofNat k)).all fun n =>
        n < 16 && (Char.ofNat k).toLower = hexDigit n) = true := by decide
    have written : ∀ k < 128, ∀ n < 16, (Char.ofNat k).toLower = hexDigit n →
        hexValue? (Char.ofNat k) = some n := by decide
    have small : c.toNat < 128 := Nat.not_le.mp large
    have here := read c.toNat small
    have back := written c.toNat small n
    rw [Char.ofNat_toNat] at here back
    constructor
    · intro found
      simpa [found] using here
    · rintro ⟨digit, same⟩
      exact back digit same

theorem hexDigits_byte (byte : UInt8) :
    hexDigits 2 byte.toNat = [hexDigit (byte.toNat / 16), hexDigit (byte.toNat % 16)] := by
  have small : byte.toNat / 16 < 16 := by
    have := byte.toNat_lt
    omega
  simp [hexDigits, Nat.mod_eq_of_lt small]

theorem requireAscii_eq_ok {text : List Char} (plain : ∀ c ∈ text, isAscii c = true) :
    requireAscii text = .ok () := by
  rw [requireAscii, if_pos (List.all_eq_true.mpr plain)]

end Text

namespace Hex

open Text

variable {text : List Char} {data : Bytes}

theorem encode_cons (byte : UInt8) (data : Bytes) : encode (byte :: data) =
    hexDigit (byte.toNat / 16) :: hexDigit (byte.toNat % 16) :: encode data := by
  rw [encode, List.flatMap_cons, hexDigits_byte]
  rfl

theorem length_encode (data : Bytes) : (encode data).length = 2 * data.length := by
  induction data with
  | nil => rfl
  | cons byte data ih =>
    simp only [encode_cons, List.length_cons, ih]
    omega

theorem exists_hexDigit_of_mem {c : Char} (member : c ∈ encode data) :
    ∃ n < 16, c = hexDigit n := by
  induction data with
  | nil => cases member
  | cons byte data ih =>
    have bound := byte.toNat_lt
    rw [encode_cons, List.mem_cons, List.mem_cons] at member
    rcases member with high | low | later
    · exact ⟨_, by omega, high⟩
    · exact ⟨_, by omega, low⟩
    · exact ih later

theorem readPairs?_cons {high low : Char} {rest : List Char} {byte : UInt8} :
    readPairs? (high :: low :: rest) = some (byte :: data) ↔
      hexValue? high = some (byte.toNat / 16) ∧ hexValue? low = some (byte.toNat % 16) ∧
        readPairs? rest = some data := by
  simp only [readPairs?, Option.bind_eq_bind, Option.bind_eq_some_iff, Option.pure_def,
    Option.some.injEq, List.cons.injEq]
  constructor
  · rintro ⟨h, high, l, low, _, tail, rfl, rfl⟩
    have small := (hexValue?_eq_some_iff.mp high).1
    have small' := (hexValue?_eq_some_iff.mp low).1
    have whole : (UInt8.ofNat (16 * h + l)).toNat = 16 * h + l := by
      rw [UInt8.toNat_ofNat']
      omega
    rw [whole, show (16 * h + l) / 16 = h by omega, show (16 * h + l) % 16 = l by omega]
    exact ⟨high, low, tail⟩
  · rintro ⟨high, low, tail⟩
    refine ⟨_, high, _, low, _, tail, ?_, rfl⟩
    rw [Nat.div_add_mod, UInt8.ofNat_toNat]

theorem readPairs?_eq_some_iff :
    readPairs? text = some data ↔ text.map Char.toLower = encode data := by
  induction data generalizing text with
  | nil =>
    match text with
    | [] => exact iff_of_true rfl rfl
    | [_] => exact iff_of_false nofun (List.cons_ne_nil _ _)
    | high :: low :: rest =>
      refine iff_of_false ?_ (List.cons_ne_nil _ _)
      simp [readPairs?, Option.bind_eq_some_iff]
  | cons byte data ih =>
    rw [encode_cons]
    match text with
    | [] => exact iff_of_false nofun (List.cons_ne_nil _ _).symm
    | [_] => exact iff_of_false nofun (by simp)
    | high :: low :: rest =>
      have bound := byte.toNat_lt
      have digit : byte.toNat / 16 < 16 := by omega
      have digit' : byte.toNat % 16 < 16 := by omega
      rw [readPairs?_cons, ih, hexValue?_eq_some_iff, hexValue?_eq_some_iff, List.map_cons,
        List.map_cons, List.cons.injEq, List.cons.injEq, and_iff_right digit,
        and_iff_right digit']

theorem isAscii_of_map_toLower (same : text.map Char.toLower = encode data) :
    ∀ c ∈ text, isAscii c = true := by
  intro c member
  obtain ⟨n, small, digit⟩ := exists_hexDigit_of_mem (same ▸ List.mem_map_of_mem member)
  have below := toNat_hexDigit_lt small
  rw [← digit] at below
  by_cases large : 128 ≤ c.toNat
  · rw [toLower_of_large large] at below
    omega
  · simpa [isAscii] using large

/-- A text is read as the bytes that its digits write, in lower case and without the marker. -/
theorem decode_eq_ok_iff :
    decode text = .ok data ↔ (unmarked text).map Char.toLower = encode data := by
  rw [← readPairs?_eq_some_iff]
  constructor
  · intro ok
    obtain ⟨_, _, ok⟩ := bind_eq_ok.mp ok
    by_cases odd : (unmarked text).length % 2 = 1
    · rw [if_pos odd] at ok
      cases ok
    · rw [if_neg odd] at ok
      cases read : readPairs? (unmarked text) with
      | none =>
        rw [read] at ok
        cases ok
      | some found =>
        rw [read] at ok
        cases ok
        rfl
  · intro read
    have same := readPairs?_eq_some_iff.mp read
    have even : (unmarked text).length = 2 * data.length := by
      rw [← length_encode, ← same, List.length_map]
    simp [decode, requireAscii_eq_ok (isAscii_of_map_toLower same), even, read, bind, Except.bind,
      pure, Except.pure]

theorem toLower_of_mem_encode {c : Char} (member : c ∈ encode data) : c.toLower = c := by
  obtain ⟨n, small, rfl⟩ := exists_hexDigit_of_mem member
  exact (hexValue?_eq_some_iff.mp (hexValue?_hexDigit small)).2

theorem map_toLower_encode (data : Bytes) : (encode data).map Char.toLower = encode data := by
  have plain : (encode data).map Char.toLower = (encode data).map id :=
    List.map_congr_left fun _ => toLower_of_mem_encode
  exact plain.trans (List.map_id _)

theorem decode_marked (data : Bytes) : decode (marked data).toList = .ok data := by
  rw [marked, String.toList_ofList, decode_eq_ok_iff]
  exact map_toLower_encode data

/-- The one form of a text of digits: behind the marker, and in lower case. -/
def normal (text : List Char) : List Char := '0' :: 'x' :: (unmarked text).map Char.toLower

theorem marked_of_decode (ok : decode text = .ok data) :
    marked data = String.ofList (normal text) := by
  rw [marked, normal, decode_eq_ok_iff.mp ok]

end Hex

end AnchoredSet
