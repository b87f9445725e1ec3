import AnchoredSet.Proof.Binary
import AnchoredSet.Proofs.Reachable

/-!
Proofs as records of 33 bytes. The reader takes exactly what the writer makes of proofs with nodes
of 32 bytes, so every such proof has one written form; anything else is refused for its length, or
else for the first flag that is none.
-/

namespace AnchoredSet.Binary

def Sized (proof : InclusionProof) : Prop :=
  ∀ sibling ∈ proof, sibling.node.length = digestLength

def flagAt? (data : Bytes) (record : Nat) : Option UInt8 :=
  data[recordLength * record + digestLength]?

def IsFlag (byte : UInt8) : Prop := byte = 0 ∨ byte = 1

structure FirstFault (data : Bytes) (record : Nat) (byte : UInt8) : Prop where
  stored : flagAt? data record = some byte
  fault : ¬ IsFlag byte
  before : ∀ other < record, ∀ flag, flagAt? data other = some flag → IsFlag flag

/-- Why bytes are no proof. The length comes before all flags. -/
inductive Refused (data : Bytes) : Error → Prop
  | length (uneven : data.length % recordLength ≠ 0) :
      Refused data (.malformedProof (.length data.length))
  | flag {record : Nat} {byte : UInt8} (even : data.length % recordLength = 0)
      (first : FirstFault data record byte) :
      Refused data (.malformedProof (.flag byte (recordLength * record)))

theorem isFlag_flag (onRight : Bool) : IsFlag (flag onRight) := by
  cases onRight with
  | true => exact .inr rfl
  | false => exact .inl rfl

theorem flag_eq_one (onRight : Bool) : decide (flag onRight = 1) = onRight := by
  cases onRight <;> rfl

theorem flag_decide {byte : UInt8} (isFlag : IsFlag byte) : flag (byte = 1) = byte := by
  rcases isFlag with rfl | rfl <;> rfl

section Record

variable {node rest : Bytes} {byte : UInt8} {count offset record : Nat}

theorem exists_record {data : Bytes} (long : recordLength ≤ data.length) :
    ∃ node byte rest, data = node ++ byte :: rest ∧ node.length = digestLength := by
  have inside : digestLength < data.length := long
  refine ⟨data.take digestLength, data[digestLength], data.drop recordLength, ?_, ?_⟩
  · rw [recordLength, List.getElem_cons_drop, List.take_append_drop]
  · exact List.length_take_of_le (Nat.le_of_lt inside)

theorem flagAt?_zero (sized : node.length = digestLength) :
    flagAt? (node ++ byte :: rest) 0 = some byte := by
  rw [flagAt?, Nat.mul_zero, Nat.zero_add, ← sized, List.getElem?_append_right (Nat.le_refl _),
    Nat.sub_self, List.getElem?_cons_zero]

theorem flagAt?_succ (sized : node.length = digestLength) :
    flagAt? (node ++ byte :: rest) (record + 1) = flagAt? rest record := by
  have place : recordLength * (record + 1) + digestLength =
      node.length + (recordLength * record + digestLength + 1) := by
    rw [sized, recordLength, Nat.mul_succ]
    omega
  rw [flagAt?, place, List.getElem?_append_right (Nat.le_add_right _ _), Nat.add_sub_cancel_left,
    List.getElem?_cons_succ, flagAt?]

theorem decodeRecord_append (sized : node.length = digestLength) :
    decodeRecord (node ++ byte :: rest) offset =
      if byte = 0 ∨ byte = 1 then .ok ⟨node, byte = 1⟩ else .error (.flag byte offset) := by
  have last : (node ++ byte :: rest).getD digestLength 0 = byte := by
    simp [← sized]
  have front : (node ++ byte :: rest).take digestLength = node := by
    rw [← sized, List.take_left]
  simp only [decodeRecord, last, front]

theorem decodeRecords_of_isFlag (sized : node.length = digestLength) (isFlag : IsFlag byte) :
    decodeRecords (count + 1) offset (node ++ byte :: rest) =
      (decodeRecords count (offset + recordLength) rest).map (⟨node, byte = 1⟩ :: ·) := by
  have isFlag : byte = 0 ∨ byte = 1 := isFlag
  have behind : (node ++ byte :: rest).drop recordLength = rest := by
    simp [recordLength, ← sized]
  rw [decodeRecords, decodeRecord_append sized, if_pos isFlag, behind]
  rfl

theorem decodeRecords_of_not_isFlag (sized : node.length = digestLength)
    (fault : ¬ IsFlag byte) :
    decodeRecords (count + 1) offset (node ++ byte :: rest) = .error (.flag byte offset) := by
  have fault : ¬ (byte = 0 ∨ byte = 1) := fault
  rw [decodeRecords, decodeRecord_append sized, if_neg fault]
  rfl

theorem firstFault_zero (sized : node.length = digestLength) (fault : ¬ IsFlag byte) :
    FirstFault (node ++ byte :: rest) 0 byte :=
  ⟨flagAt?_zero sized, fault, fun _ before => absurd before (Nat.not_lt_zero _)⟩

theorem FirstFault.succ {later : UInt8} (sized : node.length = digestLength)
    (isFlag : IsFlag byte) (first : FirstFault rest record later) :
    FirstFault (node ++ byte :: rest) (record + 1) later where
  stored := (flagAt?_succ sized).trans first.stored
  fault := first.fault
  before := by
    intro other before flag found
    cases other with
    | zero =>
      rw [flagAt?_zero sized, Option.some.injEq] at found
      exact found ▸ isFlag
    | succ other =>
      rw [flagAt?_succ sized] at found
      exact first.before other (Nat.lt_of_succ_lt_succ before) flag found

end Record

theorem FirstFault.unique {data : Bytes} {record record' : Nat} {byte byte' : UInt8}
    (first : FirstFault data record byte) (first' : FirstFault data record' byte') :
    record = record' ∧ byte = byte' := by
  have same : record = record' := by
    rcases Nat.lt_trichotomy record record' with before | same | after
    · exact absurd (first'.before record before byte first.stored) first.fault
    · exact same
    · exact absurd (first.before record' after byte' first'.stored) first'.fault
  subst same
  exact ⟨rfl, Option.some.inj (first.stored.symm.trans first'.stored)⟩

section Encode

variable {sibling : Sibling} {proof : InclusionProof}

theorem encode_cons (sibling : Sibling) (proof : InclusionProof) :
    encode (sibling :: proof) = sibling.node ++ flag sibling.onRight :: encode proof := by
  rw [encode, List.flatMap_cons, List.append_assoc, List.singleton_append, encode]

theorem length_encode (sized : Sized proof) :
    (encode proof).length = recordLength * proof.length := by
  induction proof with
  | nil => rfl
  | cons sibling proof ih =>
    rcases List.forall_mem_cons.mp sized with ⟨first, others⟩
    rw [encode_cons, List.length_append, List.length_cons, ih others, first, List.length_cons,
      Nat.mul_succ, recordLength]
    omega

theorem decodeRecords_encode (sized : Sized proof) (offset : Nat) :
    decodeRecords proof.length offset (encode proof) = .ok proof := by
  induction proof generalizing offset with
  | nil => rfl
  | cons sibling proof ih =>
    rcases List.forall_mem_cons.mp sized with ⟨first, others⟩
    rw [encode_cons, List.length_cons, decodeRecords_of_isFlag first (isFlag_flag _),
      ih others, flag_eq_one]
    rfl

theorem decode_encode (sized : Sized proof) : decode (encode proof) = .ok proof := by
  have positive : 0 < recordLength := Nat.succ_pos _
  rw [decode, length_encode sized, Nat.mul_mod_right, if_neg (fun uneven => uneven rfl),
    Nat.mul_div_cancel_left _ positive, decodeRecords_encode sized]
  rfl

end Encode

inductive Read (data : Bytes) (offset : Nat) : Except ProofFault InclusionProof → Prop
  | ok {proof : InclusionProof} (sized : Sized proof) (written : encode proof = data) :
      Read data offset (.ok proof)
  | fault {record : Nat} {byte : UInt8} (first : FirstFault data record byte) :
      Read data offset (.error (.flag byte (offset + recordLength * record)))

theorem Read.cons {node rest : Bytes} {byte : UInt8} {offset : Nat}
    {result : Except ProofFault InclusionProof} (sized : node.length = digestLength)
    (isFlag : IsFlag byte) (read : Read rest (offset + recordLength) result) :
    Read (node ++ byte :: rest) offset (result.map (⟨node, byte = 1⟩ :: ·)) := by
  cases read with
  | ok others written =>
    refine .ok (List.forall_mem_cons.mpr ⟨sized, others⟩) ?_
    rw [encode_cons, flag_decide isFlag, written]
  | @fault record byte first =>
    have place : offset + recordLength + recordLength * record =
        offset + recordLength * (record + 1) := by
      rw [Nat.mul_succ]
      omega
    rw [place]
    exact .fault (first.succ sized isFlag)

theorem read_decodeRecords {count : Nat} {data : Bytes} (offset : Nat)
    (whole : data.length = recordLength * count) :
    Read data offset (decodeRecords count offset data) := by
  -- The induction takes the record in front off the bytes.
  induction count generalizing data offset with
  | zero =>
    obtain rfl := List.length_eq_zero_iff.mp whole
    exact .ok (List.forall_mem_nil _) rfl
  | succ count ih =>
    rw [Nat.mul_succ] at whole
    have long : recordLength ≤ data.length := by omega
    obtain ⟨node, byte, rest, rfl, sized⟩ := exists_record long
    by_cases isFlag : IsFlag byte
    · rw [List.length_append, List.length_cons, sized] at whole
      rw [decodeRecords_of_isFlag sized isFlag]
      exact (ih _ (by rw [recordLength] at whole ⊢; omega)).cons sized isFlag
    · rw [decodeRecords_of_not_isFlag sized isFlag]
      have first : FirstFault (node ++ byte :: rest) 0 byte := firstFault_zero sized isFlag
      exact .fault first

section Decode

variable {data : Bytes} {proof : InclusionProof} {e e' : Error}

theorem length_eq_mul_div (even : data.length % recordLength = 0) :
    data.length = recordLength * (data.length / recordLength) :=
  (Nat.mul_div_cancel' (Nat.dvd_of_mod_eq_zero even)).symm

theorem decode_cases (data : Bytes) :
    (∃ proof, decode data = .ok proof ∧ Sized proof ∧ encode proof = data) ∨
      ∃ e, decode data = .error e ∧ Refused data e := by
  by_cases even : data.length % recordLength = 0
  · have read := read_decodeRecords 0 (length_eq_mul_div even)
    rw [decode, if_neg (fun uneven => uneven even)]
    cases decoded : decodeRecords (data.length / recordLength) 0 data with
    | ok proof =>
      rw [decoded] at read
      rcases read with ⟨sized, written⟩
      exact .inl ⟨proof, rfl, sized, written⟩
    | error fault =>
      rw [decoded] at read
      rcases read with _ | ⟨first⟩
      rw [Nat.zero_add]
      exact .inr ⟨_, rfl, .flag even first⟩
  · rw [decode, if_pos even]
    exact .inr ⟨_, rfl, .length even⟩

theorem of_decode_eq_ok (ok : decode data = .ok proof) : Sized proof ∧ encode proof = data := by
  rcases decode_cases data with ⟨_, ok', written⟩ | ⟨_, refused, _⟩
  · rw [ok, Except.ok.injEq] at ok'
    exact ok' ▸ written
  · rw [ok] at refused
    cases refused

theorem refused_of_decode_eq_error (error : decode data = .error e) : Refused data e := by
  rcases decode_cases data with ⟨_, ok, _⟩ | ⟨_, error', refused⟩
  · rw [error] at ok
    cases ok
  · rw [error, Except.error.injEq] at error'
    exact error' ▸ refused

theorem isFlag_of_flagAt?_encode (sized : Sized proof) {record : Nat} {byte : UInt8}
    (stored : flagAt? (encode proof) record = some byte) : IsFlag byte := by
  induction proof generalizing record with
  | nil => cases stored
  | cons sibling proof ih =>
    rcases List.forall_mem_cons.mp sized with ⟨first, others⟩
    rw [encode_cons] at stored
    cases record with
    | zero =>
      rw [flagAt?_zero first, Option.some.injEq] at stored
      exact stored ▸ isFlag_flag _
    | succ record =>
      rw [flagAt?_succ first] at stored
      exact ih others stored

theorem exists_decode_iff : (∃ proof, decode data = .ok proof) ↔
    data.length % recordLength = 0 ∧
      ∀ record byte, flagAt? data record = some byte → IsFlag byte := by
  constructor
  · rintro ⟨proof, ok⟩
    rcases of_decode_eq_ok ok with ⟨sized, rfl⟩
    refine ⟨?_, fun record byte => isFlag_of_flagAt?_encode sized⟩
    rw [length_encode sized, Nat.mul_mod_right]
  · rintro ⟨even, flags⟩
    rcases decode_cases data with ⟨proof, ok, _⟩ | ⟨_, _, uneven | ⟨_, first⟩⟩
    · exact ⟨proof, ok⟩
    · exact absurd even uneven
    · exact absurd (flags _ _ first.stored) first.fault

theorem Refused.unique (refused : Refused data e) (refused' : Refused data e') : e = e' := by
  cases refused with
  | length uneven =>
    cases refused' with
    | length => rfl
    | flag even => exact absurd even uneven
  | flag even first =>
    cases refused' with
    | length uneven => exact absurd even uneven
    | flag _ first' =>
      rcases first.unique first' with ⟨rfl, rfl⟩
      rfl

theorem decode_eq_error_iff : decode data = .error e ↔ Refused data e := by
  refine ⟨refused_of_decode_eq_error, fun refused => ?_⟩
  rcases decode_cases data with ⟨proof, ok, _⟩ | ⟨_, error, refused'⟩
  · rcases exists_decode_iff.mp ⟨proof, ok⟩ with ⟨even, flags⟩
    rcases refused with uneven | ⟨_, first⟩
    · exact absurd even uneven
    · exact absurd (flags _ _ first.stored) first.fault
  · rw [error, refused.unique refused']

end Decode

/-- The reader takes back every proof that is written, takes nothing that is not written so, and
refuses the rest for its length, or else for the first flag that is none. -/
theorem decode_exact :
    (∀ proof, Sized proof →
      decode (encode proof) = .ok proof ∧ (encode proof).length = 33 * proof.length) ∧
    ∀ data,
      ((∃ proof, decode data = .ok proof) ↔ data.length % 33 = 0 ∧
        ∀ record byte, data[33 * record + 32]? = some byte → byte = 0 ∨ byte = 1) ∧
      (∀ proof, decode data = .ok proof → Sized proof ∧ encode proof = data) ∧
      ∀ e, decode data = .error e ↔ Refused data e := by
  refine ⟨fun proof sized => ⟨decode_encode sized, length_encode sized⟩, fun data => ?_⟩
  exact ⟨exists_decode_iff, fun _ => of_decode_eq_ok, fun _ => decode_eq_error_iff⟩

theorem decode_exact_two :
    decode (encode [⟨Bytes.zeros 32, true⟩]) = .ok [⟨Bytes.zeros 32, true⟩] ∧
      decode (Bytes.zeros 32 ++ 1 :: (Bytes.zeros 32 ++ 2 :: (Bytes.zeros 32 ++ [3]))) =
        .error (.malformedProof (.flag 2 33)) := by
  have sized : Sized [⟨Bytes.zeros 32, true⟩] := by
    simp [Sized, digestLength]
  refine ⟨(decode_exact.1 _ sized).1, ((decode_exact.2 _).2.2 _).mpr ?_⟩
  have last : FirstFault (Bytes.zeros 32 ++ 2 :: (Bytes.zeros 32 ++ [3])) 0 2 :=
    firstFault_zero (Bytes.length_zeros 32) (by simp [IsFlag])
  exact .flag rfl (last.succ (Bytes.length_zeros 32) (.inr rfl))

end AnchoredSet.Binary
