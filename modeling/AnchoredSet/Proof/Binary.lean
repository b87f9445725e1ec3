import AnchoredSet.Error
import AnchoredSet.Proof

/-!
Inclusion proofs as records of 33 bytes: the sibling's digest, then 1 if it is the right operand
and 0 if it is the left one.
-/

namespace AnchoredSet.Binary

def recordLength : Nat := digestLength + 1

def flag (onRight : Bool) : UInt8 := if onRight then 1 else 0

def encode (proof : InclusionProof) : Bytes :=
  proof.flatMap fun sibling => sibling.node ++ [flag sibling.onRight]

def decodeRecord (data : Bytes) (offset : Nat) : Except ProofFault Sibling :=
  let flag := data.getD digestLength 0
  if flag = 0 ∨ flag = 1 then .ok ⟨data.take digestLength, flag = 1⟩
  else .error (.flag flag offset)

def decodeRecords : (count offset : Nat) → Bytes → Except ProofFault InclusionProof
  | 0, _, _ => .ok []
  | count + 1, offset, data => do
    let sibling ← decodeRecord data offset
    return sibling :: (← decodeRecords count (offset + recordLength) (data.drop recordLength))

/-- The length is tested before any flag, and the flags from the front. -/
def decode (data : Bytes) : Except Error InclusionProof :=
  if data.length % recordLength ≠ 0 then .error (.malformedProof (.length data.length))
  else (decodeRecords (data.length / recordLength) 0 data).mapError .malformedProof

end AnchoredSet.Binary
