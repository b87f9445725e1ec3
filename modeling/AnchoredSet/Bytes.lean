/-!
Byte strings. They are ordered byte by byte from the front, and a proper beginning of a string is
below it; on strings of one length this is the order of the numbers they write in base 256.
-/

namespace AnchoredSet

abbrev Bytes := List UInt8

namespace Bytes

def zeros (count : Nat) : Bytes := List.replicate count 0

def isZero (data : Bytes) : Bool := data.all (· == 0)

@[simp] theorem length_zeros (count : Nat) : (zeros count).length = count := by
  simp [zeros]

theorem isZero_iff {data : Bytes} : isZero data = true ↔ ∀ byte ∈ data, byte = 0 := by
  simp [isZero]

@[simp] theorem isZero_zeros (count : Nat) : isZero (zeros count) = true := by
  simp [isZero_iff, zeros]

end Bytes

end AnchoredSet
