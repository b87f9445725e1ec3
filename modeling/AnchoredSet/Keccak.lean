import AnchoredSet.Bytes

/-!
Keccak-256: a sponge of five planes of five 64-bit lanes that takes 136 bytes a block and gives 32
bytes. A message is closed by a byte of value 1 and a last byte of value 128 (one byte of value
129 where there is room for one only).
-/

namespace AnchoredSet.Keccak

structure Plane where
  a : UInt64
  b : UInt64
  c : UInt64
  d : UInt64
  e : UInt64
  deriving DecidableEq, Repr

structure State where
  first : Plane
  second : Plane
  third : Plane
  fourth : Plane
  fifth : Plane
  deriving DecidableEq, Repr

def Plane.xor (p q : Plane) : Plane :=
  ⟨p.a ^^^ q.a, p.b ^^^ q.b, p.c ^^^ q.c, p.d ^^^ q.d, p.e ^^^ q.e⟩

def State.xor (s t : State) : State :=
  ⟨s.first.xor t.first, s.second.xor t.second, s.third.xor t.third, s.fourth.xor t.fourth,
    s.fifth.xor t.fifth⟩

def State.ofLanes (lane : Nat → UInt64) : State :=
  ⟨⟨lane 0, lane 1, lane 2, lane 3, lane 4⟩,
   ⟨lane 5, lane 6, lane 7, lane 8, lane 9⟩,
   ⟨lane 10, lane 11, lane 12, lane 13, lane 14⟩,
   ⟨lane 15, lane 16, lane 17, lane 18, lane 19⟩,
   ⟨lane 20, lane 21, lane 22, lane 23, lane 24⟩⟩

def rotate (word amount : UInt64) : UInt64 := word <<< amount ||| word >>> (64 - amount)

def theta (s : State) : State :=
  let p := s.first.xor (s.second.xor (s.third.xor (s.fourth.xor s.fifth)))
  let sides : Plane :=
    ⟨p.e ^^^ rotate p.b 1, p.a ^^^ rotate p.c 1, p.b ^^^ rotate p.d 1, p.c ^^^ rotate p.e 1,
      p.d ^^^ rotate p.a 1⟩
  s.xor ⟨sides, sides, sides, sides, sides⟩

def rhoPi (s : State) : State :=
  ⟨⟨s.first.a, rotate s.second.b 44, rotate s.third.c 43, rotate s.fourth.d 21,
      rotate s.fifth.e 14⟩,
   ⟨rotate s.first.d 28, rotate s.second.e 20, rotate s.third.a 3, rotate s.fourth.b 45,
      rotate s.fifth.c 61⟩,
   ⟨rotate s.first.b 1, rotate s.second.c 6, rotate s.third.d 25, rotate s.fourth.e 8,
      rotate s.fifth.a 18⟩,
   ⟨rotate s.first.e 27, rotate s.second.a 36, rotate s.third.b 10, rotate s.fourth.c 15,
      rotate s.fifth.d 56⟩,
   ⟨rotate s.first.c 62, rotate s.second.d 55, rotate s.third.e 39, rotate s.fourth.a 41,
      rotate s.fifth.b 2⟩⟩

def Plane.chi (p : Plane) : Plane :=
  ⟨p.a ^^^ (~~~p.b &&& p.c), p.b ^^^ (~~~p.c &&& p.d), p.c ^^^ (~~~p.d &&& p.e),
    p.d ^^^ (~~~p.e &&& p.a), p.e ^^^ (~~~p.a &&& p.b)⟩

def chi (s : State) : State :=
  ⟨s.first.chi, s.second.chi, s.third.chi, s.fourth.chi, s.fifth.chi⟩

def round (s : State) (constant : UInt64) : State :=
  let s := chi (rhoPi (theta s))
  { s with first := { s.first with a := s.first.a ^^^ constant } }

def roundConstants : List UInt64 :=
  [0x0000000000000001, 0x0000000000008082, 0x800000000000808A, 0x8000000080008000,
   0x000000000000808B, 0x0000000080000001, 0x8000000080008081, 0x8000000000008009,
   0x000000000000008A, 0x0000000000000088, 0x0000000080008009, 0x000000008000000A,
   0x000000008000808B, 0x800000000000008B, 0x8000000000008089, 0x8000000000008003,
   0x8000000000008002, 0x8000000000000080, 0x000000000000800A, 0x800000008000000A,
   0x8000000080008081, 0x8000000000008080, 0x0000000080000001, 0x8000000080008008]

def permute (s : State) : State := roundConstants.foldl round s

def rate : Nat := 136

def pad (message : Bytes) : Bytes :=
  let gap := rate - message.length % rate
  if gap = 1 then message ++ [0x81]
  else message ++ 0x01 :: (Bytes.zeros (gap - 2) ++ [0x80])

def wordOf (data : Bytes) : UInt64 := data.foldr (fun byte high => high <<< 8 ||| byte.toUInt64) 0

def bytesOf (word : UInt64) : Bytes :=
  [word.toUInt8, (word >>> 8).toUInt8, (word >>> 16).toUInt8, (word >>> 24).toUInt8,
   (word >>> 32).toUInt8, (word >>> 40).toUInt8, (word >>> 48).toUInt8, (word >>> 56).toUInt8]

/-- A block fills the first seventeen lanes; the words past its end are zero. -/
def absorb (s : State) (block : Bytes) : State :=
  permute (s.xor (State.ofLanes fun i => wordOf ((block.drop (8 * i)).take 8)))

def absorbBlocks : (count : Nat) → State → Bytes → State
  | 0, s, _ => s
  | count + 1, s, data => absorbBlocks count (absorb s (data.take rate)) (data.drop rate)

def zero : State := State.ofLanes fun _ => 0

def squeeze (s : State) : Bytes :=
  bytesOf s.first.a ++ bytesOf s.first.b ++ bytesOf s.first.c ++ bytesOf s.first.d

end AnchoredSet.Keccak

namespace AnchoredSet

def keccak256 (message : Bytes) : Bytes :=
  let padded := Keccak.pad message
  Keccak.squeeze (Keccak.absorbBlocks (padded.length / Keccak.rate) Keccak.zero padded)

@[simp] theorem length_keccak256 (message : Bytes) : (keccak256 message).length = 32 := rfl

end AnchoredSet
