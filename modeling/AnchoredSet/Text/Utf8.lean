import AnchoredSet.Bytes
import AnchoredSet.Text.Digit

/-!
Strict UTF-8: what bytes say as text, or the first place where they say nothing.
-/

namespace AnchoredSet.Text

inductive Utf8Reason where
  | invalidStart
  | invalidContinuation
  | unexpectedEnd
  deriving DecidableEq, Repr

structure Utf8Fault where
  start : Nat
  bytes : Bytes
  reason : Utf8Reason
  deriving DecidableEq, Repr

def Utf8Reason.message : Utf8Reason → String
  | .invalidStart => "invalid start byte"
  | .invalidContinuation => "invalid continuation byte"
  | .unexpectedEnd => "unexpected end of data"

def Utf8Fault.message (fault : Utf8Fault) : String :=
  let subject := match fault.bytes with
    | [byte] =>
      s!"byte 0x{String.ofList (hexDigits 2 byte.toNat)} in position {fault.start}"
    | bytes => s!"bytes in position {fault.start}-{fault.start + bytes.length - 1}"
  "'utf-8' codec can't decode " ++ subject ++ ": " ++ fault.reason.message

def continuation? (byte : UInt8) : Option (Nat × UInt8 × UInt8) :=
  if 0xC2 ≤ byte ∧ byte ≤ 0xDF then some (1, 0x80, 0xBF)
  else if byte = 0xE0 then some (2, 0xA0, 0xBF)
  else if byte = 0xED then some (2, 0x80, 0x9F)
  else if 0xE1 ≤ byte ∧ byte ≤ 0xEF then some (2, 0x80, 0xBF)
  else if byte = 0xF0 then some (3, 0x90, 0xBF)
  else if byte = 0xF4 then some (3, 0x80, 0x8F)
  else if 0xF1 ≤ byte ∧ byte ≤ 0xF3 then some (3, 0x80, 0xBF)
  else none

/-- A character that has begun: its bytes so far (last first), its code so far, the bytes it still
wants and the range of the next of them. -/
structure Pending where
  seen : Bytes
  code : Nat
  missing : Nat
  low : UInt8
  high : UInt8

def leadBits (missing : Nat) (byte : UInt8) : Nat := byte.toNat % (64 >>> missing)

/-- Reads from place `i` on, given the characters so far (last first) and the one that has begun.
Where more bytes follow, a character cut off by the end is held back, and so are the first two bytes
of one that would be half a surrogate pair; the bytes held back are given with the characters. -/
def readUtf8 (isLast : Bool) (i : Nat) (read : List Char) (pending : Option Pending) :
    Bytes → Except Utf8Fault (List Char × Bytes)
  | [] =>
    match pending with
    | none => .ok (read.reverse, [])
    | some p =>
      if isLast then .error ⟨i - p.seen.length, p.seen.reverse, .unexpectedEnd⟩
      else .ok (read.reverse, p.seen.reverse)
  | byte :: rest =>
    match pending with
    | none =>
      if byte < 0x80 then readUtf8 isLast (i + 1) (Char.ofNat byte.toNat :: read) none rest
      else match continuation? byte with
        | none => .error ⟨i, [byte], .invalidStart⟩
        | some (missing, low, high) =>
          readUtf8 isLast (i + 1) read
            (some ⟨[byte], leadBits missing byte, missing, low, high⟩) rest
    | some p =>
      if p.low ≤ byte ∧ byte ≤ p.high then
        let code := p.code * 64 + byte.toNat % 64
        if p.missing ≤ 1 then readUtf8 isLast (i + 1) (Char.ofNat code :: read) none rest
        else
          readUtf8 isLast (i + 1) read
            (some ⟨byte :: p.seen, code, p.missing - 1, 0x80, 0xBF⟩) rest
      else if !isLast && rest.isEmpty && p.seen = [0xED] && 0xA0 ≤ byte && byte ≤ 0xBF then
        .ok (read.reverse, [0xED, byte])
      else .error ⟨i - p.seen.length, p.seen.reverse, .invalidContinuation⟩

def decodeUtf8 (data : Bytes) : Except Utf8Fault (List Char) :=
  (readUtf8 true 0 [] none data).map Prod.fst

end AnchoredSet.Text
