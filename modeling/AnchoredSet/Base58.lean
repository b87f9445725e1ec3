import AnchoredSet.Hex
import AnchoredSet.Number.Positional

/-!
Bytes in the 58 letters and digits that are not easily confused. A text writes the number of its
bytes, and each zero byte in front is one leading `1`.
-/

namespace AnchoredSet.Base58

def alphabet : List Char := "123456789ABCDEFGHJKLMNPQRSTUVWXYZabcdefghijkmnopqrstuvwxyz".toList

inductive Fault where
  | notAscii (fault : Text.AsciiFault)
  | badCharacter (c : Char)
  deriving DecidableEq, Repr

def Fault.message : Fault → String
  | .notAscii fault => fault.message
  | .badCharacter c => "Invalid character " ++ Text.quoted (String.singleton c)

def letter (digit : Nat) : Char := alphabet.getD digit '1'

def letterValue? (c : Char) : Option Nat := alphabet.idxOf? c

def encode (data : Bytes) : List Char :=
  let number := data.dropWhile (· == 0)
  let leading := data.length - number.length
  List.replicate leading '1' ++
    (Positional.digits 58 (Positional.ofDigits 256 (number.map UInt8.toNat))).map letter

def readLetters : List Char → Except Fault (List Nat)
  | [] => .ok []
  | c :: rest =>
    match letterValue? c with
    | none => .error (.badCharacter c)
    | some value => (readLetters rest).map (value :: ·)

def decode (text : List Char) : Except Fault Bytes := do
  (Text.requireAscii text).mapError .notAscii
  let number := text.dropWhile (· == '1')
  let leading := text.length - number.length
  let values ← readLetters number
  return Bytes.zeros leading ++
    (Positional.digits 256 (Positional.ofDigits 58 values)).map UInt8.ofNat

def shown (data : Bytes) : String := String.ofList (encode data)

end AnchoredSet.Base58
