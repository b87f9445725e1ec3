import AnchoredSet.Bytes
import AnchoredSet.Number.Positional

/-!
Bytes in characters of 64 values: four characters for three bytes, and two or three with `=` behind
them for what is left.
-/

namespace AnchoredSet.Base64

def alphabet : List Char :=
  "ABCDEFGHIJKLMNOPQRSTUVWXYZabcdefghijklmnopqrstuvwxyz0123456789+/".toList

def value? (c : Char) : Option Nat := alphabet.idxOf? c

def groupBytes (group : List Nat) : Bytes :=
  let n := Positional.ofDigits 64 (group ++ List.replicate (4 - group.length) 0)
  ([n / 65536, n / 256 % 256, n % 256].take (group.length - 1)).map UInt8.ofNat

/-- Reads behind the values of a group and some padding. A group that padding fills ends the bytes;
characters without a value are passed over. -/
def decodeFrom (group : List Nat) (padding : Nat) : List Char → Option Bytes
  | [] => if group.isEmpty then some [] else none
  | c :: rest =>
    if c = '=' then
      if group.length < 2 then decodeFrom group padding rest
      else if group.length + padding < 3 then decodeFrom group (padding + 1) rest
      else some (groupBytes group)
    else match value? c with
      | none => decodeFrom group padding rest
      | some value =>
        if group.length < 3 then decodeFrom (group ++ [value]) 0 rest
        else (decodeFrom [] 0 rest).map (groupBytes (group ++ [value]) ++ ·)

def decode (text : List Char) : Option Bytes := decodeFrom [] 0 text

end AnchoredSet.Base64
