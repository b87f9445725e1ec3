import AnchoredSet.Text.Utf8

/-!
Text files. The bytes are read in blocks and every block is decoded by itself, with what the block
before held back in front of it; the place of a fault counts from there. The characters are asked
for in portions of 4096, and a fault loses the block it is in.
-/

namespace AnchoredSet.Text

def unifyLines : List Char → List Char
  | [] => []
  | '\r' :: '\n' :: rest => '\n' :: unifyLines rest
  | '\r' :: rest => '\n' :: unifyLines rest
  | c :: rest => c :: unifyLines rest

/-- The characters of a file up to the block that cannot be read, if there is one. -/
structure FileText where
  chars : List Char
  fault : Option Utf8Fault
  deriving Repr

namespace FileText

def portion : Nat := 4096

def smallestBlock : Nat := 8192

/-- How many bytes are read at once, to get what is left of a portion if characters take as many
bytes as in the block before. -/
def blockSize (bytes chars left : Nat) : Nat := max smallestBlock (bytes * left / chars)

theorem blockSize_pos (bytes chars left : Nat) : 0 < blockSize bytes chars left :=
  Nat.lt_of_lt_of_le (by decide) (Nat.le_max_left smallestBlock _)

def splitReturn (text : List Char) : List Char × List Char :=
  if text.getLast? = some '\r' then (text.dropLast, ['\r']) else (text, [])

def readBlocks (bytes chars count : Nat) (seen : Bytes) (held : List Char) (data : Bytes) :
    FileText :=
  if data.isEmpty then
    match readUtf8 true 0 [] none seen with
    | .error fault => ⟨[], some fault⟩
    | .ok (text, _) => ⟨unifyLines (held ++ text), none⟩
  else
    let size := blockSize bytes chars (portion - count % portion)
    let block := data.take size
    match readUtf8 false 0 [] none (seen ++ block) with
    | .error fault => ⟨[], some fault⟩
    | .ok (text, seen) =>
      let (text, held) := splitReturn (held ++ text)
      let lines := unifyLines text
      let rest :=
        readBlocks block.length lines.length (count + lines.length) seen held (data.drop size)
      ⟨lines ++ rest.chars, rest.fault⟩
termination_by data.length
decreasing_by
  have := List.length_pos_iff.mpr (mt List.isEmpty_iff.mpr ‹¬data.isEmpty = true›)
  have := blockSize_pos bytes chars (portion - count % portion)
  simp only [List.length_drop]
  omega

def ofBytes (data : Bytes) : FileText := readBlocks 0 0 0 [] [] data

/-- Where the portion with a place starts. The first two portions are taken together. -/
def portionStart (place : Nat) : Nat :=
  if place < 2 * portion then 0 else place - place % portion

end FileText

end AnchoredSet.Text
