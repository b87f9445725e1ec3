import AnchoredSet.Bytes
import AnchoredSet.Text.Digit
import AnchoredSet.Text.Printable

/-!
Texts and byte strings as they are shown in messages: between quotes, with a backslash in front
of what would be misread.
-/

namespace AnchoredSet.Text

def apostrophe : Char := Char.ofNat 39

def quotationMark : Char := Char.ofNat 34

/-- The apostrophe, unless the text holds one and no quotation mark. -/
def chooseQuote (text : List Char) : Char :=
  if text.contains apostrophe && !text.contains quotationMark then quotationMark else apostrophe

def escapeCode (n : Nat) : List Char :=
  if n < 0x100 then '\\' :: 'x' :: hexDigits 2 n
  else if n < 0x10000 then '\\' :: 'u' :: hexDigits 4 n
  else '\\' :: 'U' :: hexDigits 8 n

def escape (quote c : Char) : List Char :=
  if c = quote ∨ c = '\\' then ['\\', c]
  else if c = '\n' then ['\\', 'n']
  else if c = '\r' then ['\\', 'r']
  else if c = '\t' then ['\\', 't']
  else if isPrintable c then [c]
  else escapeCode c.toNat

def quoteChars (text : List Char) : List Char :=
  let quote := chooseQuote text
  quote :: text.flatMap (escape quote) ++ [quote]

def quoted (text : String) : String := String.ofList (quoteChars text.toList)

def escapeByte (quote : Char) (byte : UInt8) : List Char :=
  if byte < 0x7F then escape quote (Char.ofNat byte.toNat) else escapeCode byte.toNat

def asciiChars (data : Bytes) : List Char := data.map fun byte => Char.ofNat byte.toNat

def quotedBytes (data : Bytes) : String :=
  let quote := chooseQuote (asciiChars data)
  String.ofList ('b' :: quote :: data.flatMap (escapeByte quote) ++ [quote])

/-- Of a buffer that can change, an apostrophe is escaped whatever the quote is. -/
def quotedBuffer (data : Bytes) : String :=
  let quote := chooseQuote (asciiChars data)
  let inside := data.flatMap fun byte =>
    if byte = 39 then ['\\', apostrophe]
    else if byte = 34 then [quotationMark]
    else escapeByte quote byte
  "bytearray(" ++ String.ofList ('b' :: quote :: inside ++ [quote]) ++ ")"

end AnchoredSet.Text
