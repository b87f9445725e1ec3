import AnchoredSet.Text.Utf8
import AnchoredSet.Yaml.Cursor

/-!
Names in a document: of nodes that are used again, of the types of nodes, and in the directives
before a document.
-/

namespace AnchoredSet.Yaml

structure TagText where
  handle : Option (List Char)
  rest : List Char
  deriving DecidableEq, Repr

inductive Directive where
  | version (major minor : Nat)
  | handle (written meaning : List Char)
  | other
  deriving DecidableEq, Repr

namespace Reading

def isWordChar (x : Char) : Bool := x.isAlphanum || x = '-' || x = '_'

def word : Reading (List Char) := do
  let taken ← run isWordChar
  if taken.isEmpty then fail "no name"
  return taken

def nodeName : Reading (List Char) := do
  skip 1
  let name ← word
  let next ← peek 0
  if endsToken next || next.any "?:,]\x7d%@`".toList.contains then return name
  fail "more behind a name"

/-! Tags. -/

def isUriChar (x : Char) : Bool := x.isAlphanum || "-;/?:@&=+$,_.!~*'()[]".toList.contains x

def percentBytes : Nat → Bytes → Reading Bytes
  | 0, bytes => return bytes.reverse
  | fuel + 1, bytes => do
    if (← peek 0) ≠ some '%' then return bytes.reverse
    skip 1
    match (← peek 0).bind Text.hexValue? with
    | none => fail "no digit behind a percent sign"
    | some high =>
      match (← peek 1).bind Text.hexValue? with
      | none => fail "one digit behind a percent sign"
      | some low =>
        skip 2
        percentBytes fuel (UInt8.ofNat (16 * high + low) :: bytes)

def uriParts : Nat → List (List Char) → Reading (List Char)
  | 0, parts => return parts.reverse.flatten
  | fuel + 1, parts => do
    let taken ← run isUriChar
    if (← peek 0) = some '%' then
      match Text.decodeUtf8 (← percentBytes (← bound) []) with
      | .ok decoded => uriParts fuel (decoded :: taken :: parts)
      | .error _ => fail "percent signs that write no text"
    else return (taken :: parts).reverse.flatten

def uri : Reading (List Char) := do
  let name ← uriParts (← bound) []
  if name.isEmpty then fail "no name of a tag"
  return name

def tagHandle : Reading (List Char) := do
  if (← peek 0) ≠ some '!' then fail "no handle of a tag"
  if (← peek 1) = some ' ' then take 1
  else
    let length := (((← get).rest.drop 1).takeWhile isWordChar).length
    if (← peek (length + 1)) = some '!' then take (length + 2) else fail "an open handle of a tag"

def hasSecondMark : Reading Bool := do
  let length := (((← get).rest.drop 1).takeWhile fun x => !endsMark (some x) && x ≠ '!').length
  return (← peek (length + 1)) = some '!'

def tagText : Reading TagText := do
  let next ← peek 1
  let found ←
    if next = some '<' then do
      skip 2
      let name ← uri
      if (← peek 0) ≠ some '>' then fail "an open tag"
      skip 1
      pure ⟨none, name⟩
    else if endsToken next then do
      skip 1
      pure ⟨none, ['!']⟩
    else if ← hasSecondMark then do
      let handle ← tagHandle
      pure ⟨some handle, ← uri⟩
    else do
      skip 1
      pure ⟨some ['!'], ← uri⟩
  if !endsMark (← peek 0) then fail "more behind a tag"
  return found

/-! Directives. -/

def versionNumber : Reading Nat := do
  let digits ← run Integer.isDigit
  if digits.isEmpty then fail "no version"
  if digits.length > Integer.digitLimit then
    throw (.failure (.scalar (.value (.longNumeral digits.length))))
  return Positional.ofDigits 10 (digits.map Integer.digitValue)

def version : Reading Directive := do
  let _ ← run (· = ' ')
  let major ← versionNumber
  if (← peek 0) ≠ some '.' then fail "no point in a version"
  skip 1
  let minor ← versionNumber
  if !endsMark (← peek 0) then fail "more behind a version"
  return .version major minor

def handleMeaning : Reading Directive := do
  let _ ← run (· = ' ')
  let handle ← tagHandle
  if (← peek 0) ≠ some ' ' then fail "no meaning of a handle"
  let _ ← run (· = ' ')
  let meaning ← uri
  if !endsMark (← peek 0) then fail "more behind the meaning of a handle"
  return .handle handle meaning

def directive : Reading Directive := do
  skip 1
  let name ← word
  if !endsMark (← peek 0) then fail "more behind the name of a directive"
  let found ←
    if name = "YAML".toList then version
    else if name = "TAG".toList then handleMeaning
    else do
      let _ ← run fun x => !isBreak x
      pure .other
  restOfLine
  return found

end Reading

end AnchoredSet.Yaml
