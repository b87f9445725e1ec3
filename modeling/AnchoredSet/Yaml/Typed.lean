import AnchoredSet.Base64
import AnchoredSet.Text.Lower
import AnchoredSet.Value.Access
import AnchoredSet.Yaml.Cursor
import AnchoredSet.Yaml.Plain

/-!
The scalars that texts write, each as one of the types. Whether a text has the form of its type is
known only where the type comes from the form: with a tag any text can be asked to be of any type.
-/

namespace AnchoredSet.Yaml.Typed

open AnchoredSet.Text (Points)

def ofText (text : String) : Points := .ofChars text.toList

def startsWith (start : String) (points : Points) : Bool := (ofText start).isPrefixOf points

def without (c : Char) (points : Points) : Points := points.filter (· ≠ c.toNat)

def splitSign (points : Points) : Bool × Points :=
  if startsWith "-" points then (true, points.drop 1)
  else if startsWith "+" points then (false, points.drop 1)
  else (false, points)

def colonParts : Points → List Points
  | [] => [[]]
  | x :: rest =>
    if x = ':'.toNat then [] :: colonParts rest
    else match colonParts rest with
      | part :: parts => (x :: part) :: parts
      | [] => [[x]]

def numeral (base : Nat) (points : Points) : Except ScalarFault Int :=
  (Value.readNumeral base (points.map Points.numeralChar) points.quoted).mapError .value

/-- Underscores are left out. Behind a sign a zero leads a number in base 2, 16 or 8, and parts
between colons are in base 60. -/
def integer (points : Points) : Except ScalarFault Int := do
  let kept := without '_' points
  let (negative, body) := splitSign kept
  let size ←
    if body.isEmpty then .error .emptyNumeral
    else if body = ofText "0" then .ok 0
    else if startsWith "0b" body then numeral 2 (body.drop 2)
    else if startsWith "0x" body then numeral 16 (body.drop 2)
    else if startsWith "0" body then numeral 8 body
    else do
      let parts ← (colonParts body).mapM (numeral 10)
      .ok (parts.foldl (fun total part => total * 60 + part) 0)
  return if negative then -size else size

def decimal (points : Points) : Except ScalarFault Double :=
  match Double.read? (points.map Points.numeralChar) with
  | some x => .ok x
  | none => .error (.value (.badDouble points.quoted))

def toFloat (x : Double) : Float := Float.ofBits x.bits

def ofFloat (x : Float) : Double := if x.isNaN then .strayNaN else ⟨x.toBits⟩

/-- Parts between colons, from the last: each counts sixty times the one before, and all are added
up in doubles, as long as the weight of a part is one. -/
def addSixties (total : Float) (weight : Nat) : List Double → Except ScalarFault Double
  | [] => .ok (ofFloat total)
  | part :: rest =>
    let factor := Double.ofDecimal weight 0
    if factor.isInfinite then .error .wideNumber
    else addSixties (total + toFloat part * toFloat factor) (weight * 60) rest

def lowered (points : Points) : Points :=
  match points.chars? with
  | some text => .ofChars (AnchoredSet.Text.lower text)
  | none => points.flatMap fun point =>
    match Points.char? point with
    | some c => Points.ofChars (AnchoredSet.Text.lowerForm c)
    | none => [point]

def double (points : Points) : Except ScalarFault Double := do
  let kept := lowered (without '_' points)
  if kept.isEmpty then throw .emptyNumeral
  let (negative, body) := splitSign kept
  let size ←
    if body = ofText ".inf" then .ok .infinity
    else if body = ofText ".nan" then .ok .nan
    else if (colonParts body).length = 1 then decimal body
    else do addSixties 0.0 1 (← (colonParts body).mapM decimal).reverse
  return size.signed negative

def trueWords : List String := ["yes", "true", "on"]

def falseWords : List String := ["no", "false", "off"]

def truth (points : Points) : Except ScalarFault Bool :=
  let word := lowered points
  if trueWords.any (word = ofText ·) then .ok true
  else if falseWords.any (word = ofText ·) then .ok false
  else .error (.value (.missingKey word.quoted))

def time (points : Points) : Except ScalarFault Scalar :=
  match points.chars?.bind fun text => Timestamp.read? (Plain.withoutBreak text) with
  | some time => time.mapError .calendar
  | none => .error .noTime

def refused (fault : ScalarFault) : Fault := .failure (.scalar fault)

def malformed {α : Type} (reason : String) : Except Fault α := .error (.malformed reason 0 0)

def binary (points : Points) : Except Fault Scalar :=
  match points.chars? with
  | some text =>
    if text.any fun c => 128 ≤ c.toNat then malformed "bytes that are not in ASCII"
    else match Base64.decode text with
      | some data => .ok (.bytes data)
      | none => malformed "bytes that are not complete"
  | none => malformed "bytes that are not in ASCII"

/-- The scalar of a type that a text writes; a word with a meaning of its own is none, and neither
is what the type makes a collection. -/
def read (tag : Tag) (points : Points) : Except Fault Scalar :=
  match tag with
  | .null => .ok .null
  | .bool => ((truth points).map Scalar.bool).mapError refused
  | .int => ((integer points).map Scalar.int).mapError refused
  | .float => ((double points).map Scalar.float).mapError refused
  | .timestamp => (time points).mapError refused
  | .binary => binary points
  | .text => .ok (.ofPoints points)
  | _ => malformed "a tag without a meaning here"

end AnchoredSet.Yaml.Typed
