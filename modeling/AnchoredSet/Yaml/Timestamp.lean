import AnchoredSet.Value
import AnchoredSet.Yaml.Text

/-!
Plain scalars that write a day, or a day and a time with the distance from the common time behind
it. Without a tag a day alone has two digits for the month and for the day.
-/

namespace AnchoredSet.Yaml.Timestamp

open AnchoredSet.Integer (isDigit digitValue)

def number (digits : List Char) : Nat := Positional.ofDigits 10 (digits.map digitValue)

def take? (least most : Nat) (text : List Char) : Option (Nat × List Char) :=
  let digits := (text.take most).takeWhile isDigit
  if digits.length < least then none else some (number digits, text.drop digits.length)

def pass? (c : Char) : List Char → Option (List Char)
  | x :: rest => if x = c then some rest else none
  | [] => none

def date? (least : Nat) (text : List Char) : Option (Date × List Char) := do
  let (year, rest) ← take? 4 4 text
  let (month, rest) ← take? least 2 (← pass? '-' rest)
  let (day, rest) ← take? least 2 (← pass? '-' rest)
  return (⟨year, month, day⟩, rest)

def separator? : List Char → Option (List Char)
  | x :: rest =>
    if x = 'T' || x = 't' then some rest
    else if isSpace x then some (rest.dropWhile isSpace)
    else none
  | [] => none

def micro (digits : List Char) : Nat :=
  let kept := digits.take 6
  number (kept ++ List.replicate (6 - kept.length) '0')

def fraction (text : List Char) : Nat × List Char :=
  match text with
  | '.' :: rest => (micro (rest.takeWhile isDigit), rest.dropWhile isDigit)
  | rest => (0, rest)

/-- The distance that ends a text: none, a letter for none from the common time, or hours and
minutes with a sign. -/
def offset? (text : List Char) : Option (Option Int) :=
  match text with
  | [] => some none
  | _ =>
    match text.dropWhile isSpace with
    | ['Z'] => some (some 0)
    | sign :: rest =>
      if sign = '+' || sign = '-' then do
        let (hours, rest) ← take? 1 2 rest
        let (minutes, rest) ← match rest with
          | ':' :: rest => take? 2 2 rest
          | rest => some (0, rest)
        if rest.isEmpty then
          some (some (Integer.signed (sign = '-') (hours * 3600 + minutes * 60)))
        else none
      else none
    | [] => none

def moment? (text : List Char) : Option Moment := do
  let (date, rest) ← date? 1 text
  let (hour, rest) ← take? 1 2 (← separator? rest)
  let (minute, rest) ← take? 2 2 (← pass? ':' rest)
  let (second, rest) ← take? 2 2 (← pass? ':' rest)
  let (micro, rest) := fraction rest
  return ⟨date, hour, minute, second, micro, ← offset? rest⟩

def isTime (text : List Char) : Bool :=
  (moment? text).isSome || (date? 2 text).any fun (_, rest) => rest.isEmpty

def read? (text : List Char) : Option (Except CalendarFault Scalar) :=
  match date? 1 text, moment? text with
  | some (date, []), _ => some (date.check.map fun _ => .date date)
  | _, some moment => some (moment.check.map fun _ => .moment moment)
  | _, none => none

end AnchoredSet.Yaml.Timestamp
