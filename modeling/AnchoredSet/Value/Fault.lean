import AnchoredSet.Hex

/-!
Why a value of some type does not serve where it is used.
-/

namespace AnchoredSet

inductive ValueFault where
  | notSubscriptable (typeName : String)
  | badIndex (typeName : String)
  | missingKey (shown : String)
  | notIterable (typeName : String)
  | noLookup (typeName : String)
  | notNumber (typeName : String)
  | badNumeral (base : Nat) (shown : String)
  | badDouble (shown : String)
  | longNumeral (digits : Nat)
  | notANumber
  | infinite
  | longInteger
  | notBoolean (shown : String)
  | hex (fault : Hex.Fault)
  deriving DecidableEq, Repr

namespace ValueFault

def indexMessage (typeName : String) : String :=
  if typeName = "str" then "string indices must be integers, not 'str'"
  else if typeName = "bytes" then "byte indices must be integers or slices, not str"
  else if typeName = "memoryview" then "memoryview: invalid slice key"
  else typeName ++ " indices must be integers or slices, not str"

def message : ValueFault → String
  | notSubscriptable typeName => s!"'{typeName}' object is not subscriptable"
  | badIndex typeName => indexMessage typeName
  | missingKey shown => shown
  | notIterable typeName => s!"'{typeName}' object is not iterable"
  | noLookup typeName => s!"'{typeName}' object has no attribute 'get'"
  | notNumber typeName =>
    "int() argument must be a string, a bytes-like object or a real number, not "
      ++ s!"'{typeName}'"
  | badNumeral base shown => s!"invalid literal for int() with base {base}: {shown}"
  | badDouble shown => s!"could not convert string to float: {shown}"
  | longNumeral digits =>
    s!"Exceeds the limit (4300 digits) for integer string conversion: value has {digits} digits; "
      ++ "use sys.set_int_max_str_digits() to increase the limit"
  | notANumber => "cannot convert float NaN to integer"
  | infinite => "cannot convert float infinity to integer"
  | longInteger =>
    "Exceeds the limit (4300 digits) for integer string conversion; "
      ++ "use sys.set_int_max_str_digits() to increase the limit"
  | notBoolean shown => s!"not a boolean: {shown}"
  | hex fault => fault.message

end ValueFault

end AnchoredSet
