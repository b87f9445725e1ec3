import AnchoredSet.Base58
import AnchoredSet.Number.Integer
import AnchoredSet.Text.Points
import AnchoredSet.Value.Fault
import AnchoredSet.Value.Moment

/-!
What can go wrong, by cause, and the words for it. Every error has a kind, and the kinds form a
tree: a caller that handles a kind handles all kinds below it.
-/

namespace AnchoredSet

inductive IdentifierFault where
  | unsupportedType (typeName : String)
  | wrongLength (expected : Int) (actual : Nat)
  | hex (shown : String) (fault : Hex.Fault)
  | base58 (shown : String) (fault : Base58.Fault)
  deriving DecidableEq, Repr

inductive ProofFault where
  | element (shown : String) (cause : Option ValueFault)
  | exclusion (cause : ValueFault)
  | length (length : Nat)
  | flag (flag : UInt8) (offset : Nat)
  | neighbor (cause : IdentifierFault)
  | rootText (shown : String) (fault : Hex.Fault)
  | rootType (typeName : String)
  deriving DecidableEq, Repr

inductive SettingsFault where
  | unparsable (path : String) (reason : String)
  | directory (path : String)
  | notMapping (path : String)
  | value (cause : ValueFault)
  | length (length : Int)
  | level (level : String)
  deriving DecidableEq, Repr

inductive Error where
  | duplicateLeaf (identifier : Bytes)
  | zeroLeaf
  | leafNotFound (identifier : Bytes)
  | leafAlreadyPresent (identifier : Bytes)
  | invalidIdentifier (fault : IdentifierFault)
  | proofNeighborMismatch (proofs neighbors : Nat)
  | invalidProofCount (count : Nat)
  | malformedProof (fault : ProofFault)
  | corruptTree (expected : Bytes) (level index : Nat)
  | invalidSettings (fault : SettingsFault)
  | value (fault : ValueFault)
  | utf8 (fault : Text.Utf8Fault)
  | halves (fault : Text.Points.HalfFault)
  | negativeCount
  | wideCount
  | longCount
  | wideIndex
  | leafIndex
  | levelIndex
  | nodeIndex
  | unknownLevel (level : String)
  | noLevel (shown : String)
  | emptyNumeral
  | noTime
  | notText (typeName : String)
  | nesting
  | nestingShown
  | codePoint (code : Nat)
  | calendar (fault : CalendarFault)
  | wideNumber
  deriving DecidableEq, Repr

inductive Kind where
  | any
  | leaf
  | duplicateLeaf
  | zeroLeaf
  | leafNotFound
  | leafAlreadyPresent
  | invalidIdentifier
  | proof
  | proofNeighborMismatch
  | invalidProofCount
  | malformedProof
  | corruptTree
  | settings
  | invalidSettings
  deriving DecidableEq, Repr

namespace Kind

def chain : Kind → List Kind
  | any => [any]
  | leaf => [leaf, any]
  | duplicateLeaf => [duplicateLeaf, leaf, any]
  | zeroLeaf => [zeroLeaf, leaf, any]
  | leafNotFound => [leafNotFound, leaf, any]
  | leafAlreadyPresent => [leafAlreadyPresent, leaf, any]
  | invalidIdentifier => [invalidIdentifier, leaf, any]
  | proof => [proof, any]
  | proofNeighborMismatch => [proofNeighborMismatch, proof, any]
  | invalidProofCount => [invalidProofCount, proof, any]
  | malformedProof => [malformedProof, proof, any]
  | corruptTree => [corruptTree, any]
  | settings => [settings, any]
  | invalidSettings => [invalidSettings, settings, any]

end Kind

def IdentifierFault.message : IdentifierFault → String
  | unsupportedType typeName => s!"Unsupported identifier type {typeName}"
  | wrongLength expected actual =>
    s!"Identifier must be {Integer.decimal expected} bytes, got {actual}"
  | hex shown fault => s!"Invalid hex identifier {shown}: {fault.message}"
  | base58 shown fault => s!"Invalid base58 identifier {shown}: {fault.message}"

/-- The error by which a cause is told. Where the length in its message has too many digits to be
shown, that is the error. -/
def IdentifierFault.raise (tell : IdentifierFault → Error) : IdentifierFault → Error
  | wrongLength expected actual =>
    if (Integer.render? expected).isSome then tell (wrongLength expected actual)
    else .value .longInteger
  | fault => tell fault

def ProofFault.message : ProofFault → String
  | element shown none => s!"Invalid proof element {shown}"
  | element shown (some cause) => s!"Invalid proof element {shown}: {cause.message}"
  | exclusion cause => s!"Invalid exclusion proof: {cause.message}"
  | length size => s!"Proof length {size} is not a multiple of 33"
  | flag byte offset => s!"Invalid on_right flag {byte.toNat} at offset {offset}"
  | neighbor cause => s!"Invalid exclusion neighbor: {cause.message}"
  | rootText shown fault => s!"Invalid root {shown}: {fault.message}"
  | rootType typeName => s!"Unsupported root type {typeName}"

def SettingsFault.message : SettingsFault → String
  | unparsable path reason => s!"Failed to parse YAML configuration file '{path}': {reason}"
  | directory path =>
    s!"Failed to read configuration file '{path}': [Errno 21] Is a directory: "
      ++ Text.quoted path
  | notMapping path => s!"Configuration file '{path}' must contain a mapping at the top level"
  | value cause => s!"Invalid configuration value: {cause.message}"
  | length given => s!"identifier_length must be positive, got {Integer.decimal given}"
  | level given =>
    s!"Invalid log level '{given}'. Must be one of: DEBUG, INFO, WARNING, ERROR, CRITICAL"

namespace Error

def message : Error → String
  | duplicateLeaf identifier => s!"Identifier {Hex.marked identifier} is already a member"
  | zeroLeaf => "The all-zero identifier cannot be a member"
  | leafNotFound identifier => s!"Identifier {Hex.marked identifier} is not in the leaf set"
  | leafAlreadyPresent identifier =>
    s!"Identifier {Hex.marked identifier} is a member; no exclusion proof exists"
  | invalidIdentifier fault => fault.message
  | proofNeighborMismatch proofs neighbors => s!"Got {proofs} proofs for {neighbors} neighbors"
  | invalidProofCount count =>
    s!"Exclusion proof must contain one or two proofs, got {count}"
  | malformedProof fault => fault.message
  | corruptTree expected level index =>
    s!"Node {Hex.marked expected} not found at level {level} index {index}"
  | invalidSettings fault => fault.message
  | value fault => fault.message
  | utf8 fault => fault.message
  | halves fault => fault.message
  | negativeCount => "negative count"
  | wideCount => "cannot fit 'int' into an index-sized integer"
  | longCount => "byte string is too large"
  | wideIndex => "cannot fit 'int' into an index-sized integer"
  | leafIndex => "tuple index out of range"
  | levelIndex => "list index out of range"
  | nodeIndex => "list assignment index out of range"
  | unknownLevel level => s!"Unknown level: {Text.quoted level}"
  | noLevel shown => s!"Level not an integer or a valid string: {shown}"
  | emptyNumeral => "string index out of range"
  | noTime => "'NoneType' object has no attribute 'groupdict'"
  | notText typeName => s!"expected string or bytes-like object, got '{typeName}'"
  | nesting => "maximum recursion depth exceeded"
  | nestingShown =>
    "maximum recursion depth exceeded while getting the repr of an object"
  | codePoint code =>
    if code < 0x80000000 then "chr() arg not in range(0x110000)"
    else "Python int too large to convert to C int"
  | calendar fault => fault.message
  | wideNumber => "int too large to convert to float"

def kind? : Error → Option Kind
  | duplicateLeaf _ => some .duplicateLeaf
  | zeroLeaf => some .zeroLeaf
  | leafNotFound _ => some .leafNotFound
  | leafAlreadyPresent _ => some .leafAlreadyPresent
  | invalidIdentifier _ => some .invalidIdentifier
  | proofNeighborMismatch _ _ => some .proofNeighborMismatch
  | invalidProofCount _ => some .invalidProofCount
  | malformedProof _ => some .malformedProof
  | corruptTree _ _ _ => some .corruptTree
  | invalidSettings _ => some .invalidSettings
  | _ => none

def isA (error : Error) (kind : Kind) : Bool :=
  error.kind?.any fun narrowest => narrowest.chain.contains kind

end Error

end AnchoredSet
