import AnchoredSet.Hash

/-!
Proofs. An inclusion proof lists the siblings from the leaf up to the root; an exclusion proof
holds one inclusion proof for each neighbor of the absent identifier.
-/

namespace AnchoredSet

/-- A sibling, and whether it is the right operand where the two are joined. -/
structure Sibling where
  node : Bytes
  onRight : Bool
  deriving DecidableEq, Repr

abbrev InclusionProof := List Sibling

structure ExclusionProof where
  proofs : List InclusionProof
  neighbors : List Bytes
  deriving DecidableEq, Repr

end AnchoredSet
