import AnchoredSet.Error
import AnchoredSet.Proof

/-!
Verification against a root alone: a proof is folded from the leaf up, and the fold tells the root
it leads to, the place of the leaf, and whether the path kept to the right edge.
-/

namespace AnchoredSet

/-- How far a proof is folded: the hash so far, the weight of the next step in the position, the
position so far, and whether no real right sibling was met. -/
structure Fold where
  hash : Bytes
  weight : Nat
  position : Nat
  rightmost : Bool
  deriving DecidableEq, Repr

namespace Fold

def start (identifier : Bytes) : Fold := ⟨hashLeaf identifier, 1, 0, true⟩

/-- Joins the next sibling. A sibling equal to the hash so far is the node paired with itself, and
counts as a step from the left child on either side. -/
def step (fold : Fold) (sibling : Sibling) : Fold :=
  let own := sibling.node = fold.hash
  if sibling.onRight then
    { hash := hashNode fold.hash sibling.node
      weight := 2 * fold.weight
      position := fold.position
      rightmost := fold.rightmost && own }
  else
    { hash := hashNode sibling.node fold.hash
      weight := 2 * fold.weight
      position := if own then fold.position else fold.position + fold.weight
      rightmost := fold.rightmost }

def run (identifier : Bytes) (proof : InclusionProof) : Fold := proof.foldl step (start identifier)

def stepText (fold : Fold) (sibling : Sibling) : Bytes :=
  if sibling.onRight then nodeText fold.hash sibling.node else nodeText sibling.node fold.hash

def stepTexts (fold : Fold) : InclusionProof → List Bytes
  | [] => []
  | sibling :: rest => fold.stepText sibling :: (fold.step sibling).stepTexts rest

def texts (identifier : Bytes) (proof : InclusionProof) : List Bytes :=
  leafText identifier :: (start identifier).stepTexts proof

end Fold

def computeRoot (identifier : Bytes) (proof : InclusionProof) : Bytes :=
  (Fold.run identifier proof).hash

def leafPosition (identifier : Bytes) (proof : InclusionProof) : Nat :=
  (Fold.run identifier proof).position

def isRightmost (identifier : Bytes) (proof : InclusionProof) : Bool :=
  (Fold.run identifier proof).rightmost

def verifyInclusion (identifier : Bytes) (proof : InclusionProof) (root : Bytes) : Bool :=
  computeRoot identifier proof = root

/-- One neighbor: the placeholder of an empty set, the first member above the identifier, or the
last member below it. -/
def verifyOutside (identifier neighbor : Bytes) (proof : InclusionProof) (root : Bytes) : Bool :=
  if neighbor.length ≠ identifier.length then false
  else if neighbor.isZero && proof.isEmpty then hashLeaf neighbor = root
  else if computeRoot neighbor proof ≠ root then false
  else if identifier < neighbor then leafPosition neighbor proof = 0
  else if neighbor < identifier then isRightmost neighbor proof
  else false

def verifyBetween (identifier lower upper : Bytes) (lowerProof upperProof : InclusionProof)
    (root : Bytes) : Bool :=
  decide (lower.length = identifier.length) && decide (upper.length = identifier.length)
    && decide (lowerProof.length = upperProof.length)
    && decide (lower < identifier) && decide (identifier < upper)
    && decide (computeRoot lower lowerProof = root)
    && decide (computeRoot upper upperProof = root)
    && decide (leafPosition upper upperProof = leafPosition lower lowerProof + 1)

/-- A proof that does not fit is false; only numbers of proofs and neighbors that cannot be are
errors. -/
def verifyExclusion (identifier : Bytes) (proofs : List InclusionProof) (neighbors : List Bytes)
    (root : Bytes) : Except Error Bool :=
  match proofs, neighbors with
  | [proof], [neighbor] => .ok (verifyOutside identifier neighbor proof root)
  | [lowerProof, upperProof], [lower, upper] =>
    .ok (verifyBetween identifier lower upper lowerProof upperProof root)
  | proofs, neighbors =>
    if proofs.length = neighbors.length then .error (.invalidProofCount proofs.length)
    else .error (.proofNeighborMismatch proofs.length neighbors.length)

def exclusionTexts (proofs : List InclusionProof) (neighbors : List Bytes) : List Bytes :=
  (List.zip neighbors proofs).flatMap fun (neighbor, proof) => Fold.texts neighbor proof

end AnchoredSet
