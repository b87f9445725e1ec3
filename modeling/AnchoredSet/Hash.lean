import AnchoredSet.Keccak

/-!
Hashing of leaves and nodes. The first byte tells them apart: 0 in front of an identifier, 1 in
front of two joined children, so no text is hashed both as a leaf and as a node.
-/

namespace AnchoredSet

def leafText (identifier : Bytes) : Bytes := 0x00 :: identifier

def nodeText (left right : Bytes) : Bytes := 0x01 :: (left ++ right)

def hashLeaf (identifier : Bytes) : Bytes := keccak256 (leafText identifier)

def hashNode (left right : Bytes) : Bytes := keccak256 (nodeText left right)

def digestLength : Nat := 32

/-- No two different texts of the list have one digest. -/
def CollisionFree (texts : List Bytes) : Prop :=
  ∀ s ∈ texts, ∀ t ∈ texts, keccak256 s = keccak256 t → s = t

instance (texts : List Bytes) : Decidable (CollisionFree texts) :=
  inferInstanceAs (Decidable (∀ s ∈ texts, ∀ t ∈ texts, _))

@[simp] theorem length_hashLeaf (identifier : Bytes) :
    (hashLeaf identifier).length = digestLength :=
  length_keccak256 _

@[simp] theorem length_hashNode (left right : Bytes) :
    (hashNode left right).length = digestLength :=
  length_keccak256 _

theorem leafText_ne_nodeText (identifier left right : Bytes) :
    leafText identifier ≠ nodeText left right := by
  simp [leafText, nodeText]

theorem leafText_inj {x y : Bytes} : leafText x = leafText y ↔ x = y := by
  simp [leafText]

end AnchoredSet
