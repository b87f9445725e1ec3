import AnchoredSet.Proofs.Inclusion
import Mathlib.Data.Finset.Insert

/-!
What two proofs have in common that lead to one hash. At one position, or both at the right edge,
they are proofs of one identifier and list the same nodes, whatever the hash is; of the tree of a
set, the accepted proofs of an identifier are one proof but for the sides of nodes that are paired
with themselves.
-/

namespace AnchoredSet

/-- Two proofs of one identifier that differ at most in the sides of nodes paired with
themselves. -/
structure Alike (x : Bytes) (p q : InclusionProof) : Prop where
  nodes : p.map Sibling.node = q.map Sibling.node
  sides : ∀ (i : Nat) (s t : Sibling), p[i]? = some s → q[i]? = some t →
    s.node ≠ computeRoot x (p.take i) → s.onRight = t.onRight

def flipAt (steps : Finset Nat) (proof : InclusionProof) : InclusionProof :=
  proof.mapIdx fun i sibling =>
    if i ∈ steps then { sibling with onRight := !sibling.onRight } else sibling

/-- Two proofs that end at one position, or both at the right edge. -/
def Abreast (x : Bytes) (p : InclusionProof) (y : Bytes) (q : InclusionProof) : Prop :=
  leafPosition x p = leafPosition y q ∨ isRightmost x p = true ∧ isRightmost y q = true

/-! The text of one step, from both sides. -/

namespace Fold

variable {f g : Fold} {s t : Sibling}

theorem stepText_self (self : s.node = f.hash) : f.stepText s = nodeText f.hash f.hash := by
  rw [stepText, self, ite_self]

theorem stepText_congr (hash : f.hash = g.hash) (node : s.node = t.node)
    (side : s.node ≠ f.hash → s.onRight = t.onRight) : f.stepText s = g.stepText t := by
  by_cases self : s.node = f.hash
  · have self' : t.node = g.hash := node.symm.trans (self.trans hash)
    rw [stepText_self self, stepText_self self', hash]
  · rw [stepText, stepText, side self, hash, node]

/-- Two steps with one text join the same two nodes, or they turn to different sides, each to a
sibling of its own. -/
theorem eq_or_apart_of_stepText_eq (hash : f.hash.length = digestLength)
    (hash' : g.hash.length = digestLength) (same : f.stepText s = g.stepText t) :
    (f.hash = g.hash ∧ s.node = t.node ∧ (s.node ≠ f.hash → s.onRight = t.onRight)) ∨
      (s.onRight ≠ t.onRight ∧ s.node ≠ f.hash ∧ t.node ≠ g.hash) := by
  by_cases self : s.node = f.hash
  · rw [stepText_self self] at same
    have parts := stepText_eq_nodeText hash' hash hash same.symm
    refine .inl ⟨?_, ?_, fun other => absurd self other⟩
    · rcases parts with ⟨_, own, _⟩ | ⟨_, _, own⟩ <;> exact own.symm
    · rcases parts with ⟨_, _, node⟩ | ⟨_, node, _⟩ <;> exact self.trans node.symm
  · by_cases self' : t.node = g.hash
    · -- The text of a node paired with itself cannot be read as another pair.
      rw [stepText_self self'] at same
      rcases stepText_eq_nodeText hash hash' hash' same with ⟨_, own, node⟩ | ⟨_, node, own⟩
      · exact absurd (node.trans own.symm) self
      · exact absurd (node.trans own.symm) self
    · by_cases side : s.onRight = t.onRight
      · rw [stepText, stepText, ← side] at same
        split at same
        · obtain ⟨own, node⟩ := nodeText_inj (.inl (hash.trans hash'.symm)) same
          exact .inl ⟨own, node, fun _ => side⟩
        · obtain ⟨node, own⟩ := nodeText_inj (.inr (hash.trans hash'.symm)) same
          exact .inl ⟨own, node, fun _ => side⟩
      · exact .inr ⟨side, self, self'⟩

end Fold

/-! Proofs that are alike lead to one hash. -/

namespace Alike

variable {x : Bytes} {p q : InclusionProof} {s t : Sibling}

theorem length (alike : Alike x p q) : p.length = q.length := by
  simpa only [List.length_map] using congrArg List.length alike.nodes

theorem nil (x : Bytes) : Alike x [] [] where
  nodes := rfl
  sides i s t first := by
    rw [List.getElem?_nil] at first
    cases first

theorem append_singleton (alike : Alike x p q) (node : s.node = t.node)
    (side : s.node ≠ computeRoot x p → s.onRight = t.onRight) :
    Alike x (p ++ [s]) (q ++ [t]) where
  nodes := by
    rw [List.map_append, List.map_append, alike.nodes, List.map_singleton, List.map_singleton,
      node]
  sides i a b first second other := by
    have bound := (List.getElem?_eq_some_iff.mp first).1
    rw [List.length_append, List.length_singleton] at bound
    obtain before | last : i < p.length ∨ i = p.length := by omega
    · rw [List.getElem?_append_left before] at first
      rw [List.getElem?_append_left (alike.length ▸ before)] at second
      rw [List.take_append_of_le_length before.le] at other
      exact alike.sides i a b first second other
    · subst last
      obtain rfl : s = a := by simpa using first
      obtain rfl : t = b := by simpa [alike.length] using second
      rw [List.take_left] at other
      exact side other

theorem of_append_singleton (alike : Alike x (p ++ [s]) (q ++ [t])) :
    Alike x p q ∧ s.node = t.node ∧ (s.node ≠ computeRoot x p → s.onRight = t.onRight) := by
  have length : p.length = q.length := by simpa using alike.length
  have nodes := alike.nodes
  rw [List.map_append, List.map_append] at nodes
  obtain ⟨front, last⟩ := List.append_inj nodes (by simpa using length)
  refine ⟨⟨front, ?_⟩, List.head_eq_of_cons_eq last, ?_⟩
  · intro i a b first second other
    have before := (List.getElem?_eq_some_iff.mp first).1
    apply alike.sides i a b
    · rwa [List.getElem?_append_left before]
    · rwa [List.getElem?_append_left (length ▸ before)]
    · rwa [List.take_append_of_le_length before.le]
  · intro other
    apply alike.sides p.length s t
    · exact List.getElem?_concat_length
    · rw [length]
      exact List.getElem?_concat_length
    · rwa [List.take_left]

theorem computeRoot_eq (alike : Alike x p q) : computeRoot x p = computeRoot x q := by
  induction p using List.reverseRecOn generalizing q with
  | nil =>
    rw [List.eq_nil_of_length_eq_zero alike.length.symm]
  | append_singleton p s ih =>
    rcases q.eq_nil_or_concat' with rfl | ⟨q, t, rfl⟩
    · simpa using alike.length
    · rcases alike.of_append_singleton with ⟨front, node, side⟩
      have text := Fold.stepText_congr (ih front) node side
      rw [computeRoot, computeRoot, Fold.run_append_singleton, Fold.run_append_singleton,
        Fold.hash_step, Fold.hash_step, text]

theorem flipAt {steps : Finset Nat} (self : ∀ i ∈ steps, ∀ s, p[i]? = some s →
    s.node = computeRoot x (p.take i)) : Alike x p (flipAt steps p) where
  nodes := by
    apply List.ext_getElem?
    intro i
    rw [List.getElem?_map, List.getElem?_map, AnchoredSet.flipAt, List.getElem?_mapIdx,
      Option.map_map]
    congr 1
    funext s
    dsimp only [Function.comp]
    split <;> rfl
  sides i s t first second other := by
    have kept : i ∉ steps := fun exchanged => other (self i exchanged s first)
    rw [AnchoredSet.flipAt, List.getElem?_mapIdx, first, Option.map_some, if_neg kept] at second
    exact congrArg Sibling.onRight (Option.some.inj second)

end Alike

/-! Proofs that lead to one hash, abreast, are alike. -/

section Abreast

variable {x y : Bytes} {p q : InclusionProof} {s t : Sibling}

theorem leafPosition_lt (x : Bytes) (proof : InclusionProof) :
    leafPosition x proof < 2 ^ proof.length := by
  induction proof using List.reverseRecOn with
  | nil => exact Nat.one_pos
  | append_singleton proof sibling ih =>
    rw [List.length_append, List.length_singleton, Nat.pow_succ]
    by_cases self : sibling.node = computeRoot x proof
    · rw [(step_self self).1]
      omega
    · cases side : sibling.onRight with
      | true =>
        rw [(step_right self side).1]
        omega
      | false =>
        rw [(step_left self side).1]
        omega

theorem not_abreast_of_apart (length : p.length = q.length)
    (other : s.node ≠ computeRoot x p) (other' : t.node ≠ computeRoot y q)
    (right : s.onRight = true) (left : t.onRight = false) :
    ¬ Abreast x (p ++ [s]) y (q ++ [t]) := by
  rcases step_right other right with ⟨position, edge⟩
  rcases step_left other' left with ⟨position', _⟩
  rintro (same | ⟨rightmost, _⟩)
  · have bound := leafPosition_lt x p
    rw [position, position', ← length] at same
    omega
  · rw [edge] at rightmost
    cases rightmost

theorem Abreast.symm (abreast : Abreast x p y q) : Abreast y q x p :=
  abreast.imp Eq.symm And.symm

theorem Abreast.of_append_singleton (length : p.length = q.length)
    (hash : computeRoot x p = computeRoot y q) (node : s.node = t.node)
    (side : s.node ≠ computeRoot x p → s.onRight = t.onRight)
    (abreast : Abreast x (p ++ [s]) y (q ++ [t])) : Abreast x p y q := by
  by_cases self : s.node = computeRoot x p
  · have self' : t.node = computeRoot y q := node.symm.trans (self.trans hash)
    rcases step_self self with ⟨position, rightmost⟩
    rcases step_self self' with ⟨position', rightmost'⟩
    rwa [Abreast, position, position', rightmost, rightmost'] at abreast
  · have self' : t.node ≠ computeRoot y q := fun same =>
      self (node.trans (same.trans hash.symm))
    cases right : s.onRight with
    | true =>
      rcases step_right self right with ⟨position, edge⟩
      rcases step_right self' ((side self).symm.trans right) with ⟨position', _⟩
      rw [Abreast, position, position', edge] at abreast
      exact abreast.imp_right fun ⟨never, _⟩ => absurd never Bool.false_ne_true
    | false =>
      rcases step_left self right with ⟨position, rightmost⟩
      rcases step_left self' ((side self).symm.trans right) with ⟨position', rightmost'⟩
      rwa [Abreast, position, position', rightmost, rightmost', length, Nat.add_right_cancel_iff]
        at abreast

theorem Abreast.alike {texts : List Bytes} (free : CollisionFree texts)
    (folded : Fold.texts x p ⊆ texts) (folded' : Fold.texts y q ⊆ texts)
    (length : p.length = q.length) (leads : computeRoot x p = computeRoot y q)
    (abreast : Abreast x p y q) : x = y ∧ Alike x p q := by
  -- The induction takes the last step, the one below the common hash, off both proofs.
  induction p using List.reverseRecOn generalizing q with
  | nil =>
    obtain rfl : q = [] := List.eq_nil_of_length_eq_zero length.symm
    have same := free _ (folded List.mem_cons_self) _ (folded' List.mem_cons_self) leads
    exact ⟨leafText_inj.mp same, Alike.nil x⟩
  | append_singleton p s ih =>
    rcases q.eq_nil_or_concat' with rfl | ⟨q, t, rfl⟩
    · simp at length
    · have length : p.length = q.length := by simpa using length
      rw [Fold.texts_append_singleton, List.append_subset] at folded folded'
      rw [computeRoot, computeRoot, Fold.run_append_singleton, Fold.run_append_singleton,
        Fold.hash_step, Fold.hash_step] at leads
      have text := free _ (folded.2 List.mem_cons_self) _ (folded'.2 List.mem_cons_self) leads
      rcases Fold.eq_or_apart_of_stepText_eq (length_computeRoot x p) (length_computeRoot y q)
        text with ⟨hash, node, side⟩ | ⟨apart, other, other'⟩
      · have below := abreast.of_append_singleton length hash node side
        rcases ih folded.1 folded'.1 length hash below with ⟨rfl, front⟩
        exact ⟨rfl, front.append_singleton node side⟩
      · exfalso
        cases right : s.onRight with
        | true =>
          have left : t.onRight = false := by simpa [right] using apart.symm
          exact not_abreast_of_apart length other other' right left abreast
        | false =>
          have right' : t.onRight = true := by simpa [right] using apart.symm
          exact not_abreast_of_apart length.symm other' other right' right abreast.symm

end Abreast

namespace Sample

def ragged (side : Bool) : InclusionProof := [⟨hashLeaf [7], side⟩, ⟨[1, 2, 3], true⟩]

def raggedTexts : List Bytes :=
  [leafText [7], nodeText (hashLeaf [7]) (hashLeaf [7]),
    nodeText (hashNode (hashLeaf [7]) (hashLeaf [7])) [1, 2, 3]]

theorem texts_ragged (side : Bool) : Fold.texts [7] (ragged side) = raggedTexts := by
  cases side <;>
    simp [Fold.texts, Fold.stepTexts, Fold.stepText, Fold.step, Fold.start, ragged, raggedTexts]

theorem computeRoot_ragged (side : Bool) : computeRoot [7] (ragged side) =
    hashNode (hashNode (hashLeaf [7]) (hashLeaf [7])) [1, 2, 3] := by
  cases side <;> simp [computeRoot, Fold.run, Fold.step, Fold.start, ragged]

theorem leafPosition_ragged (side : Bool) : leafPosition [7] (ragged side) = 0 := by
  cases side <;> simp [leafPosition, Fold.run, Fold.step, Fold.start, ragged]

theorem nodup_raggedDigests : (raggedTexts.map keccak256).Nodup := by decide +kernel

theorem flipAt_copy : flipAt {0} copy = [⟨hashLeaf [5], true⟩, ⟨left, false⟩] := rfl

theorem texts_flipAt_copy : Fold.texts [5] (flipAt {0} copy) ⊆ texts := by
  rw [flipAt_copy]
  simp [Fold.texts, Fold.stepTexts, Fold.stepText, Fold.step, Fold.start, texts, right]

end Sample

/-- Under any root, two proofs of one length at one position, or both at the right edge, are of one
identifier and list the same nodes. -/
theorem nodes_eq_of_abreast {x y : Bytes} {p q : InclusionProof} {root : Bytes}
    (free : CollisionFree (Fold.texts x p ++ Fold.texts y q)) (length : p.length = q.length)
    (leads : computeRoot x p = root) (leads' : computeRoot y q = root)
    (abreast : leafPosition x p = leafPosition y q ∨
      isRightmost x p = true ∧ isRightmost y q = true) :
    x = y ∧ p.map Sibling.node = q.map Sibling.node := by
  have same : computeRoot x p = computeRoot y q := leads.trans leads'.symm
  obtain ⟨one, alike⟩ := Abreast.alike free (List.subset_append_left _ _)
    (List.subset_append_right _ _) length same abreast
  exact ⟨one, alike.nodes⟩

theorem nodes_eq_of_abreast_ragged : Sample.ragged true ≠ Sample.ragged false ∧
    (Sample.ragged true).map Sibling.node = (Sample.ragged false).map Sibling.node := by
  have free : CollisionFree
      (Fold.texts [7] (Sample.ragged true) ++ Fold.texts [7] (Sample.ragged false)) := by
    apply collisionFree_of_nodup Sample.nodup_raggedDigests
    rw [Sample.texts_ragged, Sample.texts_ragged]
    exact List.append_subset.mpr ⟨List.Subset.refl _, List.Subset.refl _⟩
  have position : leafPosition [7] (Sample.ragged true) = leafPosition [7] (Sample.ragged false) :=
    (Sample.leafPosition_ragged true).trans (Sample.leafPosition_ragged false).symm
  have eq := nodes_eq_of_abreast free rfl (Sample.computeRoot_ragged true)
    (Sample.computeRoot_ragged false) (.inl position)
  exact ⟨by simp [Sample.ragged], eq.2⟩

/-- Every proof that is accepted for an identifier against the root of a set lists the same nodes,
and takes each of them on the same side unless it is paired with itself there; such a node may be
taken on either side. -/
theorem verifyInclusion_unique {s : LeafSet} (canonical : s.Canonical) {levels : Levels}
    (built : s.levels = .ok levels) {root : Bytes} (rooted : levels.root? = some root) (x : Bytes)
    (p : InclusionProof) (accepted : verifyInclusion x p root = true) :
    (∀ q, CollisionFree (Levels.texts s.leaves s.identifierLength.toNat ++
          (Fold.texts x p ++ Fold.texts x q)) →
        verifyInclusion x q root = true →
        p.length = q.length ∧
          (∀ i : Nat, p[i]?.map Sibling.node = q[i]?.map Sibling.node) ∧
          ∀ (i : Nat) (a b : Sibling), p[i]? = some a → q[i]? = some b →
            a.node ≠ computeRoot x (p.take i) → a.onRight = b.onRight) ∧
      ∀ steps : Finset Nat,
        (∀ i ∈ steps, ∀ a, p[i]? = some a → a.node = computeRoot x (p.take i)) →
        verifyInclusion x (flipAt steps p) root = true := by
  rcases LeafSet.levels_eq_ok.mp built with ⟨_, rfl⟩
  have leads : computeRoot x p = root := of_decide_eq_true accepted
  have nodup := nodup_of_ascending canonical.ascending
  constructor
  · intro q free accepted'
    have leads' : computeRoot x q = root := of_decide_eq_true accepted'
    obtain ⟨inside, folded⟩ := List.append_subset.mp (List.Subset.refl
      (Levels.texts s.leaves s.identifierLength.toNat ++ (Fold.texts x p ++ Fold.texts x q)))
    obtain ⟨foldedP, foldedQ⟩ := List.append_subset.mp folded
    have opens := LeafSet.opens_of_root free nodup rooted inside foldedP leads
    have opens' := LeafSet.opens_of_root free nodup rooted inside foldedQ leads'
    have length : p.length = q.length := opens.length.trans opens'.length.symm
    -- An identifier stands at one place only, so the two proofs are abreast.
    have position := opens.leafPosition_eq (LeafSet.hashed_slots nodup).nodup opens'.found
    obtain ⟨_, alike⟩ := Abreast.alike free foldedP foldedQ length (leads.trans leads'.symm)
      (.inl position)
    refine ⟨length, ?_, alike.sides⟩
    intro i
    rw [← List.getElem?_map, ← List.getElem?_map, alike.nodes]
  · intro steps self
    apply decide_eq_true
    rw [← (Alike.flipAt self).computeRoot_eq, leads]

theorem verifyInclusion_unique_copy :
    verifyInclusion [5] (flipAt {0} Sample.copy) Sample.root = true ∧
      ∀ i : Nat, Sample.copy[i]?.map Sibling.node =
        (flipAt {0} Sample.copy)[i]?.map Sibling.node := by
  have accepted : verifyInclusion [5] Sample.copy Sample.root = true :=
    decide_eq_true Sample.computeRoot_copy
  obtain ⟨unique, flipped⟩ := verifyInclusion_unique Sample.reachable.canonical Sample.levels_eq
    Sample.root?_levels [5] Sample.copy accepted
  have accepted' : verifyInclusion [5] (flipAt {0} Sample.copy) Sample.root = true := by
    apply flipped
    intro i step a first
    obtain rfl : i = 0 := Finset.mem_singleton.mp step
    obtain rfl : ⟨hashLeaf [5], false⟩ = a := Option.some.inj first
    rfl
  have free := Sample.collisionFree
    (List.append_subset.mpr ⟨Sample.texts_copy, Sample.texts_flipAt_copy⟩)
  exact ⟨accepted', (unique _ free accepted').2.1⟩

end AnchoredSet
