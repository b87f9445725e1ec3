import AnchoredSet.Proofs.Exclusion

/-!
The gaps between members. Of a set with two members or more, the proof of absence that a tree hands
out for an identifier is accepted for exactly the identifiers in the same gap, wherever the gap is.
-/

namespace AnchoredSet

/-- No member lies between the two identifiers, and none is the second one. -/
def SameGap (leaves : List Bytes) (t u : Bytes) : Prop :=
  ∀ m ∈ leaves, ¬ (t < m ∧ m ≤ u) ∧ ¬ (u ≤ m ∧ m < t)

section Gap

variable {leaves : List Bytes} {t u m leaf lower upper : Bytes} {i : Nat}

theorem sameGap_of_sides (sides : ∀ m ∈ leaves, m < t ∧ m < u ∨ t < m ∧ u < m) :
    SameGap leaves t u := by
  intro m member
  rcases sides m member with ⟨below, below'⟩ | ⟨above, above'⟩
  · exact ⟨fun between => List.lt_asymm below between.1, fun between => between.1 below'⟩
  · exact ⟨fun between => between.2 above', fun between => List.lt_asymm above between.2⟩

theorem SameGap.above (same : SameGap leaves t u) (member : m ∈ leaves) (above : t < m) :
    u < m :=
  List.not_le.mp fun reached => (same m member).1 ⟨above, reached⟩

theorem SameGap.below (same : SameGap leaves t u) (member : m ∈ leaves) (below : m < t) :
    m < u :=
  List.not_le.mp fun reached => (same m member).2 ⟨reached, below⟩

theorem lt_of_lt_first (ascending : leaves.Pairwise (· < ·)) (stored : leaves[0]? = some leaf)
    (below : t < leaf) (member : m ∈ leaves) : t < m := by
  rcases List.mem_iff_getElem?.mp member with ⟨j, found⟩
  exact Std.lt_of_lt_of_le below (getElem?_not_lt_of_le ascending stored found (Nat.zero_le j))

theorem lt_of_last_lt (ascending : leaves.Pairwise (· < ·))
    (stored : leaves[leaves.length - 1]? = some leaf) (above : leaf < t) (member : m ∈ leaves) :
    m < t := by
  rcases List.mem_iff_getElem?.mp member with ⟨j, found⟩
  have inside := (List.getElem?_eq_some_iff.mp found).1
  exact Std.lt_of_le_of_lt (getElem?_not_lt_of_le ascending found stored (by omega)) above

theorem le_or_le_of_adjacent (ascending : leaves.Pairwise (· < ·))
    (left : leaves[i]? = some lower) (right : leaves[i + 1]? = some upper) (member : m ∈ leaves) :
    m ≤ lower ∨ upper ≤ m := by
  rcases List.mem_iff_getElem?.mp member with ⟨j, found⟩
  obtain before | after : j ≤ i ∨ i + 1 ≤ j := by omega
  · exact .inl (getElem?_not_lt_of_le ascending found left before)
  · exact .inr (getElem?_not_lt_of_le ascending right found after)

end Gap

section Enclosed

variable {s : LeafSet} {t u root : Bytes} {located : List (Bytes × Role)}

theorem enclosed_first_iff {leaf : Bytes} (stored : s.leaves[0]? = some leaf) :
    Enclosed s u [(leaf, .first)] ↔ u < leaf := by
  refine ⟨?_, .first stored⟩
  rintro (_ | ⟨_, below⟩)
  exact below

theorem enclosed_last_iff {leaf : Bytes} (stored : s.leaves[s.size - 1]? = some leaf) :
    Enclosed s u [(leaf, .last)] ↔ leaf < u := by
  refine ⟨?_, .last stored⟩
  rintro (_ | _ | ⟨_, above⟩)
  exact above

theorem enclosed_interior_iff {i : Nat} {lower upper : Bytes} (left : s.leaves[i]? = some lower)
    (right : s.leaves[i + 1]? = some upper) :
    Enclosed s u [(lower, .interior), (upper, .interior)] ↔ lower < u ∧ u < upper := by
  constructor
  · rintro (_ | _ | _ | ⟨_, _, above, below⟩)
    exact ⟨above, below⟩
  · rintro ⟨above, below⟩
    exact .interior left right above below

/-- The identifiers in one gap are those that the same neighbors enclose. -/
theorem Enclosed.sameGap_iff (ascending : s.leaves.Pairwise (· < ·))
    (enclosed : Enclosed s t located) : SameGap s.leaves t u ↔ Enclosed s u located := by
  cases enclosed with
  | empty none =>
    refine iff_of_true ?_ (.empty none)
    simp [SameGap, none]
  | @first leaf stored below =>
    rw [enclosed_first_iff stored]
    refine ⟨fun same => same.above (List.mem_of_getElem? stored) below, fun below' => ?_⟩
    refine sameGap_of_sides fun m member => .inr ⟨?_, ?_⟩
    · exact lt_of_lt_first ascending stored below member
    · exact lt_of_lt_first ascending stored below' member
  | @last leaf stored above =>
    rw [enclosed_last_iff stored]
    refine ⟨fun same => same.below (List.mem_of_getElem? stored) above, fun above' => ?_⟩
    refine sameGap_of_sides fun m member => .inl ⟨?_, ?_⟩
    · exact lt_of_last_lt ascending stored above member
    · exact lt_of_last_lt ascending stored above' member
  | @interior i lower upper left right above below =>
    rw [enclosed_interior_iff left right]
    constructor
    · intro same
      exact ⟨same.below (List.mem_of_getElem? left) above,
        same.above (List.mem_of_getElem? right) below⟩
    · rintro ⟨above', below'⟩
      refine sameGap_of_sides fun m member => ?_
      rcases le_or_le_of_adjacent ascending left right member with beneath | beyond
      · exact .inl ⟨Std.lt_of_le_of_lt beneath above, Std.lt_of_le_of_lt beneath above'⟩
      · exact .inr ⟨Std.lt_of_lt_of_le below beyond, Std.lt_of_lt_of_le below' beyond⟩

theorem verifyExclusion_outside_iff {neighbor : Bytes} {proof : InclusionProof}
    (nonzero : neighbor.isZero = false) (leads : computeRoot neighbor proof = root) :
    verifyExclusion u [proof] [neighbor] root = .ok true ↔ neighbor.length = u.length ∧
      (u < neighbor ∧ leafPosition neighbor proof = 0 ∨
        neighbor < u ∧ isRightmost neighbor proof = true) := by
  rw [verifyExclusion, Except.ok.injEq, verifyOutside_eq_true, nonzero]
  simp [leads]

theorem verifyExclusion_between_iff {lower upper : Bytes} {lowerProof upperProof : InclusionProof}
    (length : lowerProof.length = upperProof.length)
    (leads : computeRoot lower lowerProof = root) (leads' : computeRoot upper upperProof = root)
    (next : leafPosition upper upperProof = leafPosition lower lowerProof + 1) :
    verifyExclusion u [lowerProof, upperProof] [lower, upper] root = .ok true ↔
      (lower.length = u.length ∧ upper.length = u.length) ∧ lower < u ∧ u < upper := by
  rw [verifyExclusion, Except.ok.injEq, verifyBetween_eq_true]
  simp [length, leads, leads', next, and_assoc]

theorem exists_neighborProofs_iff (canonical : s.Canonical) (many : 2 ≤ s.size)
    (free : CollisionFree (Levels.texts s.leaves s.identifierLength.toNat))
    (rooted : (Tree.ofLeafSet s).root? = some root) (enclosed : Enclosed s t located) :
    ∃ proofs, (Tree.ofLeafSet s).neighborProofs located = ⟨.ok proofs, []⟩ ∧
      ∀ u, verifyExclusion u proofs (located.map Prod.fst) root = .ok true ↔
        (u.length : Int) = s.identifierLength ∧ Enclosed s u located := by
  have opening := @exists_opening s root canonical.ascending free rooted
  have length_iff {i : Nat} {leaf : Bytes} (stored : s.leaves[i]? = some leaf) (u : Bytes) :
      leaf.length = u.length ↔ (u.length : Int) = s.identifierLength := by
    have sized := canonical.sized leaf (List.mem_of_getElem? stored)
    omega
  have nonzero {i : Nat} {leaf : Bytes} (stored : s.leaves[i]? = some leaf) :
      leaf.isZero = false := canonical.nonzero leaf (List.mem_of_getElem? stored)
  have count : s.size = s.leaves.length := rfl
  cases enclosed with
  | empty none =>
    rw [count, none] at many
    cases many
  | @first leaf stored below =>
    rcases opening stored false with ⟨proof, ok, _, leads, position, rightmost⟩
    -- The first of two members or more is not the last one.
    have notLast : ¬ isRightmost leaf proof = true := fun last => by
      have alone := rightmost.mp last
      omega
    refine ⟨[proof], Tree.neighborProofs_cons ok rfl, fun u => ?_⟩
    rw [List.map_singleton, verifyExclusion_outside_iff (nonzero stored) leads, length_iff stored,
      enclosed_first_iff stored]
    simp [position, notLast]
  | @last leaf stored above =>
    rcases opening stored true with ⟨proof, ok, _, leads, position, rightmost⟩
    have last : isRightmost leaf proof = true := rightmost.mpr (by omega)
    have notFirst : leafPosition leaf proof ≠ 0 := by omega
    refine ⟨[proof], Tree.neighborProofs_cons ok rfl, fun u => ?_⟩
    rw [List.map_singleton, verifyExclusion_outside_iff (nonzero stored) leads, length_iff stored,
      enclosed_last_iff stored]
    simp [last, notFirst]
  | @interior i lower upper left right above below =>
    rcases opening left false with ⟨proof, ok, length, leads, position, _⟩
    rcases opening right false with ⟨proof', ok', length', leads', position', _⟩
    have next : leafPosition upper proof' = leafPosition lower proof + 1 := by
      rw [position, position']
    refine ⟨[proof, proof'], Tree.neighborProofs_cons ok (Tree.neighborProofs_cons ok' rfl),
      fun u => ?_⟩
    rw [List.map_cons, List.map_singleton,
      verifyExclusion_between_iff (length.trans length'.symm) leads leads' next, length_iff left,
      length_iff right, and_self, enclosed_interior_iff left right]

end Enclosed

/-- Of two members or more, a proof of absence is accepted for another identifier, of any length,
exactly if this one has the length of the set's and no member lies between the two or is it. -/
theorem exclusionProof_accepted_iff {tree : Tree} (reached : tree.Reachable)
    (many : 2 ≤ tree.size) {value : Value} {t : Bytes} (decoded : tree.decode value = .ok t)
    (absent : t ∉ tree.rawLeaves)
    (free : CollisionFree
      (Levels.texts tree.leafSet.leaves tree.leafSet.identifierLength.toNat)) :
    ∃ proof root, (tree.exclusionProof value).result = .ok proof ∧ tree.root? = some root ∧
      ∀ u, verifyExclusion u proof.proofs proof.neighbors root = .ok true ↔
        (u.length : Int) = tree.leafSet.identifierLength ∧ SameGap tree.rawLeaves t u := by
  have placed : tree.leafSet.HasPlaceholder := fun _ => reached.countable
  rcases reached.canonical with ⟨reached, shape⟩
  have canonical := reached.canonical
  have ascending : tree.rawLeaves.Pairwise (· < ·) := canonical.ascending
  rcases LeafSet.exists_locate ascending placed absent with ⟨located, found, enclosed⟩
  obtain ⟨root, rooted⟩ : ∃ root, (Tree.ofLeafSet tree.leafSet).root? = some root :=
    ⟨_, LeafSet.root?_build_slots tree.leafSet⟩
  obtain ⟨proofs, ok, accepted⟩ := exists_neighborProofs_iff canonical many free rooted enclosed
  rw [← shape] at rooted ok
  refine ⟨⟨proofs, located.map Prod.fst⟩, root, ?_, rooted, fun u => ?_⟩
  · rw [Tree.exclusionProof, decoded]
    simp only [Tree.exclusionProofOf, found, ok]
  · rw [accepted, ← enclosed.sameGap_iff ascending, Tree.rawLeaves]

theorem exclusionProof_accepted_iff_last : ∃ proof,
    ((Tree.ofLeafSet Sample.leafSet).exclusionProof (.bytes .constant [6])).result = .ok proof ∧
      verifyExclusion [9] proof.proofs proof.neighbors Sample.root = .ok true ∧
      verifyExclusion [0] proof.proofs proof.neighbors Sample.root ≠ .ok true := by
  have free : CollisionFree (Levels.texts Sample.leafSet.leaves
      Sample.leafSet.identifierLength.toNat) :=
    collisionFree_of_nodup Sample.nodup_digests (Sample.texts_eq ▸ List.Subset.refl _)
  have decoded : (Tree.ofLeafSet Sample.leafSet).decode (.bytes .constant [6]) = .ok [6] := rfl
  obtain ⟨proof, root, ok, rooted, accepted⟩ := exclusionProof_accepted_iff
    (.create Sample.created) (by decide) decoded (by decide) free
  have built := (LeafSet.levels_eq_ok.mp Sample.levels_eq).2
  obtain rfl : Sample.root = root := by
    rw [Tree.root?, Tree.ofLeafSet, ← built, Sample.root?_levels] at rooted
    exact Option.some.inj rooted
  refine ⟨proof, ok, (accepted [9]).mpr ⟨rfl, sameGap_of_sides (by decide)⟩, fun taken => ?_⟩
  have same : SameGap Sample.leafSet.leaves [6] [0] := ((accepted [0]).mp taken).2
  have below : ([5] : Bytes) < [0] := same.below (by decide) (by decide)
  exact absurd below (by decide)

end AnchoredSet
