import AnchoredSet.Proofs.Inclusion

/-!
Sets that compare equal. They have the same members, and the members tell the length of the
identifiers; so equal sets build and change alike, but for two empty sets of different lengths.
-/

namespace AnchoredSet

/-- Two changes of one kind: both give equal sets, or both are refused for errors of one kind. -/
inductive Agree : Except Error LeafSet → Except Error LeafSet → Prop
  | ok {s t : LeafSet} (same : s.same t = true) : Agree (.ok s) (.ok t)
  | error {e e' : Error} (kind : e.kind? = e'.kind?) : Agree (.error e) (.error e')

/-- Two sets that build the same levels and take every change alike. -/
structure Interchangeable (s t : LeafSet) : Prop where
  levels : s.levels = t.levels
  withLeaf : ∀ value, Agree (s.withLeaf value) (t.withLeaf value)
  withoutLeaf : ∀ value, Agree (s.withoutLeaf value) (t.withoutLeaf value)

theorem Agree.refl (result : Except Error LeafSet) : Agree result result := by
  cases result with
  | ok s => exact .ok (decide_eq_true rfl)
  | error e => exact .error rfl

theorem Agree.symm {result result' : Except Error LeafSet} (agree : Agree result result') :
    Agree result' result := by
  cases agree with
  | ok same => exact .ok (decide_eq_true (of_decide_eq_true same).symm)
  | error kind => exact .error kind.symm

theorem Interchangeable.refl (s : LeafSet) : Interchangeable s s :=
  ⟨rfl, fun _ => .refl _, fun _ => .refl _⟩

namespace LeafSet

variable {s t next next' : LeafSet} {value : Value}

theorem same_iff : s.same t = true ↔ s.leaves = t.leaves := decide_eq_true_iff

theorem Canonical.identifierLength_eq (canonical : s.Canonical) (canonical' : t.Canonical)
    (leaves : s.leaves = t.leaves) (filled : s.leaves ≠ []) :
    s.identifierLength = t.identifierLength := by
  obtain ⟨leaf, member⟩ := List.exists_mem_of_ne_nil _ filled
  rw [← canonical.sized leaf member, canonical'.sized leaf (leaves ▸ member)]

theorem identifierLength_eq_of_withLeaf (ok : s.withLeaf value = .ok next)
    (ok' : t.withLeaf value = .ok next') : s.identifierLength = t.identifierLength := by
  obtain ⟨identifier, decoded, _⟩ := bind_eq_ok.mp ok
  obtain ⟨identifier', decoded', _⟩ := bind_eq_ok.mp ok'
  obtain ⟨raw, sized⟩ := Identifier.ofValue_eq_ok.mp (Identifier.decode_eq_ok.mp decoded)
  obtain ⟨raw', sized'⟩ := Identifier.ofValue_eq_ok.mp (Identifier.decode_eq_ok.mp decoded')
  obtain rfl : identifier = identifier' := Except.ok.inj (raw.symm.trans raw')
  rw [← sized, sized']

theorem exists_withLeaf_of_empty (empty : s.leaves = []) (positive : 0 < s.identifierLength) :
    ∃ value next, s.withLeaf value = .ok next := by
  obtain ⟨count, length⟩ : ∃ count : Nat, s.identifierLength = count + 1 :=
    ⟨(s.identifierLength - 1).toNat, by omega⟩
  have decoded : s.decode (.bytes .constant (List.replicate (count + 1) 1)) =
      .ok (List.replicate (count + 1) 1) := by
    refine Identifier.decode_eq_ok.mpr (Identifier.ofValue_eq_ok.mpr ⟨rfl, ?_⟩)
    rw [List.length_replicate, length]
    rfl
  refine ⟨_, _, bind_eq_ok.mpr ⟨_, decoded, insert_eq_ok.mpr ⟨?_, ?_, rfl⟩⟩⟩
  · rw [List.replicate_succ]
    rfl
  · rw [empty, List.getElem?_nil]
    exact Option.some_ne_none _ |>.symm

theorem identifierLength_eq_of_agree (empty : s.leaves = []) (positive : 0 < s.identifierLength)
    (agree : ∀ value, Agree (s.withLeaf value) (t.withLeaf value)) :
    s.identifierLength = t.identifierLength := by
  obtain ⟨value, next, ok⟩ := exists_withLeaf_of_empty empty positive
  have alike := agree value
  rw [ok] at alike
  cases ok' : t.withLeaf value with
  | ok next' => exact identifierLength_eq_of_withLeaf ok ok'
  | error e =>
    rw [ok'] at alike
    cases alike

theorem identifierLength_eq_of_interchangeable (reached : s.Reachable) (reached' : t.Reachable)
    (leaves : s.leaves = t.leaves) (empty : s.leaves = []) (alike : Interchangeable s t) :
    s.identifierLength = t.identifierLength := by
  have nonneg := reached.nonneg
  have nonneg' := reached'.nonneg
  obtain none | positive | positive' : s.identifierLength = t.identifierLength ∨
      0 < s.identifierLength ∨ 0 < t.identifierLength := by omega
  · exact none
  · exact identifierLength_eq_of_agree empty positive alike.withLeaf
  · have agree := fun value => (alike.withLeaf value).symm
    exact (identifierLength_eq_of_agree (leaves ▸ empty) positive' agree).symm

end LeafSet

namespace Sample

def narrow : LeafSet := ⟨[], 1⟩

def wide : LeafSet := ⟨[], 2⟩

theorem reachable_narrow : narrow.Reachable := by
  have made : LeafSet.ofIdentifiers [.bytes .constant [10]] 1 = .ok ⟨[[10]], 1⟩ := rfl
  have found : (LeafSet.mk [[10]] 1).indexOf [10] = .ok 0 :=
    (LeafSet.indexOf_eq_ok_iff (by decide)).mpr rfl
  have erased : (LeafSet.mk [[10]] 1).withoutLeaf (.bytes .constant [10]) = .ok narrow :=
    LeafSet.erase_eq_ok.mpr ⟨0, found, rfl⟩
  exact .withoutLeaf (.ofIdentifiers (Int.zero_le_ofNat 1) made) erased

theorem reachable_wide : wide.Reachable :=
  .ofIdentifiers (Int.zero_le_ofNat 2) (show LeafSet.ofIdentifiers [] 2 = .ok wide from rfl)

end Sample

namespace LeafSet

variable {s t : LeafSet}

/-- Sets that compare equal are interchangeable exactly if, without members, they ask for
identifiers of one length. -/
theorem interchangeable_iff (reached : s.Reachable) (reached' : t.Reachable)
    (same : s.same t = true) :
    Interchangeable s t ↔ (s.leaves = [] → s.identifierLength = t.identifierLength) := by
  have leaves := same_iff.mp same
  constructor
  · intro alike empty
    exact identifierLength_eq_of_interchangeable reached reached' leaves empty alike
  · intro known
    have length : s.identifierLength = t.identifierLength := by
      by_cases empty : s.leaves = []
      · exact known empty
      · exact reached.canonical.identifierLength_eq reached'.canonical leaves empty
    have equal : s = t := by
      calc
        s = ⟨s.leaves, s.identifierLength⟩ := rfl
        _ = ⟨t.leaves, t.identifierLength⟩ := by rw [leaves, length]
    rw [equal]
    exact .refl t

theorem interchangeable_iff_narrow : ¬ Interchangeable Sample.narrow Sample.wide := by
  rw [interchangeable_iff Sample.reachable_narrow Sample.reachable_wide rfl]
  exact fun length => absurd (length rfl) (by decide)

/-- Empty sets of different lengths compare equal, but they have different roots, and the one takes
a member that the other one refuses. -/
theorem levels_ne_of_same_narrow :
    Sample.narrow.Reachable ∧ Sample.wide.Reachable ∧ Sample.narrow.same Sample.wide = true ∧
      Sample.narrow.levels ≠ Sample.wide.levels ∧
      Sample.narrow.withLeaf (.bytes .constant [10]) = .ok ⟨[[10]], 1⟩ ∧
      Sample.wide.withLeaf (.bytes .constant [10]) =
        .error (.invalidIdentifier (.wrongLength 2 1)) := by
  have free : Sample.narrow.leaves[Sample.narrow.lowerBound [10]]? ≠ some [10] := by
    simp [Sample.narrow]
  have inserted : Sample.narrow.insert [10] = .ok ⟨[[10]], 1⟩ :=
    insert_eq_ok.mpr ⟨rfl, free, by simp [Sample.narrow]⟩
  exact ⟨Sample.reachable_narrow, Sample.reachable_wide, rfl, by decide +kernel, inserted, rfl⟩

end LeafSet

end AnchoredSet
