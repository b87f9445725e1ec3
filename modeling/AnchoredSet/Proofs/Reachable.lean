import Mathlib.Algebra.Group.Int.Defs
import Mathlib.Algebra.Group.Nat.Defs
import AnchoredSet.Proofs.Ascending
import AnchoredSet.Proofs.Result
import AnchoredSet.Tree

/-!
The sets and trees that can be made. A set that is made and changed through its own operations is
canonical; the stored levels of a tree are those of its set.
-/

namespace AnchoredSet

theorem Integer.render?_eq_none_iff {n : Int} :
    Integer.render? n = none ↔ 10 ^ Integer.digitLimit ≤ n.natAbs := by
  have short : (toString n.natAbs).length ≤ Integer.digitLimit ↔
      n.natAbs < 10 ^ Integer.digitLimit := Nat.length_repr_le_iff (by decide)
  rw [Integer.render?, ← Nat.not_lt, ← short]
  split
  · rename_i long
    exact iff_of_true rfl (Nat.not_le.mpr long)
  · rename_i fits
    exact iff_of_false (by simp) (not_not_intro (Nat.not_lt.mp fits))

namespace Identifier

theorem ofValue_eq_ok {value : Value} {length : Int} {identifier : Bytes} :
    ofValue value length = .ok identifier ↔
      rawOfValue value = .ok identifier ∧ (identifier.length : Int) = length := by
  cases raw : rawOfValue value with
  | error fault => simp [ofValue, raw, bind, Except.bind]
  | ok data =>
    by_cases sized : (data.length : Int) = length
    · simp only [ofValue, raw, bind, Except.bind, sized, if_true, pure, Except.pure,
        Except.ok.injEq]
      exact ⟨fun same => ⟨same, same ▸ sized⟩, And.left⟩
    · simp only [ofValue, raw, bind, Except.bind, sized, if_false, throw, throwThe,
        MonadExceptOf.throw, reduceCtorEq, Except.ok.injEq, false_iff, not_and]
      exact fun same => same ▸ sized

theorem decode_eq_ok {value : Value} {length : Int} {identifier : Bytes} :
    decode value length = .ok identifier ↔ ofValue value length = .ok identifier :=
  mapError_eq_ok

def Countable (length : Int) : Prop := 0 ≤ length ∧ length ≤ longestCount

theorem requireCount_eq_ok {length : Int} : requireCount length = .ok () ↔ Countable length := by
  have limit : longestCount = 0x7FFFFFFFFFFFFFFF - 33 := rfl
  simp only [requireCount, isWord, Countable, Bool.not_eq_true', Bool.and_eq_false_iff,
    decide_eq_false_iff_not]
  by_cases wide : ¬ -0x8000000000000000 ≤ length ∨ ¬ length < 0x8000000000000000
  · rw [if_pos wide]
    exact iff_of_false nofun (by omega)
  · rw [if_neg wide]
    by_cases negative : length < 0
    · rw [if_pos negative]
      exact iff_of_false nofun (by omega)
    · rw [if_neg negative]
      by_cases long : longestCount < length
      · rw [if_pos long]
        exact iff_of_false nofun (by omega)
      · rw [if_neg long]
        exact iff_of_true rfl (by omega)

theorem placeholder_of_countable {length : Int} (counted : Countable length) :
    placeholder length = .ok (Bytes.zeros length.toNat) := by
  rw [placeholder, requireCount_eq_ok.mpr counted]
  rfl

theorem raise_refuseHalves (points : Text.Points) (tell : IdentifierFault → Error) :
    (refuseHalves points).raise tell = tell (refuseHalves points) := by
  rw [refuseHalves]
  split <;> rfl

theorem raise_of_rawOfValue {value : Value} {fault : IdentifierFault}
    (refused : rawOfValue value = .error fault) (tell : IdentifierFault → Error) :
    fault.raise tell = tell fault := by
  rw [rawOfValue.eq_def] at refused
  split at refused
  · cases refused
  · rename_i text
    rw [ofText] at refused
    split at refused
    · cases read : Hex.decode (Text.strip text.toList) <;> rw [read] at refused <;> cases refused
      rfl
    · cases read : Base58.decode (Text.strip text.toList) <;> rw [read] at refused <;>
        cases refused
      rfl
  · cases refused
    exact raise_refuseHalves _ tell
  · cases refused
    rfl

theorem ofValue_eq_error {value : Value} {length : Int} {fault : IdentifierFault} :
    ofValue value length = .error fault ↔ rawOfValue value = .error fault ∨
      ∃ data, rawOfValue value = .ok data ∧ (data.length : Int) ≠ length ∧
        fault = .wrongLength length data.length := by
  cases raw : rawOfValue value with
  | error cause => simp [ofValue, raw, bind, Except.bind]
  | ok data =>
    by_cases sized : (data.length : Int) = length
    · simp [ofValue, raw, bind, Except.bind, sized, pure, Except.pure]
    · simp [ofValue, raw, bind, Except.bind, sized, throw, throwThe, MonadExceptOf.throw,
        eq_comm (b := fault)]

/-- A value of bytes, and a length that is not theirs but has too many digits to be told. -/
def Untold (value : Value) (length : Int) : Prop :=
  10 ^ Integer.digitLimit ≤ length.natAbs ∧
    ∃ data, rawOfValue value = .ok data ∧ (data.length : Int) ≠ length

theorem raise_of_ofValue {value : Value} {length : Int} {fault : IdentifierFault}
    (refused : ofValue value length = .error fault) (tell : IdentifierFault → Error) :
    Untold value length ∧ fault.raise tell = .value .longInteger ∨
      ¬ Untold value length ∧ fault.raise tell = tell fault := by
  rcases ofValue_eq_error.mp refused with raw | ⟨data, raw, sized, rfl⟩
  · refine .inr ⟨?_, raise_of_rawOfValue raw tell⟩
    rintro ⟨_, data, read, _⟩
    rw [raw] at read
    cases read
  · have untold : Untold value length ↔ Integer.render? length = none := by
      rw [Untold, and_iff_left ⟨data, raw, sized⟩, Integer.render?_eq_none_iff]
    rw [untold, IdentifierFault.raise]
    cases Integer.render? length with
    | none => exact .inl ⟨rfl, rfl⟩
    | some shown => exact .inr ⟨by simp, rfl⟩

theorem exists_fault_of_untold {value : Value} {length : Int} (untold : Untold value length) :
    ∃ fault, ofValue value length = .error fault ∧
      ∀ tell, fault.raise tell = .value .longInteger := by
  obtain ⟨_, data, raw, sized⟩ := id untold
  have refused : ofValue value length = .error (.wrongLength length data.length) :=
    ofValue_eq_error.mpr (.inr ⟨data, raw, sized, rfl⟩)
  refine ⟨_, refused, fun tell => ?_⟩
  rcases raise_of_ofValue refused tell with ⟨_, raised⟩ | ⟨told, _⟩
  · exact raised
  · exact absurd untold told

theorem untold_marker {digits : Nat} (long : Integer.digitLimit ≤ digits) :
    Untold (.text "0x") (10 ^ digits) := by
  refine ⟨?_, [], rfl, Int.ne_of_lt (Int.pow_pos (by decide))⟩
  rw [Int.natAbs_pow]
  exact Nat.pow_le_pow_right (by decide) long

theorem not_untold_of_countable {length : Int} (counted : Countable length) (value : Value) :
    ¬ Untold value length := by
  rintro ⟨long, _⟩
  have few : length.natAbs < 10 ^ 19 := by
    have := counted.2
    have := counted.1
    simp only [longestCount] at *
    omega
  have more : 10 ^ 19 ≤ 10 ^ Integer.digitLimit := Nat.pow_le_pow_right (by decide) (by decide)
  omega

theorem decode_of_countable {length : Int} (counted : Countable length) (value : Value) :
    decode value length = (ofValue value length).mapError .invalidIdentifier := by
  rw [decode]
  cases read : ofValue value length with
  | ok identifier => rfl
  | error fault =>
    rcases raise_of_ofValue read .invalidIdentifier with ⟨untold, _⟩ | ⟨_, raised⟩
    · exact absurd untold (not_untold_of_countable counted value)
    · exact congrArg Except.error raised

theorem kind?_of_decode_eq_error {value : Value} {length : Int} {e : Error}
    (counted : Countable length) (refused : decode value length = .error e) :
    e.kind? = some .invalidIdentifier := by
  rw [decode_of_countable counted] at refused
  cases read : ofValue value length with
  | ok identifier =>
    rw [read] at refused
    cases refused
  | error fault =>
    rw [read] at refused
    cases refused
    rfl

theorem length_of_decode {value : Value} {length : Int} {identifier : Bytes}
    (decoded : decode value length = .ok identifier) : (identifier.length : Int) = length :=
  (ofValue_eq_ok.mp (decode_eq_ok.mp decoded)).2

theorem requireMember_eq_ok {identifier : Bytes} :
    requireMember identifier = .ok () ↔ identifier.isZero = false := by
  cases zero : identifier.isZero <;> simp [requireMember, zero]

theorem decodeMember_eq_ok {value : Value} {length : Int} {identifier : Bytes} :
    decodeMember value length = .ok identifier ↔
      decode value length = .ok identifier ∧ identifier.isZero = false := by
  constructor
  · intro ok
    rcases bind_eq_ok.mp ok with ⟨data, decoded, ok⟩
    rcases bind_eq_ok.mp ok with ⟨_, member, same⟩
    cases same
    exact ⟨decoded, requireMember_eq_ok.mp member⟩
  · rintro ⟨decoded, nonzero⟩
    exact bind_eq_ok.mpr ⟨identifier, decoded,
      bind_eq_ok.mpr ⟨(), requireMember_eq_ok.mpr nonzero, rfl⟩⟩

end Identifier

namespace LeafSet

variable {s t : LeafSet}

theorem insert_eq_ok {identifier : Bytes} : s.insert identifier = .ok t ↔
    identifier.isZero = false ∧ s.leaves[s.lowerBound identifier]? ≠ some identifier ∧
      t = { s with leaves := s.leaves.take (s.lowerBound identifier) ++
        identifier :: s.leaves.drop (s.lowerBound identifier) } := by
  cases zero : identifier.isZero with
  | true => simp [insert, Identifier.requireMember, zero, bind, Except.bind]
  | false =>
    by_cases present : s.leaves[s.lowerBound identifier]? = some identifier
    · simp [insert, Identifier.requireMember, zero, present, bind, Except.bind, throw, throwThe,
        MonadExceptOf.throw]
    · simp [insert, Identifier.requireMember, zero, present, bind, Except.bind, pure, Except.pure,
        eq_comm]

theorem erase_eq_ok {identifier : Bytes} : s.erase identifier = .ok t ↔
    ∃ i, s.indexOf identifier = .ok i ∧
      t = { s with leaves := s.leaves.take i ++ s.leaves.drop (i + 1) } := by
  rw [erase, bind_eq_ok]
  simp only [pure, Except.pure, Except.ok.injEq, eq_comm (b := t)]

theorem insert_of_isZero {identifier : Bytes} (zero : identifier.isZero = true) :
    s.insert identifier = .error .zeroLeaf := by
  simp [insert, Identifier.requireMember, zero, bind, Except.bind]

theorem insert_of_mem (ascending : s.leaves.Pairwise (· < ·)) {identifier : Bytes}
    (nonzero : identifier.isZero = false) (member : identifier ∈ s.leaves) :
    s.insert identifier = .error (.duplicateLeaf identifier) := by
  simp [insert, Identifier.requireMember, nonzero, (getElem?_lowerBound_iff ascending).mpr member,
    bind, Except.bind, throw, throwThe, MonadExceptOf.throw]

theorem erase_of_not_mem (ascending : s.leaves.Pairwise (· < ·)) {identifier : Bytes}
    (absent : identifier ∉ s.leaves) : s.erase identifier = .error (.leafNotFound identifier) := by
  rw [erase, indexOf_of_not_mem ascending absent]
  rfl

theorem canonical_ofIdentifiers {values : List Value} {length : Int}
    (made : ofIdentifiers values length = .ok s) : s.Canonical := by
  rcases bind_eq_ok.mp made with ⟨identifiers, decoded, made⟩
  cases made
  have origin : ∀ leaf, leaf ∈ identifiers.foldl
      (fun leaves identifier => insertAscending identifier leaves) [] →
      (leaf.length : Int) = length ∧ leaf.isZero = false := by
    intro leaf member
    rw [mem_foldl_insertAscending, or_iff_left List.not_mem_nil] at member
    rcases (mem_iff_of_mapM_ok decoded).mp member with ⟨value, _, ok⟩
    rcases Identifier.decodeMember_eq_ok.mp ok with ⟨ok, nonzero⟩
    exact ⟨Identifier.length_of_decode ok, nonzero⟩
  exact {
    ascending := pairwise_foldl_insertAscending identifiers List.Pairwise.nil
    sized := fun leaf member => (origin leaf member).1
    nonzero := fun leaf member => (origin leaf member).2 }

theorem identifierLength_ofIdentifiers {values : List Value} {length : Int}
    (made : ofIdentifiers values length = .ok s) : s.identifierLength = length := by
  rcases bind_eq_ok.mp made with ⟨identifiers, _, made⟩
  cases made
  rfl

theorem Canonical.insert (canonical : s.Canonical) {identifier : Bytes}
    (sized : (identifier.length : Int) = s.identifierLength)
    (ok : s.insert identifier = .ok t) : t.Canonical := by
  rcases insert_eq_ok.mp ok with ⟨nonzero, absent, rfl⟩
  have cut := cut_lowerBound canonical.ascending identifier
  have origin : ∀ leaf ∈ s.leaves.take (s.lowerBound identifier) ++
      identifier :: s.leaves.drop (s.lowerBound identifier),
      leaf = identifier ∨ leaf ∈ s.leaves := by
    intro leaf member
    rcases List.mem_append.mp member with left | right
    · exact .inr (List.mem_of_mem_take left)
    · rcases List.mem_cons.mp right with same | right
      · exact .inl same
      · exact .inr (List.mem_of_mem_drop right)
  refine ⟨cut.pairwise_insert canonical.ascending absent, ?_, ?_⟩
  · intro leaf member
    rcases origin leaf member with rfl | member
    · exact sized
    · exact canonical.sized leaf member
  · intro leaf member
    rcases origin leaf member with rfl | member
    · exact nonzero
    · exact canonical.nonzero leaf member

theorem Canonical.erase (canonical : s.Canonical) {identifier : Bytes}
    (ok : s.erase identifier = .ok t) : t.Canonical := by
  rcases erase_eq_ok.mp ok with ⟨i, _, rfl⟩
  have kept : (s.leaves.take i ++ s.leaves.drop (i + 1)).Sublist s.leaves := by
    rw [← List.eraseIdx_eq_take_drop_succ]
    exact List.eraseIdx_sublist _ _
  exact {
    ascending := canonical.ascending.sublist kept
    sized := fun leaf member => canonical.sized leaf (kept.mem member)
    nonzero := fun leaf member => canonical.nonzero leaf (kept.mem member) }

/-- The sets made of any values and then changed, a member at a time. -/
inductive Reachable : LeafSet → Prop
  | ofIdentifiers {values : List Value} {length : Int} {s : LeafSet} (nonneg : 0 ≤ length)
      (made : LeafSet.ofIdentifiers values length = .ok s) : Reachable s
  | withLeaf {s t : LeafSet} {value : Value} (reached : Reachable s)
      (ok : s.withLeaf value = .ok t) : Reachable t
  | withoutLeaf {s t : LeafSet} {value : Value} (reached : Reachable s)
      (ok : s.withoutLeaf value = .ok t) : Reachable t

theorem Reachable.canonical (reached : s.Reachable) : s.Canonical := by
  induction reached with
  | ofIdentifiers _ made => exact canonical_ofIdentifiers made
  | withLeaf _ ok ih =>
    rcases bind_eq_ok.mp ok with ⟨identifier, decoded, ok⟩
    exact ih.insert (Identifier.length_of_decode decoded) ok
  | withoutLeaf _ ok ih =>
    rcases bind_eq_ok.mp ok with ⟨identifier, _, ok⟩
    exact ih.erase ok

theorem Reachable.nonneg (reached : s.Reachable) : 0 ≤ s.identifierLength := by
  induction reached with
  | ofIdentifiers nonneg made => rwa [identifierLength_ofIdentifiers made]
  | withLeaf _ ok ih =>
    rcases bind_eq_ok.mp ok with ⟨identifier, _, ok⟩
    rcases insert_eq_ok.mp ok with ⟨_, _, rfl⟩
    exact ih
  | withoutLeaf _ ok ih =>
    rcases bind_eq_ok.mp ok with ⟨identifier, _, ok⟩
    rcases erase_eq_ok.mp ok with ⟨i, _, rfl⟩
    exact ih

end LeafSet

theorem LeafSet.levels_eq_ok {s : LeafSet} {levels : Levels} : s.levels = .ok levels ↔
    (s.isEmpty = true → Identifier.requireCount s.identifierLength = .ok ()) ∧
      levels = Levels.build s.leaves s.identifierLength.toNat := by
  cases empty : s.isEmpty with
  | false => simp [LeafSet.levels, empty, pure, Except.pure, eq_comm]
  | true =>
    cases count : Identifier.requireCount s.identifierLength <;>
      simp [LeafSet.levels, empty, count, bind, Except.bind, pure, Except.pure, eq_comm]

namespace Tree

/-- The trees made of any values and then changed any number of times, whether a change succeeds or
not. -/
inductive Reachable : Tree → Prop
  | create {values : List Value} {length : Int} {tree : Tree}
      (made : (Tree.create values length).result = .ok tree) : Reachable tree
  | after {tree : Tree} (reached : Reachable tree) (change : Change) (value : Value) :
      Reachable (tree.after change value)

theorem create_eq_ok {values : List Value} {length : Int} {tree : Tree} :
    (create values length).result = .ok tree ↔
      ∃ s, LeafSet.ofIdentifiers values length = .ok s ∧ Identifier.Countable length ∧
        tree = ofLeafSet s := by
  rw [← Identifier.requireCount_eq_ok]
  cases made : LeafSet.ofIdentifiers values length with
  | error e => simp [create, made, bind, Except.bind]
  | ok s =>
    cases counted : Identifier.requireCount length <;>
      simp [create, made, counted, bind, Except.bind, pure, Except.pure, eq_comm]

theorem change_eq_ok {tree next : Tree} {change : Change} {value : Value} :
    (tree.change change value).result = .ok next ↔
      ∃ identifier s, tree.decode value = .ok identifier ∧
        changedSet tree.leafSet identifier change = .ok s ∧ next = ofLeafSet s := by
  cases decoded : tree.decode value with
  | error e => simp [Tree.change, decoded]
  | ok identifier =>
    cases changed : changedSet tree.leafSet identifier change <;>
      simp [Tree.change, decoded, changed, eq_comm]

theorem leafSet_reachable_of_change {tree : Tree} {change : Change} {value : Value}
    {identifier : Bytes} {s : LeafSet} (reached : tree.leafSet.Reachable)
    (decoded : tree.decode value = .ok identifier)
    (changed : changedSet tree.leafSet identifier change = .ok s) : s.Reachable := by
  cases change with
  | add => exact .withLeaf reached (bind_eq_ok.mpr ⟨identifier, decoded, changed⟩)
  | remove => exact .withoutLeaf reached (bind_eq_ok.mpr ⟨identifier, decoded, changed⟩)

theorem identifierLength_of_changedSet {s t : LeafSet} {identifier : Bytes} {change : Change}
    (changed : changedSet s identifier change = .ok t) :
    t.identifierLength = s.identifierLength := by
  cases change with
  | add =>
    rcases LeafSet.insert_eq_ok.mp changed with ⟨_, _, rfl⟩
    rfl
  | remove =>
    rcases LeafSet.erase_eq_ok.mp changed with ⟨_, _, rfl⟩
    rfl

theorem Reachable.countable {tree : Tree} (reached : tree.Reachable) :
    Identifier.Countable tree.leafSet.identifierLength := by
  induction reached with
  | create made =>
    rcases create_eq_ok.mp made with ⟨s, members, counted, rfl⟩
    rwa [← LeafSet.identifierLength_ofIdentifiers members] at counted
  | @after tree _ change value ih =>
    cases result : (tree.change change value).result with
    | error e => simpa only [Tree.after, result] using ih
    | ok next =>
      rcases change_eq_ok.mp result with ⟨identifier, s, _, changed, rfl⟩
      simp only [Tree.after, result]
      rwa [← identifierLength_of_changedSet changed] at ih

theorem Reachable.canonical {tree : Tree} (reached : tree.Reachable) :
    tree.leafSet.Reachable ∧ tree = ofLeafSet tree.leafSet := by
  induction reached with
  | create made =>
    rcases create_eq_ok.mp made with ⟨s, members, counted, rfl⟩
    exact ⟨.ofIdentifiers counted.1 members, rfl⟩
  | @after tree _ change value ih =>
    cases result : (tree.change change value).result with
    | error e => simpa only [Tree.after, result] using ih
    | ok next =>
      rcases change_eq_ok.mp result with ⟨identifier, s, decoded, changed, rfl⟩
      simp only [Tree.after, result]
      exact ⟨leafSet_reachable_of_change ih.1 decoded changed, rfl⟩

end Tree

end AnchoredSet
