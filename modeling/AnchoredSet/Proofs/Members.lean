import AnchoredSet.Proofs.Inclusion
import Mathlib.Data.Finset.Sort

/-!
The tree as a machine on sets. A set of identifiers is changed by putting one in or taking one out;
a tree that is made of values and then changed any number of times, with failures in between, is
after every call the tree over the set that the same calls make.
-/

namespace AnchoredSet

abbrev Members := Finset Bytes

namespace Members

def ofValues (values : List Value) (length : Int) : Members :=
  (values.filterMap fun value => (Identifier.ofValue value length).toOption).toFinset

def changed (members : Members) (identifier : Bytes) : Change → Except Error Members
  | .add =>
    if identifier.isZero then .error .zeroLeaf
    else if identifier ∈ members then .error (.duplicateLeaf identifier)
    else .ok (insert identifier members)
  | .remove =>
    if identifier ∈ members then .ok (members.erase identifier)
    else .error (.leafNotFound identifier)

/-- Puts an identifier in or takes it out. A value that is none is refused before all else. -/
def change (members : Members) (length : Int) (change : Change) (value : Value) :
    Except Error Members :=
  match Identifier.ofValue value length with
  | .error fault => .error (.invalidIdentifier fault)
  | .ok identifier => members.changed identifier change

def after (members : Members) (length : Int) (change : Change) (value : Value) : Members :=
  match members.change length change value with
  | .ok next => next
  | .error _ => members

def run (members : Members) (length : Int) : List (Change × Value) → Members
  | [] => members
  | (change, value) :: rest => (members.after length change value).run length rest

def history (values : List Value) (length : Int) (calls : List (Change × Value)) : Members :=
  (ofValues values length).run length calls

def leafSet (members : Members) (length : Int) : LeafSet := ⟨members.sort, length⟩

def tree (members : Members) (length : Int) : Tree := Tree.ofLeafSet (members.leafSet length)

end Members

def Tree.run (tree : Tree) : List (Change × Value) → Tree
  | [] => tree
  | (change, value) :: rest => (tree.after change value).run rest

namespace Members

variable {members : Members} {length : Int}

theorem mem_ofValues {values : List Value} {identifier : Bytes} :
    identifier ∈ ofValues values length ↔
      ∃ value ∈ values, Identifier.ofValue value length = .ok identifier := by
  have toOption (value : Value) :
      (Identifier.ofValue value length).toOption = some identifier ↔
        Identifier.ofValue value length = .ok identifier := by
    cases Identifier.ofValue value length <;> simp [Except.toOption]
  simp only [ofValues, List.mem_toFinset, List.mem_filterMap, toOption]

theorem ascending_sort (members : Members) : members.sort.Pairwise (· < ·) :=
  List.Pairwise.imp₂ (fun _ _ below differ => Std.lt_of_le_of_ne below differ)
    (members.pairwise_sort _) (members.sort_nodup _)

theorem sort_eq_of_ascending {leaves : List Bytes} (ascending : leaves.Pairwise (· < ·))
    (same : ∀ identifier, identifier ∈ members ↔ identifier ∈ leaves) : members.sort = leaves := by
  obtain rfl : members = leaves.toFinset := by
    ext identifier
    rw [same, List.mem_toFinset]
  exact (List.toFinset_sort _ (nodup_of_ascending ascending)).mpr (ascending.imp Std.le_of_lt)

theorem sort_insert {identifier : Bytes} {place : Nat} (cut : Cut members.sort identifier place)
    (absent : identifier ∉ members) : (insert identifier members).sort =
      members.sort.take place ++ identifier :: members.sort.drop place := by
  apply sort_eq_of_ascending
  · refine cut.pairwise_insert members.ascending_sort fun stored => absent ?_
    exact (Finset.mem_sort _).mp (List.mem_of_getElem? stored)
  · intro other
    have parts : other ∈ members ↔
        other ∈ members.sort.take place ∨ other ∈ members.sort.drop place := by
      rw [← List.mem_append, List.take_append_drop, Finset.mem_sort]
    rw [Finset.mem_insert, parts, List.mem_append, List.mem_cons, or_left_comm]

theorem sort_erase {identifier : Bytes} {place : Nat}
    (stored : members.sort[place]? = some identifier) : (members.erase identifier).sort =
      members.sort.take place ++ members.sort.drop (place + 1) := by
  rcases List.getElem?_eq_some_iff.mp stored with ⟨inside, same⟩
  have nodup := members.sort_nodup (· ≤ ·)
  rw [← List.eraseIdx_eq_take_drop_succ, ← nodup.erase_getElem place inside, same]
  apply sort_eq_of_ascending
  · exact members.ascending_sort.sublist List.erase_sublist
  · intro other
    rw [Finset.mem_erase, nodup.mem_erase_iff, Finset.mem_sort]

theorem changedSet_leafSet (members : Members) (length : Int) (identifier : Bytes)
    (change : Change) : Tree.changedSet (members.leafSet length) identifier change =
      (members.changed identifier change).map (·.leafSet length) := by
  have ascending : (members.leafSet length).leaves.Pairwise (· < ·) := members.ascending_sort
  have stored : identifier ∈ (members.leafSet length).leaves ↔ identifier ∈ members :=
    Finset.mem_sort _
  cases change with
  | add =>
    cases zero : identifier.isZero with
    | true =>
      rw [Tree.changedSet, LeafSet.insert_of_isZero zero, changed, if_pos zero]
      rfl
    | false =>
      rw [Tree.changedSet, changed, if_neg (by simp [zero])]
      by_cases member : identifier ∈ members
      · rw [LeafSet.insert_of_mem ascending zero (stored.mpr member), if_pos member]
        rfl
      · rw [if_neg member]
        refine LeafSet.insert_eq_ok.mpr ⟨zero, ?_, ?_⟩
        · rwa [ne_eq, LeafSet.getElem?_lowerBound_iff ascending, stored]
        · exact congrArg (LeafSet.mk · length)
            (sort_insert (LeafSet.cut_lowerBound ascending identifier) member)
  | remove =>
    rw [Tree.changedSet, changed]
    by_cases member : identifier ∈ members
    · rcases List.mem_iff_getElem?.mp (stored.mpr member) with ⟨place, found⟩
      rw [if_pos member]
      exact LeafSet.erase_eq_ok.mpr ⟨place, (LeafSet.indexOf_eq_ok_iff ascending).mpr found,
        congrArg (LeafSet.mk · length) (sort_erase found)⟩
    · rw [LeafSet.erase_of_not_mem ascending (stored.not.mpr member), if_neg member]
      rfl

section Counted

variable (counted : Identifier.Countable length)
include counted

theorem result_change_tree (members : Members) (change : Change) (value : Value) :
    ((members.tree length).change change value).result =
      (members.change length change value).map (·.tree length) := by
  have decoded : (members.tree length).decode value =
      (Identifier.ofValue value length).mapError .invalidIdentifier :=
    Identifier.decode_of_countable counted value
  have changed (identifier : Bytes) := members.changedSet_leafSet length identifier change
  rw [Tree.change, decoded, Members.change]
  cases Identifier.ofValue value length with
  | error fault => rfl
  | ok identifier =>
    have shape : (members.tree length).leafSet = members.leafSet length := rfl
    simp only [mapError_ok, shape, changed]
    cases members.changed identifier change <;> rfl

theorem answer_change_tree (members : Members) (change : Change) (value : Value) :
    Tree.answer ((members.tree length).change change value) =
      (members.change length change value).map fun _ =>
        ((members.tree length).after change value).root := by
  rw [Tree.answer, Tree.after, result_change_tree counted]
  cases members.change length change value <;> rfl

theorem after_tree (members : Members) (change : Change) (value : Value) :
    (members.tree length).after change value = (members.after length change value).tree length := by
  rw [Tree.after, after, result_change_tree counted]
  cases members.change length change value <;> rfl

theorem run_tree (members : Members) (calls : List (Change × Value)) :
    (members.tree length).run calls = (members.run length calls).tree length := by
  induction calls generalizing members with
  | nil => rfl
  | cons call rest ih => rw [Tree.run, after_tree counted, ih, run]

end Counted

theorem ofIdentifiers_eq_ok {values : List Value} {s : LeafSet}
    (made : LeafSet.ofIdentifiers values length = .ok s) :
    s = (ofValues values length).leafSet length := by
  rcases bind_eq_ok.mp made with ⟨identifiers, decoded, made⟩
  cases made
  refine congrArg (LeafSet.mk · length) (sort_eq_of_ascending ?_ ?_).symm
  · exact pairwise_foldl_insertAscending identifiers List.Pairwise.nil
  intro identifier
  rw [mem_foldl_insertAscending, or_iff_left List.not_mem_nil, mem_ofValues,
    mem_iff_of_mapM_ok decoded]
  refine exists_congr fun value => and_congr_right fun member => ?_
  -- Every value decodes to a member, so none of them is left out.
  rcases exists_of_mapM_ok decoded member with ⟨other, read⟩
  have named := Identifier.decode_eq_ok.mp (Identifier.decodeMember_eq_ok.mp read).1
  rw [read, named, Except.ok.injEq, Except.ok.injEq]

theorem create_eq_ok_tree {values : List Value} {tree : Tree}
    (made : (Tree.create values length).result = .ok tree) :
    Identifier.Countable length ∧ tree = (ofValues values length).tree length := by
  rcases Tree.create_eq_ok.mp made with ⟨s, members, counted, rfl⟩
  obtain rfl := ofIdentifiers_eq_ok members
  exact ⟨counted, rfl⟩

theorem run_eq_tree {values : List Value} {tree : Tree}
    (made : (Tree.create values length).result = .ok tree) (calls : List (Change × Value)) :
    tree.run calls = (history values length calls).tree length := by
  obtain ⟨counted, rfl⟩ := create_eq_ok_tree made
  rw [run_tree counted, history]

end Members

namespace Tree

variable {tree : Tree} {change : Change} {value : Value}

theorem Reachable.run (reached : tree.Reachable) (calls : List (Change × Value)) :
    (tree.run calls).Reachable := by
  induction calls generalizing tree with
  | nil => exact reached
  | cons call rest ih => exact ih (reached.after call.1 call.2)

theorem after_of_answer_eq_error {e : Error}
    (refused : answer (tree.change change value) = .error e) : tree.after change value = tree := by
  rw [answer] at refused
  rw [after]
  cases result : (tree.change change value).result with
  | error _ => rfl
  | ok next =>
    rw [result] at refused
    cases refused

end Tree

/-- A tree that stores a set: its members in ascending order, and the levels built of them. -/
structure Stores (tree : Tree) (length : Int) (members : Members) : Prop where
  leaves : tree.rawLeaves = members.sort
  ascending : tree.rawLeaves.Pairwise (· < ·)
  sized : ∀ identifier ∈ members, (identifier.length : Int) = length
  nonzero : ∀ identifier ∈ members, identifier.isZero = false
  levels : tree.levels = Levels.build tree.rawLeaves length.toNat
  rooted : tree.root? = some tree.root

namespace Stores

variable {tree other : Tree} {length length' : Int} {members : Members}

theorem of_reachable (reached : (members.tree length).Reachable) :
    Stores (members.tree length) length members := by
  have canonical := reached.canonical.1.canonical
  have stored {identifier : Bytes} (member : identifier ∈ members) :
      identifier ∈ (members.tree length).leafSet.leaves := (Finset.mem_sort _).mpr member
  refine ⟨rfl, canonical.ascending, ?_, ?_, rfl, ?_⟩
  · exact fun identifier member => canonical.sized identifier (stored member)
  · exact fun identifier member => canonical.nonzero identifier (stored member)
  · have rooted : (members.tree length).root? = _ := LeafSet.root?_build_slots _
    rw [Tree.root, rooted]
    rfl

theorem of_create {values : List Value} (made : (Tree.create values length).result = .ok tree)
    (calls : List (Change × Value)) :
    Stores (tree.run calls) length (Members.history values length calls) := by
  have reached := (Tree.Reachable.create made).run calls
  rw [Members.run_eq_tree made] at reached ⊢
  exact of_reachable reached

theorem levels_eq (stores : Stores tree length members) (stores' : Stores other length' members)
    (empty : members = ∅ → length = length') : tree.levels = other.levels := by
  have same : length = length' := by
    rcases members.eq_empty_or_nonempty with none | ⟨identifier, member⟩
    · exact empty none
    · rw [← stores.sized identifier member, stores'.sized identifier member]
  rw [stores.levels, stores'.levels, stores.leaves, stores'.leaves, same]

end Stores

def Sample.calls : List (Change × Value) :=
  [(.remove, .bytes .constant [3]), (.add, .bytes .view [0]), (.add, .bytes .constant [3, 0]),
    (.add, .bytes .buffer [3])]

/-- After any number of calls, a tree that is made of values stores the set that the calls make of
the identifiers. A call succeeds and fails as it does on the set, answers the new root, and changes
nothing when it fails. Trees that have come to the same set have the same levels. -/
theorem run_stores {values : List Value} {length : Int} {tree : Tree}
    (made : (Tree.create values length).result = .ok tree) (calls : List (Change × Value)) :
    Stores (tree.run calls) length (Members.history values length calls) ∧
      (∀ change value, Tree.answer ((tree.run calls).change change value) =
        ((Members.history values length calls).change length change value).map
          fun _ => ((tree.run calls).after change value).root) ∧
      (∀ change value e, Tree.answer ((tree.run calls).change change value) = .error e →
        (tree.run calls).after change value = tree.run calls) ∧
      ∀ {values' : List Value} {length' : Int} {tree' : Tree},
        (Tree.create values' length').result = .ok tree' →
        ∀ calls', Members.history values length calls = Members.history values' length' calls' →
          (Members.history values length calls = ∅ → length = length') →
          (tree.run calls).levels = (tree'.run calls').levels ∧
            (tree.run calls).root? = (tree'.run calls').root? := by
  have stores := Stores.of_create made calls
  refine ⟨stores, ?_, ?_, ?_⟩
  · intro change value
    rw [Members.run_eq_tree made]
    exact Members.answer_change_tree (Members.create_eq_ok_tree made).1 _ change value
  · intro change value e refused
    exact Tree.after_of_answer_eq_error refused
  · intro values' length' tree' made' calls' same empty
    have stores' := Stores.of_create made' calls'
    rw [← same] at stores'
    have levels := stores.levels_eq stores' empty
    exact ⟨levels, congrArg Levels.root? levels⟩

theorem run_stores_again :
    ((Tree.ofLeafSet Sample.leafSet).run Sample.calls).levels =
        (Tree.ofLeafSet Sample.leafSet).levels ∧
      Tree.answer (((Tree.ofLeafSet Sample.leafSet).run Sample.calls).add
        (.bytes .constant [3])) = .error (.duplicateLeaf [3]) := by
  rcases run_stores Sample.created Sample.calls with ⟨_, answers, _, same⟩
  exact ⟨(same Sample.created [] (by decide) (by decide)).1,
    answers .add (.bytes .constant [3])⟩

end AnchoredSet
