import AnchoredSet.Settings.Reference

/-!
References in texts. A text parts in one way only into references and texts in which no reference
starts, and replacing the references from the left replaces those of this parting, once each.
-/

namespace AnchoredSet

open Text (Points)

namespace Reference

/-- The references there are: a name that is not empty, without a colon or a closing brace, and
perhaps a text without a closing brace. -/
structure Valid (reference : Reference) : Prop where
  named : reference.name ≠ []
  name : ∀ x ∈ reference.name, x ≠ closing ∧ x ≠ colon
  fallback : ∀ text, reference.fallback = some text → ∀ x ∈ text, x ≠ closing

def Starts (text : Points) : Prop :=
  ∃ reference rest, Valid reference ∧ text = reference.written ++ rest

/-- No reference starts inside a text, which some other text follows. -/
def Plain (inside rest : Points) : Prop :=
  ∀ before after, inside = before ++ after → after ≠ [] → ¬ Starts (after ++ rest)

/-- References, each behind a text, and a last text. -/
structure Parts where
  pieces : List (Points × Reference)
  last : Points

namespace Parts

def prepend (inside : Points) : Parts → Parts
  | ⟨[], last⟩ => ⟨[], inside ++ last⟩
  | ⟨(first, reference) :: pieces, last⟩ => ⟨(inside ++ first, reference) :: pieces, last⟩

def cons (inside : Points) (reference : Reference) (parts : Parts) : Parts :=
  ⟨(inside, reference) :: parts.pieces, parts.last⟩

def references (parts : Parts) : List Reference := parts.pieces.map Prod.snd

def filled (environment : Environment) (parts : Parts) : Points :=
  parts.pieces.flatMap (fun (inside, reference) => inside ++ reference.value environment) ++
    parts.last

@[simp] theorem prepend_nil (parts : Parts) : parts.prepend [] = parts := by
  obtain ⟨_ | ⟨⟨_, _⟩, _⟩, _⟩ := parts <;> rfl

theorem prepend_prepend (outer inner : Points) (parts : Parts) :
    (parts.prepend inner).prepend outer = parts.prepend (outer ++ inner) := by
  obtain ⟨_ | ⟨⟨_, _⟩, _⟩, _⟩ := parts <;> simp [prepend]

theorem prepend_cons (inside : Points) (reference : Reference) (parts : Parts) :
    (parts.cons [] reference).prepend inside = parts.cons inside reference := by
  rw [cons, prepend, List.append_nil]
  rfl

@[simp] theorem references_prepend (inside : Points) (parts : Parts) :
    (parts.prepend inside).references = parts.references := by
  obtain ⟨_ | ⟨⟨_, _⟩, _⟩, _⟩ := parts <;> rfl

@[simp] theorem references_cons (inside : Points) (reference : Reference) (parts : Parts) :
    (parts.cons inside reference).references = reference :: parts.references := rfl

theorem filled_prepend (environment : Environment) (inside : Points)
    (parts : Parts) : (parts.prepend inside).filled environment =
      inside ++ parts.filled environment := by
  obtain ⟨_ | ⟨⟨_, _⟩, _⟩, _⟩ := parts <;> simp [prepend, filled]

theorem filled_cons (environment : Environment) (inside : Points)
    (reference : Reference) (parts : Parts) :
    (parts.cons inside reference).filled environment =
      inside ++ reference.value environment ++ parts.filled environment := by
  simp [cons, filled]

end Parts

/-- How a text parts: every piece is a text in which no reference starts, and a reference. -/
inductive Splits : Points → Parts → Prop
  | last {inside : Points} (plain : Plain inside []) : Splits inside ⟨[], inside⟩
  | piece {inside rest : Points} {reference : Reference} {parts : Parts}
      (plain : Plain inside (reference.written ++ rest)) (valid : Valid reference)
      (splits : Splits rest parts) :
      Splits (inside ++ reference.written ++ rest) (parts.cons inside reference)

section Plain

variable {reference : Reference} {inside rest behind : Points} {x : Nat}

theorem plain_nil (rest : Points) : Plain [] rest := by
  intro before after whole filled
  exact absurd (List.nil_eq_append_iff.mp whole).2 filled

theorem Plain.cons (plain : Plain inside rest) (first : ¬ Starts (x :: inside ++ rest)) :
    Plain (x :: inside) rest := by
  intro before after whole filled
  cases before with
  | nil =>
    rw [List.nil_append] at whole
    rwa [← whole]
  | cons y before => exact plain before after (List.cons.inj whole).2 filled

theorem Plain.tail (plain : Plain (x :: inside) rest) : Plain inside rest := by
  intro before after whole filled
  exact plain (x :: before) after (by rw [whole, List.cons_append]) filled

theorem Plain.head (plain : Plain (x :: inside) rest) : ¬ Starts (x :: (inside ++ rest)) :=
  plain [] (x :: inside) rfl (List.cons_ne_nil _ _)

theorem Splits.cons {text : Points} {parts : Parts} (splits : Splits text parts)
    (first : ¬ Starts (x :: text)) : Splits (x :: text) (parts.prepend [x]) := by
  cases splits with
  | last plain =>
    refine .last (plain.cons ?_)
    rwa [List.append_nil]
  | @piece inside rest reference parts plain valid splits =>
    refine .piece (plain.cons ?_) valid splits
    rwa [List.cons_append, ← List.append_assoc]

theorem splits_written (valid : Valid reference) :
    Splits reference.written ⟨[([], reference)], []⟩ := by
  have splits := Splits.piece (plain_nil _) valid (.last (plain_nil []))
  rwa [List.append_nil, List.nil_append] at splits

theorem drop_of_written (whole : x :: rest = reference.written ++ behind) :
    rest.drop (reference.written.length - 1) = behind := by
  obtain ⟨count, length⟩ : ∃ count, reference.written.length = count + 1 := by
    rw [written, List.length_append]
    exact ⟨_, rfl⟩
  calc
    rest.drop (reference.written.length - 1) = (x :: rest).drop reference.written.length := by
      rw [length, List.drop_succ_cons, Nat.add_sub_cancel]
    _ = behind := by rw [whole, List.drop_left]

end Plain

/-! What is read at the front of a text. -/

section Read

variable {reference : Reference} {text rest : Points} {x : Nat}

theorem isNamePoint_iff : isNamePoint x = true ↔ x ≠ closing ∧ x ≠ colon := by
  simp [isNamePoint]

theorem eq_closing_of_isNamePoint (stop : isNamePoint x = false) (other : x ≠ colon) :
    x = closing := by
  simpa [isNamePoint, other] using stop

theorem takeWhile_append_cons {β : Type} {p : β → Bool} {inside rest : List β} {x : β}
    (all : ∀ y ∈ inside, p y = true) (stop : p x = false) :
    (inside ++ x :: rest).takeWhile p = inside := by
  rw [List.takeWhile_append_of_pos all, List.takeWhile_cons_of_neg (by simp [stop]),
    List.append_nil]

theorem exists_takeWhile {β : Type} (p : β → Bool) (list : List β) :
    list = list.takeWhile p ++ list.drop (list.takeWhile p).length ∧
      (∀ y ∈ list.takeWhile p, p y = true) ∧
      ∀ y rest, list.drop (list.takeWhile p).length = y :: rest → p y = false := by
  induction list with
  | nil => simp
  | cons z list ih =>
    by_cases pass : p z = true
    · obtain ⟨whole, all, stop⟩ := ih
      rw [List.takeWhile_cons_of_pos pass]
      refine ⟨?_, List.forall_mem_cons.mpr ⟨pass, all⟩, stop⟩
      rw [List.length_cons, List.drop_succ_cons, List.cons_append, ← whole]
    · rw [List.takeWhile_cons_of_neg pass]
      refine ⟨rfl, nofun, ?_⟩
      rintro y rest ⟨⟩
      simpa using pass

theorem read?_opening_append (inner : Points) : read? (opening ++ inner) =
    if inner.takeWhile isNamePoint = [] then none
    else readEnd? (inner.takeWhile isNamePoint)
      (inner.drop (inner.takeWhile isNamePoint).length) := by
  have opened : opening.isPrefixOf (opening ++ inner) = true := by simp
  rw [read?, if_pos opened, List.drop_left]

theorem read?_written (valid : Valid reference) (rest : Points) :
    read? (reference.written ++ rest) = some reference := by
  obtain ⟨name, fallback⟩ := reference
  have symbols : ∀ x ∈ name, isNamePoint x = true := fun x member =>
    isNamePoint_iff.mpr (valid.name x member)
  have named : name ≠ [] := valid.named
  cases fallback with
  | none =>
    have text : written ⟨name, none⟩ ++ rest = opening ++ (name ++ closing :: rest) := by
      simp [written]
    rw [text, read?_opening_append, takeWhile_append_cons symbols (by decide), List.drop_left,
      if_neg named, readEnd?, if_neg (show closing ≠ colon by decide)]
  | some other =>
    have text : written ⟨name, some other⟩ ++ rest =
        opening ++ (name ++ colon :: (other ++ closing :: rest)) := by
      simp [written]
    have inside : ∀ x ∈ other, decide (x ≠ closing) = true := fun x member =>
      decide_eq_true (valid.fallback other rfl x member)
    have read : (other ++ closing :: rest).takeWhile (· ≠ closing) = other :=
      takeWhile_append_cons inside (by simp)
    rw [text, read?_opening_append, takeWhile_append_cons symbols (by decide), List.drop_left,
      if_neg named, readEnd?, if_pos rfl]
    dsimp only
    rw [read, List.drop_left, if_neg (List.cons_ne_nil _ _)]

theorem exists_closing (closed : rest.drop (rest.takeWhile (· ≠ closing)).length ≠ []) :
    (∀ y ∈ rest.takeWhile (· ≠ closing), y ≠ closing) ∧
      ∃ tail, rest = rest.takeWhile (· ≠ closing) ++ closing :: tail := by
  obtain ⟨whole, inside, stop⟩ := exists_takeWhile (fun y => decide (y ≠ closing)) rest
  obtain ⟨y, tail, shape⟩ := List.exists_cons_of_ne_nil closed
  have ends : y = closing := by simpa using stop y tail shape
  rw [ends] at shape
  refine ⟨fun z member => of_decide_eq_true (inside z member), tail, ?_⟩
  rw [← shape]
  exact whole

theorem exists_of_readEnd? {name tail : Points} (found : readEnd? name tail = some reference)
    (stop : ∀ y rest, tail = y :: rest → isNamePoint y = false) :
    reference.name = name ∧
      (∀ text, reference.fallback = some text → ∀ x ∈ text, x ≠ closing) ∧
      ∃ rest, opening ++ (name ++ tail) = reference.written ++ rest := by
  cases tail with
  | nil => cases found
  | cons x rest =>
    have ends := stop x rest rfl
    rw [readEnd?] at found
    split at found
    · rename_i behind
      dsimp only at found
      split at found
      · cases found
      · rename_i closed
        cases found
        obtain ⟨inside, tail, shape⟩ := exists_closing closed
        refine ⟨rfl, ?_, tail, ?_⟩
        · rintro _ ⟨⟩
          exact inside
        · rw [written, behind]
          generalize rest.takeWhile (· ≠ closing) = other at shape
          simp [shape]
    · rename_i other
      obtain rfl := eq_closing_of_isNamePoint ends other
      cases found
      refine ⟨rfl, ?_, rest, ?_⟩
      · intro _ given
        cases given
      · simp [written]

theorem exists_of_read? (found : read? text = some reference) :
    Valid reference ∧ ∃ rest, text = reference.written ++ rest := by
  by_cases opened : opening.isPrefixOf text = true
  · obtain ⟨inner, rfl⟩ := List.isPrefixOf_iff_prefix.mp opened
    obtain ⟨whole, symbols, stop⟩ := exists_takeWhile isNamePoint inner
    rw [read?_opening_append] at found
    split at found
    · cases found
    · rename_i named
      obtain ⟨name, fallback, rest, shape⟩ := exists_of_readEnd? found stop
      rw [← whole] at shape
      refine ⟨⟨name ▸ named, ?_, fallback⟩, rest, shape⟩
      intro x member
      rw [name] at member
      exact isNamePoint_iff.mp (symbols x member)
  · rw [read?, if_neg opened] at found
    cases found

theorem read?_eq_none_iff : read? text = none ↔ ¬ Starts text := by
  constructor
  · rintro none ⟨reference, rest, valid, rfl⟩
    rw [read?_written valid] at none
    cases none
  · intro plain
    cases found : read? text with
    | none => rfl
    | some reference =>
      obtain ⟨valid, rest, whole⟩ := exists_of_read? found
      exact absurd ⟨reference, rest, valid, whole⟩ plain

end Read

def parts : Points → Parts
  | [] => ⟨[], []⟩
  | x :: rest =>
    match read? (x :: rest) with
    | some reference => (parts (rest.drop (reference.written.length - 1))).cons [] reference
    | none => (parts rest).prepend [x]
termination_by text => text.length
decreasing_by all_goals simp only [List.length_drop, List.length_cons]; omega

section Parting

variable {reference : Reference} {text inside rest : Points} {found : Parts} {x : Nat}

theorem parts_written_append (valid : Valid reference) (rest : Points) :
    parts (reference.written ++ rest) = (parts rest).cons [] reference := by
  obtain ⟨x, others, shape⟩ : ∃ x others, reference.written ++ rest = x :: others :=
    ⟨_, _, rfl⟩
  rw [shape, parts, ← shape, read?_written valid]
  dsimp only
  rw [drop_of_written shape.symm]

theorem parts_cons_of_not_starts (plain : ¬ Starts (x :: rest)) :
    parts (x :: rest) = (parts rest).prepend [x] := by
  rw [parts, read?_eq_none_iff.mpr plain]

theorem expand_eq_filled (environment : Environment) (text : Points) :
    expand environment text = (parts text).filled environment := by
  fun_induction parts text with
  | case1 =>
    rw [expand]
    rfl
  | case2 x rest reference found ih =>
    rw [expand, found, Parts.filled_cons, ← ih]
    rfl
  | case3 x rest none ih =>
    rw [expand, none, Parts.filled_prepend, ← ih]
    rfl

theorem inText_eq_references (text : Points) : inText text = (parts text).references := by
  fun_induction parts text with
  | case1 =>
    rw [inText]
    rfl
  | case2 x rest reference found ih =>
    rw [inText, found, Parts.references_cons, ← ih]
  | case3 x rest none ih =>
    rw [inText, none, Parts.references_prepend, ← ih]

theorem splits_parts (text : Points) : Splits text (parts text) := by
  fun_induction parts text with
  | case1 => exact .last (plain_nil [])
  | case2 x rest reference found ih =>
    obtain ⟨valid, behind, whole⟩ := exists_of_read? found
    rw [drop_of_written whole] at ih ⊢
    rw [whole]
    exact .piece (plain_nil _) valid ih
  | case3 x rest none ih => exact ih.cons (read?_eq_none_iff.mp none)

theorem parts_append_of_plain (plain : Plain inside rest) :
    parts (inside ++ rest) = (parts rest).prepend inside := by
  induction inside with
  | nil => exact (Parts.prepend_nil _).symm
  | cons x inside ih =>
    rw [List.cons_append, parts_cons_of_not_starts plain.head, ih plain.tail,
      Parts.prepend_prepend, List.singleton_append]

theorem parts_eq_of_splits (splits : Splits text found) :
    parts text = found := by
  induction splits with
  | @last inside plain =>
    have whole := parts_append_of_plain plain
    rw [List.append_nil] at whole
    rw [whole, parts, Parts.prepend, List.append_nil]
  | @piece inside rest reference found plain valid splits ih =>
    rw [List.append_assoc, parts_append_of_plain plain, parts_written_append valid, ih,
      Parts.prepend_cons]

theorem splits_iff : Splits text found ↔ found = parts text := by
  constructor
  · intro splits
    exact (parts_eq_of_splits splits).symm
  · rintro rfl
    exact splits_parts text

end Parting

end Reference

end AnchoredSet
