/-!
Computations that may fail. What a sequence of steps gives, or one step on each element of a list,
is told by the results of all steps, and its error by the first step that is refused.
-/

namespace AnchoredSet

variable {ε ε' α β : Type}

theorem bind_eq_ok {x : Except ε α} {f : α → Except ε β} {result : β} :
    (x >>= f) = .ok result ↔ ∃ a, x = .ok a ∧ f a = .ok result := by
  cases x <;> simp [bind, Except.bind]

theorem bind_eq_error {x : Except ε α} {f : α → Except ε β} {e : ε} :
    (x >>= f) = .error e ↔ x = .error e ∨ ∃ a, x = .ok a ∧ f a = .error e := by
  cases x <;> simp [bind, Except.bind]

theorem map_eq_ok {x : Except ε α} {f : α → β} {b : β} :
    x.map f = .ok b ↔ ∃ a, x = .ok a ∧ b = f a := by
  cases x <;> simp [Except.map, eq_comm]

@[simp] theorem map_eq_error {x : Except ε α} {f : α → β} {e : ε} :
    x.map f = .error e ↔ x = .error e := by
  cases x <;> simp [Except.map]

theorem map_prodMk_eq_ok {a : α} {x : Except ε β} {pair : α × β} :
    (x.map fun b => (a, b)) = .ok pair ↔ a = pair.1 ∧ x = .ok pair.2 := by
  rcases pair with ⟨c, d⟩
  cases x <;> simp [Except.map]

@[simp] theorem mapError_ok (f : ε → ε') (a : α) : (Except.ok a).mapError f = .ok a := rfl

@[simp] theorem mapError_error (f : ε → ε') (e : ε) :
    (Except.error e : Except ε α).mapError f = .error (f e) := rfl

@[simp] theorem mapError_eq_ok {x : Except ε α} {f : ε → ε'} {a : α} :
    x.mapError f = .ok a ↔ x = .ok a := by
  cases x <;> simp

theorem mapError_eq_error {x : Except ε α} {f : ε → ε'} {e : ε'} :
    x.mapError f = .error e ↔ ∃ cause, x = .error cause ∧ f cause = e := by
  cases x <;> simp

theorem mapError_bind (f : ε → ε') (first : Except ε α) (next : α → Except ε β) :
    (first.bind next).mapError f = (first.mapError f).bind fun a => (next a).mapError f := by
  cases first <;> rfl

theorem mapError_map (f : ε → ε') (g : α → β) (first : Except ε α) :
    (first.map g).mapError f = (first.mapError f).map g := by
  cases first <;> rfl

theorem mapM_eq_ok_iff {f : α → Except ε β} {inputs : List α} {outputs : List β} :
    inputs.mapM f = .ok outputs ↔ inputs.map f = outputs.map .ok := by
  induction inputs generalizing outputs with
  | nil => simp [pure, Except.pure, eq_comm]
  | cons input rest ih =>
    rw [List.mapM_cons, bind_eq_ok, List.map_cons]
    constructor
    · rintro ⟨first, head, ok⟩
      rcases bind_eq_ok.mp ok with ⟨others, tail, ok⟩
      cases ok
      rw [List.map_cons, head, ih.mp tail]
    · intro same
      rcases outputs with _ | ⟨first, others⟩
      · cases same
      · rw [List.map_cons, List.cons.injEq] at same
        exact ⟨first, same.1, bind_eq_ok.mpr ⟨others, ih.mpr same.2, rfl⟩⟩

theorem mapM_cons_eq_error_iff {f : α → Except ε β} {input : α} {rest : List α} {e : ε} :
    (input :: rest).mapM f = .error e ↔
      f input = .error e ∨ (∃ output, f input = .ok output) ∧ rest.mapM f = .error e := by
  rw [List.mapM_cons, bind_eq_error]
  simp [bind_eq_error, pure, Except.pure]

theorem mapM_eq_error_iff {f : α → Except ε β} {inputs : List α} {e : ε} :
    inputs.mapM f = .error e ↔ ∃ before input after, inputs = before ++ input :: after ∧
      (∀ other ∈ before, ∃ output, f other = .ok output) ∧ f input = .error e := by
  induction inputs with
  | nil => simp [pure, Except.pure]
  | cons first rest ih =>
    rw [mapM_cons_eq_error_iff, ih]
    constructor
    · rintro (refused | ⟨accepted, before, input, after, rfl, earlier, refused⟩)
      · exact ⟨[], first, rest, rfl, List.forall_mem_nil _, refused⟩
      · exact ⟨first :: before, input, after, rfl,
          List.forall_mem_cons.mpr ⟨accepted, earlier⟩, refused⟩
    · rintro ⟨before, input, after, shape, earlier, refused⟩
      cases before with
      | nil =>
        obtain ⟨rfl, _⟩ := List.cons.inj shape
        exact .inl refused
      | cons other before =>
        obtain ⟨rfl, others⟩ := List.cons.inj shape
        rw [List.forall_mem_cons] at earlier
        exact .inr ⟨earlier.1, before, input, after, others, earlier.2, refused⟩

theorem mem_iff_of_mapM_ok {f : α → Except ε β} {inputs : List α}
    {outputs : List β} (ok : inputs.mapM f = .ok outputs) {b : β} :
    b ∈ outputs ↔ ∃ a ∈ inputs, f a = .ok b := by
  have same : .ok b ∈ inputs.map f ↔ .ok b ∈ outputs.map (Except.ok (ε := ε)) := by
    rw [mapM_eq_ok_iff.mp ok]
  simpa using same.symm

theorem exists_of_mapM_ok {f : α → Except ε β} {inputs : List α}
    {outputs : List β} (ok : inputs.mapM f = .ok outputs) {a : α} (member : a ∈ inputs) :
    ∃ b, f a = .ok b := by
  have image := List.mem_map_of_mem (f := f) member
  rw [mapM_eq_ok_iff.mp ok] at image
  rcases List.mem_map.mp image with ⟨b, _, same⟩
  exact ⟨b, same.symm⟩

theorem mapM_of_forall_ok {f : β → Except ε α} {g : α → β} {inputs : List α}
    (each : ∀ input ∈ inputs, f (g input) = .ok input) : (inputs.map g).mapM f = .ok inputs := by
  rw [mapM_eq_ok_iff, List.map_map]
  exact List.map_congr_left each

theorem map_eq_of_mapM_ok {f : α → Except ε β} {g : β → α} {form : α → α}
    {inputs : List α} {outputs : List β}
    (each : ∀ input ∈ inputs, ∀ output, f input = .ok output → g output = form input)
    (ok : inputs.mapM f = .ok outputs) : outputs.map g = inputs.map form := by
  induction inputs generalizing outputs with
  | nil =>
    cases ok
    rfl
  | cons input rest ih =>
    rw [List.forall_mem_cons] at each
    rw [List.mapM_cons] at ok
    obtain ⟨first, head, ok⟩ := bind_eq_ok.mp ok
    obtain ⟨others, tail, ok⟩ := bind_eq_ok.mp ok
    cases ok
    rw [List.map_cons, List.map_cons, each.1 first head, ih each.2 tail]

end AnchoredSet
