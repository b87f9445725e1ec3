import AnchoredSet.Proofs.Result

/-!
How a computation that may fail ends: in a result of which something holds, or in an error of some
sort. What is shown of the parts of a computation carries over to the whole.
-/

namespace AnchoredSet

variable {ε ε' α β : Type} {sort : ε → Prop} {sort' : ε' → Prop} {P : α → Prop} {Q : β → Prop}

inductive Ends (sort : ε → Prop) (holds : α → Prop) : Except ε α → Prop
  | ok {result : α} (right : holds result) : Ends sort holds (.ok result)
  | error {e : ε} (among : sort e) : Ends sort holds (.error e)

namespace Ends

theorem iff {ending : Except ε α} : Ends sort P ending ↔
    (∀ result, ending = .ok result → P result) ∧ ∀ e, ending = .error e → sort e := by
  cases ending with
  | ok result =>
    constructor
    · intro ends
      cases ends with
      | ok right => exact ⟨fun _ same => Except.ok.inj same ▸ right, nofun⟩
    · intro ends
      exact .ok (ends.1 result rfl)
  | error e =>
    constructor
    · intro ends
      cases ends with
      | error among => exact ⟨nofun, fun _ same => Except.error.inj same ▸ among⟩
    · intro ends
      exact .error (ends.2 e rfl)

theorem bind {first : Except ε α} {next : α → Except ε β} (ends : Ends sort P first)
    (step : ∀ a, P a → Ends sort Q (next a)) : Ends sort Q (first >>= next) := by
  cases ends with
  | ok right => exact step _ right
  | error among => exact .error among

theorem mapError {first : Except ε α} {f : ε → ε'} (ends : Ends sort P first)
    (step : ∀ e, sort e → sort' (f e)) : Ends sort' P (first.mapError f) := by
  cases ends with
  | ok right => exact .ok right
  | error among => exact .error (step _ among)

theorem mono {other : ε → Prop} {R : α → Prop} {ending : Except ε α} (ends : Ends sort P ending)
    (errors : ∀ e, sort e → other e) (results : ∀ a, P a → R a) : Ends other R ending := by
  cases ends with
  | ok right => exact .ok (results _ right)
  | error among => exact .error (errors _ among)

/-- What is shown of each step of a list holds of all results, and of the first error. -/
theorem mapM {f : α → Except ε β} {inputs : List α} (each : ∀ a ∈ inputs, Ends sort Q (f a)) :
    Ends sort (fun outputs => ∀ b ∈ outputs, Q b) (inputs.mapM f) := by
  induction inputs with
  | nil => exact .ok nofun
  | cons a rest ih =>
    rw [List.mapM_cons]
    apply (each a List.mem_cons_self).bind
    intro b right
    apply (ih fun other member => each other (List.mem_cons_of_mem a member)).bind
    intro others rights
    exact .ok (List.forall_mem_cons.mpr ⟨right, rights⟩)

theorem any (ending : Except ε α) : Ends (fun _ => True) (fun _ => True) ending := by
  cases ending with
  | ok result => exact .ok trivial
  | error e => exact .error trivial

end Ends

end AnchoredSet
