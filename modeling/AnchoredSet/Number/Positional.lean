/-!
Numbers and their digits, highest first, in any base above one. Main statement: a number is what
its digits write.
-/

namespace AnchoredSet.Positional

def ofDigits (base : Nat) (digits : List Nat) : Nat := digits.foldl (fun n d => n * base + d) 0

def digits (base n : Nat) : List Nat :=
  if _h : n = 0 ∨ base ≤ 1 then [] else digits base (n / base) ++ [n % base]
termination_by n
decreasing_by exact Nat.div_lt_self (by omega) (by omega)

theorem ofDigits_append_singleton (base : Nat) (ds : List Nat) (d : Nat) :
    ofDigits base (ds ++ [d]) = ofDigits base ds * base + d := by
  simp [ofDigits]

theorem ofDigits_digits {base : Nat} (large : 1 < base) (n : Nat) :
    ofDigits base (digits base n) = n := by
  induction n using Nat.strongRecOn with
  | _ n ih =>
    unfold digits
    by_cases h : n = 0
    · simp [h, ofDigits]
    · have small : ¬ (n = 0 ∨ base ≤ 1) := by omega
      rw [dif_neg small, ofDigits_append_singleton, ih _ (Nat.div_lt_self (by omega) large)]
      exact Nat.div_add_mod' n base

theorem digits_lt {base n d : Nat} (present : d ∈ digits base n) : d < base := by
  induction n using Nat.strongRecOn with
  | _ n ih =>
    unfold digits at present
    split at present
    · simp at present
    · rename_i h
      rcases List.mem_append.mp present with front | last
      · exact ih _ (Nat.div_lt_self (by omega) (by omega)) front
      · rw [List.mem_singleton.mp last]
        exact Nat.mod_lt _ (by omega)

end AnchoredSet.Positional
