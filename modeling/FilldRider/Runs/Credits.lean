import Mathlib.Data.List.Perm.Basic

/-!
# Credits

Holders earn the right to do something once and may spend it later. Nothing is spent
more often than it was earned when that holds of what was spent together with what
the holders may still spend.
-/

set_option autoImplicit false

namespace FilldRider.Runs

variable {Action Holder : Type}

/-- What was spent, and what the holders may still spend, was earned. -/
def Covered (spends earns : Action → Bool) (holds : Holder → Bool) (history : List Action)
    (holders : List Holder) : Prop :=
  history.countP spends + holders.countP holds ≤ history.countP earns

variable {spends earns : Action → Bool} {holds : Holder → Bool} {history actions : List Action}
  {holders others after : List Holder}

theorem Covered.nil : Covered spends earns holds [] [] := Nat.le_refl 0

theorem Covered.spent (covered : Covered spends earns holds history holders) :
    history.countP spends ≤ history.countP earns := by
  unfold Covered at covered
  omega

/-- A newcomer has earned nothing yet. -/
theorem Covered.join (covered : Covered spends earns holds history holders) {holder : Holder}
    (empty : holds holder = false) :
    Covered spends earns holds history (holders ++ [holder]) := by
  unfold Covered at *
  rw [List.countP_append, List.countP_singleton, empty]
  simpa using covered

theorem Covered.idle (covered : Covered spends earns holds history holders)
    (saves : ∀ action ∈ actions, spends action = false) :
    Covered spends earns holds (history ++ actions) holders := by
  unfold Covered at *
  have unspent : actions.countP spends = 0 := by
    rw [List.countP_eq_zero]
    intro action member
    simp [saves action member]
  rw [List.countP_append, List.countP_append]
  omega

/-- A turn of one holder, after which it may be gone: it spends and keeps no more than
it held and earns. -/
theorem Covered.turn (covered : Covered spends earns holds history holders) {holder : Holder}
    {next : Option Holder} (before : holders.Perm (holder :: others))
    (left : after.Perm (next.toList ++ others))
    (paid : actions.countP spends + next.toList.countP holds ≤
      [holder].countP holds + actions.countP earns) :
    Covered spends earns holds (history ++ actions) after := by
  have held := before.countP_eq holds
  have holding := left.countP_eq holds
  rw [List.countP_cons] at held
  rw [List.countP_append] at holding
  rw [List.countP_singleton] at paid
  unfold Covered at *
  rw [List.countP_append, List.countP_append]
  omega

end FilldRider.Runs
