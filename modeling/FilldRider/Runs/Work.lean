import FilldRider.Runs.Reach

/-!
# Work that is left

What a component still has to do of itself is a number that its inner steps take from,
with everything they emit, and that only events from outside add to. So every run of
inner steps comes to an end.
-/

set_option autoImplicit false

namespace FilldRider.Runs

section Weights

variable {Entry : Type} {weight : Entry → Nat} {entries : List Entry} {index : Nat}
  {entry other : Entry}

/-- The weight of a list is that of one entry and of the others. -/
theorem cost_eraseIdx (weight : Entry → Nat) (present : entries[index]? = some entry) :
    cost weight (entries.eraseIdx index) + weight entry = cost weight entries := by
  induction entries generalizing index with
  | nil => cases present
  | cons first rest ih =>
      cases index with
      | zero =>
          cases present
          exact Nat.add_comm ..
      | succ index =>
          rw [List.eraseIdx_cons_succ, cost_cons, cost_cons, Nat.add_assoc, ih present]

theorem cost_set (weight : Entry → Nat) (present : entries[index]? = some entry)
    (other : Entry) :
    cost weight (entries.set index other) + weight entry = cost weight entries + weight other := by
  induction entries generalizing index with
  | nil => cases present
  | cons first rest ih =>
      cases index with
      | zero =>
          cases present
          rw [List.set_cons_zero, cost_cons, cost_cons]
          omega
      | succ index =>
          rw [List.set_cons_succ, cost_cons, cost_cons, Nat.add_assoc, ih present, Nat.add_assoc]

theorem exists_of_cost_pos (left : 0 < cost weight entries) :
    ∃ (index : Nat) (entry : Entry), entries[index]? = some entry ∧ 0 < weight entry := by
  induction entries with
  | nil => cases left
  | cons first rest ih =>
      rw [cost_cons] at left
      by_cases here : 0 < weight first
      · exact ⟨0, first, rfl, here⟩
      · obtain ⟨index, entry, present, positive⟩ := ih (by omega)
        exact ⟨index + 1, entry, present, positive⟩

end Weights

variable {State Event Action : Type} {step : Component State Event Action}

/-- A step of the component's own takes from the work left; an event from outside adds
its price. What is emitted counts as done. -/
def Works (step : Component State Event Action) (inner : Event → Bool) (price : Event → Nat)
    (left : State → Nat) : Prop :=
  ∀ {state event next emitted}, step state event = some (next, emitted) →
    left next + emitted.length + (inner event).toNat ≤ left state + price event

variable {inner : Event → Bool} {price : Event → Nat} {left : State → Nat}

/-- All that is done in a run was left before, or paid for. -/
theorem Works.run (works : Works step inner price left) {state last : State}
    {events : List Event} {emitted : List Action}
    (run : exec step state events = some (last, emitted)) :
    left last + emitted.length + events.countP inner ≤ left state + cost price events := by
  induction events generalizing state emitted with
  | nil =>
      cases run
      simp
  | cons event rest ih =>
      obtain ⟨next, now, later, stepped, continued, rfl⟩ := exec_cons_eq_some.mp run
      have first := works stepped
      have others := ih continued
      have counted : (event :: rest).countP inner = rest.countP inner + (inner event).toNat := by
        rw [List.countP_cons]
        cases inner event <;> rfl
      rw [List.length_append, cost_cons, counted]
      omega

/-- Left to itself, the component comes to an end. -/
theorem Works.inner_run (works : Works step inner price left)
    (free : ∀ event, inner event = true → price event = 0) {state last : State}
    {events : List Event} {emitted : List Action}
    (run : exec step state events = some (last, emitted))
    (alone : ∀ event ∈ events, inner event = true) :
    events.length + emitted.length ≤ left state := by
  have done := works.run run
  have unpaid : cost price events = 0 := by
    clear run done
    induction events with
    | nil => rfl
    | cons event rest ih =>
        rw [cost_cons, free event (alone event (List.mem_cons_self ..)),
          ih fun event member => alone event (List.mem_cons_of_mem _ member)]
  rw [List.countP_eq_length.mpr alone] at done
  omega

end FilldRider.Runs
