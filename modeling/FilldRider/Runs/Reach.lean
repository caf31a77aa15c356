import FilldRider.Runs.Component

/-!
# What a component can still do, and at what price

A state leads to another when some run of allowed events ends there. Events have a
price, so a potential that no step raises by more than its price bounds from below
what any run costs.
-/

set_option autoImplicit false

namespace FilldRider.Runs

variable {State Event Action : Type}

def cost (price : Event → Nat) : List Event → Nat
  | [] => 0
  | event :: rest => price event + cost price rest

@[simp] theorem cost_nil (price : Event → Nat) : cost price [] = 0 := rfl

@[simp] theorem cost_cons (price : Event → Nat) (event : Event) (rest : List Event) :
    cost price (event :: rest) = price event + cost price rest := rfl

@[simp] theorem cost_append (price : Event → Nat) (before after : List Event) :
    cost price (before ++ after) = cost price before + cost price after := by
  induction before with
  | nil => simp
  | cons event rest ih => simp [ih, Nat.add_assoc]

theorem cost_eq_zero_iff {price : Event → Nat} {events : List Event} :
    cost price events = 0 ↔ ∀ event ∈ events, price event = 0 := by
  induction events with
  | nil => simp
  | cons event rest ih => rw [cost_cons, Nat.add_eq_zero_iff, ih, List.forall_mem_cons]

theorem cost_map {Shown : Type} (price : Shown → Nat) (shown : Event → Shown)
    (events : List Event) :
    cost price (events.map shown) = cost (fun event => price (shown event)) events := by
  induction events with
  | nil => rfl
  | cons event rest ih => rw [List.map_cons, cost_cons, cost_cons, ih]

/-- Some run of events that are allowed where they happen, at this price in all, ends in
that state. -/
def Leads (step : Component State Event Action) (allowed : State → Event → Prop)
    (price : Event → Nat) (state : State) (spent : Nat) (last : State) (emitted : List Action) :
    Prop :=
  ∃ events, exec step state events = some (last, emitted) ∧
    Meets step (fun _ => allowed) [] state events ∧ cost price events = spent

namespace Leads

variable {step : Component State Event Action} {allowed : State → Event → Prop}
  {price : Event → Nat} {state middle last : State} {early late : List Action}

theorem refl (state : State) : Leads step allowed price state 0 state [] :=
  ⟨[], rfl, trivial, rfl⟩

theorem single {event : Event} (stepped : step state event = some (last, early))
    (may : allowed state event) : Leads step allowed price state (price event) last early := by
  refine ⟨[event], exec_singleton_eq_some.mpr stepped, ⟨may, ?_⟩, rfl⟩
  rw [stepped]
  trivial

theorem trans {first second : Nat} (leads : Leads step allowed price state first middle early)
    (onward : Leads step allowed price middle second last late) :
    Leads step allowed price state (first + second) last (early ++ late) := by
  obtain ⟨before, begins, may, spent⟩ := leads
  obtain ⟨after, continues, might, spending⟩ := onward
  exact ⟨before ++ after,
    exec_append_eq_some.mpr ⟨middle, early, late, begins, continues, rfl⟩,
    may.append begins (might.elsewhere _), by rw [cost_append, spent, spending]⟩

end Leads

/-- A potential that no step raises by more than its price is paid for by the run. -/
theorem potential_le_cost {step : Component State Event Action} (price : Event → Nat)
    (Law : List Action → State → Prop) (potential : List Action → State → Nat)
    (keeps : ∀ {history state event next emitted}, Law history state →
      step state event = some (next, emitted) → Law (history ++ emitted) next)
    (paid : ∀ {history state event next emitted}, Law history state →
      step state event = some (next, emitted) →
      potential (history ++ emitted) next ≤ potential history state + price event)
    {history : List Action} {state last : State} {events : List Event} {emitted : List Action}
    (start : Law history state) (run : exec step state events = some (last, emitted)) :
    potential (history ++ emitted) last ≤ potential history state + cost price events := by
  induction events generalizing history state emitted with
  | nil =>
      cases run
      simp
  | cons event rest ih =>
      obtain ⟨next, now, later, stepped, continued, rfl⟩ := exec_cons_eq_some.mp run
      have first := paid start stepped
      have others := ih (keeps start stepped) continued
      rw [← List.append_assoc, cost_cons]
      omega

end FilldRider.Runs
