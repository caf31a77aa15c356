import FilldRider.Runs.Component

/-!
# Simulation

A component is mirrored by another when each of its steps is matched there by a run.
What the two emit is compared by a relation that putting runs together keeps.
-/

set_option autoImplicit false

namespace FilldRider.Runs

variable {State Event Action Mirror Sign Echo : Type}

structure Echoing (Echoes : List Action → List Echo → Prop) : Prop where
  nil : Echoes [] []
  append : ∀ {early late : List Action} {echoed echoing : List Echo},
    Echoes early echoed → Echoes late echoing → Echoes (early ++ late) (echoed ++ echoing)

/-- A run of the mirror from one state to a state that shows another, with an echo. -/
def Mirrored (mirror : Component Mirror Sign Echo) (Shows : State → Mirror → Prop)
    (Echoes : List Action → List Echo → Prop) (shown : Mirror) (state : State)
    (emitted : List Action) : Prop :=
  ∃ signs reached echoed, exec mirror shown signs = some (reached, echoed) ∧
    Shows state reached ∧ Echoes emitted echoed

variable {step : Component State Event Action} {mirror : Component Mirror Sign Echo}
  {Shows : State → Mirror → Prop} {Echoes : List Action → List Echo → Prop}

theorem mirrored_of_step {state : State} {shown reached : Mirror} {sign : Sign}
    {emitted : List Action} {echoed : List Echo}
    (stepped : mirror shown sign = some (reached, echoed)) (showing : Shows state reached)
    (echoes : Echoes emitted echoed) : Mirrored mirror Shows Echoes shown state emitted :=
  ⟨[sign], reached, echoed, exec_singleton_eq_some.mpr stepped, showing, echoes⟩

/-- Runs are mirrored when steps are. -/
theorem mirrored_of_run (echoing : Echoing Echoes)
    (matched : ∀ {state : State} {shown : Mirror} {event : Event} {next : State}
      {emitted : List Action}, Shows state shown → step state event = some (next, emitted) →
      Mirrored mirror Shows Echoes shown next emitted)
    {state last : State} {shown : Mirror} {events : List Event} {emitted : List Action}
    (start : Shows state shown) (run : exec step state events = some (last, emitted)) :
    Mirrored mirror Shows Echoes shown last emitted := by
  induction events generalizing state shown emitted with
  | nil =>
      cases run
      exact ⟨[], shown, [], rfl, start, echoing.nil⟩
  | cons event rest ih =>
      obtain ⟨next, now, later, stepped, continued, rfl⟩ := exec_cons_eq_some.mp run
      obtain ⟨signs, reached, echoed, mirrors, showing, echoes⟩ := matched start stepped
      obtain ⟨signing, arrived, answered, continues, arriving, answers⟩ := ih showing continued
      exact ⟨signs ++ signing, arrived, echoed ++ answered,
        exec_append_eq_some.mpr ⟨reached, echoed, answered, mirrors, continues, rfl⟩, arriving,
        echoing.append echoes answers⟩

end FilldRider.Runs
