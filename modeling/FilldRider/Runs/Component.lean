import Mathlib.Data.List.Basic

/-!
# Event-driven components

A component reacts to one event at a time: it moves to a next state and emits a
list of actions, or the event cannot happen in that state. Runs collect what was
emitted, so that laws can speak about everything a component did so far.
-/

set_option autoImplicit false

namespace FilldRider.Runs

/-- Reaction to one event; `none` when the event is not possible in that state. -/
abbrev Component (State Event Action : Type) :=
  State → Event → Option (State × List Action)

variable {State Event Action : Type}

/-- Run a component over a list of events, collecting the emitted actions in order. -/
def exec (step : Component State Event Action) :
    State → List Event → Option (State × List Action)
  | state, [] => some (state, [])
  | state, event :: rest =>
      match step state event with
      | none => none
      | some (next, emitted) =>
          match exec step next rest with
          | none => none
          | some (last, later) => some (last, emitted ++ later)

@[simp] theorem exec_nil (step : Component State Event Action) (state : State) :
    exec step state [] = some (state, []) := rfl

theorem exec_cons_eq_some {step : Component State Event Action} {state last : State}
    {event : Event} {rest : List Event} {emitted : List Action} :
    exec step state (event :: rest) = some (last, emitted) ↔
      ∃ next now later, step state event = some (next, now) ∧
        exec step next rest = some (last, later) ∧ emitted = now ++ later := by
  constructor
  · intro run
    cases stepped : step state event with
    | none => simp [exec, stepped] at run
    | some result =>
        obtain ⟨next, now⟩ := result
        cases continued : exec step next rest with
        | none => simp [exec, stepped, continued] at run
        | some tail =>
            obtain ⟨reached, later⟩ := tail
            simp only [exec, stepped, continued, Option.some.injEq, Prod.mk.injEq] at run
            obtain ⟨rfl, rfl⟩ := run
            exact ⟨next, now, later, rfl, continued, rfl⟩
  · intro split
    obtain ⟨next, now, later, stepped, continued, rfl⟩ := split
    simp only [exec, stepped, continued]

theorem exec_singleton_eq_some {step : Component State Event Action} {state last : State}
    {event : Event} {emitted : List Action} :
    exec step state [event] = some (last, emitted) ↔
      step state event = some (last, emitted) := by
  rw [exec_cons_eq_some]
  constructor
  · intro split
    obtain ⟨next, now, later, stepped, continued, rfl⟩ := split
    cases continued
    simpa using stepped
  · intro stepped
    exact ⟨last, emitted, [], stepped, rfl, by simp⟩

theorem exec_append_eq_some {step : Component State Event Action} {state last : State}
    {before after : List Event} {emitted : List Action} :
    exec step state (before ++ after) = some (last, emitted) ↔
      ∃ middle early late, exec step state before = some (middle, early) ∧
        exec step middle after = some (last, late) ∧ emitted = early ++ late := by
  induction before generalizing state emitted with
  | nil => simp
  | cons event rest ih =>
      rw [List.cons_append, exec_cons_eq_some]
      constructor
      · intro split
        obtain ⟨next, now, later, stepped, continued, rfl⟩ := split
        obtain ⟨middle, early, late, first, second, rfl⟩ := ih.mp continued
        exact ⟨middle, now ++ early, late,
          exec_cons_eq_some.mpr ⟨next, now, early, stepped, first, rfl⟩, second,
          by rw [List.append_assoc]⟩
      · intro split
        obtain ⟨middle, early, late, first, second, rfl⟩ := split
        obtain ⟨next, now, later, stepped, continued, rfl⟩ := exec_cons_eq_some.mp first
        exact ⟨next, now, later ++ late, stepped,
          ih.mpr ⟨middle, later, late, continued, second, rfl⟩, by rw [List.append_assoc]⟩

/-- Entries that are each related to the later ones stay so with one all are related to. -/
theorem pairwise_concat {Entry : Type} {related : Entry → Entry → Prop} {history : List Entry}
    {entry : Entry} (ordered : history.Pairwise related)
    (follows : ∀ earlier ∈ history, related earlier entry) :
    (history ++ [entry]).Pairwise related := by
  rw [List.pairwise_append]
  refine ⟨ordered, List.pairwise_singleton _ _, ?_⟩
  intro earlier member later last
  rw [List.mem_singleton] at last
  subst later
  exact follows earlier member

/-- Replacing an entry by one that shows the same changes nothing that is shown. -/
theorem map_set_same {Entry Shown : Type} (shows : Entry → Shown) {entries : List Entry}
    {index : Nat} {entry other : Entry} (present : entries[index]? = some entry)
    (same : shows other = shows entry) :
    (entries.set index other).map shows = entries.map shows := by
  obtain ⟨inside, rfl⟩ := List.getElem?_eq_some_iff.mp present
  rw [List.map_set, same, ← List.map_set, List.set_getElem_self]

/-- Every step of a run satisfies a condition on the actions emitted so far, the
state before the step and the event. -/
def Meets (step : Component State Event Action)
    (condition : List Action → State → Event → Prop) :
    List Action → State → List Event → Prop
  | _, _, [] => True
  | history, state, event :: rest =>
      condition history state event ∧
        match step state event with
        | none => True
        | some (next, emitted) => Meets step condition (history ++ emitted) next rest

instance Meets.decidable (step : Component State Event Action)
    (condition : List Action → State → Event → Prop)
    [∀ history state event, Decidable (condition history state event)] :
    ∀ (history : List Action) (state : State) (events : List Event),
      Decidable (Meets step condition history state events)
  | _, _, [] => isTrue trivial
  | history, state, event :: rest =>
      match stepped : step state event with
      | none =>
          decidable_of_iff (condition history state event) (by simp [Meets, stepped])
      | some (next, emitted) =>
          have := Meets.decidable step condition (history ++ emitted) next rest
          decidable_of_iff
            (condition history state event ∧
              Meets step condition (history ++ emitted) next rest)
            (by simp [Meets, stepped])

/-- A law between the emitted actions and the state that every conforming step
keeps holds after every conforming run. -/
theorem exec_invariant_of_meets {step : Component State Event Action}
    {condition : List Action → State → Event → Prop}
    (Law : List Action → State → Prop)
    (keeps : ∀ {history state event next emitted}, Law history state →
      condition history state event → step state event = some (next, emitted) →
      Law (history ++ emitted) next)
    {history : List Action} {state last : State} {events : List Event}
    {emitted : List Action} (start : Law history state)
    (meets : Meets step condition history state events)
    (run : exec step state events = some (last, emitted)) :
    Law (history ++ emitted) last := by
  induction events generalizing history state emitted with
  | nil =>
      cases run
      simpa using start
  | cons event rest ih =>
      obtain ⟨next, now, later, stepped, continued, rfl⟩ := exec_cons_eq_some.mp run
      simp only [Meets, stepped] at meets
      rw [← List.append_assoc]
      exact ih (keeps start meets.1 stepped) meets.2 continued

/-- A property of the emitted actions that conforming steps keep, and that a step
which does not conform spoils for good, holds of exactly the conforming runs. -/
theorem exec_holds_iff_meets {step : Component State Event Action}
    {condition : List Action → State → Event → Prop}
    (Law : List Action → State → Prop) (Holds : List Action → Prop)
    (holds : ∀ {history state}, Law history state → Holds history)
    (earlier : ∀ {history later}, Holds (history ++ later) → Holds history)
    (keeps : ∀ {history state event next emitted}, Law history state →
      condition history state event → step state event = some (next, emitted) →
      Law (history ++ emitted) next)
    (spoils : ∀ {history state event next emitted}, Law history state →
      step state event = some (next, emitted) → Holds (history ++ emitted) →
      condition history state event)
    {history : List Action} {state last : State} {events : List Event}
    {emitted : List Action} (start : Law history state)
    (run : exec step state events = some (last, emitted)) :
    Holds (history ++ emitted) ↔ Meets step condition history state events := by
  constructor
  · intro kept
    induction events generalizing history state emitted with
    | nil => trivial
    | cons event rest ih =>
        obtain ⟨next, now, later, stepped, continued, rfl⟩ := exec_cons_eq_some.mp run
        rw [← List.append_assoc] at kept
        have conforms := spoils start stepped (earlier kept)
        simp only [Meets, stepped]
        exact ⟨conforms, ih (keeps start conforms stepped) continued kept⟩
  · intro meets
    have law : Law (history ++ emitted) last := by
      apply exec_invariant_of_meets Law _ start meets run
      exact keeps
    exact holds law

/-- A property of the actions so far and the state holds at every point of the run. -/
def Always (step : Component State Event Action) (Holds : List Action → State → Prop) :
    List Action → State → List Event → Prop
  | history, state, [] => Holds history state
  | history, state, event :: rest =>
      Holds history state ∧
        match step state event with
        | none => True
        | some (next, emitted) => Always step Holds (history ++ emitted) next rest

theorem Always.last {step : Component State Event Action} {Holds : List Action → State → Prop}
    {history : List Action} {state last : State} {events : List Event}
    {emitted : List Action} (always : Always step Holds history state events)
    (run : exec step state events = some (last, emitted)) : Holds (history ++ emitted) last := by
  induction events generalizing history state emitted with
  | nil =>
      cases run
      simpa [Always] using always
  | cons event rest ih =>
      obtain ⟨next, now, later, stepped, continued, rfl⟩ := exec_cons_eq_some.mp run
      simp only [Always, stepped] at always
      rw [← List.append_assoc]
      exact ih always.2 continued

theorem meets_of_forall {step : Component State Event Action}
    {condition : List Action → State → Event → Prop} {events : List Event}
    (always : ∀ history state, ∀ event ∈ events, condition history state event)
    (history : List Action) (state : State) : Meets step condition history state events := by
  induction events generalizing history state with
  | nil => trivial
  | cons event rest ih =>
      refine ⟨always history state event (List.mem_cons_self ..), ?_⟩
      cases step state event with
      | none => trivial
      | some result =>
          exact ih (fun history state event member =>
            always history state event (List.mem_cons_of_mem _ member)) _ _

/-- In a conforming run of allowed events, a property that a law gives holds at every
point, and one that conforming steps have holds of every step. -/
theorem always_meets_of_meets {step : Component State Event Action}
    {condition Good : List Action → State → Event → Prop}
    (Law Holds : List Action → State → Prop) {allowed : Event → Prop}
    (holds : ∀ {history state}, Law history state → Holds history state)
    (keeps : ∀ {history state event next emitted}, Law history state → allowed event →
      condition history state event → step state event = some (next, emitted) →
      Law (history ++ emitted) next)
    (good : ∀ {history state event next emitted}, Law history state → allowed event →
      condition history state event → step state event = some (next, emitted) →
      Good history state event)
    {history : List Action} {state last : State} {events : List Event}
    {emitted : List Action} (start : Law history state)
    (all : ∀ event ∈ events, allowed event)
    (run : exec step state events = some (last, emitted))
    (meets : Meets step condition history state events) :
    Always step Holds history state events ∧ Meets step Good history state events := by
  induction events generalizing history state emitted with
  | nil => exact ⟨holds start, trivial⟩
  | cons event rest ih =>
      obtain ⟨next, now, later, stepped, continued, rfl⟩ := exec_cons_eq_some.mp run
      have first := all event (List.mem_cons_self ..)
      have others : ∀ event ∈ rest, allowed event :=
        fun event member => all event (List.mem_cons_of_mem _ member)
      simp only [Always, Meets, stepped] at meets ⊢
      obtain ⟨always, steps⟩ :=
        ih (keeps start first meets.1 stepped) others continued meets.2
      exact ⟨⟨holds start, always⟩, good start first meets.1 stepped, steps⟩

/-- Among runs of allowed events, a property of every point and one of every step that
conforming steps have, and of which every other step spoils one, hold throughout
exactly the conforming runs. -/
theorem always_meets_iff_meets {step : Component State Event Action}
    {condition Good : List Action → State → Event → Prop}
    (Law Holds : List Action → State → Prop) {allowed : Event → Prop}
    (holds : ∀ {history state}, Law history state → Holds history state)
    (keeps : ∀ {history state event next emitted}, Law history state → allowed event →
      condition history state event → step state event = some (next, emitted) →
      Law (history ++ emitted) next)
    (good : ∀ {history state event next emitted}, Law history state → allowed event →
      condition history state event → step state event = some (next, emitted) →
      Good history state event)
    (spoils : ∀ {history state event next emitted}, Law history state → allowed event →
      step state event = some (next, emitted) → Holds (history ++ emitted) next →
      Good history state event → condition history state event)
    {history : List Action} {state last : State} {events : List Event}
    {emitted : List Action} (start : Law history state)
    (all : ∀ event ∈ events, allowed event)
    (run : exec step state events = some (last, emitted)) :
    Always step Holds history state events ∧ Meets step Good history state events ↔
      Meets step condition history state events := by
  constructor
  · intro both
    induction events generalizing history state emitted with
    | nil => trivial
    | cons event rest ih =>
        obtain ⟨next, now, later, stepped, continued, rfl⟩ := exec_cons_eq_some.mp run
        have first := all event (List.mem_cons_self ..)
        have others : ∀ event ∈ rest, allowed event :=
          fun event member => all event (List.mem_cons_of_mem _ member)
        simp only [Always, Meets, stepped] at both ⊢
        obtain ⟨always, step, steps⟩ := both
        have reached : Holds (history ++ now) next := by
          cases rest with
          | nil => exact always.2
          | cons _ _ => exact always.2.1
        have conforms := spoils start first stepped reached step
        exact ⟨conforms,
          ih (keeps start first conforms stepped) others continued ⟨always.2, steps⟩⟩
  · exact always_meets_of_meets Law Holds holds keeps good start all run

/-- Among runs of allowed events, a property that conforming steps keep and every
other step spoils holds throughout exactly the conforming runs. -/
theorem always_iff_meets {step : Component State Event Action}
    {condition : List Action → State → Event → Prop}
    (Law Holds : List Action → State → Prop) {allowed : Event → Prop}
    (holds : ∀ {history state}, Law history state → Holds history state)
    (keeps : ∀ {history state event next emitted}, Law history state → allowed event →
      condition history state event → step state event = some (next, emitted) →
      Law (history ++ emitted) next)
    (spoils : ∀ {history state event next emitted}, Law history state → allowed event →
      step state event = some (next, emitted) → Holds (history ++ emitted) next →
      condition history state event)
    {history : List Action} {state last : State} {events : List Event}
    {emitted : List Action} (start : Law history state)
    (all : ∀ event ∈ events, allowed event)
    (run : exec step state events = some (last, emitted)) :
    Always step Holds history state events ↔ Meets step condition history state events := by
  have both : Always step Holds history state events ∧
      Meets step (fun _ _ _ => True) history state events ↔
        Meets step condition history state events := by
    apply always_meets_iff_meets Law Holds holds keeps _ _ start all run
    · intro history state event next emitted _ _ _ _
      trivial
    · intro history state event next emitted law first stepped held _
      exact spoils law first stepped held
  rw [← both]
  exact (and_iff_left (meets_of_forall (fun _ _ _ _ => trivial) history state)).symm

/-- Two conditions that agree under a law of all runs hold of the same runs. -/
theorem meets_iff_meets_of_law {step : Component State Event Action}
    {first second : List Action → State → Event → Prop} (Law : List Action → State → Prop)
    (keeps : ∀ {history state event next emitted}, Law history state →
      step state event = some (next, emitted) → Law (history ++ emitted) next)
    (agree : ∀ {history state event}, Law history state →
      (first history state event ↔ second history state event))
    {history : List Action} {state : State} {events : List Event} (start : Law history state) :
    Meets step first history state events ↔ Meets step second history state events := by
  induction events generalizing history state with
  | nil => exact Iff.rfl
  | cons event rest ih =>
      simp only [Meets]
      cases stepped : step state event with
      | none => exact and_congr_left' (agree start)
      | some result => exact and_congr (agree start) (ih (keeps start stepped))

/-- Two conditions that agree at every state of a run hold of the same runs. -/
theorem meets_iff_meets {step : Component State Event Action}
    {first second : List Action → State → Event → Prop} (Law : State → Prop)
    (keeps : ∀ {state event next emitted}, Law state →
      step state event = some (next, emitted) → Law next)
    (agree : ∀ {history state event}, Law state →
      (first history state event ↔ second history state event))
    {history : List Action} {state : State} {events : List Event} (start : Law state) :
    Meets step first history state events ↔ Meets step second history state events := by
  apply meets_iff_meets_of_law (fun _ state => Law state) _ _ start
  · intro history state event next emitted law stepped
    exact keeps law stepped
  · intro history state event law
    exact agree law

/-- Conforming steps keep a law under which they also meet another condition. -/
theorem meets_of_meets {step : Component State Event Action}
    {first second : List Action → State → Event → Prop} (Law : State → Prop)
    (keeps : ∀ {history state event next emitted}, Law state → first history state event →
      step state event = some (next, emitted) → Law next)
    (also : ∀ {history state event}, Law state → first history state event →
      second history state event)
    {history : List Action} {state : State} {events : List Event} (start : Law state)
    (meets : Meets step first history state events) :
    Meets step second history state events := by
  induction events generalizing history state with
  | nil => trivial
  | cons event rest ih =>
      obtain ⟨now, later⟩ := meets
      refine ⟨also start now, ?_⟩
      cases stepped : step state event with
      | none => trivial
      | some result =>
          rw [stepped] at later
          exact ih (keeps start now stepped) later

/-- Within a run that meets a condition, every step does, with what came before it. -/
theorem Meets.of_append {step : Component State Event Action}
    {condition : List Action → State → Event → Prop} {history early : List Action}
    {state middle : State} {before after : List Event} {event : Event}
    (meets : Meets step condition history state (before ++ event :: after))
    (run : exec step state before = some (middle, early)) :
    condition (history ++ early) middle event := by
  induction before generalizing history state early with
  | nil =>
      cases run
      rw [List.append_nil]
      exact meets.1
  | cons first rest ih =>
      obtain ⟨next, now, later, stepped, continued, rfl⟩ := exec_cons_eq_some.mp run
      simp only [List.cons_append, Meets, stepped] at meets
      rw [← List.append_assoc]
      exact ih meets.2 continued

/-- What is asked of single events holds of all events of a run. -/
theorem Meets.forall_mem {step : Component State Event Action} {allowed : Event → Prop}
    {history : List Action} {state last : State} {events : List Event} {emitted : List Action}
    (meets : Meets step (fun _ _ event => allowed event) history state events)
    (run : exec step state events = some (last, emitted)) : ∀ event ∈ events, allowed event := by
  intro event member
  obtain ⟨before, after, rfl⟩ := List.append_of_mem member
  obtain ⟨middle, early, late, first, _⟩ := exec_append_eq_some.mp run
  exact meets.of_append first

/-- A condition on states and events does not mind what was emitted before. -/
theorem Meets.elsewhere {step : Component State Event Action} {allowed : State → Event → Prop}
    {history : List Action} {state : State} {events : List Event}
    (meets : Meets step (fun _ => allowed) history state events) (other : List Action) :
    Meets step (fun _ => allowed) other state events := by
  induction events generalizing history other state with
  | nil => trivial
  | cons event rest ih =>
      obtain ⟨now, later⟩ := meets
      refine ⟨now, ?_⟩
      cases stepped : step state event with
      | none => trivial
      | some result =>
          rw [stepped] at later
          exact ih later _

theorem Meets.append {step : Component State Event Action} {allowed : State → Event → Prop}
    {history early : List Action} {state middle : State} {before after : List Event}
    (meets : Meets step (fun _ => allowed) history state before)
    (run : exec step state before = some (middle, early))
    (onward : Meets step (fun _ => allowed) (history ++ early) middle after) :
    Meets step (fun _ => allowed) history state (before ++ after) := by
  induction before generalizing history state early with
  | nil =>
      cases run
      exact onward.elsewhere history
  | cons event rest ih =>
      obtain ⟨next, now, later, stepped, continued, rfl⟩ := exec_cons_eq_some.mp run
      simp only [Meets, stepped] at meets
      simp only [List.cons_append, Meets, stepped]
      rw [← List.append_assoc] at onward
      exact ⟨meets.1, ih meets.2 continued onward⟩

theorem Meets.and_of_mem {step : Component State Event Action}
    {condition : List Action → State → Event → Prop} {allowed : Event → Prop}
    {history : List Action} {state : State} {events : List Event}
    (meets : Meets step condition history state events)
    (all : ∀ event ∈ events, allowed event) :
    Meets step (fun history state event => condition history state event ∧ allowed event)
      history state events := by
  induction events generalizing history state with
  | nil => trivial
  | cons event rest ih =>
      obtain ⟨now, later⟩ := meets
      refine ⟨⟨now, all event (List.mem_cons_self ..)⟩, ?_⟩
      cases stepped : step state event with
      | none => trivial
      | some result =>
          rw [stepped] at later
          exact ih later fun event member => all event (List.mem_cons_of_mem _ member)

/-- The unconditional rule: a law kept by every step holds after every run. -/
theorem exec_invariant {step : Component State Event Action}
    (Law : List Action → State → Prop)
    (keeps : ∀ {history state event next emitted}, Law history state →
      step state event = some (next, emitted) → Law (history ++ emitted) next)
    {history : List Action} {state last : State} {events : List Event}
    {emitted : List Action} (start : Law history state)
    (run : exec step state events = some (last, emitted)) :
    Law (history ++ emitted) last := by
  have conforms : Meets step (fun _ _ _ => True) history state events :=
    meets_of_forall (fun _ _ _ _ => trivial) history state
  apply exec_invariant_of_meets Law _ start conforms run
  intro history state event next emitted held _ stepped
  exact keeps held stepped

/-- The rule for laws that also look at the events so far, in runs of allowed events. -/
theorem exec_trace_invariant {step : Component State Event Action}
    (Law : List Event → List Action → State → Prop) {allowed : Event → Prop}
    (keeps : ∀ {past history state event next emitted}, Law past history state →
      allowed event → step state event = some (next, emitted) →
      Law (past ++ [event]) (history ++ emitted) next)
    (past : List Event) (history : List Action) {state last : State} {events : List Event}
    {emitted : List Action} (start : Law past history state)
    (all : ∀ event ∈ events, allowed event)
    (run : exec step state events = some (last, emitted)) :
    Law (past ++ events) (history ++ emitted) last := by
  induction events generalizing past history state emitted with
  | nil =>
      cases run
      simpa using start
  | cons event rest ih =>
      obtain ⟨next, now, later, stepped, continued, rfl⟩ := exec_cons_eq_some.mp run
      have first := keeps start (all event (List.mem_cons_self ..)) stepped
      have tail := ih _ _ first (fun event member => all event (List.mem_cons_of_mem _ member))
        continued
      simpa [List.append_assoc] using tail

theorem exec_invariant_state {step : Component State Event Action} (Law : State → Prop)
    (keeps : ∀ {state event next emitted}, Law state →
      step state event = some (next, emitted) → Law next)
    {state last : State} {events : List Event} {emitted : List Action}
    (start : Law state) (run : exec step state events = some (last, emitted)) : Law last := by
  apply exec_invariant (fun (_ : List Action) state => Law state) _ start run
  · intro history state event next emitted held stepped
    exact keeps held stepped
  · exact []

/-! ## Traces -/

/-- The component that emits what it did: every event with its actions. -/
def traced (step : Component State Event Action) :
    Component State Event (Event × List Action) :=
  fun state event => (step state event).map fun result => (result.1, [(event, result.2)])

theorem traced_eq_some {step : Component State Event Action} {state next : State}
    {event : Event} {entries : List (Event × List Action)} :
    traced step state event = some (next, entries) ↔
      ∃ actions, step state event = some (next, actions) ∧ entries = [(event, actions)] := by
  rw [traced, Option.map_eq_some_iff]
  constructor
  · intro traces
    obtain ⟨⟨reached, actions⟩, stepped, same⟩ := traces
    cases same
    exact ⟨actions, stepped, rfl⟩
  · intro traces
    obtain ⟨actions, stepped, rfl⟩ := traces
    exact ⟨(next, actions), stepped, rfl⟩

/-- Every run has a trace, which tells its events and its actions. -/
theorem exec_traced {step : Component State Event Action} {state last : State}
    {events : List Event} {emitted : List Action}
    (run : exec step state events = some (last, emitted)) :
    ∃ trace, exec (traced step) state events = some (last, trace) ∧
      trace.map Prod.fst = events ∧ trace.flatMap Prod.snd = emitted := by
  induction events generalizing state emitted with
  | nil =>
      cases run
      exact ⟨[], rfl, rfl, rfl⟩
  | cons event rest ih =>
      obtain ⟨next, now, later, stepped, continued, rfl⟩ := exec_cons_eq_some.mp run
      obtain ⟨trace, traces, tells, acts⟩ := ih continued
      refine ⟨(event, now) :: trace, ?_, by simp [tells], by simp [acts]⟩
      exact exec_cons_eq_some.mpr
        ⟨next, [(event, now)], trace, traced_eq_some.mpr ⟨now, stepped, rfl⟩, traces, rfl⟩

end FilldRider.Runs
