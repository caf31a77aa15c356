import FilldRider.Runs.Component
import Mathlib.Logic.Function.Basic

/-!
# Clients of one shared store

Every client is a component whose emitted writes wait in a queue of its own. The
store applies them one at a time, each client's in the order issued, interleaved
in any way with the writes of the other clients and of outside parties. An event
that reports what the store holds is possible only while the store holds it.
-/

set_option autoImplicit false

namespace FilldRider.Runs

/-- The clients, the writes each has issued that are not stored yet, and the store. -/
structure Shared (Client State Write Store : Type) where
  client : Client → State
  outbox : Client → List Write
  store : Store

inductive SharedEvent (Client Event Outside : Type) where
  | act (client : Client) (event : Event)
  | deliver (client : Client)
  | outside (write : Outside)

inductive Stored (Client Write Outside : Type) where
  | byClient (client : Client) (write : Write)
  | outside (write : Outside)
  deriving DecidableEq

variable {Client State Event Write Store Outside : Type} [DecidableEq Client]

/-- Local steps fill the client's queue; `deliver` stores the oldest queued write. The store
accepts every write here, so that the stored and the queued writes of a client are those
it issued; `Shared.stepRefusing` has a store that refuses some. -/
def Shared.step (component : Component State Event Write)
    (answers : Store → Client → Event → Bool)
    (apply : Store → Client → Write → Store) (intrude : Store → Outside → Store) :
    Component (Shared Client State Write Store) (SharedEvent Client Event Outside)
      (Stored Client Write Outside)
  | shared, .act client event =>
      if answers shared.store client event then
        match component (shared.client client) event with
        | none => none
        | some (next, emitted) =>
            some ({ shared with
              client := Function.update shared.client client next
              outbox := Function.update shared.outbox client
                (shared.outbox client ++ emitted) }, [])
      else none
  | shared, .deliver client =>
      match shared.outbox client with
      | [] => none
      | write :: rest =>
          some ({ shared with
            outbox := Function.update shared.outbox client rest
            store := apply shared.store client write }, [.byClient client write])
  | shared, .outside write =>
      some ({ shared with store := intrude shared.store write }, [.outside write])

inductive Shared.Moves (component : Component State Event Write)
    (answers : Store → Client → Event → Bool)
    (apply : Store → Client → Write → Store) (intrude : Store → Outside → Store)
    (before : Shared Client State Write Store) :
    SharedEvent Client Event Outside → Shared Client State Write Store →
      List (Stored Client Write Outside) → Prop where
  | act {client : Client} {event : Event} {next : State} {emitted : List Write}
      (answered : answers before.store client event = true)
      (reacts : component (before.client client) event = some (next, emitted)) :
      Moves component answers apply intrude before (.act client event)
        { before with
          client := Function.update before.client client next
          outbox := Function.update before.outbox client
            (before.outbox client ++ emitted) } []
  | deliver {client : Client} {write : Write} {rest : List Write}
      (queued : before.outbox client = write :: rest) :
      Moves component answers apply intrude before (.deliver client)
        { before with
          outbox := Function.update before.outbox client rest
          store := apply before.store client write } [.byClient client write]
  | outside {write : Outside} :
      Moves component answers apply intrude before (.outside write)
        { before with store := intrude before.store write } [.outside write]

section Steps

variable {component : Component State Event Write}
  {answers : Store → Client → Event → Bool} {apply : Store → Client → Write → Store}
  {intrude : Store → Outside → Store}

theorem Shared.moves_of_step {before after : Shared Client State Write Store}
    {event : SharedEvent Client Event Outside} {stored : List (Stored Client Write Outside)}
    (stepped : Shared.step component answers apply intrude before event = some (after, stored)) :
    Shared.Moves component answers apply intrude before event after stored := by
  cases event with
  | act client event =>
      simp only [Shared.step] at stepped
      split at stepped
      · next answered =>
        cases reacts : component (before.client client) event with
        | none => simp [reacts] at stepped
        | some result =>
            obtain ⟨next, emitted⟩ := result
            simp only [reacts, Option.some.injEq, Prod.mk.injEq] at stepped
            obtain ⟨rfl, rfl⟩ := stepped
            exact .act answered reacts
      · cases stepped
  | deliver client =>
      cases queued : before.outbox client with
      | nil => simp [Shared.step, queued] at stepped
      | cons write rest =>
          simp only [Shared.step, queued, Option.some.injEq, Prod.mk.injEq] at stepped
          obtain ⟨rfl, rfl⟩ := stepped
          exact .deliver queued
  | outside write =>
      simp only [Shared.step, Option.some.injEq, Prod.mk.injEq] at stepped
      obtain ⟨rfl, rfl⟩ := stepped
      exact .outside

theorem Shared.queued_step {Queued : Client → Write → Prop}
    {before after : Shared Client State Write Store}
    {event : SharedEvent Client Event Outside} {stored : List (Stored Client Write Outside)}
    (queued : ∀ client, ∀ write ∈ before.outbox client, Queued client write)
    (issues : ∀ {client reaction next emitted}, event = .act client reaction →
      component (before.client client) reaction = some (next, emitted) →
      ∀ write ∈ emitted, Queued client write)
    (stepped : Shared.step component answers apply intrude before event =
      some (after, stored)) :
    ∀ client, ∀ write ∈ after.outbox client, Queued client write := by
  intro client write member
  cases Shared.moves_of_step stepped with
  | @act actor reaction next emitted answered reacts =>
      by_cases same : client = actor
      · subst actor
        simp only [Function.update_self] at member
        rcases List.mem_append.mp member with old | new
        · exact queued client write old
        · exact issues rfl reacts write new
      · simp only [Function.update_of_ne same] at member
        exact queued client write member
  | @deliver actor first rest waiting =>
      by_cases same : client = actor
      · subst actor
        simp only [Function.update_self] at member
        exact queued client write (waiting ▸ List.mem_cons_of_mem _ member)
      · simp only [Function.update_of_ne same] at member
        exact queued client write member
  | outside => exact queued client write member

/-- A client changes by its own events only. -/
theorem Shared.client_cases {before after : Shared Client State Write Store}
    {event : SharedEvent Client Event Outside} {stored : List (Stored Client Write Outside)}
    (stepped : Shared.step component answers apply intrude before event = some (after, stored))
    (client : Client) :
    after.client client = before.client client ∧ (∀ reaction, event ≠ .act client reaction) ∨
      ∃ reaction emitted, event = .act client reaction ∧
        component (before.client client) reaction = some (after.client client, emitted) := by
  cases Shared.moves_of_step stepped with
  | @act actor reaction next emitted answered reacts =>
      by_cases same : client = actor
      · subst actor
        refine .inr ⟨reaction, emitted, rfl, ?_⟩
        simp only [Function.update_self]
        exact reacts
      · refine .inl ⟨Function.update_of_ne same .., ?_⟩
        rintro other ⟨⟩
        exact same rfl
  | deliver queued => exact .inl ⟨rfl, fun _ impossible => nomatch impossible⟩
  | outside => exact .inl ⟨rfl, fun _ impossible => nomatch impossible⟩

theorem Shared.client_step (Held : Client → State → Prop)
    {before after : Shared Client State Write Store}
    {event : SharedEvent Client Event Outside} {stored : List (Stored Client Write Outside)}
    (held : ∀ client, Held client (before.client client))
    (keeps : ∀ {client reaction next emitted}, event = .act client reaction →
      Held client (before.client client) →
      component (before.client client) reaction = some (next, emitted) → Held client next)
    (stepped : Shared.step component answers apply intrude before event =
      some (after, stored)) :
    ∀ client, Held client (after.client client) := by
  intro client
  rcases Shared.client_cases stepped client with ⟨same, -⟩ | ⟨reaction, emitted, act, reacts⟩
  · rw [same]
    exact held client
  · exact keeps act (held client) reacts

end Steps

def actsOf (client : Client) : List (SharedEvent Client Event Outside) → List Event
  | [] => []
  | .act actor event :: rest =>
      if actor = client then event :: actsOf client rest else actsOf client rest
  | .deliver _ :: rest => actsOf client rest
  | .outside _ :: rest => actsOf client rest

@[simp] theorem actsOf_append (client : Client)
    (before after : List (SharedEvent Client Event Outside)) :
    actsOf client (before ++ after) = actsOf client before ++ actsOf client after := by
  induction before with
  | nil => rfl
  | cons entry rest ih =>
      cases entry with
      | act actor event => by_cases same : actor = client <;> simp [actsOf, same, ih]
      | deliver actor => simpa [actsOf] using ih
      | outside write => simpa [actsOf] using ih

theorem mem_actsOf {client : Client} {event : Event}
    {events : List (SharedEvent Client Event Outside)} :
    event ∈ actsOf client events ↔ SharedEvent.act client event ∈ events := by
  induction events with
  | nil => simp [actsOf]
  | cons entry rest ih =>
      cases entry with
      | act actor reaction =>
          by_cases same : actor = client
          · subst actor
            simp [actsOf, ih]
          · have differs : client ≠ actor := fun equal => same equal.symm
            simp [actsOf, same, differs, ih]
      | deliver actor => simp [actsOf, ih]
      | outside write => simp [actsOf, ih]

/-- Where a client's own events split, the events of all do. -/
theorem split_of_actsOf {client : Client} {events : List (SharedEvent Client Event Outside)}
    {before after : List Event} {event : Event}
    (split : actsOf client events = before ++ event :: after) :
    ∃ earlier later, events = earlier ++ .act client event :: later ∧
      actsOf client earlier = before := by
  induction events generalizing before with
  | nil => simp [actsOf] at split
  | cons entry rest ih =>
      have skip : actsOf client rest = before ++ event :: after →
          actsOf client [entry] = [] → ∃ earlier later,
            entry :: rest = earlier ++ .act client event :: later ∧
              actsOf client earlier = before := by
        intro others idle
        obtain ⟨earlier, later, rfl, own⟩ := ih others
        refine ⟨entry :: earlier, later, rfl, ?_⟩
        rw [← List.singleton_append, actsOf_append, idle, own]
        rfl
      cases entry with
      | act actor reaction =>
          by_cases same : actor = client
          · subst actor
            simp only [actsOf, if_true] at split
            cases before with
            | nil =>
                cases split
                exact ⟨[], rest, rfl, rfl⟩
            | cons first others =>
                obtain ⟨rfl, tail⟩ := List.cons.inj split
                obtain ⟨earlier, later, rfl, own⟩ := ih tail
                exact ⟨.act client reaction :: earlier, later, rfl, by simp [actsOf, own]⟩
          · exact skip (by simpa [actsOf, same] using split) (by simp [actsOf, same])
      | deliver actor => exact skip split rfl
      | outside write => exact skip split rfl

def storedBy (client : Client) : List (Stored Client Write Outside) → List Write
  | [] => []
  | .byClient writer write :: rest =>
      if writer = client then write :: storedBy client rest else storedBy client rest
  | .outside _ :: rest => storedBy client rest

@[simp] theorem storedBy_append (client : Client)
    (before after : List (Stored Client Write Outside)) :
    storedBy client (before ++ after) = storedBy client before ++ storedBy client after := by
  induction before with
  | nil => rfl
  | cons entry rest ih =>
      cases entry with
      | byClient writer write =>
          by_cases same : writer = client <;> simp [storedBy, same, ih]
      | outside write => simpa [storedBy] using ih

theorem storedBy_map (client : Client) (writes : List Write) :
    storedBy client (writes.map (Stored.byClient client : Write → Stored Client Write Outside)) =
      writes := by
  induction writes with
  | nil => rfl
  | cons write rest ih => simp [storedBy, ih]

theorem mem_storedBy {client : Client} {write : Write}
    {stored : List (Stored Client Write Outside)} :
    write ∈ storedBy client stored ↔ Stored.byClient client write ∈ stored := by
  induction stored with
  | nil => simp [storedBy]
  | cons entry rest ih =>
      cases entry with
      | byClient writer issued =>
          by_cases same : writer = client
          · subst writer
            simp [storedBy, ih]
          · have differs : client ≠ writer := fun equal => same equal.symm
            simp [storedBy, same, differs, ih]
      | outside issued => simp [storedBy, ih]

section Projection

variable {component : Component State Event Write}
  {answers : Store → Client → Event → Bool} {apply : Store → Client → Write → Store}
  {intrude : Store → Outside → Store}

/-- Seen from one client, a run of all is a run of that client alone: what it has
emitted is what was already queued, stored or is still queued, in order. -/
theorem Shared.exec_client (client : Client)
    {before after : Shared Client State Write Store}
    {events : List (SharedEvent Client Event Outside)}
    {stored : List (Stored Client Write Outside)}
    (run : exec (Shared.step component answers apply intrude) before events = some (after, stored)) :
    ∃ emitted, exec component (before.client client) (actsOf client events) =
        some (after.client client, emitted) ∧
      before.outbox client ++ emitted = storedBy client stored ++ after.outbox client := by
  induction events generalizing before stored with
  | nil =>
      cases run
      exact ⟨[], rfl, by simp [storedBy]⟩
  | cons event rest ih =>
      obtain ⟨next, now, later, stepped, continued, rfl⟩ := exec_cons_eq_some.mp run
      obtain ⟨emitted, local_run, queue⟩ := ih continued
      cases Shared.moves_of_step stepped with
      | @act actor action state issued answered reacts =>
          by_cases same : actor = client
          · subst actor
            simp only [Function.update_self] at local_run queue
            refine ⟨issued ++ emitted, ?_, ?_⟩
            · simp only [actsOf, if_true]
              exact exec_cons_eq_some.mpr ⟨_, _, _, reacts, local_run, rfl⟩
            · simpa [List.append_assoc] using queue
          · have differs : client ≠ actor := fun equal => same equal.symm
            simp only [Function.update_of_ne differs] at local_run queue
            exact ⟨emitted, by simpa [actsOf, same] using local_run, by simpa using queue⟩
      | @deliver actor write waiting queued =>
          by_cases same : actor = client
          · subst actor
            simp only [Function.update_self] at queue
            refine ⟨emitted, by simpa [actsOf] using local_run, ?_⟩
            simp [queued, storedBy, queue]
          · have differs : client ≠ actor := fun equal => same equal.symm
            simp only [Function.update_of_ne differs] at queue
            exact ⟨emitted, by simpa [actsOf] using local_run,
              by simpa [storedBy, same] using queue⟩
      | outside =>
          exact ⟨emitted, by simpa [actsOf] using local_run, by simpa [storedBy] using queue⟩

/-- What a client does while the store answers so, all do. -/
theorem Shared.exec_acts {client : Client} {events : List Event}
    {shared : Shared Client State Write Store} {last : State} {emitted : List Write}
    (run : exec component (shared.client client) events = some (last, emitted))
    (answered : ∀ event ∈ events, answers shared.store client event = true) :
    exec (Shared.step component answers apply intrude) shared
        (events.map (.act client)) =
      some ({ shared with
        client := Function.update shared.client client last
        outbox := Function.update shared.outbox client (shared.outbox client ++ emitted) },
        []) := by
  induction events generalizing shared emitted with
  | nil =>
      cases run
      simp
  | cons event rest ih =>
      obtain ⟨next, now, later, reacts, continued, rfl⟩ := exec_cons_eq_some.mp run
      have first := answered event (List.mem_cons_self ..)
      have others : ∀ event ∈ rest, answers shared.store client event = true :=
        fun event member => answered event (List.mem_cons_of_mem _ member)
      have here : Shared.step component answers apply intrude shared (.act client event) =
          some ({ shared with
            client := Function.update shared.client client next
            outbox := Function.update shared.outbox client (shared.outbox client ++ now) },
            []) := by
        simp only [Shared.step, first, if_true, reacts]
      have onward : exec (Shared.step component answers apply intrude)
          { shared with
            client := Function.update shared.client client next
            outbox := Function.update shared.outbox client (shared.outbox client ++ now) }
          (rest.map (.act client)) = _ :=
        ih (by simpa using continued) others
      rw [List.map_cons]
      refine exec_cons_eq_some.mpr ⟨_, [], [], here, onward.trans ?_, rfl⟩
      simp [List.append_assoc]

/-- What is asked of a client's own steps is asked of them among all. -/
theorem Shared.meets_acts {client : Client} {allowed : State → Event → Prop}
    {condition : Shared Client State Write Store → SharedEvent Client Event Outside → Prop}
    (holds : ∀ {shared event}, allowed (shared.client client) event →
      condition shared (.act client event))
    {history : List Write} {past : List (Stored Client Write Outside)}
    {shared : Shared Client State Write Store} {events : List Event}
    (meets : Meets component (fun _ => allowed) history (shared.client client) events) :
    Meets (Shared.step component answers apply intrude) (fun _ => condition) past shared
      (events.map (.act client)) := by
  induction events generalizing history past shared with
  | nil => trivial
  | cons event rest ih =>
      refine ⟨holds meets.1, ?_⟩
      cases stepped : Shared.step component answers apply intrude shared (.act client event) with
      | none => trivial
      | some result =>
          obtain ⟨next, stored⟩ := result
          cases Shared.moves_of_step stepped with
          | @act _ _ after emitted answered reacts =>
              simp only [Meets, reacts] at meets
              have later : Meets component (fun _ => allowed) (history ++ emitted)
                  (Function.update shared.client client after client) rest := by
                rw [Function.update_self]
                exact meets.2
              exact ih later

/-- Everything a client has issued is stored. -/
theorem Shared.exec_delivers (client : Client) {writes : List Write}
    {shared : Shared Client State Write Store} (queued : shared.outbox client = writes) :
    exec (Shared.step component answers apply intrude) shared
        (List.replicate writes.length (.deliver client)) =
      some ({ shared with
        outbox := Function.update shared.outbox client []
        store := writes.foldl (fun store write => apply store client write) shared.store },
        writes.map (.byClient client)) := by
  induction writes generalizing shared with
  | nil =>
      have same : Function.update shared.outbox client [] = shared.outbox := by
        rw [← queued, Function.update_eq_self]
      simp [same]
  | cons write rest ih =>
      have here : Shared.step component answers apply intrude shared (.deliver client) =
          some ({ shared with
            outbox := Function.update shared.outbox client rest
            store := apply shared.store client write }, [.byClient client write]) := by
        simp only [Shared.step, queued]
      have onward : exec (Shared.step component answers apply intrude)
          { shared with
            outbox := Function.update shared.outbox client rest
            store := apply shared.store client write }
          (List.replicate rest.length (.deliver client)) = _ :=
        ih (Function.update_self ..)
      rw [List.length_cons, List.replicate_succ]
      refine exec_cons_eq_some.mpr ⟨_, _, _, here, onward.trans ?_, rfl⟩
      simp

end Projection

end FilldRider.Runs
