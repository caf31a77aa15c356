import FilldRider.Runs.Clients

/-!
# A store that refuses writes

The store may refuse the oldest write of a client in place of applying it. The write
leaves the queue, and the store stays as it was.
-/

set_option autoImplicit false

namespace FilldRider.Runs

inductive ServedEvent (Client Event Outside : Type) where
  | served (event : SharedEvent Client Event Outside)
  | refused (client : Client)

variable {Client State Event Write Store Outside : Type} [DecidableEq Client]

def Shared.stepRefusing (component : Component State Event Write)
    (answers : Store → Client → Event → Bool)
    (apply : Store → Client → Write → Store) (intrude : Store → Outside → Store) :
    Component (Shared Client State Write Store) (ServedEvent Client Event Outside)
      (Stored Client Write Outside)
  | shared, .served event => Shared.step component answers apply intrude shared event
  | shared, .refused client =>
      match shared.outbox client with
      | [] => none
      | _ :: rest =>
          some ({ shared with outbox := Function.update shared.outbox client rest }, [])

section Steps

variable {component : Component State Event Write}
  {answers : Store → Client → Event → Bool} {apply : Store → Client → Write → Store}
  {intrude : Store → Outside → Store} {before after : Shared Client State Write Store}
  {stored : List (Stored Client Write Outside)}

theorem Shared.refused_cases {client : Client}
    (stepped : Shared.stepRefusing component answers apply intrude before (.refused client) =
      some (after, stored)) :
    ∃ write rest, before.outbox client = write :: rest ∧ stored = [] ∧
      after = { before with outbox := Function.update before.outbox client rest } := by
  simp only [Shared.stepRefusing] at stepped
  split at stepped
  · cases stepped
  · next write rest queued =>
    cases stepped
    exact ⟨write, rest, queued, rfl, rfl⟩

/-- What is queued after a refusal was queued before. -/
theorem Shared.queued_of_refused {client : Client} {write : Write} {rest : List Write}
    (queued : before.outbox client = write :: rest) {other : Client} {waiting : Write}
    (member : waiting ∈ Function.update before.outbox client rest other) :
    waiting ∈ before.outbox other := by
  by_cases same : other = client
  · subst other
    rw [Function.update_self] at member
    exact queued ▸ List.mem_cons_of_mem _ member
  · rwa [Function.update_of_ne same] at member

/-- A refusal takes no other write out of a queue than the one it refuses. -/
theorem Shared.queued_or_refused {client : Client} {write : Write} {rest : List Write}
    (queued : before.outbox client = write :: rest) {other : Client} {waiting : Write}
    (member : waiting ∈ before.outbox other) :
    waiting ∈ Function.update before.outbox client rest other ∨
      other = client ∧ waiting = write := by
  by_cases same : other = client
  · subst other
    rw [Function.update_self]
    rw [queued] at member
    exact (List.mem_cons.mp member).symm.imp_right fun first => ⟨rfl, first⟩
  · rw [Function.update_of_ne same]
    exact .inl member

end Steps

end FilldRider.Runs
