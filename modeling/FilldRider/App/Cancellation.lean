import FilldRider.App.Moves
import Mathlib.Data.Fintype.Basic

/-!
# The customer's cancellation

Customers cancel by writing "cancelled" to the request's status. No app listens for
it, so whether the cancellation stands depends on what the riders still do.
-/

set_option autoImplicit false

namespace FilldRider

open Runs

variable {Rider : Type} [DecidableEq Rider]

def DbWrite.onRide (rideRequestId : String) : DbWrite → Bool
  | .request id (.status _) | .request id (.fares _) => decide (id = rideRequestId)
  | _ => false

/-- Once "cancelled" is stored, no app writes the status or the fare of the request. -/
def CancellationWins (stored : List (WorldWrite Rider)) : Prop :=
  stored.Pairwise fun earlier later => ∀ rideRequestId,
    earlier = .outside (.cancel rideRequestId) → ∀ rider write,
      later = .byClient rider write → write.onRide rideRequestId = false

def cancels? : WorldEvent Rider → Option String
  | .outside (.cancel rideRequestId) => some rideRequestId
  | _ => none

/-- The request whose status or fare an app writes at this event. -/
def World.movesRide? (world : World Rider) : WorldEvent Rider → Option String
  | .act rider (.built opening) =>
      ((world.client rider).openings[opening]?).map (·.rideRequestId)
  | .act rider (.screen ride event) =>
      ((world.client rider).screens[ride]?).bind fun screen =>
        if screen.movesRide (world.client rider).rideType event then
          some screen.clientDetails.rideRequestId
        else none
  | _ => none

/-- The customer cancels while no write of the ride is queued, and after it nobody
opens the ride, takes a stage or ends the trip. -/
structure RespectsCancellation (history : List (WorldWrite Rider)) (world : World Rider)
    (event : WorldEvent Rider) : Prop where
  unqueued : ∀ rideRequestId ∈ cancels? event,
    ∀ rider, ∀ write ∈ world.outbox rider, write.onRide rideRequestId = false
  untouched : ∀ rideRequestId ∈ world.movesRide? event,
    .outside (.cancel rideRequestId) ∉ history

instance [Fintype Rider] (history : List (WorldWrite Rider)) (world : World Rider)
    (event : WorldEvent Rider) : Decidable (RespectsCancellation history world event) :=
  decidable_of_iff
    ((∀ rideRequestId ∈ cancels? event,
        ∀ rider, ∀ write ∈ world.outbox rider, write.onRide rideRequestId = false) ∧
      ∀ rideRequestId ∈ world.movesRide? event, .outside (.cancel rideRequestId) ∉ history)
    ⟨fun parts => ⟨parts.1, parts.2⟩, fun respects => ⟨respects.1, respects.2⟩⟩

/-- The law of runs that respect a cancellation: it stands, and nothing that would
overwrite it is queued. -/
structure CancellationLaw (history : List (WorldWrite Rider)) (world : World Rider) :
    Prop where
  wins : CancellationWins history
  unqueued : ∀ rideRequestId, .outside (.cancel rideRequestId) ∈ history →
    ∀ rider, ∀ write ∈ world.outbox rider, write.onRide rideRequestId = false
  kept : ∀ rideRequestId, .outside (.cancel rideRequestId) ∈ history →
    (world.store.requests rideRequestId).status = some .cancelled

omit [DecidableEq Rider] in
theorem World.movesRide_of_origin {world : World Rider} {rider : Rider} {event : AppEvent}
    {rideRequestId : String} {write : RequestWrite}
    (origin : RequestOrigin (world.client rider) rideRequestId write event)
    (ride : (∃ stage, write = .status stage) ∨ ∃ fareAmount, write = .fares fareAmount) :
    world.movesRide? (.act rider event) = some rideRequestId := by
  cases origin with
  | accepted pushed same issued => simp [movesRide?, pushed, same]
  | screen shown same issued =>
      have moves := NewRequestScreen.movesRide_of_screenWrite issued ride
      simp [movesRide?, shown, moves, same]

theorem Database.apply_status {database : Database Rider} {rider : Rider} {write : DbWrite}
    {rideRequestId : String} (other : write.onRide rideRequestId = false) :
    ((database.apply rider write).requests rideRequestId).status =
      (database.requests rideRequestId).status := by
  cases write with
  | rider write => rfl
  | request id write =>
      by_cases same : rideRequestId = id
      · subst id
        cases write with
        | status stage => simp [DbWrite.onRide] at other
        | fares amount => simp [DbWrite.onRide] at other
        | _ => simp only [apply, Function.update_self, GasRequest.apply]
      · simp only [apply, Function.update_of_ne same]

theorem DbWrite.onRide_spec {write : DbWrite} {rideRequestId : String}
    (onRide : write.onRide rideRequestId = true) :
    ∃ issued, write = .request rideRequestId issued ∧
      ((∃ stage, issued = .status stage) ∨ ∃ fareAmount, issued = .fares fareAmount) := by
  cases write with
  | rider write => cases onRide
  | request id issued =>
      cases issued with
      | status stage =>
          obtain rfl := of_decide_eq_true onRide
          exact ⟨_, rfl, .inl ⟨stage, rfl⟩⟩
      | fares amount =>
          obtain rfl := of_decide_eq_true onRide
          exact ⟨_, rfl, .inr ⟨amount, rfl⟩⟩
      | _ => cases onRide

omit [DecidableEq Rider] in
theorem CancellationWins.snoc {history : List (WorldWrite Rider)} {entry : WorldWrite Rider}
    (wins : CancellationWins history)
    (respects : ∀ rideRequestId, .outside (.cancel rideRequestId) ∈ history →
      ∀ rider write, entry = .byClient rider write → write.onRide rideRequestId = false) :
    CancellationWins (history ++ [entry]) := by
  apply pairwise_concat wins
  intro earlier member rideRequestId cancelled rider write same
  subst cancelled
  exact respects rideRequestId member rider write same

section Steps

variable {history stored : List (WorldWrite Rider)} {world next : World Rider}
  {event : WorldEvent Rider}

private theorem CancellationLaw.unqueued_step (law : CancellationLaw history world)
    (respects : RespectsCancellation history world event)
    (stepped : World.step world event = some (next, stored)) {rideRequestId : String}
    (cancelled : .outside (.cancel rideRequestId) ∈ history) :
    ∀ rider, ∀ write ∈ next.outbox rider, write.onRide rideRequestId = false := by
  refine Shared.queued_step (law.unqueued rideRequestId cancelled) ?_ stepped
  intro rider reaction app emitted acts reacts write issued
  cases onRide : write.onRide rideRequestId with
  | false => rfl
  | true =>
      obtain ⟨request, rfl, ride⟩ := DbWrite.onRide_spec onRide
      have origin := (App.step_moves reacts).requestOrigin issued
      have moves := World.movesRide_of_origin origin ride
      subst acts
      exact (respects.untouched rideRequestId moves cancelled).elim

theorem CancellationLaw.step (law : CancellationLaw history world)
    (respects : RespectsCancellation history world event)
    (stepped : World.step world event = some (next, stored)) :
    CancellationLaw (history ++ stored) next := by
  have queues := @CancellationLaw.unqueued_step _ _ _ _ _ _ _ law respects stepped
  cases Shared.moves_of_step stepped with
  | act answered reacts =>
      rw [List.append_nil]
      exact ⟨law.wins, fun _ cancelled => queues cancelled, law.kept⟩
  | @deliver rider write rest queued =>
      have earlier : ∀ {rideRequestId : String},
          .outside (.cancel rideRequestId) ∈ history ++ [.byClient rider write] →
            .outside (.cancel rideRequestId) ∈ history := by
        intro rideRequestId member
        rcases List.mem_append.mp member with old | new
        · exact old
        · cases List.mem_singleton.mp new
      have other : ∀ rideRequestId, .outside (.cancel rideRequestId) ∈ history →
          write.onRide rideRequestId = false := by
        intro rideRequestId cancelled
        exact law.unqueued rideRequestId cancelled rider write (queued ▸ List.mem_cons_self ..)
      refine ⟨law.wins.snoc ?_, fun _ cancelled => queues (earlier cancelled), ?_⟩
      · intro rideRequestId cancelled writer issued same
        cases same
        exact other rideRequestId cancelled
      · intro rideRequestId cancelled
        exact (Database.apply_status (other rideRequestId (earlier cancelled))).trans
          (law.kept rideRequestId (earlier cancelled))
  | @outside write =>
      refine ⟨law.wins.snoc ?_, ?_, ?_⟩
      · intro rideRequestId cancelled rider issued same
        cases same
      · intro rideRequestId cancelled
        rcases List.mem_append.mp cancelled with old | new
        · exact queues old
        · cases List.mem_singleton.mp new
          exact respects.unqueued rideRequestId rfl
      · intro rideRequestId cancelled
        cases write with
        | slot rider value =>
            rcases List.mem_append.mp cancelled with old | new
            · exact law.kept rideRequestId old
            · cases List.mem_singleton.mp new
        | cancel id =>
            by_cases same : rideRequestId = id
            · subst id
              simp only [Database.intrude, Function.update_self]
            · simp only [Database.intrude, Function.update_of_ne same]
              rcases List.mem_append.mp cancelled with old | new
              · exact law.kept rideRequestId old
              · cases List.mem_singleton.mp new
                exact (same rfl).elim

end Steps

/-- In every run that respects cancellations, no app overwrites the status of a
cancelled request or records a fare for it, and it stays cancelled. -/
theorem cancellationWins_of_respects {start after : World Rider}
    {events : List (WorldEvent Rider)} {stored : List (WorldWrite Rider)}
    (respects : Meets World.step RespectsCancellation [] start events)
    (run : exec World.step start events = some (after, stored)) :
    CancellationWins stored ∧ ∀ rideRequestId,
      .outside (.cancel rideRequestId) ∈ stored →
        (after.store.requests rideRequestId).status = some .cancelled := by
  have initial : CancellationLaw [] start :=
    ⟨List.Pairwise.nil, by simp, by simp⟩
  have law : CancellationLaw ([] ++ stored) after := by
    apply exec_invariant_of_meets CancellationLaw _ initial respects run
    intro history world event next emitted held condition stepped
    exact held.step condition stepped
  exact ⟨law.wins, law.kept⟩

theorem cancellationWins_sample :
    ∃ after stored,
      exec World.step sampleWorld (sampleOffer ++ sampleAccept ++
        List.replicate 10 (.deliver ()) ++
        [.outside (.cancel "request-1"), .act () (.screen 0 .tap),
          .act () (.screen 0 .unmount)]) = some (after, stored) ∧
      (after.store.requests "request-1").status = some .cancelled := by
  have cancels : ((exec World.step sampleWorld (sampleOffer ++ sampleAccept ++
      List.replicate 10 (.deliver ()) ++
      [.outside (.cancel "request-1"), .act () (.screen 0 .tap),
        .act () (.screen 0 .unmount)])).map fun result =>
          decide (.outside (.cancel "request-1") ∈ result.2)) = some true := by
    decide +kernel
  obtain ⟨⟨after, stored⟩, run, cancelled⟩ := Option.map_eq_some_iff.mp cancels
  have wins := cancellationWins_of_respects (by decide +kernel) run
  exact ⟨after, stored, run, wins.2 _ (of_decide_eq_true cancelled)⟩

theorem not_cancellationWins_of_tap :
    ¬ ∀ (after : World Unit) (events : List (WorldEvent Unit))
        (stored : List (WorldWrite Unit)),
      exec World.step sampleWorld events = some (after, stored) →
      CancellationWins stored ∧ ∀ rideRequestId,
        .outside (.cancel rideRequestId) ∈ stored →
          (after.store.requests rideRequestId).status = some .cancelled := by
  intro always
  have overwritten : ((exec World.step sampleWorld (sampleOffer ++ sampleAccept ++
      List.replicate 10 (.deliver ()) ++
      [.outside (.cancel "request-1"), .act () (.screen 0 .tap),
        .act () (.screen 0 (.reply 0 (.value (some "client")))),
        .act () (.screen 0 (.reply 0 (.value (some "token")))), .deliver ()])).map
        fun result =>
          decide (.outside (.cancel "request-1") ∈ result.2 ∧
            (result.1.store.requests "request-1").status = some (.stage .arrived))) =
              some true := by
    decide +kernel
  obtain ⟨⟨after, stored⟩, run, outcome⟩ := Option.map_eq_some_iff.mp overwritten
  obtain ⟨cancelled, arrived⟩ := of_decide_eq_true outcome
  have kept := (always after _ stored run).2 "request-1" cancelled
  rw [arrived] at kept
  cases kept

/-! ## Nobody listens -/

def App.Unlistened (app : App) : Prop :=
  ∀ screen ∈ app.screens, screen.rideStreamSubscription = false

theorem AppMove.unlistened {before after : App} {event : AppEvent} {writes : List DbWrite}
    (moves : AppMove before event after writes) (unlistened : before.Unlistened) :
    after.Unlistened := by
  cases moves with
  | built pushed =>
      intro screen member
      rcases List.mem_append.mp member with old | new
      · exact unlistened screen old
      · rw [List.mem_singleton.mp new]
  | screen shown stepped =>
      intro screen member
      rcases List.mem_or_eq_of_mem_set member with old | new
      · exact unlistened screen old
      · subst new
        exact (NewRequestScreen.step_moves stepped).keeps.unlistened
          (unlistened _ (List.mem_of_getElem? shown))
  | _ => exact unlistened

/-- No ride screen of any app ever listens for a cancellation. -/
theorem unlistened_of_run {start after : World Rider} {events : List (WorldEvent Rider)}
    {stored : List (WorldWrite Rider)}
    (unopened : ∀ rider, (start.client rider).screens = [])
    (run : exec World.step start events = some (after, stored)) (rider : Rider) :
    (after.client rider).Unlistened := by
  have initial : ∀ rider, (start.client rider).Unlistened := by
    intro rider screen member
    rw [unopened rider] at member
    cases member
  refine exec_invariant_state (fun world : World Rider => ∀ rider,
    (world.client rider).Unlistened) ?_ initial run rider
  intro world event next emitted unlistened stepped
  exact Shared.client_step (fun _ app => app.Unlistened) unlistened
    (fun _ held reacts => (App.step_moves reacts).unlistened held) stepped

end FilldRider
