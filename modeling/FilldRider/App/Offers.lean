import FilldRider.App.Moves

/-!
# The offer that was checked

`checkAvailabilityOfRide` reads the slot, compares and then stores "accepted". What
the slot holds when the text is stored depends on every other writer of the slot.
-/

set_option autoImplicit false

namespace FilldRider

open Runs

/-- The request this call goes on with, once its read has returned it. -/
def AcceptCall.taken? (call : AcceptCall) : Option String :=
  match call.answer with
  | none => none
  | some value =>
      if theRideId value = call.clientDetails.rideRequestId then
        some call.clientDetails.rideRequestId
      else none

def DbWrite.accepted? : DbWrite → Option String
  | .rider (.accepted rideRequestId _) => some rideRequestId
  | _ => none

/-- The requests whose acceptance is decided and not stored yet. -/
def underWay (app : App) (outbox : List DbWrite) : List String :=
  app.accepts.filterMap AcceptCall.taken? ++ outbox.filterMap DbWrite.accepted?

/-- The requests whose ride screen was pushed. -/
def App.pushedRides (app : App) : List String :=
  app.openings.map (·.rideRequestId) ++ app.screens.map (·.clientDetails.rideRequestId)

variable {Rider : Type} [DecidableEq Rider]

/-- The acceptance this event stores: the rider and the dialog's id. -/
def World.acceptance? (world : World Rider) : WorldEvent Rider → Option (Rider × String)
  | .deliver rider =>
      ((world.outbox rider).head?.bind DbWrite.accepted?).map fun rideRequestId =>
        (rider, rideRequestId)
  | _ => none

/-- "accepted" is stored while the slot holds the dialog's request. -/
def StoresOnOffer (_ : List (WorldWrite Rider)) (world : World Rider)
    (event : WorldEvent Rider) : Prop :=
  ∀ acceptance ∈ world.acceptance? event,
    theRideId (world.store.riders acceptance.1).newRider = acceptance.2

/-- Each ride screen that was pushed has its own "accepted", stored or on its way. -/
def OpensAccepted (history : List (WorldWrite Rider)) (world : World Rider) : Prop :=
  ∀ rider, (world.client rider).pushedRides.Perm
    ((storedBy rider history ++ world.outbox rider).filterMap DbWrite.accepted?)

structure AcceptsOnOffer (start : World Rider) (events : List (WorldEvent Rider)) : Prop where
  opens : Always World.step OpensAccepted [] start events
  stores : Meets World.step StoresOnOffer [] start events

/-- While an acceptance is under way, no other write to the rider's slot leaves another
text there. -/
def SlotKept (_ : List (WorldWrite Rider)) (world : World Rider) : WorldEvent Rider → Prop
  | .outside (.slot rider value) =>
      ∀ rideRequestId ∈ underWay (world.client rider) (world.outbox rider),
        theRideId value = rideRequestId
  | .deliver rider =>
      match world.outbox rider with
      | .rider write :: rest =>
          ∀ rideRequestId ∈ underWay (world.client rider) rest,
            theRideId ((world.store.riders rider).apply write).newRider = rideRequestId
      | _ => True
  | _ => True

instance (history : List (WorldWrite Rider)) (world : World Rider) (event : WorldEvent Rider) :
    Decidable (StoresOnOffer history world event) :=
  Option.decidableForallMem _

instance (history : List (WorldWrite Rider)) (world : World Rider) :
    (event : WorldEvent Rider) → Decidable (SlotKept history world event)
  | .outside (.slot _ _) => inferInstanceAs (Decidable (∀ _ ∈ underWay _ _, _))
  | .outside (.cancel _) | .act _ _ => isTrue trivial
  | .deliver rider =>
      match queued : world.outbox rider with
      | .rider write :: rest =>
          decidable_of_iff (∀ rideRequestId ∈ underWay (world.client rider) rest,
            theRideId ((world.store.riders rider).apply write).newRider = rideRequestId)
            (by simp [SlotKept, queued])
      | [] | .request _ _ :: _ => isTrue (by simp [SlotKept, queued])

/-! ## What the app takes up -/

theorem AcceptCall.taken?_eq_some {call : AcceptCall} {rideRequestId : String} :
    call.taken? = some rideRequestId ↔ ∃ value, call.answer = some value ∧
      theRideId value = rideRequestId ∧ call.clientDetails.rideRequestId = rideRequestId := by
  unfold taken?
  cases call.answer with
  | none => simp
  | some value =>
      simp only [Option.ite_none_right_eq_some, Option.some.injEq, exists_eq_left']
      constructor
      · intro taken
        obtain ⟨own, rfl⟩ := taken
        exact ⟨own, rfl⟩
      · intro found
        obtain ⟨own, same⟩ := found
        exact ⟨own.trans same.symm, same⟩

theorem DbWrite.accepted?_eq_some {write : DbWrite} {rideRequestId : String} :
    write.accepted? = some rideRequestId ↔
      ∃ read, write = .rider (.accepted rideRequestId read) := by
  cases write with
  | request id write => simp [accepted?]
  | rider write => cases write <;> simp [accepted?]

theorem accepted_of_home {before after : Home} {event : HomeEvent} {writes : List RiderWrite}
    (moves : HomeMove before event after writes) :
    (writes.map DbWrite.rider).filterMap DbWrite.accepted? = [] := by
  rw [List.filterMap_map, List.filterMap_eq_nil_iff]
  intro write issued
  rcases moves.write_cases issued with rfl | rfl | ⟨text, rfl⟩ | ⟨position, rfl⟩ <;> rfl

theorem accepted_of_requestWrites (rideRequestId : String) (actions : List ScreenAction) :
    (requestWrites rideRequestId actions).filterMap DbWrite.accepted? = [] := by
  rw [List.filterMap_eq_nil_iff]
  intro write issued
  cases write with
  | request id write => rfl
  | rider write => exact (rider_not_mem_requestWrites issued).elim

section Moves

variable {before after : App} {event : AppEvent} {writes outbox : List DbWrite}

/-- An acceptance is under way since before, or since this read. -/
theorem AppMove.underWay (moves : AppMove before event after writes) {rideRequestId : String}
    (member : rideRequestId ∈ underWay after (outbox ++ writes)) :
    rideRequestId ∈ FilldRider.underWay before outbox ∨
      ∃ call value, event = .slotRead call value ∧ theRideId value = rideRequestId := by
  rw [FilldRider.underWay, List.filterMap_append, List.mem_append, List.mem_append] at member
  rcases member with asked | queued | issued
  · obtain ⟨call, waiting, taken⟩ := List.mem_filterMap.mp asked
    obtain ⟨value, answer, own, same⟩ := AcceptCall.taken?_eq_some.mp taken
    rcases moves.answered waiting answer with old | ⟨index, read, _⟩
    · exact .inl (List.mem_append_left _ (List.mem_filterMap.mpr ⟨call, old, taken⟩))
    · exact .inr ⟨index, value, read, own⟩
  · exact .inl (List.mem_append_right _ queued)
  · obtain ⟨write, written, accepted⟩ := List.mem_filterMap.mp issued
    obtain ⟨read, rfl⟩ := DbWrite.accepted?_eq_some.mp accepted
    have origin := moves.riderOrigin written
    cases origin with
    | home steps emitted =>
        rcases steps.write_cases emitted with same | same | ⟨_, same⟩ | ⟨_, same⟩ <;> cases same
    | accepted answered own =>
        refine .inl (List.mem_append_left _ (List.mem_filterMap.mpr
          ⟨_, List.mem_of_getElem? answered, AcceptCall.taken?_eq_some.mpr ?_⟩))
        exact ⟨_, rfl, own, rfl⟩

/-- A ride screen is pushed with each "accepted", and only then. -/
theorem AppMove.pushedRides (moves : AppMove before event after writes) :
    after.pushedRides.Perm (before.pushedRides ++ writes.filterMap DbWrite.accepted?) := by
  cases moves with
  | home moves =>
      rw [accepted_of_home moves, List.append_nil]
      exact .refl _
  | @taken call dialog details value answered own =>
      have pushed : (before.openings ++ [details]).map (·.rideRequestId) =
          before.openings.map (·.rideRequestId) ++ [details.rideRequestId] := List.map_append ..
      show (List.map _ (before.openings ++ [details]) ++ _).Perm
        (before.pushedRides ++ [details.rideRequestId])
      rw [pushed, App.pushedRides, List.append_assoc, List.append_assoc]
      exact List.perm_append_comm.append_left _
  | @built opening details pushed =>
      have silent : (before.acceptWrites details).filterMap DbWrite.accepted? = [] := by
        rw [App.acceptWrites, List.filterMap_append, accepted_of_requestWrites]
        rfl
      obtain ⟨inside, rfl⟩ := List.getElem?_eq_some_iff.mp pushed
      have opened := (List.getElem_cons_eraseIdx_perm inside).map fun details =>
        details.rideRequestId
      rw [silent, List.append_nil, App.pushedRides, App.pushedRides, List.map_append,
        ← List.append_assoc]
      refine (List.perm_append_comm.trans ?_).trans (List.Perm.append_right _ opened)
      exact .refl _
  | screen shown stepped =>
      have details := (NewRequestScreen.step_moves stepped).keeps.details
      rw [accepted_of_requestWrites, List.append_nil, App.pushedRides, App.pushedRides,
        map_set_same _ shown (congrArg ClientDetails.rideRequestId details)]
  | accept | slotRead | refused | saved | profile | rideType =>
      rw [List.filterMap_nil, List.append_nil]
      exact .refl _

end Moves

/-! ## The slot and the screens -/

/-- The slot of a rider with an acceptance under way holds its request, and every ride
screen goes with an "accepted". -/
structure OfferLaw (history : List (WorldWrite Rider)) (world : World Rider) : Prop where
  slots : ∀ rider, ∀ rideRequestId ∈ underWay (world.client rider) (world.outbox rider),
    theRideId (world.store.riders rider).newRider = rideRequestId
  opens : OpensAccepted history world

namespace OfferLaw

variable {history now : List (WorldWrite Rider)} {world next : World Rider}
  {event : WorldEvent Rider}

theorem start (uid : Rider → String) (store : Database Rider) :
    OfferLaw [] (World.start uid store) where
  slots rider rideRequestId member := by cases member
  opens rider := .refl _

theorem act {actor : Rider} {reaction : AppEvent} {app : App} {emitted : List DbWrite}
    (law : OfferLaw history world)
    (answered : world.store.answers actor reaction = true)
    (moves : AppMove (world.client actor) reaction app emitted) :
    OfferLaw history
      { world with
        client := Function.update world.client actor app
        outbox := Function.update world.outbox actor (world.outbox actor ++ emitted) } where
  slots rider rideRequestId member := by
    by_cases same : rider = actor
    · subst same
      simp only [Function.update_self] at member
      rcases moves.underWay member with before | ⟨call, value, rfl, own⟩
      · exact law.slots rider rideRequestId before
      · simp only [Database.answers, decide_eq_true_eq] at answered
        rw [answered]
        exact own
    · simp only [Function.update_of_ne same] at member
      exact law.slots rider rideRequestId member
  opens rider := by
    by_cases same : rider = actor
    · subst same
      simp only [Function.update_self]
      rw [← List.append_assoc, List.filterMap_append]
      exact moves.pushedRides.trans (List.Perm.append_right _ (law.opens rider))
    · simp only [Function.update_of_ne same]
      exact law.opens rider

theorem deliver {actor : Rider} {write : DbWrite} {rest : List DbWrite}
    (law : OfferLaw history world) (kept : SlotKept history world (.deliver actor))
    (queued : world.outbox actor = write :: rest) :
    OfferLaw (history ++ [.byClient actor write])
      { world with
        outbox := Function.update world.outbox actor rest
        store := world.store.apply actor write } where
  slots rider rideRequestId member := by
    by_cases same : rider = actor
    · subst same
      simp only [Function.update_self] at member
      cases write with
      | request id write =>
          apply law.slots rider rideRequestId
          rw [queued]
          exact member
      | rider write =>
          simp only [SlotKept, queued] at kept
          simp only [Database.apply, Function.update_self]
          exact kept rideRequestId member
    · simp only [Function.update_of_ne same] at member
      have still : (world.store.apply actor write).riders rider = world.store.riders rider := by
        cases write with
        | request id write => rfl
        | rider write => exact Function.update_of_ne same ..
      rw [still]
      exact law.slots rider rideRequestId member
  opens rider := by
    have before := law.opens rider
    rw [storedBy_append]
    by_cases same : actor = rider
    · subst same
      rw [queued] at before
      simpa [storedBy] using before
    · simpa [storedBy, same, Function.update_of_ne (Ne.symm same)] using before

theorem outside {write : Outside Rider} (law : OfferLaw history world)
    (kept : SlotKept history world (.outside write)) :
    OfferLaw (history ++ [.outside write])
      { world with store := world.store.intrude write } where
  slots rider rideRequestId member := by
    cases write with
    | cancel id => exact law.slots rider rideRequestId member
    | slot other value =>
        by_cases same : rider = other
        · subst same
          simp only [Database.intrude, Function.update_self]
          exact kept rideRequestId member
        · simp only [Database.intrude, Function.update_of_ne same]
          exact law.slots rider rideRequestId member
  opens rider := by
    have before := law.opens rider
    simpa [storedBy_append, storedBy] using before

theorem step (law : OfferLaw history world) (kept : SlotKept history world event)
    (stepped : World.step world event = some (next, now)) :
    OfferLaw (history ++ now) next := by
  cases Shared.moves_of_step stepped with
  | act answered reacts =>
      rw [List.append_nil]
      exact law.act answered (App.step_moves reacts)
  | deliver queued => exact law.deliver kept queued
  | outside => exact law.outside kept

theorem storesOnOffer (law : OfferLaw history world) : StoresOnOffer history world event := by
  intro acceptance found
  obtain ⟨rider, rideRequestId⟩ := acceptance
  cases event with
  | act actor reaction => cases found
  | outside write => cases found
  | deliver actor =>
      obtain ⟨id, first, same⟩ := Option.map_eq_some_iff.mp found
      obtain ⟨write, head, accepted⟩ := Option.bind_eq_some_iff.mp first
      cases same
      apply law.slots rider rideRequestId
      exact List.mem_append_right _
        (List.mem_filterMap.mpr ⟨write, List.mem_of_head? head, accepted⟩)

end OfferLaw

/-- In every run of all apps, the dispatcher and the customers in which no slot changes
while an acceptance of its rider is under way, "accepted" is always stored over the
dialog's own offer, and every ride screen that opens goes with such an "accepted". -/
theorem acceptsOnOffer_of_slotKept {uid : Rider → String} {store : Database Rider}
    {after : World Rider} {events : List (WorldEvent Rider)} {stored : List (WorldWrite Rider)}
    (run : exec World.step (World.start uid store) events = some (after, stored))
    (kept : Meets World.step SlotKept [] (World.start uid store) events) :
    AcceptsOnOffer (World.start uid store) events := by
  have all : ∀ event ∈ events, True := fun _ _ => trivial
  have both : Always World.step OpensAccepted [] (World.start uid store) events ∧
      Meets World.step StoresOnOffer [] (World.start uid store) events := by
    apply always_meets_of_meets OfferLaw OpensAccepted OfferLaw.opens _ _
      (OfferLaw.start uid store) all run kept
    · intro history world event next emitted law _ kept stepped
      exact law.step kept stepped
    · intro history world event next emitted law _ _ _
      exact law.storesOnOffer
  exact ⟨both.1, both.2⟩

theorem acceptsOnOffer_sampleAccept :
    (exec World.step (World.start (fun _ => "rider") sampleWorld.store)
      (sampleOffer ++ sampleAccept ++ [.deliver ()])).isSome ∧
    AcceptsOnOffer (World.start (fun _ : Unit => "rider") sampleWorld.store)
      (sampleOffer ++ sampleAccept ++ [.deliver ()]) := by
  have runs : (exec World.step (World.start (fun _ => "rider") sampleWorld.store)
      (sampleOffer ++ sampleAccept ++ [.deliver ()])).isSome := by
    decide +kernel
  obtain ⟨⟨after, stored⟩, run⟩ := Option.isSome_iff_exists.mp runs
  exact ⟨runs, acceptsOnOffer_of_slotKept run (by decide +kernel)⟩

theorem not_acceptsOnOffer_of_late_cancel :
    ¬ ∀ (uid : Unit → String) (store : Database Unit) (after : World Unit)
        (events : List (WorldEvent Unit)) (stored : List (WorldWrite Unit)),
      exec World.step (World.start uid store) events = some (after, stored) →
      AcceptsOnOffer (World.start uid store) events := by
  intro always
  have runs : (exec World.step (World.start (fun _ => "rider") sampleWorld.store)
      (sampleOffer ++ sampleAccept ++
        [.outside (.slot () (some (.text "cancelled"))), .deliver ()])).isSome := by
    decide +kernel
  obtain ⟨⟨after, stored⟩, run⟩ := Option.isSome_iff_exists.mp runs
  have stores := (always _ _ after _ stored run).stores
  revert stores
  decide +kernel

end FilldRider
