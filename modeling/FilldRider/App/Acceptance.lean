import FilldRider.App.Moves
import FilldRider.Runs.Refusals

/-!
# Who accepted a request

Acceptance is decided against each rider's own slot and then published by seven
separate writes, each of which the database may refuse. With a single rider opening the
ride and no write to it refused, the published fields are complete and theirs once the
writes have arrived.
-/

set_option autoImplicit false

namespace FilldRider

open Runs

variable {Rider : Type} [DecidableEq Rider]

/-- The fields that tell the customer who accepted. -/
inductive DriverField where
  | driverName
  | driverPhone
  | driverId
  | carDetails
  | profilepicture
  | driverLocation
  deriving DecidableEq, Repr

def GasRequest.has (request : GasRequest) : DriverField → Bool
  | .driverName => request.driverName.isSome
  | .driverPhone => request.driverPhone.isSome
  | .driverId => request.driverId.isSome
  | .carDetails => request.carDetails.isSome
  | .profilepicture => request.profilepicture.isSome
  | .driverLocation => request.driverLocation.isSome

/-- The field a write sets, and whether it sets it to something. -/
def RequestWrite.field? : RequestWrite → Option (DriverField × Bool)
  | .driverName value => some (.driverName, value.isSome)
  | .driverPhone value => some (.driverPhone, value.isSome)
  | .driverId value => some (.driverId, value.isSome)
  | .carDetails value => some (.carDetails, value.isSome)
  | .profilepicture value => some (.profilepicture, value.isSome)
  | .driverLocation value => some (.driverLocation, value.isSome)
  | .status _ | .fares _ => none

theorem GasRequest.apply_has (request : GasRequest) (write : RequestWrite)
    (field : DriverField) :
    (request.apply write).has field =
      match write.field? with
      | some (other, present) => if field = other then present else request.has field
      | none => request.has field := by
  cases write <;> cases field <;> rfl

/-- The profile is loaded with what the acceptance publishes, and a position is known. -/
structure App.Complete (app : App) : Prop where
  firstname : (app.riderInfo.bind (·.firstname)).isSome
  phone : (app.riderInfo.bind (·.phone)).isSome
  profilepicture : (app.riderInfo.bind (·.profilepicture)).isSome
  position : app.home.currentPosition.isSome

instance (app : App) : Decidable app.Complete :=
  decidable_of_iff ((app.riderInfo.bind (·.firstname)).isSome ∧
      (app.riderInfo.bind (·.phone)).isSome ∧
      (app.riderInfo.bind (·.profilepicture)).isSome ∧ app.home.currentPosition.isSome)
    ⟨fun parts => ⟨parts.1, parts.2.1, parts.2.2.1, parts.2.2.2⟩,
      fun complete => ⟨complete.1, complete.2, complete.3, complete.4⟩⟩

theorem acceptRideRequest_covers (uid : String) (riderInfo : Option RideR)
    (currentPosition : Option LatLng) (field : DriverField) :
    ∃ write ∈ acceptRideRequest uid riderInfo currentPosition, ∃ present,
      write.field? = some (field, present) := by
  have fields : ((acceptRideRequest uid riderInfo currentPosition).filterMap
      RequestWrite.field?).map Prod.fst =
        [.driverName, .driverPhone, .driverId, .carDetails, .profilepicture, .driverLocation] :=
    rfl
  have member : field ∈ ((acceptRideRequest uid riderInfo currentPosition).filterMap
      RequestWrite.field?).map Prod.fst := by
    rw [fields]
    cases field <;> decide
  obtain ⟨⟨_, present⟩, found, rfl⟩ := List.mem_map.mp member
  obtain ⟨write, issued, sets⟩ := List.mem_filterMap.mp found
  exact ⟨write, issued, present, sets⟩

theorem App.Complete.present {app : App} (complete : app.Complete) {write : RequestWrite}
    (issued : write ∈ acceptRideRequest app.uid app.riderInfo app.home.currentPosition)
    {field : DriverField} {present : Bool} (sets : write.field? = some (field, present)) :
    present = true := by
  simp only [acceptRideRequest, List.mem_cons, List.not_mem_nil, or_false] at issued
  rcases issued with same | same | same | same | same | same | same <;> subst same <;>
    cases sets
  · exact complete.firstname
  · exact complete.phone
  · rfl
  · rfl
  · exact complete.profilepicture
  · exact complete.position

theorem ScreenWrite.present {RequestId : Type} {rideType : String}
    {before : NewRequestScreen RequestId} {event : ScreenEvent} {write : RequestWrite}
    (written : ScreenWrite rideType before event write) {field : DriverField} {present : Bool}
    (sets : write.field? = some (field, present)) : present = true := by
  cases written <;> cases sets
  rfl

def App.Opened (app : App) (rideRequestId : String) : Prop :=
  ∃ screen ∈ app.screens, screen.clientDetails.rideRequestId = rideRequestId

instance (app : App) (rideRequestId : String) : Decidable (app.Opened rideRequestId) :=
  inferInstanceAs (Decidable (∃ screen ∈ app.screens, _))

def World.builds? (world : World Rider) :
    WorldEvent Rider → Option (Rider × ClientDetails String)
  | .act rider (.built opening) =>
      ((world.client rider).openings[opening]?).map fun details => (rider, details)
  | _ => none

/-- Only this rider builds the ride screen, with everything to publish at hand. -/
def OpensAlone (rideRequestId : String) (rider : Rider) (world : World Rider)
    (event : WorldEvent Rider) : Prop :=
  ∀ built ∈ world.builds? event, built.2.rideRequestId = rideRequestId →
    built.1 = rider ∧ (world.client rider).Complete

instance (rideRequestId : String) (rider : Rider) (world : World Rider)
    (event : WorldEvent Rider) : Decidable (OpensAlone rideRequestId rider world event) :=
  Option.decidableForallMem _

abbrev RefusableEvent (Rider : Type) := ServedEvent Rider AppEvent (Outside Rider)

/-- The world with a database that may refuse any write. -/
def World.stepRefusing :
    Component (World Rider) (RefusableEvent Rider) (WorldWrite Rider) :=
  Shared.stepRefusing App.component Database.answers Database.apply Database.intrude

/-- The request that the oldest write of a rider goes to. -/
def World.oldest? (world : World Rider) (rider : Rider) : Option String :=
  match world.outbox rider with
  | .request rideRequestId _ :: _ => some rideRequestId
  | _ => none

/-- Only this rider opens the ride, and what this rider writes to it is not refused. -/
def PublishesAlone (rideRequestId : String) (rider : Rider) (_ : List (WorldWrite Rider))
    (world : World Rider) : RefusableEvent Rider → Prop
  | .served event => OpensAlone rideRequestId rider world event
  | .refused actor => actor = rider → world.oldest? rider ≠ some rideRequestId

instance (rideRequestId : String) (rider : Rider) (history : List (WorldWrite Rider))
    (world : World Rider) :
    (event : RefusableEvent Rider) →
      Decidable (PublishesAlone rideRequestId rider history world event)
  | .served event => inferInstanceAs (Decidable (OpensAlone rideRequestId rider world event))
  | .refused actor => inferInstanceAs (Decidable (actor = rider → _))

def World.Queued (world : World Rider) (rider : Rider) (rideRequestId : String) : Prop :=
  ∃ write, .request rideRequestId write ∈ world.outbox rider

/-- The law of a request that one rider opens: nobody else touches it, nothing is
published empty, and every field is published or on its way once it is opened. -/
structure AcceptanceLaw (rideRequestId : String) (rider : Rider)
    (history : List (WorldWrite Rider)) (world : World Rider) : Prop where
  unopened : ∀ other, other ≠ rider → ¬ (world.client other).Opened rideRequestId
  unqueued : ∀ other, other ≠ rider → ¬ world.Queued other rideRequestId
  origin : ∀ writer write, .byClient writer (.request rideRequestId write) ∈ history →
    writer = rider
  present : ∀ write, .request rideRequestId write ∈ world.outbox rider →
    ∀ field present, write.field? = some (field, present) → present = true
  opened : (∃ stage, (world.store.requests rideRequestId).status = some (.stage stage)) ∨
      world.Queued rider rideRequestId →
    (world.client rider).Opened rideRequestId
  covered : (world.client rider).Opened rideRequestId → ∀ field,
    (world.store.requests rideRequestId).has field = true ∨
      ∃ write, .request rideRequestId write ∈ world.outbox rider ∧
        ∃ present, write.field? = some (field, present)

theorem AppMove.opened {before after : App} {event : AppEvent} {writes : List DbWrite}
    {rideRequestId : String} (moves : AppMove before event after writes) :
    after.Opened rideRequestId ↔ before.Opened rideRequestId ∨
      ∃ opening details, event = .built opening ∧
        before.openings[opening]? = some details ∧ details.rideRequestId = rideRequestId := by
  cases moves with
  | @built opening details pushed =>
      constructor
      · intro shown
        obtain ⟨screen, member, same⟩ := shown
        rcases List.mem_append.mp member with old | new
        · exact .inl ⟨screen, old, same⟩
        · rw [List.mem_singleton.mp new] at same
          exact .inr ⟨opening, details, rfl, pushed, same⟩
      · intro source
        rcases source with ⟨screen, member, same⟩ | ⟨other, built, equal, found, same⟩
        · exact ⟨screen, List.mem_append_left _ member, same⟩
        · cases equal
          rw [pushed] at found
          cases found
          exact ⟨_, List.mem_append_right _ (List.mem_singleton.mpr rfl), same⟩
  | @screen ride event screen next actions shown stepped =>
      have details := (NewRequestScreen.step_moves stepped).keeps.details
      have ids : (before.screens.set ride next).map (·.clientDetails.rideRequestId) =
          before.screens.map (·.clientDetails.rideRequestId) :=
        map_set_same _ shown (congrArg ClientDetails.rideRequestId details)
      have same : ∀ app : App, app.Opened rideRequestId ↔
          rideRequestId ∈ app.screens.map (·.clientDetails.rideRequestId) := by
        intro app
        simp [App.Opened]
      rw [same, same, ids]
      simp
  | _ => simp [App.Opened]

namespace Database

theorem apply_request (database : Database Rider) (rider : Rider) (rideRequestId : String)
    (write : RequestWrite) :
    (database.apply rider (.request rideRequestId write)).requests rideRequestId =
      (database.requests rideRequestId).apply write := by
  simp only [apply, Function.update_self]

theorem apply_other {database : Database Rider} {rider : Rider} {rideRequestId : String}
    {write : DbWrite} (other : ∀ issued, write ≠ .request rideRequestId issued) :
    (database.apply rider write).requests rideRequestId = database.requests rideRequestId := by
  cases write with
  | rider write => rfl
  | request id write =>
      have differs : rideRequestId ≠ id := by
        intro same
        subst id
        exact other write rfl
      simp only [apply, Function.update_of_ne differs]

theorem intrude_has (database : Database Rider) (write : Outside Rider)
    (rideRequestId : String) (field : DriverField) :
    ((database.intrude write).requests rideRequestId).has field =
      (database.requests rideRequestId).has field := by
  cases write with
  | slot rider value => rfl
  | cancel id =>
      by_cases same : rideRequestId = id
      · subst id
        simp only [intrude, Function.update_self]
        cases field <;> rfl
      · simp only [intrude, Function.update_of_ne same]

theorem intrude_stage {database : Database Rider} {write : Outside Rider}
    {rideRequestId : String} {stage : Stage}
    (staged : ((database.intrude write).requests rideRequestId).status = some (.stage stage)) :
    (database.requests rideRequestId).status = some (.stage stage) := by
  cases write with
  | slot rider value => exact staged
  | cancel id =>
      by_cases same : rideRequestId = id
      · subst id
        simp only [intrude, Function.update_self] at staged
        cases staged
      · simpa only [intrude, Function.update_of_ne same] using staged

end Database

section Steps

variable {rideRequestId : String} {rider : Rider} {history stored : List (WorldWrite Rider)}
  {world next : World Rider} {event : WorldEvent Rider}

private theorem AcceptanceLaw.issuer (law : AcceptanceLaw rideRequestId rider history world)
    {actor : Rider} {reaction : AppEvent} {app : App} {emitted : List DbWrite}
    (alone : OpensAlone rideRequestId rider world (.act actor reaction))
    (reacts : App.component (world.client actor) reaction = some (app, emitted))
    {write : RequestWrite} (issued : .request rideRequestId write ∈ emitted) :
    actor = rider ∧ app.Opened rideRequestId ∧
      ∀ field present, write.field? = some (field, present) → present = true := by
  have moves := App.step_moves reacts
  cases moves.requestOrigin issued with
  | @accepted opening details pushed same accepted =>
      obtain ⟨here, complete⟩ :=
        alone (actor, details) (by simp [World.builds?, pushed]) same.symm
      subst here
      refine ⟨rfl, moves.opened.mpr (.inr ⟨_, _, rfl, pushed, same.symm⟩), ?_⟩
      intro field present sets
      exact complete.present accepted sets
  | screen shown same written =>
      have before : (world.client actor).Opened rideRequestId :=
        ⟨_, List.mem_of_getElem? shown, same.symm⟩
      refine ⟨?_, moves.opened.mpr (.inl before), fun field present sets => written.present sets⟩
      by_contra other
      exact law.unopened actor other before

private theorem AcceptanceLaw.unopened_step (law : AcceptanceLaw rideRequestId rider history world)
    (alone : OpensAlone rideRequestId rider world event)
    (stepped : World.step world event = some (next, stored)) :
    ∀ other, other ≠ rider → ¬ (next.client other).Opened rideRequestId := by
  refine Shared.client_step (fun other app => other ≠ rider → ¬ app.Opened rideRequestId)
    law.unopened ?_ stepped
  intro actor reaction app emitted acts unopened reacts other opened
  subst acts
  rcases (App.step_moves reacts).opened.mp opened with old | ⟨opening, details, rfl, pushed, same⟩
  · exact unopened other old
  · exact other (alone (actor, details) (by simp [World.builds?, pushed]) same).1

private theorem AcceptanceLaw.unqueued_step (law : AcceptanceLaw rideRequestId rider history world)
    (alone : OpensAlone rideRequestId rider world event)
    (stepped : World.step world event = some (next, stored)) :
    ∀ other, other ≠ rider → ¬ next.Queued other rideRequestId := by
  have queues : ∀ actor, ∀ write ∈ next.outbox actor, actor ≠ rider →
      ∀ issued, write ≠ .request rideRequestId issued := by
    refine Shared.queued_step ?_ ?_ stepped
    · intro actor write queued other issued same
      subst same
      exact law.unqueued actor other ⟨issued, queued⟩
    · intro actor reaction app emitted acts reacts write member other issued same
      subst acts same
      exact other (law.issuer alone reacts member).1
  intro other differs queued
  obtain ⟨issued, member⟩ := queued
  exact queues other _ member differs issued rfl

private theorem AcceptanceLaw.present_step (law : AcceptanceLaw rideRequestId rider history world)
    (alone : OpensAlone rideRequestId rider world event)
    (stepped : World.step world event = some (next, stored)) :
    ∀ write, .request rideRequestId write ∈ next.outbox rider →
      ∀ field present, write.field? = some (field, present) → present = true := by
  have queues : ∀ actor, ∀ write ∈ next.outbox actor, actor = rider →
      ∀ issued, write = .request rideRequestId issued →
        ∀ field present, issued.field? = some (field, present) → present = true := by
    refine Shared.queued_step ?_ ?_ stepped
    · intro actor write queued here issued same
      subst here same
      exact law.present issued queued
    · intro actor reaction app emitted acts reacts write member here issued same
      subst acts same
      exact (law.issuer alone reacts member).2.2
  intro write member
  exact queues rider _ member rfl write rfl

private theorem AcceptanceLaw.opened_mono
    (stepped : World.step world event = some (next, stored))
    (opened : (world.client rider).Opened rideRequestId) :
    (next.client rider).Opened rideRequestId := by
  refine Shared.client_step (fun other app => (world.client other).Opened rideRequestId →
    app.Opened rideRequestId) (fun _ => id) ?_ stepped rider opened
  intro actor reaction app emitted _ _ reacts before
  exact (App.step_moves reacts).opened.mpr (.inl before)

private theorem AcceptanceLaw.opened_step (law : AcceptanceLaw rideRequestId rider history world)
    (alone : OpensAlone rideRequestId rider world event)
    (stepped : World.step world event = some (next, stored))
    (touched : (∃ stage, (next.store.requests rideRequestId).status = some (.stage stage)) ∨
      next.Queued rider rideRequestId) :
    (next.client rider).Opened rideRequestId := by
  have earlier : (∃ stage, (world.store.requests rideRequestId).status = some (.stage stage)) ∨
      world.Queued rider rideRequestId → (next.client rider).Opened rideRequestId :=
    fun before => opened_mono stepped (law.opened before)
  cases Shared.moves_of_step stepped with
  | @act actor reaction app emitted answered reacts =>
      rcases touched with staged | ⟨write, member⟩
      · exact earlier (.inl staged)
      · by_cases here : rider = actor
        · subst here
          simp only [Function.update_self] at member
          rcases List.mem_append.mp member with old | new
          · exact earlier (.inr ⟨write, old⟩)
          · simpa using (law.issuer alone reacts new).2.1
        · simp only [Function.update_of_ne here] at member
          exact earlier (.inr ⟨write, member⟩)
  | @deliver actor write rest queued =>
      by_cases issued : ∃ request, write = .request rideRequestId request
      · obtain ⟨request, rfl⟩ := issued
        have waiting : world.Queued actor rideRequestId :=
          ⟨request, queued ▸ List.mem_cons_self ..⟩
        by_cases here : actor = rider
        · exact earlier (.inr (here ▸ waiting))
        · exact (law.unqueued actor here waiting).elim
      · rcases touched with ⟨stage, staged⟩ | ⟨waiting, member⟩
        · rw [Database.apply_other (fun request same => issued ⟨request, same⟩)] at staged
          exact earlier (.inl ⟨stage, staged⟩)
        · by_cases here : rider = actor
          · subst here
            simp only [Function.update_self] at member
            exact earlier (.inr ⟨waiting, queued ▸ List.mem_cons_of_mem _ member⟩)
          · simp only [Function.update_of_ne here] at member
            exact earlier (.inr ⟨waiting, member⟩)
  | outside =>
      rcases touched with ⟨stage, staged⟩ | waiting
      · exact earlier (.inl ⟨stage, Database.intrude_stage staged⟩)
      · exact earlier (.inr waiting)

omit [DecidableEq Rider] in
private theorem AcceptanceLaw.covered_act (law : AcceptanceLaw rideRequestId rider history world)
    {reaction : AppEvent} {app : App} {emitted : List DbWrite}
    (reacts : App.component (world.client rider) reaction = some (app, emitted))
    (opened : app.Opened rideRequestId) (field : DriverField) :
    (world.store.requests rideRequestId).has field = true ∨
      ∃ write, .request rideRequestId write ∈ world.outbox rider ++ emitted ∧
        ∃ present, write.field? = some (field, present) := by
  have moves := App.step_moves reacts
  rcases moves.opened.mp opened with before | ⟨opening, details, rfl, pushed, same⟩
  · rcases law.covered before field with stored | ⟨write, queued, sets⟩
    · exact .inl stored
    · exact .inr ⟨write, List.mem_append_left _ queued, sets⟩
  · obtain ⟨write, accepted, sets⟩ := acceptRideRequest_covers (world.client rider).uid
      (world.client rider).riderInfo (world.client rider).home.currentPosition field
    cases moves with
    | built found =>
        rw [pushed] at found
        cases found
        refine .inr ⟨write, List.mem_append_right _ (List.mem_append_left _ ?_), sets⟩
        exact mem_requestWrites.mpr ⟨same.symm, List.mem_map.mpr ⟨write, accepted, rfl⟩⟩

private theorem AcceptanceLaw.covered_deliver
    (law : AcceptanceLaw rideRequestId rider history world)
    {actor : Rider} {write : DbWrite} {rest : List DbWrite}
    (queued : world.outbox actor = write :: rest)
    (opened : (world.client rider).Opened rideRequestId) (field : DriverField) :
    ((world.store.apply actor write).requests rideRequestId).has field = true ∨
      ∃ waiting, .request rideRequestId waiting ∈
          Function.update world.outbox actor rest rider ∧
        ∃ present, waiting.field? = some (field, present) := by
  by_cases issued : ∃ request, write = .request rideRequestId request
  · obtain ⟨request, rfl⟩ := issued
    have here : actor = rider := by
      by_contra other
      exact law.unqueued actor other ⟨request, queued ▸ List.mem_cons_self ..⟩
    subst here
    rw [Database.apply_request, GasRequest.apply_has, Function.update_self]
    have shown := law.present request (queued ▸ List.mem_cons_self ..)
    rcases law.covered opened field with stored | ⟨waiting, member, present, sets⟩
    · left
      cases target : request.field? with
      | none => exact stored
      | some pair =>
          obtain ⟨other, present⟩ := pair
          dsimp only
          split
          · exact shown other present target
          · exact stored
    · rw [queued] at member
      rcases List.mem_cons.mp member with first | later
      · cases first
        left
        rw [sets]
        simpa using shown field present sets
      · exact .inr ⟨waiting, later, present, sets⟩
  · rw [Database.apply_other (fun request same => issued ⟨request, same⟩)]
    rcases law.covered opened field with stored | ⟨waiting, member, sets⟩
    · exact .inl stored
    · right
      refine ⟨waiting, ?_, sets⟩
      by_cases here : rider = actor
      · subst here
        rw [queued] at member
        rcases List.mem_cons.mp member with first | later
        · exact (issued ⟨waiting, first.symm⟩).elim
        · simpa using later
      · simpa [Function.update_of_ne here] using member

private theorem AcceptanceLaw.covered_step (law : AcceptanceLaw rideRequestId rider history world)
    (stepped : World.step world event = some (next, stored))
    (opened : (next.client rider).Opened rideRequestId) (field : DriverField) :
    (next.store.requests rideRequestId).has field = true ∨
      ∃ write, .request rideRequestId write ∈ next.outbox rider ∧
        ∃ present, write.field? = some (field, present) := by
  cases Shared.moves_of_step stepped with
  | @act actor reaction app emitted answered reacts =>
      by_cases here : rider = actor
      · subst here
        simp only [Function.update_self] at opened ⊢
        exact law.covered_act reacts opened field
      · simp only [Function.update_of_ne here] at opened ⊢
        exact law.covered opened field
  | deliver queued => exact law.covered_deliver queued opened field
  | outside =>
      rw [Database.intrude_has]
      exact law.covered opened field

theorem AcceptanceLaw.step (law : AcceptanceLaw rideRequestId rider history world)
    (alone : OpensAlone rideRequestId rider world event)
    (stepped : World.step world event = some (next, stored)) :
    AcceptanceLaw rideRequestId rider (history ++ stored) next where
  unopened := law.unopened_step alone stepped
  unqueued := law.unqueued_step alone stepped
  origin := by
    intro writer write member
    rcases List.mem_append.mp member with old | new
    · exact law.origin writer write old
    · cases Shared.moves_of_step stepped with
      | act answered reacts => cases new
      | deliver queued =>
          cases List.mem_singleton.mp new
          by_contra other
          exact law.unqueued writer other ⟨write, queued ▸ List.mem_cons_self ..⟩
      | outside => cases List.mem_singleton.mp new
  present := law.present_step alone stepped
  opened := law.opened_step alone stepped
  covered := law.covered_step stepped

end Steps

/-- One rider at most has the ride open, and once the request is accepted every
field is published by one and the same rider. -/
structure OneRider (rideRequestId : String) (world : World Rider)
    (stored : List (WorldWrite Rider)) : Prop where
  single : ∀ first second, (world.client first).Opened rideRequestId →
    (world.client second).Opened rideRequestId → first = second
  published : ∀ stage, (world.store.requests rideRequestId).status = some (.stage stage) →
    ∃ rider, (∀ field, (world.store.requests rideRequestId).has field = true) ∧
      ∀ writer write, .byClient writer (.request rideRequestId write) ∈ stored → writer = rider

theorem World.refused_cases {world next : World Rider} {actor : Rider}
    {stored : List (WorldWrite Rider)}
    (stepped : World.stepRefusing world (.refused actor) = some (next, stored)) :
    ∃ write rest, world.outbox actor = write :: rest ∧ stored = [] ∧
      next = { world with outbox := Function.update world.outbox actor rest } :=
  Shared.refused_cases stepped

/-- A refused write is one less on its way, and none of those the law counts on. -/
theorem AcceptanceLaw.refused {rideRequestId : String} {rider actor : Rider}
    {history stored : List (WorldWrite Rider)} {world next : World Rider}
    (law : AcceptanceLaw rideRequestId rider history world)
    (kept : actor = rider → world.oldest? rider ≠ some rideRequestId)
    (stepped : World.stepRefusing world (.refused actor) = some (next, stored)) :
    AcceptanceLaw rideRequestId rider (history ++ stored) next := by
  obtain ⟨write, rest, queued, rfl, rfl⟩ := World.refused_cases stepped
  rw [List.append_nil]
  refine
    { unopened := law.unopened
      unqueued := ?_
      origin := law.origin
      present := ?_
      opened := ?_
      covered := ?_ }
  · intro other differs sent
    obtain ⟨waiting, member⟩ := sent
    exact law.unqueued other differs ⟨waiting, Shared.queued_of_refused queued member⟩
  · intro waiting member
    exact law.present waiting (Shared.queued_of_refused queued member)
  · intro touched
    apply law.opened
    rcases touched with staged | ⟨waiting, member⟩
    · exact .inl staged
    · exact .inr ⟨waiting, Shared.queued_of_refused queued member⟩
  · intro opened field
    rcases law.covered opened field with stored | ⟨waiting, member, sets⟩
    · exact .inl stored
    · rcases Shared.queued_or_refused queued member with still | ⟨own, first⟩
      · exact .inr ⟨waiting, still, sets⟩
      · subst own first
        exact (kept rfl (by simp [World.oldest?, queued])).elim

omit [DecidableEq Rider] in
theorem AcceptanceLaw.initial (rideRequestId : String) (rider : Rider) {uid : Rider → String}
    {store : Database Rider}
    (unstaged : ∀ stage, (store.requests rideRequestId).status ≠ some (.stage stage)) :
    AcceptanceLaw rideRequestId rider [] (World.start uid store) where
  unopened := by simp [World.start, App.Opened]
  unqueued := by simp [World.start, World.Queued]
  origin := by simp
  present := by simp [World.start]
  opened := by
    intro touched
    rcases touched with ⟨stage, staged⟩ | ⟨write, member⟩
    · exact (unstaged stage staged).elim
    · cases member
  covered := by simp [World.start, App.Opened]

/-! ## Whose slot held the request -/

/-- At some moment of these events the rider's slot was read, and held this. -/
def ReadSlot (start : World Rider) (past : List (RefusableEvent Rider)) (rider : Rider)
    (value : Option SlotValue) : Prop :=
  ∃ before later call world stored,
    past = before ++ .served (.act rider (.slotRead call value)) :: later ∧
    exec World.stepRefusing start before = some (world, stored) ∧
    (world.store.riders rider).newRider = value

/-- What was read was this request. -/
def HeldOffer (start : World Rider) (past : List (RefusableEvent Rider)) (rider : Rider)
    (rideRequestId : String) : Prop :=
  ∃ value, theRideId value = rideRequestId ∧ ReadSlot start past rider value

theorem ReadSlot.later {start : World Rider} {past : List (RefusableEvent Rider)} {rider : Rider}
    {value : Option SlotValue} (read : ReadSlot start past rider value)
    (event : RefusableEvent Rider) : ReadSlot start (past ++ [event]) rider value := by
  obtain ⟨before, later, call, world, stored, rfl, run, held⟩ := read
  exact ⟨before, later ++ [event], call, world, stored, by simp, run, held⟩

theorem HeldOffer.later {start : World Rider} {past : List (RefusableEvent Rider)}
    {rider : Rider} {rideRequestId : String} (held : HeldOffer start past rider rideRequestId)
    (event : RefusableEvent Rider) : HeldOffer start (past ++ [event]) rider rideRequestId := by
  obtain ⟨value, same, read⟩ := held
  exact ⟨value, same, read.later event⟩

/-- Every ride of a rider, open or opening, goes back to the rider's own slot. -/
structure OpenedLaw (start : World Rider) (past : List (RefusableEvent Rider)) (rider : Rider)
    (app : App) : Prop where
  answered : ∀ call ∈ app.accepts, ∀ value, call.answer = some value →
    ReadSlot start past rider value
  openings : ∀ details ∈ app.openings, HeldOffer start past rider details.rideRequestId
  screens : ∀ screen ∈ app.screens,
    HeldOffer start past rider screen.clientDetails.rideRequestId

namespace OpenedLaw

variable {start : World Rider} {past : List (RefusableEvent Rider)} {rider : Rider} {app : App}

theorem later (law : OpenedLaw start past rider app) (event : RefusableEvent Rider) :
    OpenedLaw start (past ++ [event]) rider app where
  answered call member value answer := (law.answered call member value answer).later event
  openings details member := (law.openings details member).later event
  screens screen member := (law.screens screen member).later event

theorem act {world : World Rider} {stored : List (WorldWrite Rider)} {event : AppEvent}
    {next : App} {writes : List DbWrite} (law : OpenedLaw start past rider app)
    (run : exec World.stepRefusing start past = some (world, stored))
    (answers : world.store.answers rider event = true)
    (moves : AppMove app event next writes) :
    OpenedLaw start (past ++ [.served (.act rider event)]) rider next where
  answered call member value answer := by
    rcases moves.answered member answer with old | ⟨index, rfl, _⟩
    · exact (law.later _).answered call old value answer
    · simp only [Database.answers, decide_eq_true_eq] at answers
      exact ⟨past, [], index, world, stored, rfl, run, answers⟩
  openings details member := by
    rcases moves.pushed member with old | ⟨call, waiting, value, answer, rfl, own⟩
    · exact (law.later _).openings details old
    · exact ⟨value, own, (law.answered call waiting value answer).later _⟩
  screens screen member := by
    rcases moves.shown member with ⟨old, shown, same⟩ | pushed
    · exact same ▸ (law.later _).screens old shown
    · exact (law.later _).openings _ pushed

theorem step {world next : World Rider} {stored now : List (WorldWrite Rider)}
    {event : RefusableEvent Rider} (law : ∀ rider, OpenedLaw start past rider (world.client rider))
    (run : exec World.stepRefusing start past = some (world, stored))
    (stepped : World.stepRefusing world event = some (next, now)) (rider : Rider) :
    OpenedLaw start (past ++ [event]) rider (next.client rider) := by
  cases event with
  | refused actor =>
      obtain ⟨write, rest, queued, rfl, rfl⟩ := World.refused_cases stepped
      exact (law rider).later _
  | served event =>
      cases Shared.moves_of_step stepped with
      | @act actor reaction app emitted answers reacts =>
          by_cases same : rider = actor
          · subst same
            simp only [Function.update_self]
            exact (law rider).act run answers (App.step_moves reacts)
          · simp only [Function.update_of_ne same]
            exact (law rider).later _
      | deliver queued => exact (law rider).later _
      | outside => exact (law rider).later _

theorem of_run {uid : Rider → String} {store : Database Rider} {after : World Rider}
    {events : List (RefusableEvent Rider)} {stored : List (WorldWrite Rider)}
    (run : exec World.stepRefusing (World.start uid store) events = some (after, stored))
    (rider : Rider) : OpenedLaw (World.start uid store) events rider (after.client rider) := by
  have law : exec World.stepRefusing (World.start uid store) ([] ++ events) =
        some (after, [] ++ stored) ∧
      ∀ rider, OpenedLaw (World.start uid store) ([] ++ events) rider (after.client rider) := by
    refine exec_trace_invariant (fun past history world =>
      exec World.stepRefusing (World.start uid store) past = some (world, history) ∧
        ∀ rider, OpenedLaw (World.start uid store) past rider (world.client rider))
      ?_ [] [] ⟨rfl, ?_⟩ (fun _ _ => trivial) run
    · intro past history world event next emitted law _ stepped
      refine ⟨?_, step law.2 law.1 stepped⟩
      exact exec_append_eq_some.mpr
        ⟨world, history, emitted, law.1, exec_singleton_eq_some.mpr stepped, rfl⟩
    · intro rider
      constructor <;> simp [World.start]
  exact law.2 rider

end OpenedLaw

/-- A rider has the ride open only if that rider's own slot held the request when it was
read, and nothing keeps several riders from opening it. If a single rider builds its
screen and no write of that rider to the request is refused, then whenever the request is
accepted and nothing of that rider is on its way to it, every field is published, and by
that rider alone. -/
theorem acceptance_of_opensAlone (uid : Rider → String) (store : Database Rider)
    (rideRequestId : String)
    (unstaged : ∀ stage, (store.requests rideRequestId).status ≠ some (.stage stage))
    {after : World Rider} {events : List (RefusableEvent Rider)}
    {stored : List (WorldWrite Rider)}
    (run : exec World.stepRefusing (World.start uid store) events = some (after, stored)) :
    (∀ rider, (after.client rider).Opened rideRequestId →
      HeldOffer (World.start uid store) events rider rideRequestId) ∧
    ∀ rider,
      Meets World.stepRefusing (PublishesAlone rideRequestId rider) [] (World.start uid store)
        events →
      ∀ stage, (after.store.requests rideRequestId).status = some (.stage stage) →
      ¬ after.Queued rider rideRequestId →
      (∀ field, (after.store.requests rideRequestId).has field = true) ∧
        ∀ writer write, .byClient writer (.request rideRequestId write) ∈ stored →
          writer = rider := by
  constructor
  · intro rider opened
    obtain ⟨screen, member, same⟩ := opened
    exact same ▸ (OpenedLaw.of_run run rider).screens screen member
  intro rider alone stage staged unqueued
  have law : AcceptanceLaw rideRequestId rider ([] ++ stored) after := by
    apply exec_invariant_of_meets (AcceptanceLaw rideRequestId rider) _
      (AcceptanceLaw.initial rideRequestId rider unstaged) alone run
    intro history world event next emitted held condition stepped
    cases event with
    | served event => exact held.step condition stepped
    | refused actor => exact held.refused condition stepped
  refine ⟨?_, law.origin⟩
  intro field
  rcases law.covered (law.opened (.inl ⟨stage, staged⟩)) field with present | ⟨write, queued, _⟩
  · exact present
  · exact (unqueued ⟨write, queued⟩).elim

def sampleProfile : RideR :=
  { firstname := some "Ama", phone := some "+233200000000", profilepicture := some "ama.png",
    automobileColor := some "red", automobileModel := some "Pulsar",
    plateNumber := some "GR 1-20" }

def sampleAcceptedRun : List (RefusableEvent Unit) :=
  .served (.act () (.profile (some sampleProfile))) ::
    (sampleOffer ++ sampleAccept ++ List.replicate 10 (SharedEvent.deliver ())).map .served

theorem acceptance_sample :
    ∃ after stored,
      exec World.stepRefusing sampleWorld sampleAcceptedRun = some (after, stored) ∧
      HeldOffer sampleWorld sampleAcceptedRun () "request-1" ∧
      ∀ field, (after.store.requests "request-1").has field = true := by
  have accepted : ((exec World.stepRefusing sampleWorld sampleAcceptedRun).map fun result =>
        decide ((result.1.client ()).Opened "request-1" ∧
          (result.1.store.requests "request-1").status = some (.stage .accepted) ∧
          result.1.outbox () = [])) = some true := by
    decide +kernel
  obtain ⟨⟨after, stored⟩, run, outcome⟩ := Option.map_eq_some_iff.mp accepted
  obtain ⟨opened, staged, sent⟩ := of_decide_eq_true outcome
  have law := acceptance_of_opensAlone (fun _ => "rider") sampleWorld.store "request-1"
    (by intro stage same; cases same) run
  refine ⟨after, stored, run, law.1 () opened, ?_⟩
  refine (law.2 () (by decide +kernel) .accepted staged ?_).1
  intro queued
  obtain ⟨write, member⟩ := queued
  rw [sent] at member
  cases member

def sampleRiders : World Bool where
  client first := { uid := if first then "rider-1" else "rider-2" }
  outbox _ := []
  store :=
    { requests := fun _ => {}
      riders := fun _ => { newRider := some (.text "request-1") } }

def acceptBy (rider : Bool) : List (WorldEvent Bool) :=
  [.act rider (.accept .notification sampleDetails),
    .act rider (.slotRead 0 (some (.text "request-1"))), .act rider (.slotReply 0 true),
    .act rider (.built 0)]

theorem not_oneRider_of_two_accepts :
    ¬ ∀ (after : World Bool) (events : List (WorldEvent Bool))
        (stored : List (WorldWrite Bool)),
      exec World.step sampleRiders events = some (after, stored) →
      OneRider "request-1" after stored := by
  intro always
  have both : ((exec World.step sampleRiders (acceptBy true ++ acceptBy false)).map
      fun result => decide ((result.1.client true).Opened "request-1" ∧
        (result.1.client false).Opened "request-1")) = some true := by
    decide +kernel
  obtain ⟨⟨after, stored⟩, run, outcome⟩ := Option.map_eq_some_iff.mp both
  obtain ⟨first, second⟩ := of_decide_eq_true outcome
  have same := (always after _ stored run).single true false first second
  cases same

end FilldRider
