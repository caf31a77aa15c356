import FilldRider.App.Moves

/-!
# Availability after a ride

Accepting takes the rider out of the index, overwrites the slot and pauses the home
tab's stream, while the rider is still shown as available. Nothing in the ride turns
these on again, so what is left is the online/offline button.
-/

set_option autoImplicit false

namespace FilldRider

open Runs

def riderWrites (writes : List DbWrite) : List RiderWrite :=
  writes.filterMap fun write =>
    match write with
    | .rider write => some write
    | .request _ _ => none

@[simp] theorem riderWrites_append (before after : List DbWrite) :
    riderWrites (before ++ after) = riderWrites before ++ riderWrites after :=
  List.filterMap_append ..

theorem riderWrites_requestWrites (rideRequestId : String) (actions : List ScreenAction) :
    riderWrites (requestWrites rideRequestId actions) = [] := by
  rw [riderWrites, List.filterMap_eq_nil_iff]
  intro write member
  cases write with
  | request id write => rfl
  | rider write => exact (rider_not_mem_requestWrites member).elim

/-- In the index, searching, and the home tab's stream not paused. -/
structure Restored (home : Home) (node : RiderNode) : Prop where
  index : node.availableRider.isSome = true
  slot : node.Searching
  stream : ∀ pauses ∈ home.streams.getLast?, pauses = 0

/-- Another Accept that goes on after its read, a failing lookup or a deactivated rider. -/
def AppEvent.disturbs : AppEvent → Bool
  | .slotReply .. => true
  | .home event => decide (event = .lookupFailed ∨ event = .statusRead (some "deactivated"))
  | _ => false

/-- An online rider, opening no other ride, whose dialog read its own offer. -/
structure App.AcceptsOnline (app : App) (call : Nat) : Prop where
  available : app.home.isDriverAvailable = true
  listening : app.home.streams ≠ []
  openings : app.openings = []
  offered : ∃ dialog clientDetails value,
    app.accepts[call]? = some ⟨dialog, clientDetails, some value⟩ ∧
      theRideId value = clientDetails.rideRequestId

structure Home.Kept (before after : Home) : Prop where
  flag : after.isDriverAvailable = before.isDriverAvailable
  lookups : after.lookups = before.lookups
  streams : after.streams = before.streams
  page : after.pageDriverAvailable = before.pageDriverAvailable

/-- An undisturbed step is one of the home page, builds a pushed screen, or leaves
both the home page and the rider's own nodes alone. -/
inductive HomeEffect (before after : App) : AppEvent → List DbWrite → Prop where
  | home {event : HomeEvent} {writes : List RiderWrite}
      (moves : HomeMove before.home event after.home writes)
      (openings : after.openings = before.openings) :
      HomeEffect before after (.home event) (writes.map .rider)
  | built {opening : Nat} {writes : List DbWrite} {details : ClientDetails String}
      (pushed : before.openings[opening]? = some details)
      (kept : before.home.Kept after.home)
      (openings : after.openings = before.openings.eraseIdx opening)
      (marked : riderWrites writes = [.history before.uid details.rideRequestId]) :
      HomeEffect before after (.built opening) writes
  | other {event : AppEvent} {writes : List DbWrite}
      (foreign : ∀ reaction, event ≠ .home reaction)
      (unbuilt : ∀ opening, event ≠ .built opening)
      (kept : before.home.Kept after.home) (openings : after.openings = before.openings)
      (silent : riderWrites writes = []) :
      HomeEffect before after event writes

theorem AppMove.homeEffect {before after : App} {event : AppEvent} {writes : List DbWrite}
    (moves : AppMove before event after writes) (undisturbed : event.disturbs = false) :
    HomeEffect before after event writes := by
  cases moves with
  | home moves => exact .home moves rfl
  | taken answered offered => cases undisturbed
  | built pushed =>
      refine .built pushed ⟨rfl, rfl, rfl, rfl⟩ rfl ?_
      rw [App.acceptWrites, riderWrites_append, riderWrites_requestWrites]
      rfl
  | screen shown stepped =>
      exact .other (by simp) (by simp) ⟨rfl, rfl, rfl, rfl⟩ rfl (riderWrites_requestWrites ..)
  | accept | slotRead | refused | saved | profile | rideType =>
      exact .other (by simp) (by simp) ⟨rfl, rfl, rfl, rfl⟩ rfl rfl

theorem AppMove.page {before after : App} {event : AppEvent} {writes : List DbWrite}
    (moves : AppMove before event after writes) :
    after.home.pageDriverAvailable = before.home.pageDriverAvailable := by
  cases moves with
  | home moves => cases moves <;> assumption
  | _ => rfl

/-! ## The stream -/

def Tapped (past : List AppEvent) : Prop := ∃ data, .home (.statusRead data) ∈ past

def Located (past : List AppEvent) : Prop := ∃ position, .home (.located position) ∈ past

theorem tapped_append_of_other {past : List AppEvent} {event : AppEvent}
    (other : ∀ data, event ≠ .home (.statusRead data)) :
    Tapped (past ++ [event]) ↔ Tapped past := by
  simp only [Tapped, List.mem_append, List.mem_singleton]
  constructor
  · intro found
    obtain ⟨data, member | same⟩ := found
    · exact ⟨data, member⟩
    · exact (other data same.symm).elim
  · intro found
    obtain ⟨data, member⟩ := found
    exact ⟨data, .inl member⟩

theorem located_append_of_other {past : List AppEvent} {event : AppEvent}
    (other : ∀ position, event ≠ .home (.located position)) :
    Located (past ++ [event]) ↔ Located past := by
  simp only [Located, List.mem_append, List.mem_singleton]
  constructor
  · intro found
    obtain ⟨position, member | same⟩ := found
    · exact ⟨position, member⟩
    · exact (other position same.symm).elim
  · intro found
    obtain ⟨position, member⟩ := found
    exact ⟨position, .inl member⟩

/-- Since the acceptance: the stream is paused until a tap is handled; after that an
available rider listens to a fresh one. -/
structure PausedLaw (past : List AppEvent) (app : App) : Prop where
  page : app.home.pageDriverAvailable = false
  single : app.openings.length ≤ 1
  untapped : ¬ Tapped past → app.home.isDriverAvailable = true ∧
    ∃ pauses, app.home.streams.getLast? = some (pauses + 1)
  tapped : Tapped past → app.home.isDriverAvailable = true →
    app.home.streams.getLast? = some 0

theorem Home.pause_spec {home : Home} (listening : home.streams ≠ []) :
    ∃ pauses, home.disableHomeTabLiveLocationUpdates.1.streams.getLast? = some (pauses + 1) := by
  cases last : home.streams.getLast? with
  | none => exact (listening (List.getLast?_eq_none_iff.mp last)).elim
  | some pauses =>
      refine ⟨pauses, ?_⟩
      simp only [disableHomeTabLiveLocationUpdates, changeSubscription, last,
        Option.toList_some, List.map_cons, List.map_nil, List.getLast?_concat]

section Steps

variable {past : List AppEvent} {before after : App} {event : AppEvent}
  {writes : List DbWrite}

private theorem PausedLaw.kept_step (law : PausedLaw past before)
    (other : ∀ data, event ≠ .home (.statusRead data))
    (flag : after.home.isDriverAvailable = before.home.isDriverAvailable)
    (streams : after.home.streams = before.home.streams)
    (page : after.home.pageDriverAvailable = before.home.pageDriverAvailable)
    (single : after.openings.length ≤ 1) : PausedLaw (past ++ [event]) after where
  page := page.trans law.page
  single := single
  untapped := by
    rw [tapped_append_of_other other, flag, streams]
    exact law.untapped
  tapped := by
    rw [tapped_append_of_other other, flag, streams]
    exact law.tapped

theorem PausedLaw.step (law : PausedLaw past before) (undisturbed : event.disturbs = false)
    (moves : AppMove before event after writes) : PausedLaw (past ++ [event]) after := by
  cases moves.homeEffect undisturbed with
  | home turns openings =>
      have single : after.openings.length ≤ 1 := openings ▸ law.single
      cases turns with
      | tap flag lookups streams page =>
          exact law.kept_step (by simp) flag streams page single
      | deactivated flag lookups streams page => simp [AppEvent.disturbs] at undisturbed
      | @online _ data activated offline flag lookups streams page =>
          have now : Tapped (past ++ [.home (.statusRead data)]) := ⟨data, by simp⟩
          exact ⟨page.trans law.page, single, fun untapped => (untapped now).elim,
            fun _ _ => by simp [streams]⟩
      | @offline _ data activated online flag lookups streams page =>
          have now : Tapped (past ++ [.home (.statusRead data)]) := ⟨data, by simp⟩
          refine ⟨page.trans law.page, single, fun untapped => (untapped now).elim, ?_⟩
          intro _ available
          rw [flag] at available
          cases available
      | located pending flag lookups streams page =>
          exact law.kept_step (by simp) flag streams page single
      | lookupFailed pending flag lookups streams page =>
          exact law.kept_step (by simp) flag streams page single
      | position flag lookups streams page =>
          exact law.kept_step (by simp) flag streams page single
  | built pushed kept openings marked =>
      apply law.kept_step (by simp) kept.flag kept.streams kept.page
      rw [openings]
      exact (List.length_eraseIdx_le _ _).trans law.single
  | other foreign unbuilt kept openings silent =>
      exact law.kept_step (fun data => foreign _) kept.flag kept.streams kept.page
        (openings ▸ law.single)

theorem PausedLaw.run {events : List AppEvent} (law : PausedLaw past before)
    (undisturbed : ∀ event ∈ events, event.disturbs = false)
    (run : exec App.component before events = some (after, writes)) :
    PausedLaw (past ++ events) after := by
  refine exec_trace_invariant (fun past _ app => PausedLaw past app) ?_ past [] law
    undisturbed run
  intro past history app event next emitted held calm stepped
  exact held.step calm (App.step_moves stepped)

end Steps

/-! ## The index and the slot -/

/-- Since the ride screen was built: the slot is not searching until a fix arrives;
after that an available rider is back, or waits for another fix. -/
structure FoundLaw (start : RiderNode) (past : List AppEvent) (history : List DbWrite)
    (app : App) : Prop where
  page : app.home.pageDriverAvailable = false
  opened : app.openings = []
  unfound : ¬ Located past → ¬ (storedNode start (riderWrites history)).Searching
  found : Located past → app.home.isDriverAvailable = true → 0 < app.home.lookups ∨
    ((storedNode start (riderWrites history)).availableRider.isSome = true ∧
      (storedNode start (riderWrites history)).Searching)

section Steps

variable {start : RiderNode} {past : List AppEvent} {history writes : List DbWrite}
  {before after : App} {event : AppEvent}

private theorem FoundLaw.silent_step (law : FoundLaw start past history before)
    (other : ∀ position, event ≠ .home (.located position))
    (page : after.home.pageDriverAvailable = before.home.pageDriverAvailable)
    (opened : after.openings = before.openings) (silent : riderWrites writes = [])
    (found : after.home.isDriverAvailable = true →
      (before.home.isDriverAvailable = true ∧ after.home.lookups = before.home.lookups) ∨
        0 < after.home.lookups) :
    FoundLaw start (past ++ [event]) (history ++ writes) after where
  page := page.trans law.page
  opened := opened.trans law.opened
  unfound := by
    rw [located_append_of_other other, riderWrites_append, silent, List.append_nil]
    exact law.unfound
  found := by
    rw [located_append_of_other other, riderWrites_append, silent, List.append_nil]
    intro located available
    rcases found available with ⟨earlier, lookups⟩ | pending
    · rw [lookups]
      exact law.found located earlier
    · exact .inl pending

theorem FoundLaw.step (law : FoundLaw start past history before)
    (undisturbed : event.disturbs = false) (moves : AppMove before event after writes) :
    FoundLaw start (past ++ [event]) (history ++ writes) after := by
  cases moves.homeEffect undisturbed with
  | home turns openings =>
      cases turns with
      | tap flag lookups streams page =>
          exact law.silent_step (by simp) page openings rfl
            (fun available => .inl ⟨flag ▸ available, lookups⟩)
      | deactivated flag lookups streams page => simp [AppEvent.disturbs] at undisturbed
      | online activated offline flag lookups streams page =>
          exact law.silent_step (by simp) page openings rfl
            (fun _ => .inr (lookups ▸ Nat.succ_pos _))
      | offline activated online flag lookups streams page =>
          refine ⟨page.trans law.page, openings.trans law.opened, ?_, ?_⟩
          · intro _
            simp [storedNode, riderWrites, RiderNode.apply, RiderNode.Searching]
          · intro _ available
            rw [flag] at available
            cases available
      | @located _ position pending flag lookups streams page =>
          refine ⟨page.trans law.page, openings.trans law.opened, ?_, ?_⟩
          · intro unfound
            exact (unfound ⟨position, by simp⟩).elim
          · intro _ _
            right
            simp [storedNode, riderWrites, RiderNode.apply, RiderNode.Searching]
      | lookupFailed pending flag lookups streams page =>
          simp [AppEvent.disturbs] at undisturbed
      | position flag lookups streams page =>
          rw [law.page]
          exact law.silent_step (by simp) page openings rfl
            (fun available => .inl ⟨flag ▸ available, lookups⟩)
  | built pushed kept openings marked =>
      rw [law.opened] at pushed
      cases pushed
  | other foreign unbuilt kept openings silent =>
      exact law.silent_step (fun position => foreign _) kept.page openings silent
        (fun available => .inl ⟨kept.flag ▸ available, kept.lookups⟩)

theorem FoundLaw.run {events : List AppEvent} (law : FoundLaw start past history before)
    (undisturbed : ∀ event ∈ events, event.disturbs = false)
    (run : exec App.component before events = some (after, writes)) :
    FoundLaw start (past ++ events) (history ++ writes) after := by
  refine exec_trace_invariant (FoundLaw start) ?_ past history law undisturbed run
  intro past history app event next emitted held calm stepped
  exact held.step calm (App.step_moves stepped)

end Steps

theorem not_searching_of_mark (start : RiderNode) (writes : List RiderWrite)
    (uid rideRequestId : String) :
    ¬ (storedNode start (writes ++ [.history uid rideRequestId])).Searching := by
  rw [storedNode_append]
  generalize storedNode start writes = node
  have marked : ∃ entries, SlotValue.mark node.newRider uid rideRequestId = .marks entries := by
    cases slot : node.newRider with
    | none => exact ⟨_, rfl⟩
    | some value =>
        cases value with
        | text text => exact ⟨_, rfl⟩
        | marks entries =>
            unfold SlotValue.mark
            dsimp only
            split <;> exact ⟨_, rfl⟩
  obtain ⟨entries, same⟩ := marked
  simp [storedNode, RiderNode.apply, RiderNode.Searching, same]

theorem App.AcceptsOnline.paused {app next : App} {call : Nat} {writes : List DbWrite}
    (online : app.AcceptsOnline call) (page : app.home.pageDriverAvailable = false)
    (stepped : app.step (.slotReply call true) = some (next, writes)) : PausedLaw [] next := by
  obtain ⟨dialog, details, value, answered, offered⟩ := online.offered
  cases App.step_moves stepped with
  | taken found same =>
      refine ⟨page, by simp [online.openings], ?_, ?_⟩
      · exact fun _ => ⟨online.available, Home.pause_spec online.listening⟩
      · intro tapped
        obtain ⟨data, member⟩ := tapped
        cases member
  | refused found other =>
      rw [answered] at found
      cases found
      exact (other.resolve_left Bool.noConfusion offered).elim

theorem App.foundLaw_of_built {past : List AppEvent} {app next : App} {opening : Nat}
    {writes : List DbWrite} (start : RiderNode) (issued : List DbWrite)
    (paused : PausedLaw past app) (moves : AppMove app (.built opening) next writes) :
    FoundLaw (storedNode start (riderWrites (issued ++ writes))) [] [] next := by
  cases moves.homeEffect rfl with
  | @built _ _ details pushed kept openings marked =>
      refine ⟨kept.page.trans paused.page, ?_, ?_, ?_⟩
      · have short := paused.single
        obtain ⟨valid, _⟩ := List.getElem?_eq_some_iff.mp pushed
        have length : next.openings.length = 0 := by
          rw [openings, List.length_eraseIdx_of_lt valid]
          omega
        exact List.length_eq_zero_iff.mp length
      · intro _
        rw [riderWrites_append, marked]
        exact not_searching_of_mark start _ _ _
      · intro located
        obtain ⟨position, member⟩ := located
        cases member
  | other foreign unbuilt kept openings silent => exact (unbuilt opening rfl).elim

theorem App.restored_iff_tapped {app last : App} {call opening : Nat} {early late : List AppEvent}
    {writes : List DbWrite} (start : RiderNode) (online : app.AcceptsOnline call)
    (page : app.home.pageDriverAvailable = false)
    (undisturbed : ∀ event ∈ early ++ late, event.disturbs = false)
    (run : exec App.component app (.slotReply call true :: (early ++ .built opening :: late)) =
      some (last, writes))
    (available : last.home.isDriverAvailable = true) (completed : last.home.lookups = 0) :
    Restored last.home (storedNode start (riderWrites writes)) ↔
      Tapped (early ++ late) ∧ Located late := by
  obtain ⟨accepted, now, rest, replied, continued, rfl⟩ := exec_cons_eq_some.mp run
  obtain ⟨waiting, before, after, first, second, rfl⟩ := exec_append_eq_some.mp continued
  obtain ⟨shown, built, later, opens, third, rfl⟩ := exec_cons_eq_some.mp second
  have calm : ∀ event ∈ early, event.disturbs = false := by
    intro event member
    exact undisturbed event (List.mem_append_left _ member)
  have calmLate : ∀ event ∈ late, event.disturbs = false := by
    intro event member
    exact undisturbed event (List.mem_append_right _ member)
  have pausedBefore := (online.paused page replied).run calm first
  have pausedAfter := pausedBefore.step rfl (App.step_moves opens)
  have paused := pausedAfter.run calmLate third
  have tapped : Tapped ([] ++ early ++ [.built opening] ++ late) ↔ Tapped (early ++ late) := by
    simp [Tapped]
  have found : FoundLaw (storedNode start (riderWrites (now ++ before ++ built))) late later
      last := by
    have initial := App.foundLaw_of_built start (now ++ before) pausedBefore
      (App.step_moves opens)
    simpa using initial.run calmLate third
  have node : storedNode start (riderWrites (now ++ (before ++ (built ++ later)))) =
      storedNode (storedNode start (riderWrites (now ++ before ++ built)))
        (riderWrites later) := by
    simp only [riderWrites_append, storedNode_append]
  rw [node]
  constructor
  · intro restored
    constructor
    · by_contra untouched
      obtain ⟨_, pauses, last⟩ := paused.untapped (fun used => untouched (tapped.mp used))
      cases restored.stream _ last
    · by_contra missing
      exact found.unfound missing restored.slot
  · intro used
    rcases found.found used.2 available with pending | ⟨index, slot⟩
    · rw [completed] at pending
      cases pending
    · refine ⟨index, slot, ?_⟩
      intro pauses listening
      rw [paused.tapped (tapped.mpr used.1) available] at listening
      cases listening
      rfl

/-! ## The database -/

variable {Rider : Type} [DecidableEq Rider]

/-- A dispatcher's write to the rider's slot, or an event that disturbs their app. -/
def disturbs (rider : Rider) : WorldEvent Rider → Bool
  | .act actor event => decide (actor = rider) && event.disturbs
  | .outside (.slot other _) => decide (other = rider)
  | _ => false

theorem Database.apply_rider {database : Database Rider} {actor rider : Rider}
    {write : DbWrite} :
    (database.apply actor write).riders rider =
      if actor = rider then storedNode (database.riders rider) (riderWrites [write])
      else database.riders rider := by
  cases write with
  | request rideRequestId write =>
      split <;> rfl
  | rider write =>
      by_cases same : actor = rider
      · subst same
        simp only [apply, Function.update_self, if_true]
        rfl
      · have differs : rider ≠ actor := fun equal => same equal.symm
        simp only [apply, Function.update_of_ne differs, if_neg same]

theorem riders_of_run {world after : World Rider} {rider : Rider}
    {events : List (WorldEvent Rider)} {stored : List (WorldWrite Rider)}
    (undisturbed : ∀ event ∈ events, ∀ value, event ≠ .outside (.slot rider value))
    (run : exec World.step world events = some (after, stored)) :
    after.store.riders rider =
      storedNode (world.store.riders rider) (riderWrites (storedBy rider stored)) := by
  refine exec_trace_invariant (fun _ history state => state.store.riders rider =
    storedNode (world.store.riders rider) (riderWrites (storedBy rider history))) ?_ [] [] rfl
    undisturbed run
  intro past history state event next emitted law calm stepped
  cases Shared.moves_of_step stepped with
  | act answered reacts => simpa using law
  | @deliver actor write rest queued =>
      by_cases same : actor = rider
      · subst same
        simp [Database.apply_rider, law, storedBy]
      · simp [Database.apply_rider, same, law, storedBy]
  | @outside write =>
      cases write with
      | cancel rideRequestId => simpa [storedBy, Database.intrude] using law
      | slot other value =>
          have differs : rider ≠ other := by
            intro same
            subst same
            exact calm value rfl
          simpa [storedBy, Database.intrude, Function.update_of_ne differs] using law

theorem pageDriverAvailable_of_run {start world : World Rider} {rider : Rider}
    {events : List (WorldEvent Rider)} {stored : List (WorldWrite Rider)}
    (launched : (start.client rider).home = {})
    (run : exec World.step start events = some (world, stored)) :
    (world.client rider).home.pageDriverAvailable = false := by
  refine exec_invariant_state (fun world : World Rider =>
    (world.client rider).home.pageDriverAvailable = false) ?_ (by rw [launched]) run
  intro world event next emitted page stepped
  refine Shared.client_step (fun other app => other = rider →
    app.home.pageDriverAvailable = false) ?_ ?_ stepped rider rfl
  · intro other same
    subst same
    exact page
  · intro other reaction app writes _ held reacts same
    exact (App.step_moves reacts).page.trans (held same)

/-- In every run of all apps in which an online rider accepts, and is then left alone
by the dispatcher: once everything is stored, a rider shown as available is restored
exactly if the button was used since and a fix arrived after the screen was built. -/
theorem restored_iff {start world after : World Rider} {rider : Rider} {call opening : Nat}
    {before early late : List (WorldEvent Rider)} {stored₀ stored : List (WorldWrite Rider)}
    (launched : (start.client rider).home = {})
    (past : exec World.step start before = some (world, stored₀))
    (online : (world.client rider).AcceptsOnline call)
    (undisturbed : ∀ event ∈ early ++ late, disturbs rider event = false)
    (run : exec World.step world (.act rider (.slotReply call true) ::
      (early ++ .act rider (.built opening) :: late)) = some (after, stored))
    (available : (after.client rider).home.isDriverAvailable = true)
    (completed : (after.client rider).home.lookups = 0) (sent : after.outbox rider = []) :
    Restored (after.client rider).home (after.store.riders rider) ↔
      (∃ data, .act rider (.home (.statusRead data)) ∈ early ++ late) ∧
        ∃ position, .act rider (.home (.located position)) ∈ late := by
  obtain ⟨emitted, local_run, queue⟩ := Shared.exec_client rider run
  rw [sent, List.append_nil] at queue
  have local_events : actsOf rider (.act rider (.slotReply call true) ::
      (early ++ .act rider (.built opening) :: late)) =
      .slotReply call true :: (actsOf rider early ++ .built opening :: actsOf rider late) := by
    simp [actsOf]
  rw [local_events] at local_run
  have calm : ∀ event ∈ actsOf rider early ++ actsOf rider late, event.disturbs = false := by
    intro event member
    rw [← actsOf_append] at member
    simpa [disturbs] using undisturbed _ (mem_actsOf.mp member)
  have alone : ∀ event ∈ .act rider (.slotReply call true) ::
      (early ++ .act rider (.built opening) :: late),
        ∀ value, event ≠ .outside (.slot rider value) := by
    intro event member value same
    subst same
    have dispatched : .outside (.slot rider value) ∈ early ++ late := by simpa using member
    simpa [disturbs] using undisturbed _ dispatched
  have node : after.store.riders rider =
      storedNode (storedNode (world.store.riders rider) (riderWrites (world.outbox rider)))
        (riderWrites emitted) := by
    rw [riders_of_run alone run, ← queue, riderWrites_append, storedNode_append]
  rw [node, App.restored_iff_tapped _ online (pageDriverAvailable_of_run launched past) calm local_run
    available completed]
  simp only [Tapped, Located, ← actsOf_append, mem_actsOf]

def sampleAnswer : List (WorldEvent Unit) :=
  sampleOffer ++ [.act () (.accept .notification sampleDetails),
    .act () (.slotRead 0 (some (.text "request-1")))]

def restoringTaps : List (WorldEvent Unit) :=
  [.act () (.home .tap), .act () (.home (.statusRead none)), .act () (.home .tap),
    .act () (.home (.statusRead none)), .act () (.home (.located ⟨5, 2⟩))] ++
    List.replicate 5 (.deliver ())

def sampleSuffix (taps : List (WorldEvent Unit)) : List (WorldEvent Unit) :=
  .act () (.slotReply 0 true) ::
    ([] ++ .act () (.built 0) :: (sampleRide sampleDirections ++ taps))

theorem restored_sample :
    ∃ world stored after later,
      exec World.step sampleWorld sampleAnswer = some (world, stored) ∧
      exec World.step world (sampleSuffix restoringTaps) = some (after, later) ∧
      (after.store.requests "request-1").status = some (.stage .ended) ∧
      Restored (after.client ()).home (after.store.riders ()) := by
  have outcome : ((exec World.step sampleWorld sampleAnswer).bind fun first =>
      (exec World.step first.1 (sampleSuffix restoringTaps)).map fun second =>
        decide (((first.1.client ()).home.isDriverAvailable = true ∧
            (first.1.client ()).home.streams ≠ [] ∧ (first.1.client ()).openings = [] ∧
            (first.1.client ()).accepts[0]? =
              some ⟨.notification, sampleDetails, some (some (.text "request-1"))⟩) ∧
          (second.1.client ()).home.isDriverAvailable = true ∧
          (second.1.client ()).home.lookups = 0 ∧ second.1.outbox () = [] ∧
          (second.1.store.requests "request-1").status = some (.stage .ended))) = some true := by
    decide +kernel
  obtain ⟨⟨world, stored⟩, past, rest⟩ := Option.bind_eq_some_iff.mp outcome
  obtain ⟨⟨after, later⟩, run, facts⟩ := Option.map_eq_some_iff.mp rest
  obtain ⟨⟨shown, listening, openings, answered⟩, available, completed, sent, ended⟩ :=
    of_decide_eq_true facts
  have online : (world.client ()).AcceptsOnline 0 :=
    ⟨shown, listening, openings, _, _, _, answered, rfl⟩
  refine ⟨world, stored, after, later, past, run, ended, ?_⟩
  apply (restored_iff rfl past online (by decide +kernel) run available completed sent).mpr
  exact ⟨⟨none, by simp [restoringTaps]⟩, ⟨5, 2⟩, by simp [restoringTaps]⟩

theorem not_restored_of_ended_ride :
    ¬ ∀ (world after : World Unit) (stored later : List (WorldWrite Unit))
        (early late : List (WorldEvent Unit)),
      exec World.step sampleWorld sampleAnswer = some (world, stored) →
      (world.client ()).AcceptsOnline 0 →
      exec World.step world (.act () (.slotReply 0 true) ::
        (early ++ .act () (.built 0) :: late)) = some (after, later) →
      (after.store.requests "request-1").status = some (.stage .ended) →
      (after.client ()).home.isDriverAvailable = true → (after.client ()).home.lookups = 0 →
      after.outbox () = [] →
      Restored (after.client ()).home (after.store.riders ()) := by
  intro always
  have outcome : ((exec World.step sampleWorld sampleAnswer).bind fun first =>
      (exec World.step first.1 (sampleSuffix [])).map fun second =>
        decide (((first.1.client ()).home.isDriverAvailable = true ∧
            (first.1.client ()).home.streams ≠ [] ∧ (first.1.client ()).openings = [] ∧
            (first.1.client ()).accepts[0]? =
              some ⟨.notification, sampleDetails, some (some (.text "request-1"))⟩) ∧
          ((second.1.store.requests "request-1").status = some (.stage .ended) ∧
            (second.1.client ()).home.isDriverAvailable = true ∧
            (second.1.client ()).home.lookups = 0 ∧ second.1.outbox () = []) ∧
          (second.1.store.riders ()).availableRider = none)) = some true := by
    decide +kernel
  obtain ⟨⟨world, stored⟩, past, rest⟩ := Option.bind_eq_some_iff.mp outcome
  obtain ⟨⟨after, later⟩, run, facts⟩ := Option.map_eq_some_iff.mp rest
  obtain ⟨⟨shown, listening, openings, answered⟩, ⟨ended, available, completed, sent⟩,
    absent⟩ := of_decide_eq_true facts
  have online : (world.client ()).AcceptsOnline 0 :=
    ⟨shown, listening, openings, _, _, _, answered, rfl⟩
  have restored := always world after stored later [] _ past online run ended available
    completed sent
  have index := restored.index
  rw [absent] at index
  cases index

end FilldRider
