import FilldRider.App.Moves
import FilldRider.NewRequestScreen.LiveLocation

/-!
# Signing out and deleting the account

`ProfileTab` ends the session and clears the navigation; a deletion removes
`Riders/<uid>` first. Neither touches the index entry or a position stream, and a
position stream is never cancelled.
-/

set_option autoImplicit false

namespace FilldRider

open Runs

/-! ## Position streams -/

/-- No position stream was started. -/
structure App.Untracked (app : App) : Prop where
  home : app.home.streams = []
  rides : ∀ screen ∈ app.screens, screen.liveLocation = false

instance App.decidableUntracked (app : App) : Decidable app.Untracked :=
  decidable_of_iff
    (app.home.streams = [] ∧ ∀ screen ∈ app.screens, screen.liveLocation = false)
    ⟨fun both => ⟨both.1, both.2⟩, fun untracked => ⟨untracked.home, untracked.rides⟩⟩

/-- A status read that takes the rider online, or the route of a ride that is drawn. -/
def App.StartsTracking (app : App) : AppEvent → Prop
  | .home (.statusRead data) =>
      data ≠ some "deactivated" ∧ app.home.isDriverAvailable = false
  | .screen ride event => ∃ screen ∈ app.screens[ride]?, screen.startsLiveLocation event = true
  | _ => False

/-- Puts the rider on offer. -/
def DbWrite.Offering : DbWrite → Prop
  | .rider (.searching _) | .rider (.setLocation _) => True
  | _ => False

namespace App

variable {before after : App} {event : AppEvent} {writes : List DbWrite}

theorem requestWrites_not_offering {rideRequestId : String} {actions : List ScreenAction} :
    ∀ write ∈ requestWrites rideRequestId actions, ¬ write.Offering := by
  intro write member
  cases write with
  | request _ _ => exact not_false
  | rider write => exact (rider_not_mem_requestWrites member).elim

theorem acceptWrites_not_offering (app : App) (clientDetails : ClientDetails String) :
    ∀ write ∈ app.acceptWrites clientDetails, ¬ write.Offering := by
  intro write member
  rcases List.mem_append.mp member with request | mark
  · exact requestWrites_not_offering write request
  · cases List.mem_singleton.mp mark
    exact not_false

theorem changeSubscription_streams {change : Nat → Nat} {home : Home} :
    (home.changeSubscription change).streams = [] ↔ home.streams = [] := by
  rw [Home.changeSubscription]
  constructor
  · intro none
    obtain ⟨-, last⟩ := List.append_eq_nil_iff.mp none
    cases listening : home.streams.getLast? with
    | none => exact List.getLast?_eq_none_iff.mp listening
    | some pauses =>
        rw [listening] at last
        cases last
  · intro none
    simp [none]

/-- What a step does to the presence of the rider. -/
structure Presence (before after : App) (writes : List DbWrite) : Prop where
  page : after.home.pageDriverAvailable = before.home.pageDriverAvailable
  streams : after.home.streams = [] → before.home.streams = []
  lookups : after.home.streams = [] → before.home.lookups = 0 → after.home.lookups = 0
  writes : before.home.lookups = 0 → before.home.pageDriverAvailable = false →
    ∀ write ∈ writes, ¬ write.Offering

theorem Presence.same {writes : List DbWrite} (home : after.home.streams = before.home.streams)
    (lookups : after.home.lookups = before.home.lookups)
    (page : after.home.pageDriverAvailable = before.home.pageDriverAvailable)
    (quiet : ∀ write ∈ writes, ¬ write.Offering) : Presence before after writes where
  page := page
  streams := fun none => home ▸ none
  lookups := fun _ none => lookups.trans none
  writes := fun _ _ => quiet

theorem presence_of_moves (moves : AppMove before event after writes) :
    Presence before after writes := by
  cases moves with
  | accept => exact .same rfl rfl rfl (by simp)
  | slotRead _ => exact .same rfl rfl rfl (by simp)
  | refused _ _ => exact .same rfl rfl rfl (by simp)
  | saved => exact .same rfl rfl rfl (by simp)
  | profile => exact .same rfl rfl rfl (by simp)
  | rideType => exact .same rfl rfl rfl (by simp)
  | built _ => exact .same rfl rfl rfl (before.acceptWrites_not_offering _)
  | screen _ _ => exact .same rfl rfl rfl requestWrites_not_offering
  | taken _ _ =>
      refine ⟨rfl, changeSubscription_streams.mp, fun _ none => none, ?_⟩
      simp [DbWrite.Offering]
  | @home event home writes homeMoves =>
      cases homeMoves with
      | tap _ lookups streams page => exact .same streams lookups page (by simp)
      | deactivated _ lookups streams page => exact .same streams lookups page (by simp)
      | offline _ _ _ lookups streams page =>
          exact .same streams lookups page (by simp [DbWrite.Offering])
      | online _ _ _ _ streams page =>
          have listening : home.streams ≠ [] := by simp [streams]
          exact ⟨page, fun none => absurd none listening, fun none => absurd none listening,
            by simp⟩
      | located pending _ lookups streams page =>
          refine ⟨page, fun none => streams ▸ none, ?_, ?_⟩
          · intro _ idle
            omega
          · intro idle
            omega
      | lookupFailed pending _ lookups streams page =>
          refine ⟨page, fun none => streams ▸ none, ?_, by simp⟩
          intro _ idle
          omega
      | position _ lookups streams page =>
          refine ⟨page, fun none => streams ▸ none, fun _ idle => lookups.trans idle, ?_⟩
          intro _ unavailable
          rw [if_neg (by simp [unavailable])]
          simp

theorem Untracked.of_eq (untracked : before.Untracked)
    (home : after.home.streams = before.home.streams) (screens : after.screens = before.screens) :
    after.Untracked := ⟨home.trans untracked.home, by rw [screens]; exact untracked.rides⟩

/-- An app without position streams has none afterwards exactly if none is started. -/
theorem untracked_iff (untracked : before.Untracked)
    (stepped : before.step event = some (after, writes)) :
    after.Untracked ↔ ¬ before.StartsTracking event := by
  cases step_moves stepped with
  | accept => exact iff_of_true (untracked.of_eq rfl rfl) not_false
  | slotRead _ => exact iff_of_true (untracked.of_eq rfl rfl) not_false
  | refused _ _ => exact iff_of_true (untracked.of_eq rfl rfl) not_false
  | saved => exact iff_of_true (untracked.of_eq rfl rfl) not_false
  | profile => exact iff_of_true (untracked.of_eq rfl rfl) not_false
  | rideType => exact iff_of_true (untracked.of_eq rfl rfl) not_false
  | taken _ _ =>
      have streams : (before.home.changeSubscription (· + 1)).streams = [] :=
        changeSubscription_streams.mpr untracked.home
      exact iff_of_true ⟨streams, untracked.rides⟩ not_false
  | built _ =>
      refine iff_of_true ⟨untracked.home, ?_⟩ not_false
      intro screen member
      rcases List.mem_append.mp member with old | new
      · exact untracked.rides screen old
      · cases List.mem_singleton.mp new
        rfl
  | @screen ride event screen next actions shown reacts =>
      have off := untracked.rides screen (List.mem_of_getElem? shown)
      have live := NewRequestScreen.step_liveLocation off reacts
      have inside := (List.getElem?_eq_some_iff.mp shown).1
      constructor
      · intro after started
        obtain ⟨other, found, starts⟩ := started
        cases Option.some.inj (shown.symm.trans found)
        have stays := after.rides next (List.mem_set inside next)
        rw [live, starts] at stays
        cases stays
      · intro quiet
        refine ⟨untracked.home, ?_⟩
        intro other member
        rcases List.mem_or_eq_of_mem_set member with old | rfl
        · exact untracked.rides other old
        · rw [live]
          cases starts : screen.startsLiveLocation event with
          | false => rfl
          | true => exact (quiet ⟨screen, shown, starts⟩).elim
  | home homeMoves =>
      cases homeMoves with
      | tap _ _ streams _ => exact iff_of_true (untracked.of_eq streams rfl) not_false
      | deactivated _ _ streams _ =>
          exact iff_of_true (untracked.of_eq streams rfl) fun starts => starts.1 rfl
      | offline _ online _ _ streams _ =>
          refine iff_of_true (untracked.of_eq streams rfl) ?_
          rintro ⟨-, offline⟩
          rw [online] at offline
          cases offline
      | online activated offline _ _ streams _ =>
          refine iff_of_false ?_ (not_not_intro ⟨activated, offline⟩)
          intro after
          have none := after.home
          simp [streams] at none
      | located _ _ _ streams _ => exact iff_of_true (untracked.of_eq streams rfl) not_false
      | lookupFailed _ _ _ streams _ =>
          exact iff_of_true (untracked.of_eq streams rfl) not_false
      | position _ _ streams _ => exact iff_of_true (untracked.of_eq streams rfl) not_false

end App

/-! ## Leaving -/

variable {Rider : Type} [DecidableEq Rider]

/-- Clearing the navigation: the dialogs are gone and every ride screen is disposed. -/
def App.leave (app : App) : App :=
  { app with
    accepts := []
    openings := []
    screens := app.screens.map fun screen => { screen with mounted := false } }

/-- `removals` has, for every removal of a rider's data that is not stored yet, the
number of the rider's writes ahead of it; `removed` counts those that are stored and
wait for the user to be deleted. -/
structure Accounts (Rider : Type) where
  world : World Rider
  left : Rider → Bool := fun _ => false
  removals : Rider → List Nat := fun _ => []
  removed : Rider → Nat := fun _ => 0

/-- `userDeleted` reaches a profile tab that is still there; `AppPages` also has the
deletions whose tab is gone by then. -/
inductive AccountEvent (Rider : Type) where
  | world (event : WorldEvent Rider)
  | signOut (rider : Rider)
  | deleteUserAccount (rider : Rider)
  | dataRemoved (rider : Rider)
  | userDeleted (rider : Rider) (success : Bool)

/-- The pages with the online button and the dialogs are gone once the rider left. -/
def AppEvent.needsPage : AppEvent → Bool
  | .home .tap | .accept .. => true
  | _ => false

/-- `_deleteUserData` removes all of `Riders/<uid>`. -/
def World.deleteUserData (world : World Rider) (rider : Rider) : World Rider :=
  { world with
    store := { world.store with
      riders := Function.update world.store.riders rider
        { world.store.riders rider with newRider := none, earnings := none } } }

namespace Accounts

def leave (accounts : Accounts Rider) (rider : Rider) : Accounts Rider :=
  { accounts with
    world := { accounts.world with
      client := Function.update accounts.world.client rider
        (accounts.world.client rider).leave }
    left := Function.update accounts.left rider true }

/-- Writes are stored in the order issued, a removal among them. -/
def possible (accounts : Accounts Rider) : WorldEvent Rider → Bool
  | .act rider event => !(accounts.left rider && event.needsPage)
  | .deliver rider => !(accounts.removals rider).contains 0
  | .outside _ => true

def removalsAfter (accounts : Accounts Rider) : WorldEvent Rider → Rider → List Nat
  | .deliver rider =>
      Function.update accounts.removals rider ((accounts.removals rider).map (· - 1))
  | .act .. | .outside _ => accounts.removals

def step (accounts : Accounts Rider) :
    AccountEvent Rider → Option (Accounts Rider × List (WorldWrite Rider))
  | .world event =>
      if accounts.possible event then
        (World.step accounts.world event).map fun result =>
          ({ accounts with world := result.1, removals := accounts.removalsAfter event },
            result.2)
      else none
  | .signOut rider => if accounts.left rider then none else some (accounts.leave rider, [])
  | .deleteUserAccount rider =>
      if accounts.left rider then none
      else
        some ({ accounts with
          removals := Function.update accounts.removals rider
            (accounts.removals rider ++ [(accounts.world.outbox rider).length]) }, [])
  | .dataRemoved rider =>
      match accounts.removals rider with
      | 0 :: rest =>
          some ({ accounts with
            world := accounts.world.deleteUserData rider
            removals := Function.update accounts.removals rider rest
            removed := Function.update accounts.removed rider (accounts.removed rider + 1) }, [])
      | _ => none
  | .userDeleted rider success =>
      if 0 < accounts.removed rider then
        let answered := { accounts with
          removed := Function.update accounts.removed rider (accounts.removed rider - 1) }
        some (if success then answered.leave rider else answered, [])
      else none

def component : Component (Accounts Rider) (AccountEvent Rider) (WorldWrite Rider) := step

/-- What a step does, by the event; `removals` and `removed` only order the deletion. -/
inductive Moves (before : Accounts Rider) :
    AccountEvent Rider → Accounts Rider → List (WorldWrite Rider) → Prop where
  | world {event : WorldEvent Rider} {after : Accounts Rider} {stored : List (WorldWrite Rider)}
      (stepped : World.step before.world event = some (after.world, stored))
      (left : after.left = before.left) : Moves before (.world event) after stored
  | leave {event : AccountEvent Rider} {rider : Rider} {after : Accounts Rider}
      (leaves : event = .signOut rider ∨ event = .userDeleted rider true)
      (world : after.world = (before.leave rider).world)
      (left : after.left = (before.leave rider).left) : Moves before event after []
  | stay {event : AccountEvent Rider} {after : Accounts Rider}
      (stays : (∃ rider, event = .deleteUserAccount rider) ∨
        ∃ rider, event = .userDeleted rider false)
      (world : after.world = before.world) (left : after.left = before.left) :
      Moves before event after []
  | removed {rider : Rider} {after : Accounts Rider}
      (world : after.world = before.world.deleteUserData rider)
      (left : after.left = before.left) : Moves before (.dataRemoved rider) after []

theorem step_moves {before after : Accounts Rider} {event : AccountEvent Rider}
    {stored : List (WorldWrite Rider)} (stepped : before.step event = some (after, stored)) :
    Moves before event after stored := by
  cases event with
  | world event =>
      simp only [step] at stepped
      split at stepped
      · obtain ⟨result, reacts, same⟩ := Option.map_eq_some_iff.mp stepped
        cases same
        exact .world reacts rfl
      · cases stepped
  | signOut rider =>
      simp only [step] at stepped
      split at stepped <;> cases stepped
      exact .leave (.inl rfl) rfl rfl
  | deleteUserAccount rider =>
      simp only [step] at stepped
      split at stepped <;> cases stepped
      exact .stay (.inl ⟨rider, rfl⟩) rfl rfl
  | dataRemoved rider =>
      simp only [step] at stepped
      split at stepped <;> cases stepped
      exact .removed rfl rfl
  | userDeleted rider success =>
      simp only [step] at stepped
      split at stepped
      · cases success with
        | true =>
            cases stepped
            exact .leave (.inr rfl) rfl rfl
        | false =>
            cases stepped
            exact .stay (.inr ⟨rider, rfl⟩) rfl rfl
      · cases stepped

end Accounts

/-- The rider is in neither of the places a dispatcher looks at, and no position stream
of the app runs. -/
structure World.Off (world : World Rider) (rider : Rider) : Prop where
  index : (world.store.riders rider).availableRider = none
  slot : ¬ (world.store.riders rider).Searching
  untracked : (world.client rider).Untracked

def OffOffer (_ : List (WorldWrite Rider)) (accounts : Accounts Rider) : Prop :=
  ∀ rider, accounts.left rider = true → accounts.world.Off rider

/-- Riders leave before any position stream was started, and none is started later. -/
def LeavesUntracked (_ : List (WorldWrite Rider)) (accounts : Accounts Rider) :
    AccountEvent Rider → Prop
  | .signOut rider | .userDeleted rider true => (accounts.world.client rider).Untracked
  | .world (.act rider event) =>
      accounts.left rider = true → ¬ (accounts.world.client rider).StartsTracking event
  | _ => True

/-- The dispatcher does not put riders on offer. -/
def Dispatches : AccountEvent Rider → Prop
  | .world (.outside (.slot _ value)) =>
      value ≠ some (.text "searching") ∧ value ≠ some (.text "Searching")
  | _ => True

/-- No rider is on offer yet. -/
structure World.Fresh (world : World Rider) : Prop where
  home : ∀ rider, (world.client rider).home = {}
  outbox : ∀ rider, world.outbox rider = []
  index : ∀ rider, (world.store.riders rider).availableRider = none
  slot : ∀ rider, ¬ (world.store.riders rider).Searching

/-- Nothing puts the rider on offer, now or later. -/
structure World.Nowhere (world : World Rider) (rider : Rider) : Prop where
  lookups : (world.client rider).home.lookups = 0
  index : (world.store.riders rider).availableRider = none
  slot : ¬ (world.store.riders rider).Searching
  queued : ∀ write ∈ world.outbox rider, ¬ write.Offering

/-- A rider for whom no stream was started on the home page is nowhere. -/
structure StreamLaw (world : World Rider) : Prop where
  page : ∀ rider, (world.client rider).home.pageDriverAvailable = false
  nowhere : ∀ rider, (world.client rider).home.streams = [] → world.Nowhere rider

structure DepartureLaw (_ : List (WorldWrite Rider)) (accounts : Accounts Rider) : Prop where
  streams : StreamLaw accounts.world
  left : ∀ rider, accounts.left rider = true → (accounts.world.client rider).Untracked

omit [DecidableEq Rider] in
theorem DepartureLaw.offOffer {stored : List (WorldWrite Rider)} {accounts : Accounts Rider}
    (law : DepartureLaw stored accounts) : OffOffer stored accounts := by
  intro rider left
  have untracked := law.left rider left
  have nowhere := law.streams.nowhere rider untracked.home
  exact ⟨nowhere.index, nowhere.slot, untracked⟩

theorem RiderNode.apply_not_offering {node : RiderNode} {write : RiderWrite}
    (quiet : ¬ (DbWrite.rider write).Offering) (index : node.availableRider = none)
    (slot : ¬ node.Searching) :
    (node.apply write).availableRider = none ∧ ¬ (node.apply write).Searching := by
  cases write with
  | searching text => exact (quiet trivial).elim
  | setLocation position => exact (quiet trivial).elim
  | accepted rideRequestId read => exact ⟨index, by simp [RiderNode.apply, RiderNode.Searching]⟩
  | removeSlot => exact ⟨index, by simp [RiderNode.apply, RiderNode.Searching]⟩
  | removeLocation => exact ⟨rfl, slot⟩
  | earnings text => exact ⟨index, slot⟩
  | history uid rideRequestId =>
      obtain ⟨entries, marked⟩ : ∃ entries,
          SlotValue.mark node.newRider uid rideRequestId = .marks entries := by
        unfold SlotValue.mark
        split
        · split <;> exact ⟨_, rfl⟩
        · exact ⟨_, rfl⟩
        · exact ⟨_, rfl⟩
      exact ⟨index, by simp [RiderNode.apply, RiderNode.Searching, marked]⟩

section Steps

variable {world next : World Rider} {stored : List (WorldWrite Rider)}
  {event : WorldEvent Rider}

variable {rider client : Rider}

theorem World.Nowhere.act {app : App} {emitted : List DbWrite} (nowhere : world.Nowhere rider)
    (presence : App.Presence (world.client client) app emitted)
    (page : (world.client client).home.pageDriverAvailable = false)
    (streams : rider = client → app.home.streams = []) :
    World.Nowhere { world with
      client := Function.update world.client client app
      outbox := Function.update world.outbox client (world.outbox client ++ emitted) } rider := by
  by_cases same : rider = client
  · subst same
    refine ⟨?_, nowhere.index, nowhere.slot, ?_⟩
    · simp only [Function.update_self]
      exact presence.lookups (streams rfl) nowhere.lookups
    · intro write member
      simp only [Function.update_self] at member
      rcases List.mem_append.mp member with old | new
      · exact nowhere.queued write old
      · exact presence.writes nowhere.lookups page write new
  · refine ⟨?_, nowhere.index, nowhere.slot, ?_⟩
    · simp only [Function.update_of_ne same]
      exact nowhere.lookups
    · simp only [Function.update_of_ne same]
      exact nowhere.queued

theorem World.Nowhere.deliver {write : DbWrite} {rest : List DbWrite}
    (nowhere : world.Nowhere rider) (queued : world.outbox client = write :: rest) :
    World.Nowhere { world with
      outbox := Function.update world.outbox client rest
      store := world.store.apply client write } rider := by
  by_cases same : rider = client
  · subst same
    have waiting := nowhere.queued
    rw [queued] at waiting
    have quiet := waiting write (List.mem_cons_self ..)
    have kept : ((world.store.apply rider write).riders rider).availableRider = none ∧
        ¬ ((world.store.apply rider write).riders rider).Searching := by
      cases write with
      | request rideRequestId write => exact ⟨nowhere.index, nowhere.slot⟩
      | rider write =>
          simp only [Database.apply, Function.update_self]
          exact RiderNode.apply_not_offering quiet nowhere.index nowhere.slot
    refine ⟨nowhere.lookups, kept.1, kept.2, ?_⟩
    simp only [Function.update_self]
    exact fun other member => waiting other (List.mem_cons_of_mem _ member)
  · have elsewhere : (world.store.apply client write).riders rider =
        world.store.riders rider := by
      cases write with
      | request rideRequestId write => rfl
      | rider write => simp only [Database.apply, Function.update_of_ne same]
    refine ⟨nowhere.lookups, ?_, ?_, ?_⟩
    · exact (congrArg RiderNode.availableRider elsewhere).trans nowhere.index
    · show ¬ ((world.store.apply client write).riders rider).Searching
      rw [elsewhere]
      exact nowhere.slot
    · simp only [Function.update_of_ne same]
      exact nowhere.queued

theorem World.Nowhere.outside {write : Outside Rider} (nowhere : world.Nowhere rider)
    (dispatches : Dispatches (.world (.outside write))) :
    World.Nowhere { world with store := world.store.intrude write } rider := by
  cases write with
  | cancel rideRequestId =>
      exact ⟨nowhere.lookups, nowhere.index, nowhere.slot, nowhere.queued⟩
  | slot client value =>
      by_cases same : rider = client
      · subst same
        refine ⟨nowhere.lookups, ?_, ?_, nowhere.queued⟩
        · simp only [Database.intrude, Function.update_self]
          exact nowhere.index
        · simp only [Database.intrude, Function.update_self]
          exact fun searching => searching.elim dispatches.1 dispatches.2
      · refine ⟨nowhere.lookups, ?_, ?_, nowhere.queued⟩
        · simp only [Database.intrude, Function.update_of_ne same]
          exact nowhere.index
        · simp only [Database.intrude, Function.update_of_ne same]
          exact nowhere.slot

theorem StreamLaw.step (law : StreamLaw world) (dispatches : Dispatches (.world event))
    (stepped : World.step world event = some (next, stored)) : StreamLaw next := by
  cases Shared.moves_of_step stepped with
  | @act client event after emitted answered reacts =>
      have presence := App.presence_of_moves (App.step_moves reacts)
      constructor
      · intro rider
        by_cases same : rider = client
        · subst same
          simp only [Function.update_self]
          exact presence.page.trans (law.page rider)
        · simp only [Function.update_of_ne same]
          exact law.page rider
      · intro rider streams
        by_cases same : rider = client
        · subst same
          simp only [Function.update_self] at streams
          have nowhere := law.nowhere rider (presence.streams streams)
          exact nowhere.act presence (law.page rider) fun _ => streams
        · simp only [Function.update_of_ne same] at streams
          have nowhere := law.nowhere rider streams
          exact nowhere.act presence (law.page client) fun equal => (same equal).elim
  | deliver queued =>
      exact ⟨law.page, fun rider streams => (law.nowhere rider streams).deliver queued⟩
  | outside =>
      exact ⟨law.page, fun rider streams => (law.nowhere rider streams).outside dispatches⟩

omit [DecidableEq Rider] in
/-- Neither way of leaving touches a home page, a queue or the index. -/
theorem StreamLaw.frame (law : StreamLaw world)
    (home : ∀ rider, (next.client rider).home = (world.client rider).home)
    (outbox : next.outbox = world.outbox)
    (index : ∀ rider, (next.store.riders rider).availableRider =
      (world.store.riders rider).availableRider)
    (slot : ∀ rider, ¬ (world.store.riders rider).Searching →
      ¬ (next.store.riders rider).Searching) : StreamLaw next where
  page := fun rider => home rider ▸ law.page rider
  nowhere := by
    intro rider streams
    rw [home rider] at streams
    have nowhere := law.nowhere rider streams
    refine ⟨?_, (index rider).trans nowhere.index, slot rider nowhere.slot, ?_⟩
    · rw [home rider]
      exact nowhere.lookups
    · rw [outbox]
      exact nowhere.queued

end Steps

section Leaving

variable {history stored : List (WorldWrite Rider)} {before after : Accounts Rider}
  {event : AccountEvent Rider}

theorem Accounts.leave_client (accounts : Accounts Rider) (leaver rider : Rider) :
    ((accounts.leave leaver).world.client rider).home = (accounts.world.client rider).home ∧
      (((accounts.leave leaver).world.client rider).Untracked ↔
        (accounts.world.client rider).Untracked) := by
  by_cases same : rider = leaver
  · subst same
    simp only [Accounts.leave, Function.update_self]
    refine ⟨rfl, ?_⟩
    constructor
    · intro untracked
      obtain ⟨home, rides⟩ := untracked
      refine ⟨home, fun screen member => ?_⟩
      exact rides { screen with mounted := false } (List.mem_map_of_mem member)
    · intro untracked
      obtain ⟨home, rides⟩ := untracked
      refine ⟨home, fun screen member => ?_⟩
      obtain ⟨shown, present, rfl⟩ := List.mem_map.mp member
      exact rides shown present
  · have other : (accounts.leave leaver).world.client rider = accounts.world.client rider :=
      Function.update_of_ne same ..
    rw [other]
    exact ⟨rfl, Iff.rfl⟩

theorem Accounts.leave_left (accounts : Accounts Rider) {leaver rider : Rider} :
    (accounts.leave leaver).left rider = true ↔
      rider = leaver ∨ accounts.left rider = true := by
  by_cases same : rider = leaver
  · simp [Accounts.leave, same]
  · simp [Accounts.leave, same]

theorem DepartureLaw.step (law : DepartureLaw history before) (dispatches : Dispatches event)
    (leaves : LeavesUntracked history before event)
    (stepped : before.step event = some (after, stored)) :
    DepartureLaw (history ++ stored) after := by
  cases Accounts.step_moves stepped with
  | @world event after stored reacts left =>
      refine ⟨law.streams.step dispatches reacts, ?_⟩
      intro rider gone
      rw [left] at gone
      have untracked := law.left rider gone
      rcases Shared.client_cases reacts rider with ⟨same, -⟩ | ⟨reaction, emitted, rfl, reacted⟩
      · rw [same]
        exact untracked
      · exact (App.untracked_iff untracked reacted).mpr (leaves gone)
  | @leave event leaver after how world left =>
      have untracked : (before.world.client leaver).Untracked := by
        rcases how with rfl | rfl <;> exact leaves
      constructor
      · rw [world]
        exact law.streams.frame (fun rider => (before.leave_client leaver rider).1) rfl
          (fun _ => rfl) (fun _ quiet => quiet)
      · intro rider gone
        rw [left, before.leave_left] at gone
        rw [world, (before.leave_client leaver rider).2]
        rcases gone with rfl | gone
        · exact untracked
        · exact law.left rider gone
  | stay _ world left =>
      constructor
      · rw [world]
        exact law.streams
      · rw [world, left]
        exact law.left
  | @removed leaver after world left =>
      constructor
      · rw [world]
        refine law.streams.frame (fun _ => rfl) rfl ?_ ?_
        · intro rider
          by_cases same : rider = leaver
          · subst same
            simp only [World.deleteUserData, Function.update_self]
          · simp only [World.deleteUserData, Function.update_of_ne same]
        · intro rider quiet
          by_cases same : rider = leaver
          · subst same
            simp [World.deleteUserData, RiderNode.Searching]
          · simp only [World.deleteUserData, Function.update_of_ne same]
            exact quiet
      · rw [world, left]
        exact law.left

theorem LeavesUntracked.of_offOffer (law : DepartureLaw history before)
    (stepped : before.step event = some (after, stored))
    (off : OffOffer (history ++ stored) after) : LeavesUntracked history before event := by
  cases Accounts.step_moves stepped with
  | @world event after stored reacts left =>
      cases event with
      | deliver client => trivial
      | outside write => trivial
      | act rider reaction =>
          intro gone
          have untracked := (off rider (left ▸ gone)).untracked
          rcases Shared.client_cases reacts rider with ⟨-, other⟩ | ⟨_, emitted, same, reacted⟩
          · exact (other reaction rfl).elim
          · cases same
            exact (App.untracked_iff (law.left rider gone) reacted).mp untracked
  | @leave event leaver after how world left =>
      have gone : after.left leaver = true := by
        rw [left, before.leave_left]
        exact .inl rfl
      have untracked := (off leaver gone).untracked
      rw [world, (before.leave_client leaver leaver).2] at untracked
      rcases how with rfl | rfl <;> exact untracked
  | stay how _ _ =>
      rcases how with ⟨rider, rfl⟩ | ⟨rider, rfl⟩ <;> trivial
  | removed _ _ => trivial

end Leaving

/-- From a start with nobody on offer, in every run of all apps with sign-outs and
deletions: riders who left are off offer throughout exactly if each of them leaves
before a position stream was started, and none is started afterwards. -/
theorem offOffer_iff_leavesUntracked {start : World Rider} (fresh : start.Fresh)
    {events : List (AccountEvent Rider)} {after : Accounts Rider}
    {stored : List (WorldWrite Rider)} (dispatches : ∀ event ∈ events, Dispatches event)
    (run : exec Accounts.component { world := start } events = some (after, stored)) :
    Always Accounts.component OffOffer [] { world := start } events ↔
      Meets Accounts.component LeavesUntracked [] { world := start } events := by
  have begins : DepartureLaw [] ({ world := start } : Accounts Rider) := by
    constructor
    · constructor
      · intro rider
        rw [fresh.home rider]
      · intro rider _
        refine ⟨?_, fresh.index rider, fresh.slot rider, ?_⟩
        · rw [fresh.home rider]
        · rw [fresh.outbox rider]
          simp
    · intro rider impossible
      cases impossible
  refine always_iff_meets DepartureLaw OffOffer DepartureLaw.offOffer ?_ ?_ begins dispatches run
  · intro history before event next emitted law dispatched leaves stepped
    exact law.step dispatched leaves stepped
  · intro history before event next emitted law _ stepped off
    exact LeavesUntracked.of_offOffer law stepped off

instance App.decidableStartsTracking (app : App) : ∀ event, Decidable (app.StartsTracking event)
  | .home (.statusRead _) => inferInstanceAs (Decidable (_ ∧ _))
  | .screen ride event =>
      decidable_of_iff
        ((app.screens[ride]?).any (fun screen => screen.startsLiveLocation event) = true)
        (by cases found : app.screens[ride]? <;> simp [App.StartsTracking, found])
  | .home .tap | .home (.located _) | .home .lookupFailed | .home (.position ..) | .accept ..
  | .slotRead .. | .slotReply .. | .built _ | .earningsRead .. | .profile _ | .rideType _ =>
      isFalse id

instance decidableLeavesUntracked (history : List (WorldWrite Rider))
    (accounts : Accounts Rider) : ∀ event, Decidable (LeavesUntracked history accounts event)
  | .signOut rider | .userDeleted rider true =>
      inferInstanceAs (Decidable (accounts.world.client rider).Untracked)
  | .world (.act _ _) => inferInstanceAs (Decidable (_ → ¬ _))
  | .world (.deliver _) | .world (.outside _) | .deleteUserAccount _ | .dataRemoved _
  | .userDeleted _ false => isTrue trivial

theorem sampleWorld_fresh : sampleWorld.Fresh where
  home := fun _ => rfl
  outbox := fun _ => rfl
  index := fun _ => rfl
  slot := fun _ => by simp [sampleWorld, RiderNode.Searching]

/-- A deactivated rider deletes the account. -/
theorem offOffer_of_deactivated :
    ∃ after stored,
      exec Accounts.component { world := sampleWorld }
        [.world (.act () (.home .tap)), .world (.act () (.home (.statusRead (some "deactivated")))),
          .deleteUserAccount (), .dataRemoved (), .userDeleted () true] = some (after, stored) ∧
      after.left () = true ∧ OffOffer stored after := by
  have ends : ((exec Accounts.component { world := sampleWorld }
      [.world (.act () (.home .tap)), .world (.act () (.home (.statusRead (some "deactivated")))),
        .deleteUserAccount (), .dataRemoved (), .userDeleted () true]).map fun result =>
          result.1.left ()) = some true := by
    decide +kernel
  obtain ⟨⟨after, stored⟩, run, left⟩ := Option.map_eq_some_iff.mp ends
  refine ⟨after, stored, run, left, ?_⟩
  have always := (offOffer_iff_leavesUntracked sampleWorld_fresh
    (by simp [Dispatches]) run).mpr (by decide +kernel)
  exact always.last run

theorem not_offOffer_of_signOut :
    ¬ ∀ (start : World Unit) (events : List (AccountEvent Unit)) (after : Accounts Unit)
        (stored : List (WorldWrite Unit)),
      start.Fresh → (∀ event ∈ events, Dispatches event) →
      exec Accounts.component { world := start } events = some (after, stored) →
      OffOffer stored after := by
  intro always
  have ends : ((exec Accounts.component { world := sampleWorld }
      [.world (.act () (.home .tap)), .world (.act () (.home (.statusRead none))),
        .world (.act () (.home (.located ⟨5, 1⟩))), .world (.deliver ()), .world (.deliver ()),
        .world (.deliver ()), .signOut ()]).map fun result =>
          (result.1.left (), result.1.world.store.riders ())) =
        some (true, { newRider := some (.text "Searching"), availableRider := some ⟨5, 1⟩ }) := by
    decide +kernel
  obtain ⟨⟨after, stored⟩, run, reached⟩ := Option.map_eq_some_iff.mp ends
  simp only [Prod.mk.injEq] at reached
  obtain ⟨left, node⟩ := reached
  have off := always sampleWorld _ after stored sampleWorld_fresh (by simp [Dispatches]) run ()
    left
  have index := off.index
  rw [node] at index
  cases index

end FilldRider
