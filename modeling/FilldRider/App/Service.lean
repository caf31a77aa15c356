import FilldRider.App.Return
import FilldRider.NewRequestScreen.Ending

/-!
# Serving one more request

Whatever a rider and the app have been through, a further request can be served to its
end. It takes six taps of a rider whose position stream runs, one on Accept and one for
each stage, and no riders ever get by with fewer.
-/

set_option autoImplicit false

namespace FilldRider

open Runs

/-- The taps on the online/offline button, on Accept and on the stage button. -/
def AppEvent.allTaps : AppEvent → Nat
  | .home .tap | .accept _ _ | .screen _ .tap => 1
  | _ => 0

def riderTaps {Rider : Type} : WorldEvent Rider → Nat
  | .act _ event => event.allTaps
  | .deliver _ | .outside _ => 0

/-! ## Accepting and ending a ride -/

/-- What is stored for a rider and for the customer of an offered request. -/
structure Standing where
  status : Option String
  clientId : String
  token : String

def Standing.around (standing : Standing) (rideType : String) : RideSurroundings :=
  ⟨rideType, standing.clientId, standing.token⟩

/-- The slot holds the request, the other reads return what stands, and on ride screens
only this request goes on. -/
def Standing.Allows (standing : Standing) (rideRequestId : String) (app : App) :
    AppEvent → Prop
  | .home event => event.ReadsStatus standing.status
  | .slotRead _ value => value = some (.text rideRequestId)
  | .screen ride event => ∀ screen ∈ app.screens[ride]?,
      screen.clientDetails.rideRequestId = rideRequestId ∧
        screen.Reads (standing.around app.rideType) event
  | .earningsRead _ _ => False
  | _ => True

namespace App

variable {app last : App} {writes : List DbWrite} {details : ClientDetails String}
  {standing : Standing}

/-- A run of the app with so many taps, while the request is offered. -/
abbrev Leads (standing : Standing) (rideRequestId : String) (app : App) (taps : Nat)
    (last : App) (writes : List DbWrite) : Prop :=
  Runs.Leads component (standing.Allows rideRequestId) AppEvent.allTaps app taps last writes

/-- Once Accept is tapped and the slot holds the request, its screen is opened. -/
theorem leads_opened (standing : Standing) (app : App) (details : ClientDetails String) :
    ∃ (last : App) (issued : List RiderWrite), app.Leads standing details.rideRequestId 1 last
        (issued.map .rider ++ app.acceptWrites details) ∧
      last.screens = app.screens ++ [{ clientDetails := details }] ∧
      last.home.currentPosition = app.home.currentPosition ∧ last.rideType = app.rideType := by
  have tapped : app.step (.accept .notification details) =
      some ({ app with accepts := app.accepts ++ [⟨.notification, details, none⟩] }, []) := rfl
  have read : step { app with accepts := app.accepts ++ [⟨.notification, details, none⟩] }
      (.slotRead app.accepts.length (some (.text details.rideRequestId))) =
        some ({ app with
          accepts := app.accepts ++
            [⟨.notification, details, some (some (.text details.rideRequestId))⟩] }, []) := by
    simp [step]
  have replied : step { app with
        accepts := app.accepts ++
          [⟨.notification, details, some (some (.text details.rideRequestId))⟩] }
      (.slotReply app.accepts.length true) =
        some ({ app with
          home := app.home.disableHomeTabLiveLocationUpdates.1
          openings := app.openings ++ [details] },
          [.rider (.accepted details.rideRequestId (some (.text details.rideRequestId))),
            .rider .removeLocation]) := by
    have own : theRideId (some (.text details.rideRequestId)) = details.rideRequestId := rfl
    simp only [step, List.getElem?_concat_length, DialogKind.checkAvailabilityOfRide_eq]
    rw [performAll_of_offered _ _ own]
    simp [List.eraseIdx_append_of_length_le]
  have opened : step { app with
        home := app.home.disableHomeTabLiveLocationUpdates.1
        openings := app.openings ++ [details] } (.built app.openings.length) =
      some ({ app with
        home := app.home.disableHomeTabLiveLocationUpdates.1
        screens := app.screens ++ [{ clientDetails := details }] },
        app.acceptWrites details) := by
    simp [step, List.eraseIdx_append_of_length_le]
    rfl
  have asking : app.Leads standing details.rideRequestId 1 _ _ := Runs.Leads.single tapped trivial
  have reading := asking.trans (Runs.Leads.single read rfl)
  have replying := reading.trans (Runs.Leads.single replied trivial)
  have issued : [DbWrite.rider (.accepted details.rideRequestId
      (some (.text details.rideRequestId))), .rider .removeLocation] =
        [RiderWrite.accepted details.rideRequestId (some (.text details.rideRequestId)),
          .removeLocation].map .rider := rfl
  rw [issued] at replying
  exact ⟨_, _, replying.trans (Runs.Leads.single opened trivial), rfl, rfl, rfl⟩

/-- A ride screen takes its app along, while the rider stays in place. -/
private theorem exec_screen {ride : Nat} {screen reached : NewRequestScreen String}
    {events : List (String × ScreenEvent)} {actions : List ScreenAction}
    (shown : app.screens[ride]? = some screen)
    (known : app.home.currentPosition = some ⟨0, 0⟩)
    (run : exec NewRequestScreen.component screen events = some (reached, actions))
    (works : Meets NewRequestScreen.component
      (fun _ screen event =>
        (event.1 = app.rideType ∧ event.2.Succeeds ∧ event.2.StaysAt ⟨0, 0⟩) ∧
          screen.Reads (standing.around app.rideType) event.2) [] screen events) :
    exec component app (events.map fun event => .screen ride event.2) =
        some ({ app with
          screens := app.screens.set ride reached
          saves := app.saves ++ savesOf actions },
          requestWrites screen.clientDetails.rideRequestId actions) ∧
      Meets component (fun _ => standing.Allows screen.clientDetails.rideRequestId) [] app
        (events.map fun event => .screen ride event.2) := by
  induction events generalizing app screen actions with
  | nil =>
      cases run
      obtain ⟨inside, rfl⟩ := List.getElem?_eq_some_iff.mp shown
      exact ⟨by simp [savesOf, requestWrites], trivial⟩
  | cons event rest ih =>
      obtain ⟨next, now, later, reacts, continued, rfl⟩ := exec_cons_eq_some.mp run
      obtain ⟨rideType, event⟩ := event
      simp only [Meets, reacts] at works
      obtain ⟨⟨⟨same, _, stay⟩, reads⟩, others⟩ := works
      subst rideType
      have turns : screen.step app.rideType event = some (next, now) := reacts
      have agreed : app.agrees event = true := by
        cases event with
        | mapCreated currentPosition =>
            simp only [ScreenEvent.StaysAt] at stay
            simp [agrees, known, stay]
        | _ => rfl
      have kept : app.positionAfter event = app.home.currentPosition := by
        cases event with
        | position fix => exact (congrArg some stay).trans known.symm
        | _ => rfl
      have stepped : component app (.screen ride event) =
          some ({ app with
            screens := app.screens.set ride next
            saves := app.saves ++ savesOf now },
            requestWrites screen.clientDetails.rideRequestId now) := by
        simp only [component, step, shown, agreed, if_true, turns, kept]
      have inside : ride < app.screens.length := (List.getElem?_eq_some_iff.mp shown).1
      have details := (NewRequestScreen.step_moves turns).keeps.details
      have onward : exec component
          { app with
            screens := app.screens.set ride next
            saves := app.saves ++ savesOf now }
          (rest.map fun event => .screen ride event.2) =
            some (_, requestWrites next.clientDetails.rideRequestId later) ∧ _ :=
        ih (List.getElem?_set_self inside) known continued (others.elsewhere [])
      rw [details] at onward
      obtain ⟨onward, allowed⟩ := onward
      dsimp only at onward
      rw [List.set_set, List.append_assoc, savesOf, savesOf, ← List.filterMap_append] at onward
      refine ⟨exec_cons_eq_some.mpr ⟨_, _, _, stepped, onward, ?_⟩, ?_, ?_⟩
      · rw [requestWrites, List.filterMap_append]
        rfl
      · intro other here
        cases shown.symm.trans here
        exact ⟨rfl, reads⟩
      · rw [stepped]
        exact allowed.elsewhere _

theorem tapPrice_screen (ride : Nat) (rideType : String) (event : ScreenEvent) :
    tapPrice (rideType, event) = (AppEvent.screen ride event).allTaps := by
  cases event <;> rfl

theorem cost_screen (ride : Nat) (events : List (String × ScreenEvent)) :
    cost AppEvent.allTaps (events.map fun event => .screen ride event.2) =
      cost tapPrice events := by
  rw [cost_map]
  congr 1
  funext event
  exact (tapPrice_screen ride event.1 event.2).symm

theorem cost_homeTaps (events : List HomeEvent) :
    cost AppEvent.allTaps (events.map .home) = cost AppEvent.taps (events.map .home) := by
  rw [cost_map, cost_map]
  congr 1
  funext event
  cases event <;> rfl

/-- What a ride screen can still do, its app can. -/
theorem leads_screen {ride taps : Nat} {rideType : String}
    {screen reached : NewRequestScreen String} {actions : List ScreenAction}
    (shown : app.screens[ride]? = some screen)
    (known : app.home.currentPosition = some ⟨0, 0⟩) (own : app.rideType = rideType)
    (leads : NewRequestScreen.Leads (standing.around rideType) screen taps reached actions) :
    app.Leads standing screen.clientDetails.rideRequestId taps
      { app with
        screens := app.screens.set ride reached
        saves := app.saves ++ savesOf actions }
      (requestWrites screen.clientDetails.rideRequestId actions) := by
  subst own
  obtain ⟨events, run, works, spent⟩ := leads
  obtain ⟨onward, allowed⟩ := exec_screen shown known run works
  exact ⟨_, onward, allowed, (cost_screen ride events).trans spent⟩

/-- While the stream runs, six taps take an offered request to its end. -/
theorem leads_served (standing : Standing) (listening : app.home.streams.getLast? = some 0)
    (details : ClientDetails String) :
    ∃ last writes fareAmount, app.Leads standing details.rideRequestId 6 last writes ∧
      .request details.rideRequestId (.status .ended) ∈ writes ∧
      .request details.rideRequestId (.fares fareAmount) ∈ writes := by
  have running : app.home.streams[app.home.streams.length - 1]? = some 0 := by
    rw [← List.getLast?_eq_getElem?]
    exact listening
  have fixed : app.step (.home (.position (app.home.streams.length - 1) ⟨0, 0⟩)) =
      some ({ app with home := { app.home with currentPosition := some ⟨0, 0⟩ } },
        (app.home.onPosition ⟨0, 0⟩).2.map .rider) := by
    simp only [step, Home.step, running, if_true]
    rfl
  have fixing : app.Leads standing details.rideRequestId 0 _ _ := Runs.Leads.single fixed trivial
  obtain ⟨opened, early, opening, screens, position, rideType⟩ :=
    leads_opened standing { app with home := { app.home with currentPosition := some ⟨0, 0⟩ } }
      details
  have shown : opened.screens[app.screens.length]? = some { clientDetails := details } := by
    rw [screens]
    exact List.getElem?_concat_length
  have unended : (({ clientDetails := details } : NewRequestScreen String)).status ≤ .completed := by
    show Stage.accepted ≤ .completed
    decide
  obtain ⟨reached, actions, fareAmount, riding, _, ended, fares⟩ :=
    NewRequestScreen.ends_within (standing.around opened.rideType) rfl (.inr (.inr (.inr rfl)))
      unended
  have onward := leads_screen shown position rfl riding
  exact ⟨_, _, fareAmount, (fixing.trans opening).trans onward,
    List.mem_append_right _ (mem_requestWrites.mpr ⟨rfl, ended⟩),
    List.mem_append_right _ (mem_requestWrites.mpr ⟨rfl, fares⟩)⟩

end App

/-! ## One rider among all -/

/-- What this rider does, reading what stands, and stores, and the offer of the request. -/
inductive Concerns {Rider : Type} (rider : Rider) (standing : Standing) (rideRequestId : String)
    (world : World Rider) : WorldEvent Rider → Prop where
  | act {event : AppEvent} (allowed : standing.Allows rideRequestId (world.client rider) event) :
      Concerns rider standing rideRequestId world (.act rider event)
  | deliver : Concerns rider standing rideRequestId world (.deliver rider)
  | offer : Concerns rider standing rideRequestId world
      (.outside (.slot rider (some (.text rideRequestId))))

namespace World

variable {Rider : Type} [DecidableEq Rider] {world : World Rider} {rider : Rider}
  {standing : Standing} {rideRequestId : String}

abbrev Leads (rider : Rider) (standing : Standing) (rideRequestId : String)
    (world : World Rider) (taps : Nat) (last : World Rider) (stored : List (WorldWrite Rider)) :
    Prop :=
  Runs.Leads World.step (Concerns rider standing rideRequestId) riderTaps world taps last stored

variable {last : World Rider} {stored : List (WorldWrite Rider)}

theorem leads_delivers {count : Nat}
    (run : exec World.step world (List.replicate count (.deliver rider)) = some (last, stored)) :
    Leads rider standing rideRequestId world 0 last stored := by
  induction count generalizing world stored with
  | zero =>
      cases run
      exact Runs.Leads.refl _
  | succ count ih =>
      obtain ⟨next, now, later, stepped, continued, rfl⟩ := exec_cons_eq_some.mp run
      have first : Leads rider standing rideRequestId world 0 next now :=
        Runs.Leads.single stepped .deliver
      exact first.trans (ih continued)

theorem leads_offer (standing : Standing) (world : World Rider) (rider : Rider)
    (rideRequestId : String) :
    Leads rider standing rideRequestId world 0
      { world with store := world.store.intrude (.slot rider (some (.text rideRequestId))) }
      [.outside (.slot rider (some (.text rideRequestId)))] := by
  have offered : World.step world (.outside (.slot rider (some (.text rideRequestId)))) =
      some ({ world with
        store := world.store.intrude (.slot rider (some (.text rideRequestId))) },
        [.outside (.slot rider (some (.text rideRequestId)))]) := rfl
  exact Runs.Leads.single offered .offer

theorem stored_rider (database : Database Rider) (rider : Rider) (writes : List DbWrite) :
    (writes.foldl (fun store write => store.apply rider write) database).riders rider =
      storedNode (database.riders rider) (riderWrites writes) := by
  induction writes generalizing database with
  | nil => rfl
  | cons write rest ih =>
      rw [List.foldl_cons, ih]
      cases write with
      | request id write => rfl
      | rider write =>
          simp [riderWrites, storedNode, Database.apply]

/-- What one app does of its own is done and stored in the world. -/
theorem leads_app {events : List AppEvent} {app : App} {writes : List DbWrite}
    (run : exec App.component (world.client rider) events = some (app, writes))
    (allowed : Meets App.component (fun _ => standing.Allows rideRequestId) []
      (world.client rider) events)
    (answered : ∀ event ∈ events, world.store.answers rider event = true) :
    ∃ last, Leads rider standing rideRequestId world (cost AppEvent.allTaps events) last
        ((world.outbox rider ++ writes).map (.byClient rider)) ∧
      last.client rider = app ∧ last.outbox rider = [] ∧
      last.store.riders rider =
        storedNode (world.store.riders rider) (riderWrites (world.outbox rider ++ writes)) := by
  have acts : exec World.step world (events.map (.act rider)) =
      some ({ world with
        client := Function.update world.client rider app
        outbox := Function.update world.outbox rider (world.outbox rider ++ writes) }, []) :=
    Shared.exec_acts run answered
  have acting : Leads rider standing rideRequestId world (cost AppEvent.allTaps events) _ _ :=
    ⟨_, acts, Shared.meets_acts .act allowed, cost_map ..⟩
  have delivers : exec World.step
      { world with
        client := Function.update world.client rider app
        outbox := Function.update world.outbox rider (world.outbox rider ++ writes) }
      (List.replicate (world.outbox rider ++ writes).length (.deliver rider)) = some (_, _) :=
    Shared.exec_delivers rider (Function.update_self ..)
  exact ⟨_, acting.trans (leads_delivers delivers), Function.update_self ..,
    Function.update_self .., stored_rider _ rider _⟩

/-- From wherever the rider's app is, two taps bring it on offer. -/
theorem leads_onOffer (active : standing.status ≠ some "deactivated") (world : World Rider)
    (rider : Rider) (rideRequestId : String) :
    ∃ taps last stored, Leads rider standing rideRequestId world taps last stored ∧ taps ≤ 2 ∧
      (last.client rider).home.OnOffer (last.store.riders rider) := by
  obtain ⟨taps, home, writes, ⟨events, run, reads, spent⟩, few, onOffer⟩ :=
    (world.client rider).home.comes_onOffer active
      (storedNode (world.store.riders rider) (riderWrites (world.outbox rider)))
  have allowed : Meets App.component (fun _ => standing.Allows rideRequestId) []
      (world.client rider) (events.map .home) := by
    apply meets_of_forall
    intro _ _ event member
    obtain ⟨reaction, within, rfl⟩ := List.mem_map.mp member
    exact reads.forall_mem run reaction within
  have answered : ∀ event ∈ events.map AppEvent.home,
      world.store.answers rider event = true := by
    intro event member
    obtain ⟨reaction, _, rfl⟩ := List.mem_map.mp member
    rfl
  obtain ⟨last, leads, client, _, node⟩ := leads_app (App.exec_home run) allowed answered
  have price : cost AppEvent.allTaps (events.map .home) = taps := by
    rw [App.cost_homeTaps, cost_map, spent]
  refine ⟨_, last, _, leads, price ▸ few, ?_⟩
  rw [client, node, riderWrites_append, App.riderWrites_map, storedNode_append]
  exact onOffer

/-- What one app can do while a request is offered is done and stored in the world. -/
theorem leads_offered {taps : Nat} {app : App} {writes : List DbWrite}
    (leads : (world.client rider).Leads standing rideRequestId taps app writes) :
    ∃ last stored, Leads rider standing rideRequestId world taps last stored ∧
      last.client rider = app ∧ last.outbox rider = [] ∧
      storedBy rider stored = world.outbox rider ++ writes := by
  obtain ⟨events, run, allowed, spent⟩ := leads
  have answered : ∀ event ∈ events,
      (world.store.intrude (.slot rider (some (.text rideRequestId)))).answers rider
        event = true := by
    intro event member
    obtain ⟨before, after, rfl⟩ := List.append_of_mem member
    obtain ⟨middle, early, late, first, _⟩ := exec_append_eq_some.mp run
    have read := allowed.of_append first
    cases event with
    | slotRead call value => simpa [Database.answers, Database.intrude] using Eq.symm read
    | earningsRead save event => exact read.elim
    | _ => rfl
  have serving : exec App.component
      (({ world with
          store := world.store.intrude (.slot rider (some (.text rideRequestId))) } :
            World Rider).client rider) events = some (app, writes) := run
  obtain ⟨last, onward, client, outbox, _⟩ := leads_app serving allowed answered
  rw [spent] at onward
  have offered := (leads_offer standing world rider rideRequestId).trans onward
  rw [Nat.zero_add] at offered
  refine ⟨last, _, offered, client, outbox, ?_⟩
  rw [storedBy_append, storedBy_map]
  rfl

/-- Offered the request, a rider whose stream runs serves it with six taps. -/
theorem leads_ended (standing : Standing)
    (listening : (world.client rider).home.streams.getLast? = some 0)
    (details : ClientDetails String) :
    ∃ last stored fareAmount, Leads rider standing details.rideRequestId world 6 last stored ∧
      .byClient rider (.request details.rideRequestId (.status .ended)) ∈ stored ∧
      .byClient rider (.request details.rideRequestId (.fares fareAmount)) ∈ stored := by
  obtain ⟨app, writes, fareAmount, serving, ended, fares⟩ :=
    App.leads_served standing listening details
  obtain ⟨last, stored, leads, _, _, kept⟩ := leads_offered serving
  refine ⟨last, stored, fareAmount, leads, ?_, ?_⟩
  · rw [← mem_storedBy, kept]
    exact List.mem_append_right _ ended
  · rw [← mem_storedBy, kept]
    exact List.mem_append_right _ fares

/-- No state of the riders' apps is a dead end: with eight taps at most, a rider who is not
deactivated can serve any further request of a customer with an id and a token. -/
theorem canServe (world : World Rider) (rider : Rider) (details : ClientDetails String)
    (standing : Standing) (active : standing.status ≠ some "deactivated") :
    ∃ more last stored fareAmount, exec World.step world more = some (last, stored) ∧
      .byClient rider (.request details.rideRequestId (.status .ended)) ∈ stored ∧
      .byClient rider (.request details.rideRequestId (.fares fareAmount)) ∈ stored ∧
      Meets World.step (fun _ => Concerns rider standing details.rideRequestId) [] world more ∧
      cost riderTaps more ≤ 8 := by
  obtain ⟨taps, middle, early, onward, few, onOffer⟩ :=
    leads_onOffer active world rider details.rideRequestId
  obtain ⟨last, late, fareAmount, serving, ended, fares⟩ :=
    leads_ended standing onOffer.found.2.2 details
  obtain ⟨more, run, concerns, spent⟩ := onward.trans serving
  refine ⟨more, last, _, fareAmount, run, List.mem_append_right _ ended,
    List.mem_append_right _ fares, concerns, ?_⟩
  omega

/-- A rider whose tap, lookup and fare of an earlier ride are still pending. -/
def busyRider : World Unit :=
  { sampleWorld with
    client := fun _ =>
      { uid := "rider", home := { statusReads := 1, lookups := 1 }, saves := [7] }
    outbox := fun _ => [.rider .removeSlot] }

theorem canServe_busyRider :
    ∃ more last stored fareAmount, exec World.step busyRider more = some (last, stored) ∧
      .byClient () (.request "request-1" (.status .ended)) ∈ stored ∧
      .byClient () (.request "request-1" (.fares fareAmount)) ∈ stored ∧
      Meets World.step
        (fun _ => Concerns () ⟨some "activated", "client", "token"⟩ "request-1") [] busyRider
        more ∧
      cost riderTaps more ≤ 8 :=
  canServe busyRider () sampleDetails ⟨some "activated", "client", "token"⟩ (by decide)

end World

/-! ## The taps it takes -/

/-- No dialog of the request was accepted in this app. -/
structure App.Untouched (rideRequestId : String) (app : App) : Prop where
  accepts : ∀ call ∈ app.accepts, call.clientDetails.rideRequestId ≠ rideRequestId
  openings : ∀ details ∈ app.openings, details.rideRequestId ≠ rideRequestId
  screens : ∀ screen ∈ app.screens, screen.clientDetails.rideRequestId ≠ rideRequestId

/-- What an app has done for the request, paid for by the taps so far: one for the
dialog, one for each stage, and the copies still under way. -/
structure PaidFor (rideRequestId : String) (past : List AppEvent) (history : List DbWrite)
    (app : App) : Prop where
  accepts : ∀ call ∈ app.accepts, call.clientDetails.rideRequestId = rideRequestId →
    1 ≤ cost AppEvent.allTaps past
  openings : ∀ details ∈ app.openings, details.rideRequestId = rideRequestId →
    1 ≤ cost AppEvent.allTaps past
  screens : ∀ screen ∈ app.screens, screen.clientDetails.rideRequestId = rideRequestId →
    (∃ earlier, ProgressLaw earlier screen) ∧
      1 + screen.tapsCounted ≤ cost AppEvent.allTaps past
  ended : .request rideRequestId (.status .ended) ∈ history → 6 ≤ cost AppEvent.allTaps past

namespace PaidFor

variable {rideRequestId : String} {past : List AppEvent} {history writes : List DbWrite}
  {before after : App} {event : AppEvent}

theorem initial (untouched : before.Untouched rideRequestId) :
    PaidFor rideRequestId [] [] before where
  accepts call member same := absurd same (untouched.accepts call member)
  openings details member same := absurd same (untouched.openings details member)
  screens screen member same := absurd same (untouched.screens screen member)
  ended := by simp

theorem later (law : PaidFor rideRequestId past history before) (event : AppEvent) :
    PaidFor rideRequestId (past ++ [event]) history before := by
  have more : cost AppEvent.allTaps past ≤ cost AppEvent.allTaps (past ++ [event]) := by
    rw [cost_append]
    omega
  constructor
  · intro call member same
    exact (law.accepts call member same).trans more
  · intro details member same
    exact (law.openings details member same).trans more
  · intro screen member same
    exact ⟨(law.screens screen member same).1, (law.screens screen member same).2.trans more⟩
  · intro ended
    exact (law.ended ended).trans more

/-- What an app writes is the end of a ride only when its screen writes it. -/
private theorem ended_written {before after : App}
    (moves : AppMove before event after writes)
    (ended : .request rideRequestId (.status .ended) ∈ writes) :
    ∃ ride screenEvent screen next actions, event = .screen ride screenEvent ∧
      before.screens[ride]? = some screen ∧
      screen.clientDetails.rideRequestId = rideRequestId ∧
      screen.step before.rideType screenEvent = some (next, actions) ∧
      .write (.status .ended) ∈ actions := by
  cases moves with
  | home moves =>
      obtain ⟨write, _, same⟩ := List.mem_map.mp ended
      cases same
  | taken answered offered => simp at ended
  | built pushed =>
      rcases List.mem_append.mp ended with issued | mark
      · obtain ⟨_, issued⟩ := mem_requestWrites.mp issued
        obtain ⟨write, member, same⟩ := List.mem_map.mp issued
        cases same
        simp [acceptRideRequest] at member
      · cases List.mem_singleton.mp mark
  | screen shown stepped =>
      obtain ⟨same, issued⟩ := mem_requestWrites.mp ended
      exact ⟨_, _, _, _, _, rfl, shown, same.symm, stepped, issued⟩
  | _ => cases ended

theorem step (law : PaidFor rideRequestId past history before)
    (moves : AppMove before event after writes) :
    PaidFor rideRequestId (past ++ [event]) (history ++ writes) after where
  accepts call member same := by
    have kept := (law.later event).accepts
    cases moves with
    | accept =>
        rw [cost_append]
        exact Nat.le_add_left ..
    | slotRead reading =>
        rcases List.mem_or_eq_of_mem_set member with old | rfl
        · exact kept call old same
        · have waiting := kept _ (List.mem_of_getElem? reading)
          exact waiting same
    | taken answered own | refused answered other =>
        exact kept call (List.mem_of_mem_eraseIdx member) same
    | _ => exact kept call member same
  openings details member same := by
    have kept := (law.later event).openings
    cases moves with
    | taken answered own =>
        rcases List.mem_append.mp member with old | new
        · exact kept details old same
        · cases List.mem_singleton.mp new
          exact (law.later _).accepts _ (List.mem_of_getElem? answered) same
    | built pushed => exact kept details (List.mem_of_mem_eraseIdx member) same
    | _ => exact kept details member same
  screens screen member same := by
    have kept := (law.later event).screens
    cases moves with
    | built pushed =>
        rcases List.mem_append.mp member with old | new
        · exact kept screen old same
        · cases List.mem_singleton.mp new
          exact ⟨⟨_, ProgressLaw.initial "" none none _⟩,
            (law.later _).openings _ (List.mem_of_getElem? pushed) same⟩
    | @screen ride screenEvent shownScreen next actions shown stepped =>
        rcases List.mem_or_eq_of_mem_set member with old | rfl
        · exact kept screen old same
        · rw [(NewRequestScreen.step_moves stepped).keeps.details] at same
          obtain ⟨⟨earlier, progress⟩, paid⟩ := law.screens _ (List.mem_of_getElem? shown) same
          refine ⟨⟨_, progress.move (NewRequestScreen.step_moves stepped)⟩, ?_⟩
          have counted := NewRequestScreen.tapsCounted_step stepped
          rw [App.tapPrice_screen ride] at counted
          rw [cost_append, cost_cons, cost_nil]
          omega
    | _ => exact kept screen member same
  ended written := by
    rcases List.mem_append.mp written with old | new
    · exact (law.later event).ended old
    · obtain ⟨ride, screenEvent, screen, next, actions, rfl, shown, same, stepped, ended⟩ :=
        ended_written moves new
      obtain ⟨⟨earlier, progress⟩, paid⟩ := law.screens _ (List.mem_of_getElem? shown) same
      have counted := NewRequestScreen.tapsCounted_of_ended progress stepped ended
      rw [cost_append]
      omega

end PaidFor

namespace App

variable {rideRequestId : String} {before after : App} {event : AppEvent}
  {history writes : List DbWrite}

/-- Only Accept brings a request into the app, and only then the app writes below it. -/
theorem Untouched.step (untouched : before.Untouched rideRequestId)
    (other : ∀ dialog details, event = .accept dialog details →
      details.rideRequestId ≠ rideRequestId)
    (moves : AppMove before event after writes) :
    after.Untouched rideRequestId ∧ ∀ write, .request rideRequestId write ∉ writes := by
  refine ⟨⟨?_, ?_, ?_⟩, ?_⟩
  · intro call member
    rcases moves.asked member with ⟨old, waiting, same⟩ | tapped
    · exact same ▸ untouched.accepts old waiting
    · exact other _ _ tapped
  · intro details member
    rcases moves.pushed member with old | ⟨call, waiting, value, answer, rfl, own⟩
    · exact untouched.openings details old
    · exact untouched.accepts call waiting
  · intro screen member
    rcases moves.shown member with ⟨old, shown, same⟩ | pushed
    · exact same ▸ untouched.screens old shown
    · exact untouched.openings _ pushed
  · intro write written
    cases moves.requestOrigin written with
    | accepted pushed same issued =>
        exact untouched.openings _ (List.mem_of_getElem? pushed) same.symm
    | screen shown same issued =>
        exact untouched.screens _ (List.mem_of_getElem? shown) same.symm

theorem untouched_of_run {uid : String} {events : List AppEvent}
    (other : ∀ event ∈ events, ∀ dialog details, event = .accept dialog details →
      details.rideRequestId ≠ rideRequestId)
    (run : exec component { uid := uid } events = some (after, writes)) :
    after.Untouched rideRequestId ∧ ∀ write, .request rideRequestId write ∉ writes := by
  have law := exec_trace_invariant
    (fun (_ : List AppEvent) history (app : App) =>
      app.Untouched rideRequestId ∧ ∀ write, .request rideRequestId write ∉ history) ?_ [] []
    ⟨⟨by simp, by simp, by simp⟩, by simp⟩ other run
  · exact law
  · intro past history app event next emitted law first stepped
    obtain ⟨untouched, unwritten⟩ := law.1.step first (step_moves stepped)
    refine ⟨untouched, ?_⟩
    intro write written
    rcases List.mem_append.mp written with old | new
    · exact law.2 write old
    · exact unwritten write new

/-- From an app that has not touched the request, its end costs six taps. -/
theorem six_le_cost (untouched : before.Untouched rideRequestId) {events : List AppEvent}
    (run : exec component before events = some (after, writes))
    (ended : .request rideRequestId (.status .ended) ∈ writes) :
    6 ≤ cost AppEvent.allTaps events := by
  have all : ∀ event ∈ events, True := fun _ _ => trivial
  have law := exec_trace_invariant (PaidFor rideRequestId)
    (fun law _ stepped => law.step (step_moves stepped)) [] [] (.initial untouched) all run
  exact law.ended ended

end App

namespace World

variable {Rider : Type} [DecidableEq Rider]

theorem cost_actsOf (rider : Rider) (events : List (WorldEvent Rider)) :
    cost AppEvent.allTaps (actsOf rider events) ≤ cost riderTaps events := by
  induction events with
  | nil => exact Nat.le_refl _
  | cons entry rest ih =>
      cases entry with
      | act actor event =>
          by_cases same : actor = rider
          · simp only [actsOf, same, if_true, cost_cons, riderTaps]
            omega
          · simp only [actsOf, same, if_false, cost_cons]
            omega
      | deliver actor | outside write =>
          simp only [actsOf, cost_cons]
          omega

variable {uid : Rider → String} {store : Database Rider} {world last : World Rider}
  {events more : List (WorldEvent Rider)} {stored later : List (WorldWrite Rider)}
  {rideRequestId : String}

/-- A request that no rider accepted yet takes six taps, whoever serves it. -/
theorem six_le_cost (run : exec World.step (start uid store) events = some (world, stored))
    (unaccepted : ∀ rider dialog details, .act rider (.accept dialog details) ∈ events →
      details.rideRequestId ≠ rideRequestId)
    (onward : exec World.step world more = some (last, later)) {rider : Rider}
    (ended : .byClient rider (.request rideRequestId (.status .ended)) ∈ later) :
    6 ≤ cost riderTaps more := by
  obtain ⟨issued, first, queue⟩ := Shared.exec_client rider run
  obtain ⟨emitted, second, rest⟩ := Shared.exec_client rider onward
  have other : ∀ event ∈ actsOf rider events, ∀ dialog details,
      event = .accept dialog details → details.rideRequestId ≠ rideRequestId := by
    intro event member dialog details accepts
    subst accepts
    exact unaccepted rider dialog details (mem_actsOf.mp member)
  obtain ⟨untouched, unwritten⟩ := App.untouched_of_run other first
  have written : .request rideRequestId (.status .ended) ∈ world.outbox rider ++ emitted := by
    rw [rest]
    exact List.mem_append_left _ (mem_storedBy.mpr ended)
  rcases List.mem_append.mp written with queued | fresh
  · have early : .request rideRequestId (.status .ended) ∈ issued := by
      rw [start, List.nil_append] at queue
      rw [queue]
      exact List.mem_append_right _ queued
    exact absurd early (unwritten _)
  · exact (App.six_le_cost untouched second fresh).trans (cost_actsOf rider more)

/-- Where some rider's position stream runs, six taps are the fewest with which a
request that nobody accepted yet is served, over all riders and all runs. -/
theorem fewestTapsToServe
    (run : exec World.step (start uid store) events = some (world, stored))
    (details : ClientDetails String)
    (unaccepted : ∀ rider dialog other, .act rider (.accept dialog other) ∈ events →
      other.rideRequestId ≠ details.rideRequestId)
    {rider : Rider} (listening : (world.client rider).home.streams.getLast? = some 0) :
    IsLeast {taps | ∃ more last later anyone, exec World.step world more = some (last, later) ∧
      .byClient anyone (.request details.rideRequestId (.status .ended)) ∈ later ∧
      cost riderTaps more = taps} 6 := by
  constructor
  · obtain ⟨last, later, _, ⟨more, onward, _, spent⟩, ended, _⟩ :=
      leads_ended ⟨none, "", ""⟩ listening details
    exact ⟨more, last, later, rider, onward, ended, spent⟩
  · intro taps serves
    obtain ⟨more, last, later, anyone, onward, ended, rfl⟩ := serves
    exact six_le_cost run unaccepted onward ended

end World

/-- A rider goes online. -/
def onlineRider : List (WorldEvent Unit) :=
  [.act () (.home .tap), .act () (.home (.statusRead none)), .act () (.home (.located ⟨5, 1⟩))]

theorem fewestTapsToServe_onlineRider :
    ∃ world stored,
      exec World.step (World.start (fun _ => "rider") sampleWorld.store) onlineRider =
        some (world, stored) ∧
      IsLeast {taps | ∃ more last later anyone,
        exec World.step world more = some (last, later) ∧
        .byClient anyone (.request "request-1" (.status .ended)) ∈ later ∧
        cost riderTaps more = taps} 6 := by
  have reached : (exec World.step (World.start (fun _ => "rider") sampleWorld.store)
      onlineRider).map (fun result => (result.1.client ()).home.streams.getLast?) =
        some (some 0) := by
    decide +kernel
  obtain ⟨⟨world, stored⟩, run, listening⟩ := Option.map_eq_some_iff.mp reached
  refine ⟨world, stored, run, ?_⟩
  have unaccepted : ∀ (rider : Unit) dialog (other : ClientDetails String),
      .act rider (.accept dialog other) ∈ onlineRider →
        other.rideRequestId ≠ sampleDetails.rideRequestId := by
    intro rider dialog other member
    simp [onlineRider] at member
  exact World.fewestTapsToServe run sampleDetails unaccepted listening

end FilldRider
