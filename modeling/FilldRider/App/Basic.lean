import FilldRider.Home.Availability
import FilldRider.NewRequestScreen.Moves
import FilldRider.Notification.Dialog
import FilldRider.Runs.Clients

/-!
# The rider app and its database

One rider's app: the home page, the dialogs whose Accept was tapped, the ride screens
and the pending `saveEarnings` calls. All apps share one database, which customers
and the dispatcher write to as well.
-/

set_option autoImplicit false

namespace FilldRider

open Runs

/-- A call of `checkAvailabilityOfRide`, with the answer to its read once given. -/
structure AcceptCall where
  dialog : DialogKind
  clientDetails : ClientDetails String
  answer : Option (Option SlotValue) := none
  deriving DecidableEq

structure App where
  uid : String
  home : Home := {}
  riderInfo : Option RideR := none
  rideType : String := ""
  accepts : List AcceptCall := []
  /-- Ride screens pushed and not built yet. -/
  openings : List (ClientDetails String) := []
  screens : List (NewRequestScreen String) := []
  /-- Calls of `saveEarnings` that wait for the old earnings. -/
  saves : List Int := []
  deriving DecidableEq

inductive AppEvent where
  | home (event : HomeEvent)
  | accept (dialog : DialogKind) (clientDetails : ClientDetails String)
  | slotRead (call : Nat) (value : Option SlotValue)
  /-- Whether the dialog's context is still there is open: `AcceptDialog` has the routes. -/
  | slotReply (call : Nat) (mounted : Bool)
  | built (opening : Nat)
  | screen (ride : Nat) (event : ScreenEvent)
  | earningsRead (save : Nat) (event : DatabaseEvent)
  | profile (riderInfo : Option RideR)
  | rideType (rideType : String)
  deriving DecidableEq

inductive DbWrite where
  | request (rideRequestId : String) (write : RequestWrite)
  | rider (write : RiderWrite)
  deriving DecidableEq

def requestWrites (rideRequestId : String) (actions : List ScreenAction) : List DbWrite :=
  actions.filterMap fun action =>
    match action with
    | .write write => some (.request rideRequestId write)
    | _ => none

def savesOf (actions : List ScreenAction) : List Int :=
  actions.filterMap fun action =>
    match action with
    | .saveEarnings fareAmount => some fareAmount
    | _ => none

/-- `saveEarnings` once its read returns; parsing the event itself throws. -/
def saveEarnings (fareAmount : Int) (event : Option DatabaseEvent) : List RiderWrite :=
  match event with
  | some event =>
      match doubleParse event.toString with
      | some oldEarnings => [.earnings (toStringAsFixed2 (.addInt fareAmount oldEarnings))]
      | none => []
  | none => [.earnings (toStringAsFixed2 (.finite fareAmount))]

theorem saveEarnings_some (fareAmount : Int) (event : DatabaseEvent) :
    saveEarnings fareAmount (some event) = [] := by
  simp only [saveEarnings, doubleParse_databaseEvent]

namespace App

/-- `acceptRideRequest` with its last write, the history mark below the slot. -/
def acceptWrites (app : App) (clientDetails : ClientDetails String) : List DbWrite :=
  requestWrites clientDetails.rideRequestId
      (NewRequestScreen.initState app.uid app.riderInfo app.home.currentPosition) ++
    [.rider (.history app.uid clientDetails.rideRequestId)]

/-- One call of a handler; `none` when it throws, as `Navigator.pop` does once the
dialog's context is gone. -/
def perform (mounted : Bool) (app : App) : DialogAction → Option (App × List DbWrite)
  | .pop => if mounted then some (app, []) else none
  | .displayToast _ => some (app, [])
  | .setAccepted rideRequestId read => some (app, [.rider (.accepted rideRequestId read)])
  | .disableHomeTabLiveLocationUpdates =>
      let (home, writes) := app.home.disableHomeTabLiveLocationUpdates
      some ({ app with home := home }, writes.map .rider)
  | .pushNewRequestScreen clientDetails =>
      some ({ app with openings := app.openings ++ [clientDetails] }, [])

/-- A handler's calls up to the first that throws. -/
def performAll (mounted : Bool) : App → List DialogAction → App × List DbWrite
  | app, [] => (app, [])
  | app, action :: rest =>
      match app.perform mounted action with
      | none => (app, [])
      | some (next, writes) =>
          let (last, later) := performAll mounted next rest
          (last, writes ++ later)

/-- What a screen's event says about globals must be true of them. -/
def agrees (app : App) : ScreenEvent → Bool
  | .mapCreated currentPosition => decide (currentPosition = app.home.currentPosition)
  | _ => true

/-- The listener of a ride screen also assigns the global position. -/
def positionAfter (app : App) : ScreenEvent → Option LatLng
  | .position position => some position
  | _ => app.home.currentPosition

def step (app : App) : AppEvent → Option (App × List DbWrite)
  | .home event =>
      match app.home.step event with
      | none => none
      | some (home, writes) => some ({ app with home := home }, writes.map .rider)
  | .accept dialog clientDetails =>
      some ({ app with accepts := app.accepts ++ [⟨dialog, clientDetails, none⟩] }, [])
  | .slotRead call value =>
      match app.accepts[call]? with
      | some ⟨dialog, clientDetails, none⟩ =>
          some ({ app with accepts := app.accepts.set call ⟨dialog, clientDetails, some value⟩ },
            [])
      | _ => none
  | .slotReply call mounted =>
      match app.accepts[call]? with
      | some ⟨dialog, clientDetails, some value⟩ =>
          some (performAll mounted { app with accepts := app.accepts.eraseIdx call }
            (dialog.checkAvailabilityOfRide clientDetails value))
      | _ => none
  | .built opening =>
      match app.openings[opening]? with
      | none => none
      | some clientDetails =>
          some ({ app with
            openings := app.openings.eraseIdx opening
            screens := app.screens ++ [{ clientDetails := clientDetails }] },
            app.acceptWrites clientDetails)
  | .screen ride event =>
      match app.screens[ride]? with
      | none => none
      | some screen =>
          if app.agrees event then
            match screen.step app.rideType event with
            | none => none
            | some (next, actions) =>
                some ({ app with
                  screens := app.screens.set ride next
                  saves := app.saves ++ savesOf actions
                  home := { app.home with currentPosition := app.positionAfter event } },
                  requestWrites screen.clientDetails.rideRequestId actions)
          else none
  | .earningsRead save event =>
      match app.saves[save]? with
      | none => none
      | some fareAmount =>
          some ({ app with saves := app.saves.eraseIdx save },
            (saveEarnings fareAmount (some event)).map .rider)
  | .profile riderInfo => some ({ app with riderInfo := riderInfo }, [])
  | .rideType rideType => some ({ app with rideType := rideType }, [])

def component : Component App AppEvent DbWrite := step

end App

/-! ## The database -/

structure Database (Rider : Type) where
  requests : String → GasRequest
  riders : Rider → RiderNode

/-- Writes of others: the customer cancels, the dispatcher sets or clears a slot. -/
inductive Outside (Rider : Type) where
  | cancel (rideRequestId : String)
  | slot (rider : Rider) (value : Option SlotValue)
  deriving DecidableEq

variable {Rider : Type} [DecidableEq Rider]

namespace Database

def apply (database : Database Rider) (rider : Rider) : DbWrite → Database Rider
  | .request rideRequestId write =>
      { database with
        requests := Function.update database.requests rideRequestId
          ((database.requests rideRequestId).apply write) }
  | .rider write =>
      { database with
        riders := Function.update database.riders rider ((database.riders rider).apply write) }

def intrude (database : Database Rider) : Outside Rider → Database Rider
  | .cancel rideRequestId =>
      { database with
        requests := Function.update database.requests rideRequestId
          { database.requests rideRequestId with status := some .cancelled } }
  | .slot rider value =>
      { database with
        riders := Function.update database.riders rider
          { database.riders rider with newRider := value } }

def answers (database : Database Rider) (rider : Rider) : AppEvent → Bool
  | .slotRead _ value => decide ((database.riders rider).newRider = value)
  | .earningsRead _ event => decide ((database.riders rider).earnings = event.value)
  | _ => true

end Database

abbrev World (Rider : Type) := Shared Rider App DbWrite (Database Rider)

abbrev WorldEvent (Rider : Type) := SharedEvent Rider AppEvent (Outside Rider)

abbrev WorldWrite (Rider : Type) := Stored Rider DbWrite (Outside Rider)

def World.step : Component (World Rider) (WorldEvent Rider) (WorldWrite Rider) :=
  Shared.step App.component Database.answers Database.apply Database.intrude

/-- Every app just started, with nothing left to store. -/
def World.start (uid : Rider → String) (store : Database Rider) : World Rider where
  client rider := { uid := uid rider }
  outbox _ := []
  store := store

/-! ## One rider with one offer -/

def sampleWorld : World Unit where
  client _ := { uid := "rider" }
  outbox _ := []
  store :=
    { requests := fun _ => {}
      riders := fun _ => {} }

def sampleOffer : List (WorldEvent Unit) :=
  [.act () (.home .tap), .act () (.home (.statusRead none)),
    .act () (.home (.located ⟨5, 1⟩)), .deliver (), .deliver (), .deliver (),
    .outside (.slot () (some (.text "request-1")))]

def sampleAccept : List (WorldEvent Unit) :=
  [.act () (.accept .notification sampleDetails),
    .act () (.slotRead 0 (some (.text "request-1"))), .act () (.slotReply 0 true),
    .act () (.built 0)]

def sampleRide (details : DirectionDetails) : List (WorldEvent Unit) :=
  (rideToEndTrip ++ endTripTap details).map (fun event => .act () (.screen 0 event)) ++
    List.replicate 18 (.deliver ()) ++ [.act () (.earningsRead 0 ⟨none⟩)]

end FilldRider
