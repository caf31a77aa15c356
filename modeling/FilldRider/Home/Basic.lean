import FilldRider.Models.Rider
import FilldRider.Runs.Component

/-!
# The home page

The online/offline button with `makeRiderOnlineNow` and `makeRiderOfflineNow`, the
availability flag of `AppState`, and the position stream of the home tab. A tap
reads the rider's status; going online writes only after a location fix. In all modules
`setState` throws before its callback runs once its widget is disposed of; here the tab
stays.
-/

set_option autoImplicit false

namespace FilldRider

open Runs

inductive StatusColor where
  | white70
  | green
  | red
  deriving DecidableEq, Repr

/-- `AppState`, the globals of the home tab and what the page waits for. The page's
own `isDriverAvailable` is never assigned. -/
structure Home where
  driverStatusColor : StatusColor := .white70
  driverStatusText : String := "Offline"
  isDriverAvailable : Bool := false
  pageDriverAvailable : Bool := false
  currentPosition : Option LatLng := none
  /-- Position streams listened to, each with its pauses. `homeTabPageStreamSubscription`
  is the last one; earlier ones are never cancelled. -/
  streams : List Nat := []
  /-- Taps that wait for the status. -/
  statusReads : Nat := 0
  /-- Calls of `makeRiderOnlineNow` that wait for a fix. -/
  lookups : Nat := 0
  deriving DecidableEq

inductive HomeEvent where
  | tap
  | statusRead (data : Option String)
  | located (position : LatLng)
  | lookupFailed
  | position (stream : Nat) (position : LatLng)
  deriving DecidableEq

namespace Home

def updateDriverStatus (home : Home) (color : StatusColor) (text : String)
    (availability : Bool) : Home :=
  { home with
    driverStatusColor := color
    driverStatusText := text
    isDriverAvailable := availability }

def makeRiderOnlineNow (home : Home) : Home :=
  { home with lookups := home.lookups + 1 }

/-- `makeRiderOnlineNow` after its await. -/
def finishRiderOnline (home : Home) (position : LatLng) : Home × List RiderWrite :=
  ({ home with lookups := home.lookups - 1, currentPosition := some position },
    [.searching "searching", .setLocation position, .searching "Searching"])

/-- `onDisconnect()` alone arms nothing. -/
def makeRiderOfflineNow : List RiderWrite := [.removeLocation, .removeSlot]

def getLocationLiveUpdates (home : Home) : Home :=
  { home with streams := home.streams ++ [0] }

/-- The button's handler once the status is read. -/
def handleStatus (home : Home) (data : Option String) : Home × List RiderWrite :=
  if data = some "deactivated" then
    let offline := home.updateDriverStatus .red "Offline - Deactivated" false
    (offline.updateDriverStatus .red "Offline - Deactivated" true, [])
  else if !home.isDriverAvailable then
    (home.makeRiderOnlineNow.getLocationLiveUpdates.updateDriverStatus .green "Online" true, [])
  else (home.updateDriverStatus .white70 "Offline" false, makeRiderOfflineNow)

def onPosition (home : Home) (position : LatLng) : Home × List RiderWrite :=
  ({ home with currentPosition := some position },
    if home.pageDriverAvailable then [.setLocation position] else [])

def step (home : Home) : HomeEvent → Option (Home × List RiderWrite)
  | .tap => some ({ home with statusReads := home.statusReads + 1 }, [])
  | .statusRead data =>
      if 0 < home.statusReads then
        some (handleStatus { home with statusReads := home.statusReads - 1 } data)
      else none
  | .located position =>
      if 0 < home.lookups then some (home.finishRiderOnline position) else none
  | .lookupFailed =>
      if 0 < home.lookups then some ({ home with lookups := home.lookups - 1 }, []) else none
  | .position stream position =>
      if home.streams[stream]? = some 0 then some (home.onPosition position) else none

def component : Component Home HomeEvent RiderWrite := step

def changeSubscription (change : Nat → Nat) (home : Home) : Home :=
  { home with
    streams := home.streams.dropLast ++ home.streams.getLast?.toList.map change }

/-- `AssistantMethod.disableHomeTabLiveLocationUpdates`. -/
def disableHomeTabLiveLocationUpdates (home : Home) : Home × List RiderWrite :=
  (home.changeSubscription (· + 1), [.removeLocation])

/-- `AssistantMethod.enableHomeTabLiveLocationUpdates`, which nothing calls. It
force-unwraps both globals, the position last. -/
def enableHomeTabLiveLocationUpdates (home : Home) : Home × List RiderWrite :=
  match home.streams.getLast? with
  | none => (home, [])
  | some _ => (home.changeSubscription (· - 1), home.currentPosition.toList.map .setLocation)

structure Settled (home : Home) : Prop where
  handled : home.statusReads = 0
  completed : home.lookups = 0

end Home

end FilldRider
