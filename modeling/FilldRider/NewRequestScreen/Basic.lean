import FilldRider.Models.Fares
import FilldRider.Runs.Component

/-!
# The ride screen

`NewRequestScreen` as a component. Every await of the stage button's handler is a
suspension point; each tap is a copy of the handler that waits at one of them, and
the copies share the fields of the screen. Thrown errors end the copy they occur in.
-/

set_option autoImplicit false

namespace FilldRider

open Runs

/-- The awaits of the stage button's `onPressed`, in source order. The last one
is the await inside `endTheTrip`, which the handler starts but does not await. -/
inductive TapPoint where
  | clientId
  | clientToken
  | arrivedWrite
  | arrivedDirections
  | arrivedNotification
  | returningWrite
  | gasStationWrite
  | gasStationNotification
  | completedWrite
  | completedDirections
  | endWrite
  | endNotification
  | endDirections
  deriving DecidableEq, Repr

structure Tap where
  label : ButtonLabel
  point : TapPoint
  deriving DecidableEq, Repr

/-- How an awaited future completes. Directions are `none` for the null result. -/
inductive Reply where
  | value (value : Option String)
  | done
  | directions (details : Option DirectionDetails)
  | error
  deriving DecidableEq

inductive ScreenDialog where
  | progress (barrierDismissible : Bool)
  | collectFare (paymentMethod : Option String) (fareAmount : Int)
  deriving DecidableEq

/-- What the screen does to its surroundings. `entered` only observes that a copy
made under a label takes the branch of a stage. -/
inductive ScreenAction where
  | entered (label : ButtonLabel) (stage : Stage)
  | write (write : RequestWrite)
  | showDialog (dialog : ScreenDialog)
  | pop
  | showSnackBar (text : String)
  | directions (origin destination : LatLng)
  | endTheTrip
  | saveEarnings (fareAmount : Int)
  deriving DecidableEq

/-- The fields of `_NewRequestScreenState`; objects that are only tested for null
are kept as flags. -/
structure NewRequestScreen (RequestId : Type) where
  clientDetails : ClientDetails RequestId
  mounted : Bool := true
  status : Stage := .accepted
  btnTitle : ButtonLabel := .arrived
  newRideGoogleMapController : Bool := false
  animatingMarkerIcon : Bool := false
  rideStreamSubscription : Bool := false
  myPosition : Option LatLng := none
  isRequestingDirection : Bool := false
  durationRide : String := ""
  taps : List Tap := []
  mapDirections : Bool := false
  liveLocation : Bool := false
  /-- Calls of `updateRideDetails` that wait for directions. -/
  rideDetails : Nat := 0
  deriving DecidableEq

inductive ScreenEvent where
  | tap
  | reply (copy : Nat) (reply : Reply)
  | position (position : LatLng)
  | mapCreated (currentPosition : Option LatLng)
  | mapReply (reply : Reply)
  | rideDetailsReply (reply : Reply)
  | iconLoaded
  | statusValue (value : Option RideStatus)
  | unmount
  deriving DecidableEq

variable {RequestId : Type}

namespace NewRequestScreen

def initState (uid : String) (riderInfo : Option RideR) (currentPosition : Option LatLng) :
    List ScreenAction :=
  (acceptRideRequest uid riderInfo currentPosition).map .write

/-- Not called anywhere in the app. -/
def listenForStatusChanges (screen : NewRequestScreen RequestId) :
    NewRequestScreen RequestId :=
  { screen with rideStreamSubscription := true }

def getPlaceDirection (pickUpLatLng dropOffLatLng : LatLng) : List ScreenAction :=
  [.showDialog (.progress true), .directions pickUpLatLng dropOffLatLng]

/-- `getPlaceDirection2` asks for the directions the other way round. -/
def getPlaceDirection2 (pickUpLatLng dropOffLatLng : LatLng) : List ScreenAction :=
  [.showDialog (.progress true), .directions dropOffLatLng pickUpLatLng]

/-- Whether drawing the route gets past its force-unwraps: the details, their
encoded points and the map controller. -/
def drawsRoute (screen : NewRequestScreen RequestId) : Option DirectionDetails → Bool
  | some details => details.encodedPoints.isSome && screen.newRideGoogleMapController
  | none => false

/-- The branch a tap takes once the client's token is read: it looks at `status`
now, assigns it and issues the write it then awaits. -/
def enterBranch (screen : NewRequestScreen RequestId) (label : ButtonLabel) :
    NewRequestScreen RequestId × Option TapPoint × List ScreenAction :=
  match screen.status with
  | .accepted =>
      ({ screen with status := .arrived }, some .arrivedWrite,
        [.entered label .accepted, .write (.status .arrived)])
  | .arrived =>
      ({ screen with status := .returning }, some .returningWrite,
        [.entered label .arrived, .write (.status .returning)])
  | .returning =>
      ({ screen with status := .arrivedAtGasStation }, some .gasStationWrite,
        [.entered label .returning, .write (.status .arrivedAtGasStation)])
  | .arrivedAtGasStation =>
      ({ screen with status := .completed }, some .completedWrite,
        [.entered label .arrivedAtGasStation, .write (.status .completed)])
  | .completed =>
      (screen, some .endWrite, [.entered label .completed, .write (.status .completed)])
  | .ended => (screen, none, [])

/-- `endTheTrip` up to its await. Without a position the force-unwrap throws. -/
def endTheTrip (screen : NewRequestScreen RequestId) :
    NewRequestScreen RequestId × Option TapPoint × List ScreenAction :=
  match screen.myPosition with
  | none => (screen, none, [.endTheTrip, .showDialog (.progress false)])
  | some position =>
      (screen, some .endDirections,
        [.endTheTrip, .showDialog (.progress false),
          .directions screen.clientDetails.pickup position])

def finishTrip (rideType : String) (screen : NewRequestScreen RequestId)
    (directionalDetails : Option DirectionDetails) :
    NewRequestScreen RequestId × Option TapPoint × List ScreenAction :=
  match directionalDetails.bind (calculateFares rideType) with
  | none => (screen, none, [.pop])
  | some fareAmount =>
      ({ screen with rideStreamSubscription := false }, none,
        [.pop, .write (.fares fareAmount), .write (.status .ended),
          .showDialog (.collectFare screen.clientDetails.paymentMethod fareAmount),
          .saveEarnings fareAmount])

/-- Resume a copy of the handler with the reply it waits for: the next await, if
any, and the actions up to it. Once the screen is unmounted `setState` throws before its
callback, and uses of `context` throw. -/
def resume (rideType : String) (screen : NewRequestScreen RequestId) (label : ButtonLabel) :
    TapPoint → Reply → Option (NewRequestScreen RequestId × Option TapPoint × List ScreenAction)
  | _, .error => some (screen, none, [])
  | .clientId, .value none => some (screen, none, [])
  | .clientId, .value (some _) => some (screen, some .clientToken, [])
  | .clientToken, .value none => some (screen, none, [])
  | .clientToken, .value (some _) => some (screen.enterBranch label)
  | .arrivedWrite, .done =>
      if screen.mounted then
        some ({ screen with btnTitle := .startJob }, some .arrivedDirections,
          .showDialog (.progress false) ::
            getPlaceDirection screen.clientDetails.pickup screen.clientDetails.dropoff)
      else some (screen, none, [])
  | .arrivedDirections, .directions details =>
      if screen.mounted then
        if screen.drawsRoute details then some (screen, some .arrivedNotification, [.pop, .pop])
        else some (screen, none, [.pop])
      else some (screen, none, [])
  | .arrivedNotification, .done => some (screen, none, [])
  | .returningWrite, .done =>
      if screen.mounted then
        some ({ screen with btnTitle := .arrivedAtGasStation }, none, [])
      else some (screen, none, [])
  | .gasStationWrite, .done =>
      if screen.mounted then
        some ({ screen with btnTitle := .completeDelivery }, some .gasStationNotification, [])
      else some (screen, none, [])
  | .gasStationNotification, .done => some (screen, none, [])
  | .completedWrite, .done =>
      if screen.mounted then
        some (screen, some .completedDirections,
          getPlaceDirection2 screen.clientDetails.dropoff screen.clientDetails.pickup)
      else some (screen, none, [])
  | .completedDirections, .directions details =>
      if screen.mounted then
        if screen.drawsRoute details then
          some ({ screen with btnTitle := .endTrip }, none, [.pop])
        else some (screen, none, [.pop])
      else some (screen, none, [])
  | .endWrite, .done => some (screen, some .endNotification, [])
  | .endNotification, .done =>
      if screen.mounted then some (endTheTrip { screen with btnTitle := .endTrip })
      else some (screen, none, [])
  | .endDirections, .directions details =>
      if screen.mounted then some (screen.finishTrip rideType details)
      else some (screen, none, [])
  | _, _ => none

def advanceTap (taps : List Tap) (copy : Nat) (label : ButtonLabel) :
    Option TapPoint → List Tap
  | some point => taps.set copy ⟨label, point⟩
  | none => taps.eraseIdx copy

def updateRideDetails (screen : NewRequestScreen RequestId) :
    NewRequestScreen RequestId × List ScreenAction :=
  if screen.isRequestingDirection then (screen, [])
  else
    match screen.myPosition with
    | none => ({ screen with isRequestingDirection := true }, [])
    | some position =>
        ({ screen with isRequestingDirection := true, rideDetails := screen.rideDetails + 1 },
          [.directions position
            (if screen.status = .accepted then screen.clientDetails.pickup
              else screen.clientDetails.dropoff)])

/-- The listener of the position stream. The icon and `setState` throw before
anything is requested or written. -/
def onPosition (screen : NewRequestScreen RequestId) (position : LatLng) :
    NewRequestScreen RequestId × List ScreenAction :=
  let moved := { screen with myPosition := some position }
  if screen.animatingMarkerIcon && screen.mounted then
    let (requested, actions) := moved.updateRideDetails
    (requested, actions ++ [.write (.driverLocation (some position))])
  else (moved, [])

/-- `updateRideDetails` after its await: an error leaves the guard set. -/
def finishRideDetails (screen : NewRequestScreen RequestId) : Reply →
    Option (NewRequestScreen RequestId)
  | .directions none =>
      some { screen with rideDetails := screen.rideDetails - 1, isRequestingDirection := false }
  | .directions (some details) =>
      match details.durationText, screen.mounted with
      | some durationText, true =>
          some { screen with
            rideDetails := screen.rideDetails - 1
            durationRide := durationText
            isRequestingDirection := false }
      | _, _ => some { screen with rideDetails := screen.rideDetails - 1 }
  | .error => some { screen with rideDetails := screen.rideDetails - 1 }
  | _ => none

/-- `onMapCreated` up to its await. The completer throws on a second controller. -/
def onMapCreated (screen : NewRequestScreen RequestId) (currentPosition : Option LatLng) :
    NewRequestScreen RequestId × List ScreenAction :=
  if screen.newRideGoogleMapController then (screen, [])
  else
    let created := { screen with newRideGoogleMapController := true }
    match currentPosition, screen.mounted with
    | some current, true =>
        ({ created with mapDirections := true },
          getPlaceDirection current screen.clientDetails.pickup)
    | _, _ => (created, [])

/-- `onMapCreated` after its await: only a drawn route starts the live updates. -/
def finishMapCreated (screen : NewRequestScreen RequestId) : Reply →
    Option (NewRequestScreen RequestId × List ScreenAction)
  | .directions details =>
      if screen.mounted then
        some ({ screen with mapDirections := false, liveLocation := screen.drawsRoute details },
          [.pop])
      else some ({ screen with mapDirections := false }, [])
  | .error => some ({ screen with mapDirections := false }, [])
  | _ => none

def step (rideType : String) (screen : NewRequestScreen RequestId) :
    ScreenEvent → Option (NewRequestScreen RequestId × List ScreenAction)
  | .tap =>
      if screen.mounted then
        some ({ screen with taps := screen.taps ++ [⟨screen.btnTitle, .clientId⟩] }, [])
      else none
  | .reply copy reply =>
      match screen.taps[copy]? with
      | none => none
      | some tap =>
          match screen.resume rideType tap.label tap.point reply with
          | none => none
          | some (resumed, next, actions) =>
              some ({ resumed with taps := advanceTap screen.taps copy tap.label next }, actions)
  | .position position =>
      if screen.liveLocation then some (screen.onPosition position) else none
  | .mapCreated currentPosition => some (screen.onMapCreated currentPosition)
  | .mapReply reply => if screen.mapDirections then screen.finishMapCreated reply else none
  | .rideDetailsReply reply =>
      if 0 < screen.rideDetails then (screen.finishRideDetails reply).map fun next => (next, [])
      else none
  | .iconLoaded => some ({ screen with animatingMarkerIcon := true }, [])
  | .statusValue value =>
      if screen.rideStreamSubscription then
        if value = some .cancelled then
          some (screen, [.pop, .showSnackBar "User has cancelled the ride."])
        else some (screen, [])
      else none
  | .unmount => some ({ screen with mounted := false }, [])

def component : Component (NewRequestScreen RequestId) (String × ScreenEvent) ScreenAction :=
  fun screen event => screen.step event.1 event.2

end NewRequestScreen

/-! ## One ride -/

def sampleDetails : ClientDetails String :=
  { rideRequestId := "request-1", pickup := ⟨5, 0⟩, dropoff := ⟨6, 0⟩ }

def sampleDirections : DirectionDetails :=
  { distanceValue := some 12000, durationValue := some 1500, durationText := some "25 mins",
    encodedPoints := some "points" }

def rideToEndTrip : List ScreenEvent :=
  [.mapCreated (some ⟨5, 1⟩), .mapReply (.directions (some sampleDirections)), .iconLoaded,
    .position ⟨5, 1⟩, .rideDetailsReply (.directions (some sampleDirections)),
    .tap, .reply 0 (.value (some "client")), .reply 0 (.value (some "token")), .reply 0 .done,
    .reply 0 (.directions (some sampleDirections)), .reply 0 .done,
    .tap, .reply 0 (.value (some "client")), .reply 0 (.value (some "token")), .reply 0 .done,
    .tap, .reply 0 (.value (some "client")), .reply 0 (.value (some "token")), .reply 0 .done,
    .reply 0 .done,
    .tap, .reply 0 (.value (some "client")), .reply 0 (.value (some "token")), .reply 0 .done,
    .reply 0 (.directions (some sampleDirections))]

def endTripTap (details : DirectionDetails) : List ScreenEvent :=
  [.tap, .reply 0 (.value (some "client")), .reply 0 (.value (some "token")), .reply 0 .done,
    .reply 0 .done, .reply 0 (.directions (some details))]

def asRideType (rideType : String) (events : List ScreenEvent) :
    List (String × ScreenEvent) :=
  events.map fun event => (rideType, event)

end FilldRider
