import FilldRider.Documents.Basic
import FilldRider.Runs.Component
import FilldRider.Runs.Loops

/-!
# Guest mode

What the page for visitors without an account loads: the gas stations, by a listener,
and the riders on offer, by a loop with a read for each entry of `availableRider`. Both
read what anyone has stored, so any value may come back, at any time.
-/

set_option autoImplicit false

namespace FilldRider

open Documents Runs

abbrev Fields := List (String × Json)

/-- `_gasStations` keeps the values as they are stored. -/
structure GasStation where
  name : Json
  location : Json
  status : Json
  number : Json

/-- `data[name] ?? default`. -/
def fieldOr (data : Fields) (name default : String) : Json :=
  match data.lookup name with
  | none | some .null => .string default
  | some value => value

def gasStation (entry : String × Json) : Except Thrown (Option GasStation) :=
  match entry.2 with
  | .object data =>
      .ok (some {
        name := fieldOr data "GasStationName" "Unknown"
        location := fieldOr data "Location" ""
        status := fieldOr data "GasStatus" ""
        number := fieldOr data "GasStationNumber" "" })
  | _ => .error .typeError

/-- The list a delivery of `GasStation` makes; `none` where it makes none. -/
def stationsList : Json → Except Thrown (Option (List GasStation))
  | .null => .ok none
  | .object stationsMap => (collect gasStation stationsMap).map some
  | _ => .error .typeError

/-- The `riderId` an entry of the index is followed by; entries without one are skipped. -/
def riderId? (entry : String × Json) : Except Thrown (Option String) :=
  match entry.2 with
  | .object riderInfo =>
      match riderInfo.lookup "riderId" with
      | none => .ok none
      | some riderId => riderId.asString.map some
  | _ => .error .typeError

/-- The record below `Rider/<riderId>`; a rider without one is skipped. A failed read
throws as well. -/
def riderDetails? : Option Json → Except Thrown (Option Fields)
  | none => .error .clientException
  | some .null => .ok none
  | some (.object riderDetails) => .ok (some riderDetails)
  | some _ => .error .typeError

/-- The loop of `_fetchRiderData`. -/
def fetchedRiders : Body (String × Json) String (Option Json) Fields Thrown where
  key := riderId?
  value := riderDetails?

inductive RiderFetch where
  | index
  | loop (loop : Loop (String × Json) String Fields Thrown)
  | ended

structure GuestModeScreen where
  gasStations : List GasStation := []
  riderList : List Fields := []
  isRiderLoading : Bool := true
  riderExists : Bool := false
  mounted : Bool := true
  riderFetch : RiderFetch := .index

/-- A read is answered with a value or fails; what is stored may change before the next. -/
inductive GuestEvent where
  | stations (value : Json)
  | answered (value : Option Json)
  | disposed

inductive GuestAction where
  | indexRead (value : Option Json)
  | riderRead (riderId : String) (value : Option Json)
  | stationsRead (value : Json)

namespace GuestModeScreen

/-- The listener: a delivery that throws, and one after the page is gone, changes nothing. -/
def fetchGasStations (screen : GuestModeScreen) (value : Json) : GuestModeScreen :=
  match stationsList value with
  | .ok (some stations) =>
      if screen.mounted then { screen with gasStations := stations } else screen
  | .ok none | .error _ => screen

/-- The `catch` of `_fetchRiderData`. Once the page is gone `setState` throws before its
callback, in the `try` and here again. -/
def caught (screen : GuestModeScreen) : GuestModeScreen :=
  if screen.mounted then { screen with isRiderLoading := false, riderExists := false } else screen

/-- The `setState` after the loop. -/
def showRiders (screen : GuestModeScreen) (fetched : List Fields) : GuestModeScreen :=
  if screen.mounted then
    { screen with riderList := fetched, isRiderLoading := false, riderExists := !fetched.isEmpty }
  else screen.caught

/-- The state once the loop is at an await or has ended. -/
def resumeLoop (screen : GuestModeScreen) (loop : Loop (String × Json) String Fields Thrown) :
    GuestModeScreen :=
  match loop with
  | .awaiting riderId rest fetched =>
      { screen with riderFetch := .loop (.awaiting riderId rest fetched) }
  | .finished (.ok fetched) =>
      { screen with riderFetch := .loop (.finished (.ok fetched)) }.showRiders fetched
  | .finished (.error thrown) =>
      { screen with riderFetch := .loop (.finished (.error thrown)) }.caught

/-- The first answer: the index, which may be absent, no map or unreadable. -/
def enterIndex (screen : GuestModeScreen) : Option Json → GuestModeScreen
  | some .null =>
      if screen.mounted then
        { screen with riderFetch := .ended, riderExists := false, isRiderLoading := false }
      else { screen with riderFetch := .ended }.caught
  | some (.object availableRiderData) =>
      screen.resumeLoop (fetchedRiders.enter availableRiderData [])
  | some _ | none => { screen with riderFetch := .ended }.caught

def step : Component GuestModeScreen GuestEvent GuestAction
  | screen, .stations value => some (screen.fetchGasStations value, [.stationsRead value])
  | screen, .answered value =>
      match screen.riderFetch with
      | .index => some (screen.enterIndex value, [.indexRead value])
      | .loop (.awaiting riderId rest fetched) =>
          some (screen.resumeLoop (fetchedRiders.resume rest fetched value),
            [.riderRead riderId value])
      | .loop (.finished _) | .ended => none
  | screen, .disposed =>
      if screen.mounted then some ({ screen with mounted := false }, []) else none

def component : Component GuestModeScreen GuestEvent GuestAction := step

end GuestModeScreen

end FilldRider
