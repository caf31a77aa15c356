import FilldRider.Models.Rider
import FilldRider.Runs.Component

/-!
# The trip history

`retrieveHistoryInfo` and `obtainTripRequestsHistoryData` of the home tabs, and the
state of `AppData` they fill. Every home tab that is built starts its own reads; a read
that completes after its tab is gone throws at `Provider.of` and changes nothing.
-/

set_option autoImplicit false

namespace FilldRider

open Runs

structure History where
  paymentMethod : Option String
  createdAt : Option String
  status : Option String
  fares : Option String
  dropOff : Option String
  pickup : Option String
  deriving DecidableEq

/-- The part of `GasRequests/<id>` that the history reads. -/
structure StoredTrip where
  driverName : Option String := none
  paymentMethod : Option Scalar := none
  createdAt : Option Scalar := none
  status : Option Scalar := none
  fares : Option Scalar := none
  dropoffAddress : Option Scalar := none
  pickupAddress : Option Scalar := none
  deriving DecidableEq

/-- `none` where a field is not a text and the assignment throws. -/
def History.fromSnapshot (trip : StoredTrip) : Option History := do
  let paymentMethod ← castNullable trip.paymentMethod
  let createdAt ← castNullable trip.createdAt
  let status ← castNullable trip.status
  let fares ← castNullable trip.fares
  let dropOff ← castNullable trip.dropoffAddress
  let pickup ← castNullable trip.pickupAddress
  some { paymentMethod, createdAt, status, fares, dropOff, pickup }

/-- An entry of `tripHistoryDataList`, with the key it was read from. -/
structure TripEntry where
  key : String
  history : History
  deriving DecidableEq

structure AppData where
  earnings : String := "0"
  countTrips : Nat := 0
  tripHistoryKeys : List String := []
  tripHistoryDataList : List TripEntry := []
  deriving DecidableEq

namespace AppData

def updateEarnings (data : AppData) (updatedEarnings : String) : AppData :=
  { data with earnings := updatedEarnings }

def updateTripsCounter (data : AppData) (tripCounter : Nat) : AppData :=
  { data with countTrips := tripCounter }

def updateTripKeys (data : AppData) (newKeys : List String) : AppData :=
  { data with tripHistoryKeys := newKeys }

def updateTripHistoryData (data : AppData) (eachHistory : TripEntry) : AppData :=
  { data with tripHistoryDataList := data.tripHistoryDataList ++ [eachHistory] }

end AppData

structure StoredRider where
  firstName : Option Scalar := none
  earnings : Option Scalar := none
  deriving DecidableEq

/-- The requests in the order of their keys, and the riders' records. -/
structure TripDatabase where
  requests : List (String × StoredTrip)
  riders : String → StoredRider
  distinct : (requests.map Prod.fst).Nodup

def TripDatabase.trip? (database : TripDatabase) (key : String) : Option StoredTrip :=
  (database.requests.find? fun request => request.1 = key).map Prod.snd

/-- `orderByChild("driver_name").equalTo(firstName)`: the keys of the answer. -/
def keysByDriverName (names : List (String × Option String)) (firstName : String) :
    List String :=
  (names.filter fun name => name.2 = some firstName).map Prod.fst

def TripDatabase.keysOf (database : TripDatabase) (firstName : String) : List String :=
  keysByDriverName (database.requests.map fun request => (request.1, request.2.driverName))
    firstName

theorem mem_keysByDriverName {names : List (String × Option String)} {firstName key : String} :
    key ∈ keysByDriverName names firstName ↔ (key, some firstName) ∈ names := by
  simp only [keysByDriverName, List.mem_map, List.mem_filter, decide_eq_true_eq]
  constructor
  · intro found
    obtain ⟨⟨_, _⟩, ⟨member, rfl⟩, rfl⟩ := found
    exact member
  · intro member
    exact ⟨_, ⟨member, rfl⟩, rfl⟩

theorem TripDatabase.keysOf_nodup (database : TripDatabase) (firstName : String) :
    (database.keysOf firstName).Nodup := by
  have distinct := database.distinct
  rw [keysOf, keysByDriverName]
  refine List.Nodup.sublist (List.Sublist.map Prod.fst List.filter_sublist) ?_
  rwa [List.map_map]

/-- One home tab and the reads it waits for. -/
structure HistoryTab where
  uid : String
  mounted : Bool := true
  earnings : Bool := true
  firstName : Bool := true
  query : Option String := none
  rideType : Bool := true
  trips : List String := []
  deriving DecidableEq

/-- The providers and globals that outlive a home tab, with all tabs built so far. -/
structure Trips where
  data : AppData := {}
  isDriverAvailable : Bool := false
  rideType : String := ""
  tabs : List HistoryTab := []
  database : TripDatabase

inductive TripsEvent where
  | mounted (uid : String)
  | unmounted (tab : Nat)
  | earningsRead (tab : Nat)
  | firstNameRead (tab : Nat)
  | queried (tab : Nat)
  | tripRead (tab : Nat) (key : String)
  | rideTypeRead (tab : Nat)
  | driverStatus (availability : Bool)
  | changed (database : TripDatabase)

namespace Trips

def setTab (trips : Trips) (index : Nat) (tab : HistoryTab) : Trips :=
  { trips with tabs := trips.tabs.set index tab }

/-- An update of `AppData` by a tab, which throws once the tab is gone. -/
def provide (trips : Trips) (tab : HistoryTab) (update : AppData → AppData) : Trips :=
  { trips with data := if tab.mounted then update trips.data else trips.data }

theorem provide_of_mounted (trips : Trips) {tab : HistoryTab} (update : AppData → AppData)
    (mounted : tab.mounted = true) :
    trips.provide tab update = { trips with data := update trips.data } := by
  rw [provide, if_pos mounted]

theorem provide_of_gone (trips : Trips) {tab : HistoryTab} (update : AppData → AppData)
    (gone : tab.mounted = false) : trips.provide tab update = trips := by
  rw [provide, gone]
  rfl

/-- `obtainTripRequestsHistoryData`: a read for every key listed now. -/
def obtainTripRequestsHistoryData (trips : Trips) (tab : HistoryTab) : HistoryTab :=
  { tab with trips := tab.trips ++ trips.data.tripHistoryKeys }

def handleEarnings (trips : Trips) (index : Nat) (tab : HistoryTab) : Trips :=
  let read := trips.setTab index { tab with earnings := false }
  match (trips.database.riders tab.uid).earnings with
  | none => read
  | some earnings => read.provide tab fun data => data.updateEarnings (printed (some earnings))

/-- Goes on without the tab's context, so also when the tab is gone. -/
def handleFirstName (trips : Trips) (index : Nat) (tab : HistoryTab) : Trips :=
  trips.setTab index
    { tab with
      firstName := false
      query := ((castNullable (trips.database.riders tab.uid).firstName).getD none) }

def handleQuery (trips : Trips) (index : Nat) (tab : HistoryTab) (firstName : String) : Trips :=
  let keys := trips.database.keysOf firstName
  let answered := { tab with query := none }
  if keys = [] ∨ tab.mounted = false then trips.setTab index answered
  else
    let listed := trips.provide tab fun data =>
      (data.updateTripsCounter keys.length).updateTripKeys keys
    listed.setTab index (listed.obtainTripRequestsHistoryData answered)

def handleTrip (trips : Trips) (index : Nat) (tab : HistoryTab) (key : String) : Trips :=
  let read := trips.setTab index { tab with trips := tab.trips.erase key }
  match (trips.database.trip? key).bind History.fromSnapshot with
  | none => read
  | some history => read.provide tab fun data => data.updateTripHistoryData ⟨key, history⟩

/-- `getRideType` keeps the text of the event, not of its snapshot; once the tab is gone
`setState` throws before its callback. -/
def handleRideType (trips : Trips) (index : Nat) (tab : HistoryTab) : Trips :=
  let read := trips.setTab index { tab with rideType := false }
  { read with rideType := if tab.mounted then DatabaseEvent.toString ⟨none⟩ else trips.rideType }

/-- A tab that is built first reads the trips listed so far. -/
def step (trips : Trips) : TripsEvent → Option (Trips × List Empty)
  | .mounted uid =>
      some ({ trips with
        tabs := trips.tabs ++ [trips.obtainTripRequestsHistoryData { uid := uid }] }, [])
  | .unmounted index =>
      match trips.tabs[index]? with
      | none => none
      | some tab =>
          if tab.mounted then some (trips.setTab index { tab with mounted := false }, [])
          else none
  | .earningsRead index =>
      match trips.tabs[index]? with
      | none => none
      | some tab => if tab.earnings then some (trips.handleEarnings index tab, []) else none
  | .firstNameRead index =>
      match trips.tabs[index]? with
      | none => none
      | some tab => if tab.firstName then some (trips.handleFirstName index tab, []) else none
  | .queried index =>
      match trips.tabs[index]? with
      | none => none
      | some tab => tab.query.map fun firstName => (trips.handleQuery index tab firstName, [])
  | .tripRead index key =>
      match trips.tabs[index]? with
      | none => none
      | some tab =>
          if key ∈ tab.trips then some (trips.handleTrip index tab key, []) else none
  | .rideTypeRead index =>
      match trips.tabs[index]? with
      | none => none
      | some tab => if tab.rideType then some (trips.handleRideType index tab, []) else none
  | .driverStatus availability => some ({ trips with isDriverAvailable := availability }, [])
  | .changed database => some ({ trips with database := database }, [])

def component : Component Trips TripsEvent Empty := step

/-- What a reply does, with the tab it is for. -/
inductive Replied (trips : Trips) : TripsEvent → Nat → HistoryTab → Trips → Prop where
  | earnings {index : Nat} {tab : HistoryTab} (pending : tab.earnings = true) :
      Replied trips (.earningsRead index) index tab (trips.handleEarnings index tab)
  | firstName {index : Nat} {tab : HistoryTab} (pending : tab.firstName = true) :
      Replied trips (.firstNameRead index) index tab (trips.handleFirstName index tab)
  | query {index : Nat} {tab : HistoryTab} {firstName : String}
      (pending : tab.query = some firstName) :
      Replied trips (.queried index) index tab (trips.handleQuery index tab firstName)
  | trip {index : Nat} {tab : HistoryTab} {key : String} (pending : key ∈ tab.trips) :
      Replied trips (.tripRead index key) index tab (trips.handleTrip index tab key)
  | rideType {index : Nat} {tab : HistoryTab} (pending : tab.rideType = true) :
      Replied trips (.rideTypeRead index) index tab (trips.handleRideType index tab)

end Trips

def TripsEvent.IsReply : TripsEvent → Prop
  | .earningsRead _ | .firstNameRead _ | .queried _ | .tripRead _ _ | .rideTypeRead _ => True
  | .mounted _ | .unmounted _ | .driverStatus _ | .changed _ => False

instance TripsEvent.decidableIsReply : ∀ event : TripsEvent, Decidable event.IsReply
  | .earningsRead _ | .firstNameRead _ | .queried _ | .tripRead _ _ | .rideTypeRead _ =>
      isTrue trivial
  | .mounted _ | .unmounted _ | .driverStatus _ | .changed _ => isFalse id

theorem Trips.reply_cases {trips after : Trips} {event : TripsEvent} {emitted : List Empty}
    (reply : event.IsReply) (stepped : trips.step event = some (after, emitted)) :
    ∃ index tab, trips.tabs[index]? = some tab ∧ Trips.Replied trips event index tab after := by
  cases event with
  | mounted uid => exact reply.elim
  | unmounted index => exact reply.elim
  | driverStatus availability => exact reply.elim
  | changed database => exact reply.elim
  | earningsRead index =>
      simp only [Trips.step] at stepped
      split at stepped
      · cases stepped
      · next tab found =>
        split at stepped <;> cases stepped
        next pending => exact ⟨index, tab, found, .earnings pending⟩
  | firstNameRead index =>
      simp only [Trips.step] at stepped
      split at stepped
      · cases stepped
      · next tab found =>
        split at stepped <;> cases stepped
        next pending => exact ⟨index, tab, found, .firstName pending⟩
  | queried index =>
      simp only [Trips.step] at stepped
      split at stepped
      · cases stepped
      · next tab found =>
        obtain ⟨firstName, pending, same⟩ := Option.map_eq_some_iff.mp stepped
        cases same
        exact ⟨index, tab, found, .query pending⟩
  | tripRead index key =>
      simp only [Trips.step] at stepped
      split at stepped
      · cases stepped
      · next tab found =>
        split at stepped <;> cases stepped
        next pending => exact ⟨index, tab, found, .trip pending⟩
  | rideTypeRead index =>
      simp only [Trips.step] at stepped
      split at stepped
      · cases stepped
      · next tab found =>
        split at stepped <;> cases stepped
        next pending => exact ⟨index, tab, found, .rideType pending⟩

/-! ## Two riders and three trips -/

def sampleTrips : TripDatabase where
  requests :=
    [("trip-1", { driverName := some "Ama", fares := some (.text "40") }),
      ("trip-2", { driverName := some "Efua" }),
      ("trip-3", { driverName := some "Ama", status := some (.text "ended") })]
  riders := fun uid =>
    if uid = "rider-1" then { firstName := some (.text "Ama"), earnings := some (.number "55.5") }
    else { firstName := some (.text "Efua") }
  distinct := by decide

end FilldRider
