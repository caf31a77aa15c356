import FilldRider.History.Load
import FilldRider.Records.Basic
import Mathlib.Data.List.Induction

/-!
# Whose trips are found

`acceptRideRequest` records the first name of the profile that is loaded, and the key of
`Riderskey`; the history asks for the first name in the rider's record.
-/

set_option autoImplicit false

namespace FilldRider

open Runs Records

def Stage.text : Stage → String
  | .accepted => "accepted"
  | .arrived => "arrived"
  | .returning => "returning"
  | .arrivedAtGasStation => "arrived_at_gas_station"
  | .completed => "completed"
  | .ended => "ended"

/-- A write of the rider app, on the part that the history reads. -/
def StoredTrip.apply (trip : StoredTrip) : RequestWrite → StoredTrip
  | .status stage => { trip with status := some (.text stage.text) }
  | .driverName value => { trip with driverName := value }
  | .fares amount => { trip with fares := some (.text (toString amount)) }
  | .driverPhone _ | .driverId _ | .carDetails _ | .profilepicture _ | .driverLocation _ => trip

/-- One call of `acceptRideRequest`, with what it finds in the providers and globals. -/
structure RideAcceptance where
  uid : String
  riderInfo : Option RideR
  currentPosition : Option LatLng
  rideRequestId : String
  deriving DecidableEq

namespace RideAcceptance

def writes (acceptance : RideAcceptance) : List RequestWrite :=
  acceptRideRequest acceptance.uid acceptance.riderInfo acceptance.currentPosition

/-- The `driver_id` it leaves in the request. -/
def driverId (acceptance : RideAcceptance) : Option String :=
  (acceptance.writes.foldl GasRequest.apply {}).driverId

def firstname (acceptance : RideAcceptance) : Option String :=
  acceptance.riderInfo.bind (·.firstname)

theorem driverId_eq (acceptance : RideAcceptance) : acceptance.driverId = some "status" := rfl

theorem driverName_writes (acceptance : RideAcceptance) (trip : StoredTrip) :
    (acceptance.writes.foldl StoredTrip.apply trip).driverName = acceptance.firstname := rfl

end RideAcceptance

namespace TripDatabase

def accept (database : TripDatabase) (acceptance : RideAcceptance) : TripDatabase where
  requests := upsert {} acceptance.rideRequestId (acceptance.writes.foldl StoredTrip.apply)
    database.requests
  riders := database.riders
  distinct := nodup_keys_upsert database.distinct

def acceptAll (database : TripDatabase) (history : List RideAcceptance) : TripDatabase :=
  history.foldl accept database

theorem acceptAll_concat (database : TripDatabase) (history : List RideAcceptance)
    (acceptance : RideAcceptance) :
    database.acceptAll (history ++ [acceptance]) =
      (database.acceptAll history).accept acceptance :=
  List.foldl_concat ..

theorem riders_acceptAll (database : TripDatabase) (history : List RideAcceptance) :
    (database.acceptAll history).riders = database.riders := by
  induction history using List.reverseRecOn with
  | nil => rfl
  | append_singleton history acceptance ih =>
      rw [acceptAll_concat]
      exact ih

/-- Who a request is recorded for. -/
def driverName? (database : TripDatabase) (rideRequestId : String) : Option String :=
  (database.trip? rideRequestId).bind (·.driverName)

theorem driverName?_eq_none {database : TripDatabase}
    (unaccepted : ∀ request ∈ database.requests, request.2.driverName = none)
    (rideRequestId : String) : database.driverName? rideRequestId = none := by
  rw [driverName?]
  cases found : database.trip? rideRequestId with
  | none => rfl
  | some trip => exact unaccepted _ ((mem_iff_lookup database.distinct).mpr found)

theorem driverName?_accept (database : TripDatabase) (acceptance : RideAcceptance)
    (rideRequestId : String) :
    (database.accept acceptance).driverName? rideRequestId =
      if rideRequestId = acceptance.rideRequestId then acceptance.firstname
      else database.driverName? rideRequestId := by
  have stored : (database.accept acceptance).trip? rideRequestId =
      if rideRequestId = acceptance.rideRequestId then
        some (acceptance.writes.foldl StoredTrip.apply
          ((database.trip? acceptance.rideRequestId).getD {}))
      else database.trip? rideRequestId := lookup_upsert rideRequestId
  rw [driverName?, stored]
  split
  · exact RideAcceptance.driverName_writes acceptance _
  · rfl

/-- A request is found under the name it is recorded for. -/
theorem mem_found {database : TripDatabase} {uid rideRequestId : String} :
    rideRequestId ∈ database.found uid ↔
      ∃ name, castString (database.riders uid).firstName = some name ∧
        database.driverName? rideRequestId = some name := by
  have listed : ∀ name, rideRequestId ∈ database.keysOf name ↔
      database.driverName? rideRequestId = some name := by
    intro name
    rw [keysOf, mem_keysByDriverName, driverName?, Option.bind_eq_some_iff, List.mem_map]
    constructor
    · rintro ⟨⟨key, trip⟩, member, same⟩
      simp only [Prod.mk.injEq] at same
      obtain ⟨rfl, named⟩ := same
      exact ⟨trip, (mem_iff_lookup database.distinct).mp member, named⟩
    · rintro ⟨trip, found, named⟩
      exact ⟨(rideRequestId, trip), (mem_iff_lookup database.distinct).mpr found,
        by rw [named]⟩
  rw [found]
  cases castString (database.riders uid).firstName with
  | none => simp
  | some name => simp [listed]

end TripDatabase

/-- The acceptance that was recorded last for a request. -/
def lastAcceptance (history : List RideAcceptance) (rideRequestId : String) :
    Option RideAcceptance :=
  (history.filter fun acceptance => acceptance.rideRequestId = rideRequestId).getLast?

theorem lastAcceptance_concat (history : List RideAcceptance) (acceptance : RideAcceptance)
    (rideRequestId : String) :
    lastAcceptance (history ++ [acceptance]) rideRequestId =
      if rideRequestId = acceptance.rideRequestId then some acceptance
      else lastAcceptance history rideRequestId := by
  rw [lastAcceptance, List.filter_append]
  by_cases same : rideRequestId = acceptance.rideRequestId
  · simp [same]
  · simp [same, Ne.symm same, lastAcceptance]

theorem mem_of_lastAcceptance {history : List RideAcceptance} {rideRequestId : String}
    {acceptance : RideAcceptance} (last : lastAcceptance history rideRequestId = some acceptance) :
    acceptance ∈ history ∧ acceptance.rideRequestId = rideRequestId := by
  have member := List.mem_filter.mp (List.mem_of_getLast? last)
  exact ⟨member.1, of_decide_eq_true member.2⟩

theorem exists_lastAcceptance {history : List RideAcceptance} {acceptance : RideAcceptance}
    (member : acceptance ∈ history) :
    ∃ last, lastAcceptance history acceptance.rideRequestId = some last := by
  have kept : acceptance ∈ history.filter fun other =>
      other.rideRequestId = acceptance.rideRequestId :=
    List.mem_filter.mpr ⟨member, decide_eq_true rfl⟩
  exact ⟨_, List.getLast?_eq_some_getLast (List.ne_nil_of_mem kept)⟩

/-- A request is recorded for whoever accepted it last, by the name in the profile. -/
theorem driverName?_acceptAll {database : TripDatabase}
    (unaccepted : ∀ request ∈ database.requests, request.2.driverName = none)
    (history : List RideAcceptance) (rideRequestId : String) :
    (database.acceptAll history).driverName? rideRequestId =
      (lastAcceptance history rideRequestId).bind RideAcceptance.firstname := by
  induction history using List.reverseRecOn with
  | nil => exact TripDatabase.driverName?_eq_none unaccepted rideRequestId
  | append_singleton history acceptance ih =>
      rw [TripDatabase.acceptAll_concat, TripDatabase.driverName?_accept, lastAcceptance_concat, ih]
      split <;> rfl

/-! ## A load in a fresh app -/

namespace Trips

/-- `retrieveHistoryInfo` has completed. -/
def Retrieved (trips : Trips) : Prop :=
  ∀ tab ∈ trips.tabs, tab.earnings = false ∧ tab.firstName = false ∧ tab.query = none

instance decidableRetrieved (trips : Trips) : Decidable trips.Retrieved :=
  inferInstanceAs (Decidable (∀ tab ∈ trips.tabs, _))

variable {database : TripDatabase} {uid : String}

theorem tripHistoryKeys_of_retrieved {events : List TripsEvent} {trips : Trips}
    {emitted : List Empty} (replies : ∀ event ∈ events, event.IsReply)
    (run : exec component { database := database } (.mounted uid :: events) =
      some (trips, emitted))
    (retrieved : trips.Retrieved) : trips.data.tripHistoryKeys = database.found uid := by
  have vacant : Trips.Vacant { database := database } := fun _ impossible => nomatch impossible
  obtain ⟨gone, tab, tabs, -, loading⟩ := LoadingLast.run vacant replies run
  obtain ⟨-, firstName, query⟩ := retrieved tab (by rw [tabs]; simp)
  have done : tab.retrieved = true := by
    rw [HistoryTab.retrieved, firstName, query]
    rfl
  have keys := loading.listing.tripHistoryKeys
  rw [done] at keys
  simp only [Bool.true_eq_false, false_or] at keys
  split at keys
  · next nothing => exact keys.trans nothing.symm
  · exact keys

/-- It does complete, whatever is stored. -/
theorem exists_retrieved (database : TripDatabase) (uid : String) :
    ∃ events trips, (∀ event ∈ events, event.IsReply) ∧
      exec component { database := database } (.mounted uid :: events) = some (trips, []) ∧
      trips.Retrieved := by
  set waiting : Trips := { database := database, tabs := [{ uid := uid }] } with waiting_eq
  set shown := waiting.handleEarnings 0 { uid := uid } with shown_eq
  have tabs : shown.tabs = [{ uid := uid, earnings := false }] := by
    rw [shown_eq, handleEarnings_tabs]
    rfl
  set asked := shown.handleFirstName 0 { uid := uid, earnings := false } with asked_eq
  obtain ⟨query, asked_tabs⟩ : ∃ query,
      asked.tabs = [{ uid := uid, earnings := false, firstName := false, query := query }] := by
    rw [asked_eq, handleFirstName, setTab, tabs]
    exact ⟨_, rfl⟩
  have named : exec component { database := database }
      [.mounted uid, .earningsRead 0, .firstNameRead 0] = some (asked, []) := by
    have second : shown.step (.firstNameRead 0) = some (asked, []) := by
      simp only [step, tabs, List.getElem?_cons_zero, if_true]
      rfl
    refine exec_cons_eq_some.mpr ⟨waiting, [], [], rfl, ?_, rfl⟩
    refine exec_cons_eq_some.mpr ⟨shown, [], [], rfl, ?_, rfl⟩
    exact exec_singleton_eq_some.mpr second
  cases query with
  | none =>
      refine ⟨[.earningsRead 0, .firstNameRead 0], asked, by decide, named, ?_⟩
      intro tab member
      rw [asked_tabs, List.mem_singleton] at member
      subst member
      exact ⟨rfl, rfl, rfl⟩
  | some firstName =>
      set answered := asked.handleQuery 0
        { uid := uid, earnings := false, firstName := false, query := some firstName }
        firstName with answered_eq
      obtain ⟨reading, done⟩ : ∃ reading, answered.tabs =
          [{ uid := uid, earnings := false, firstName := false, trips := reading }] := by
        obtain ⟨reading, tabs⟩ := asked.handleQuery_tabs 0
          { uid := uid, earnings := false, firstName := false, query := some firstName } firstName
        refine ⟨reading, ?_⟩
        rw [answered_eq, tabs, asked_tabs]
        rfl
      have third : asked.step (.queried 0) = some (answered, []) := by
        simp only [step, asked_tabs, List.getElem?_cons_zero, Option.map_some]
        rfl
      refine ⟨[.earningsRead 0, .firstNameRead 0, .queried 0], answered, by decide, ?_, ?_⟩
      · exact exec_append_eq_some.mpr
          ⟨asked, [], [], named, exec_singleton_eq_some.mpr third, rfl⟩
      · intro tab member
        rw [done, List.mem_singleton] at member
        subst member
        exact ⟨rfl, rfl, rfl⟩

end Trips

/-- The trips listed for a rider are those the rider accepted, and no two riders leave
the same `driver_id`. -/
structure Attributed (database : TripDatabase) (history : List RideAcceptance) : Prop where
  listed : ∀ (uid : String) (events : List TripsEvent) (trips : Trips) (emitted : List Empty),
    (∀ event ∈ events, event.IsReply) →
    exec Trips.component { database := database.acceptAll history } (.mounted uid :: events) =
      some (trips, emitted) →
    trips.Retrieved → ∀ rideRequestId, rideRequestId ∈ trips.data.tripHistoryKeys ↔
      ∃ acceptance ∈ history, acceptance.uid = uid ∧ acceptance.rideRequestId = rideRequestId
  driverIds : ∀ first ∈ history, ∀ second ∈ history, first.uid ≠ second.uid →
    first.driverId ≠ second.driverId

/-- One rider accepted every request, under the name that this rider's record has and
no other. -/
structure Attributable (database : TripDatabase) (history : List RideAcceptance) : Prop where
  oneRider : ∀ first ∈ history, ∀ second ∈ history, first.uid = second.uid
  named : ∀ rideRequestId, ∀ last ∈ lastAcceptance history rideRequestId, ∀ uid,
    (∃ name, castString (database.riders uid).firstName = some name ∧
      last.firstname = some name) ↔ last.uid = uid

/-- Who the trips are listed for, in terms of the last acceptance of each. -/
theorem listed_iff {database : TripDatabase} {history : List RideAcceptance} {uid : String}
    {events : List TripsEvent} {trips : Trips} {emitted : List Empty}
    (unaccepted : ∀ request ∈ database.requests, request.2.driverName = none)
    (replies : ∀ event ∈ events, event.IsReply)
    (run : exec Trips.component { database := database.acceptAll history }
      (.mounted uid :: events) = some (trips, emitted))
    (retrieved : trips.Retrieved) (rideRequestId : String) :
    rideRequestId ∈ trips.data.tripHistoryKeys ↔
      ∃ last ∈ lastAcceptance history rideRequestId, ∃ name,
        castString (database.riders uid).firstName = some name ∧ last.firstname = some name := by
  rw [Trips.tripHistoryKeys_of_retrieved replies run retrieved, TripDatabase.mem_found,
    TripDatabase.riders_acceptAll, driverName?_acceptAll unaccepted]
  cases lastAcceptance history rideRequestId with
  | none => simp
  | some last => simp

/-- The history is attributed to the right riders only if there is one rider who
accepts, under a name of its own. -/
theorem attributed_iff_attributable {database : TripDatabase} (history : List RideAcceptance)
    (unaccepted : ∀ request ∈ database.requests, request.2.driverName = none) :
    Attributed database history ↔ Attributable database history := by
  constructor
  · intro attributed
    have oneRider : ∀ first ∈ history, ∀ second ∈ history, first.uid = second.uid := by
      intro first firstMember second secondMember
      by_contra different
      exact attributed.driverIds first firstMember second secondMember different
        (first.driverId_eq.trans second.driverId_eq.symm)
    refine ⟨oneRider, ?_⟩
    intro rideRequestId last found uid
    obtain ⟨events, trips, replies, run, retrieved⟩ :=
      Trips.exists_retrieved (database.acceptAll history) uid
    have listed := listed_iff unaccepted replies run retrieved rideRequestId
    rw [attributed.listed uid events trips [] replies run retrieved] at listed
    obtain ⟨member, request⟩ := mem_of_lastAcceptance found
    constructor
    · intro name
      obtain ⟨acceptance, accepted, rider, -⟩ := listed.mpr ⟨last, found, name⟩
      exact (oneRider last member acceptance accepted).trans rider
    · intro rider
      obtain ⟨other, other_found, name⟩ := listed.mp ⟨last, member, rider, request⟩
      cases Option.some.inj (other_found.symm.trans found)
      exact name
  · intro attributable
    constructor
    · intro uid events trips emitted replies run retrieved rideRequestId
      rw [listed_iff unaccepted replies run retrieved]
      constructor
      · rintro ⟨last, found, name⟩
        obtain ⟨member, request⟩ := mem_of_lastAcceptance found
        exact ⟨last, member, (attributable.named rideRequestId last found uid).mp name, request⟩
      · rintro ⟨acceptance, accepted, rfl, rfl⟩
        obtain ⟨last, found⟩ := exists_lastAcceptance accepted
        obtain ⟨member, -⟩ := mem_of_lastAcceptance found
        have same := attributable.oneRider last member acceptance accepted
        exact ⟨last, found, (attributable.named _ last found _).mpr same⟩
    · intro first firstMember second secondMember different
      exact (different (attributable.oneRider first firstMember second secondMember)).elim

def sampleRequests (riders : String → StoredRider) : TripDatabase where
  requests := [("request-1", {}), ("request-2", { paymentMethod := some (.text "cash") })]
  riders := riders
  distinct := by decide

def sampleAcceptance (rideRequestId : String) : RideAcceptance where
  uid := "rider-1"
  riderInfo := some { firstname := some "Ama", phone := some "0200000000" }
  currentPosition := none
  rideRequestId := rideRequestId

theorem attributed_of_one_rider :
    Attributed
      (sampleRequests fun uid =>
        if uid = "rider-1" then { firstName := some (.text "Ama") } else {})
      [sampleAcceptance "request-1", sampleAcceptance "request-2"] := by
  apply (attributed_iff_attributable _ (by decide)).mpr
  refine ⟨by decide, ?_⟩
  intro rideRequestId last found uid
  have own : last.uid = "rider-1" ∧ last.firstname = some "Ama" := by
    have member := (mem_of_lastAcceptance found).1
    simp only [List.mem_cons, List.not_mem_nil, or_false] at member
    rcases member with rfl | rfl <;> exact ⟨rfl, rfl⟩
  rw [own.1, own.2]
  by_cases rider : uid = "rider-1"
  · simp [sampleRequests, rider, castString]
  · simp [sampleRequests, rider, Ne.symm rider, castString]

/-- A second rider of the same first name is shown the trip as well. -/
theorem not_attributed_of_shared_name :
    ¬ ∀ (database : TripDatabase) (history : List RideAcceptance),
      (∀ request ∈ database.requests, request.2.driverName = none) →
      Attributed database history := by
  intro always
  have attributed := always (sampleRequests fun _ => { firstName := some (.text "Ama") })
    [sampleAcceptance "request-1"] (by decide)
  have ends : ((exec Trips.component
      { database := (sampleRequests fun _ => { firstName := some (.text "Ama") }).acceptAll
          [sampleAcceptance "request-1"] }
      [.mounted "rider-2", .earningsRead 0, .firstNameRead 0, .queried 0]).map fun result =>
        (decide result.1.Retrieved, result.1.data.tripHistoryKeys)) =
          some (true, ["request-1"]) := by
    decide +kernel
  obtain ⟨⟨trips, emitted⟩, run, reached⟩ := Option.map_eq_some_iff.mp ends
  simp only [Prod.mk.injEq, decide_eq_true_eq] at reached
  have listed := attributed.listed "rider-2" _ trips emitted (by decide) run reached.1 "request-1"
  rw [reached.2] at listed
  have accepted := listed.mp (List.mem_singleton.mpr rfl)
  exact absurd accepted (by decide)

end FilldRider
