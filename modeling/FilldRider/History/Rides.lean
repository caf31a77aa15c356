import FilldRider.History.Attribution
import FilldRider.NewRequestScreen.Ending

/-!
# A ride in the history

What a ride leaves in its request, and what the history later reads there: the writes
keep the request readable, and the rider finds the ride under the first name of the
profile it was accepted with.
-/

set_option autoImplicit false

namespace FilldRider

open Runs Records

variable {RequestId : Type}

def ScreenAction.write? : ScreenAction → Option RequestWrite
  | .write issued => some issued
  | _ => none

def RequestWrite.status? : RequestWrite → Option Stage
  | .status stage => some stage
  | _ => none

def RequestWrite.fares? : RequestWrite → Option Int
  | .fares amount => some amount
  | _ => none

/-- The writes of a ride in the order issued, those of its acceptance first. -/
def rideWrites (uid : String) (riderInfo : Option RideR) (currentPosition : Option LatLng)
    (actions : List ScreenAction) : List RequestWrite :=
  acceptRideRequest uid riderInfo currentPosition ++ actions.filterMap ScreenAction.write?

def lastStatus (writes : List RequestWrite) : Option Stage :=
  (writes.filterMap RequestWrite.status?).getLast?

def lastFares (writes : List RequestWrite) : Option Int :=
  (writes.filterMap RequestWrite.fares?).getLast?

theorem lastStatus_concat (writes : List RequestWrite) (write : RequestWrite) :
    lastStatus (writes ++ [write]) = write.status?.or (lastStatus writes) := by
  rw [lastStatus, List.filterMap_append]
  cases write <;> simp [RequestWrite.status?, lastStatus]

theorem lastFares_concat (writes : List RequestWrite) (write : RequestWrite) :
    lastFares (writes ++ [write]) = write.fares?.or (lastFares writes) := by
  rw [lastFares, List.filterMap_append]
  cases write <;> simp [RequestWrite.fares?, lastFares]

/-- What the history shows of a request once these writes are stored. -/
def History.after (history : History) (writes : List RequestWrite) : History :=
  { history with
    status := ((lastStatus writes).map Stage.text).or history.status
    fares := ((lastFares writes).map toString).or history.fares }

theorem fromSnapshot_eq_some {trip : StoredTrip} {history : History} :
    History.fromSnapshot trip = some history ↔
      castNullable trip.paymentMethod = some history.paymentMethod ∧
      castNullable trip.createdAt = some history.createdAt ∧
      castNullable trip.status = some history.status ∧
      castNullable trip.fares = some history.fares ∧
      castNullable trip.dropoffAddress = some history.dropOff ∧
      castNullable trip.pickupAddress = some history.pickup := by
  cases history
  simp only [History.fromSnapshot, Option.bind_eq_bind, Option.bind_eq_some_iff,
    Option.some.injEq, History.mk.injEq]
  constructor
  · rintro ⟨_, payment, _, created, _, status, _, fares, _, dropOff, _, pickup, same⟩
    obtain ⟨rfl, rfl, rfl, rfl, rfl, rfl⟩ := same
    exact ⟨payment, created, status, fares, dropOff, pickup⟩
  · rintro ⟨payment, created, status, fares, dropOff, pickup⟩
    exact ⟨_, payment, _, created, _, status, _, fares, _, dropOff, _, pickup,
      rfl, rfl, rfl, rfl, rfl, rfl⟩

theorem fromSnapshot_apply {trip : StoredTrip} {history : History}
    (readable : History.fromSnapshot trip = some history) (write : RequestWrite) :
    History.fromSnapshot (trip.apply write) = some { history with
      status := (write.status?.map Stage.text).or history.status
      fares := (write.fares?.map toString).or history.fares } := by
  obtain ⟨payment, created, status, fares, dropOff, pickup⟩ := fromSnapshot_eq_some.mp readable
  apply fromSnapshot_eq_some.mpr
  cases write with
  | status stage => exact ⟨payment, created, rfl, fares, dropOff, pickup⟩
  | fares amount => exact ⟨payment, created, status, rfl, dropOff, pickup⟩
  | driverName | driverPhone | driverId | carDetails | profilepicture | driverLocation =>
      exact ⟨payment, created, status, fares, dropOff, pickup⟩

/-- The writes of the rider app keep a request readable. -/
theorem fromSnapshot_writes {trip : StoredTrip} {history : History}
    (readable : History.fromSnapshot trip = some history) (writes : List RequestWrite) :
    History.fromSnapshot (writes.foldl StoredTrip.apply trip) = some (history.after writes) := by
  induction writes using List.reverseRecOn with
  | nil => exact readable
  | append_singleton writes write ih =>
      rw [List.foldl_concat, fromSnapshot_apply ih]
      simp only [History.after, lastStatus_concat, lastFares_concat, Option.map_or, Option.or_assoc]

/-! ## What a ride leaves -/

theorem driverName_writes {writes : List RequestWrite}
    (unnamed : ∀ value, .driverName value ∉ writes) (trip : StoredTrip) :
    (writes.foldl StoredTrip.apply trip).driverName = trip.driverName := by
  induction writes generalizing trip with
  | nil => rfl
  | cons write rest ih =>
      rw [List.foldl_cons, ih fun value member => unnamed value (List.mem_cons_of_mem _ member)]
      cases write with
      | driverName value => exact absurd (List.mem_cons_self ..) (unnamed value)
      | _ => rfl

section Run

variable {details : ClientDetails RequestId} {screen : NewRequestScreen RequestId}
  {events : List (String × ScreenEvent)} {actions : List ScreenAction}

/-- Where a ride is ended, its fare is written. -/
theorem fares_of_ended
    (run : exec NewRequestScreen.component { clientDetails := details } events =
      some (screen, actions))
    (ended : .write (.status .ended) ∈ actions) : ∃ amount, .write (.fares amount) ∈ actions := by
  have law : .write (.status .ended) ∈ [] ++ actions →
      ∃ amount, .write (.fares amount) ∈ [] ++ actions := by
    apply exec_invariant (fun (history : List ScreenAction) (_ : NewRequestScreen RequestId) =>
      .write (.status .ended) ∈ history → ∃ amount, .write (.fares amount) ∈ history) _ _ run
    · intro history before event next emitted law stepped ended
      rcases List.mem_append.mp ended with old | new
      · obtain ⟨amount, written⟩ := law old
        exact ⟨amount, List.mem_append_left _ written⟩
      · obtain ⟨_, _, amount, written⟩ := NewRequestScreen.finishes_of_ended stepped new
        exact ⟨amount, List.mem_append_right _ written⟩
    · simp
  exact law ended

/-- The screen never writes the name again. -/
theorem unnamed_of_run
    (run : exec NewRequestScreen.component { clientDetails := details } events =
      some (screen, actions)) (value : Option String) :
    .driverName value ∉ actions.filterMap ScreenAction.write? := by
  have law : .write (.driverName value) ∉ [] ++ actions := by
    apply exec_invariant (fun (history : List ScreenAction) (_ : NewRequestScreen RequestId) =>
      .write (.driverName value) ∉ history) _ _ run
    · rintro history before ⟨rideType, event⟩ next emitted law stepped named
      rcases List.mem_append.mp named with old | new
      · exact law old
      · cases (NewRequestScreen.step_moves stepped).screenWrite new
    · simp
  intro member
  obtain ⟨action, inside, issued⟩ := List.mem_filterMap.mp member
  cases action with
  | write write =>
      cases issued
      exact law inside
  | _ => cases issued

end Run

/-! ## What the history shows of it -/

def TripDatabase.ride (database : TripDatabase) (rideRequestId : String)
    (writes : List RequestWrite) : TripDatabase where
  requests := upsert {} rideRequestId (fun trip => writes.foldl StoredTrip.apply trip)
    database.requests
  riders := database.riders
  distinct := nodup_keys_upsert database.distinct

theorem TripDatabase.key_of_shown {database : TripDatabase} {key : String} {entry : TripEntry}
    (present : database.entry? key = some entry) : entry.key = key := by
  obtain ⟨history, _, rfl⟩ := Option.map_eq_some_iff.mp present
  rfl

/-- The entries of a key that is listed once. -/
theorem TripDatabase.entries_filter {database : TripDatabase} {keys : List String}
    {key : String} {entry : TripEntry} (distinct : keys.Nodup) (listed : key ∈ keys)
    (present : database.entry? key = some entry) :
    (database.entries keys).filter (fun entry => entry.key = key) = [entry] := by
  have same : (database.entries keys).filter (fun entry => entry.key = key) =
      (keys.filter fun listed => listed = key).filterMap database.entry? := by
    rw [entries, List.filter_filterMap, List.filterMap_filter]
    apply List.filterMap_congr
    intro other _
    cases shown : database.entry? other with
    | none => simp
    | some entry => simp [key_of_shown shown, Option.filter_some]
  rw [same, List.filter_eq, List.count_eq_one_of_mem distinct listed]
  simp [present]

/-- A ride that is stored is shown once to a rider whose record has the name it was
accepted with: with the status written last, and with a fare once it is ended. -/
theorem shown_after_ride {database : TripDatabase} {details : ClientDetails String}
    {trip : StoredTrip} {history : History} {uid name : String} {riderInfo : Option RideR}
    (currentPosition : Option LatLng) {events : List (String × ScreenEvent)}
    {screen : NewRequestScreen String} {actions : List ScreenAction} {replies : List TripsEvent}
    {trips : Trips} {emitted : List Empty}
    (stored : database.trip? details.rideRequestId = some trip)
    (readable : History.fromSnapshot trip = some history)
    (profile : riderInfo.bind (·.firstname) = some name)
    (record : castString (database.riders uid).firstName = some name)
    (ride : exec NewRequestScreen.component { clientDetails := details } events =
      some (screen, actions))
    (load : exec Trips.component
      { database := database.ride details.rideRequestId
          (rideWrites uid riderInfo currentPosition actions) } (.mounted uid :: replies) =
        some (trips, emitted))
    (answered : ∀ event ∈ replies, event.IsReply) (finished : trips.Finished) :
    trips.data.tripHistoryDataList.filter (fun entry => entry.key = details.rideRequestId) =
        [⟨details.rideRequestId,
          history.after (rideWrites uid riderInfo currentPosition actions)⟩] ∧
      (.write (.status .ended) ∈ actions →
        (history.after (rideWrites uid riderInfo currentPosition actions)).fares ≠ none) := by
  set writes := rideWrites uid riderInfo currentPosition actions with writes_eq
  set after := database.ride details.rideRequestId writes with after_eq
  have trips? : after.trip? details.rideRequestId =
      some (writes.foldl StoredTrip.apply trip) := by
    have updated : after.trip? details.rideRequestId = _ := lookup_upsert details.rideRequestId
    have before : lookup database.requests details.rideRequestId = some trip := stored
    rwa [if_pos rfl, before] at updated
  have entry : after.entry? details.rideRequestId =
      some ⟨details.rideRequestId, history.after writes⟩ := by
    rw [TripDatabase.entry?, trips?, Option.bind_some, fromSnapshot_writes readable]
    rfl
  have named : after.driverName? details.rideRequestId = some name := by
    rw [TripDatabase.driverName?, trips?, Option.bind_some, writes_eq, rideWrites,
      List.foldl_append, driverName_writes (unnamed_of_run ride)]
    exact profile
  have found : details.rideRequestId ∈ after.found uid :=
    TripDatabase.mem_found.mpr ⟨name, record, named⟩
  refine ⟨?_, ?_⟩
  · have loaded := loaded_of_finished (by simp [Trips.Vacant]) answered load finished
    have listed := loaded.tripHistoryDataList.filter fun entry => entry.key = details.rideRequestId
    have distinct : (after.found uid).Nodup := by
      have sameRecord : castString (after.riders uid).firstName = some name := record
      rw [TripDatabase.found, sameRecord]
      exact TripDatabase.keysOf_nodup after name
    rw [List.filter_append, List.filter_append,
      TripDatabase.entries_filter distinct found entry] at listed
    exact List.perm_singleton.mp listed
  · intro ended
    obtain ⟨amount, written⟩ := fares_of_ended ride ended
    have fares : amount ∈ writes.filterMap RequestWrite.fares? := by
      rw [writes_eq, rideWrites, List.filterMap_append, List.mem_append, List.filterMap_filterMap]
      exact .inr (List.mem_filterMap.mpr ⟨_, written, rfl⟩)
    have last : lastFares writes ≠ none := by
      rw [lastFares, ne_eq, List.getLast?_eq_none_iff]
      exact List.ne_nil_of_mem fares
    obtain ⟨shown, charged⟩ := Option.ne_none_iff_exists'.mp last
    simp [History.after, charged]

/-- One request, of a customer who pays cash. -/
def cashRequest : TripDatabase where
  requests :=
    [("request-1",
      { paymentMethod := some (.text "Cash")
        createdAt := some (.text "2024-05-01 10:00:00")
        pickupAddress := some (.text "Osu") })]
  riders := fun _ => { firstName := some (.text "Ama") }
  distinct := by decide

def loadRequest : List TripsEvent :=
  [.earningsRead 0, .firstNameRead 0, .queried 0, .tripRead 0 "request-1", .rideTypeRead 0]

theorem shown_after_sampleRide :
    ∃ screen actions trips emitted,
      exec NewRequestScreen.component { clientDetails := sampleDetails }
        (asRideType "Rev-x" (rideToEndTrip ++ endTripTap sampleDirections)) =
          some (screen, actions) ∧
      exec Trips.component
        { database := cashRequest.ride "request-1"
            (rideWrites "rider-1" (some { firstname := some "Ama" }) none actions) }
        (.mounted "rider-1" :: loadRequest) = some (trips, emitted) ∧
      .write (.status .ended) ∈ actions ∧
      trips.data.tripHistoryDataList.filter (fun entry => entry.key = "request-1") =
        [⟨"request-1", History.after ⟨some "Cash", some "2024-05-01 10:00:00", none, none, none,
          some "Osu"⟩ (rideWrites "rider-1" (some { firstname := some "Ama" }) none actions)⟩] := by
  have ends : ((exec NewRequestScreen.component { clientDetails := sampleDetails }
      (asRideType "Rev-x" (rideToEndTrip ++ endTripTap sampleDirections))).map fun result =>
        (decide (.write (.status .ended) ∈ result.2),
          (exec Trips.component
            { database := cashRequest.ride "request-1"
                (rideWrites "rider-1" (some { firstname := some "Ama" }) none result.2) }
            (.mounted "rider-1" :: loadRequest)).map fun loaded => decide loaded.1.Finished)) =
      some (true, some true) := by
    decide +kernel
  obtain ⟨⟨screen, actions⟩, run, reached⟩ := Option.map_eq_some_iff.mp ends
  simp only [Prod.mk.injEq, decide_eq_true_eq] at reached
  obtain ⟨ended, loads⟩ := reached
  obtain ⟨⟨trips, emitted⟩, load, finished⟩ := Option.map_eq_some_iff.mp loads
  have shown := (shown_after_ride none rfl rfl rfl rfl run load (by decide)
    (of_decide_eq_true finished)).1
  exact ⟨screen, actions, trips, emitted, run, load, ended, shown⟩

end FilldRider
