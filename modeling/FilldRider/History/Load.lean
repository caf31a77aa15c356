import FilldRider.History.Basic
import Mathlib.Data.List.Perm.Basic

/-!
# One load

What the providers hold after the reads of one home tab, built when no other one is
left. The replies come in any order; only the order of the list depends on it.
-/

set_option autoImplicit false

namespace FilldRider

open Runs

/-- The trips found for a rider, by the first name in the rider's record. -/
def TripDatabase.found (database : TripDatabase) (uid : String) : List String :=
  match castString (database.riders uid).firstName with
  | none => []
  | some firstName => database.keysOf firstName

def TripDatabase.entry? (database : TripDatabase) (key : String) : Option TripEntry :=
  ((database.trip? key).bind History.fromSnapshot).map fun history => ⟨key, history⟩

def TripDatabase.entries (database : TripDatabase) (keys : List String) : List TripEntry :=
  keys.filterMap database.entry?

namespace Trips

/-- No home tab is left. -/
def Vacant (trips : Trips) : Prop := ∀ tab ∈ trips.tabs, tab.mounted = false

instance decidableVacant (trips : Trips) : Decidable trips.Vacant :=
  inferInstanceAs (Decidable (∀ tab ∈ trips.tabs, _))

/-- The tab that is left has made all its reads. -/
def Finished (trips : Trips) : Prop :=
  ∀ tab ∈ trips.tabs, tab.mounted = true → tab.earnings = false ∧ tab.firstName = false ∧
    tab.query = none ∧ tab.trips = [] ∧ tab.rideType = false

instance decidableFinished (trips : Trips) : Decidable trips.Finished :=
  inferInstanceAs (Decidable (∀ tab ∈ trips.tabs, _))

end Trips

def HistoryTab.retrieved (tab : HistoryTab) : Bool := !tab.firstName && tab.query.isNone

def Trips.earningsOf (start : Trips) (uid : String) : String :=
  match (start.database.riders uid).earnings with
  | none => start.data.earnings
  | some earnings => printed (some earnings)

/-- The values shown after the reads of one rider's tab. -/
structure Loaded (start trips : Trips) (uid : String) : Prop where
  earnings : trips.data.earnings = start.earningsOf uid
  countTrips : trips.data.countTrips =
    if start.database.found uid = [] then start.data.countTrips
    else (start.database.found uid).length
  tripHistoryKeys : trips.data.tripHistoryKeys =
    if start.database.found uid = [] then start.data.tripHistoryKeys
    else start.database.found uid
  tripHistoryDataList : trips.data.tripHistoryDataList.Perm
    (start.data.tripHistoryDataList ++ (start.database.entries start.data.tripHistoryKeys ++
      start.database.entries (start.database.found uid)))
  isDriverAvailable : trips.isDriverAvailable = start.isDriverAvailable
  rideType : trips.rideType = DatabaseEvent.toString ⟨none⟩

/-- What is shown of the trips while those in `reading` are pending. -/
structure Listing (start : Trips) (uid : String) (data : AppData) (retrieved : Bool)
    (reading : List String) : Prop where
  countTrips : data.countTrips =
    if retrieved = false ∨ start.database.found uid = [] then start.data.countTrips
    else (start.database.found uid).length
  tripHistoryKeys : data.tripHistoryKeys =
    if retrieved = false ∨ start.database.found uid = [] then start.data.tripHistoryKeys
    else start.database.found uid
  tripHistoryDataList :
    (data.tripHistoryDataList ++ start.database.entries reading).Perm
      (start.data.tripHistoryDataList ++ (start.database.entries start.data.tripHistoryKeys ++
        if retrieved then start.database.entries (start.database.found uid) else []))

structure Loading (start : Trips) (uid : String) (trips : Trips) (tab : HistoryTab) : Prop where
  mounted : tab.mounted = true
  rider : tab.uid = uid
  database : trips.database = start.database
  asked : tab.firstName = true → tab.query = none
  query : ∀ firstName ∈ tab.query,
    castString (start.database.riders uid).firstName = some firstName
  earnings : trips.data.earnings =
    if tab.earnings then start.data.earnings else start.earningsOf uid
  listing : Listing start uid trips.data tab.retrieved tab.trips
  isDriverAvailable : trips.isDriverAvailable = start.isDriverAvailable
  rideType : tab.rideType = false → trips.rideType = DatabaseEvent.toString ⟨none⟩

theorem castNullable_getD (value : Option Scalar) :
    (castNullable value).getD none = castString value := by
  rcases value with _ | (_ | _ | _) <;> rfl

section Listing

variable {start : Trips} {uid : String} {data : AppData} {reading : List String}

theorem Listing.unfound (law : Listing start uid data false reading)
    (nothing : start.database.found uid = []) : Listing start uid data true reading := by
  obtain ⟨count, keys, list⟩ := law
  refine ⟨?_, ?_, ?_⟩
  · simpa [nothing] using count
  · simpa [nothing] using keys
  · simpa [nothing, TripDatabase.entries] using list

theorem Listing.found (law : Listing start uid data false reading)
    (some_trips : start.database.found uid ≠ []) :
    Listing start uid
      ((data.updateTripsCounter (start.database.found uid).length).updateTripKeys
        (start.database.found uid))
      true (reading ++ start.database.found uid) where
  countTrips := by simp [some_trips, AppData.updateTripKeys, AppData.updateTripsCounter]
  tripHistoryKeys := by simp [some_trips, AppData.updateTripKeys]
  tripHistoryDataList := by
    have list := law.tripHistoryDataList
    simp only [Bool.false_eq_true, ↓reduceIte, List.append_nil] at list
    simp only [↓reduceIte, TripDatabase.entries, List.filterMap_append] at list ⊢
    rw [← List.append_assoc, ← List.append_assoc]
    exact list.append_right _

/-- A trip that is read moves to the list if it exists. -/
theorem Listing.read {retrieved : Bool} {key : String}
    (law : Listing start uid data retrieved reading) (pending : key ∈ reading) :
    Listing start uid
      { data with
        tripHistoryDataList := data.tripHistoryDataList ++ (start.database.entry? key).toList }
      retrieved (reading.erase key) where
  countTrips := law.countTrips
  tripHistoryKeys := law.tripHistoryKeys
  tripHistoryDataList := by
    have moved : (start.database.entries reading).Perm
        ((start.database.entry? key).toList ++ start.database.entries (reading.erase key)) := by
      have entries := (List.perm_cons_erase pending).filterMap start.database.entry?
      rw [List.filterMap_cons] at entries
      cases found : start.database.entry? key with
      | none =>
          rw [found] at entries
          exact entries
      | some entry =>
          rw [found] at entries
          exact entries
    show (data.tripHistoryDataList ++ _ ++ _).Perm _
    rw [List.append_assoc]
    exact (moved.append_left _).symm.trans law.tripHistoryDataList

end Listing

namespace Loading

variable {start trips after : Trips} {uid : String} {tab : HistoryTab} {index : Nat}

theorem loaded (law : Loading start uid trips tab) (earnings : tab.earnings = false)
    (firstName : tab.firstName = false) (query : tab.query = none) (read : tab.trips = [])
    (rideType : tab.rideType = false) : Loaded start trips uid := by
  have retrieved : tab.retrieved = true := by
    rw [HistoryTab.retrieved, firstName, query]
    rfl
  have shown := law.earnings
  obtain ⟨count, keys, list⟩ := law.listing
  rw [earnings] at shown
  rw [retrieved] at count keys list
  rw [read, TripDatabase.entries, List.filterMap_nil, List.append_nil] at list
  exact ⟨by simpa using shown, by simpa using count, by simpa using keys, by simpa using list,
    law.isDriverAvailable, law.rideType rideType⟩

/-- Only what is shown and the database matter. -/
theorem of_shown (law : Loading start uid trips tab) (data : after.data = trips.data)
    (isDriverAvailable : after.isDriverAvailable = trips.isDriverAvailable)
    (rideType : after.rideType = trips.rideType) (database : after.database = trips.database) :
    Loading start uid after tab where
  mounted := law.mounted
  rider := law.rider
  database := database.trans law.database
  asked := law.asked
  query := law.query
  earnings := by rw [data, law.earnings]
  listing := by rw [data]; exact law.listing
  isDriverAvailable := isDriverAvailable.trans law.isDriverAvailable
  rideType := fun read => rideType.trans (law.rideType read)

theorem handleEarnings (law : Loading start uid trips tab) (pending : tab.earnings = true) :
    Loading start uid (trips.handleEarnings index tab) { tab with earnings := false } := by
  have earnings := law.earnings
  rw [if_pos pending] at earnings
  have same := law.database
  have rider := law.rider
  unfold Trips.handleEarnings
  split
  · next nothing =>
    rw [same, rider] at nothing
    have shown : trips.data.earnings = start.earningsOf uid := by
      rw [Trips.earningsOf, nothing]
      exact earnings
    exact { law with earnings := shown }
  · next value present =>
    rw [same, rider] at present
    have shown : printed (some value) = start.earningsOf uid := by
      rw [Trips.earningsOf, present]
    rw [Trips.provide_of_mounted _ _ law.mounted]
    exact { law with
      earnings := shown
      listing := ⟨law.listing.countTrips, law.listing.tripHistoryKeys,
        law.listing.tripHistoryDataList⟩ }

/-- Without a first name the load of the trips ends here. -/
theorem handleFirstName (law : Loading start uid trips tab) (pending : tab.firstName = true) :
    Loading start uid (trips.handleFirstName index tab)
      { tab with
        firstName := false
        query := castString (start.database.riders uid).firstName } := by
  have listing := law.listing
  rw [HistoryTab.retrieved, pending, Bool.not_true, Bool.false_and] at listing
  have answered : Listing start uid trips.data
      (castString (start.database.riders uid).firstName).isNone tab.trips := by
    cases unnamed : castString (start.database.riders uid).firstName with
    | none =>
        apply listing.unfound
        rw [TripDatabase.found, unnamed]
    | some firstName => exact listing
  exact { law with
    asked := fun impossible => nomatch impossible
    query := fun firstName asked => asked
    listing := answered }

theorem handleQuery {firstName : String} (law : Loading start uid trips tab)
    (waiting : tab.query = some firstName) :
    ∃ next, (trips.handleQuery index tab firstName).tabs = (trips.setTab index next).tabs ∧
      Loading start uid (trips.handleQuery index tab firstName) next := by
  have named := law.query firstName (by rw [waiting]; rfl)
  have found : trips.database.keysOf firstName = start.database.found uid := by
    rw [TripDatabase.found, named, law.database]
  have read : tab.firstName = false := by
    cases unread : tab.firstName with
    | false => rfl
    | true =>
        have unasked := law.asked unread
        rw [waiting] at unasked
        cases unasked
  have listing := law.listing
  rw [HistoryTab.retrieved, waiting, Option.isNone_some, Bool.and_false] at listing
  have retrieved : (!tab.firstName && (none : Option String).isNone) = true := by
    rw [read]
    rfl
  unfold Trips.handleQuery
  dsimp only
  rw [found]
  split
  · next silent =>
    have nothing : start.database.found uid = [] := by
      rcases silent with nothing | gone
      · exact nothing
      · rw [law.mounted] at gone
        cases gone
    have answered : Listing start uid trips.data
        ({ tab with query := none } : HistoryTab).retrieved tab.trips := by
      rw [HistoryTab.retrieved, retrieved]
      exact listing.unfound nothing
    refine ⟨_, rfl, ?_⟩
    exact { law with
      asked := fun _ => rfl
      query := fun _ impossible => nomatch impossible
      listing := answered }
  · next lists =>
    simp only [not_or, Bool.not_eq_false] at lists
    have answered := listing.found lists.1
    rw [← retrieved] at answered
    rw [Trips.provide_of_mounted _ _ law.mounted]
    refine ⟨_, rfl, ?_⟩
    exact { law with
      asked := fun _ => rfl
      query := fun _ impossible => nomatch impossible
      listing := answered }

theorem handleTrip {key : String} (law : Loading start uid trips tab)
    (pending : key ∈ tab.trips) :
    Loading start uid (trips.handleTrip index tab key)
      { tab with trips := tab.trips.erase key } := by
  have read := law.listing.read pending
  have same := law.database
  unfold Trips.handleTrip
  split
  · next nothing =>
    have missing : start.database.entry? key = none := by
      rw [TripDatabase.entry?, ← same, nothing]
      rfl
    rw [missing, Option.toList_none, List.append_nil] at read
    exact { law with listing := read }
  · next history present =>
    have entry : start.database.entry? key = some ⟨key, history⟩ := by
      rw [TripDatabase.entry?, ← same, present]
      rfl
    rw [entry] at read
    rw [Trips.provide_of_mounted _ _ law.mounted]
    exact { law with listing := read }

theorem handleRideType (law : Loading start uid trips tab) :
    Loading start uid (trips.handleRideType index tab) { tab with rideType := false } := by
  have shown : (trips.handleRideType index tab).rideType = DatabaseEvent.toString ⟨none⟩ :=
    if_pos law.mounted
  exact { law with rideType := fun _ => shown }

theorem mounted_start (start : Trips) (uid : String) :
    Loading start uid
      { start with tabs := start.tabs ++ [start.obtainTripRequestsHistoryData { uid := uid }] }
      (start.obtainTripRequestsHistoryData { uid := uid }) where
  mounted := rfl
  rider := rfl
  database := rfl
  asked := fun _ => rfl
  query := fun _ impossible => nomatch impossible
  earnings := rfl
  listing := by
    refine ⟨rfl, rfl, ?_⟩
    show (start.data.tripHistoryDataList ++ start.database.entries start.data.tripHistoryKeys).Perm
      (_ ++ (_ ++ []))
    rw [List.append_nil]
  isDriverAvailable := rfl
  rideType := fun impossible => nomatch impossible

end Loading

/-! ## Runs of replies -/

/-- The last tab is being loaded; the others are gone. -/
def LoadingLast (start : Trips) (uid : String) (trips : Trips) : Prop :=
  ∃ gone tab, trips.tabs = gone ++ [tab] ∧ (∀ other ∈ gone, other.mounted = false) ∧
    Loading start uid trips tab

section Replies

variable {start trips after : Trips} {uid : String} {event : TripsEvent} {index : Nat}

/-- A reply for a tab that is gone changes that tab only. -/
theorem Trips.Replied.gone {tab : HistoryTab}
    (replied : Trips.Replied trips event index tab after) (gone : tab.mounted = false) :
    ∃ next, next.mounted = false ∧ after = trips.setTab index next := by
  cases replied with
  | earnings _ =>
      refine ⟨{ tab with earnings := false }, gone, ?_⟩
      unfold Trips.handleEarnings
      dsimp only
      split
      · rfl
      · rw [Trips.provide_of_gone _ _ gone]
  | firstName _ =>
      exact ⟨{ tab with firstName := false, query := _ }, gone, rfl⟩
  | query _ =>
      refine ⟨{ tab with query := none }, gone, ?_⟩
      exact if_pos (.inr gone)
  | @trip _ _ key _ =>
      refine ⟨{ tab with trips := tab.trips.erase key }, gone, ?_⟩
      unfold Trips.handleTrip
      dsimp only
      split
      · rfl
      · rw [Trips.provide_of_gone _ _ gone]
  | rideType _ =>
      refine ⟨{ tab with rideType := false }, gone, ?_⟩
      simp only [Trips.handleRideType, gone, Bool.false_eq_true, ↓reduceIte]
      rfl

theorem Trips.handleEarnings_tabs (trips : Trips) (index : Nat) (tab : HistoryTab) :
    (trips.handleEarnings index tab).tabs = trips.tabs.set index { tab with earnings := false } := by
  unfold Trips.handleEarnings
  dsimp only
  split <;> rfl

theorem Trips.handleQuery_tabs (trips : Trips) (index : Nat) (tab : HistoryTab)
    (firstName : String) :
    ∃ reading, (trips.handleQuery index tab firstName).tabs =
      trips.tabs.set index { tab with query := none, trips := reading } := by
  unfold Trips.handleQuery
  dsimp only
  split
  · exact ⟨tab.trips, rfl⟩
  · exact ⟨_, rfl⟩

theorem Loading.replied {tab : HistoryTab} (law : Loading start uid trips tab)
    (replied : Trips.Replied trips event index tab after) :
    ∃ next, after.tabs = (trips.setTab index next).tabs ∧ Loading start uid after next := by
  cases replied with
  | earnings pending =>
      exact ⟨_, Trips.handleEarnings_tabs trips index tab, law.handleEarnings pending⟩
  | firstName pending =>
      refine ⟨_, ?_, law.handleFirstName pending⟩
      rw [Trips.handleFirstName, castNullable_getD, law.database, law.rider]
  | query waiting => exact law.handleQuery waiting
  | trip pending =>
      refine ⟨_, ?_, law.handleTrip pending⟩
      unfold Trips.handleTrip
      dsimp only
      split <;> rfl
  | rideType _ => exact ⟨_, rfl, law.handleRideType⟩

theorem LoadingLast.step {emitted : List Empty} (law : LoadingLast start uid trips)
    (reply : event.IsReply) (stepped : trips.step event = some (after, emitted)) :
    LoadingLast start uid after := by
  obtain ⟨gone, tab, tabs, unmounted, loading⟩ := law
  obtain ⟨index, replied_tab, found, replied⟩ := Trips.reply_cases reply stepped
  rw [tabs] at found
  by_cases earlier : index < gone.length
  · rw [List.getElem?_append_left earlier] at found
    obtain ⟨next, still, rfl⟩ := replied.gone (unmounted _ (List.mem_of_getElem? found))
    refine ⟨gone.set index next, tab, ?_, ?_, loading.of_shown rfl rfl rfl rfl⟩
    · show trips.tabs.set index next = _
      rw [tabs, List.set_append_left _ _ earlier]
    · intro other member
      rcases List.mem_or_eq_of_mem_set member with old | rfl
      · exact unmounted other old
      · exact still
  · have inside := (List.getElem?_eq_some_iff.mp found).1
    simp only [List.length_append, List.length_singleton] at inside
    obtain rfl : index = gone.length := by omega
    simp only [List.getElem?_concat_length, Option.some.injEq] at found
    subst found
    obtain ⟨next, same, loaded⟩ := loading.replied replied
    refine ⟨gone, next, ?_, unmounted, loaded⟩
    rw [same]
    show trips.tabs.set gone.length next = _
    rw [tabs, List.set_append_right _ _ (Nat.le_refl _), Nat.sub_self]
    rfl

theorem LoadingLast.run {events : List TripsEvent} {last : Trips} {emitted : List Empty}
    (vacant : start.Vacant) (replies : ∀ event ∈ events, event.IsReply)
    (run : exec Trips.component start (.mounted uid :: events) = some (last, emitted)) :
    LoadingLast start uid last := by
  obtain ⟨next, now, later, stepped, continued, -⟩ := exec_cons_eq_some.mp run
  cases stepped
  have started : LoadingLast start uid
      { start with
        tabs := start.tabs ++ [start.obtainTripRequestsHistoryData { uid := uid }] } :=
    ⟨start.tabs, _, rfl, vacant, Loading.mounted_start start uid⟩
  apply exec_trace_invariant (fun _ (_ : List Empty) trips => LoadingLast start uid trips) _
    [] [] started replies continued
  intro past history before event after emitted law reply stepped
  exact law.step reply stepped

/-- Whatever the order of the replies, a finished load shows the same. -/
theorem loaded_of_finished {events : List TripsEvent} {last : Trips} {emitted : List Empty}
    (vacant : start.Vacant) (replies : ∀ event ∈ events, event.IsReply)
    (run : exec Trips.component start (.mounted uid :: events) = some (last, emitted))
    (finished : last.Finished) : Loaded start last uid := by
  obtain ⟨gone, tab, tabs, -, loading⟩ := LoadingLast.run vacant replies run
  obtain ⟨earnings, firstName, query, read, rideType⟩ :=
    finished tab (by rw [tabs]; simp) loading.mounted
  exact loading.loaded earnings firstName query read rideType

end Replies

end FilldRider
