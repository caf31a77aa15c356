import FilldRider.History.Basic
import Mathlib.Data.List.Perm.Basic

/-!
# Duplicates in the trip history

The keys of the trips are replaced by every load, the list of trips only grows, and
every home tab reads the trips listed before it as well. The list has each trip once
as long as trips are listed once.
-/

set_option autoImplicit false

namespace FilldRider

open Runs

def AppData.dataKeys (data : AppData) : List String := data.tripHistoryDataList.map TripEntry.key

/-- The list has an entry for each listed trip that exists, and none twice. -/
structure HistoryOnce (trips : Trips) : Prop where
  counted : trips.data.countTrips = trips.data.tripHistoryKeys.length
  nodup : trips.data.dataKeys.Nodup
  listed : ∀ key ∈ trips.data.dataKeys, key ∈ trips.data.tripHistoryKeys
  present : ∀ key ∈ trips.data.tripHistoryKeys,
    (trips.database.trip? key).isSome = true → key ∈ trips.data.dataKeys

/-- No tab waits for anything. -/
def Trips.Settled (trips : Trips) : Prop :=
  ∀ tab ∈ trips.tabs, tab.earnings = false ∧ tab.firstName = false ∧ tab.query = none ∧
    tab.trips = [] ∧ tab.rideType = false

instance Trips.decidableSettled (trips : Trips) : Decidable trips.Settled :=
  inferInstanceAs (Decidable (∀ tab ∈ trips.tabs, _))

/-! ## The trips of a load -/

theorem perm_flatMap_set {α β : Type} (f : α → List β) {xs : List α} {index : Nat} {x : α}
    (found : xs[index]? = some x) (y : α) :
    (f x ++ (xs.set index y).flatMap f).Perm (f y ++ xs.flatMap f) := by
  induction xs generalizing index with
  | nil => cases found
  | cons first rest ih =>
      cases index with
      | zero =>
          cases found
          simp only [List.set_cons_zero, List.flatMap_cons]
          exact List.perm_append_comm_assoc _ _ _
      | succ index =>
          have moved := ih (by simpa using found)
          simp only [List.set_cons_succ, List.flatMap_cons]
          calc List.Perm (f x ++ (f first ++ (rest.set index y).flatMap f))
                (f first ++ (f x ++ (rest.set index y).flatMap f)) :=
                List.perm_append_comm_assoc _ _ _
            List.Perm _ (f first ++ (f y ++ rest.flatMap f)) := moved.append_left _
            List.Perm _ (f y ++ (f first ++ rest.flatMap f)) :=
                List.perm_append_comm_assoc _ _ _

/-- The trips whose reads will still be shown. -/
def HistoryTab.reading (tab : HistoryTab) : List String := if tab.mounted then tab.trips else []

namespace Trips

variable {trips after : Trips} {index : Nat} {tab : HistoryTab}

/-- The trips in the list, and those about to be added to it. -/
def loadKeys (trips : Trips) : List String :=
  trips.data.dataKeys ++ trips.tabs.flatMap HistoryTab.reading

/-- What was listed is read once, or about to be. -/
structure OneLoad (trips : Trips) : Prop where
  counted : trips.data.countTrips = trips.data.tripHistoryKeys.length
  nodup : trips.loadKeys.Nodup
  listed : ∀ key ∈ trips.loadKeys, key ∈ trips.data.tripHistoryKeys
  present : ∀ key ∈ trips.data.tripHistoryKeys,
    (trips.database.trip? key).isSome = true → key ∈ trips.loadKeys

/-- No tab is built and no further trips are found while trips are listed, a tab stays
until its trips are read, a trip that was missing does not come back, and trips are
stored as texts. -/
def ListsOnce (_ : List Empty) (trips : Trips) : TripsEvent → Prop
  | .mounted _ => trips.data.tripHistoryKeys = []
  | .queried index => ∀ tab ∈ trips.tabs[index]?, ∀ firstName ∈ tab.query,
      tab.mounted = true → trips.database.keysOf firstName ≠ [] →
        trips.data.tripHistoryKeys = []
  | .unmounted index => ∀ tab ∈ trips.tabs[index]?, ∀ key ∈ tab.trips,
      trips.database.trip? key = none
  | .changed database => ∀ key ∈ trips.data.tripHistoryKeys,
      (database.trip? key).isSome = true → key ∈ trips.loadKeys
  | .tripRead _ key => ∀ trip ∈ trips.database.trip? key, (History.fromSnapshot trip).isSome = true
  | _ => True

theorem OneLoad.initial (database : TripDatabase) : OneLoad { database := database } := by
  constructor <;> simp [loadKeys, AppData.dataKeys]

theorem OneLoad.historyOnce (law : trips.OneLoad) (settled : trips.Settled) :
    HistoryOnce trips := by
  have read : trips.loadKeys = trips.data.dataKeys := by
    have nothing : trips.tabs.flatMap HistoryTab.reading = [] := by
      rw [List.flatMap_eq_nil_iff]
      intro tab member
      obtain ⟨-, -, -, pending, -⟩ := settled tab member
      rw [HistoryTab.reading, pending, ite_self]
    rw [loadKeys, nothing, List.append_nil]
  obtain ⟨counted, nodup, listed, present⟩ := law
  rw [read] at nodup listed present
  exact ⟨counted, nodup, listed, present⟩

/-- The same trips are listed, and read or about to be. -/
structure Kept (trips after : Trips) : Prop where
  count : after.data.countTrips = trips.data.countTrips
  keys : after.data.tripHistoryKeys = trips.data.tripHistoryKeys
  load : after.loadKeys.Perm trips.loadKeys
  database : after.database = trips.database

theorem OneLoad.kept (law : trips.OneLoad) (kept : Kept trips after) : after.OneLoad where
  counted := by
    rw [kept.count, kept.keys]
    exact law.counted
  nodup := kept.load.nodup_iff.mpr law.nodup
  listed := by
    intro key member
    rw [kept.keys]
    exact law.listed key (kept.load.mem_iff.mp member)
  present := by
    intro key member found
    rw [kept.keys] at member
    rw [kept.database] at found
    exact kept.load.mem_iff.mpr (law.present key member found)

/-- Trips that do not exist need not be read. -/
theorem OneLoad.dropped {dropped : List String} (law : trips.OneLoad)
    (load : trips.loadKeys.Perm (dropped ++ after.loadKeys))
    (data : after.data = trips.data) (database : after.database = trips.database)
    (missing : ∀ key ∈ dropped, trips.database.trip? key = none) : after.OneLoad where
  counted := by
    rw [data]
    exact law.counted
  nodup := (List.nodup_append.mp (load.nodup_iff.mp law.nodup)).2.1
  listed := by
    intro key member
    rw [data]
    exact law.listed key (load.mem_iff.mpr (List.mem_append_right _ member))
  present := by
    intro key member found
    rw [data] at member
    rw [database] at found
    have known := load.mem_iff.mp (law.present key member found)
    rcases List.mem_append.mp known with gone | kept
    · rw [missing key gone] at found
      cases found
    · exact kept

theorem OneLoad.unlisted (law : trips.OneLoad) (none : trips.data.tripHistoryKeys = []) :
    trips.loadKeys = [] := by
  rw [List.eq_nil_iff_forall_not_mem]
  intro key member
  have listed := law.listed key member
  rw [none] at listed
  cases listed

theorem reading_setTab (found : trips.tabs[index]? = some tab) (next : HistoryTab) :
    (tab.reading ++ (trips.setTab index next).tabs.flatMap HistoryTab.reading).Perm
      (next.reading ++ trips.tabs.flatMap HistoryTab.reading) :=
  perm_flatMap_set HistoryTab.reading found next

theorem Kept.setTab (found : trips.tabs[index]? = some tab) {next : HistoryTab}
    (reading : next.reading = tab.reading) : Kept trips (trips.setTab index next) where
  count := rfl
  keys := rfl
  load := by
    have moved := reading_setTab found next
    rw [reading, List.perm_append_left_iff] at moved
    exact moved.append_left _
  database := rfl

theorem Kept.handleEarnings (found : trips.tabs[index]? = some tab) :
    Kept trips (trips.handleEarnings index tab) := by
  have read : Kept trips (trips.setTab index { tab with earnings := false }) :=
    Kept.setTab found rfl
  unfold Trips.handleEarnings
  dsimp only
  split
  · exact read
  · rcases Bool.eq_false_or_eq_true tab.mounted with mounted | gone
    · rw [provide_of_mounted _ _ mounted]
      exact ⟨rfl, rfl, read.load, rfl⟩
    · rw [provide_of_gone _ _ gone]
      exact read

theorem Kept.handleRideType (found : trips.tabs[index]? = some tab) :
    Kept trips (trips.handleRideType index tab) := by
  have read : Kept trips (trips.setTab index { tab with rideType := false }) :=
    Kept.setTab found rfl
  exact ⟨rfl, rfl, read.load, rfl⟩

/-- The trips of the answer are listed, and all of them are about to be read. -/
theorem OneLoad.handleQuery {firstName : String} (law : trips.OneLoad)
    (found : trips.tabs[index]? = some tab)
    (once : tab.mounted = true → trips.database.keysOf firstName ≠ [] →
      trips.data.tripHistoryKeys = []) :
    (trips.handleQuery index tab firstName).OneLoad := by
  unfold Trips.handleQuery
  dsimp only
  split
  · exact law.kept (Kept.setTab found rfl)
  · next lists =>
    simp only [not_or, Bool.not_eq_false] at lists
    obtain ⟨some_trips, mounted⟩ := lists
    obtain ⟨unread, idle⟩ :=
      List.append_eq_nil_iff.mp (law.unlisted (once mounted some_trips))
    have pending : tab.trips = [] := by
      have none := List.flatMap_eq_nil_iff.mp idle tab (List.mem_of_getElem? found)
      rwa [HistoryTab.reading, if_pos mounted] at none
    rw [provide_of_mounted _ _ mounted]
    set next := obtainTripRequestsHistoryData _ { tab with query := none } with next_eq
    have asked : next.reading = trips.database.keysOf firstName := by
      rw [next_eq, HistoryTab.reading]
      simp only [obtainTripRequestsHistoryData, mounted, pending, List.nil_append]
      rfl
    have moved := reading_setTab found next
    rw [HistoryTab.reading, if_pos mounted, pending, List.nil_append, idle, List.append_nil,
      asked] at moved
    have load : (trips.data.dataKeys ++
        (trips.setTab index next).tabs.flatMap HistoryTab.reading).Perm
        (trips.database.keysOf firstName) := by
      rw [unread]
      exact moved
    constructor
    · rfl
    · exact load.nodup_iff.mpr (trips.database.keysOf_nodup firstName)
    · intro key member
      exact load.mem_iff.mp member
    · intro key member _
      exact load.mem_iff.mpr member

/-- A pending read of a mounted tab is one of those about to be added to the list. -/
theorem loadKeys_erase {key : String} (found : trips.tabs[index]? = some tab)
    (mounted : tab.mounted = true) (pending : key ∈ tab.trips) :
    trips.loadKeys.Perm
      (key :: (trips.setTab index { tab with trips := tab.trips.erase key }).loadKeys) := by
  have reading : tab.reading.Perm
      (key :: ({ tab with trips := tab.trips.erase key } : HistoryTab).reading) := by
    rw [HistoryTab.reading, HistoryTab.reading, if_pos mounted, if_pos mounted]
    exact List.perm_cons_erase pending
  have replaced := reading_setTab found { tab with trips := tab.trips.erase key }
  have added := (reading.append_right _).symm.trans replaced
  have moved := (List.perm_append_left_iff _).mp (List.perm_middle.trans added)
  exact (moved.symm.append_left _).trans List.perm_middle

theorem trip?_eq_none {database : TripDatabase} {key : String}
    (texts : ∀ trip ∈ database.trip? key, (History.fromSnapshot trip).isSome = true)
    (nothing : (database.trip? key).bind History.fromSnapshot = none) :
    database.trip? key = none := by
  cases stored : database.trip? key with
  | none => rfl
  | some trip =>
      have decodes := texts trip stored
      rw [stored, Option.bind_some] at nothing
      rw [nothing] at decodes
      cases decodes

/-- A trip that is read moves to the list; one that does not exist is dropped. -/
theorem OneLoad.handleTrip {key : String} (law : trips.OneLoad)
    (found : trips.tabs[index]? = some tab) (pending : key ∈ tab.trips)
    (texts : ∀ trip ∈ trips.database.trip? key, (History.fromSnapshot trip).isSome = true) :
    (trips.handleTrip index tab key).OneLoad := by
  unfold Trips.handleTrip
  rcases Bool.eq_false_or_eq_true tab.mounted with mounted | gone
  · have load := loadKeys_erase found mounted pending
    dsimp only
    split
    · next nothing =>
      have single : trips.loadKeys.Perm
          ([key] ++ (trips.setTab index { tab with trips := tab.trips.erase key }).loadKeys) :=
        load
      apply law.dropped single rfl rfl
      simpa using trip?_eq_none texts nothing
    · next history _ =>
      rw [provide_of_mounted _ _ mounted]
      have grown : ((trips.data.updateTripHistoryData ⟨key, history⟩).dataKeys ++
          (trips.setTab index { tab with trips := tab.trips.erase key }).tabs.flatMap
            HistoryTab.reading).Perm trips.loadKeys := by
        rw [AppData.dataKeys, AppData.updateTripHistoryData, List.map_append, List.append_assoc]
        exact List.perm_middle.trans load.symm
      exact law.kept ⟨rfl, rfl, grown, rfl⟩
  · have read : Kept trips (trips.setTab index { tab with trips := tab.trips.erase key }) := by
      apply Kept.setTab found
      rw [HistoryTab.reading, HistoryTab.reading, if_neg (by simp [gone]), if_neg (by simp [gone])]
    dsimp only
    split
    · exact law.kept read
    · rw [provide_of_gone _ _ gone]
      exact law.kept read

theorem OneLoad.mounted {uid : String} (law : trips.OneLoad)
    (unlisted : trips.data.tripHistoryKeys = []) :
    OneLoad { trips with
      tabs := trips.tabs ++ [trips.obtainTripRequestsHistoryData { uid := uid }] } := by
  apply law.kept
  refine ⟨rfl, rfl, ?_, rfl⟩
  have nothing : (trips.obtainTripRequestsHistoryData { uid := uid }).reading = [] := unlisted
  simp only [loadKeys, List.flatMap_append, List.flatMap_cons, List.flatMap_nil, nothing,
    List.append_nil]
  exact List.Perm.refl _

theorem OneLoad.unmounted (law : trips.OneLoad) (found : trips.tabs[index]? = some tab)
    (mounted : tab.mounted = true)
    (missing : ∀ key ∈ tab.trips, trips.database.trip? key = none) :
    (trips.setTab index { tab with mounted := false }).OneLoad := by
  have moved := reading_setTab found { tab with mounted := false }
  have read : tab.reading = tab.trips := if_pos mounted
  have silent : ({ tab with mounted := false } : HistoryTab).reading = [] := rfl
  rw [read, silent, List.nil_append] at moved
  have load := moved.symm.append_left trips.data.dataKeys
  exact law.dropped (load.trans (List.perm_append_comm_assoc _ _ _)) rfl rfl missing

theorem OneLoad.replied {history : List Empty} {event : TripsEvent} (law : trips.OneLoad)
    (found : trips.tabs[index]? = some tab) (once : ListsOnce history trips event)
    (replied : Replied trips event index tab after) : after.OneLoad := by
  cases replied with
  | earnings _ => exact law.kept (Kept.handleEarnings found)
  | firstName _ => exact law.kept (Kept.setTab found rfl)
  | query waiting => exact law.handleQuery found (once tab found _ waiting)
  | trip pending => exact law.handleTrip found pending once
  | rideType _ => exact law.kept (Kept.handleRideType found)

theorem OneLoad.step {history : List Empty} {event : TripsEvent} {emitted : List Empty}
    (law : trips.OneLoad) (once : ListsOnce history trips event)
    (stepped : trips.step event = some (after, emitted)) : after.OneLoad := by
  by_cases reply : event.IsReply
  · obtain ⟨index, tab, found, replied⟩ := Trips.reply_cases reply stepped
    exact law.replied found once replied
  · cases event with
    | mounted uid =>
        cases stepped
        exact law.mounted once
    | unmounted index =>
        simp only [Trips.step] at stepped
        split at stepped
        · cases stepped
        · next tab found =>
          split at stepped <;> cases stepped
          next mounted => exact law.unmounted found mounted (once tab found)
    | driverStatus availability =>
        cases stepped
        exact law.kept ⟨rfl, rfl, List.Perm.refl _, rfl⟩
    | changed database =>
        cases stepped
        exact ⟨law.counted, law.nodup, law.listed,
          fun key member found => once key member found⟩
    | earningsRead _ => exact (reply trivial).elim
    | firstNameRead _ => exact (reply trivial).elim
    | queried _ => exact (reply trivial).elim
    | tripRead _ _ => exact (reply trivial).elim
    | rideTypeRead _ => exact (reply trivial).elim

end Trips

instance Trips.decidableListsOnce (history : List Empty) (trips : Trips) :
    ∀ event, Decidable (trips.ListsOnce history event)
  | .mounted _ => inferInstanceAs (Decidable (_ = []))
  | .queried index =>
      Option.decidableForallMem (trips.tabs[index]?)
  | .unmounted index => Option.decidableForallMem (trips.tabs[index]?)
  | .changed database => inferInstanceAs (Decidable (∀ key ∈ trips.data.tripHistoryKeys,
      (database.trip? key).isSome = true → key ∈ trips.loadKeys))
  | .tripRead _ key => Option.decidableForallMem (trips.database.trip? key)
  | .earningsRead _ | .firstNameRead _ | .rideTypeRead _ | .driverStatus _ => isTrue trivial

/-- As long as trips are listed only once, whenever nothing is pending every listed trip
that exists is in the list exactly once, and the counter is right. -/
theorem historyOnce_of_listsOnce (database : TripDatabase) {trips : Trips}
    {events : List TripsEvent} {emitted : List Empty}
    (run : exec Trips.component { database := database } events = some (trips, emitted))
    (once : Meets Trips.component Trips.ListsOnce [] { database := database } events)
    (settled : trips.Settled) : HistoryOnce trips := by
  have law : trips.OneLoad := by
    apply exec_invariant_of_meets (fun (_ : List Empty) trips => Trips.OneLoad trips) _
      (Trips.OneLoad.initial database) once run
    intro history before event after emitted held conforms stepped
    exact held.step conforms stepped
  exact law.historyOnce settled

theorem historyOnce_of_one_load :
    ∃ trips emitted,
      exec Trips.component { database := sampleTrips }
        [.mounted "rider-1", .firstNameRead 0, .rideTypeRead 0, .queried 0, .earningsRead 0,
          .tripRead 0 "trip-3", .tripRead 0 "trip-1"] = some (trips, emitted) ∧
      trips.data.dataKeys = ["trip-3", "trip-1"] ∧ HistoryOnce trips := by
  have ends : ((exec Trips.component { database := sampleTrips }
      [.mounted "rider-1", .firstNameRead 0, .rideTypeRead 0, .queried 0, .earningsRead 0,
        .tripRead 0 "trip-3", .tripRead 0 "trip-1"]).map fun result =>
          (result.1.data.dataKeys, decide result.1.Settled)) =
        some (["trip-3", "trip-1"], true) := by
    decide +kernel
  obtain ⟨⟨trips, emitted⟩, run, reached⟩ := Option.map_eq_some_iff.mp ends
  simp only [Prod.mk.injEq, decide_eq_true_eq] at reached
  obtain ⟨read, settled⟩ := reached
  exact ⟨trips, emitted, run, read,
    historyOnce_of_listsOnce sampleTrips run (by decide +kernel) settled⟩

/-- The next home tab reads the trips once when it is built and once more when they are
listed again. -/
theorem not_historyOnce_of_next_tab :
    ¬ ∀ (database : TripDatabase) (trips : Trips) (events : List TripsEvent)
        (emitted : List Empty),
      exec Trips.component { database := database } events = some (trips, emitted) →
      trips.Settled → HistoryOnce trips := by
  intro always
  have ends : ((exec Trips.component { database := sampleTrips }
      [.mounted "rider-1", .firstNameRead 0, .rideTypeRead 0, .queried 0, .earningsRead 0,
        .tripRead 0 "trip-3", .tripRead 0 "trip-1", .unmounted 0,
        .mounted "rider-1", .firstNameRead 1, .rideTypeRead 1, .queried 1, .earningsRead 1,
        .tripRead 1 "trip-1", .tripRead 1 "trip-3", .tripRead 1 "trip-1",
        .tripRead 1 "trip-3"]).map fun result =>
          (result.1.data.dataKeys, decide result.1.Settled)) =
        some (["trip-3", "trip-1", "trip-1", "trip-3", "trip-1", "trip-3"], true) := by
    decide +kernel
  obtain ⟨⟨trips, emitted⟩, run, reached⟩ := Option.map_eq_some_iff.mp ends
  simp only [Prod.mk.injEq, decide_eq_true_eq] at reached
  obtain ⟨read, settled⟩ := reached
  have once := (always sampleTrips trips _ emitted run settled).nodup
  rw [read] at once
  exact absurd once (by decide)

end FilldRider
