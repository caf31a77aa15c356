import FilldRider.History.Load

/-!
# What the next rider sees

Signing out leaves `AppData`, `AppState` and the globals as they are, so what a second
rider is shown also depends on what the first one left.
-/

set_option autoImplicit false

namespace FilldRider

open Runs

/-- The same values, with the list of trips in the order its reads happened to complete. -/
structure SameShown (first second : Trips) : Prop where
  earnings : first.data.earnings = second.data.earnings
  countTrips : first.data.countTrips = second.data.countTrips
  tripHistoryKeys : first.data.tripHistoryKeys = second.data.tripHistoryKeys
  tripHistoryDataList : first.data.tripHistoryDataList.Perm second.data.tripHistoryDataList
  isDriverAvailable : first.isDriverAvailable = second.isDriverAvailable
  rideType : first.rideType = second.rideType

/-- Trips found for a rider replace those left by another; otherwise they stay. -/
def SameTrips (first second : AppData) : List String → List String → Prop
  | [], [] =>
      first.countTrips = second.countTrips ∧ first.tripHistoryKeys = second.tripHistoryKeys
  | [], found => first.countTrips = found.length ∧ first.tripHistoryKeys = found
  | found, [] => found.length = second.countTrips ∧ found = second.tripHistoryKeys
  | found, others => found = others

/-- Nothing of what was left before the rider signs in makes a difference. -/
structure NothingCarried (uid : String) (first second : Trips) : Prop where
  earnings : (first.database.riders uid).earnings.isSome = true ∨
    first.data.earnings = second.data.earnings
  trips : SameTrips first.data second.data (first.database.found uid)
    (second.database.found uid)
  entries :
    (first.data.tripHistoryDataList ++ (first.database.entries first.data.tripHistoryKeys ++
      first.database.entries (first.database.found uid))).Perm
    (second.data.tripHistoryDataList ++ (second.database.entries second.data.tripHistoryKeys ++
      second.database.entries (second.database.found uid)))
  isDriverAvailable : first.isDriverAvailable = second.isDriverAvailable

theorem earningsOf_eq_iff {first second : Trips} {uid : String}
    (record : first.database.riders uid = second.database.riders uid) :
    first.earningsOf uid = second.earningsOf uid ↔
      (first.database.riders uid).earnings.isSome = true ∨
        first.data.earnings = second.data.earnings := by
  unfold Trips.earningsOf
  rw [← record]
  cases (first.database.riders uid).earnings with
  | none => simp
  | some earnings => simp

theorem sameTrips_iff (first second : AppData) (found others : List String) :
    SameTrips first second found others ↔
      (if found = [] then first.countTrips else found.length) =
        (if others = [] then second.countTrips else others.length) ∧
      (if found = [] then first.tripHistoryKeys else found) =
        (if others = [] then second.tripHistoryKeys else others) := by
  cases found with
  | nil =>
      cases others with
      | nil => exact Iff.rfl
      | cons other others => exact Iff.rfl
  | cons key found =>
      cases others with
      | nil => exact Iff.rfl
      | cons other others =>
          simp only [SameTrips, reduceCtorEq, ↓reduceIte]
          constructor
          · intro same
            rw [same]
            exact ⟨rfl, rfl⟩
          · intro same
            exact same.2

/-- Two runs in which the same rider signs in end with the same values exactly if nothing
left by the rider before makes a difference. -/
theorem sameShown_iff_nothingCarried {uid : String} {left₁ left₂ last₁ last₂ : Trips}
    {replies₁ replies₂ : List TripsEvent} {emitted₁ emitted₂ : List Empty}
    (record : left₁.database.riders uid = left₂.database.riders uid)
    (vacant₁ : left₁.Vacant) (vacant₂ : left₂.Vacant)
    (all₁ : ∀ event ∈ replies₁, event.IsReply) (all₂ : ∀ event ∈ replies₂, event.IsReply)
    (run₁ : exec Trips.component left₁ (.mounted uid :: replies₁) = some (last₁, emitted₁))
    (run₂ : exec Trips.component left₂ (.mounted uid :: replies₂) = some (last₂, emitted₂))
    (finished₁ : last₁.Finished) (finished₂ : last₂.Finished) :
    SameShown last₁ last₂ ↔ NothingCarried uid left₁ left₂ := by
  have first := loaded_of_finished vacant₁ all₁ run₁ finished₁
  have second := loaded_of_finished vacant₂ all₂ run₂ finished₂
  have earnings := earningsOf_eq_iff record
  have trips := sameTrips_iff left₁.data left₂.data (left₁.database.found uid)
    (left₂.database.found uid)
  rw [← first.earnings, ← second.earnings] at earnings
  rw [← first.countTrips, ← second.countTrips, ← first.tripHistoryKeys,
    ← second.tripHistoryKeys] at trips
  constructor
  · intro same
    refine ⟨earnings.mp same.earnings, trips.mpr ⟨same.countTrips, same.tripHistoryKeys⟩, ?_, ?_⟩
    · exact first.tripHistoryDataList.symm.trans
        (same.tripHistoryDataList.trans second.tripHistoryDataList)
    · rw [← first.isDriverAvailable, ← second.isDriverAvailable]
      exact same.isDriverAvailable
  · intro carried
    obtain ⟨count, keys⟩ := trips.mp carried.trips
    refine ⟨earnings.mpr carried.earnings, count, keys, ?_, ?_, ?_⟩
    · exact first.tripHistoryDataList.trans
        (carried.entries.trans second.tripHistoryDataList.symm)
    · rw [first.isDriverAvailable, second.isDriverAvailable]
      exact carried.isDriverAvailable
    · rw [first.rideType, second.rideType]

/-- The first rider signed out before any trip was read. -/
def sampleLeft : Trips where
  rideType := DatabaseEvent.toString ⟨none⟩
  tabs := [{ uid := "rider-1", mounted := false, rideType := false }]
  database := sampleTrips

theorem sameShown_of_nothing_read :
    ∃ last₁ last₂,
      exec Trips.component { database := sampleTrips } [.mounted "rider-2", .firstNameRead 0,
        .queried 0, .rideTypeRead 0, .tripRead 0 "trip-2", .earningsRead 0] =
          some (last₁, []) ∧
      exec Trips.component sampleLeft [.mounted "rider-2", .earningsRead 1, .firstNameRead 1,
        .rideTypeRead 1, .queried 1, .tripRead 1 "trip-2"] = some (last₂, []) ∧
      SameShown last₁ last₂ := by
  have first : ((exec Trips.component { database := sampleTrips } [.mounted "rider-2",
      .firstNameRead 0, .queried 0, .rideTypeRead 0, .tripRead 0 "trip-2",
      .earningsRead 0]).map fun result => (decide result.1.Finished, result.2)) =
        some (true, []) := by
    decide +kernel
  have second : ((exec Trips.component sampleLeft [.mounted "rider-2", .earningsRead 1,
      .firstNameRead 1, .rideTypeRead 1, .queried 1, .tripRead 1 "trip-2"]).map fun result =>
        (decide result.1.Finished, result.2)) = some (true, []) := by
    decide +kernel
  obtain ⟨⟨last₁, emitted₁⟩, run₁, reached₁⟩ := Option.map_eq_some_iff.mp first
  obtain ⟨⟨last₂, emitted₂⟩, run₂, reached₂⟩ := Option.map_eq_some_iff.mp second
  simp only [Prod.mk.injEq, decide_eq_true_eq] at reached₁ reached₂
  obtain ⟨finished₁, rfl⟩ := reached₁
  obtain ⟨finished₂, rfl⟩ := reached₂
  have replies₁ : ∀ event ∈ [TripsEvent.firstNameRead 0, .queried 0, .rideTypeRead 0,
      .tripRead 0 "trip-2", .earningsRead 0], event.IsReply := by decide
  have replies₂ : ∀ event ∈ [TripsEvent.earningsRead 1, .firstNameRead 1, .rideTypeRead 1,
      .queried 1, .tripRead 1 "trip-2"], event.IsReply := by decide
  have record : ({ database := sampleTrips } : Trips).database.riders "rider-2" =
      sampleLeft.database.riders "rider-2" := rfl
  have found : sampleTrips.found "rider-2" = ["trip-2"] := by decide +kernel
  refine ⟨last₁, last₂, run₁, run₂, ?_⟩
  apply (sameShown_iff_nothingCarried record (by decide) (by decide) replies₁ replies₂ run₁ run₂
    finished₁ finished₂).mpr
  refine ⟨.inr rfl, ?_, List.Perm.refl _, rfl⟩
  show SameTrips {} {} (sampleTrips.found "rider-2") (sampleTrips.found "rider-2")
  rw [found]
  rfl

theorem not_sameShown_of_first_rider :
    ¬ ∀ (database : TripDatabase) (uid : String) (before₁ before₂ : List TripsEvent)
        (left₁ left₂ : Trips) (emitted₁ emitted₂ : List Empty),
      exec Trips.component { database := database } before₁ = some (left₁, emitted₁) →
      exec Trips.component { database := database } before₂ = some (left₂, emitted₂) →
      left₁.database.riders uid = left₂.database.riders uid → left₁.Vacant → left₂.Vacant →
      ∀ (replies₁ replies₂ : List TripsEvent) (last₁ last₂ : Trips)
        (emitted₁ emitted₂ : List Empty),
      (∀ event ∈ replies₁, event.IsReply) → (∀ event ∈ replies₂, event.IsReply) →
      exec Trips.component left₁ (.mounted uid :: replies₁) = some (last₁, emitted₁) →
      exec Trips.component left₂ (.mounted uid :: replies₂) = some (last₂, emitted₂) →
      last₁.Finished → last₂.Finished → SameShown last₁ last₂ := by
  intro always
  have first : ((exec Trips.component { database := sampleTrips }
      [.mounted "rider-1", .earningsRead 0, .unmounted 0]).map fun result =>
        (result.1.database.riders "rider-2", decide result.1.Vacant,
          (exec Trips.component result.1
            [.mounted "rider-2", .earningsRead 1, .firstNameRead 1, .rideTypeRead 1, .queried 1,
              .tripRead 1 "trip-2"]).map fun result =>
                (decide result.1.Finished, result.1.data.earnings))) =
      some ({ firstName := some (.text "Efua") }, true, some (true, "55.5")) := by
    decide +kernel
  have second : ((exec Trips.component { database := sampleTrips }
      [.mounted "rider-1", .unmounted 0]).map fun result =>
        (result.1.database.riders "rider-2", decide result.1.Vacant,
          (exec Trips.component result.1
            [.mounted "rider-2", .earningsRead 1, .firstNameRead 1, .rideTypeRead 1, .queried 1,
              .tripRead 1 "trip-2"]).map fun result =>
                (decide result.1.Finished, result.1.data.earnings))) =
      some ({ firstName := some (.text "Efua") }, true, some (true, "0")) := by
    decide +kernel
  obtain ⟨⟨left₁, emitted₁⟩, before₁, reached₁⟩ := Option.map_eq_some_iff.mp first
  obtain ⟨⟨left₂, emitted₂⟩, before₂, reached₂⟩ := Option.map_eq_some_iff.mp second
  simp only [Prod.mk.injEq, decide_eq_true_eq] at reached₁ reached₂
  obtain ⟨record₁, vacant₁, load₁⟩ := reached₁
  obtain ⟨record₂, vacant₂, load₂⟩ := reached₂
  obtain ⟨⟨last₁, later₁⟩, run₁, shown₁⟩ := Option.map_eq_some_iff.mp load₁
  obtain ⟨⟨last₂, later₂⟩, run₂, shown₂⟩ := Option.map_eq_some_iff.mp load₂
  simp only [Prod.mk.injEq, decide_eq_true_eq] at shown₁ shown₂
  have same := (always sampleTrips "rider-2" _ _ left₁ left₂ emitted₁ emitted₂ before₁ before₂
    (record₁.trans record₂.symm) vacant₁ vacant₂ _ _ last₁ last₂ later₁ later₂
    (by decide) (by decide) run₁ run₂ shown₁.1 shown₂.1).earnings
  rw [shown₁.2, shown₂.2] at same
  exact absurd same (by decide)

end FilldRider
