import FilldRider.Guest.Basic
import FilldRider.Models.Rider

/-!
# What guest mode finds

While its page is open its state has the stations of the newest delivery that could be
read. Of the riders it has all or none: a record for each entry of the index, each as it
was stored when its read was served, whatever is written in between.
-/

set_option autoImplicit false

namespace FilldRider

open Documents Runs

/-! ## What was read -/

namespace GuestAction

def index? : GuestAction → Option (Option Json)
  | .indexRead value => some value
  | .riderRead _ _ | .stationsRead _ => none

def rider? : GuestAction → Option (String × Option Json)
  | .riderRead riderId value => some (riderId, value)
  | .indexRead _ | .stationsRead _ => none

def stations? : GuestAction → Option (List GasStation)
  | .stationsRead value =>
      match stationsList value with
      | .ok stations => stations
      | .error _ => none
  | .indexRead _ | .riderRead _ _ => none

end GuestAction

def indexReads (history : List GuestAction) : List (Option Json) :=
  history.filterMap GuestAction.index?

def ridersRead (history : List GuestAction) : List (String × Option Json) :=
  history.filterMap GuestAction.rider?

def latestStations (history : List GuestAction) : List GasStation :=
  (history.filterMap GuestAction.stations?).getLast?.getD []

/-- What the fetch has come to, once it is ended. -/
def RiderFetch.result? : RiderFetch → Option (List Fields)
  | .index | .loop (.awaiting _ _ _) => none
  | .loop (.finished (.ok fetched)) => some fetched
  | .loop (.finished (.error _)) | .ended => some []

/-- How the fetch came to where it is. -/
def RiderFetch.Follows (history : List GuestAction) : RiderFetch → Prop
  | .index => indexReads history = [] ∧ ridersRead history = []
  | .loop stage => ∃ availableRiderData,
      indexReads history = [some (.object availableRiderData)] ∧
        fetchedRiders.Explains availableRiderData (ridersRead history) stage
  | .ended => ∃ value, indexReads history = [value] ∧
      (∀ availableRiderData, value ≠ some (.object availableRiderData)) ∧ ridersRead history = []

/-- A fetch that is ended has come to riders precisely if all it read says so. -/
theorem RiderFetch.result_of_follows {history : List GuestAction} {fetch : RiderFetch}
    {shown riders : List Fields} (follows : fetch.Follows history)
    (ended : fetch.result? = some shown) (proper : riders ≠ []) :
    shown = riders ↔ ∃ availableRiderData,
      indexReads history = [some (.object availableRiderData)] ∧
        collect riderId? availableRiderData = .ok ((ridersRead history).map Prod.fst) ∧
        collect riderDetails? ((ridersRead history).map Prod.snd) = .ok riders := by
  cases fetch with
  | index => cases ended
  | ended =>
      cases ended
      obtain ⟨value, read, other, _⟩ := follows
      constructor
      · intro none
        exact absurd none.symm proper
      · rintro ⟨availableRiderData, index, _⟩
        rw [read] at index
        exact absurd (List.cons.inj index).1 (other availableRiderData)
  | loop stage =>
      obtain ⟨availableRiderData, read, explains⟩ := follows
      cases stage with
      | awaiting riderId rest fetched => cases ended
      | finished result =>
          cases result with
          | ok fetched =>
              cases ended
              obtain ⟨asked, answered⟩ := explains
              constructor
              · rintro rfl
                exact ⟨availableRiderData, read, asked, answered⟩
              · rintro ⟨_, _, _, same⟩
                exact Except.ok.inj (answered.symm.trans same)
          | error thrown =>
              cases ended
              constructor
              · intro none
                exact absurd none.symm proper
              · rintro ⟨_, index, asked, answered⟩
                rw [read] at index
                cases index
                rcases explains with failed | ⟨_, _, _, _, failed⟩
                · exact absurd (asked.symm.trans failed) (by simp)
                · exact absurd (answered.symm.trans failed) (by simp)

/-- Nothing is shown of an index whose entries are all skipped. -/
theorem RiderFetch.result_of_skipped {history : List GuestAction} {fetch : RiderFetch}
    {shown : List Fields} (follows : fetch.Follows history) (ended : fetch.result? = some shown)
    (skipped : ∀ availableRiderData,
      indexReads history = [some (.object availableRiderData)] →
        collect riderId? availableRiderData = .ok []) : shown = [] := by
  by_contra proper
  obtain ⟨availableRiderData, read, asked, answered⟩ :=
    (RiderFetch.result_of_follows follows ended proper).mp rfl
  rw [skipped availableRiderData read] at asked
  have unread : ridersRead history = [] := List.map_eq_nil_iff.mp (Except.ok.inj asked).symm
  rw [unread] at answered
  exact proper (Except.ok.inj answered).symm

/-- Where the reads agree with one database, the awaits make no difference. -/
theorem RiderFetch.result_of_database {history : List GuestAction} {fetch : RiderFetch}
    {shown riders : List Fields} (follows : fetch.Follows history)
    (ended : fetch.result? = some shown) (proper : riders ≠ []) (database : String → Json)
    (same : ∀ read ∈ ridersRead history, read.2 = some (database read.1)) :
    shown = riders ↔ ∃ availableRiderData ids,
      indexReads history = [some (.object availableRiderData)] ∧
        collect riderId? availableRiderData = .ok ids ∧
        collect riderDetails? (ids.map fun riderId => some (database riderId)) = .ok riders := by
  rw [RiderFetch.result_of_follows follows ended proper]
  have answers : (ridersRead history).map Prod.snd =
      ((ridersRead history).map Prod.fst).map fun riderId => some (database riderId) := by
    rw [List.map_map]
    exact List.map_congr_left same
  constructor
  · rintro ⟨availableRiderData, read, asked, answered⟩
    rw [answers] at answered
    exact ⟨availableRiderData, _, read, asked, answered⟩
  · rintro ⟨availableRiderData, ids, read, asked, answered⟩
    cases fetch with
    | index => cases ended
    | ended =>
        obtain ⟨value, index, other, _⟩ := follows
        rw [index] at read
        exact absurd (List.cons.inj read).1 (other availableRiderData)
    | loop stage =>
        cases stage with
        | awaiting riderId rest fetched => cases ended
        | finished result =>
            obtain ⟨_, index, explains⟩ := follows
            rw [index] at read
            cases read
            have table := explains.of_table (fun riderId => some (database riderId)) same riders
            have finished := table.mpr ⟨ids, asked, answered⟩
            subst finished
            exact ⟨_, index, explains.1, explains.2⟩

namespace GuestModeScreen

variable {screen next : GuestModeScreen} {history emitted actions : List GuestAction}
  {event : GuestEvent} {events : List GuestEvent} {riders : List Fields}

/-! ## What is shown -/

structure Blank (screen : GuestModeScreen) : Prop where
  riderList : screen.riderList = []
  isRiderLoading : screen.isRiderLoading = true
  riderExists : screen.riderExists = false

structure Shows (screen : GuestModeScreen) (riders : List Fields) : Prop where
  riderList : screen.riderList = riders
  isRiderLoading : screen.isRiderLoading = false
  riderExists : screen.riderExists = !riders.isEmpty

/-- A page shows what its fetch came to, unless it was gone by then. -/
def Display (screen : GuestModeScreen) : Prop :=
  match screen.riderFetch.result? with
  | none => screen.Blank
  | some riders => screen.Shows riders ∨ screen.Blank ∧ screen.mounted = false

theorem Blank.caught (blank : screen.Blank) :
    screen.caught.Shows [] ∨ screen.caught.Blank ∧ screen.caught.mounted = false := by
  rw [GuestModeScreen.caught]
  split
  · exact .inl ⟨blank.riderList, rfl, rfl⟩
  · next gone => exact .inr ⟨blank, Bool.eq_false_iff.mpr gone⟩

@[simp] theorem riderFetch_caught (screen : GuestModeScreen) :
    screen.caught.riderFetch = screen.riderFetch := by
  rw [caught]
  split <;> rfl

@[simp] theorem riderFetch_showRiders (screen : GuestModeScreen) (fetched : List Fields) :
    (screen.showRiders fetched).riderFetch = screen.riderFetch := by
  rw [showRiders]
  split
  · rfl
  · exact riderFetch_caught screen

@[simp] theorem riderFetch_resumeLoop (screen : GuestModeScreen)
    (loop : Loop (String × Json) String Fields Thrown) :
    (screen.resumeLoop loop).riderFetch = .loop loop := by
  cases loop with
  | awaiting riderId rest fetched => rfl
  | finished result =>
      cases result with
      | ok fetched => exact riderFetch_showRiders _ fetched
      | error thrown => exact riderFetch_caught _

theorem Blank.resumeLoop (blank : screen.Blank)
    (loop : Loop (String × Json) String Fields Thrown) : (screen.resumeLoop loop).Display := by
  rw [Display, riderFetch_resumeLoop]
  cases loop with
  | awaiting riderId rest fetched => exact ⟨blank.1, blank.2, blank.3⟩
  | finished result =>
      cases result with
      | error thrown => exact Blank.caught ⟨blank.1, blank.2, blank.3⟩
      | ok fetched =>
          simp only [RiderFetch.result?, GuestModeScreen.resumeLoop, showRiders]
          split
          · exact .inl ⟨rfl, rfl, rfl⟩
          · next gone =>
            rw [GuestModeScreen.caught, if_neg gone]
            exact .inr ⟨⟨blank.1, blank.2, blank.3⟩, Bool.eq_false_iff.mpr gone⟩

theorem Blank.enterIndex (blank : screen.Blank) (value : Option Json) :
    (screen.enterIndex value).Display := by
  have ended : ({ screen with riderFetch := .ended } : GuestModeScreen).caught.Display := by
    rw [Display, riderFetch_caught]
    exact Blank.caught ⟨blank.1, blank.2, blank.3⟩
  cases value with
  | none => exact ended
  | some value =>
      cases value with
      | object availableRiderData => exact blank.resumeLoop _
      | null =>
          rw [GuestModeScreen.enterIndex]
          split
          · exact .inl ⟨blank.riderList, rfl, rfl⟩
          · exact ended
      | bool _ | int _ | double _ | string _ | list _ => exact ended

theorem Display.of_same (display : screen.Display) (riderList : next.riderList = screen.riderList)
    (isRiderLoading : next.isRiderLoading = screen.isRiderLoading)
    (riderExists : next.riderExists = screen.riderExists)
    (riderFetch : next.riderFetch = screen.riderFetch)
    (gone : screen.mounted = false → next.mounted = false) : next.Display := by
  rw [Display, riderFetch]
  rw [Display] at display
  cases ended : screen.riderFetch.result? with
  | none =>
      simp only [ended] at display
      exact ⟨riderList.trans display.1, isRiderLoading.trans display.2,
        riderExists.trans display.3⟩
  | some riders =>
      simp only [ended] at display
      rcases display with shows | ⟨blank, unmounted⟩
      · exact .inl ⟨riderList.trans shows.1, isRiderLoading.trans shows.2,
          riderExists.trans shows.3⟩
      · exact .inr ⟨⟨riderList.trans blank.1, isRiderLoading.trans blank.2,
          riderExists.trans blank.3⟩, gone unmounted⟩

theorem Display.step (display : screen.Display)
    (stepped : component screen event = some (next, emitted)) : next.Display := by
  cases event with
  | stations value =>
      simp only [component, GuestModeScreen.step, Option.some.injEq, Prod.mk.injEq] at stepped
      obtain ⟨rfl, rfl⟩ := stepped
      rw [fetchGasStations]
      split
      · split
        · exact display.of_same rfl rfl rfl rfl id
        · exact display
      · exact display
      · exact display
  | disposed =>
      simp only [component, GuestModeScreen.step, Option.ite_none_right_eq_some] at stepped
      obtain ⟨_, stepped⟩ := stepped
      cases stepped
      exact display.of_same rfl rfl rfl rfl fun _ => rfl
  | answered value =>
      simp only [component, GuestModeScreen.step] at stepped
      simp only [Display] at display
      split at stepped
      · next fetch =>
        cases stepped
        simp only [fetch, RiderFetch.result?] at display
        exact display.enterIndex value
      · next riderId rest fetched fetch =>
        cases stepped
        simp only [fetch, RiderFetch.result?] at display
        exact display.resumeLoop _
      · cases stepped
      · cases stepped

/-! ## How it was read -/

theorem follows_enterIndex (value : Option Json) (unread : indexReads history = [])
    (none : ridersRead history = []) :
    (screen.enterIndex value).riderFetch.Follows (history ++ [.indexRead value]) := by
  have read : indexReads (history ++ [.indexRead value]) = [value] := by
    simp only [indexReads, List.filterMap_append] at unread ⊢
    rw [unread]
    rfl
  have same : ridersRead (history ++ [.indexRead value]) = [] := by
    simp only [ridersRead, List.filterMap_append] at none ⊢
    rw [none]
    rfl
  have ended (other : ∀ availableRiderData, value ≠ some (.object availableRiderData)) :
      ({ screen with riderFetch := .ended } : GuestModeScreen).caught.riderFetch.Follows
        (history ++ [.indexRead value]) := by
    rw [riderFetch_caught]
    exact ⟨value, read, other, same⟩
  cases value with
  | none => exact ended (by simp)
  | some value =>
      cases value with
      | object availableRiderData =>
          rw [enterIndex, riderFetch_resumeLoop]
          have entered : fetchedRiders.Explains ([] ++ availableRiderData) []
              (fetchedRiders.enter availableRiderData []) := Body.explains_enter rfl rfl
          refine ⟨availableRiderData, read, ?_⟩
          rwa [same]
      | null =>
          rw [enterIndex]
          split
          · exact ⟨_, read, by simp, same⟩
          · exact ended (by simp)
      | bool _ | int _ | double _ | string _ | list _ => exact ended (by simp)

theorem follows_step (follows : screen.riderFetch.Follows history)
    (stepped : component screen event = some (next, emitted)) :
    next.riderFetch.Follows (history ++ emitted) := by
  cases event with
  | stations value =>
      simp only [component, GuestModeScreen.step, Option.some.injEq, Prod.mk.injEq] at stepped
      obtain ⟨rfl, rfl⟩ := stepped
      have fetch : (screen.fetchGasStations value).riderFetch = screen.riderFetch := by
        rw [fetchGasStations]
        split
        · split <;> rfl
        · rfl
        · rfl
      have index : indexReads (history ++ [.stationsRead value]) = indexReads history := by
        simp [indexReads, GuestAction.index?]
      have riders : ridersRead (history ++ [.stationsRead value]) = ridersRead history := by
        simp [ridersRead, GuestAction.rider?]
      rw [fetch]
      cases place : screen.riderFetch with
      | index | loop _ | ended =>
          simp only [place, RiderFetch.Follows, index, riders] at follows ⊢
          exact follows
  | disposed =>
      simp only [component, GuestModeScreen.step, Option.ite_none_right_eq_some] at stepped
      obtain ⟨_, stepped⟩ := stepped
      simp only [Option.some.injEq, Prod.mk.injEq] at stepped
      obtain ⟨rfl, rfl⟩ := stepped
      rw [List.append_nil]
      exact follows
  | answered value =>
      simp only [component, GuestModeScreen.step] at stepped
      split at stepped
      · next fetch =>
        cases stepped
        rw [fetch] at follows
        exact follows_enterIndex value follows.1 follows.2
      · next riderId rest fetched fetch =>
        cases stepped
        rw [fetch] at follows
        obtain ⟨availableRiderData, index, explains⟩ := follows
        rw [riderFetch_resumeLoop]
        refine ⟨availableRiderData, ?_, ?_⟩
        · have unread : indexReads (history ++ [.riderRead riderId value]) = indexReads history := by
            simp [indexReads, GuestAction.index?]
          exact unread.trans index
        · have read : ridersRead (history ++ [.riderRead riderId value]) =
              ridersRead history ++ [(riderId, value)] := by
            simp [ridersRead, GuestAction.rider?]
          rw [read]
          exact explains.resume value
      · cases stepped
      · cases stepped

/-! ## The stations -/

theorem latestStations_append (value : Json) :
    latestStations (history ++ [.stationsRead value]) =
      match stationsList value with
      | .ok (some stations) => stations
      | .ok none | .error _ => latestStations history := by
  rw [latestStations, List.filterMap_append]
  cases delivered : stationsList value with
  | error thrown => simp [GuestAction.stations?, delivered, latestStations]
  | ok stations =>
      cases stations with
      | none => simp [GuestAction.stations?, delivered, latestStations]
      | some stations => simp [GuestAction.stations?, delivered]

@[simp] theorem gasStations_caught (screen : GuestModeScreen) :
    screen.caught.gasStations = screen.gasStations ∧ screen.caught.mounted = screen.mounted := by
  rw [caught]
  split <;> exact ⟨rfl, rfl⟩

theorem gasStations_resumeLoop (screen : GuestModeScreen)
    (loop : Loop (String × Json) String Fields Thrown) :
    (screen.resumeLoop loop).gasStations = screen.gasStations ∧
      (screen.resumeLoop loop).mounted = screen.mounted := by
  cases loop with
  | awaiting riderId rest fetched => exact ⟨rfl, rfl⟩
  | finished result =>
      cases result with
      | error thrown => exact gasStations_caught _
      | ok fetched =>
          rw [resumeLoop, showRiders]
          split
          · exact ⟨rfl, rfl⟩
          · exact gasStations_caught _

theorem gasStations_enterIndex (screen : GuestModeScreen) (value : Option Json) :
    (screen.enterIndex value).gasStations = screen.gasStations ∧
      (screen.enterIndex value).mounted = screen.mounted := by
  unfold enterIndex
  split
  · split
    · exact ⟨rfl, rfl⟩
    · exact gasStations_caught _
  · exact gasStations_resumeLoop screen _
  · exact gasStations_caught _
  · exact gasStations_caught _

theorem stations_step
    (shown : screen.mounted = true → screen.gasStations = latestStations history)
    (stepped : component screen event = some (next, emitted)) :
    next.mounted = true → next.gasStations = latestStations (history ++ emitted) := by
  intro mounted
  cases event with
  | stations value =>
      simp only [component, GuestModeScreen.step, Option.some.injEq, Prod.mk.injEq] at stepped
      obtain ⟨rfl, rfl⟩ := stepped
      rw [latestStations_append]
      simp only [fetchGasStations] at mounted ⊢
      cases delivered : stationsList value with
      | error thrown =>
          simp only [delivered] at mounted ⊢
          exact shown mounted
      | ok stations =>
          cases stations with
          | none =>
              simp only [delivered] at mounted ⊢
              exact shown mounted
          | some stations =>
              simp only [delivered] at mounted ⊢
              split at mounted
              · next opened => rw [if_pos opened]
              · next gone => exact absurd mounted gone
  | disposed =>
      simp only [component, GuestModeScreen.step, Option.ite_none_right_eq_some] at stepped
      obtain ⟨_, stepped⟩ := stepped
      cases stepped
      cases mounted
  | answered value =>
      have other (read : GuestAction) (none : read.stations? = none) :
          latestStations (history ++ [read]) = latestStations history := by
        simp [latestStations, none]
      simp only [component, GuestModeScreen.step] at stepped
      split at stepped
      · cases stepped
        obtain ⟨same, still⟩ := gasStations_enterIndex screen value
        rw [other _ rfl, same]
        exact shown (still ▸ mounted)
      · cases stepped
        obtain ⟨same, still⟩ := gasStations_resumeLoop screen _
        rw [other _ rfl, same]
        exact shown (still ▸ mounted)
      · cases stepped
      · cases stepped

/-! ## All runs -/

/-- Deliveries that are null or hold a malformed entry leave the older list standing. -/
theorem gasStations_of_run (run : exec component {} events = some (screen, actions))
    (mounted : screen.mounted = true) : screen.gasStations = latestStations actions := by
  have law : screen.mounted = true → screen.gasStations = latestStations ([] ++ actions) := by
    apply exec_invariant (fun history (screen : GuestModeScreen) =>
      screen.mounted = true → screen.gasStations = latestStations history) _ (fun _ => rfl) run
    intro history before event after emitted shown stepped
    exact stations_step shown stepped
  exact law mounted

private theorem display_of_run (run : exec component {} events = some (screen, actions)) :
    screen.Display := by
  apply exec_invariant_state Display _ _ run
  · intro before event after emitted display stepped
    exact display.step stepped
  · exact ⟨rfl, rfl, rfl⟩

private theorem follows_of_run (run : exec component {} events = some (screen, actions)) :
    screen.riderFetch.Follows actions := by
  have follows : screen.riderFetch.Follows ([] ++ actions) := by
    apply exec_invariant (fun history (screen : GuestModeScreen) =>
      screen.riderFetch.Follows history) _ _ run
    · intro history before event after emitted follows stepped
      exact follows_step follows stepped
    · exact ⟨rfl, rfl⟩
  exact follows

/-- The page has riders only once all of them are read, and has those of all entries:
a record for each entry that has one, as it was when its read was served. -/
theorem riders_all_or_nothing (run : exec component {} events = some (screen, actions)) :
    (screen.riderExists = true ↔ screen.riderList ≠ []) ∧
      (screen.isRiderLoading = true → screen.riderList = []) ∧
      ∀ riders, riders ≠ [] → screen.isRiderLoading = false →
        (screen.riderList = riders ↔ ∃ availableRiderData,
          indexReads actions = [some (.object availableRiderData)] ∧
            collect riderId? availableRiderData = .ok ((ridersRead actions).map Prod.fst) ∧
            collect riderDetails? ((ridersRead actions).map Prod.snd) = .ok riders) := by
  have display := display_of_run run
  have follows := follows_of_run run
  rw [Display] at display
  cases ended : screen.riderFetch.result? with
  | none =>
      simp only [ended] at display
      obtain ⟨list, loading, exists_⟩ := display
      refine ⟨by simp [list, exists_], fun _ => list, ?_⟩
      intro riders proper loaded
      exact absurd (loading.symm.trans loaded) (by decide)
  | some shown =>
      simp only [ended] at display
      rcases display with ⟨list, loading, exists_⟩ | ⟨⟨list, loading, exists_⟩, _⟩
      · refine ⟨by cases shown <;> simp [list, exists_], ?_, ?_⟩
        · intro loads
          exact absurd (loading.symm.trans loads) (by decide)
        · intro riders proper _
          rw [list]
          exact RiderFetch.result_of_follows follows ended proper
      · refine ⟨by simp [list, exists_], fun _ => list, ?_⟩
        intro riders proper loaded
        exact absurd (loading.symm.trans loaded) (by decide)

/-- Guests who load while nothing is written see what the stored riders are. -/
theorem riderList_of_database (run : exec component {} events = some (screen, actions))
    (database : String → Json)
    (same : ∀ read ∈ ridersRead actions, read.2 = some (database read.1))
    (loaded : screen.isRiderLoading = false) (proper : riders ≠ []) :
    screen.riderList = riders ↔ ∃ availableRiderData ids,
      indexReads actions = [some (.object availableRiderData)] ∧
        collect riderId? availableRiderData = .ok ids ∧
        collect riderDetails? (ids.map fun riderId => some (database riderId)) = .ok riders := by
  have display := display_of_run run
  rw [Display] at display
  cases ended : screen.riderFetch.result? with
  | none =>
      simp only [ended] at display
      exact absurd (display.isRiderLoading.symm.trans loaded) (by decide)
  | some shown =>
      simp only [ended] at display
      rcases display with shows | ⟨blank, _⟩
      · rw [shows.riderList]
        exact RiderFetch.result_of_database (follows_of_run run) ended proper database same
      · exact absurd (blank.isRiderLoading.symm.trans loaded) (by decide)

end GuestModeScreen

/-! ## The entries the app itself stores -/

/-- An entry as geofire stores a location. -/
def geofireEntry (geohash : LatLng → String) (uid : String) (location : LatLng) : String × Json :=
  (uid, .object
    [("g", .string (geohash location)),
      ("l", .list [.double location.latitude, .double location.longitude])])

/-- `availableRider` as the riders' nodes make it. -/
def availableRiders (geohash : LatLng → String) (riders : List (String × RiderNode)) : Json :=
  match riders.filterMap fun rider =>
    rider.2.availableRider.map (geofireEntry geohash rider.1) with
  | [] => .null
  | entries => .object entries

theorem skipped_geofireEntry (geohash : LatLng → String) (uid : String) (location : LatLng) :
    riderId? (geofireEntry geohash uid location) = .ok none := rfl

theorem collect_availableRiders (geohash : LatLng → String) (riders : List (String × RiderNode))
    {entries : Fields} (same : availableRiders geohash riders = .object entries) :
    collect riderId? entries = .ok [] := by
  rw [availableRiders] at same
  split at same
  · cases same
  · cases same
    apply collect_of_skipped
    intro entry member
    obtain ⟨rider, _, made⟩ := List.mem_filterMap.mp member
    obtain ⟨location, _, rfl⟩ := Option.map_eq_some_iff.mp made
    exact skipped_geofireEntry geohash rider.1 location

/-- Whichever riders are online, the page finds none of them: the entries geofire stores
have no `riderId`. -/
theorem unlisted_of_geofire {screen : GuestModeScreen} {actions : List GuestAction}
    {events : List GuestEvent}
    (run : exec GuestModeScreen.component {} events = some (screen, actions))
    (geohash : LatLng → String)
    (stored : ∀ value ∈ indexReads actions, ∀ found, value = some found →
      ∃ riders, found = availableRiders geohash riders) :
    screen.riderList = [] ∧ screen.riderExists = false := by
  have display := GuestModeScreen.display_of_run run
  rw [GuestModeScreen.Display] at display
  cases ended : screen.riderFetch.result? with
  | none =>
      simp only [ended] at display
      exact ⟨display.riderList, display.riderExists⟩
  | some shown =>
      have nothing : shown = [] := by
        apply RiderFetch.result_of_skipped (GuestModeScreen.follows_of_run run) ended
        intro entries read
        obtain ⟨riders, same⟩ := stored _ (by rw [read]; exact List.mem_singleton_self _) _ rfl
        exact collect_availableRiders geohash riders same.symm
      subst nothing
      simp only [ended] at display
      rcases display with shows | ⟨blank, _⟩
      · exact ⟨shows.riderList, shows.riderExists⟩
      · exact ⟨blank.riderList, blank.riderExists⟩

/-! ## A visit -/

/-- An index with two riders and an entry of geofire between them. -/
def mixedIndex : Json :=
  .object
    [("first", .object [("riderId", .string "rider-1")]),
      geofireEntry (fun _ => "s1v0") "rider-2" ⟨5, 0⟩,
      ("third", .object [("riderId", .string "rider-3")])]

/-- The first record is there, the second is not; a delivery of stations comes between. -/
def sampleVisit : List GuestEvent :=
  [.answered (some mixedIndex),
    .answered (some (.object [("FirstName", .string "Ama")])),
    .stations (.object [("station", .object [("Location", .string "Osu")])]),
    .answered (some .null)]

theorem riders_sampleVisit :
    ∃ screen actions,
      exec GuestModeScreen.component {} sampleVisit = some (screen, actions) ∧
      screen.isRiderLoading = false ∧
      (screen.riderList = [[("FirstName", .string "Ama")]] ↔ ∃ availableRiderData,
        indexReads actions = [some (.object availableRiderData)] ∧
          collect riderId? availableRiderData = .ok ((ridersRead actions).map Prod.fst) ∧
          collect riderDetails? ((ridersRead actions).map Prod.snd) =
            .ok [[("FirstName", .string "Ama")]]) := by
  refine ⟨_, _, rfl, rfl, ?_⟩
  have run : exec GuestModeScreen.component {} sampleVisit = some (_, _) := rfl
  exact (GuestModeScreen.riders_all_or_nothing run).2.2 _ (by simp) rfl

def onlineRiders : List (String × RiderNode) :=
  [("rider-1", { availableRider := some ⟨5, 0⟩ }), ("rider-2", {}),
    ("rider-3", { availableRider := some ⟨6, 1⟩ })]

theorem unlisted_onlineRiders :
    ∃ screen actions,
      exec GuestModeScreen.component {}
        [.answered (some (availableRiders (fun _ => "s1v0") onlineRiders))] =
          some (screen, actions) ∧
      screen.isRiderLoading = false ∧ screen.riderList = [] ∧ screen.riderExists = false := by
  refine ⟨_, _, rfl, rfl, ?_⟩
  have run : exec GuestModeScreen.component {}
      [.answered (some (availableRiders (fun _ => "s1v0") onlineRiders))] = some (_, _) := rfl
  apply unlisted_of_geofire run (fun _ => "s1v0")
  intro value read found same
  subst same
  cases List.mem_singleton.mp read
  exact ⟨onlineRiders, rfl⟩

end FilldRider
