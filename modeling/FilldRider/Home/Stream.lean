import FilldRider.Home.Availability

/-!
# The position stream of the home tab

Every tap that goes online listens to positions once more, and the listener looks at the
page's own flag, which the button never sets.
-/

set_option autoImplicit false

namespace FilldRider

open Runs

namespace Home

/-- At most one stream is listened to, and none while the rider is offline. -/
structure ListensOnline (home : Home) : Prop where
  single : home.streams.length ≤ 1
  offline : home.isDriverAvailable = false → home.streams = []

/-- A position is written to the index exactly while the rider is online. -/
def Tracks (_ : List RiderWrite) (home : Home) (event : HomeEvent) : Prop :=
  match event with
  | .position _ position =>
      ∀ result ∈ home.step event, .setLocation position ∈ result.2 ↔
        home.isDriverAvailable = true
  | .tap | .statusRead _ | .located _ | .lookupFailed => True

/-- No position arrives, and no tap goes offline once a stream is listened to. -/
def StaysOnline (_ : List RiderWrite) (home : Home) : HomeEvent → Prop
  | .position .. => False
  | .statusRead data =>
      data = some "deactivated" ∨ home.isDriverAvailable = false ∨ home.streams = []
  | .tap | .located _ | .lookupFailed => True

instance (history : List RiderWrite) (home : Home) :
    ∀ event, Decidable (StaysOnline history home event)
  | .position .. => isFalse id
  | .statusRead _ => inferInstanceAs (Decidable (_ ∨ _ ∨ _))
  | .tap | .located _ | .lookupFailed => isTrue trivial

/-- The page's own flag stays as it was built. -/
structure StreamLaw (home : Home) : Prop where
  page : home.pageDriverAvailable = false
  listens : home.ListensOnline

variable {home next : Home} {event : HomeEvent} {writes history : List RiderWrite}

/-- A position comes from a stream, so the rider is online; nothing is written. -/
theorem StreamLaw.position {stream : Nat} {position : LatLng} (law : StreamLaw home)
    (stepped : home.step (.position stream position) = some (next, writes)) :
    home.isDriverAvailable = true ∧ writes = [] := by
  simp only [step] at stepped
  split at stepped
  · next listened =>
    cases stepped
    refine ⟨?_, by simp [law.page]⟩
    rw [← Bool.not_eq_false]
    intro offline
    rw [law.listens.offline offline] at listened
    cases listened
  · cases stepped

private theorem StreamLaw.step (law : StreamLaw home) (stays : StaysOnline history home event)
    (stepped : home.step event = some (next, writes)) : StreamLaw next := by
  cases step_moves stepped with
  | tap flag lookups streams page | located pending flag lookups streams page
  | lookupFailed pending flag lookups streams page =>
      refine ⟨page.trans law.page, ?_, ?_⟩
      · rw [streams]
        exact law.listens.single
      · rw [streams, flag]
        exact law.listens.offline
  | deactivated flag lookups streams page =>
      refine ⟨page.trans law.page, ?_, ?_⟩
      · rw [streams]
        exact law.listens.single
      · simp [flag]
  | online activated offline flag lookups streams page =>
      refine ⟨page.trans law.page, ?_, ?_⟩
      · rw [streams, law.listens.offline offline]
        exact le_rfl
      · simp [flag]
  | offline activated online flag lookups streams page =>
      have none : home.streams = [] := by
        rcases stays with deactivated | offline | none
        · exact (activated deactivated).elim
        · rw [offline] at online
          cases online
        · exact none
      refine ⟨page.trans law.page, ?_, ?_⟩
      · rw [streams]
        exact law.listens.single
      · rw [streams]
        exact fun _ => none
  | position flag lookups streams page => exact stays.elim

private theorem staysOnline_of_listens (law : StreamLaw home)
    (stepped : home.step event = some (next, writes)) (listens : next.ListensOnline)
    (tracks : Tracks history home event) : StaysOnline history home event := by
  cases event with
  | position stream position =>
      obtain ⟨online, none⟩ := law.position stepped
      have written := (tracks _ stepped).mpr online
      rw [none] at written
      cases written
  | statusRead data =>
      cases step_moves stepped with
      | deactivated flag lookups streams page => exact .inl rfl
      | online activated offline flag lookups streams page => exact .inr (.inl offline)
      | offline activated online flag lookups streams page =>
          exact .inr (.inr (streams.symm.trans (listens.offline flag)))
  | tap | located | lookupFailed => trivial

/-- From a page just built, the stream follows the online state exactly when the rider
stays online and does not move. -/
theorem listensOnline_iff_staysOnline {events : List HomeEvent}
    (run : exec component {} events = some (home, writes)) :
    Always component (fun _ home => home.ListensOnline) [] {} events ∧
        Meets component Tracks [] {} events ↔
      Meets component StaysOnline [] {} events := by
  have all : ∀ event ∈ events, True := fun _ _ => trivial
  apply always_meets_iff_meets (fun _ home => StreamLaw home) (fun _ home => home.ListensOnline)
    _ _ _ _ ⟨rfl, by simp, fun _ => rfl⟩ all run
  · intro history home law
    exact law.listens
  · intro history home event next writes law _ stays stepped
    exact law.step stays stepped
  · intro history home event next writes law _ stays stepped
    cases event with
    | position stream position => exact stays.elim
    | tap | statusRead | located | lookupFailed => trivial
  · intro history home event next writes law _ stepped listens tracks
    exact staysOnline_of_listens law stepped listens tracks

end Home

theorem listensOnline_of_first_fix :
    ∃ home writes,
      exec Home.component {} [.tap, .statusRead none, .located ⟨5, 0⟩] = some (home, writes) ∧
      home.streams = [0] ∧
      Always Home.component (fun _ home => home.ListensOnline) [] {}
        [.tap, .statusRead none, .located ⟨5, 0⟩] ∧
      Meets Home.component Home.Tracks [] {} [.tap, .statusRead none, .located ⟨5, 0⟩] := by
  have ends : (exec Home.component {} [.tap, .statusRead none, .located ⟨5, 0⟩]).map
      (fun result => decide (result.1.streams = [0])) = some true := by
    decide +kernel
  obtain ⟨⟨home, writes⟩, run, one⟩ := Option.map_eq_some_iff.mp ends
  have stays : Meets Home.component Home.StaysOnline [] {}
      [.tap, .statusRead none, .located ⟨5, 0⟩] := by
    decide +kernel
  exact ⟨home, writes, run, of_decide_eq_true one,
    (Home.listensOnline_iff_staysOnline run).mpr stays⟩

/-- Going online and offline again leaves a stream behind. -/
theorem not_listensOnline_of_toggle :
    ¬ ∀ (events : List HomeEvent) (home : Home) (writes : List RiderWrite),
      exec Home.component {} events = some (home, writes) →
      Always Home.component (fun _ home => home.ListensOnline) [] {} events ∧
        Meets Home.component Home.Tracks [] {} events := by
  intro follows
  have ends : (exec Home.component {}
      [.tap, .statusRead none, .located ⟨5, 0⟩, .tap, .statusRead none]).map
        (fun result => (result.1.isDriverAvailable, result.1.streams)) = some (false, [0]) := by
    decide +kernel
  obtain ⟨⟨home, writes⟩, run, reached⟩ := Option.map_eq_some_iff.mp ends
  simp only [Prod.mk.injEq] at reached
  have last := (follows _ home writes run).1.last run
  have none := last.offline reached.1
  rw [reached.2] at none
  cases none

end FilldRider
