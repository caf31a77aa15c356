import FilldRider.Home.Basic

/-!
# Shown and stored availability

What the taps on the online/offline button leave behind: the flag on one side, the
index entry and the slot on the other, compared when nothing is pending.
-/

set_option autoImplicit false

namespace FilldRider

open Runs

inductive HomeMove (before : Home) : HomeEvent → Home → List RiderWrite → Prop where
  | tap {after : Home} (flag : after.isDriverAvailable = before.isDriverAvailable)
      (lookups : after.lookups = before.lookups) (streams : after.streams = before.streams)
      (page : after.pageDriverAvailable = before.pageDriverAvailable) :
      HomeMove before .tap after []
  | deactivated {after : Home} (flag : after.isDriverAvailable = true)
      (lookups : after.lookups = before.lookups) (streams : after.streams = before.streams)
      (page : after.pageDriverAvailable = before.pageDriverAvailable) :
      HomeMove before (.statusRead (some "deactivated")) after []
  | online {after : Home} {data : Option String} (activated : data ≠ some "deactivated")
      (offline : before.isDriverAvailable = false) (flag : after.isDriverAvailable = true)
      (lookups : after.lookups = before.lookups + 1)
      (streams : after.streams = before.streams ++ [0])
      (page : after.pageDriverAvailable = before.pageDriverAvailable) :
      HomeMove before (.statusRead data) after []
  | offline {after : Home} {data : Option String} (activated : data ≠ some "deactivated")
      (online : before.isDriverAvailable = true) (flag : after.isDriverAvailable = false)
      (lookups : after.lookups = before.lookups) (streams : after.streams = before.streams)
      (page : after.pageDriverAvailable = before.pageDriverAvailable) :
      HomeMove before (.statusRead data) after [.removeLocation, .removeSlot]
  | located {after : Home} {position : LatLng} (pending : 0 < before.lookups)
      (flag : after.isDriverAvailable = before.isDriverAvailable)
      (lookups : after.lookups = before.lookups - 1)
      (streams : after.streams = before.streams)
      (page : after.pageDriverAvailable = before.pageDriverAvailable) :
      HomeMove before (.located position) after
        [.searching "searching", .setLocation position, .searching "Searching"]
  | lookupFailed {after : Home} (pending : 0 < before.lookups)
      (flag : after.isDriverAvailable = before.isDriverAvailable)
      (lookups : after.lookups = before.lookups - 1)
      (streams : after.streams = before.streams)
      (page : after.pageDriverAvailable = before.pageDriverAvailable) :
      HomeMove before .lookupFailed after []
  | position {after : Home} {stream : Nat} {position : LatLng}
      (flag : after.isDriverAvailable = before.isDriverAvailable)
      (lookups : after.lookups = before.lookups) (streams : after.streams = before.streams)
      (page : after.pageDriverAvailable = before.pageDriverAvailable) :
      HomeMove before (.position stream position) after
        (if before.pageDriverAvailable then [.setLocation position] else [])

namespace Home

variable {before after : Home} {writes : List RiderWrite}

private theorem handleStatus_moves (waiting : Home) (data : Option String)
    (flag : waiting.isDriverAvailable = before.isDriverAvailable)
    (lookups : waiting.lookups = before.lookups) (streams : waiting.streams = before.streams)
    (page : waiting.pageDriverAvailable = before.pageDriverAvailable) :
    HomeMove before (.statusRead data) (waiting.handleStatus data).1
      (waiting.handleStatus data).2 := by
  by_cases deactivated : data = some "deactivated"
  · subst deactivated
    exact .deactivated rfl lookups streams page
  · cases available : before.isDriverAvailable with
    | false =>
        simp only [handleStatus, deactivated, flag, available, Bool.not_false, if_true, if_false]
        exact .online deactivated available rfl (congrArg (· + 1) lookups)
          (congrArg (· ++ [0]) streams) page
    | true =>
        simp only [handleStatus, deactivated, flag, available, Bool.not_true, if_false,
          Bool.false_eq_true]
        exact .offline deactivated available rfl lookups streams page

theorem step_moves {event : HomeEvent} (stepped : before.step event = some (after, writes)) :
    HomeMove before event after writes := by
  cases event with
  | tap =>
      cases stepped
      exact .tap rfl rfl rfl rfl
  | statusRead data =>
      simp only [step] at stepped
      split at stepped
      · have moves : HomeMove before _ _ _ :=
          handleStatus_moves { before with statusReads := before.statusReads - 1 } data
            rfl rfl rfl rfl
        rwa [Option.some.inj stepped] at moves
      · cases stepped
  | located position =>
      simp only [step] at stepped
      split at stepped
      · next pending =>
        cases stepped
        exact .located pending rfl rfl rfl rfl
      · cases stepped
  | lookupFailed =>
      simp only [step] at stepped
      split at stepped
      · next pending =>
        cases stepped
        exact .lookupFailed pending rfl rfl rfl rfl
      · cases stepped
  | position stream position =>
      simp only [step] at stepped
      split at stepped
      · cases stepped
        exact .position rfl rfl rfl rfl
      · cases stepped

end Home

/-- The rider's node once all writes issued so far are stored, in the order issued. -/
def storedNode (start : RiderNode) (writes : List RiderWrite) : RiderNode :=
  writes.foldl RiderNode.apply start

@[simp] theorem storedNode_append (start : RiderNode) (before after : List RiderWrite) :
    storedNode start (before ++ after) = storedNode (storedNode start before) after :=
  List.foldl_append ..

/-- Shown available exactly if in the index, and exactly if the slot is searching. -/
structure Consistent (home : Home) (node : RiderNode) : Prop where
  index : home.isDriverAvailable = true ↔ node.availableRider.isSome = true
  slot : home.isDriverAvailable = true ↔ node.Searching

/-- A fix comes only while the rider is still shown as available, and a lookup of
such a rider fails only if another one is pending or the entry exists already. -/
def FixesInTime (start : RiderNode) (history : List RiderWrite) (home : Home) :
    HomeEvent → Prop
  | .located _ => home.isDriverAvailable = true
  | .lookupFailed =>
      home.isDriverAvailable = true →
        1 < home.lookups ∨ (storedNode start history).availableRider.isSome = true
  | .tap | .statusRead _ | .position .. => True

instance (start : RiderNode) (history : List RiderWrite) (home : Home) :
    ∀ event, Decidable (FixesInTime start history home event)
  | .located _ => inferInstanceAs (Decidable (_ = _))
  | .lookupFailed => inferInstanceAs (Decidable (_ → _))
  | .tap | .statusRead _ | .position .. => isTrue trivial

def Activated (events : List HomeEvent) : Prop :=
  .statusRead (some "deactivated") ∉ events

instance (events : List HomeEvent) : Decidable (Activated events) :=
  inferInstanceAs (Decidable (¬ _))

/-- The law while fixes come in time: an offline rider is nowhere, a rider shown as
available is in the index or waits for a fix, and the slot goes with the index. -/
structure AvailabilityLaw (start : RiderNode) (history : List RiderWrite) (home : Home) :
    Prop where
  paired : (storedNode start history).availableRider.isSome = true ↔
    (storedNode start history).Searching
  offline : home.isDriverAvailable = false →
    (storedNode start history).availableRider.isSome = false
  online : home.isDriverAvailable = true →
    0 < home.lookups ∨ (storedNode start history).availableRider.isSome = true
  page : home.pageDriverAvailable = false

theorem AvailabilityLaw.initial {start : RiderNode} (consistent : Consistent {} start) :
    AvailabilityLaw start [] {} where
  paired := consistent.index.symm.trans consistent.slot
  offline := by
    intro _
    cases entry : start.availableRider.isSome with
    | false => exact entry
    | true => cases consistent.index.mpr entry
  online := by
    intro available
    cases available
  page := rfl

theorem AvailabilityLaw.consistent {start : RiderNode} {history : List RiderWrite}
    {home : Home} (law : AvailabilityLaw start history home) (settled : home.Settled) :
    Consistent home (storedNode start history) := by
  have index : home.isDriverAvailable = true ↔
      (storedNode start history).availableRider.isSome = true := by
    constructor
    · intro available
      rcases law.online available with pending | entry
      · rw [settled.completed] at pending
        cases pending
      · exact entry
    · intro entry
      cases available : home.isDriverAvailable with
      | true => rfl
      | false =>
          rw [law.offline available] at entry
          cases entry
  exact ⟨index, index.trans law.paired⟩

section Steps

variable {start : RiderNode} {history writes : List RiderWrite} {before after : Home}

theorem AvailabilityLaw.silent_step (law : AvailabilityLaw start history before)
    (page : after.pageDriverAvailable = before.pageDriverAvailable)
    (offline : after.isDriverAvailable = false → before.isDriverAvailable = false)
    (online : after.isDriverAvailable = true →
      0 < after.lookups ∨ (storedNode start history).availableRider.isSome = true) :
    AvailabilityLaw start (history ++ []) after := by
  rw [List.append_nil]
  exact ⟨law.paired, fun hidden => law.offline (offline hidden), online, page.trans law.page⟩

theorem AvailabilityLaw.move {event : HomeEvent} (law : AvailabilityLaw start history before)
    (inTime : FixesInTime start history before event)
    (activated : event ≠ .statusRead (some "deactivated"))
    (moves : HomeMove before event after writes) :
    AvailabilityLaw start (history ++ writes) after := by
  cases moves with
  | tap flag lookups streams page =>
      apply law.silent_step page
      · rw [flag]
        exact id
      · rw [flag, lookups]
        exact law.online
  | deactivated flag lookups streams page => exact (activated rfl).elim
  | online activated offline flag lookups streams page =>
      apply law.silent_step page
      · rw [flag]
        intro hidden
        cases hidden
      · rw [lookups]
        exact fun _ => .inl (Nat.succ_pos _)
  | offline activated online flag lookups streams page =>
      constructor
      · simp [storedNode, RiderNode.apply, RiderNode.Searching]
      · simp [storedNode, RiderNode.apply]
      · rw [flag]
        intro available
        cases available
      · exact page.trans law.page
  | located pending flag lookups streams page =>
      constructor
      · simp [storedNode, RiderNode.apply, RiderNode.Searching]
      · intro hidden
        have shown : before.isDriverAvailable = true := inTime
        rw [flag, shown] at hidden
        cases hidden
      · intro _
        right
        simp [storedNode, RiderNode.apply]
      · exact page.trans law.page
  | lookupFailed pending flag lookups streams page =>
      apply law.silent_step page
      · rw [flag]
        exact id
      · rw [flag, lookups]
        intro available
        rcases inTime available with more | entry
        · exact .inl (by omega)
        · exact .inr entry
  | position flag lookups streams page =>
      rw [law.page]
      apply law.silent_step page
      · rw [flag]
        exact id
      · rw [flag, lookups]
        exact law.online

end Steps

/-- Whatever the order of the status reads and lookups, while every fix comes in
time the flag, the index and the slot agree whenever nothing is pending. -/
theorem consistent_of_fixesInTime {start : RiderNode} {home : Home}
    {events : List HomeEvent} {writes : List RiderWrite}
    (consistent : Consistent {} start) (activated : Activated events)
    (inTime : Meets Home.component (FixesInTime start) [] {} events)
    (run : exec Home.component {} events = some (home, writes)) (settled : home.Settled) :
    Consistent home (storedNode start writes) := by
  have allowed : ∀ event ∈ events, event ≠ .statusRead (some "deactivated") := by
    intro event member same
    subst same
    exact activated member
  have law : AvailabilityLaw start ([] ++ writes) home := by
    apply exec_invariant_of_meets (AvailabilityLaw start) _ (AvailabilityLaw.initial consistent)
      (inTime.and_of_mem allowed) run
    intro history before event after emitted law condition stepped
    exact law.move condition.1 condition.2 (Home.step_moves stepped)
  exact law.consistent settled

def sampleTaps : List HomeEvent :=
  [.tap, .statusRead none, .located ⟨5, 0⟩, .tap, .tap, .statusRead none, .statusRead none,
    .position 0 ⟨5, 1⟩, .located ⟨5, 2⟩]

theorem consistent_sampleTaps :
    ∃ home writes, exec Home.component {} sampleTaps = some (home, writes) ∧
      home.isDriverAvailable = true ∧ Consistent home (storedNode {} writes) := by
  have start : Consistent {} {} := ⟨by decide, by decide⟩
  exact ⟨_, _, rfl, rfl,
    consistent_of_fixesInTime start (by decide) (by decide : Meets _ _ _ _ sampleTaps) rfl
      ⟨rfl, rfl⟩⟩

theorem not_consistent_of_late_fix :
    ¬ ∀ (start : RiderNode) (home : Home) (events : List HomeEvent)
        (writes : List RiderWrite),
      Consistent {} start → Activated events →
      exec Home.component {} events = some (home, writes) → home.Settled →
      Consistent home (storedNode start writes) := by
  intro always
  have consistent := always {} _ [.tap, .statusRead none, .tap, .statusRead none,
    .located ⟨5, 0⟩] _ ⟨by decide, by decide⟩ (by decide) rfl ⟨rfl, rfl⟩
  exact absurd (consistent.index.mpr rfl) (by decide)

/-! ## Deactivated riders -/

structure Unavailable (home : Home) (node : RiderNode) : Prop where
  hidden : home.isDriverAvailable = false
  unindexed : node.availableRider = none
  idle : ¬ node.Searching

/-- A tap whose status read returns "deactivated" leaves the rider shown as
available, and writes nothing: whatever the run before, it fails its purpose. -/
theorem not_unavailable_of_deactivated {start : RiderNode} {initial home : Home}
    {events : List HomeEvent} {writes : List RiderWrite}
    (run : exec Home.component initial (events ++ [.statusRead (some "deactivated")]) =
      some (home, writes)) :
    home.isDriverAvailable = true ∧ ¬ Unavailable home (storedNode start writes) := by
  obtain ⟨middle, early, late, _, handled, _⟩ := exec_append_eq_some.mp run
  have shown : home.isDriverAvailable = true := by
    cases Home.step_moves (exec_singleton_eq_some.mp handled) with
    | deactivated flag lookups streams page => exact flag
    | online activated offline flag lookups streams page => exact flag
    | offline activated online flag lookups streams page => exact (activated rfl).elim
  refine ⟨shown, ?_⟩
  intro unavailable
  rw [unavailable.hidden] at shown
  cases shown

theorem not_unavailable_of_first_tap :
    ∃ home writes,
      exec Home.component {} ([.tap] ++ [.statusRead (some "deactivated")]) =
        some (home, writes) ∧
      home.isDriverAvailable = true ∧ ¬ Unavailable home (storedNode {} writes) := by
  have run : exec Home.component {} ([.tap] ++ [.statusRead (some "deactivated")]) =
      some ({
        driverStatusColor := .red
        driverStatusText := "Offline - Deactivated"
        isDriverAvailable := true }, []) := by
    decide
  exact ⟨_, _, run, not_unavailable_of_deactivated run⟩

theorem deactivated_tap_shows_available :
    ¬ ∀ (start : RiderNode) (home : Home) (events : List HomeEvent)
        (writes : List RiderWrite),
      exec Home.component {} (events ++ [.statusRead (some "deactivated")]) =
        some (home, writes) →
      Unavailable home (storedNode start writes) := by
  intro always
  have unavailable := always {} _ [.tap] _ rfl
  exact absurd unavailable.hidden (by decide)

end FilldRider
