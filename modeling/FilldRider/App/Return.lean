import FilldRider.App.Restoration
import FilldRider.Runs.Reach
import Mathlib.Order.Bounds.Basic

/-!
# The way back on offer

After a ride, an abandoned offer or a failed fix a rider may be shown as available and
be found by nobody. The online/offline button always leads back: with one tap from
offline, with two otherwise, and with none only where nothing is amiss.
-/

set_option autoImplicit false

namespace FilldRider

open Runs

/-- A tap reads what is stored as the rider's status. -/
def HomeEvent.ReadsStatus (status : Option String) : HomeEvent → Prop
  | .statusRead data => data = status
  | _ => True

def AppEvent.ReadsStatus (status : Option String) : AppEvent → Prop
  | .home event => event.ReadsStatus status
  | _ => True

/-- The taps on the online/offline button. -/
def AppEvent.taps : AppEvent → Nat
  | .home .tap => 1
  | _ => 0

namespace Home

/-- In the index, with a searching slot, and with an unpaused stream. -/
def Found (home : Home) (node : RiderNode) : Prop :=
  node.availableRider.isSome = true ∧ node.Searching ∧ home.streams.getLast? = some 0

instance (home : Home) (node : RiderNode) : Decidable (home.Found node) :=
  inferInstanceAs (Decidable (_ ∧ _))

/-- Found, shown as available, and nothing pending. -/
structure OnOffer (home : Home) (node : RiderNode) : Prop where
  available : home.isDriverAvailable = true
  found : home.Found node
  settled : home.Settled

def tapsToOffer (home : Home) (node : RiderNode) : Nat :=
  if home.isDriverAvailable = false then 1
  else if home.Found node then 0
  else 2

variable {home last : Home} {node : RiderNode} {writes : List RiderWrite}
  {status : Option String}

/-- The home page comes to that state by its own events, with so many taps. -/
def Comes (status : Option String) (home : Home) (taps : Nat) (last : Home)
    (writes : List RiderWrite) : Prop :=
  Leads component (fun _ event => event.ReadsStatus status)
    (fun event => (AppEvent.home event).taps) home taps last writes

/-! ## The taps that suffice -/

theorem comes_event {event : HomeEvent} (stepped : home.step event = some (last, writes))
    (reads : event.ReadsStatus status) :
    home.Comes status (AppEvent.home event).taps last writes := Leads.single stepped reads

theorem comes_tap (status : Option String) (home : Home) :
    home.Comes status 1 { home with statusReads := home.statusReads + 1 } [] := by
  have stepped : home.step .tap =
      some ({ home with statusReads := home.statusReads + 1 }, []) := rfl
  exact comes_event stepped trivial

/-- From offline: the status is read, and the fix arrives. -/
theorem comes_online (active : status ≠ some "deactivated")
    (offline : home.isDriverAvailable = false) (settled : home.Settled) (node : RiderNode) :
    ∃ last writes, home.Comes status 1 last writes ∧ last.OnOffer (storedNode node writes) := by
  have read : step { home with statusReads := home.statusReads + 1 } (.statusRead status) =
      some ({ home with
        lookups := home.lookups + 1
        streams := home.streams ++ [0]
        driverStatusColor := .green
        driverStatusText := "Online"
        isDriverAvailable := true }, []) := by
    simp [step, handleStatus, active, offline, makeRiderOnlineNow, getLocationLiveUpdates,
      updateDriverStatus]
  have located : step { home with
        lookups := home.lookups + 1
        streams := home.streams ++ [0]
        driverStatusColor := .green
        driverStatusText := "Online"
        isDriverAvailable := true } (.located ⟨0, 0⟩) =
      some ({ home with
        streams := home.streams ++ [0]
        driverStatusColor := .green
        driverStatusText := "Online"
        isDriverAvailable := true
        currentPosition := some ⟨0, 0⟩ },
        [.searching "searching", .setLocation ⟨0, 0⟩, .searching "Searching"]) := by
    simp [step, finishRiderOnline]
  have leads := ((comes_tap status home).trans (comes_event read rfl)).trans
    (comes_event located trivial)
  refine ⟨_, _, leads, rfl, ?_, ⟨settled.handled, settled.completed⟩⟩
  refine ⟨?_, ?_, ?_⟩
  · simp [storedNode, RiderNode.apply]
  · simp [storedNode, RiderNode.apply, RiderNode.Searching]
  · simp

theorem comes_offline (active : status ≠ some "deactivated")
    (online : home.isDriverAvailable = true) (settled : home.Settled) :
    ∃ last writes, home.Comes status 1 last writes ∧ last.isDriverAvailable = false ∧
      last.Settled := by
  have read : step { home with statusReads := home.statusReads + 1 } (.statusRead status) =
      some ({ home with
        driverStatusColor := .white70
        driverStatusText := "Offline"
        isDriverAvailable := false }, makeRiderOfflineNow) := by
    simp [step, handleStatus, active, online, updateDriverStatus]
  have leads := (comes_tap status home).trans (comes_event read rfl)
  exact ⟨_, _, leads, rfl, ⟨settled.handled, settled.completed⟩⟩

/-- With nothing pending. -/
theorem comes_of_settled (active : status ≠ some "deactivated") (settled : home.Settled)
    (node : RiderNode) :
    ∃ last writes, home.Comes status (home.tapsToOffer node) last writes ∧
      last.OnOffer (storedNode node writes) := by
  rw [tapsToOffer]
  split
  · next offline => exact comes_online active offline settled node
  · next online =>
    have available : home.isDriverAvailable = true := by simpa using online
    split
    · next found => exact ⟨home, [], Leads.refl home, available, found, settled⟩
    · obtain ⟨middle, early, leads, offline, quiet⟩ := comes_offline active available settled
      obtain ⟨last, late, onward, onOffer⟩ :=
        comes_online active offline quiet (storedNode node early)
      refine ⟨last, early ++ late, leads.trans onward, ?_⟩
      rw [storedNode_append]
      exact onOffer

theorem statusReads_handleStatus (home : Home) (data : Option String) :
    (home.handleStatus data).1.statusReads = home.statusReads := by
  rw [handleStatus]
  split
  · rfl
  · split <;> rfl

/-- The pending status reads return. -/
theorem comes_handled (status : Option String) (reads : Nat) (home : Home)
    (pending : home.statusReads = reads) :
    ∃ last writes, home.Comes status 0 last writes ∧ last.statusReads = 0 := by
  induction reads generalizing home with
  | zero => exact ⟨home, [], Leads.refl home, pending⟩
  | succ reads ih =>
      have stepped : home.step (.statusRead status) =
          some (handleStatus { home with statusReads := reads } status) := by
        rw [step, if_pos (by omega), pending]
        rfl
      obtain ⟨last, late, onward, handled⟩ :=
        ih (handleStatus { home with statusReads := reads } status).1
          (statusReads_handleStatus { home with statusReads := reads } status)
      exact ⟨last, _, (comes_event stepped rfl).trans onward, handled⟩

/-- And then the pending lookups. -/
theorem comes_completed (status : Option String) (lookups : Nat) (home : Home)
    (pending : home.lookups = lookups) (handled : home.statusReads = 0) :
    ∃ last writes, home.Comes status 0 last writes ∧ last.Settled := by
  induction lookups generalizing home with
  | zero => exact ⟨home, [], Leads.refl home, handled, pending⟩
  | succ lookups ih =>
      have stepped : home.step (.located ⟨0, 0⟩) = some (home.finishRiderOnline ⟨0, 0⟩) := by
        rw [step, if_pos (by omega)]
      have fewer : (home.finishRiderOnline ⟨0, 0⟩).1.lookups = lookups := by
        simp [finishRiderOnline, pending]
      obtain ⟨last, late, onward, settled⟩ := ih _ fewer handled
      exact ⟨last, _, (comes_event stepped trivial).trans onward, settled⟩

/-- Whatever is pending, two taps are enough for a rider who is not deactivated. -/
theorem comes_onOffer (active : status ≠ some "deactivated") (home : Home) (node : RiderNode) :
    ∃ taps last writes, home.Comes status taps last writes ∧ taps ≤ 2 ∧
      last.OnOffer (storedNode node writes) := by
  obtain ⟨waiting, first, reads, handled⟩ := comes_handled status _ home rfl
  obtain ⟨quiet, second, lookups, settled⟩ := comes_completed status _ waiting rfl handled
  obtain ⟨last, third, onward, onOffer⟩ :=
    comes_of_settled active settled (storedNode node (first ++ second))
  refine ⟨_, last, first ++ second ++ third, (reads.trans lookups).trans onward, ?_, ?_⟩
  · rw [tapsToOffer]
    split
    · decide
    · split <;> decide
  · rw [storedNode_append]
    exact onOffer

/-! ## The taps that are needed -/

/-- How many taps are missing, if the pending lookups turn out well. -/
def missing (home : Home) (node : RiderNode) : Nat :=
  if home.isDriverAvailable = false then 1
  else if home.Found node ∨ 0 < home.lookups then 0
  else 2

/-- The taps whose status is still to be read count as well. -/
def tapsLeft (home : Home) (node : RiderNode) : Nat :=
  home.missing node - home.statusReads

theorem missing_le_two (home : Home) (node : RiderNode) : home.missing node ≤ 2 := by
  rw [missing]
  split
  · omega
  · split <;> omega

theorem tapsLeft_of_settled (settled : home.Settled) (node : RiderNode) :
    home.tapsLeft node = home.tapsToOffer node := by
  simp only [tapsLeft, missing, tapsToOffer, settled.handled, settled.completed, Nat.lt_irrefl,
    or_false, Nat.sub_zero]

theorem OnOffer.tapsLeft (onOffer : home.OnOffer node) : home.tapsLeft node = 0 := by
  rw [Home.tapsLeft, missing, onOffer.available, if_neg (by decide), if_pos (.inl onOffer.found)]
  exact Nat.zero_sub _

/-- A change that finds nobody saves no tap. -/
theorem missing_mono {after : Home} {later : RiderNode}
    (flag : after.isDriverAvailable = home.isDriverAvailable)
    (lookups : after.lookups ≤ home.lookups)
    (found : after.Found later → home.Found node ∨ 0 < home.lookups) :
    home.missing node ≤ after.missing later := by
  rw [missing, missing, flag]
  split
  · exact Nat.le_refl _
  · split
    · exact Nat.zero_le _
    · next lost =>
      have still : ¬ (after.Found later ∨ 0 < after.lookups) := by
        intro either
        rcases either with here | pending
        · exact lost (found here)
        · exact lost (.inr (Nat.lt_of_lt_of_le pending lookups))
      rw [if_neg still]

theorem tapsLeft_mono {after : Home} {later : RiderNode}
    (flag : after.isDriverAvailable = home.isDriverAvailable)
    (lookups : after.lookups ≤ home.lookups) (reads : after.statusReads = home.statusReads)
    (found : after.Found later → home.Found node ∨ 0 < home.lookups) :
    home.tapsLeft node ≤ after.tapsLeft later := by
  rw [tapsLeft, tapsLeft, reads]
  exact Nat.sub_le_sub_right (missing_mono flag lookups found) _

/-- Reading the status of a tap uses that tap up at most. -/
theorem tapsLeft_handleStatus (home : Home) (data : Option String) (node : RiderNode)
    (pending : 0 < home.statusReads) :
    home.tapsLeft node ≤
      (handleStatus { home with statusReads := home.statusReads - 1 } data).1.tapsLeft
        (storedNode node (handleStatus { home with statusReads := home.statusReads - 1 } data).2) := by
  have most := home.missing_le_two node
  rw [tapsLeft, tapsLeft, statusReads_handleStatus]
  by_cases available : home.isDriverAvailable = false
  · have one : home.missing node = 1 := if_pos available
    rw [one, Nat.sub_eq_zero_of_le pending]
    exact Nat.zero_le _
  · have online : home.isDriverAvailable = true := by simpa using available
    have kept : home.missing node ≤
        (handleStatus { home with statusReads := home.statusReads - 1 } data).1.missing
          (storedNode node
            (handleStatus { home with statusReads := home.statusReads - 1 } data).2) + 1 := by
      by_cases deactivated : data = some "deactivated"
      · rw [handleStatus, if_pos deactivated]
        exact Nat.le_succ_of_le (missing_mono online.symm (Nat.le_refl _) .inl)
      · simp only [handleStatus, deactivated, online, if_false, Bool.not_true, Bool.false_eq_true]
        exact most
    dsimp only
    omega

theorem tapsLeft_step {after : Home} {event : HomeEvent}
    (page : home.pageDriverAvailable = false) (stepped : home.step event = some (after, writes)) :
    home.tapsLeft node ≤ after.tapsLeft (storedNode node writes) + (AppEvent.home event).taps := by
  cases event with
  | tap =>
      cases stepped
      have same : ({ home with statusReads := home.statusReads + 1 } : Home).missing
          (storedNode node []) = home.missing node := rfl
      rw [tapsLeft, tapsLeft, same, AppEvent.taps]
      dsimp only
      omega
  | statusRead data =>
      simp only [step, Option.ite_none_right_eq_some, Option.some.injEq] at stepped
      obtain ⟨pending, same⟩ := stepped
      have less := home.tapsLeft_handleStatus data node pending
      rw [same] at less
      exact less
  | located position =>
      simp only [step, Option.ite_none_right_eq_some, Option.some.injEq] at stepped
      obtain ⟨pending, same⟩ := stepped
      cases same
      exact tapsLeft_mono rfl (Nat.sub_le ..) rfl fun _ => .inr pending
  | lookupFailed =>
      simp only [step, Option.ite_none_right_eq_some, Option.some.injEq] at stepped
      obtain ⟨pending, same⟩ := stepped
      cases same
      exact tapsLeft_mono rfl (Nat.sub_le ..) rfl fun _ => .inr pending
  | position stream position =>
      simp only [step, Option.ite_none_right_eq_some, Option.some.injEq, onPosition, page,
        Bool.false_eq_true, if_false] at stepped
      obtain ⟨listening, same⟩ := stepped
      cases same
      exact tapsLeft_mono rfl (Nat.le_refl _) rfl .inl

end Home

/-! ## The whole app -/

namespace App

variable {app before after : App} {node : RiderNode} {writes : List DbWrite} {event : AppEvent}

theorem exec_home {events : List HomeEvent} {last : Home} {issued : List RiderWrite}
    (run : exec Home.component app.home events = some (last, issued)) :
    exec component app (events.map .home) =
      some ({ app with home := last }, issued.map .rider) := by
  induction events generalizing app issued with
  | nil =>
      cases run
      rfl
  | cons event rest ih =>
      obtain ⟨next, now, later, stepped, continued, rfl⟩ := exec_cons_eq_some.mp run
      have here : component app (.home event) =
          some ({ app with home := next }, now.map .rider) := by
        have reacts : app.home.step event = some (next, now) := stepped
        simp only [component, step, reacts]
      rw [List.map_cons, List.map_append]
      exact exec_cons_eq_some.mpr ⟨_, _, _, here, ih continued, rfl⟩

theorem riderWrites_map (writes : List RiderWrite) : riderWrites (writes.map .rider) = writes := by
  induction writes with
  | nil => rfl
  | cons write rest ih => exact congrArg (write :: ·) ih

/-- What the home page comes to, its app comes to. -/
theorem comes_home {status : Option String} {taps : Nat} {last : Home} {issued : List RiderWrite}
    (comes : app.home.Comes status taps last issued) :
    ∃ more, exec component app more = some ({ app with home := last }, issued.map .rider) ∧
      (∀ event ∈ more, event.ReadsStatus status) ∧ cost AppEvent.taps more = taps := by
  obtain ⟨events, run, reads, spent⟩ := comes
  refine ⟨events.map .home, exec_home run, ?_, (cost_map ..).trans spent⟩
  intro event member
  obtain ⟨reaction, within, rfl⟩ := List.mem_map.mp member
  exact reads.forall_mem run reaction within

theorem not_found_of_unlisted {home : Home} (unlisted : node.availableRider.isSome = false) :
    ¬ home.Found node := by
  intro onOffer
  have listed := onOffer.1
  rw [unlisted] at listed
  cases listed

/-- Nothing but the home page finds the rider. -/
theorem tapsLeft_other (moves : AppMove before event after writes)
    (foreign : ∀ reaction, event ≠ .home reaction) :
    before.home.tapsLeft node ≤ after.home.tapsLeft (storedNode node (riderWrites writes)) := by
  cases moves with
  | home moves => exact absurd rfl (foreign _)
  | accept | slotRead reading | refused answered other | saved | profile | rideType =>
      exact Home.tapsLeft_mono rfl (Nat.le_refl _) rfl .inl
  | screen shown turns =>
      rw [riderWrites_requestWrites]
      exact Home.tapsLeft_mono rfl (Nat.le_refl _) rfl .inl
  | built pushed =>
      apply Home.tapsLeft_mono rfl (Nat.le_refl _) rfl
      intro found
      obtain ⟨_, searching, _⟩ := found
      rw [acceptWrites, riderWrites_append, riderWrites_requestWrites] at searching
      exact absurd searching (not_searching_of_mark node [] _ _)
  | taken answered offered =>
      refine Home.tapsLeft_mono ?_ (Nat.le_refl before.home.lookups) ?_ ?_
      · rfl
      · rfl
      · intro found
        exact absurd found (not_found_of_unlisted rfl)

theorem tapsLeft_step (node : RiderNode) (page : before.home.pageDriverAvailable = false)
    (stepped : before.step event = some (after, writes)) :
    before.home.tapsLeft node ≤
      after.home.tapsLeft (storedNode node (riderWrites writes)) + event.taps := by
  by_cases foreign : ∀ reaction, event ≠ .home reaction
  · exact Nat.le_add_right_of_le (tapsLeft_other (step_moves stepped) foreign)
  · obtain ⟨reaction, same⟩ := not_forall_not.mp foreign
    subst same
    cases reacts : before.home.step reaction with
    | none => simp [step, reacts] at stepped
    | some result =>
        simp only [step, reacts, Option.some.injEq, Prod.mk.injEq] at stepped
        obtain ⟨rfl, rfl⟩ := stepped
        rw [riderWrites_map]
        exact Home.tapsLeft_step page reacts

theorem page_of_run {uid : String} {events : List AppEvent}
    (run : exec component { uid := uid } events = some (before, writes)) :
    before.home.pageDriverAvailable = false := by
  apply exec_invariant_state (fun app : App => app.home.pageDriverAvailable = false) _ rfl run
  intro app event next emitted page stepped
  exact (step_moves stepped).page.trans page

/-- Whatever is pending, the button leads a rider back on offer who is not deactivated. -/
theorem backOnOffer (app : App) (node : RiderNode) {status : Option String}
    (active : status ≠ some "deactivated") :
    ∃ more last later, exec component app more = some (last, later) ∧
      (∀ event ∈ more, event.ReadsStatus status) ∧
      last.home.OnOffer (storedNode node (riderWrites later)) ∧ cost AppEvent.taps more ≤ 2 := by
  obtain ⟨taps, last, issued, comes, few, onOffer⟩ := app.home.comes_onOffer active node
  obtain ⟨more, run, reads, spent⟩ := comes_home comes
  refine ⟨more, _, _, run, reads, ?_, spent ▸ few⟩
  rw [riderWrites_map]
  exact onOffer

theorem backOnOffer_lostFix :
    ∃ more last later,
      exec component
          { uid := "rider", home := { isDriverAvailable := true, statusReads := 1, lookups := 1 } }
          more = some (last, later) ∧
        (∀ event ∈ more, event.ReadsStatus (some "activated")) ∧
        last.home.OnOffer (storedNode {} (riderWrites later)) ∧ cost AppEvent.taps more ≤ 2 :=
  backOnOffer _ {} (by decide)

/-- With no tap and no lookup pending, no run leads back with fewer taps than the
button's own way, while the status stored is another than "deactivated". -/
theorem fewestTapsToOffer {uid : String} {events : List AppEvent}
    (run : exec component { uid := uid } events = some (before, writes))
    (settled : before.home.Settled) (node : RiderNode) {status : Option String}
    (active : status ≠ some "deactivated") :
    IsLeast {taps | ∃ more last later, exec component before more = some (last, later) ∧
      (∀ event ∈ more, event.ReadsStatus status) ∧
      last.home.OnOffer (storedNode node (riderWrites later)) ∧ cost AppEvent.taps more = taps}
      (before.home.tapsToOffer node) := by
  constructor
  · obtain ⟨last, issued, comes, onOffer⟩ := Home.comes_of_settled active settled node
    obtain ⟨more, onward, reads, spent⟩ := comes_home comes
    refine ⟨more, _, _, onward, reads, ?_, spent⟩
    rw [riderWrites_map]
    exact onOffer
  · intro taps returns
    obtain ⟨more, last, later, onward, _, onOffer, rfl⟩ := returns
    have gained : 2 - last.home.tapsLeft (storedNode node (riderWrites ([] ++ later))) ≤
        2 - before.home.tapsLeft (storedNode node (riderWrites [])) +
          cost AppEvent.taps more := by
      apply potential_le_cost AppEvent.taps
        (fun (_ : List DbWrite) (app : App) => app.home.pageDriverAvailable = false)
        (fun history app => 2 - app.home.tapsLeft (storedNode node (riderWrites history)))
        _ _ (page_of_run run) onward
      · intro history app event next emitted page stepped
        exact (step_moves stepped).page.trans page
      · intro history app event next emitted page stepped
        have left := tapsLeft_step (storedNode node (riderWrites history)) page stepped
        rw [riderWrites_append, storedNode_append]
        omega
    have few : before.home.tapsLeft node ≤ 2 :=
      Nat.le_trans (Nat.sub_le ..) (before.home.missing_le_two node)
    rw [← Home.tapsLeft_of_settled settled]
    have none : last.home.tapsLeft (storedNode node (riderWrites ([] ++ later))) = 0 :=
      onOffer.tapsLeft
    have start : before.home.tapsLeft (storedNode node (riderWrites [])) =
        before.home.tapsLeft node := rfl
    omega

end App

/-- An online rider accepts the offer and opens the ride. -/
def acceptedOnline : List AppEvent :=
  [.home .tap, .home (.statusRead none), .home (.located ⟨5, 1⟩),
    .accept .notification sampleDetails, .slotRead 0 (some (.text "request-1")), .slotReply 0 true,
    .built 0]

theorem fewestTapsToOffer_acceptedOnline :
    ∃ app writes,
      exec App.component { uid := "rider" } acceptedOnline = some (app, writes) ∧
      IsLeast {taps | ∃ more last later, exec App.component app more = some (last, later) ∧
        (∀ event ∈ more, event.ReadsStatus none) ∧
        last.home.OnOffer (storedNode (storedNode {} (riderWrites writes)) (riderWrites later)) ∧
        cost AppEvent.taps more = taps} 2 := by
  have reached : (exec App.component { uid := "rider" } acceptedOnline).map (fun result =>
      (result.1.home.statusReads, result.1.home.lookups,
        result.1.home.tapsToOffer (storedNode {} (riderWrites result.2)))) = some (0, 0, 2) := by
    decide +kernel
  obtain ⟨⟨app, writes⟩, run, here⟩ := Option.map_eq_some_iff.mp reached
  simp only [Prod.mk.injEq] at here
  obtain ⟨handled, completed, taps⟩ := here
  refine ⟨app, writes, run, ?_⟩
  have active : (none : Option String) ≠ some "deactivated" := by decide
  have least := App.fewestTapsToOffer run ⟨handled, completed⟩
    (storedNode {} (riderWrites writes)) active
  rwa [taps] at least

end FilldRider
