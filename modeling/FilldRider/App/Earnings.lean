import FilldRider.App.Moves
import Mathlib.Algebra.BigOperators.Group.List.Basic
import Mathlib.Data.List.Dedup

/-!
# Earnings

What a rider's stored earnings owe to the trips the rider ended: `saveEarnings` reads
the old amount first, and never gets any further.
-/

set_option autoImplicit false

namespace FilldRider

open Runs

variable {Rider : Type} [DecidableEq Rider]

def endedRequests (rider : Rider) (stored : List (WorldWrite Rider)) : List String :=
  (stored.filterMap fun entry =>
    match entry with
    | .byClient writer (.request rideRequestId (.status .ended)) =>
        if writer = rider then some rideRequestId else none
    | _ => none).dedup

/-- The fare written last to the request's `fares`. -/
def fareOf (stored : List (WorldWrite Rider)) (rideRequestId : String) : Int :=
  ((stored.filterMap fun entry =>
    match entry with
    | .byClient _ (.request id (.fares amount)) =>
        if id = rideRequestId then some amount else none
    | _ => none).getLast?).getD 0

def tripTotal (rider : Rider) (stored : List (WorldWrite Rider)) : ℚ :=
  ((endedRequests rider stored).map fun rideRequestId =>
    (fareOf stored rideRequestId : ℚ)).sum

/-- The rider's taps, their saves and all their writes have completed. -/
structure World.Settled (world : World Rider) (rider : Rider) : Prop where
  saves : (world.client rider).saves = []
  taps : ∀ screen ∈ (world.client rider).screens, screen.taps = []
  sent : world.outbox rider = []

instance (world : World Rider) (rider : Rider) : Decidable (world.Settled rider) :=
  decidable_of_iff ((world.client rider).saves = [] ∧
      (∀ screen ∈ (world.client rider).screens, screen.taps = []) ∧ world.outbox rider = [])
    ⟨fun parts => ⟨parts.1, parts.2.1, parts.2.2⟩,
      fun settled => ⟨settled.saves, settled.taps, settled.sent⟩⟩

def Conserved (start world : World Rider) (rider : Rider)
    (stored : List (WorldWrite Rider)) : Prop :=
  amount (world.store.riders rider).earnings =
    amount (start.store.riders rider).earnings + tripTotal rider stored

/-- The fare that `endTheTrip` charges at this event. -/
def World.charge? (world : World Rider) : WorldEvent Rider → Option Int
  | .act rider (.screen ride (.reply copy (.directions (some details)))) =>
      match (world.client rider).screens[ride]? with
      | some screen =>
          if screen.taps[copy]?.map (·.point) = some .endDirections ∧ screen.mounted = true then
            calculateFares (world.client rider).rideType details
          else none
      | none => none
  | _ => none

def ChargesNothing (_ : List (WorldWrite Rider)) (world : World Rider)
    (event : WorldEvent Rider) : Prop :=
  ∀ fareAmount ∈ world.charge? event, fareAmount = 0

instance (history : List (WorldWrite Rider)) (world : World Rider)
    (event : WorldEvent Rider) : Decidable (ChargesNothing history world event) :=
  Option.decidableForallMem _

/-! ## Nobody writes earnings -/

structure EarningsLaw (initial : Rider → Option String) (world : World Rider) : Prop where
  unwritten : ∀ rider, ∀ write ∈ world.outbox rider, ∀ text, write ≠ .rider (.earnings text)
  kept : ∀ rider, (world.store.riders rider).earnings = initial rider

theorem RiderNode.apply_earnings {node : RiderNode} {write : RiderWrite}
    (other : ∀ text, write ≠ .earnings text) : (node.apply write).earnings = node.earnings := by
  cases write with
  | earnings text => exact (other text rfl).elim
  | _ => rfl

theorem Database.apply_earnings {database : Database Rider} {writer rider : Rider}
    {write : DbWrite} (other : ∀ text, write ≠ .rider (.earnings text)) :
    ((database.apply writer write).riders rider).earnings =
      (database.riders rider).earnings := by
  cases write with
  | request rideRequestId write => rfl
  | rider write =>
      by_cases same : rider = writer
      · subst writer
        simp only [Database.apply, Function.update_self]
        apply RiderNode.apply_earnings
        intro text equal
        exact other text (congrArg _ equal)
      · simp only [Database.apply, Function.update_of_ne same]

theorem Database.intrude_earnings {database : Database Rider} {rider : Rider}
    (write : Outside Rider) :
    ((database.intrude write).riders rider).earnings = (database.riders rider).earnings := by
  cases write with
  | cancel rideRequestId => rfl
  | slot other value =>
      by_cases same : rider = other
      · subst other
        simp only [Database.intrude, Function.update_self]
      · simp only [Database.intrude, Function.update_of_ne same]

theorem EarningsLaw.step {initial : Rider → Option String} {world next : World Rider}
    {event : WorldEvent Rider} {stored : List (WorldWrite Rider)}
    (law : EarningsLaw initial world)
    (stepped : World.step world event = some (next, stored)) : EarningsLaw initial next := by
  constructor
  · refine Shared.queued_step law.unwritten ?_ stepped
    intro rider reaction app emitted _ reacts write issued text same
    subst same
    exact RiderOrigin.not_earnings ((App.step_moves reacts).riderOrigin issued)
  · intro rider
    cases Shared.moves_of_step stepped with
    | act answered reacts => exact law.kept rider
    | deliver queued =>
        have other := law.unwritten _ _ (queued ▸ List.mem_cons_self ..)
        exact (Database.apply_earnings other).trans (law.kept rider)
    | outside => exact (Database.intrude_earnings _).trans (law.kept rider)

theorem earnings_kept {start after : World Rider} {events : List (WorldEvent Rider)}
    {stored : List (WorldWrite Rider)} (sent : ∀ rider, start.outbox rider = [])
    (run : exec World.step start events = some (after, stored)) (rider : Rider) :
    (after.store.riders rider).earnings = (start.store.riders rider).earnings := by
  have initial : EarningsLaw (fun rider => (start.store.riders rider).earnings) start := by
    constructor
    · intro rider write member
      rw [sent rider] at member
      cases member
    · exact fun _ => rfl
  exact (exec_invariant_state (EarningsLaw _) EarningsLaw.step initial run).kept rider

/-! ## Trips that charge nothing -/

structure UnchargedLaw (history : List (WorldWrite Rider)) (world : World Rider) : Prop where
  queued : ∀ rider, ∀ write ∈ world.outbox rider, ∀ rideRequestId fareAmount,
    write = .request rideRequestId (.fares fareAmount) → fareAmount = 0
  stored : ∀ rider rideRequestId fareAmount,
    .byClient rider (.request rideRequestId (.fares fareAmount)) ∈ history → fareAmount = 0

omit [DecidableEq Rider] in
theorem World.charge_of_origin {world : World Rider} {rider : Rider} {event : AppEvent}
    {rideRequestId : String} {fareAmount : Int}
    (origin : RequestOrigin (world.client rider) rideRequestId (.fares fareAmount) event) :
    world.charge? (.act rider event) = some fareAmount := by
  cases origin with
  | accepted pushed same issued => simp [acceptRideRequest] at issued
  | screen shown same issued =>
      cases issued with
      | fares waiting mounted fare => simp [charge?, shown, waiting, mounted, fare]

theorem UnchargedLaw.step {history stored : List (WorldWrite Rider)}
    {world next : World Rider} {event : WorldEvent Rider}
    (law : UnchargedLaw history world) (free : ChargesNothing history world event)
    (stepped : World.step world event = some (next, stored)) :
    UnchargedLaw (history ++ stored) next := by
  constructor
  · refine Shared.queued_step law.queued ?_ stepped
    intro rider reaction app emitted acts reacts write issued rideRequestId fareAmount same
    subst acts same
    have origin := (App.step_moves reacts).requestOrigin issued
    exact free fareAmount (World.charge_of_origin origin)
  · intro rider rideRequestId fareAmount member
    rcases List.mem_append.mp member with old | new
    · exact law.stored rider rideRequestId fareAmount old
    · cases Shared.moves_of_step stepped with
      | act answered reacts => cases new
      | deliver queued =>
          cases List.mem_singleton.mp new
          exact law.queued _ _ (queued ▸ List.mem_cons_self ..) _ _ rfl
      | outside => cases List.mem_singleton.mp new

theorem UnchargedLaw.tripTotal_eq_zero {history : List (WorldWrite Rider)}
    {world : World Rider} (law : UnchargedLaw history world) (rider : Rider) :
    tripTotal rider history = 0 := by
  have free : ∀ rideRequestId, fareOf history rideRequestId = 0 := by
    intro rideRequestId
    unfold fareOf
    cases last : List.getLast? _ with
    | none => rfl
    | some fareAmount =>
        obtain ⟨entry, member, writes⟩ :=
          List.mem_filterMap.mp (List.mem_of_getLast? last)
        split at writes
        · next writer id amount =>
          split at writes <;> cases writes
          exact law.stored writer id fareAmount member
        · cases writes
  apply List.sum_eq_zero
  intro fare member
  obtain ⟨rideRequestId, _, rfl⟩ := List.mem_map.mp member
  rw [free rideRequestId]
  rfl

/-- The earnings are conserved exactly while the ended trips come to nothing. -/
theorem conserved_iff_tripTotal_eq_zero {start after : World Rider}
    {events : List (WorldEvent Rider)} {stored : List (WorldWrite Rider)}
    (sent : ∀ rider, start.outbox rider = [])
    (run : exec World.step start events = some (after, stored)) (rider : Rider) :
    Conserved start after rider stored ↔ tripTotal rider stored = 0 := by
  rw [Conserved, earnings_kept sent run rider]
  exact left_eq_add

/-- In every run whose trips charge nothing, the earnings are conserved. -/
theorem conserved_of_chargesNothing {start after : World Rider}
    {events : List (WorldEvent Rider)} {stored : List (WorldWrite Rider)}
    (sent : ∀ rider, start.outbox rider = [])
    (free : Meets World.step ChargesNothing [] start events)
    (run : exec World.step start events = some (after, stored)) (rider : Rider) :
    Conserved start after rider stored := by
  have initial : UnchargedLaw [] start := by
    constructor
    · intro rider write member
      rw [sent rider] at member
      cases member
    · intro rider rideRequestId fareAmount member
      cases member
  have law : UnchargedLaw ([] ++ stored) after := by
    apply exec_invariant_of_meets UnchargedLaw _ initial free run
    intro history world event next emitted held nothing stepped
    exact held.step nothing stepped
  exact (conserved_iff_tripTotal_eq_zero sent run rider).mpr (law.tripTotal_eq_zero rider)

theorem conserved_sampleRide :
    ∃ after stored,
      exec World.step sampleWorld (sampleOffer ++ sampleAccept ++
        sampleRide { distanceValue := some 300, durationValue := some 120 }) =
          some (after, stored) ∧
      endedRequests () stored = ["request-1"] ∧ Conserved sampleWorld after () stored := by
  have ends : ((exec World.step sampleWorld (sampleOffer ++ sampleAccept ++
      sampleRide { distanceValue := some 300, durationValue := some 120 })).map
        fun result => endedRequests () result.2) = some ["request-1"] := by
    decide +kernel
  obtain ⟨⟨after, stored⟩, run, ended⟩ := Option.map_eq_some_iff.mp ends
  refine ⟨after, stored, run, ended, conserved_of_chargesNothing (fun _ => rfl) ?_ run ()⟩
  decide +kernel

theorem not_conserved_of_charged_trip :
    ¬ ∀ (start after : World Unit) (events : List (WorldEvent Unit))
        (stored : List (WorldWrite Unit)) (rider : Unit),
      (∀ rider, start.outbox rider = []) →
      exec World.step start events = some (after, stored) → after.Settled rider →
      Conserved start after rider stored := by
  intro always
  have charged : ((exec World.step sampleWorld (sampleOffer ++ sampleAccept ++
      sampleRide sampleDirections)).map fun result =>
        decide (result.1.Settled () ∧ tripTotal () result.2 = 7)) = some true := by
    decide +kernel
  obtain ⟨⟨after, stored⟩, run, outcome⟩ := Option.map_eq_some_iff.mp charged
  obtain ⟨settled, total⟩ := of_decide_eq_true outcome
  have conserved := always sampleWorld after _ stored () (fun _ => rfl) run settled
  rw [conserved_iff_tripTotal_eq_zero (fun _ => rfl) run, total] at conserved
  exact absurd conserved (by decide)

end FilldRider
