import FilldRider.NewRequestScreen.StatusOrder
import Mathlib.Data.List.Perm.Basic

/-!
# Failing stage writes

The ride screen with the status the database holds. A branch assigns `status` before
it awaits its write and shows the next label after it, so a failure on the way leaves
`status`, the stored status and the label apart.
-/

set_option autoImplicit false

namespace FilldRider

open Runs

variable {RequestId : Type}

/-- The stage whose write a copy waits for here. -/
def TapPoint.writes? : TapPoint → Option Stage
  | .arrivedWrite => some .arrived
  | .returningWrite => some .returning
  | .gasStationWrite => some .arrivedAtGasStation
  | .completedWrite | .endWrite => some .completed
  | _ => none

/-- The value of `status` that led a copy to this write. -/
def TapPoint.branch? : TapPoint → Option Stage
  | .arrivedWrite => some .accepted
  | .returningWrite => some .arrived
  | .gasStationWrite => some .returning
  | .completedWrite => some .arrivedAtGasStation
  | .endWrite => some .completed
  | _ => none

/-- The screen once the acceptance is stored. Status writes are answered in the order
issued; `unanswered` holds the others, oldest first. -/
structure StoredRide (RequestId : Type) where
  screen : NewRequestScreen RequestId
  stored : Stage := .accepted
  unanswered : List Stage := []

/-- Nobody awaits the write of `ended`. -/
inductive StoredEvent where
  | screen (rideType : String) (event : ScreenEvent)
  | endedReply (success : Bool)

namespace StoredRide

/-- The answer to the oldest status write. -/
def answer (ride : StoredRide RequestId) (stage : Stage) (success : Bool) :
    Option (StoredRide RequestId) :=
  match ride.unanswered with
  | [] => none
  | oldest :: rest =>
      if oldest = stage then
        some { ride with stored := if success then stage else ride.stored, unanswered := rest }
      else none

/-- The status write that this event answers. -/
def answers? (ride : StoredRide RequestId) : ScreenEvent → Option (Stage × Bool)
  | .reply copy reply =>
      (ride.screen.taps[copy]?.bind (·.point.writes?)).map fun stage =>
        (stage, decide (reply = .done))
  | _ => none

def answered (ride : StoredRide RequestId) (event : ScreenEvent) : Option (StoredRide RequestId) :=
  match ride.answers? event with
  | none => some ride
  | some (stage, success) => ride.answer stage success

def step (ride : StoredRide RequestId) :
    StoredEvent → Option (StoredRide RequestId × List ScreenAction)
  | .screen rideType event =>
      match ride.answered event, ride.screen.step rideType event with
      | some settled, some (screen, actions) =>
          some ({ settled with
            screen := screen
            unanswered := settled.unanswered ++ statusWrites actions }, actions)
      | _, _ => none
  | .endedReply success => (ride.answer .ended success).map fun settled => (settled, [])

def component : Component (StoredRide RequestId) StoredEvent ScreenAction := step

/-- No tap is being handled and no status write is on its way. -/
structure Quiescent (ride : StoredRide RequestId) : Prop where
  handled : ride.screen.taps = []
  sent : ride.unanswered = []

/-- The local status, the stored one and the label denote one stage. -/
structure Agrees (ride : StoredRide RequestId) : Prop where
  stored : ride.stored = ride.screen.status
  shown : ride.screen.btnTitle.stage = ride.screen.status

end StoredRide

/-- A failing status write leaves `status` as it was before its branch, and the label
as it is. -/
def UndoesFailure (_ : List ScreenAction) (ride : StoredRide RequestId) (event : StoredEvent) :
    Prop :=
  match event with
  | .screen _ (.reply copy .error) =>
      ∀ stage ∈ ride.screen.taps[copy]?.bind (·.point.branch?), ∀ result ∈ ride.step event,
        result.1.screen.status = stage ∧ result.1.screen.btnTitle = ride.screen.btnTitle
  | _ => True

/-- The event strands a stage between its status and its label, or stores `ended`. -/
def StoredRide.strands (ride : StoredRide RequestId) : StoredEvent → Bool
  | .screen _ (.reply copy reply) =>
      match ride.screen.taps[copy]? with
      | some ⟨_, .arrivedWrite⟩ | some ⟨_, .returningWrite⟩ | some ⟨_, .gasStationWrite⟩
      | some ⟨_, .completedWrite⟩ => !(decide (reply = .done) && ride.screen.mounted)
      | some ⟨_, .completedDirections⟩ =>
          match reply with
          | .directions details =>
              !(ride.screen.mounted && ride.screen.drawsRoute details ||
                decide (ride.screen.btnTitle = .endTrip))
          | _ => decide (ride.screen.btnTitle ≠ .endTrip)
      | _ => false
  | .screen _ _ => false
  | .endedReply success => success

def Faultless (_ : List ScreenAction) (ride : StoredRide RequestId) (event : StoredEvent) : Prop :=
  ride.strands event = false

instance (history : List ScreenAction) (ride : StoredRide RequestId) (event : StoredEvent) :
    Decidable (Faultless history ride event) :=
  inferInstanceAs (Decidable (_ = _))

/-! ## The law of faultless rides -/

/-- The awaits of all copies, wherever they are, next to the three stages. Writes of
`ended` fail in a faultless ride and are left out. -/
structure AgreementLaw (stored : Stage) (unanswered : List Stage) (status : Stage)
    (title : ButtonLabel) (points : List TapPoint) : Prop where
  unended : status ≤ .completed
  queue : unanswered.Perm (points.filterMap TapPoint.writes?)
  ordered : (stored :: unanswered).Pairwise (· ≤ ·)
  bounded : ∀ stage ∈ stored :: unanswered, stage ≤ status
  latest : (stored :: unanswered).getLast? = some status
  shown : title.stage = stored ∨
    stored = .completed ∧ (.completedWrite ∈ points ∨ .completedDirections ∈ points)
  completing : status = .completed → stored = .completed ∨ .completedWrite ∈ points
  past : ∀ point ∈ points, point = .completedDirections ∨ point = .endNotification →
    stored = .completed

theorem AgreementLaw.initial : AgreementLaw .accepted [] .accepted .arrived [] where
  unended := by decide
  queue := List.Perm.refl _
  ordered := List.pairwise_singleton _ _
  bounded := by simp
  latest := rfl
  shown := .inl rfl
  completing := by simp
  past := by simp

section Steps

variable {stored status : Stage} {unanswered : List Stage} {title : ButtonLabel}
  {points rest : List TapPoint} {point : TapPoint}

theorem AgreementLaw.perm {other : List TapPoint} (same : points.Perm other)
    (law : AgreementLaw stored unanswered status title points) :
    AgreementLaw stored unanswered status title other where
  unended := law.unended
  queue := law.queue.trans (same.filterMap _)
  ordered := law.ordered
  bounded := law.bounded
  latest := law.latest
  shown := by
    rw [← same.mem_iff, ← same.mem_iff]
    exact law.shown
  completing := by
    rw [← same.mem_iff]
    exact law.completing
  past := by
    intro point member
    exact law.past point (same.mem_iff.mpr member)

theorem AgreementLaw.tap_step (law : AgreementLaw stored unanswered status title points) :
    AgreementLaw stored unanswered status title (points ++ [.clientId]) where
  unended := law.unended
  queue := by
    rw [List.filterMap_append, show [TapPoint.clientId].filterMap TapPoint.writes? = [] from rfl,
      List.append_nil]
    exact law.queue
  ordered := law.ordered
  bounded := law.bounded
  latest := law.latest
  shown := by simpa using law.shown
  completing := by simpa using law.completing
  past := by
    intro point member kind
    rcases List.mem_append.mp member with old | new
    · exact law.past point old kind
    · rw [List.mem_singleton.mp new] at kind
      rcases kind with same | same <;> cases same

/-- A copy goes on between awaits of nothing stored or shown. -/
theorem AgreementLaw.proceed_step {next : Option TapPoint}
    (law : AgreementLaw stored unanswered status title (point :: rest))
    (unwritten : point.writes? = none) (drawn : point = .completedDirections → title = .endTrip)
    (free : ∀ reached ∈ next, reached.writes? = none ∧ reached ≠ .completedDirections ∧
      reached ≠ .endNotification) :
    AgreementLaw stored unanswered status title (next.toList ++ rest) := by
  have silent : (next.toList ++ rest).filterMap TapPoint.writes? =
      (point :: rest).filterMap TapPoint.writes? := by
    cases next with
    | none => simp [unwritten]
    | some reached => simp [unwritten, (free reached rfl).1]
  have passes : .completedWrite ∈ point :: rest → .completedWrite ∈ next.toList ++ rest := by
    intro member
    rcases List.mem_cons.mp member with here | there
    · rw [← here] at unwritten
      cases unwritten
    · exact List.mem_append_right _ there
  refine ⟨law.unended, silent ▸ law.queue, law.ordered, law.bounded, law.latest, ?_, ?_, ?_⟩
  · rcases law.shown with shown | ⟨completed, writing | drawing⟩
    · exact .inl shown
    · exact .inr ⟨completed, .inl (passes writing)⟩
    · rcases List.mem_cons.mp drawing with here | there
      · rw [drawn here.symm, completed]
        exact .inl rfl
      · exact .inr ⟨completed, .inr (List.mem_append_right _ there)⟩
  · intro completed
    exact (law.completing completed).imp_right passes
  · intro reached member kind
    rcases List.mem_append.mp member with chosen | there
    · obtain ⟨_, undrawn, unnotified⟩ := free reached (Option.mem_toList.mp chosen)
      exact (kind.elim undrawn unnotified).elim
    · exact law.past reached (List.mem_cons_of_mem _ there) kind

/-- A token read issues the next status write. -/
theorem AgreementLaw.advance_step {next : Stage} {reached : TapPoint}
    (law : AgreementLaw stored unanswered status title (.clientToken :: rest))
    (advances : status.advance = some (next, reached)) :
    AgreementLaw stored (unanswered ++ [next]) next title (reached :: rest) := by
  obtain ⟨above, unended⟩ := Stage.advance_spec advances
  have writes : reached.writes? = some next := by
    cases status <;> cases advances <;> rfl
  have open_ : stored ≠ .completed := by
    intro completed
    have below := law.bounded stored (List.mem_cons_self ..)
    rw [completed] at below
    exact absurd (below.trans_lt (above.trans_le unended)) (lt_irrefl _)
  constructor
  · exact unended
  · rw [List.filterMap_cons_some writes]
    exact (List.perm_append_singleton next unanswered).trans (law.queue.cons next)
  · rw [← List.cons_append]
    apply pairwise_concat law.ordered
    intro earlier member
    exact (law.bounded earlier member).trans above.le
  · intro stage member
    rw [← List.cons_append, List.mem_append, List.mem_singleton] at member
    rcases member with old | new
    · exact (law.bounded stage old).trans above.le
    · exact le_of_eq new
  · rw [← List.cons_append, List.getLast?_append]
    rfl
  · exact law.shown.imp_right fun pending => (open_ pending.1).elim
  · intro completed
    subst completed
    right
    cases status <;> cases advances
    exact List.mem_cons_self ..
  · intro other member kind
    rcases List.mem_cons.mp member with here | there
    · subst here
      rcases kind with same | same <;> rw [same] at writes <;> cases writes
    · exact law.past other (List.mem_cons_of_mem _ there) kind

/-- A token read in a completed ride writes `completed` again. -/
theorem AgreementLaw.endTrip_step
    (law : AgreementLaw stored unanswered .completed title (.clientToken :: rest)) :
    AgreementLaw stored (unanswered ++ [.completed]) .completed title (.endWrite :: rest) := by
  have passes : ∀ {wanted}, wanted ≠ TapPoint.clientToken →
      wanted ∈ TapPoint.clientToken :: rest → wanted ∈ TapPoint.endWrite :: rest := by
    intro wanted other member
    exact List.mem_cons_of_mem _ ((List.mem_cons.mp member).resolve_left other)
  constructor
  · exact le_rfl
  · have writes : TapPoint.endWrite.writes? = some .completed := rfl
    rw [List.filterMap_cons_some writes]
    exact (List.perm_append_singleton _ unanswered).trans (law.queue.cons _)
  · rw [← List.cons_append]
    exact pairwise_concat law.ordered law.bounded
  · intro stage member
    rw [← List.cons_append, List.mem_append, List.mem_singleton] at member
    rcases member with old | new
    · exact law.bounded stage old
    · exact le_of_eq new
  · rw [← List.cons_append, List.getLast?_append]
    rfl
  · exact law.shown.imp_right fun pending =>
      ⟨pending.1, pending.2.imp (passes (by decide)) (passes (by decide))⟩
  · intro completed
    exact (law.completing completed).imp_right (passes (by decide))
  · intro other member kind
    rcases List.mem_cons.mp member with here | there
    · subst here
      rcases kind with same | same <;> cases same
    · exact law.past other (List.mem_cons_of_mem _ there) kind

/-- The database stores the oldest write and the copy shows the label of its stage. -/
theorem AgreementLaw.relabel_step {stage : Stage} {label : ButtonLabel}
    {next : Option TapPoint}
    (law : AgreementLaw stored (stage :: unanswered) status title (point :: rest))
    (writes : point.writes? = some stage) (relabels : point.relabels = some (label, next)) :
    AgreementLaw stage unanswered status label (next.toList ++ rest) := by
  have inside : label.stage = stage ∧ stage < .completed ∧
      ∀ reached ∈ next, reached.writes? = none ∧ reached ≠ .completedDirections ∧
        reached ≠ .endNotification := by
    cases point <;> cases writes <;> cases relabels <;> decide
  obtain ⟨same, early, free⟩ := inside
  obtain ⟨below, ordered⟩ := List.pairwise_cons.mp law.ordered
  have open_ : stored ≠ .completed := by
    intro completed
    have later := below stage (List.mem_cons_self ..)
    rw [completed] at later
    exact absurd (later.trans_lt early) (lt_irrefl _)
  refine ⟨law.unended, ?_, ordered, ?_, ?_, .inl same, ?_, ?_⟩
  · have silent : next.toList.filterMap TapPoint.writes? = [] := by
      rw [List.filterMap_eq_nil_iff]
      intro reached chosen
      exact (free reached (Option.mem_toList.mp chosen)).1
    have queue := law.queue
    rw [List.filterMap_cons_some writes] at queue
    rw [List.filterMap_append, silent, List.nil_append]
    exact queue.cons_inv
  · intro other member
    exact law.bounded other (List.mem_cons_of_mem _ member)
  · have latest := law.latest
    rwa [List.getLast?_cons_cons] at latest
  · intro completed
    have writing := (law.completing completed).resolve_left open_
    rcases List.mem_cons.mp writing with here | there
    · rw [← here] at relabels
      cases relabels
    · exact .inr (List.mem_append_right _ there)
  · intro other member kind
    rcases List.mem_append.mp member with chosen | there
    · obtain ⟨_, undrawn, unnotified⟩ := free other (Option.mem_toList.mp chosen)
      exact (kind.elim undrawn unnotified).elim
    · exact (open_ (law.past other (List.mem_cons_of_mem _ there) kind)).elim

/-- The database stores `completed` for a copy that goes on without a label. -/
theorem AgreementLaw.complete_step {reached : TapPoint}
    (law : AgreementLaw stored (.completed :: unanswered) status title (point :: rest))
    (writes : point.writes? = some .completed) (follows : point.follows = some reached) :
    AgreementLaw .completed unanswered status title (reached :: rest) := by
  have silent : reached.writes? = none := by
    cases point <;> cases writes <;> cases follows <;> rfl
  refine ⟨law.unended, ?_, (List.pairwise_cons.mp law.ordered).2, ?_, ?_, ?_, ?_, ?_⟩
  · have queue := law.queue
    rw [List.filterMap_cons_some writes] at queue
    rw [List.filterMap_cons_none silent]
    exact queue.cons_inv
  · intro other member
    exact law.bounded other (List.mem_cons_of_mem _ member)
  · have latest := law.latest
    rwa [List.getLast?_cons_cons] at latest
  · cases point <;> cases writes <;> cases follows
    · exact .inr ⟨rfl, .inr (List.mem_cons_self ..)⟩
    · have passes : ∀ {wanted}, wanted ≠ TapPoint.endWrite →
          wanted ∈ TapPoint.endWrite :: rest → wanted ∈ TapPoint.endNotification :: rest := by
        intro wanted other member
        exact List.mem_cons_of_mem _ ((List.mem_cons.mp member).resolve_left other)
      rcases law.shown with shown | ⟨_, pending⟩
      · have written := law.bounded .completed (List.mem_cons_of_mem _ (List.mem_cons_self ..))
        rcases law.completing (le_antisymm law.unended written) with done | writing
        · exact .inl (shown.trans done)
        · exact .inr ⟨rfl, .inl (passes (by decide) writing)⟩
      · exact .inr ⟨rfl, pending.imp (passes (by decide)) (passes (by decide))⟩
  · intro _
    exact .inl rfl
  · intro _ _ _
    rfl

/-- The second write of `completed` fails and nothing changes. -/
theorem AgreementLaw.fail_step
    (law : AgreementLaw stored (.completed :: unanswered) status title (.endWrite :: rest)) :
    AgreementLaw stored unanswered status title rest := by
  have passes : ∀ {wanted}, wanted ≠ TapPoint.endWrite →
      wanted ∈ TapPoint.endWrite :: rest → wanted ∈ rest := by
    intro wanted other member
    exact (List.mem_cons.mp member).resolve_left other
  have writes : TapPoint.endWrite.writes? = some .completed := rfl
  have queue := law.queue
  rw [List.filterMap_cons_some writes] at queue
  have fewer : (stored :: unanswered).Sublist (stored :: .completed :: unanswered) :=
    (List.sublist_cons_self _ _).cons_cons stored
  refine ⟨law.unended, queue.cons_inv, law.ordered.sublist fewer, ?_, ?_, ?_, ?_, ?_⟩
  · intro other member
    exact law.bounded other (fewer.subset member)
  · have latest := law.latest
    cases unanswered with
    | cons oldest later =>
        rw [List.getLast?_cons_cons, List.getLast?_cons_cons] at latest
        rwa [List.getLast?_cons_cons]
    | nil =>
        obtain rfl : status = .completed := (Option.some.inj latest).symm
        rcases law.completing rfl with done | writing
        · rw [done]
          rfl
        · have waits := queue.cons_inv.symm.subset
            (List.mem_filterMap.mpr ⟨_, passes (by decide) writing, rfl⟩)
          cases waits
  · exact law.shown.imp_right fun pending =>
      ⟨pending.1, pending.2.imp (passes (by decide)) (passes (by decide))⟩
  · intro completed
    exact (law.completing completed).imp_right (passes (by decide))
  · intro other member kind
    exact law.past other (List.mem_cons_of_mem _ member) kind

/-- A copy past the write of `completed` shows End Trip. -/
theorem AgreementLaw.showEndTrip_step {next : Option TapPoint}
    (law : AgreementLaw stored unanswered status title (point :: rest))
    (past : point = .completedDirections ∨ point = .endNotification)
    (silent : ∀ reached ∈ next, reached.writes? = none) :
    AgreementLaw stored unanswered status .endTrip (next.toList ++ rest) := by
  have completed := law.past point (List.mem_cons_self ..) past
  refine ⟨law.unended, ?_, law.ordered, law.bounded, law.latest, .inl completed.symm, ?_, ?_⟩
  · have nothing : next.toList.filterMap TapPoint.writes? = [] := by
      rw [List.filterMap_eq_nil_iff]
      intro reached chosen
      exact silent reached (Option.mem_toList.mp chosen)
    have unwritten : point.writes? = none := by
      rcases past with rfl | rfl <;> rfl
    rw [List.filterMap_append, nothing, List.nil_append]
    simpa only [List.filterMap_cons_none unwritten] using law.queue
  · exact fun _ => .inl completed
  · exact fun _ _ _ => completed

end Steps

namespace StoredRide

/-- The status writes whose answers somebody awaits. -/
def awaited (ride : StoredRide RequestId) : List Stage :=
  ride.unanswered.filter (· ≠ .ended)

def Law (ride : StoredRide RequestId) : Prop :=
  AgreementLaw ride.stored ride.awaited ride.screen.status ride.screen.btnTitle
    (ride.screen.taps.map Tap.point)

theorem Law.agrees {ride : StoredRide RequestId} (law : ride.Law) (quiet : ride.Quiescent) :
    ride.Agrees := by
  have latest := law.latest
  rw [awaited, quiet.sent, List.filter_nil, List.getLast?_singleton, Option.some.injEq] at latest
  refine ⟨latest, ?_⟩
  rcases law.shown with shown | ⟨_, pending⟩
  · exact shown.trans latest
  · rw [quiet.handled] at pending
    simp at pending

end StoredRide

namespace StoredRide

variable {ride settled : StoredRide RequestId} {rideType : String} {copy : Nat} {reply : Reply}
  {label : ButtonLabel} {point : TapPoint}

theorem answered_of_writes {stage : Stage}
    (answered : ride.answered (.reply copy reply) = some settled)
    (waiting : ride.screen.taps[copy]? = some ⟨label, point⟩)
    (writes : point.writes? = some stage) :
    ride.unanswered = stage :: settled.unanswered ∧
      settled.stored = if reply = .done then stage else ride.stored := by
  simp only [StoredRide.answered, answers?, waiting, Option.bind_some, writes, Option.map_some,
    answer] at answered
  cases queue : ride.unanswered with
  | nil => simp [queue] at answered
  | cons oldest rest =>
      simp only [queue] at answered
      split at answered
      · next same =>
        cases answered
        simp [same]
      · cases answered

theorem awaited_of_writes {stage : Stage} (writes : point.writes? = some stage)
    (queue : ride.unanswered = stage :: settled.unanswered) :
    ride.awaited = stage :: settled.awaited := by
  have early : stage ≠ .ended := by
    cases point <;> cases writes <;> decide
  simp [awaited, queue, early]

/-- A faultless copy past its status write. -/
theorem Law.written {stage : Stage} {resumed : NewRequestScreen RequestId}
    {onward : Option TapPoint} {actions : List ScreenAction} {rest : List TapPoint}
    (law : AgreementLaw ride.stored ride.awaited ride.screen.status ride.screen.btnTitle
      (point :: rest))
    (faultless : ride.strands (.screen rideType (.reply copy reply)) = false)
    (waiting : ride.screen.taps[copy]? = some ⟨label, point⟩)
    (writes : point.writes? = some stage)
    (answered : ride.answered (.reply copy reply) = some settled)
    (resumes : ride.screen.resume rideType label point reply =
      some (resumed, onward, actions)) :
    statusWrites actions = [] ∧
      AgreementLaw settled.stored settled.awaited resumed.status resumed.btnTitle
        (onward.toList ++ rest) := by
  obtain ⟨queue, stored⟩ := answered_of_writes answered waiting writes
  rw [awaited_of_writes writes queue] at law
  cases point with
  | arrivedWrite | returningWrite | gasStationWrite | completedWrite =>
      simp only [strands, waiting, Bool.not_eq_false', Bool.and_eq_true, decide_eq_true_eq]
        at faultless
      obtain ⟨rfl, mounted⟩ := faultless
      cases writes
      simp only [NewRequestScreen.resume, mounted, if_true, Option.some.injEq,
        Prod.mk.injEq] at resumes
      obtain ⟨rfl, rfl, rfl⟩ := resumes
      rw [stored, if_pos rfl]
      first
        | exact ⟨rfl, law.relabel_step rfl rfl⟩
        | exact ⟨rfl, law.complete_step rfl rfl⟩
  | endWrite =>
      cases writes
      cases reply with
      | value value => simp [NewRequestScreen.resume] at resumes
      | directions details => simp [NewRequestScreen.resume] at resumes
      | error =>
          cases resumes
          rw [stored, if_neg (by decide)]
          exact ⟨rfl, law.fail_step⟩
      | done =>
          cases resumes
          rw [stored, if_pos rfl]
          exact ⟨rfl, law.complete_step rfl rfl⟩
  | _ => cases writes

theorem unwritten_of_answers (silent : ride.answers? (.reply copy reply) = none)
    (waiting : ride.screen.taps[copy]? = some ⟨label, point⟩) : point.writes? = none := by
  simpa [answers?, waiting] using silent

theorem endTrip_of_faultless {after : NewRequestScreen RequestId} {actions : List ScreenAction}
    (faultless : ride.strands (.screen rideType (.reply copy reply)) = false)
    (waiting : ride.screen.taps[copy]? = some ⟨label, .completedDirections⟩)
    (stepped : ride.screen.step rideType (.reply copy reply) = some (after, actions)) :
    after.btnTitle = .endTrip := by
  simp only [NewRequestScreen.step, waiting] at stepped
  cases reply with
  | value value => simp [NewRequestScreen.resume] at stepped
  | done => simp [NewRequestScreen.resume] at stepped
  | error =>
      simp only [NewRequestScreen.resume, Option.some.injEq, Prod.mk.injEq] at stepped
      obtain ⟨rfl, rfl⟩ := stepped
      simpa [strands, waiting] using faultless
  | directions details =>
      simp only [strands, waiting, Bool.not_eq_false', Bool.or_eq_true, Bool.and_eq_true,
        decide_eq_true_eq] at faultless
      cases mounted : ride.screen.mounted <;>
        cases drawn : ride.screen.drawsRoute details <;>
        simp only [NewRequestScreen.resume, mounted, drawn, if_true, if_false,
          Bool.false_eq_true, Option.some.injEq, Prod.mk.injEq] at stepped <;>
        obtain ⟨rfl, rfl⟩ := stepped
      case true.true => rfl
      all_goals simpa [mounted, drawn] using faultless

theorem Law.of_append {screen : NewRequestScreen RequestId} {actions : List ScreenAction}
    (law : AgreementLaw ride.stored
      (ride.awaited ++ (statusWrites actions).filter (· ≠ .ended)) screen.status
      screen.btnTitle (screen.taps.map Tap.point)) :
    Law { ride with
      screen := screen, unanswered := ride.unanswered ++ statusWrites actions } := by
  rw [Law, awaited, List.filter_append]
  exact law

/-- A copy that goes on from its await. -/
theorem Law.of_advanceTap {after : NewRequestScreen RequestId} {actions : List ScreenAction}
    {tap : Tap} (label : ButtonLabel) (next : Option TapPoint)
    (waiting : ride.screen.taps[copy]? = some tap)
    (taps : after.taps = NewRequestScreen.advanceTap ride.screen.taps copy label next)
    (law : AgreementLaw ride.stored
      (ride.awaited ++ (statusWrites actions).filter (· ≠ .ended)) after.status after.btnTitle
      (next.toList ++ (ride.screen.taps.eraseIdx copy).map Tap.point)) :
    Law { ride with
      screen := after, unanswered := ride.unanswered ++ statusWrites actions } := by
  apply Law.of_append
  rw [taps]
  exact law.perm (points_advanceTap waiting)

/-- Steps that answer no status write. -/
theorem Law.move {event : ScreenEvent} {after : NewRequestScreen RequestId}
    {actions : List ScreenAction} (law : ride.Law)
    (faultless : ride.strands (.screen rideType event) = false)
    (silent : ride.answers? event = none)
    (stepped : ride.screen.step rideType event = some (after, actions)) :
    Law { ride with
      screen := after, unanswered := ride.unanswered ++ statusWrites actions } := by
  have here : ∀ {copy tap}, ride.screen.taps[copy]? = some tap →
      AgreementLaw ride.stored ride.awaited ride.screen.status ride.screen.btnTitle
        (tap.point :: (ride.screen.taps.eraseIdx copy).map Tap.point) := by
    intro copy tap waiting
    exact AgreementLaw.perm (points_waiting waiting) law
  have issued : ∀ label entered stage, stage ≠ Stage.ended →
      (statusWrites [.entered label entered, .write (.status stage)]).filter (· ≠ .ended) =
        [stage] := by
    intro label entered stage early
    exact List.filter_cons_of_pos (decide_eq_true early)
  cases NewRequestScreen.step_moves stepped with
  | tap mounted status title taps =>
      apply Law.of_append
      rw [status, title, taps, List.map_append]
      simpa [statusWrites] using law.tap_step
  | @advance _ copy token label reached waiting next title taps =>
      have early : after.status ≠ .ended := by
        intro ended
        exact absurd (ended ▸ (Stage.advance_spec next).2) (by decide)
      apply Law.of_advanceTap label (some reached) waiting taps
      rw [title, issued _ _ _ early]
      exact (here waiting).advance_step next
  | @endTrip _ copy token label waiting completed status title taps =>
      have entered := here waiting
      rw [completed] at entered
      apply Law.of_advanceTap label (some .endWrite) waiting taps
      rw [status, title, completed, issued _ _ _ (by decide)]
      exact entered.endTrip_step
  | @relabel _ copy reply label point next _ waiting shown status taps quiet =>
      have unwritten := unwritten_of_answers silent waiting
      apply Law.of_advanceTap label next waiting taps
      rw [statusWrites_of_quiet quiet, status, List.filter_nil, List.append_nil]
      cases point with
      | completedDirections =>
          simp only [TapPoint.relabels, Option.some.injEq, Prod.mk.injEq] at shown
          obtain ⟨title, rfl⟩ := shown
          rw [← title]
          exact (here waiting).showEndTrip_step (.inl rfl) (by simp)
      | arrivedWrite | returningWrite | gasStationWrite => cases unwritten
      | _ => cases shown
  | @proceed _ copy reply label point next _ waiting onward status title taps quiet =>
      have unwritten := unwritten_of_answers silent waiting
      apply Law.of_advanceTap label next waiting taps
      rw [statusWrites_of_quiet quiet, status, title, List.filter_nil, List.append_nil]
      apply (here waiting).proceed_step unwritten
      · rintro rfl
        rw [← title]
        exact endTrip_of_faultless faultless waiting stepped
      · rcases onward with rfl | rfl
        · simp
        · cases point <;> first | decide | cases unwritten
  | @endTheTrip _ copy reply label next emitted waiting onward status title taps quiet =>
      apply Law.of_advanceTap label next waiting taps
      rw [statusWrites_endTheTrip quiet, status, title, List.filter_nil, List.append_nil]
      apply (here waiting).showEndTrip_step (.inr rfl)
      rcases onward with rfl | rfl <;> decide
  | @finish _ copy label details fareAmount dialog mounted waiting fare status title taps =>
      have ended : (statusWrites [.pop, .write (.fares fareAmount), .write (.status .ended),
          .showDialog dialog, .saveEarnings fareAmount]).filter (· ≠ .ended) = [] := rfl
      apply Law.of_advanceTap label none waiting taps
      rw [ended, status, title, List.append_nil]
      have finished : AgreementLaw _ _ _ _ ((none : Option TapPoint).toList ++ _) :=
        (here waiting).proceed_step rfl (by simp) (by simp)
      exact finished
  | @locate _ position emitted listening status title taps quiet =>
      apply Law.of_append
      rw [statusWrites_located _ quiet, status, title, taps, List.filter_nil, List.append_nil]
      exact law
  | background status title taps quiet =>
      apply Law.of_append
      rw [statusWrites_of_quiet quiet, status, title, taps, List.filter_nil, List.append_nil]
      exact law

/-- Steps that answer a status write. -/
theorem Law.answering {after : NewRequestScreen RequestId} {actions : List ScreenAction}
    {result : Stage × Bool} (law : ride.Law)
    (faultless : ride.strands (.screen rideType (.reply copy reply)) = false)
    (answers : ride.answers? (.reply copy reply) = some result)
    (answered : ride.answered (.reply copy reply) = some settled)
    (stepped : ride.screen.step rideType (.reply copy reply) = some (after, actions)) :
    Law { settled with
      screen := after, unanswered := settled.unanswered ++ statusWrites actions } := by
  obtain ⟨stage, awaiting, _⟩ := Option.map_eq_some_iff.mp answers
  obtain ⟨⟨label, point⟩, waiting, writes⟩ := Option.bind_eq_some_iff.mp awaiting
  have here := AgreementLaw.perm (points_waiting waiting) law
  simp only [NewRequestScreen.step, waiting] at stepped
  split at stepped
  · cases stepped
  · next resumed onward emitted resumes =>
    cases stepped
    obtain ⟨unwritten, reached⟩ :=
      Law.written here faultless waiting writes answered resumes
    rw [unwritten, List.append_nil]
    exact reached.perm (points_advanceTap waiting)

theorem Law.step {event : StoredEvent} {next : StoredRide RequestId}
    {actions : List ScreenAction} (law : ride.Law) (faultless : ride.strands event = false)
    (stepped : ride.step event = some (next, actions)) : next.Law := by
  cases event with
  | endedReply success =>
      cases faultless
      obtain ⟨settled, answered, same⟩ := Option.map_eq_some_iff.mp stepped
      cases same
      simp only [answer] at answered
      split at answered
      · cases answered
      · next oldest rest queue =>
        split at answered
        · next ended =>
          cases answered
          have kept : ride.awaited = rest.filter (· ≠ .ended) := by
            simp [awaited, queue, ended]
          rw [Law, kept] at law
          exact law
        · cases answered
  | screen rideType event =>
      simp only [StoredRide.step] at stepped
      split at stepped
      · next settled after emitted answered screened =>
        cases stepped
        cases answers : ride.answers? event with
        | none =>
            simp only [StoredRide.answered, answers, Option.some.injEq] at answered
            subst answered
            exact law.move faultless answers screened
        | some result =>
            cases event with
            | reply copy reply => exact law.answering faultless answers answered screened
            | _ => cases answers
      · cases stepped

/-- A write that fails in a faultless ride is the repeated one of End Trip. -/
theorem Law.undoes {history : List ScreenAction} {event : StoredEvent} (law : ride.Law)
    (faultless : Faultless history ride event) : UndoesFailure history ride event := by
  unfold UndoesFailure
  split
  · next rideType copy =>
    intro stage entered result stepped
    obtain ⟨⟨label, point⟩, waiting, branch⟩ := Option.bind_eq_some_iff.mp entered
    cases point with
    | endWrite =>
        cases branch
        have written : Stage.completed ∈ ride.awaited := by
          apply law.queue.symm.subset
          rw [List.mem_filterMap]
          exact ⟨.endWrite, List.mem_map.mpr ⟨_, List.mem_of_getElem? waiting, rfl⟩, rfl⟩
        have reached := law.bounded _ (List.mem_cons_of_mem _ written)
        simp only [StoredRide.step, NewRequestScreen.step, waiting,
          NewRequestScreen.resume] at stepped
        split at stepped
        · next settled after emitted _ same =>
          cases stepped
          cases same
          exact ⟨le_antisymm law.unended reached, rfl⟩
        · cases stepped
    | arrivedWrite | returningWrite | gasStationWrite | completedWrite =>
        simp [Faultless, strands, waiting] at faultless
    | _ => cases branch
  · trivial

end StoredRide

/-- As long as no stage is stranded, a failing status write leaves the screen as it
was, and `status`, the stored status and the label agree whenever nothing is pending. -/
theorem agrees_of_faultless (details : ClientDetails RequestId) {ride : StoredRide RequestId}
    {events : List StoredEvent} {actions : List ScreenAction}
    (run : exec StoredRide.component { screen := { clientDetails := details } } events =
      some (ride, actions))
    (faultless : Meets StoredRide.component Faultless []
      { screen := { clientDetails := details } } events) :
    Meets StoredRide.component UndoesFailure [] { screen := { clientDetails := details } }
        events ∧
      (ride.Quiescent → ride.Agrees) := by
  have start : StoredRide.Law ({ screen := { clientDetails := details } } :
      StoredRide RequestId) := AgreementLaw.initial
  constructor
  · apply meets_of_meets StoredRide.Law _ _ start faultless
    · intro history before event after emitted law calm stepped
      exact law.step calm stepped
    · intro history before event law calm
      exact law.undoes calm
  · have law : ride.Law := by
      apply exec_invariant_of_meets (fun (_ : List ScreenAction) ride => ride.Law) _ start
        faultless run
      intro history before event after emitted law calm stepped
      exact law.step calm stepped
    exact law.agrees

def asStored (events : List ScreenEvent) : List StoredEvent :=
  events.map (.screen "Rev-x")

/-- A whole ride in which the last write fails. -/
theorem agrees_sampleRide :
    ∃ ride actions,
      exec StoredRide.component { screen := { clientDetails := sampleDetails } }
        (asStored (rideToEndTrip ++ [.tap, .reply 0 (.value (some "client")),
          .reply 0 (.value (some "token")), .reply 0 .error])) = some (ride, actions) ∧
      ride.Quiescent ∧ ride.screen.status = .completed ∧
      Meets StoredRide.component UndoesFailure []
        { screen := { clientDetails := sampleDetails } }
        (asStored (rideToEndTrip ++ [.tap, .reply 0 (.value (some "client")),
          .reply 0 (.value (some "token")), .reply 0 .error])) ∧
      ride.Agrees := by
  have ends : ((exec StoredRide.component { screen := { clientDetails := sampleDetails } }
      (asStored (rideToEndTrip ++ [.tap, .reply 0 (.value (some "client")),
        .reply 0 (.value (some "token")), .reply 0 .error]))).map fun result =>
          (result.1.screen.taps, result.1.unanswered, result.1.screen.status)) =
        some ([], [], .completed) := by
    decide +kernel
  obtain ⟨⟨ride, actions⟩, run, reached⟩ := Option.map_eq_some_iff.mp ends
  simp only [Prod.mk.injEq] at reached
  obtain ⟨handled, sent, completed⟩ := reached
  obtain ⟨undone, agrees⟩ := agrees_of_faultless sampleDetails run (by decide +kernel)
  exact ⟨ride, actions, run, ⟨handled, sent⟩, completed, undone, agrees ⟨handled, sent⟩⟩

theorem not_agrees_of_failedWrite :
    ¬ ∀ (details : ClientDetails String) (ride : StoredRide String)
        (events : List StoredEvent) (actions : List ScreenAction),
      exec StoredRide.component { screen := { clientDetails := details } } events =
        some (ride, actions) →
      Meets StoredRide.component UndoesFailure [] { screen := { clientDetails := details } }
          events ∧
        (ride.Quiescent → ride.Agrees) := by
  intro always
  have ends : ((exec StoredRide.component { screen := { clientDetails := sampleDetails } }
      (asStored [.tap, .reply 0 (.value (some "client")), .reply 0 (.value (some "token")),
        .reply 0 .error])).map fun result =>
          (result.1.screen.taps, result.1.unanswered, result.1.stored,
            result.1.screen.status)) = some ([], [], .accepted, .arrived) := by
    decide +kernel
  obtain ⟨⟨ride, actions⟩, run, reached⟩ := Option.map_eq_some_iff.mp ends
  simp only [Prod.mk.injEq] at reached
  obtain ⟨handled, sent, stored, status⟩ := reached
  have agrees := (always sampleDetails ride _ actions run).2 ⟨handled, sent⟩
  have same := agrees.stored
  rw [stored, status] at same
  cases same

end FilldRider
