import FilldRider.NewRequestScreen.Messages
import FilldRider.NewRequestScreen.StageProgress
import FilldRider.Runs.Credits

/-!
# How often the customer is told

A copy of the handler earns its messages by the token it reads and the stage it writes.
So a device hears no more often than its token was read, and a ride has two messages
of arrival at most and one SMS.
-/

set_option autoImplicit false

namespace FilldRider

open Documents Runs

/-! ## Messages -/

def Message.goesTo (token : String) (message : Message) : Bool :=
  decide (message.post.device? = some token)

def Message.tellsArrival : Message → Bool
  | .riderarrived _ _ => true
  | _ => false

def Message.tellsStation : Message → Bool
  | .sms _ _ => true
  | _ => false

def Message.tellsCompletion : Message → Bool
  | .redecompleted _ => true
  | _ => false

/-- The request a post names in its data, where its endpoint looks for data. -/
def HttpPost.requestId? (post : HttpPost) : Option String :=
  if post.url = fcmEndpoint then
    (post.body.find? [.key "message", .key "data", .key "ride_request_id"]).bind Json.text?
  else (post.body.find? [.key "data", .key "ride_request_id"]).bind Json.text?

/-- What a message says of the ride. A push of an arrival names the request, a push of
completion names none; the SMS names the gas station's place and the fare. -/
def Message.About (details : ClientDetails String) (message : Message) : Prop :=
  match message with
  | .riderarrived _ _ => message.post.requestId? = some details.rideRequestId
  | .redecompleted _ => message.post.requestId? = none
  | .sms phoneNumber content =>
      phoneNumber = "+233548498844" ∧ ∃ riderInfo, content = activationMessage riderInfo details

namespace Message

@[simp] theorem device_riderarrived (token ride_request_id : String) :
    (Message.riderarrived token ride_request_id).post.device? = some token := by
  rfl

@[simp] theorem device_redecompleted (token : String) :
    (Message.redecompleted token).post.device? = some token := by
  rfl

@[simp] theorem device_sms (phoneNumber message : String) :
    (Message.sms phoneNumber message).post.device? = none := by
  rfl

end Message

namespace Messenger

variable {rideType : String} {messenger after : Messenger} {copy : Nat}
  {actions : List MessengerAction}

/-- A copy in a branch has read the client's token. -/
def Ready (holder : Tap × Handler) : Prop :=
  holder.1.point = .clientId ∨ holder.1.point = .clientToken ∨ holder.2.clientToken ≠ none

theorem CopyTurn.ready {screen : NewRequestScreen String} {holder : Tap × Handler}
    {next : Option (Tap × Handler)} (turns : CopyTurn screen holder next actions)
    (ready : Ready holder) : ∀ reached ∈ next, Ready reached := by
  cases turns with
  | known =>
      rintro _ ⟨⟩
      exact .inr (.inl rfl)
  | branch | endBranch =>
      rintro _ ⟨⟩
      exact .inr (.inr (by simp))
  | ended | activate | finish | stop | refuse =>
      rintro _ ⟨⟩
  | @relabel _ _ _ point _ _ relabels =>
      intro reached member
      obtain ⟨next, _, rfl⟩ := Option.map_eq_some_iff.mp member
      cases point <;> first | exact .inr (.inr (by simpa [Ready] using ready)) | cases relabels
  | @follow _ _ point _ _ follows silent =>
      rintro _ ⟨⟩
      cases point <;> cases follows <;>
        first | exact .inr (.inl rfl) | exact .inr (.inr (by simpa [Ready] using ready))
  | complete =>
      rintro _ ⟨⟩
      exact .inr (.inr (by simpa [Ready] using ready))
  | @credentials _ _ point awaits =>
      rintro _ ⟨⟩
      cases point <;> first | exact .inr (.inr (by simpa [Ready] using ready)) | cases awaits
  | endTheTrip =>
      intro reached member
      obtain ⟨next, _, rfl⟩ := Option.map_eq_some_iff.mp member
      exact .inr (.inr (by simpa [Ready] using ready))

/-! ## What is sent, and how often -/

private theorem countP_screen {spends : MessengerAction → Bool} {actions : List ScreenAction}
    (silent : ∀ action : ScreenAction, action.Quiet → spends (.screen action) = false)
    (quiet : ∀ action ∈ actions, action.Quiet) : (actions.map .screen).countP spends = 0 := by
  rw [List.countP_eq_zero]
  intro action member
  obtain ⟨shown, inside, rfl⟩ := List.mem_map.mp member
  simp [silent shown (quiet shown inside)]

/-- A right that copies earn in their turns and use up: where a copy holds it, and that
no turn spends and leaves more than the copy held and earns. -/
structure Earns (spends earns : MessengerAction → Bool) (holds : Handler → TapPoint → Bool) :
    Prop where
  quiet : ∀ action : ScreenAction, action.Quiet → spends (.screen action) = false
  read : ∀ token, spends (.read token) = false
  beside : ∀ (action : MessengerAction), (∀ message, action ≠ .send message) →
    action ≠ .screen (.write (.status .ended)) → spends action = false
  newcomer : ∀ handler, holds handler .clientId = false ∧ holds handler .clientToken = false
  relabels : ∀ (handler : Handler) {point shown next}, TapPoint.relabels point = some (shown, some next) →
    holds handler next = true → holds handler point = true
  follows : ∀ (handler : Handler) {point next}, TapPoint.follows point = some next → point ≠ .endWrite →
    holds handler next = true → holds handler point = true
  branch : ∀ (handler : Handler) (token : String) (label : ButtonLabel) {stage next point},
    Stage.advance stage = some (next, point) →
    (holds { handler with clientToken := some token } point).toNat ≤
      [.read token, .screen (.entered label stage), .screen (.write (.status next))].countP earns
  endBranch : ∀ (handler : Handler) (token : String) (label : ButtonLabel),
    (holds { handler with clientToken := some token } .endWrite).toNat ≤
      [.read token, .screen (.entered label .completed),
        .screen (.write (.status .completed))].countP earns
  complete : ∀ {handler : Handler} {token}, handler.clientToken = some token →
    (spends (.send (.redecompleted token))).toNat + (holds handler .endNotification).toNat ≤
      (holds handler .endWrite).toNat + (earns (.send (.redecompleted token))).toNat
  credentials : ∀ {handler : Handler} {token point} (ride_request_id : String),
    handler.clientToken = some token → TapPoint.credentialed point = true →
    handler.posted = false →
    (spends (.send (.riderarrived token ride_request_id))).toNat +
        (holds { handler with posted := true } point).toNat ≤ (holds handler point).toNat
  activate : ∀ (handler : Handler) (message : String),
    (spends (.send (.sms "+233548498844" message))).toNat ≤
      (holds handler .gasStationNotification).toNat
  endTheTrip : spends (.screen .endTheTrip) = false
  endDirections : ∀ (handler : Handler), holds handler .endDirections = true →
    holds handler .endNotification = true
  finish : ∀ (handler : Handler) (fareAmount : Int) (dialog : ScreenDialog),
    [.screen .pop, .screen (.write (.fares fareAmount)), .screen (.write (.status .ended)),
        .screen (.showDialog dialog), .screen (.saveEarnings fareAmount)].countP spends ≤
      (holds handler .endDirections).toNat

/-- Nothing is spent on a branch. -/
private theorem Earns.branched {spends earns : MessengerAction → Bool}
    {holds : Handler → TapPoint → Bool} (fair : Earns spends earns holds) (token : String)
    (label : ButtonLabel) (entered : Stage) (stage : Stage) (unended : stage ≠ .ended) :
    [.read token, .screen (.entered label entered), .screen (.write (.status stage))].countP
      spends = 0 := by
  rw [List.countP_eq_zero]
  intro action member
  have unsent : spends action = false := by
    apply fair.beside
    · rintro message rfl
      simp at member
    · rintro rfl
      simp only [List.mem_cons, reduceCtorEq, MessengerAction.screen.injEq,
        ScreenAction.write.injEq, RequestWrite.status.injEq, List.not_mem_nil, false_or,
        or_false] at member
      exact unended member.symm
  simp [unsent]

/-- The right of a copy. -/
abbrev holding (holds : Handler → TapPoint → Bool) (holder : Tap × Handler) : Bool :=
  holds holder.2 holder.1.point

@[simp] private theorem countP_one {Entry : Type} (counts : Entry → Bool) (entry : Entry) :
    [entry].countP counts = (counts entry).toNat := by
  rw [List.countP_singleton]
  cases counts entry <;> rfl

private theorem toNat_mono {weak strong : Bool} (implies : weak = true → strong = true) :
    weak.toNat ≤ strong.toNat := by
  cases weak
  · exact Nat.zero_le _
  · rw [implies rfl]

theorem Earns.turn {spends earns : MessengerAction → Bool} {holds : Handler → TapPoint → Bool}
    (fair : Earns spends earns holds) {screen : NewRequestScreen String} {holder : Tap × Handler}
    {next : Option (Tap × Handler)} (ready : Ready holder)
    (turns : CopyTurn screen holder next actions) :
    actions.countP spends + next.toList.countP (holding holds) ≤
      [holder].countP (holding holds) + actions.countP earns := by
  cases turns with
  | @known label handler =>
      have unheld := (fair.newcomer handler).2
      simp [holding, unheld]
  | @branch label handler token stage point advances =>
      have earned := fair.branch handler token label advances
      have unended : stage ≠ .ended := by
        rintro rfl
        exact absurd (Stage.advance_spec advances).2 (by decide)
      have unspent := fair.branched token label screen.status stage unended
      simp only [Option.toList_some, countP_one, holding, unspent]
      omega
  | @endBranch label handler token completed =>
      have earned := fair.endBranch handler token label
      have unspent := fair.branched token label .completed .completed (by simp)
      simp only [Option.toList_some, countP_one, holding, unspent]
      omega
  | @ended label handler token => simp [fair.read token]
  | @relabel label shown handler point next emitted relabels quiet =>
      rw [countP_screen fair.quiet quiet]
      cases next with
      | none => simp
      | some next =>
          have kept := toNat_mono (fair.relabels handler relabels)
          simp only [Option.map_some, Option.toList_some, countP_one, holding]
          omega
  | @follow label handler point next emitted follows silent quiet =>
      rw [countP_screen fair.quiet quiet]
      have kept := toNat_mono (fair.follows handler follows silent)
      simp only [Option.toList_some, countP_one, holding]
      omega
  | @complete label handler =>
      obtain ⟨token, known⟩ : ∃ token, handler.clientToken = some token := by
        rw [← Option.ne_none_iff_exists']
        simpa [Ready] using ready
      have paid := fair.complete known
      simpa only [known, Option.toList_some, List.map_cons, List.map_nil, countP_one, holding]
        using paid
  | @credentials label handler point awaits unposted =>
      obtain ⟨token, known⟩ : ∃ token, handler.clientToken = some token := by
        rw [← Option.ne_none_iff_exists']
        rcases ready with early | early | known
        · cases point <;> first | (cases early; done) | cases awaits
        · cases point <;> first | (cases early; done) | cases awaits
        · exact known
      have paid := fair.credentials screen.clientDetails.rideRequestId known awaits unposted
      simp only [known] at paid
      simp only [known, Option.toList_some, List.map_cons, List.map_nil, countP_one, holding]
      omega
  | @activate label handler riderInfo =>
      have paid := fair.activate handler (activationMessage riderInfo screen.clientDetails)
      simp only [Option.toList_none, List.countP_nil, countP_one, holding]
      omega
  | @endTheTrip label handler next emitted onward quiet =>
      have unspent := countP_screen fair.quiet quiet
      have kept := toNat_mono (fair.endDirections handler)
      rw [List.countP_cons, unspent, fair.endTheTrip]
      rcases onward with rfl | rfl
      · simp
      · simp only [Option.map_some, Option.toList_some, countP_one, holding]
        simp
        omega
  | @finish label handler fareAmount dialog =>
      have paid := fair.finish handler fareAmount dialog
      simp only [Option.toList_none, List.countP_nil, countP_one, holding]
      omega
  | stop quiet =>
      rw [countP_screen fair.quiet quiet]
      simp
  | @refuse tap handler text =>
      simp [fair.beside (.showSnackBar text) (by simp) (by simp)]

private theorem afterTurn_perm {copies : List (Tap × Handler)} {holder : Tap × Handler}
    (next : Option (Tap × Handler)) (holding : copies[copy]? = some holder) :
    copies.Perm (holder :: copies.eraseIdx copy) ∧
      (afterTurn copies copy next).Perm (next.toList ++ copies.eraseIdx copy) := by
  obtain ⟨inside, rfl⟩ := List.getElem?_eq_some_iff.mp holding
  refine ⟨(List.getElem_cons_eraseIdx_perm inside).symm, ?_⟩
  cases next with
  | none => exact List.Perm.refl _
  | some next => exact List.set_perm_cons_eraseIdx inside next

variable {spends earns : MessengerAction → Bool} {holds : Handler → TapPoint → Bool}
  {history : List MessengerAction}

private theorem ready_move (ready : ∀ holder ∈ messenger.copies, Ready holder)
    (moves : Move messenger after actions) : ∀ holder ∈ after.copies, Ready holder := by
  intro reached member
  cases moves with
  | tap copies =>
      rw [copies, List.mem_append, List.mem_singleton] at member
      rcases member with old | rfl
      · exact ready reached old
      · exact .inl rfl
  | @turn copy holder next _ holding copies turns =>
      obtain ⟨before, left⟩ := afterTurn_perm next holding
      rw [copies, left.mem_iff, List.mem_append, Option.mem_toList] at member
      rcases member with new | old
      · exact turns.ready (ready holder (List.mem_of_getElem? holding)) reached new
      · exact ready reached (before.mem_iff.mpr (List.mem_cons_of_mem _ old))
  | beside copies =>
      rw [copies] at member
      exact ready reached member

private theorem covered_move (fair : Earns spends earns holds)
    (ready : ∀ holder ∈ messenger.copies, Ready holder)
    (covered : Covered spends earns (holding holds) history messenger.copies)
    (moves : Move messenger after actions) :
    Covered spends earns (holding holds) (history ++ actions) after.copies := by
  cases moves with
  | tap copies =>
      rw [copies, List.append_nil]
      exact covered.join (fair.newcomer _).1
  | @turn copy holder next _ holding copies turns =>
      obtain ⟨before, left⟩ := afterTurn_perm next holding
      rw [copies]
      exact covered.turn before left (fair.turn (ready holder (List.mem_of_getElem? holding)) turns)
  | beside copies unsent unended =>
      rw [copies]
      apply covered.idle
      intro action member
      apply fair.beside
      · rintro message rfl
        exact unsent message member
      · rintro rfl
        exact unended member

/-- In no run is more spent than was earned. -/
private theorem spent_of_run (fair : Earns spends earns holds) (details : ClientDetails String)
    (riderInfo : Option RideR) {events : List (String × MessengerEvent)}
    (run : exec component { screen := { clientDetails := details }, riderInfo := riderInfo }
      events = some (after, actions)) :
    actions.countP spends ≤ actions.countP earns := by
  have law : Covered spends earns (holding holds) ([] ++ actions) after.copies ∧ after.Aligned ∧
      ∀ holder ∈ after.copies, Ready holder := by
    apply exec_invariant (fun history messenger =>
      Covered spends earns (holding holds) history messenger.copies ∧ messenger.Aligned ∧
        ∀ holder ∈ messenger.copies, Ready holder) _ _ run
    · intro history before event next emitted law stepped
      obtain ⟨covered, aligned, ready⟩ := law
      obtain ⟨moves, stays, _⟩ := step_moves aligned stepped
      exact ⟨covered_move fair ready covered moves, stays, ready_move ready moves⟩
    · exact ⟨Covered.nil, rfl, by simp [copies]⟩
  exact law.1.spent

/-! ### Tokens -/

def sends (which : Message → Bool) : MessengerAction → Bool
  | .send message => which message
  | _ => false

theorem sends_beside (which : Message → Bool) (action : MessengerAction)
    (unsent : ∀ message, action ≠ .send message) : sends which action = false := by
  cases action with
  | send message => exact absurd rfl (unsent message)
  | screen | read | showToast | showSnackBar => rfl

def reads (token : String) : MessengerAction → Bool
  | .read heard => decide (heard = token)
  | _ => false

/-- The awaits of a branch before its push is posted. -/
def mayPost (handler : Handler) : TapPoint → Bool
  | .arrivedWrite | .arrivedDirections | .gasStationWrite | .endWrite => true
  | .arrivedNotification | .gasStationNotification => !handler.posted
  | _ => false

theorem goesTo_earns (token : String) :
    Earns (sends (Message.goesTo token)) (reads token) fun handler point =>
      decide (handler.clientToken = some token) && mayPost handler point where
  quiet _ _ := rfl
  read _ := rfl
  beside action unsent _ := sends_beside _ action unsent
  newcomer _ := by simp [mayPost]
  relabels := by
    intro handler point shown next relabels
    cases point <;> cases relabels <;> simp +contextual [mayPost]
  follows := by
    intro handler point next follows silent
    cases point <;> cases follows <;> simp +contextual [mayPost]
  branch := by
    intro handler heard label stage next point advances
    by_cases same : heard = token
    · simp [reads, same, Bool.toNat_le]
    · simp [same]
  endBranch := by
    intro handler heard label
    by_cases same : heard = token
    · simp [reads, same, Bool.toNat_le]
    · simp [same]
  complete := by
    intro handler heard known
    simp [sends, Message.goesTo, mayPost, known]
  credentials := by
    intro handler heard point ride_request_id known awaits unposted
    cases point <;>
      first
      | (cases awaits; simp [sends, Message.goesTo, mayPost, known, unposted])
      | cases awaits
  activate := by simp [sends, Message.goesTo]
  endTheTrip := rfl
  endDirections := by simp [mayPost]
  finish := by simp [sends]

/-! ### Stages -/

def writesStage (stage : Stage) : MessengerAction → Bool
  | .screen (.write (.status written)) => decide (written = stage)
  | _ => false

def writesArrival (action : MessengerAction) : Bool :=
  writesStage .arrived action || writesStage .arrivedAtGasStation action

/-- The awaits of an arrival before its push is posted. -/
def mayArrive (handler : Handler) : TapPoint → Bool
  | .arrivedWrite | .arrivedDirections | .gasStationWrite => true
  | .arrivedNotification | .gasStationNotification => !handler.posted
  | _ => false

theorem tellsArrival_earns : Earns (sends Message.tellsArrival) writesArrival mayArrive where
  quiet _ _ := rfl
  read _ := rfl
  beside action unsent _ := sends_beside _ action unsent
  newcomer _ := ⟨rfl, rfl⟩
  relabels := by
    intro handler point shown next relabels
    cases point <;> cases relabels <;> simp [mayArrive]
  follows := by
    intro handler point next follows silent
    cases point <;> cases follows <;> simp [mayArrive]
  branch := by
    intro handler heard label stage next point advances
    cases stage <;> cases advances <;> simp [writesArrival, writesStage, mayArrive]
  endBranch := by simp [mayArrive]
  complete := by simp [sends, Message.tellsArrival, mayArrive]
  credentials := by
    intro handler heard point ride_request_id known awaits unposted
    cases point <;>
      first
      | (cases awaits; simp [sends, Message.tellsArrival, mayArrive, unposted])
      | cases awaits
  activate := by simp [sends, Message.tellsArrival]
  endTheTrip := rfl
  endDirections := by simp [mayArrive]
  finish := by simp [sends]

theorem tellsStation_earns :
    Earns (sends Message.tellsStation) (writesStage .arrivedAtGasStation) fun _ point =>
      decide (point = .gasStationWrite) || decide (point = .gasStationNotification) where
  quiet _ _ := rfl
  read _ := rfl
  beside action unsent _ := sends_beside _ action unsent
  newcomer _ := ⟨rfl, rfl⟩
  relabels := by
    intro handler point shown next relabels
    cases point <;> cases relabels <;> simp
  follows := by
    intro handler point next follows silent
    cases point <;> cases follows <;> simp
  branch := by
    intro handler heard label stage next point advances
    cases stage <;> cases advances <;> simp [writesStage]
  endBranch := by simp
  complete := by simp [sends, Message.tellsStation]
  credentials := by simp [sends, Message.tellsStation]
  activate := by simp [sends, Message.tellsStation]
  endTheTrip := rfl
  endDirections := by simp
  finish := by simp [sends]

theorem ended_earns :
    Earns (writesStage .ended) (sends Message.tellsCompletion) fun _ point =>
      decide (point = .endNotification) || decide (point = .endDirections) where
  quiet := by
    intro action quiet
    cases action <;> first | rfl | exact quiet.elim
  read _ := rfl
  beside := by
    intro action _ unended
    unfold writesStage
    split
    · next written =>
      apply decide_eq_false
      rintro rfl
      exact unended rfl
    · rfl
  newcomer _ := ⟨rfl, rfl⟩
  relabels := by
    intro handler point shown next relabels
    cases point <;> cases relabels <;> simp
  follows := by
    intro handler point next follows silent
    cases point <;> cases follows <;> simp at silent ⊢
  branch := by
    intro handler heard label stage next point advances
    cases stage <;> cases advances <;> simp
  endBranch := by simp
  complete := by simp [sends, Message.tellsCompletion, writesStage]
  credentials := by simp [writesStage]
  activate := by simp [writesStage]
  endTheTrip := rfl
  endDirections := by simp
  finish := by simp [writesStage]

/-! ## A whole ride -/

private theorem about_of_turn {holder : Tap × Handler} {next : Option (Tap × Handler)}
    (turns : CopyTurn messenger.screen holder next actions) {message : Message}
    (sent : .send message ∈ actions) : message.About messenger.screen.clientDetails := by
  cases turns with
  | known => cases sent
  | branch | endBranch | ended | finish | refuse => simp at sent
  | relabel | follow | stop | endTheTrip => simp at sent
  | complete =>
      obtain ⟨token, _, same⟩ := List.mem_map.mp sent
      cases same
      rfl
  | credentials =>
      obtain ⟨token, _, same⟩ := List.mem_map.mp sent
      cases same
      rfl
  | activate =>
      cases List.mem_singleton.mp sent
      exact ⟨rfl, _, rfl⟩

private theorem about_of_run (details : ClientDetails String) (riderInfo : Option RideR)
    {events : List (String × MessengerEvent)}
    (run : exec component { screen := { clientDetails := details }, riderInfo := riderInfo }
      events = some (after, actions)) :
    ∀ message, .send message ∈ actions → message.About details := by
  have law : (∀ message, .send message ∈ [] ++ actions → message.About details) ∧
      after.screen.clientDetails = details ∧ after.Aligned := by
    apply exec_invariant (fun history messenger =>
      (∀ message, .send message ∈ history → message.About details) ∧
        messenger.screen.clientDetails = details ∧ messenger.Aligned) _ _ run
    · intro history before event next emitted law stepped
      obtain ⟨about, same, aligned⟩ := law
      obtain ⟨moves, stays, details⟩ := step_moves aligned stepped
      refine ⟨?_, details.trans same, stays⟩
      intro message member
      rcases List.mem_append.mp member with old | new
      · exact about message old
      · cases moves with
        | tap => cases new
        | turn holding copies turns => exact same ▸ about_of_turn turns new
        | beside copies unsent => exact absurd new (unsent message)
    · exact ⟨by simp, rfl, rfl⟩
  exact law.1

/-- Each message says of the ride what its kind says; and no device is sent more pushes
than taps have read its token. -/
theorem sent_within_reads (details : ClientDetails String) (riderInfo : Option RideR)
    {events : List (String × MessengerEvent)}
    (run : exec component { screen := { clientDetails := details }, riderInfo := riderInfo }
      events = some (after, actions)) :
    (∀ message, .send message ∈ actions → message.About details) ∧
      ∀ token, actions.countP (sends (Message.goesTo token)) ≤ actions.countP (reads token) :=
  ⟨about_of_run details riderInfo run,
    fun token => spent_of_run (goesTo_earns token) details riderInfo run⟩

private theorem countP_writesStage (stage : Stage) (actions : List MessengerAction) :
    actions.countP (writesStage stage) =
      (statusWrites (actions.filterMap screen?)).count stage := by
  rw [statusWrites, List.filterMap_filterMap, List.count, List.countP_filterMap]
  apply List.countP_congr
  intro action _
  cases action with
  | screen action =>
      cases action with
      | write write => cases write <;> simp [writesStage, screen?, ScreenAction.statusWrite?]
      | _ => simp [writesStage, screen?, ScreenAction.statusWrite?]
  | read | send | showToast | showSnackBar => simp [writesStage, screen?]

private theorem countP_writesArrival (actions : List MessengerAction) :
    actions.countP writesArrival ≤
      actions.countP (writesStage .arrived) + actions.countP (writesStage .arrivedAtGasStation) := by
  induction actions with
  | nil => simp
  | cons action rest ih =>
      rw [List.countP_cons, List.countP_cons, List.countP_cons, writesArrival]
      cases writesStage .arrived action <;> cases writesStage .arrivedAtGasStation action <;>
        simp only [Bool.or_false, Bool.or_true, Bool.false_eq_true, if_true, if_false] <;> omega

private theorem writes_once (stage : Stage) (unended : stage ≠ .ended)
    (uncompleted : stage ≠ .completed) (details : ClientDetails String)
    (riderInfo : Option RideR) {events : List (String × MessengerEvent)}
    (run : exec component { screen := { clientDetails := details }, riderInfo := riderInfo }
      events = some (after, actions)) : actions.countP (writesStage stage) ≤ 1 := by
  obtain ⟨shown, below⟩ := screen_of_run run
  have law : ProgressLaw (NewRequestScreen.initState "" none none ++
      actions.filterMap screen?) after.screen := by
    apply exec_invariant ProgressLaw _ (ProgressLaw.initial "" none none details) below
    intro history before event after emitted held stepped
    exact held.move (NewRequestScreen.step_moves stepped)
  obtain ⟨repeats, written, _⟩ := law.written
  have counted := congrArg (List.count stage) written
  rw [stagesWritten, List.count_filter (by simpa using unended), statusWrites_append,
    List.count_append, List.count_append, List.count_replicate] at counted
  have once : after.screen.status.upTo.count stage ≤ 1 := by
    cases after.screen.status <;> cases stage <;> decide
  rw [if_neg (by simpa using uncompleted.symm)] at counted
  rw [countP_writesStage]
  omega

/-- In a whole ride the customer is told of an arrival twice at most and the gas station
once, and every end is preceded by a message of completion. -/
theorem messages_of_ride (details : ClientDetails String) (riderInfo : Option RideR)
    {events : List (String × MessengerEvent)}
    (run : exec component { screen := { clientDetails := details }, riderInfo := riderInfo }
      events = some (after, actions)) :
    actions.countP (sends Message.tellsArrival) ≤ 2 ∧
      actions.countP (sends Message.tellsStation) ≤ 1 ∧
      actions.countP (writesStage .ended) ≤ actions.countP (sends Message.tellsCompletion) := by
  have arrived := writes_once .arrived (by decide) (by decide) details riderInfo run
  have station := writes_once .arrivedAtGasStation (by decide) (by decide) details riderInfo run
  have arrivals := spent_of_run tellsArrival_earns details riderInfo run
  have stages : actions.countP writesArrival ≤
      actions.countP (writesStage .arrived) +
        actions.countP (writesStage .arrivedAtGasStation) := countP_writesArrival actions
  exact ⟨by omega, (spent_of_run tellsStation_earns details riderInfo run).trans station,
    spent_of_run ended_earns details riderInfo run⟩

end Messenger

/-- The ride of `rideToEndTrip` with its messages: a push for each arrival, the SMS, and
the push that comes before the end. -/
def rideWithMessages : List MessengerEvent :=
  (rideToEndTrip.take 10).map MessengerEvent.screen ++
    [MessengerEvent.credentials 0 (some "access"), .response 0 (some 200)] ++
    ((rideToEndTrip.take 19).drop 11).map MessengerEvent.screen ++
    [MessengerEvent.credentials 0 (some "access"), .response 0 (some 404),
      .smsResponse (some 200)] ++
    (rideToEndTrip.drop 20 ++ (endTripTap sampleDirections).take 4).map MessengerEvent.screen ++
    [MessengerEvent.response 0 (some 200),
      .screen (.reply 0 (.directions (some sampleDirections)))]

theorem sent_within_reads_rideWithMessages :
    ∃ messenger actions,
      exec Messenger.component { screen := { clientDetails := sampleDetails } }
        (rideWithMessages.map fun event => ("Rev-x", event)) = some (messenger, actions) ∧
      actions.countP (Messenger.sends (Message.goesTo "token")) = 3 ∧
      (∀ message, .send message ∈ actions → message.About sampleDetails) ∧
      ∀ token, actions.countP (Messenger.sends (Message.goesTo token)) ≤
        actions.countP (Messenger.reads token) := by
  have sent : (exec Messenger.component { screen := { clientDetails := sampleDetails } }
      (rideWithMessages.map fun event => ("Rev-x", event))).map (fun result =>
        result.2.countP (Messenger.sends (Message.goesTo "token"))) = some 3 := by
    decide +kernel
  obtain ⟨⟨messenger, actions⟩, run, counted⟩ := Option.map_eq_some_iff.mp sent
  exact ⟨messenger, actions, run, counted,
    Messenger.sent_within_reads sampleDetails none run⟩

theorem messages_rideWithMessages :
    ∃ messenger actions,
      exec Messenger.component { screen := { clientDetails := sampleDetails } }
        (rideWithMessages.map fun event => ("Rev-x", event)) = some (messenger, actions) ∧
      .screen (.write (.status .ended)) ∈ actions ∧
      actions.countP (Messenger.sends Message.tellsArrival) ≤ 2 ∧
      actions.countP (Messenger.sends Message.tellsStation) ≤ 1 ∧
      actions.countP (Messenger.writesStage .ended) ≤
        actions.countP (Messenger.sends Message.tellsCompletion) := by
  have ends : (exec Messenger.component { screen := { clientDetails := sampleDetails } }
      (rideWithMessages.map fun event => ("Rev-x", event))).map (fun result =>
        decide (.screen (.write (.status .ended)) ∈ result.2)) = some true := by
    decide +kernel
  obtain ⟨⟨messenger, actions⟩, run, ended⟩ := Option.map_eq_some_iff.mp ends
  exact ⟨messenger, actions, run, of_decide_eq_true ended,
    Messenger.messages_of_ride sampleDetails none run⟩

end FilldRider
