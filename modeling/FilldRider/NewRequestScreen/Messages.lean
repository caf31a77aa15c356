import FilldRider.Documents.Basic
import FilldRider.NewRequestScreen.Background
import FilldRider.NewRequestScreen.Moves
import FilldRider.Records.Aligned
import FilldRider.Runs.Simulation

/-!
# Messages of a ride

What the copies of the stage button tell the customer and the gas station. The ride
screen takes each message for one await; here a push waits for its credentials first,
and the activation of the gas station sends an SMS that nobody waits for.
-/

set_option autoImplicit false

namespace FilldRider

open Documents Runs

/-- One `http.post`, apart from its headers. -/
structure HttpPost where
  url : String
  body : Json

def projectId : String := "fill-d-db8f7"

def fcmEndpoint : String :=
  "https://fcm.googleapis.com/v1/projects/" ++ projectId ++ "/messages:send"

def sendNotificationriderarrived (token ride_request_id : String) : HttpPost where
  url := fcmEndpoint
  body := .object [("message", .object [
    ("token", .string token),
    ("notification", .object [
      ("body", .string "Rider is outside Kindly  make your cylinder available"),
      ("title", .string "Rider Has Arrived At Your Location")]),
    ("data", .object [
      ("click_action", .string "FLUTTER_NOTIFICATION_CLICK"),
      ("id", .string "1"),
      ("status", .string "done"),
      ("ride_request_id", .string ride_request_id)])])]

/-- The legacy endpoint; the id of the request is not sent. -/
def sendNotificationforredecompleted (token : String) : HttpPost where
  url := "https://fcm.googleapis.com/fcm/send"
  body := .object [
    ("notification", .object [
      ("body", .string "Rider is has completed"),
      ("title", .string "Gas delivery Successful")]),
    ("data", .object [
      ("click_action", .string "FLUTTER_NOTIFICATION_CLICK"),
      ("id", .string "1"),
      ("status", .string "done")]),
    ("priority", .string "high"),
    ("to", .string token)]

def sendSms (phoneNumber message : String) : HttpPost where
  url := "https://sms.hubtel.com/v1/messages/send"
  body := .object [
    ("From", .string "Fill'D"),
    ("To", .string phoneNumber),
    ("Content", .string message),
    ("RegisteredDelivery", .bool true)]

/-- What the gas station is told. -/
def activationMessage (riderInfo : Option RideR) (clientDetails : ClientDetails String) :
    String :=
  "Hi there, your rider with name  " ++
    interpolate (riderInfo.map fun rider => interpolate rider.firstname) ++ " " ++
    interpolate (riderInfo.map fun rider => interpolate rider.lastname) ++
    ", is at the " ++ interpolate clientDetails.dropoffAddress ++
    " Gas Station ." ++ "Kindly pay this amount: " ++
    interpolate clientDetails.gasFare ++ " for the refill  "

/-- The calls that post something. -/
inductive Message where
  | riderarrived (token ride_request_id : String)
  | redecompleted (token : String)
  | sms (phoneNumber message : String)
  deriving DecidableEq

def Message.post : Message → HttpPost
  | .riderarrived token ride_request_id => sendNotificationriderarrived token ride_request_id
  | .redecompleted token => sendNotificationforredecompleted token
  | .sms phoneNumber message => sendSms phoneNumber message

/-- The device a post goes to, where its endpoint looks for it. -/
def HttpPost.device? (post : HttpPost) : Option String :=
  if post.url = fcmEndpoint then
    (post.body.find? [.key "message", .key "token"]).bind Json.text?
  else if post.url = "https://fcm.googleapis.com/fcm/send" then
    (post.body.find? [.key "to"]).bind Json.text?
  else none

/-- What a copy of the handler holds besides the await it stands at: the token it read,
and whether the message it waits for is posted. -/
structure Handler where
  clientToken : Option String := none
  posted : Bool := false
  deriving DecidableEq

/-- `read` only observes that a copy has read the client's token. -/
inductive MessengerAction where
  | screen (action : ScreenAction)
  | read (token : String)
  | send (message : Message)
  | showToast (text : String)
  | showSnackBar (text : String)
  deriving DecidableEq

/-- The ride screen with what its messages need; `handlers` are the copies of the
handler, as `taps` are. -/
structure Messenger where
  screen : NewRequestScreen String
  handlers : List Handler := []
  riderInfo : Option RideR := none
  isSending : Bool := false
  /-- Calls of `sendSms` that wait for their response. -/
  activations : Nat := 0

/-- The awaits of the screen, and those inside its messages: the credentials of a copy,
the response to its push, each `none` on failure, and the response to an SMS. -/
inductive MessengerEvent where
  | screen (event : ScreenEvent)
  | credentials (copy : Nat) (accessToken : Option String)
  | response (copy : Nat) (statusCode : Option Nat)
  | smsResponse (statusCode : Option Nat)
  | setRider (rider : RideR)

namespace TapPoint

/-- The awaits of a message. -/
def notifies : TapPoint → Bool
  | .arrivedNotification | .gasStationNotification | .endNotification => true
  | _ => false

/-- The messages that are posted with credentials. -/
def credentialed : TapPoint → Bool
  | .arrivedNotification | .gasStationNotification => true
  | _ => false

end TapPoint

/-- What a copy keeps and does of its own when it is resumed: it holds on to the token,
and tells the customer once the completion is stored. -/
def Handler.resumed (handler : Handler) : TapPoint → Reply → Handler × List MessengerAction
  | .clientToken, .value (some token) =>
      ({ handler with clientToken := some token }, [.read token])
  | .endWrite, .done =>
      (handler, handler.clientToken.toList.map fun token => .send (.redecompleted token))
  | _, _ => (handler, [])

namespace Messenger

/-- Resume a copy on the screen; the handler of a copy that ended is gone with it. -/
def reply (rideType : String) (messenger : Messenger) (copy : Nat) (reply : Reply)
    (handler : Handler) (sent : List MessengerAction) :
    Option (Messenger × List MessengerAction) :=
  match messenger.screen.step rideType (.reply copy reply) with
  | none => none
  | some (next, actions) =>
      some ({ messenger with
        screen := next
        handlers := if next.taps.length = messenger.screen.taps.length
          then messenger.handlers.set copy handler else messenger.handlers.eraseIdx copy },
        sent ++ actions.map .screen)

/-- `_handleRiderActivation` with `sendSms` up to its await. The provider is looked up
through the context, which throws once the screen is unmounted. -/
def handleRiderActivation (messenger : Messenger) : Messenger × List MessengerAction :=
  if messenger.screen.mounted then
    let phoneNumber := "+233548498844"
    let message := activationMessage messenger.riderInfo messenger.screen.clientDetails
    if phoneNumber ≠ "" ∧ message ≠ "" then
      ({ messenger with isSending := true, activations := messenger.activations + 1 },
        [.send (.sms phoneNumber message)])
    else (messenger, [.showSnackBar "Please fill in all fields"])
  else (messenger, [])

/-- The message of a copy is through, and its await completes. -/
def finish (rideType : String) (messenger : Messenger) (copy : Nat) (tap : Tap)
    (handler : Handler) (reply : Reply) : Option (Messenger × List MessengerAction) :=
  match messenger.reply rideType copy reply handler [] with
  | none => none
  | some (next, actions) =>
      if tap.point = .gasStationNotification then
        let (activated, sent) := next.handleRiderActivation
        some (activated, actions ++ sent)
      else some (next, actions)

/-- A tap adds a handler; nothing else but replies touches them. -/
def screenStep (rideType : String) (messenger : Messenger) (event : ScreenEvent)
    (handlers : List Handler) : Option (Messenger × List MessengerAction) :=
  (messenger.screen.step rideType event).map fun result =>
    ({ messenger with screen := result.1, handlers := handlers }, result.2.map .screen)

/-- `sendNotificationriderarrived` catches every error, `sendNotificationforredecompleted`
none: a response that never comes stops the copy there. -/
def step (rideType : String) (messenger : Messenger) :
    MessengerEvent → Option (Messenger × List MessengerAction)
  | .screen .tap => messenger.screenStep rideType .tap (messenger.handlers ++ [{}])
  | .screen (.reply copy reply) =>
      match messenger.screen.taps[copy]?, messenger.handlers[copy]? with
      | some tap, some handler =>
          if tap.point.notifies then none
          else
            let (resumed, sent) := handler.resumed tap.point reply
            messenger.reply rideType copy reply resumed sent
      | _, _ => none
  | .screen event => messenger.screenStep rideType event messenger.handlers
  | .credentials copy accessToken =>
      match messenger.screen.taps[copy]?, messenger.handlers[copy]? with
      | some tap, some handler =>
          if tap.point.credentialed && !handler.posted then
            match accessToken with
            | none => messenger.finish rideType copy tap handler .done
            | some _ =>
                some ({ messenger with
                  handlers := messenger.handlers.set copy { handler with posted := true } },
                  handler.clientToken.toList.map fun token =>
                    .send (.riderarrived token messenger.screen.clientDetails.rideRequestId))
          else none
      | _, _ => none
  | .response copy statusCode =>
      match messenger.screen.taps[copy]?, messenger.handlers[copy]? with
      | some tap, some handler =>
          if tap.point.credentialed && handler.posted then
            messenger.finish rideType copy tap handler .done
          else if tap.point = .endNotification then
            messenger.finish rideType copy tap handler
              (if statusCode = none then .error else .done)
          else none
      | _, _ => none
  | .smsResponse statusCode =>
      if 0 < messenger.activations then
        some ({ messenger with
          activations := messenger.activations - 1
          isSending := if messenger.screen.mounted then false else messenger.isSending },
          if statusCode = none then [] else [.showToast "SMS sent successfully!"])
      else none
  | .setRider rider => some ({ messenger with riderInfo := some rider }, [])

def component : Component Messenger (String × MessengerEvent) MessengerAction :=
  fun messenger event => messenger.step event.1 event.2

/-- The copies with what they hold. -/
def copies (messenger : Messenger) : List (Tap × Handler) :=
  messenger.screen.taps.zip messenger.handlers

/-! ## Turns of the copies -/

/-- What a copy does when it gets a turn, and what it is afterwards, if anything. -/
inductive CopyTurn (screen : NewRequestScreen String) :
    Tap × Handler → Option (Tap × Handler) → List MessengerAction → Prop where
  | known {label : ButtonLabel} {handler : Handler} :
      CopyTurn screen (⟨label, .clientId⟩, handler) (some (⟨label, .clientToken⟩, handler)) []
  | branch {label : ButtonLabel} {handler : Handler} {token : String} {stage : Stage}
      {point : TapPoint} (advances : screen.status.advance = some (stage, point)) :
      CopyTurn screen (⟨label, .clientToken⟩, handler)
        (some (⟨label, point⟩, { handler with clientToken := some token }))
        [.read token, .screen (.entered label screen.status), .screen (.write (.status stage))]
  | endBranch {label : ButtonLabel} {handler : Handler} {token : String}
      (completed : screen.status = .completed) :
      CopyTurn screen (⟨label, .clientToken⟩, handler)
        (some (⟨label, .endWrite⟩, { handler with clientToken := some token }))
        [.read token, .screen (.entered label .completed), .screen (.write (.status .completed))]
  | ended {label : ButtonLabel} {handler : Handler} {token : String} :
      CopyTurn screen (⟨label, .clientToken⟩, handler) none [.read token]
  | relabel {label shown : ButtonLabel} {handler : Handler} {point : TapPoint}
      {next : Option TapPoint} {actions : List ScreenAction}
      (relabels : point.relabels = some (shown, next)) (quiet : ∀ action ∈ actions, action.Quiet) :
      CopyTurn screen (⟨label, point⟩, handler)
        (next.map fun next => (⟨label, next⟩, handler)) (actions.map .screen)
  | follow {label : ButtonLabel} {handler : Handler} {point next : TapPoint}
      {actions : List ScreenAction} (follows : point.follows = some next)
      (silent : point ≠ .endWrite) (quiet : ∀ action ∈ actions, action.Quiet) :
      CopyTurn screen (⟨label, point⟩, handler) (some (⟨label, next⟩, handler))
        (actions.map .screen)
  | complete {label : ButtonLabel} {handler : Handler} :
      CopyTurn screen (⟨label, .endWrite⟩, handler) (some (⟨label, .endNotification⟩, handler))
        (handler.clientToken.toList.map fun token => .send (.redecompleted token))
  | credentials {label : ButtonLabel} {handler : Handler} {point : TapPoint}
      (awaits : point.credentialed = true) (unposted : handler.posted = false) :
      CopyTurn screen (⟨label, point⟩, handler)
        (some (⟨label, point⟩, { handler with posted := true }))
        (handler.clientToken.toList.map fun token =>
          .send (.riderarrived token screen.clientDetails.rideRequestId))
  | activate {label : ButtonLabel} {handler : Handler} {riderInfo : Option RideR} :
      CopyTurn screen (⟨label, .gasStationNotification⟩, handler) none
        [.send (.sms "+233548498844" (activationMessage riderInfo screen.clientDetails))]
  | endTheTrip {label : ButtonLabel} {handler : Handler} {next : Option TapPoint}
      {actions : List ScreenAction} (onward : next = none ∨ next = some .endDirections)
      (quiet : ∀ action ∈ actions, action.Quiet) :
      CopyTurn screen (⟨label, .endNotification⟩, handler)
        (next.map fun next => (⟨label, next⟩, handler))
        (.screen .endTheTrip :: actions.map .screen)
  | finish {label : ButtonLabel} {handler : Handler} {fareAmount : Int} {dialog : ScreenDialog} :
      CopyTurn screen (⟨label, .endDirections⟩, handler) none
        [.screen .pop, .screen (.write (.fares fareAmount)), .screen (.write (.status .ended)),
          .screen (.showDialog dialog), .screen (.saveEarnings fareAmount)]
  | stop {tap : Tap} {handler : Handler} {actions : List ScreenAction}
      (quiet : ∀ action ∈ actions, action.Quiet) :
      CopyTurn screen (tap, handler) none (actions.map .screen)
  | refuse {tap : Tap} {handler : Handler} {text : String} :
      CopyTurn screen (tap, handler) none [.showSnackBar text]

/-- Put what a copy became in its place, or take it out. -/
def afterTurn (copies : List (Tap × Handler)) (copy : Nat) :
    Option (Tap × Handler) → List (Tap × Handler)
  | some next => copies.set copy next
  | none => copies.eraseIdx copy

/-- One move of the messenger: a new copy, a turn of one, or something beside them. -/
inductive Move (before : Messenger) : Messenger → List MessengerAction → Prop where
  | tap {after : Messenger} {label : ButtonLabel}
      (copies : after.copies = before.copies ++ [(⟨label, .clientId⟩, ⟨none, false⟩)]) :
      Move before after []
  | turn {after : Messenger} {copy : Nat} {holder : Tap × Handler}
      {next : Option (Tap × Handler)} {actions : List MessengerAction}
      (holding : before.copies[copy]? = some holder)
      (copies : after.copies = afterTurn before.copies copy next)
      (turns : CopyTurn before.screen holder next actions) :
      Move before after actions
  | beside {after : Messenger} {actions : List MessengerAction}
      (copies : after.copies = before.copies)
      (unsent : ∀ message, .send message ∉ actions)
      (unended : .screen (.write (.status .ended)) ∉ actions) :
      Move before after actions

variable {rideType : String} {messenger after : Messenger} {copy : Nat} {tap : Tap}
  {handler : Handler} {reply : Reply} {actions : List MessengerAction}

private theorem enterBranch_turn (screen : NewRequestScreen String) (label : ButtonLabel)
    (handler : Handler) (token : String) :
    CopyTurn screen (⟨label, .clientToken⟩, handler)
      ((screen.enterBranch label).2.1.map fun next =>
        (⟨label, next⟩, { handler with clientToken := some token }))
      ([.read token] ++ (screen.enterBranch label).2.2.map .screen) := by
  cases stage : screen.status with
  | accepted | arrived | returning | arrivedAtGasStation =>
      simp only [NewRequestScreen.enterBranch, stage]
      rw [← stage]
      exact .branch (by rw [stage]; rfl)
  | completed =>
      simp only [NewRequestScreen.enterBranch, stage]
      exact .endBranch stage
  | ended =>
      simp only [NewRequestScreen.enterBranch, stage]
      exact .ended

/-- A reply the screen takes is a turn of the copy. -/
private theorem turn_of_resume {screen resumed : NewRequestScreen String} {label : ButtonLabel}
    {point : TapPoint} {next : Option TapPoint} {emitted : List ScreenAction} (handler : Handler)
    (resumes : screen.resume rideType label point reply = some (resumed, next, emitted))
    (silent : point.notifies = false) :
    CopyTurn screen (⟨label, point⟩, handler)
      (next.map fun next => (⟨label, next⟩, (handler.resumed point reply).1))
      ((handler.resumed point reply).2 ++ emitted.map .screen) := by
  unfold NewRequestScreen.resume at resumes
  split at resumes
  case h_1 =>
    cases resumes
    have unheard : handler.resumed point .error = (handler, []) := by cases point <;> rfl
    rw [unheard]
    exact .stop (by simp)
  case h_2 | h_4 =>
    cases resumes
    exact .stop (by simp)
  case h_3 =>
    cases resumes
    exact .known
  case h_5 token =>
    have turn := enterBranch_turn screen label handler token
    rw [Option.some.inj resumes] at turn
    exact turn
  case h_6 =>
    split at resumes <;> cases resumes
    · exact .relabel rfl (by simp [NewRequestScreen.getPlaceDirection, ScreenAction.Quiet])
    · exact .stop (by simp)
  case h_7 =>
    repeat' split at resumes
    all_goals cases resumes
    · exact .follow rfl (by simp) (by simp [ScreenAction.Quiet])
    · exact .stop (by simp [ScreenAction.Quiet])
    · exact .stop (by simp)
  case h_9 | h_10 =>
    split at resumes <;> cases resumes
    · exact .relabel rfl (by simp)
    · exact .stop (by simp)
  case h_12 =>
    split at resumes <;> cases resumes
    · exact .follow rfl (by simp) (by simp [NewRequestScreen.getPlaceDirection2, ScreenAction.Quiet])
    · exact .stop (by simp)
  case h_13 =>
    repeat' split at resumes
    all_goals cases resumes
    · exact .relabel rfl (by simp [ScreenAction.Quiet])
    · exact .stop (by simp [ScreenAction.Quiet])
    · exact .stop (by simp)
  case h_14 =>
    cases resumes
    have turn : CopyTurn screen (⟨label, .endWrite⟩, handler) _ _ := .complete
    rwa [← List.append_nil (handler.clientToken.toList.map _)] at turn
  case h_16 details =>
    split at resumes
    · unfold NewRequestScreen.finishTrip at resumes
      split at resumes <;> cases resumes
      · exact .stop (by simp [ScreenAction.Quiet])
      · exact .finish
    · cases resumes
      exact .stop (by simp)
  case h_8 | h_11 | h_15 => cases silent
  case h_17 => cases resumes

/-- Every copy has a handler. -/
def Aligned (messenger : Messenger) : Prop :=
  messenger.handlers.length = messenger.screen.taps.length

theorem copies_get (waiting : messenger.screen.taps[copy]? = some tap)
    (holding : messenger.handlers[copy]? = some handler) :
    messenger.copies[copy]? = some (tap, handler) := by
  simp [copies, List.getElem?_zip_eq_some, waiting, holding]

private theorem copies_set (waiting : messenger.screen.taps[copy]? = some tap)
    (handler : Handler) :
    messenger.screen.taps.zip (messenger.handlers.set copy handler) =
      messenger.copies.set copy (tap, handler) := by
  obtain ⟨inside, here⟩ := List.getElem?_eq_some_iff.mp waiting
  have same : messenger.screen.taps.set copy tap = messenger.screen.taps := by
    rw [← here]
    exact List.set_getElem_self inside
  have zipped := Records.zip_set messenger.screen.taps messenger.handlers copy tap handler
  rwa [same] at zipped

/-- A copy that is resumed on the screen keeps its place, or goes with its handler. -/
private theorem reply_spec {kept : Handler} {sent : List MessengerAction}
    (replies : messenger.reply rideType copy reply kept sent = some (after, actions))
    (waiting : messenger.screen.taps[copy]? = some tap) :
    ∃ resumed next emitted,
      messenger.screen.resume rideType tap.label tap.point reply = some (resumed, next, emitted) ∧
      after.screen = { resumed with
        taps := NewRequestScreen.advanceTap messenger.screen.taps copy tap.label next } ∧
      after.copies = afterTurn messenger.copies copy
        (next.map fun next => (⟨tap.label, next⟩, kept)) ∧
      (messenger.Aligned → after.Aligned) ∧ actions = sent ++ emitted.map .screen := by
  obtain ⟨inside, _⟩ := List.getElem?_eq_some_iff.mp waiting
  simp only [Messenger.reply] at replies
  split at replies
  · cases replies
  · next screen emitted stepped =>
    simp only [NewRequestScreen.step, waiting] at stepped
    split at stepped
    · cases stepped
    · next resumed next issued resumes =>
      cases stepped
      cases replies
      have shorter : (messenger.screen.taps.eraseIdx copy).length ≠
          messenger.screen.taps.length := by
        rw [List.length_eraseIdx_of_lt inside]
        omega
      refine ⟨resumed, next, emitted, resumes, rfl, ?_, ?_, rfl⟩
      · cases next with
        | none =>
            simp only [copies, NewRequestScreen.advanceTap, shorter, if_false]
            exact Records.zip_eraseIdx ..
        | some point =>
            simp only [copies, NewRequestScreen.advanceTap, List.length_set, if_true]
            exact Records.zip_set ..
      · intro aligned
        unfold Aligned at *
        cases next with
        | none =>
            simp only [NewRequestScreen.advanceTap, shorter, if_false]
            rw [List.length_eraseIdx, List.length_eraseIdx, aligned]
        | some point =>
            simp only [NewRequestScreen.advanceTap, List.length_set, if_true]
            exact aligned

private theorem turn_of_notified {screen resumed : NewRequestScreen String} {label : ButtonLabel}
    {point : TapPoint} {next : Option TapPoint} {emitted : List ScreenAction} (handler : Handler)
    (resumes : screen.resume rideType label point reply = some (resumed, next, emitted))
    (awaits : point.notifies = true) :
    CopyTurn screen (⟨label, point⟩, handler) (next.map fun next => (⟨label, next⟩, handler))
      (emitted.map .screen) ∧ (point ≠ .endNotification → next = none ∧ emitted = []) := by
  unfold NewRequestScreen.resume at resumes
  split at resumes
  case h_1 | h_8 | h_11 =>
    cases resumes
    exact ⟨.stop (by simp), fun _ => ⟨rfl, rfl⟩⟩
  case h_15 =>
    refine ⟨?_, fun other => absurd rfl other⟩
    split at resumes
    · unfold NewRequestScreen.endTheTrip at resumes
      split at resumes <;> cases resumes
      · exact .endTheTrip (.inl rfl) (by simp [ScreenAction.Quiet])
      · exact .endTheTrip (.inr rfl) (by simp [ScreenAction.Quiet])
    · cases resumes
      exact .stop (by simp)
  case h_17 => cases resumes
  all_goals cases awaits

private theorem handleRiderActivation_spec (messenger : Messenger) :
    messenger.handleRiderActivation.1.screen = messenger.screen ∧
      messenger.handleRiderActivation.1.handlers = messenger.handlers ∧
      (messenger.handleRiderActivation.2 = [.send (.sms "+233548498844"
          (activationMessage messenger.riderInfo messenger.screen.clientDetails))] ∨
        (∃ text, messenger.handleRiderActivation.2 = [.showSnackBar text]) ∨
        messenger.handleRiderActivation.2 = []) := by
  unfold handleRiderActivation
  split
  · dsimp only
    split
    · exact ⟨rfl, rfl, .inl rfl⟩
    · exact ⟨rfl, rfl, .inr (.inl ⟨_, rfl⟩)⟩
  · exact ⟨rfl, rfl, .inr (.inr rfl)⟩

private theorem details_of_resume {screen resumed : NewRequestScreen String} {label : ButtonLabel}
    {point : TapPoint} {next : Option TapPoint} {emitted : List ScreenAction}
    (resumes : screen.resume rideType label point reply = some (resumed, next, emitted)) :
    resumed.clientDetails = screen.clientDetails :=
  (NewRequestScreen.resume_background resumes).details

/-- The message of a copy comes to its end. -/
private theorem finish_moves (awaits : tap.point.notifies = true)
    (waiting : messenger.screen.taps[copy]? = some tap)
    (holding : messenger.handlers[copy]? = some handler)
    (finishes : messenger.finish rideType copy tap handler reply = some (after, actions)) :
    Move messenger after actions ∧ (messenger.Aligned → after.Aligned) ∧
      after.screen.clientDetails = messenger.screen.clientDetails := by
  obtain ⟨label, point⟩ := tap
  simp only [finish] at finishes
  split at finishes
  · cases finishes
  · next reached issued replies =>
    obtain ⟨resumed, next, emitted, resumes, screen, kept, stays, rfl⟩ :=
      reply_spec replies waiting
    obtain ⟨turn, alone⟩ := turn_of_notified handler resumes awaits
    have details : reached.screen.clientDetails = messenger.screen.clientDetails := by
      rw [screen]
      show resumed.clientDetails = messenger.screen.clientDetails
      exact details_of_resume resumes
    split at finishes
    · next station =>
      obtain ⟨rfl, rfl⟩ := alone (by simp [station])
      obtain ⟨sameScreen, sameHandlers, sent⟩ := handleRiderActivation_spec reached
      cases finishes
      have copies : reached.handleRiderActivation.1.copies = afterTurn messenger.copies copy none := by
        rw [Option.map_none] at kept
        rw [← kept]
        simp only [Messenger.copies, sameScreen, sameHandlers]
      refine ⟨?_, ?_, by rw [sameScreen, details]⟩
      · rcases sent with sends | ⟨text, sends⟩ | sends
        · rw [sends, details]
          cases station
          exact .turn (copies_get waiting holding) copies .activate
        · rw [sends]
          exact .turn (copies_get waiting holding) copies .refuse
        · rw [sends]
          have stopped : CopyTurn messenger.screen (⟨label, point⟩, handler) none
              (([] : List ScreenAction).map .screen) := .stop (by simp)
          exact .turn (copies_get waiting holding) copies stopped
      · intro aligned
        have stayed := stays aligned
        unfold Aligned at *
        rwa [sameScreen, sameHandlers]
    · cases finishes
      exact ⟨.turn (copies_get waiting holding) kept turn, stays, details⟩

/-- What is no event of the button leaves the copies alone, and neither writes the end. -/
private theorem beside_of_step {screen next : NewRequestScreen String} {event : ScreenEvent}
    {emitted : List ScreenAction} (other : ∀ copy reply, event ≠ .reply copy reply)
    (untapped : event ≠ .tap) (stepped : screen.step rideType event = some (next, emitted)) :
    next.taps = screen.taps ∧ next.clientDetails = screen.clientDetails ∧
      .write (.status .ended) ∉ emitted := by
  cases NewRequestScreen.step_moves stepped with
  | tap => exact absurd rfl untapped
  | background status title taps quiet frame =>
      exact ⟨taps, frame.details, fun member => quiet _ member⟩
  | locate listening status title taps quiet frame =>
      refine ⟨taps, frame.details, ?_⟩
      intro member
      rcases List.mem_append.mp member with requested | last
      · exact quiet _ requested
      · cases List.mem_singleton.mp last
  | advance | endTrip | relabel | proceed | endTheTrip | finish => exact absurd rfl (other _ _)

/-- An event of the screen that is no reply touches no handler, but for a new one. -/
private theorem screenStep_moves {event : ScreenEvent} (aligned : messenger.Aligned)
    (other : ∀ copy reply, event ≠ .reply copy reply)
    (stepped : messenger.step rideType (.screen event) = some (after, actions)) :
    Move messenger after actions ∧ after.Aligned ∧
      after.screen.clientDetails = messenger.screen.clientDetails := by
  cases event with
  | reply copy reply => exact absurd rfl (other copy reply)
  | tap =>
      simp only [step, screenStep] at stepped
      obtain ⟨⟨next, emitted⟩, moved, same⟩ := Option.map_eq_some_iff.mp stepped
      cases same
      simp only [NewRequestScreen.step] at moved
      split at moved
      · cases moved
        refine ⟨?_, ?_, rfl⟩
        · have joined :
              (messenger.screen.taps ++ [Tap.mk messenger.screen.btnTitle .clientId]).zip
                  (messenger.handlers ++ [Handler.mk none false]) =
                messenger.copies ++
                  [(Tap.mk messenger.screen.btnTitle .clientId, Handler.mk none false)] := by
            rw [List.zip_append aligned.symm]
            rfl
          exact .tap joined
        · unfold Aligned at *
          simp [aligned]
      · cases moved
  | position | mapCreated | mapReply | rideDetailsReply | iconLoaded | statusValue | unmount =>
      simp only [step, screenStep] at stepped
      obtain ⟨⟨next, emitted⟩, moved, same⟩ := Option.map_eq_some_iff.mp stepped
      cases same
      obtain ⟨taps, details, unended⟩ := beside_of_step other (by simp) moved
      refine ⟨.beside ?_ (by simp) ?_, ?_, details⟩
      · simp only [copies, taps]
      · simpa using unended
      · unfold Aligned at *
        rw [taps, aligned]

theorem step_moves {event : MessengerEvent} (aligned : messenger.Aligned)
    (stepped : messenger.step rideType event = some (after, actions)) :
    Move messenger after actions ∧ after.Aligned ∧
      after.screen.clientDetails = messenger.screen.clientDetails := by
  cases event with
  | screen event =>
      cases event with
      | reply copy reply =>
          simp only [step] at stepped
          split at stepped
          · next tap handler waiting holding =>
            split at stepped
            · cases stepped
            · next silent =>
              obtain ⟨resumed, next, emitted, resumes, screen, kept, stays, rfl⟩ :=
                reply_spec stepped waiting
              have turn := turn_of_resume handler resumes (by simpa using silent)
              refine ⟨.turn (copies_get waiting holding) kept turn, stays aligned, ?_⟩
              rw [screen]
              show resumed.clientDetails = messenger.screen.clientDetails
              exact details_of_resume resumes
          · cases stepped
      | tap | position | mapCreated | mapReply | rideDetailsReply | iconLoaded | statusValue
      | unmount => exact screenStep_moves aligned (by simp) stepped
  | credentials copy accessToken =>
      simp only [step] at stepped
      split at stepped
      · next tap handler waiting holding =>
        split at stepped
        · next ready =>
          simp only [Bool.and_eq_true, Bool.not_eq_true'] at ready
          obtain ⟨label, point⟩ := tap
          cases accessToken with
          | none =>
              have awaits : point.notifies = true := by
                cases point <;> first | rfl | cases ready.1
              obtain ⟨moves, stays, details⟩ := finish_moves awaits waiting holding stepped
              exact ⟨moves, stays aligned, details⟩
          | some accessToken =>
              cases stepped
              refine ⟨.turn (copies_get waiting holding) ?_ (.credentials ready.1 ready.2), ?_, rfl⟩
              · exact copies_set waiting _
              · unfold Aligned at *
                rw [List.length_set, aligned]
        · cases stepped
      · cases stepped
  | response copy statusCode =>
      simp only [step] at stepped
      split at stepped
      · next tap handler waiting holding =>
        split at stepped
        · next ready =>
          rw [Bool.and_eq_true] at ready
          have awaits : tap.point.notifies = true := by
            cases point : tap.point <;> rw [point] at ready <;> first | rfl | cases ready.1
          obtain ⟨moves, stays, details⟩ := finish_moves awaits waiting holding stepped
          exact ⟨moves, stays aligned, details⟩
        · split at stepped
          · next ending =>
            obtain ⟨moves, stays, details⟩ :=
              finish_moves (by rw [ending]; rfl) waiting holding stepped
            exact ⟨moves, stays aligned, details⟩
          · cases stepped
      · cases stepped
  | smsResponse statusCode =>
      simp only [step] at stepped
      split at stepped
      · cases stepped
        refine ⟨.beside rfl ?_ ?_, aligned, rfl⟩
        · intro message
          split <;> simp
        · split <;> simp
      · cases stepped
  | setRider rider =>
      cases stepped
      exact ⟨.beside rfl (by simp) (by simp), aligned, rfl⟩

/-! ## The screen below -/

def screen? : MessengerAction → Option ScreenAction
  | .screen action => some action
  | _ => none

@[simp] theorem screen?_screen (actions : List ScreenAction) :
    (actions.map MessengerAction.screen).filterMap screen? = actions := by
  rw [List.filterMap_map]
  exact List.filterMap_some

private theorem screen?_sent (tokens : List String) (message : String → Message) :
    (tokens.map fun token => MessengerAction.send (message token)).filterMap screen? = [] := by
  simp [screen?]

private theorem screen?_activation (messenger : Messenger) :
    messenger.handleRiderActivation.2.filterMap screen? = [] := by
  unfold handleRiderActivation
  split
  · dsimp only
    split <;> rfl
  · rfl

private theorem screen?_resumed (handler : Handler) (point : TapPoint) (reply : Reply) :
    (handler.resumed point reply).2.filterMap screen? = [] := by
  unfold Handler.resumed
  split
  · rfl
  · exact screen?_sent ..
  · rfl

private theorem reply_screen {kept : Handler} {sent : List MessengerAction}
    (replies : messenger.reply rideType copy reply kept sent = some (after, actions))
    (unseen : sent.filterMap screen? = []) :
    messenger.screen.step rideType (.reply copy reply) =
      some (after.screen, actions.filterMap screen?) := by
  simp only [Messenger.reply] at replies
  split at replies
  · cases replies
  · next screen emitted stepped =>
    cases replies
    rw [List.filterMap_append, unseen, screen?_screen]
    exact stepped

private theorem finish_screen
    (finishes : messenger.finish rideType copy tap handler reply = some (after, actions)) :
    messenger.screen.step rideType (.reply copy reply) =
      some (after.screen, actions.filterMap screen?) := by
  simp only [finish] at finishes
  split at finishes
  · cases finishes
  · next reached issued replies =>
    have screen := reply_screen replies rfl
    split at finishes
    · have sameScreen := (handleRiderActivation_spec reached).1
      cases finishes
      rw [sameScreen, List.filterMap_append, screen?_activation, List.append_nil]
      exact screen
    · cases finishes
      exact screen

private theorem screenStep_screen {event : ScreenEvent} {handlers : List Handler}
    (stepped : messenger.screenStep rideType event handlers = some (after, actions)) :
    messenger.screen.step rideType event = some (after.screen, actions.filterMap screen?) := by
  obtain ⟨⟨next, emitted⟩, moved, same⟩ := Option.map_eq_some_iff.mp stepped
  cases same
  rw [screen?_screen]
  exact moved

/-- A step of the messenger is a step of the screen, or the screen does not notice. -/
theorem step_screen {event : MessengerEvent}
    (stepped : messenger.step rideType event = some (after, actions)) :
    (∃ event, messenger.screen.step rideType event =
        some (after.screen, actions.filterMap screen?)) ∨
      after.screen = messenger.screen ∧ actions.filterMap screen? = [] := by
  cases event with
  | screen event =>
      cases event with
      | reply copy reply =>
          simp only [step] at stepped
          split at stepped
          · split at stepped
            · cases stepped
            · exact .inl ⟨_, reply_screen stepped (screen?_resumed ..)⟩
          · cases stepped
      | tap | position | mapCreated | mapReply | rideDetailsReply | iconLoaded | statusValue
      | unmount => exact .inl ⟨_, screenStep_screen stepped⟩
  | credentials copy accessToken =>
      simp only [step] at stepped
      split at stepped
      · split at stepped
        · cases accessToken with
          | none => exact .inl ⟨_, finish_screen stepped⟩
          | some accessToken =>
              cases stepped
              exact .inr ⟨rfl, screen?_sent ..⟩
        · cases stepped
      · cases stepped
  | response copy statusCode =>
      simp only [step] at stepped
      split at stepped
      · split at stepped
        · exact .inl ⟨_, finish_screen stepped⟩
        · split at stepped
          · exact .inl ⟨_, finish_screen stepped⟩
          · cases stepped
      · cases stepped
  | smsResponse statusCode =>
      simp only [step] at stepped
      split at stepped
      · cases stepped
        refine .inr ⟨rfl, ?_⟩
        split <;> rfl
      · cases stepped
  | setRider rider =>
      cases stepped
      exact .inr ⟨rfl, rfl⟩

private theorem echoing_screen :
    Echoing fun (actions : List MessengerAction) (shown : List ScreenAction) =>
      actions.filterMap screen? = shown where
  nil := rfl
  append := by
    rintro early late _ _ rfl rfl
    exact List.filterMap_append ..

/-- Every run of the messenger is a run of the ride screen, with the same actions. -/
theorem screen_of_run {events : List (String × MessengerEvent)}
    (run : exec component messenger events = some (after, actions)) :
    ∃ shown, exec NewRequestScreen.component messenger.screen shown =
      some (after.screen, actions.filterMap screen?) := by
  have mirrored : Mirrored NewRequestScreen.component
      (fun (messenger : Messenger) screen => messenger.screen = screen)
      (fun actions shown => actions.filterMap screen? = shown) messenger.screen after actions := by
    apply mirrored_of_run echoing_screen _ _ run
    · rintro state _ ⟨rideType, event⟩ next emitted rfl stepped
      rcases step_screen stepped with ⟨shown, moved⟩ | ⟨same, unseen⟩
      · have run : NewRequestScreen.component state.screen (rideType, shown) = _ := moved
        exact mirrored_of_step run rfl rfl
      · exact ⟨[], state.screen, [], rfl, same, unseen⟩
    · rfl
  obtain ⟨shown, screen, echoed, mirrors, rfl, rfl⟩ := mirrored
  exact ⟨shown, mirrors⟩

end Messenger

end FilldRider
