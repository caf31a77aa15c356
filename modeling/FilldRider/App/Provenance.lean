import FilldRider.App.Moves
import FilldRider.Notification.Push

/-!
# Where a ride comes from

A rider's phone is the app with its push messages and the request dialogs shown so far;
Accept is a button of such a dialog. Whatever a phone writes below a request, it was sent
that request, and had it in the slot when Accept read the slot.
-/

set_option autoImplicit false

namespace FilldRider

open Runs

structure Phone where
  app : App
  service : PushService := {}
  dialogs : List DialogDetails := []

/-- A coordinate as a ride has it. One that is not finite may be any number there. -/
def Double.shows : Double → ℚ → Bool
  | .finite exact, value => decide (value = exact)
  | .infinity _, _ | .nan, _ => true

def GeoPoint.shows (point : GeoPoint Double) (position : LatLng) : Bool :=
  point.latitude.shows position.latitude && point.longitude.shows position.longitude

/-- These are the details of the dialog. -/
def ClientDetails.shows (shown : DialogDetails) (details : ClientDetails String) : Bool :=
  shown.pickup.shows details.pickup && shown.dropoff.shows details.dropoff &&
    decide (details = { shown with pickup := details.pickup, dropoff := details.dropoff })

/-- A push event comes with what is stored below the requests at that moment. -/
inductive PhoneEvent where
  | push (requests : String → RideRequest) (event : PushEvent)
  | app (event : AppEvent)

def PushAction.clientDetails : PushAction → DialogDetails
  | .showDialog _ clientDetails => clientDetails

namespace Phone

/-- `ATGASSTATIONNotificationDialog` is shown nowhere in the app. -/
def offers (phone : Phone) : AppEvent → Bool
  | .accept dialog clientDetails =>
      decide (dialog = .notification) && phone.dialogs.any fun shown => shown.shows clientDetails
  | _ => true

def step (newLatLng : NewLatLng) (phone : Phone) :
    PhoneEvent → Option (Phone × List DbWrite)
  | .push requests event =>
      match phone.service.step newLatLng requests event with
      | none => none
      | some (service, actions) =>
          some ({ phone with
            service := service
            dialogs := phone.dialogs ++ actions.map PushAction.clientDetails }, [])
  | .app event =>
      if phone.offers event then
        match phone.app.step event with
        | none => none
        | some (app, writes) => some ({ phone with app := app }, writes)
      else none

def component (newLatLng : NewLatLng) : Component Phone PhoneEvent DbWrite := step newLatLng

end Phone

/-! ## What the push messages lead to -/

namespace PushService

variable {newLatLng : NewLatLng} {requests : String → RideRequest}
  {service next : PushService} {event : PushEvent} {actions : List PushAction}

/-- A read was waiting before, or a message just came in. -/
theorem mem_reads_step {read : Nat × Nat}
    (stepped : service.step newLatLng requests event = some (next, actions))
    (member : read ∈ next.reads) :
    read ∈ service.reads ∨ ∃ path rideRequestId, event = .message path rideRequestId ∧
      next.messages[read.1]? = some rideRequestId := by
  cases event with
  | mounted =>
      cases stepped
      exact .inl member
  | unmounted home =>
      simp only [step, Option.ite_none_right_eq_some, Option.some.injEq, Prod.mk.injEq] at stepped
      obtain ⟨_, rfl, _⟩ := stepped
      exact .inl member
  | message path rideRequestId =>
      cases stepped
      rcases List.mem_append.mp member with old | new
      · exact .inl old
      · rw [getRideRequestId, Option.isSome_some, if_pos rfl] at new
        obtain ⟨home, _, rfl⟩ := List.mem_map.mp new
        exact .inr ⟨path, rideRequestId, rfl, List.getElem?_concat_length⟩
  | initialMessage home rideRequestId =>
      simp only [step] at stepped
      split at stepped
      · cases rideRequestId with
        | none =>
            cases stepped
            exact .inl member
        | some rideRequestId =>
            cases stepped
            simp only [receive, getRideRequestId, Option.isSome_none, Bool.false_eq_true, if_false,
              List.append_nil] at member
            exact .inl member
      · cases stepped
  | requestRead message home | readFailed message home =>
      simp only [step, Option.ite_none_right_eq_some, Option.some.injEq, Prod.mk.injEq] at stepped
      obtain ⟨_, rfl, _⟩ := stepped
      exact .inl (List.mem_of_mem_erase member)

theorem messages_step {message : Nat} {rideRequestId : String}
    (stepped : service.step newLatLng requests event = some (next, actions))
    (known : service.messages[message]? = some rideRequestId) :
    next.messages[message]? = some rideRequestId := by
  have longer (others : List String) :
      (service.messages ++ others)[message]? = some rideRequestId := by
    rw [List.getElem?_append_left (List.getElem?_eq_some_iff.mp known).1]
    exact known
  cases event with
  | mounted =>
      cases stepped
      exact known
  | message path rideRequestId =>
      cases stepped
      exact longer [rideRequestId]
  | initialMessage home rideRequestId =>
      simp only [step] at stepped
      split at stepped
      · cases rideRequestId with
        | none =>
            cases stepped
            exact known
        | some rideRequestId =>
            cases stepped
            exact longer [rideRequestId]
      · cases stepped
  | unmounted home | requestRead message home | readFailed message home =>
      simp only [step, Option.ite_none_right_eq_some, Option.some.injEq, Prod.mk.injEq] at stepped
      obtain ⟨_, rfl, _⟩ := stepped
      exact known

/-- A dialog shows the request of its message as the read returned it. -/
theorem mem_actions_step {action : PushAction}
    (stepped : service.step newLatLng requests event = some (next, actions))
    (member : action ∈ actions) :
    ∃ message home rideRequestId, event = .requestRead message home ∧
      (message, home) ∈ service.reads ∧ service.messages[message]? = some rideRequestId ∧
      retrieveRideRequestInfo newLatLng rideRequestId (requests rideRequestId) =
        some action.clientDetails := by
  cases event with
  | requestRead message home =>
      simp only [step, Option.ite_none_right_eq_some, Option.some.injEq, Prod.mk.injEq] at stepped
      obtain ⟨waiting, _, rfl⟩ := stepped
      rw [showDialog] at member
      split at member
      · next rideRequestId known _ =>
        obtain ⟨clientDetails, found, rfl⟩ := List.mem_map.mp member
        exact ⟨message, home, rideRequestId, rfl, waiting, known, Option.mem_toList.mp found⟩
      · cases member
  | mounted | message path rideRequestId =>
      cases stepped
      cases member
  | initialMessage home rideRequestId =>
      simp only [step] at stepped
      split at stepped
      · cases rideRequestId <;> cases stepped <;> cases member
      · cases stepped
  | unmounted home | readFailed message home =>
      simp only [step, Option.ite_none_right_eq_some, Option.some.injEq, Prod.mk.injEq] at stepped
      obtain ⟨_, _, rfl⟩ := stepped
      cases member

end PushService

theorem rideRequestId_of_retrieve {newLatLng : NewLatLng} {rideRequestId : String}
    {request : RideRequest} {details : DialogDetails}
    (retrieved : retrieveRideRequestInfo newLatLng rideRequestId request = some details) :
    details.rideRequestId = rideRequestId := by
  simp only [retrieveRideRequestInfo, Option.bind_eq_bind, Option.bind_eq_some_iff,
    Option.some.injEq] at retrieved
  obtain ⟨_, _, _, _, _, _, _, _, _, _, rfl⟩ := retrieved
  rfl

/-! ## One phone -/

/-- The phone was sent the request, showed it in this dialog and did the rest after. -/
def Sent (newLatLng : NewLatLng) (rest past : List PhoneEvent) (shown : DialogDetails) : Prop :=
  ∃ earlier requests path message home,
    (.push earlier (.message path shown.rideRequestId) ::
      .push requests (.requestRead message home) :: rest).Sublist past ∧
    retrieveRideRequestInfo newLatLng shown.rideRequestId (requests shown.rideRequestId) =
      some shown

/-- Accept was tapped in a dialog with these details. -/
def Asked (newLatLng : NewLatLng) (past : List PhoneEvent) (details : ClientDetails String) :
    Prop :=
  ∃ shown, shown.shows details = true ∧
    Sent newLatLng [.app (.accept .notification details)] past shown

/-- Then the slot was read, with this result. -/
def Answered (newLatLng : NewLatLng) (past : List PhoneEvent) (details : ClientDetails String)
    (value : Option SlotValue) : Prop :=
  ∃ before after call, past = before ++ .app (.slotRead call value) :: after ∧
    Asked newLatLng before details

def Granted (newLatLng : NewLatLng) (past : List PhoneEvent) (details : ClientDetails String) :
    Prop :=
  ∃ value, theRideId value = details.rideRequestId ∧ Answered newLatLng past details value

section Past

variable {newLatLng : NewLatLng} {past rest : List PhoneEvent} {shown : DialogDetails}
  {details : ClientDetails String} {value : Option SlotValue} {event : PhoneEvent}

theorem Sent.later (sent : Sent newLatLng rest past shown) (event : PhoneEvent) :
    Sent newLatLng rest (past ++ [event]) shown := by
  obtain ⟨earlier, requests, path, message, home, chain, retrieved⟩ := sent
  exact ⟨earlier, requests, path, message, home,
    chain.trans (List.sublist_append_left past [event]), retrieved⟩

theorem Sent.next (sent : Sent newLatLng rest past shown) (event : PhoneEvent) :
    Sent newLatLng (rest ++ [event]) (past ++ [event]) shown := by
  obtain ⟨earlier, requests, path, message, home, chain, retrieved⟩ := sent
  exact ⟨earlier, requests, path, message, home, chain.append (List.Sublist.refl [event]),
    retrieved⟩

theorem Asked.later (asked : Asked newLatLng past details) (event : PhoneEvent) :
    Asked newLatLng (past ++ [event]) details := by
  obtain ⟨shown, same, sent⟩ := asked
  exact ⟨shown, same, sent.later event⟩

theorem Answered.later (answered : Answered newLatLng past details value) (event : PhoneEvent) :
    Answered newLatLng (past ++ [event]) details value := by
  obtain ⟨before, after, call, rfl, asked⟩ := answered
  exact ⟨before, after ++ [event], call, by simp, asked⟩

theorem Granted.later (granted : Granted newLatLng past details) (event : PhoneEvent) :
    Granted newLatLng (past ++ [event]) details := by
  obtain ⟨value, offered, answered⟩ := granted
  exact ⟨value, offered, answered.later event⟩

end Past

/-- Everything a phone has in hand goes back to a request it was sent. -/
structure PhoneLaw (newLatLng : NewLatLng) (past : List PhoneEvent) (history : List DbWrite)
    (phone : Phone) : Prop where
  reads : ∀ read ∈ phone.service.reads, ∃ rideRequestId,
    phone.service.messages[read.1]? = some rideRequestId ∧
      ∃ earlier path, .push earlier (.message path rideRequestId) ∈ past
  dialogs : ∀ shown ∈ phone.dialogs, Sent newLatLng [] past shown
  asked : ∀ call ∈ phone.app.accepts, Asked newLatLng past call.clientDetails
  answered : ∀ call ∈ phone.app.accepts, ∀ value, call.answer = some value →
    Answered newLatLng past call.clientDetails value
  openings : ∀ details ∈ phone.app.openings, Granted newLatLng past details
  screens : ∀ screen ∈ phone.app.screens, Granted newLatLng past screen.clientDetails
  writes : ∀ rideRequestId write, .request rideRequestId write ∈ history →
    ∃ details, details.rideRequestId = rideRequestId ∧ Granted newLatLng past details

namespace PhoneLaw

variable {newLatLng : NewLatLng} {past : List PhoneEvent} {history writes : List DbWrite}
  {before after : Phone}

theorem initial (uid : String) : PhoneLaw newLatLng [] [] { app := { uid := uid } } := by
  constructor <;> simp

/-- What was so before an event is so after it. -/
theorem later (law : PhoneLaw newLatLng past history before) (event : PhoneEvent) :
    PhoneLaw newLatLng (past ++ [event]) history before where
  reads read member := by
    obtain ⟨rideRequestId, known, earlier, path, sent⟩ := law.reads read member
    exact ⟨rideRequestId, known, earlier, path, List.mem_append_left _ sent⟩
  dialogs shown member := (law.dialogs shown member).later event
  asked call member := (law.asked call member).later event
  answered call member value answer := (law.answered call member value answer).later event
  openings details member := (law.openings details member).later event
  screens screen member := (law.screens screen member).later event
  writes rideRequestId write member := by
    obtain ⟨details, same, granted⟩ := law.writes rideRequestId write member
    exact ⟨details, same, granted.later event⟩

theorem push_step (law : PhoneLaw newLatLng past history before)
    {requests : String → RideRequest} {event : PushEvent} {service : PushService}
    {actions : List PushAction}
    (stepped : before.service.step newLatLng requests event = some (service, actions)) :
    PhoneLaw newLatLng (past ++ [.push requests event]) history
      { before with
        service := service
        dialogs := before.dialogs ++ actions.map PushAction.clientDetails } where
  reads read member := by
    rcases PushService.mem_reads_step stepped member with old | ⟨path, rideRequestId, rfl, known⟩
    · obtain ⟨rideRequestId, known, earlier, path, sent⟩ := law.reads read old
      exact ⟨rideRequestId, PushService.messages_step stepped known, earlier, path,
        List.mem_append_left _ sent⟩
    · exact ⟨rideRequestId, known, requests, path, by simp⟩
  dialogs shown member := by
    rcases List.mem_append.mp member with old | new
    · exact (law.dialogs shown old).later _
    · obtain ⟨action, shows, rfl⟩ := List.mem_map.mp new
      obtain ⟨message, home, rideRequestId, rfl, waiting, known, retrieved⟩ :=
        PushService.mem_actions_step stepped shows
      obtain ⟨stored, sameMessage, earlier, path, sent⟩ := law.reads _ waiting
      rw [known, Option.some.injEq] at sameMessage
      subst stored
      have own := rideRequestId_of_retrieve retrieved
      subst own
      exact ⟨earlier, requests, path, message, home,
        (List.singleton_sublist.mpr sent).append (List.Sublist.refl [_]), retrieved⟩
  asked := (law.later _).asked
  answered := (law.later _).answered
  openings := (law.later _).openings
  screens := (law.later _).screens
  writes := (law.later _).writes

theorem app_step (law : PhoneLaw newLatLng past history before) {event : AppEvent} {app : App}
    (offered : before.offers event = true) (moves : AppMove before.app event app writes) :
    PhoneLaw newLatLng (past ++ [.app event]) (history ++ writes) { before with app := app } where
  reads := (law.later _).reads
  dialogs := (law.later _).dialogs
  asked call member := by
    rcases moves.asked member with ⟨old, waiting, same⟩ | rfl
    · exact same ▸ (law.later _).asked old waiting
    · simp only [Phone.offers, Bool.and_eq_true, decide_eq_true_eq, List.any_eq_true] at offered
      obtain ⟨notified, shown, present, shows⟩ := offered
      rw [notified]
      exact ⟨shown, shows, (law.dialogs shown present).next _⟩
  answered call member value answer := by
    rcases moves.answered member answer with old | ⟨index, rfl, waiting⟩
    · exact (law.later _).answered call old value answer
    · have asked := law.asked _ waiting
      exact ⟨past, [], index, rfl, asked⟩
  openings details member := by
    rcases moves.pushed member with old | ⟨call, waiting, value, answer, rfl, own⟩
    · exact (law.later _).openings details old
    · exact ⟨value, own, (law.answered call waiting value answer).later _⟩
  screens screen member := by
    rcases moves.shown member with ⟨old, shown, same⟩ | pushed
    · exact same ▸ (law.later _).screens old shown
    · exact (law.later _).openings _ pushed
  writes rideRequestId write member := by
    rcases List.mem_append.mp member with old | new
    · exact (law.later _).writes rideRequestId write old
    · cases moves.requestOrigin new with
      | accepted pushed same issued =>
          exact ⟨_, same.symm, (law.openings _ (List.mem_of_getElem? pushed)).later _⟩
      | screen shown same issued =>
          exact ⟨_, same.symm, (law.screens _ (List.mem_of_getElem? shown)).later _⟩

theorem step (law : PhoneLaw newLatLng past history before) {event : PhoneEvent}
    (stepped : before.step newLatLng event = some (after, writes)) :
    PhoneLaw newLatLng (past ++ [event]) (history ++ writes) after := by
  cases event with
  | push requests event =>
      cases reacts : before.service.step newLatLng requests event with
      | none => simp [Phone.step, reacts] at stepped
      | some result =>
          simp only [Phone.step, reacts, Option.some.injEq, Prod.mk.injEq] at stepped
          obtain ⟨rfl, rfl⟩ := stepped
          rw [List.append_nil]
          exact law.push_step reacts
  | app event =>
      simp only [Phone.step] at stepped
      split at stepped
      · next offered =>
        cases reacts : before.app.step event with
        | none => simp [reacts] at stepped
        | some result =>
            simp only [reacts, Option.some.injEq, Prod.mk.injEq] at stepped
            obtain ⟨rfl, rfl⟩ := stepped
            exact law.app_step offered (App.step_moves reacts)
      · cases stepped

theorem of_run {uid : String} {events : List PhoneEvent} {phone : Phone}
    (run : exec (Phone.component newLatLng) { app := { uid := uid } } events =
      some (phone, writes)) :
    PhoneLaw newLatLng events writes phone := by
  have all : ∀ event ∈ events, True := fun _ _ => trivial
  exact exec_trace_invariant (PhoneLaw newLatLng) (fun law _ stepped => law.step stepped) [] []
    (initial uid) all run

end PhoneLaw

/-! ## All phones and the database -/

abbrev Phones (Rider : Type) := Shared Rider Phone DbWrite (Database Rider)

def Database.answersPhone {Rider : Type} (database : Database Rider) (rider : Rider) :
    PhoneEvent → Bool
  | .push _ _ => true
  | .app event => database.answers rider event

/-- The texts that the apps themselves leave in a slot, and that of an empty one. -/
inductive OwnText : String → Prop where
  | empty : OwnText ""
  | searching : OwnText "searching"
  | capital : OwnText "Searching"
  | accepted : OwnText "accepted"
  | marks (entries : List (String × String)) : OwnText (SlotValue.marks entries).toString

theorem ownText_of_searching {before : App} {event : AppEvent} {text : String}
    (origin : RiderOrigin before event (.searching text)) : OwnText text := by
  cases origin with
  | home moves issued =>
      cases moves with
      | located pending flag lookups streams page =>
          simp only [List.mem_cons, RiderWrite.searching.injEq, List.not_mem_nil, reduceCtorEq,
            or_false, false_or] at issued
          rcases issued with rfl | rfl
          · exact .searching
          · exact .capital
      | position => split at issued <;> simp at issued
      | _ => simp at issued

theorem ownText_mark (slot : Option SlotValue) (uid rideRequestId : String) :
    OwnText (SlotValue.mark slot uid rideRequestId).toString := by
  unfold SlotValue.mark
  split
  · split <;> exact .marks _
  · exact .marks _
  · exact .marks _

namespace Phones

variable {Rider : Type} [DecidableEq Rider]

def step (newLatLng : NewLatLng) :
    Component (Phones Rider) (SharedEvent Rider PhoneEvent (Outside Rider)) (WorldWrite Rider) :=
  Shared.step (Phone.component newLatLng) Database.answersPhone Database.apply Database.intrude

/-- Every phone just started, with nothing left to store. -/
def start (uid : Rider → String) (store : Database Rider) : Phones Rider where
  client rider := { app := { uid := uid rider } }
  outbox _ := []
  store := store

/-- What a slot shows, the dispatcher wrote there or the apps themselves. -/
structure SlotLaw (past : List (SharedEvent Rider PhoneEvent (Outside Rider)))
    (phones : Phones Rider) : Prop where
  queued : ∀ rider text, .rider (.searching text) ∈ phones.outbox rider → OwnText text
  slots : ∀ rider value, (phones.store.riders rider).newRider = some value →
    OwnText value.toString ∨ .outside (.slot rider (some value)) ∈ past

variable {newLatLng : NewLatLng}
  {past : List (SharedEvent Rider PhoneEvent (Outside Rider))}
  {before after : Phones Rider} {stored : List (WorldWrite Rider)}

/-- A write of the rider's own leaves own texts, or what was there. -/
private theorem slot_apply {node : RiderNode} {write : RiderWrite} {value : SlotValue}
    (own : ∀ text, write = .searching text → OwnText text)
    (shows : (node.apply write).newRider = some value) :
    OwnText value.toString ∨ node.newRider = some value := by
  cases write with
  | searching text =>
      cases shows
      exact .inl (own text rfl)
  | accepted rideRequestId read =>
      cases shows
      exact .inl .accepted
  | removeSlot => cases shows
  | history uid rideRequestId =>
      cases shows
      exact .inl (ownText_mark _ _ _)
  | setLocation position => exact .inr shows
  | removeLocation => exact .inr shows
  | earnings text => exact .inr shows

theorem SlotLaw.step (law : SlotLaw past before)
    {event : SharedEvent Rider PhoneEvent (Outside Rider)}
    (stepped : Phones.step newLatLng before event = some (after, stored)) :
    SlotLaw (past ++ [event]) after where
  queued := by
    cases Shared.moves_of_step stepped with
    | @act actor reaction next emitted answered reacts =>
        intro rider text member
        by_cases same : rider = actor
        · subst actor
          simp only [Function.update_self] at member
          rcases List.mem_append.mp member with old | new
          · exact law.queued rider text old
          · cases reaction with
            | push requests event =>
                simp only [Phone.component, Phone.step] at reacts
                split at reacts
                · cases reacts
                · cases reacts
                  cases new
            | app event =>
                simp only [Phone.component, Phone.step] at reacts
                split at reacts
                · split at reacts
                  · cases reacts
                  · next app writes turns =>
                    cases reacts
                    exact ownText_of_searching ((App.step_moves turns).riderOrigin new)
                · cases reacts
        · simp only [Function.update_of_ne same] at member
          exact law.queued rider text member
    | @deliver actor write rest waiting =>
        intro rider text member
        by_cases same : rider = actor
        · subst actor
          simp only [Function.update_self] at member
          exact law.queued rider text (waiting ▸ List.mem_cons_of_mem _ member)
        · simp only [Function.update_of_ne same] at member
          exact law.queued rider text member
    | outside => exact law.queued
  slots rider value shows := by
    have kept (same : (before.store.riders rider).newRider = some value) :
        OwnText value.toString ∨ .outside (.slot rider (some value)) ∈ past ++ [event] :=
      (law.slots rider value same).imp_right (List.mem_append_left _)
    cases Shared.moves_of_step stepped with
    | act answered reacts => exact kept shows
    | @deliver actor write rest waiting =>
        cases write with
        | request rideRequestId write => exact kept shows
        | rider write =>
            by_cases same : rider = actor
            · subst actor
              simp only [Database.apply, Function.update_self] at shows
              have own : ∀ text, write = .searching text → OwnText text := by
                rintro text rfl
                exact law.queued rider text (waiting ▸ List.mem_cons_self ..)
              rcases slot_apply own shows with text | old
              · exact .inl text
              · exact kept old
            · simp only [Database.apply, Function.update_of_ne same] at shows
              exact kept shows
    | @outside write =>
        cases write with
        | cancel rideRequestId => exact kept shows
        | slot other stored =>
            by_cases same : rider = other
            · subst other
              simp only [Database.intrude, Function.update_self] at shows
              subst stored
              exact .inr (by simp)
            · simp only [Database.intrude, Function.update_of_ne same] at shows
              exact kept shows

/-- A rider who writes below a request was sent it, tapped Accept in its dialog, and
then read it in the slot, where the dispatcher had written it. -/
theorem offered_of_written {uid : Rider → String} {store : Database Rider}
    (unoffered : ∀ rider value, (store.riders rider).newRider = some value →
      OwnText value.toString)
    {events : List (SharedEvent Rider PhoneEvent (Outside Rider))}
    (run : exec (step newLatLng) (start uid store) events = some (after, stored))
    {rider : Rider} {rideRequestId : String} {write : RequestWrite}
    (written : .byClient rider (.request rideRequestId write) ∈ stored)
    (foreign : ¬ OwnText rideRequestId) :
    ∃ earlier later call details,
      events = earlier ++ .act rider (.app (.slotRead call (some (.text rideRequestId)))) :: later ∧
      .outside (.slot rider (some (.text rideRequestId))) ∈ earlier ∧
      details.rideRequestId = rideRequestId ∧ Asked newLatLng (actsOf rider earlier) details := by
  obtain ⟨issued, own, queue⟩ := Shared.exec_client rider run
  have emitted : .request rideRequestId write ∈ issued := by
    rw [start, List.nil_append] at queue
    rw [queue]
    exact List.mem_append_left _ (mem_storedBy.mpr written)
  obtain ⟨details, rfl, value, offered, past, rest, call, split, asked⟩ :=
    (PhoneLaw.of_run own).writes _ _ emitted
  obtain ⟨earlier, later, rfl, rfl⟩ := split_of_actsOf split
  obtain ⟨middle, early, late, first, second, _⟩ := exec_append_eq_some.mp run
  obtain ⟨next, now, others, stepped, _, _⟩ := exec_cons_eq_some.mp second
  have law : SlotLaw earlier middle := by
    have all : ∀ event ∈ earlier, True := fun _ _ => trivial
    apply exec_trace_invariant (fun past _ phones => SlotLaw past phones) _ [] [] _ all first
    · intro past history before event after emitted law _ stepped
      exact law.step stepped
    · constructor
      · simp [start]
      · intro rider value shows
        exact .inl (unoffered rider value shows)
  cases Shared.moves_of_step stepped with
  | act answered reacts =>
      simp only [Database.answersPhone, Database.answers, decide_eq_true_eq] at answered
      cases value with
      | none => exact absurd (offered ▸ OwnText.empty) foreign
      | some shown =>
          have same : shown.toString = details.rideRequestId := offered
          rcases law.slots rider shown answered with own | sent
          · exact absurd (same ▸ own) foreign
          · cases shown with
            | text text =>
                cases same
                exact ⟨earlier, later, call, details, rfl, sent, rfl, asked⟩
            | marks entries => exact absurd (same ▸ OwnText.marks entries) foreign

end Phones

theorem not_ownText_request : ¬ OwnText "request-1" := by
  intro own
  generalize text : "request-1" = shown at own
  cases own with
  | marks entries =>
      have letters := congrArg String.toList text
      simp [SlotValue.toString] at letters
  | empty | searching | capital | accepted => exact absurd text (by decide)

def sampleRideDetails : ClientDetails String :=
  { sampleDescription "request-1" with pickup := ⟨11 / 2, 0⟩, dropoff := ⟨11 / 2, 0⟩ }

/-- A message, an offer and an accepted dialog. -/
def sampleOfferedRide : List (SharedEvent Unit PhoneEvent (Outside Unit)) :=
  [.act () (.push sampleRequest .mounted),
    .act () (.push sampleRequest (.message .onMessage "request-1")),
    .act () (.push sampleRequest (.requestRead 0 0)),
    .act () (.app (.accept .notification sampleRideDetails)),
    .outside (.slot () (some (.text "request-1"))),
    .act () (.app (.slotRead 0 (some (.text "request-1")))),
    .act () (.app (.slotReply 0 true)), .act () (.app (.built 0)), .deliver (), .deliver (),
    .deliver ()]

theorem offered_sampleOfferedRide :
    ∃ earlier later call details,
      sampleOfferedRide =
        earlier ++ .act () (.app (.slotRead call (some (.text "request-1")))) :: later ∧
      .outside (.slot () (some (.text "request-1"))) ∈ earlier ∧
      details.rideRequestId = "request-1" ∧ Asked GeoPoint.mk (actsOf () earlier) details := by
  have runs : (exec (Phones.step GeoPoint.mk) (Phones.start (fun _ => "rider") sampleWorld.store)
      sampleOfferedRide).map (fun result =>
        decide (.byClient () (.request "request-1" (.status .accepted)) ∈ result.2)) =
      some true := by
    decide +kernel
  obtain ⟨⟨phones, stored⟩, run, written⟩ := Option.map_eq_some_iff.mp runs
  have unoffered : ∀ (rider : Unit) (value : SlotValue),
      (sampleWorld.store.riders rider).newRider = some value → OwnText value.toString := by
    intro rider value shows
    cases shows
  exact Phones.offered_of_written unoffered run (of_decide_eq_true written) not_ownText_request

end FilldRider
