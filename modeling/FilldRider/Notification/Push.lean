import FilldRider.Models.Fares
import FilldRider.Models.Rider
import FilldRider.Runs.Component

/-!
# Push messages

Every home tab that is built subscribes to the push messages with its own context and
is never unsubscribed. A message makes each subscription read the request and show a
dialog in its context; the message the app was launched from never gets that far.
-/

set_option autoImplicit false

namespace FilldRider

open Runs

/-! ## The request behind a message -/

structure StoredPlace where
  latitude : Option Scalar
  longitude : Option Scalar

/-- The part of `GasRequests/<id>` that `retrieveRideRequestInfo` reads. -/
structure RideRequest where
  pickup : Option StoredPlace := none
  dropoff : Option StoredPlace := none
  pickupAddress : Option Scalar := none
  dropoffAddress : Option Scalar := none
  paymentMethod : Option Scalar := none
  clientName : Option Scalar := none
  gasAmount : Option Scalar := none
  clientPhone : Option Scalar := none

/-- A request as a dialog of a push message gets it. -/
abbrev DialogDetails := ClientDetails String (GeoPoint Double)

/-- The constructor `LatLng`, which the map package may let clamp and wrap. -/
abbrev NewLatLng := Double → Double → GeoPoint Double

/-- Indexing a missing place throws, and so does a coordinate that is no number. -/
def StoredPlace.parse (place : Option StoredPlace) : Option (Double × Double) := do
  let place ← place
  let latitude ← doubleParse (printed place.latitude)
  let longitude ← doubleParse (printed place.longitude)
  some (latitude, longitude)

/-- `retrieveRideRequestInfo` up to its dialog; `none` when it throws. -/
def retrieveRideRequestInfo (newLatLng : NewLatLng) (rideRequestId : String)
    (request : RideRequest) : Option DialogDetails := do
  let (pickUpLocationLat, pickUpLocationLng) ← StoredPlace.parse request.pickup
  let (dropOffLocationLat, dropOffLocationLng) ← StoredPlace.parse request.dropoff
  let clientName ← castString request.clientName
  let gasFare ← castString request.gasAmount
  let clientPhone ← castString request.clientPhone
  some
    { rideRequestId
      pickup := newLatLng pickUpLocationLat pickUpLocationLng
      dropoff := newLatLng dropOffLocationLat dropOffLocationLng
      pickupAddress := some (printed request.pickupAddress)
      dropoffAddress := some (printed request.dropoffAddress)
      paymentMethod := some (printed request.paymentMethod)
      clientName := some clientName
      clientPhone := some clientPhone
      gasFare := some gasFare }

/-- The place has both coordinates, as numbers or texts of numbers. -/
structure StoredPlace.Located (place : Option StoredPlace) (position : GeoPoint Double) :
    Prop where
  latitude : ∃ stored, (place.bind (·.latitude)) = some stored ∧
    doubleParse (printed (some stored)) = some position.latitude
  longitude : ∃ stored, (place.bind (·.longitude)) = some stored ∧
    doubleParse (printed (some stored)) = some position.longitude

/-- A complete request, and what a dialog about it has to carry. -/
structure RideRequest.Complete (rideRequestId : String) (request : RideRequest)
    (details : DialogDetails) : Prop where
  id : details.rideRequestId = rideRequestId
  pickup : StoredPlace.Located request.pickup details.pickup
  dropoff : StoredPlace.Located request.dropoff details.dropoff
  pickupAddress : ∃ text, request.pickupAddress = some (.text text) ∧
    details.pickupAddress = some text
  dropoffAddress : ∃ text, request.dropoffAddress = some (.text text) ∧
    details.dropoffAddress = some text
  paymentMethod : ∃ text, request.paymentMethod = some (.text text) ∧
    details.paymentMethod = some text
  clientName : ∃ text, request.clientName = some (.text text) ∧ details.clientName = some text
  clientPhone : ∃ text, request.clientPhone = some (.text text) ∧
    details.clientPhone = some text
  gasFare : ∃ text, request.gasAmount = some (.text text) ∧ details.gasFare = some text

/-- The details with both places as the constructor makes them. -/
def ClientDetails.built (newLatLng : NewLatLng) (details : DialogDetails) : DialogDetails :=
  { details with
    pickup := newLatLng details.pickup.latitude details.pickup.longitude
    dropoff := newLatLng details.dropoff.latitude details.dropoff.longitude }

/-- The constructor leaves the coordinates of both places alone. -/
structure KeepsPlaces (newLatLng : NewLatLng) (details : DialogDetails) : Prop where
  pickup : newLatLng details.pickup.latitude details.pickup.longitude = details.pickup
  dropoff : newLatLng details.dropoff.latitude details.dropoff.longitude = details.dropoff

theorem ClientDetails.built_eq_iff (newLatLng : NewLatLng) (details : DialogDetails) :
    details.built newLatLng = details ↔ KeepsPlaces newLatLng details := by
  constructor
  · intro same
    exact ⟨congrArg ClientDetails.pickup same, congrArg ClientDetails.dropoff same⟩
  · rintro ⟨pickup, dropoff⟩
    rw [built, pickup, dropoff]

theorem StoredPlace.Located.parse {place : Option StoredPlace} {position : GeoPoint Double}
    (located : StoredPlace.Located place position) :
    StoredPlace.parse place = some (position.latitude, position.longitude) := by
  obtain ⟨latitude, latitudeStored, latitudeParsed⟩ := located.latitude
  obtain ⟨longitude, longitudeStored, longitudeParsed⟩ := located.longitude
  cases place with
  | none => cases latitudeStored
  | some place =>
      simp only [Option.bind_some] at latitudeStored longitudeStored
      simp [StoredPlace.parse, latitudeStored, longitudeStored, latitudeParsed, longitudeParsed]

/-- A complete request is carried over, its places through the constructor. -/
theorem RideRequest.Complete.retrieved {rideRequestId : String} {request : RideRequest}
    {details : DialogDetails} (newLatLng : NewLatLng)
    (complete : request.Complete rideRequestId details) :
    retrieveRideRequestInfo newLatLng rideRequestId request =
      some (details.built newLatLng) := by
  have id := complete.id
  obtain ⟨pickupAddress, pickupStored, pickupCarried⟩ := complete.pickupAddress
  obtain ⟨dropoffAddress, dropoffStored, dropoffCarried⟩ := complete.dropoffAddress
  obtain ⟨paymentMethod, paymentStored, paymentCarried⟩ := complete.paymentMethod
  obtain ⟨clientName, nameStored, nameCarried⟩ := complete.clientName
  obtain ⟨clientPhone, phoneStored, phoneCarried⟩ := complete.clientPhone
  obtain ⟨gasFare, fareStored, fareCarried⟩ := complete.gasFare
  cases details
  simp only at id pickupCarried dropoffCarried paymentCarried nameCarried phoneCarried fareCarried
  simp [retrieveRideRequestInfo, complete.pickup.parse, complete.dropoff.parse, castString,
    printed, ClientDetails.built, *]

/-! ## Subscriptions -/

inductive DeliveryPath where
  | onMessage
  | onMessageOpenedApp

/-- What `getRideRequestId` is called with: the data of a message, or the context that
`initialize` passes for the initial message. -/
inductive IdArgument where
  | data (rideRequestId : String)
  | context

/-- The parameter is a map, so a context throws. -/
def getRideRequestId : IdArgument → Option String
  | .data rideRequestId => some rideRequestId
  | .context => none

structure PushService where
  /-- The home tabs built so far, by whether they are still mounted. -/
  homes : List Bool := []
  /-- Home tabs that wait for `getInitialMessage`. -/
  launches : List Nat := []
  /-- The request ids of the messages delivered so far. -/
  messages : List String := []
  /-- Pending reads: the message and the home tab whose subscription it reached. -/
  reads : List (Nat × Nat) := []

inductive PushEvent where
  | mounted
  | unmounted (home : Nat)
  | message (path : DeliveryPath) (rideRequestId : String)
  | initialMessage (home : Nat) (rideRequestId : Option String)
  | requestRead (message home : Nat)
  | readFailed (message home : Nat)

inductive PushAction where
  | showDialog (message : Nat) (clientDetails : DialogDetails)
  deriving DecidableEq

namespace PushService

/-- A subscription gets a message, or `initialize` the initial one. -/
def receive (service : PushService) (subscriptions : List Nat) (argument : IdArgument)
    (rideRequestId : String) : PushService :=
  { service with
    messages := service.messages ++ [rideRequestId]
    reads := service.reads ++
      if (getRideRequestId argument).isSome then
        subscriptions.map fun home => (service.messages.length, home)
      else [] }

/-- `showDialog` throws in a context that is not mounted any more. -/
def showDialog (service : PushService) (newLatLng : NewLatLng)
    (requests : String → RideRequest) (message home : Nat) : List PushAction :=
  match service.messages[message]?, service.homes[home]? with
  | some rideRequestId, some true =>
      (retrieveRideRequestInfo newLatLng rideRequestId (requests rideRequestId)).toList.map
        (.showDialog message)
  | _, _ => []

def step (newLatLng : NewLatLng) (requests : String → RideRequest) (service : PushService) :
    PushEvent → Option (PushService × List PushAction)
  | .mounted =>
      some ({ service with
        homes := service.homes ++ [true]
        launches := service.launches ++ [service.homes.length] }, [])
  | .unmounted home =>
      if service.homes[home]? = some true then
        some ({ service with homes := service.homes.set home false }, [])
      else none
  | .message _ rideRequestId =>
      some (service.receive (List.range service.homes.length) (.data rideRequestId)
        rideRequestId, [])
  | .initialMessage home rideRequestId =>
      if home ∈ service.launches then
        let resumed := { service with launches := service.launches.erase home }
        match rideRequestId with
        | none => some (resumed, [])
        | some rideRequestId => some (resumed.receive [home] .context rideRequestId, [])
      else none
  | .requestRead message home =>
      if (message, home) ∈ service.reads then
        some ({ service with reads := service.reads.erase (message, home) },
          service.showDialog newLatLng requests message home)
      else none
  | .readFailed message home =>
      if (message, home) ∈ service.reads then
        some ({ service with reads := service.reads.erase (message, home) }, [])
      else none

def component (newLatLng : NewLatLng) (requests : String → RideRequest) :
    Component PushService PushEvent PushAction :=
  step newLatLng requests

end PushService

def PushAction.dialogOf? (message : Nat) : PushAction → Option DialogDetails
  | .showDialog shown clientDetails => if shown = message then some clientDetails else none

/-- The dialogs a message opened. -/
def dialogsOf (message : Nat) (actions : List PushAction) : List DialogDetails :=
  actions.filterMap (PushAction.dialogOf? message)

/-- The reads for a message that completed while their home tab was mounted, with the
home tabs gone before. -/
def timelyReads (message : Nat) : List Nat → List PushEvent → Nat
  | _, [] => 0
  | gone, .unmounted home :: rest => timelyReads message (home :: gone) rest
  | gone, .requestRead read home :: rest =>
      (if read = message ∧ home ∉ gone then 1 else 0) + timelyReads message gone rest
  | gone, .mounted :: rest | gone, .message .. :: rest | gone, .initialMessage .. :: rest
  | gone, .readFailed .. :: rest => timelyReads message gone rest

def unmountedHomes (events : List PushEvent) : List Nat :=
  events.filterMap fun event =>
    match event with
    | .unmounted home => some home
    | _ => none

theorem timelyReads_congr {message : Nat} {events : List PushEvent} {first second : List Nat}
    (same : ∀ home, home ∈ first ↔ home ∈ second) :
    timelyReads message first events = timelyReads message second events := by
  induction events generalizing first second with
  | nil => rfl
  | cons event rest ih =>
      cases event with
      | unmounted home =>
          apply ih
          intro other
          rw [List.mem_cons, List.mem_cons, same]
      | requestRead read home => simp only [timelyReads, ih same, same]
      | _ => exact ih same

theorem timelyReads_append (message : Nat) (before after : List PushEvent) (gone : List Nat) :
    timelyReads message gone (before ++ after) =
      timelyReads message gone before +
        timelyReads message (unmountedHomes before ++ gone) after := by
  induction before generalizing gone with
  | nil => simp [timelyReads, unmountedHomes]
  | cons event rest ih =>
      cases event with
      | unmounted home =>
          simp only [List.cons_append, timelyReads, ih]
          congr 1
          apply timelyReads_congr
          intro other
          simp [unmountedHomes, or_left_comm]
      | requestRead read home =>
          simp only [List.cons_append, timelyReads, ih, Nat.add_assoc]
          rfl
      | _ => exact ih gone

/-! ## Dialogs and timely reads -/

@[simp] theorem dialogsOf_append (message : Nat) (before after : List PushAction) :
    dialogsOf message (before ++ after) = dialogsOf message before ++ dialogsOf message after :=
  List.filterMap_append ..

/-- A message opens as many dialogs as it has timely reads, all about its request. -/
structure PushLaw (newLatLng : NewLatLng) (requests : String → RideRequest)
    (described : String → DialogDetails) (past : List PushEvent)
    (history : List PushAction) (service : PushService) : Prop where
  known : ∀ home ∈ unmountedHomes past, home < service.homes.length
  mounted : ∀ home < service.homes.length,
    (service.homes[home]? = some true ↔ home ∉ unmountedHomes past)
  reads : ∀ read ∈ service.reads,
    read.1 < service.messages.length ∧ read.2 < service.homes.length
  fresh : ∀ message, service.messages.length ≤ message →
    dialogsOf message history = [] ∧ timelyReads message [] past = 0
  shown : ∀ message rideRequestId, service.messages[message]? = some rideRequestId →
    (requests rideRequestId).Complete rideRequestId (described rideRequestId) →
    dialogsOf message history =
      List.replicate (timelyReads message [] past) ((described rideRequestId).built newLatLng)

section Steps

variable {newLatLng : NewLatLng} {requests : String → RideRequest}
  {described : String → DialogDetails}
  {past : List PushEvent} {history actions : List PushAction} {before after : PushService}

theorem PushLaw.initial : PushLaw newLatLng requests described [] [] {} where
  known := by simp [unmountedHomes]
  mounted := by simp
  reads := by simp
  fresh := by simp [dialogsOf, timelyReads]
  shown := by simp

theorem timelyReads_quiet (past : List PushEvent) (event : PushEvent)
    (quiet : ∀ read home, event ≠ .requestRead read home) (message : Nat) :
    timelyReads message [] (past ++ [event]) = timelyReads message [] past := by
  rw [timelyReads_append]
  cases event with
  | requestRead read home => exact (quiet read home rfl).elim
  | _ => rfl

theorem PushLaw.mounted_step (law : PushLaw newLatLng requests described past history before) :
    PushLaw newLatLng requests described (past ++ [.mounted]) history
      { before with
        homes := before.homes ++ [true]
        launches := before.launches ++ [before.homes.length] } := by
  have gone : unmountedHomes (past ++ [.mounted]) = unmountedHomes past := by
    simp [unmountedHomes]
  have same := timelyReads_quiet past .mounted (by simp)
  constructor
  · intro home member
    rw [gone] at member
    rw [List.length_append]
    exact Nat.lt_add_right _ (law.known home member)
  · intro home inside
    rw [gone]
    rw [List.length_append, List.length_singleton, Nat.lt_succ_iff_lt_or_eq] at inside
    rcases inside with old | rfl
    · rw [List.getElem?_append_left old]
      exact law.mounted home old
    · have absent : before.homes.length ∉ unmountedHomes past :=
        fun member => (law.known _ member).false
      simp [absent]
  · intro read member
    obtain ⟨message, home⟩ := law.reads read member
    rw [List.length_append]
    exact ⟨message, Nat.lt_add_right _ home⟩
  · intro message outside
    rw [same]
    exact law.fresh message outside
  · intro message rideRequestId delivered
    rw [same]
    exact law.shown message rideRequestId delivered

theorem PushLaw.unmounted_step {home : Nat}
    (law : PushLaw newLatLng requests described past history before)
    (here : before.homes[home]? = some true) :
    PushLaw newLatLng requests described (past ++ [.unmounted home]) history
      { before with homes := before.homes.set home false } := by
  have gone : unmountedHomes (past ++ [.unmounted home]) = unmountedHomes past ++ [home] := by
    simp [unmountedHomes]
  have same := timelyReads_quiet past (.unmounted home) (by simp)
  have inside := (List.getElem?_eq_some_iff.mp here).1
  constructor
  · intro other member
    rw [gone, List.mem_append, List.mem_singleton] at member
    rw [List.length_set]
    rcases member with old | rfl
    · exact law.known other old
    · exact inside
  · intro other bound
    rw [List.length_set] at bound
    rw [gone, List.mem_append, List.mem_singleton]
    by_cases left : home = other
    · subst left
      simp [List.getElem?_set_self inside]
    · rw [List.getElem?_set_ne left, law.mounted other bound]
      simp [Ne.symm left]
  · intro read member
    rw [List.length_set]
    exact law.reads read member
  · intro message outside
    rw [same]
    exact law.fresh message outside
  · intro message rideRequestId delivered
    rw [same]
    exact law.shown message rideRequestId delivered

/-- A message that arrives, by whichever path, has no dialog yet. -/
theorem PushLaw.receive_step {event : PushEvent} {subscriptions : List Nat}
    {argument : IdArgument} {rideRequestId : String}
    (law : PushLaw newLatLng requests described past history before)
    (known : (getRideRequestId argument).isSome = true →
      ∀ home ∈ subscriptions, home < before.homes.length)
    (silent : unmountedHomes (past ++ [event]) = unmountedHomes past)
    (quiet : ∀ read home, event ≠ .requestRead read home) :
    PushLaw newLatLng requests described (past ++ [event]) history
      (before.receive subscriptions argument rideRequestId) := by
  have same := timelyReads_quiet past event quiet
  have count : (before.receive subscriptions argument rideRequestId).messages.length =
      before.messages.length + 1 := by
    simp [PushService.receive]
  constructor
  · rw [silent]
    exact law.known
  · rw [silent]
    exact law.mounted
  · intro read member
    rw [count]
    rcases List.mem_append.mp member with old | new
    · exact ⟨Nat.lt_succ_of_lt (law.reads read old).1, (law.reads read old).2⟩
    · split at new
      · next extracted =>
        obtain ⟨home, subscribed, rfl⟩ := List.mem_map.mp new
        exact ⟨Nat.lt_succ_self _, known extracted home subscribed⟩
      · cases new
  · intro message outside
    rw [count] at outside
    rw [same]
    exact law.fresh message (Nat.le_of_succ_le outside)
  · intro message requested delivered complete
    rw [same]
    by_cases old : message < before.messages.length
    · rw [PushService.receive, List.getElem?_append_left old] at delivered
      exact law.shown message requested delivered complete
    · obtain ⟨nothing, unread⟩ := law.fresh message (Nat.le_of_not_lt old)
      rw [nothing, unread]
      rfl

theorem PushLaw.of_same {other : PushService}
    (law : PushLaw newLatLng requests described past history before)
    (homes : other.homes = before.homes) (messages : other.messages = before.messages)
    (fewer : ∀ read ∈ other.reads, read ∈ before.reads) :
    PushLaw newLatLng requests described past history other := by
  constructor
  · rw [homes]
    exact law.known
  · rw [homes]
    exact law.mounted
  · rw [homes, messages]
    exact fun read member => law.reads read (fewer read member)
  · rw [messages]
    exact law.fresh
  · rw [messages]
    exact law.shown

theorem PushLaw.quiet_step {event : PushEvent}
    (law : PushLaw newLatLng requests described past history before)
    (silent : unmountedHomes (past ++ [event]) = unmountedHomes past)
    (quiet : ∀ read home, event ≠ .requestRead read home) :
    PushLaw newLatLng requests described (past ++ [event]) history before := by
  have same := timelyReads_quiet past event quiet
  constructor
  · rw [silent]
    exact law.known
  · rw [silent]
    exact law.mounted
  · exact law.reads
  · simp only [same]
    exact law.fresh
  · simp only [same]
    exact law.shown

theorem PushLaw.read_step {message home : Nat}
    (law : PushLaw newLatLng requests described past history before)
    (pending : (message, home) ∈ before.reads) :
    PushLaw newLatLng requests described (past ++ [.requestRead message home])
      (history ++ before.showDialog newLatLng requests message home) before := by
  have gone : unmountedHomes (past ++ [.requestRead message home]) = unmountedHomes past := by
    simp [unmountedHomes]
  obtain ⟨delivered, inside⟩ := law.reads _ pending
  have counts : ∀ other, timelyReads other [] (past ++ [.requestRead message home]) =
      timelyReads other [] past +
        if message = other ∧ home ∉ unmountedHomes past then 1 else 0 := by
    intro other
    rw [timelyReads_append, List.append_nil]
    rfl
  have apart : ∀ other, message ≠ other →
      dialogsOf other (before.showDialog newLatLng requests message home) = [] ∧
        timelyReads other [] (past ++ [.requestRead message home]) =
          timelyReads other [] past := by
    intro other different
    constructor
    · unfold PushService.showDialog
      split
      · rw [dialogsOf, List.filterMap_map, List.filterMap_eq_nil_iff]
        intro clientDetails _
        exact if_neg different
      · rfl
    · rw [counts, if_neg (fun both => different both.1)]
      rfl
  constructor
  · rw [gone]
    exact law.known
  · rw [gone]
    exact law.mounted
  · exact law.reads
  · intro other outside
    obtain ⟨silent, unread⟩ := apart other (delivered.trans_le outside).ne
    rw [dialogsOf_append, silent, List.append_nil, unread]
    exact law.fresh other outside
  · intro other rideRequestId known complete
    by_cases here : message = other
    · subst here
      rw [dialogsOf_append, counts, law.shown message rideRequestId known complete]
      by_cases mounted : before.homes[home]? = some true
      · have timely := (law.mounted home inside).mp mounted
        have opened : dialogsOf message (before.showDialog newLatLng requests message home) =
            [(described rideRequestId).built newLatLng] := by
          simp [PushService.showDialog, known, mounted, complete.retrieved newLatLng, dialogsOf,
            PushAction.dialogOf?]
        rw [opened, if_pos ⟨rfl, timely⟩, List.replicate_succ']
      · have late : ¬ (message = message ∧ home ∉ unmountedHomes past) :=
          fun both => mounted ((law.mounted home inside).mpr both.2)
        have nothing : before.showDialog newLatLng requests message home = [] := by
          unfold PushService.showDialog
          split
          · next _ present => exact (mounted present).elim
          · rfl
        rw [nothing, if_neg late]
        exact List.append_nil _
    · obtain ⟨silent, unread⟩ := apart other here
      rw [dialogsOf_append, silent, List.append_nil, unread]
      exact law.shown other rideRequestId known complete

theorem PushLaw.step {event : PushEvent}
    (law : PushLaw newLatLng requests described past history before)
    (stepped : before.step newLatLng requests event = some (after, actions)) :
    PushLaw newLatLng requests described (past ++ [event]) (history ++ actions) after := by
  cases event with
  | mounted =>
      cases stepped
      rw [List.append_nil]
      exact law.mounted_step
  | unmounted home =>
      simp only [PushService.step] at stepped
      split at stepped <;> cases stepped
      next here =>
      rw [List.append_nil]
      exact law.unmounted_step here
  | message path rideRequestId =>
      cases stepped
      rw [List.append_nil]
      apply law.receive_step _ (by simp [unmountedHomes]) (by simp)
      intro _ home member
      exact List.mem_range.mp member
  | initialMessage home rideRequestId =>
      simp only [PushService.step] at stepped
      split at stepped
      · have resumed : PushLaw newLatLng requests described past history
            { before with launches := before.launches.erase home } :=
          law.of_same rfl rfl (fun _ member => member)
        split at stepped <;> cases stepped <;> rw [List.append_nil]
        · exact resumed.quiet_step (by simp [unmountedHomes]) (by simp)
        · apply resumed.receive_step _ (by simp [unmountedHomes]) (by simp)
          intro extracted
          cases extracted
      · cases stepped
  | requestRead message home =>
      simp only [PushService.step] at stepped
      split at stepped <;> cases stepped
      next pending =>
      exact (law.read_step pending).of_same rfl rfl
        fun read member => List.mem_of_mem_erase member
  | readFailed message home =>
      simp only [PushService.step] at stepped
      split at stepped <;> cases stepped
      have forgotten : PushLaw newLatLng requests described past history
          { before with reads := before.reads.erase (message, home) } :=
        law.of_same rfl rfl (fun read member => List.mem_of_mem_erase member)
      rw [List.append_nil]
      exact forgotten.quiet_step (by simp [unmountedHomes]) (by simp)

end Steps

/-- Every message so far opened exactly one dialog, and it carries the request. -/
def OneDialogEach (described : String → DialogDetails) (service : PushService)
    (actions : List PushAction) : Prop :=
  ∀ message rideRequestId, service.messages[message]? = some rideRequestId →
    dialogsOf message actions = [described rideRequestId]

/-- For messages about complete requests, at any point of any run of home tabs, messages
and reads: each message has opened exactly one dialog, with what its request stores,
exactly if each had exactly one read that completed while its home tab was mounted, and
the constructor `LatLng` keeps the coordinates of its request. -/
theorem oneDialogEach_iff_timelyReads (newLatLng : NewLatLng)
    (requests : String → RideRequest) (described : String → DialogDetails)
    {service : PushService} {events : List PushEvent} {actions : List PushAction}
    (run : exec (PushService.component newLatLng requests) {} events = some (service, actions))
    (complete : ∀ rideRequestId ∈ service.messages,
      (requests rideRequestId).Complete rideRequestId (described rideRequestId)) :
    OneDialogEach described service actions ↔
      ∀ message rideRequestId, service.messages[message]? = some rideRequestId →
        timelyReads message [] events = 1 ∧
          KeepsPlaces newLatLng (described rideRequestId) := by
  have law : PushLaw newLatLng requests described ([] ++ events) ([] ++ actions) service := by
    apply exec_trace_invariant (PushLaw newLatLng requests described) _ [] [] PushLaw.initial
      (fun _ _ => trivial) run
    intro past history before event after emitted held _ stepped
    exact held.step stepped
  simp only [List.nil_append] at law
  have shown : ∀ message rideRequestId, service.messages[message]? = some rideRequestId →
      dialogsOf message actions = List.replicate (timelyReads message [] events)
        ((described rideRequestId).built newLatLng) := by
    intro message rideRequestId delivered
    exact law.shown message rideRequestId delivered
      (complete rideRequestId (List.mem_of_getElem? delivered))
  constructor
  · intro once message rideRequestId delivered
    have dialogs := once message rideRequestId delivered
    rw [shown message rideRequestId delivered] at dialogs
    have count : timelyReads message [] events = 1 := by
      simpa using congrArg List.length dialogs
    rw [count] at dialogs
    exact ⟨count, (ClientDetails.built_eq_iff newLatLng _).mp (List.head_eq_of_cons_eq dialogs)⟩
  · intro timely message rideRequestId delivered
    obtain ⟨count, keeps⟩ := timely message rideRequestId delivered
    rw [shown message rideRequestId delivered, count,
      (ClientDetails.built_eq_iff newLatLng _).mpr keeps]
    rfl

def samplePlace : StoredPlace := ⟨some (.number "5.5"), some (.number "0")⟩

theorem samplePlace_located :
    StoredPlace.Located (some samplePlace) ⟨.finite (11 / 2), .finite 0⟩ where
  latitude := ⟨.number "5.5", rfl, by decide +kernel⟩
  longitude := ⟨.number "0", rfl, by decide +kernel⟩

def sampleRequest (_ : String) : RideRequest :=
  { pickup := some samplePlace
    dropoff := some samplePlace
    pickupAddress := some (.text "Tema")
    dropoffAddress := some (.text "Accra")
    paymentMethod := some (.text "cash")
    clientName := some (.text "Kofi")
    gasAmount := some (.text "80")
    clientPhone := some (.text "0200000000") }

def sampleDescription (rideRequestId : String) : DialogDetails :=
  { rideRequestId
    pickup := ⟨.finite (11 / 2), .finite 0⟩
    dropoff := ⟨.finite (11 / 2), .finite 0⟩
    pickupAddress := some "Tema"
    dropoffAddress := some "Accra"
    paymentMethod := some "cash"
    clientName := some "Kofi"
    clientPhone := some "0200000000"
    gasFare := some "80" }

theorem sampleRequest_complete (rideRequestId : String) :
    (sampleRequest rideRequestId).Complete rideRequestId (sampleDescription rideRequestId) where
  id := rfl
  pickup := samplePlace_located
  dropoff := samplePlace_located
  pickupAddress := ⟨_, rfl, rfl⟩
  dropoffAddress := ⟨_, rfl, rfl⟩
  paymentMethod := ⟨_, rfl, rfl⟩
  clientName := ⟨_, rfl, rfl⟩
  clientPhone := ⟨_, rfl, rfl⟩
  gasFare := ⟨_, rfl, rfl⟩

/-- A tab switch between two messages: the first subscription shows nothing any more. -/
theorem oneDialogEach_of_tab_switch :
    ∃ service actions,
      exec (PushService.component GeoPoint.mk sampleRequest) {}
        [.mounted, .message .onMessage "request-1", .requestRead 0 0, .unmounted 0, .mounted,
          .message .onMessageOpenedApp "request-2", .requestRead 1 0, .requestRead 1 1] =
          some (service, actions) ∧
      service.messages = ["request-1", "request-2"] ∧
      OneDialogEach sampleDescription service actions := by
  have ends : ((exec (PushService.component GeoPoint.mk sampleRequest) {}
      [.mounted, .message .onMessage "request-1", .requestRead 0 0, .unmounted 0, .mounted,
        .message .onMessageOpenedApp "request-2", .requestRead 1 0, .requestRead 1 1]).map
      fun result => result.1.messages) = some ["request-1", "request-2"] := by
    decide +kernel
  obtain ⟨⟨service, actions⟩, run, messages⟩ := Option.map_eq_some_iff.mp ends
  refine ⟨service, actions, run, messages, ?_⟩
  apply (oneDialogEach_iff_timelyReads GeoPoint.mk sampleRequest sampleDescription run
    fun rideRequestId _ => sampleRequest_complete rideRequestId).mpr
  have delivered : service.messages = ["request-1", "request-2"] := messages
  rw [delivered]
  intro message rideRequestId known
  refine ⟨?_, ⟨rfl, rfl⟩⟩
  have timely : ∀ message < 2, timelyReads message []
      [.mounted, .message .onMessage "request-1", .requestRead 0 0, .unmounted 0, .mounted,
        .message .onMessageOpenedApp "request-2", .requestRead 1 0, .requestRead 1 1] = 1 := by
    decide +kernel
  exact timely message (List.getElem?_eq_some_iff.mp known).1

theorem not_oneDialogEach_of_initialMessage :
    ¬ ∀ (newLatLng : NewLatLng) (requests : String → RideRequest)
        (described : String → DialogDetails) (service : PushService)
        (events : List PushEvent) (actions : List PushAction),
      exec (PushService.component newLatLng requests) {} events = some (service, actions) →
      (∀ rideRequestId ∈ service.messages,
        (requests rideRequestId).Complete rideRequestId (described rideRequestId)) →
      service.reads = [] → OneDialogEach described service actions := by
  intro always
  have ends : ((exec (PushService.component GeoPoint.mk sampleRequest) {}
      [.mounted, .initialMessage 0 (some "request-1")]).map fun result =>
        (result.1.messages, result.1.reads, result.2)) = some (["request-1"], [], []) := by
    decide +kernel
  obtain ⟨⟨service, actions⟩, run, reached⟩ := Option.map_eq_some_iff.mp ends
  simp only [Prod.mk.injEq] at reached
  obtain ⟨messages, reads, silent⟩ := reached
  have once := always GeoPoint.mk sampleRequest sampleDescription service _ actions run
    (fun rideRequestId _ => sampleRequest_complete rideRequestId) reads 0 "request-1"
    (by rw [messages]; rfl)
  rw [silent] at once
  cases once

end FilldRider
