import FilldRider.App.Basic

/-!
# What a step of the app does

Every step of a rider's app is one of these moves. An accepted slot read is the only
one that opens a ride, and no move writes earnings.
-/

set_option autoImplicit false

namespace FilldRider

open Runs

inductive AppMove (before : App) : AppEvent → App → List DbWrite → Prop where
  | home {event : HomeEvent} {home : Home} {writes : List RiderWrite}
      (moves : HomeMove before.home event home writes) :
      AppMove before (.home event) { before with home := home } (writes.map .rider)
  | accept {dialog : DialogKind} {clientDetails : ClientDetails String} :
      AppMove before (.accept dialog clientDetails)
        { before with accepts := before.accepts ++ [⟨dialog, clientDetails, none⟩] } []
  | slotRead {call : Nat} {dialog : DialogKind} {clientDetails : ClientDetails String}
      {value : Option SlotValue}
      (reading : before.accepts[call]? = some ⟨dialog, clientDetails, none⟩) :
      AppMove before (.slotRead call value)
        { before with accepts := before.accepts.set call ⟨dialog, clientDetails, some value⟩ } []
  | taken {call : Nat} {dialog : DialogKind} {clientDetails : ClientDetails String}
      {value : Option SlotValue}
      (answered : before.accepts[call]? = some ⟨dialog, clientDetails, some value⟩)
      (offered : theRideId value = clientDetails.rideRequestId) :
      AppMove before (.slotReply call true)
        { before with
          accepts := before.accepts.eraseIdx call
          home := before.home.disableHomeTabLiveLocationUpdates.1
          openings := before.openings ++ [clientDetails] }
        [.rider (.accepted clientDetails.rideRequestId value), .rider .removeLocation]
  | refused {call : Nat} {mounted : Bool} {dialog : DialogKind}
      {clientDetails : ClientDetails String} {value : Option SlotValue}
      (answered : before.accepts[call]? = some ⟨dialog, clientDetails, some value⟩)
      (other : mounted = false ∨ theRideId value ≠ clientDetails.rideRequestId) :
      AppMove before (.slotReply call mounted)
        { before with accepts := before.accepts.eraseIdx call } []
  | built {opening : Nat} {clientDetails : ClientDetails String}
      (pushed : before.openings[opening]? = some clientDetails) :
      AppMove before (.built opening)
        { before with
          openings := before.openings.eraseIdx opening
          screens := before.screens ++ [{ clientDetails := clientDetails }] }
        (before.acceptWrites clientDetails)
  | screen {ride : Nat} {event : ScreenEvent} {screen next : NewRequestScreen String}
      {actions : List ScreenAction}
      (shown : before.screens[ride]? = some screen)
      (stepped : screen.step before.rideType event = some (next, actions)) :
      AppMove before (.screen ride event)
        { before with
          screens := before.screens.set ride next
          saves := before.saves ++ savesOf actions
          home := { before.home with currentPosition := before.positionAfter event } }
        (requestWrites screen.clientDetails.rideRequestId actions)
  | saved {save : Nat} {event : DatabaseEvent} :
      AppMove before (.earningsRead save event)
        { before with saves := before.saves.eraseIdx save } []
  | profile {riderInfo : Option RideR} :
      AppMove before (.profile riderInfo) { before with riderInfo := riderInfo } []
  | rideType {rideType : String} :
      AppMove before (.rideType rideType) { before with rideType := rideType } []

namespace App

variable {before after : App} {writes : List DbWrite}

theorem performAll_of_offered (app : App) (clientDetails : ClientDetails String)
    {value : Option SlotValue} (offered : theRideId value = clientDetails.rideRequestId) :
    performAll true app (checkAvailability clientDetails value) =
      ({ app with
        home := app.home.disableHomeTabLiveLocationUpdates.1
        openings := app.openings ++ [clientDetails] },
        [.rider (.accepted clientDetails.rideRequestId value), .rider .removeLocation]) := by
  unfold checkAvailability
  rw [if_pos offered]
  split <;> rfl

theorem performAll_of_other (app : App) (clientDetails : ClientDetails String)
    {mounted : Bool} {value : Option SlotValue}
    (other : mounted = false ∨ theRideId value ≠ clientDetails.rideRequestId) :
    performAll mounted app (checkAvailability clientDetails value) = (app, []) := by
  cases mounted with
  | false => rfl
  | true =>
      unfold checkAvailability
      rw [if_neg (other.resolve_left Bool.noConfusion)]
      split <;> split <;> first | rfl | split <;> rfl

private theorem slotReply_moves (mounted : Bool) {call : Nat} {dialog : DialogKind}
    {clientDetails : ClientDetails String} {value : Option SlotValue}
    (answered : before.accepts[call]? = some ⟨dialog, clientDetails, some value⟩) :
    AppMove before (.slotReply call mounted)
      (performAll mounted { before with accepts := before.accepts.eraseIdx call }
        (dialog.checkAvailabilityOfRide clientDetails value)).1
      (performAll mounted { before with accepts := before.accepts.eraseIdx call }
        (dialog.checkAvailabilityOfRide clientDetails value)).2 := by
  rw [dialog.checkAvailabilityOfRide_eq]
  by_cases offered : mounted = true ∧ theRideId value = clientDetails.rideRequestId
  · obtain ⟨rfl, offered⟩ := offered
    rw [performAll_of_offered _ _ offered]
    exact .taken answered offered
  · have other : mounted = false ∨ theRideId value ≠ clientDetails.rideRequestId := by
      rwa [not_and_or, Bool.not_eq_true] at offered
    rw [performAll_of_other _ _ other]
    exact .refused answered other

theorem step_moves {event : AppEvent} (stepped : before.step event = some (after, writes)) :
    AppMove before event after writes := by
  cases event with
  | home event =>
      cases reacts : before.home.step event with
      | none => simp [step, reacts] at stepped
      | some result =>
          obtain ⟨home, emitted⟩ := result
          simp only [step, reacts, Option.some.injEq, Prod.mk.injEq] at stepped
          obtain ⟨rfl, rfl⟩ := stepped
          exact .home (Home.step_moves reacts)
  | accept dialog clientDetails =>
      cases stepped
      exact .accept
  | slotRead call value =>
      simp only [step] at stepped
      split at stepped
      · next dialog clientDetails reading =>
        cases stepped
        exact .slotRead reading
      · cases stepped
  | slotReply call mounted =>
      simp only [step] at stepped
      split at stepped
      · next dialog clientDetails value answered =>
        have moves := slotReply_moves mounted answered
        rwa [Option.some.inj stepped] at moves
      · cases stepped
  | built opening =>
      simp only [step] at stepped
      split at stepped
      · cases stepped
      · next clientDetails pushed =>
        cases stepped
        exact .built pushed
  | screen ride event =>
      cases shown : before.screens[ride]? with
      | none => simp [step, shown] at stepped
      | some screen =>
          cases reacts : screen.step before.rideType event with
          | none => simp [step, shown, reacts] at stepped
          | some result =>
              obtain ⟨next, actions⟩ := result
              simp only [step, shown, reacts] at stepped
              split at stepped
              · cases stepped
                exact .screen shown reacts
              · cases stepped
  | earningsRead save event =>
      simp only [step] at stepped
      split at stepped
      · cases stepped
      · simp only [saveEarnings_some, List.map_nil, Option.some.injEq, Prod.mk.injEq] at stepped
        obtain ⟨rfl, rfl⟩ := stepped
        exact .saved
  | profile riderInfo =>
      cases stepped
      exact .profile
  | rideType rideType =>
      cases stepped
      exact .rideType

end App

/-! ## Calls, openings and screens -/

section Rides

variable {before after : App} {event : AppEvent} {writes : List DbWrite}

/-- A call was there with the same details before, or Accept is tapped now. -/
theorem AppMove.asked (moves : AppMove before event after writes) {call : AcceptCall}
    (member : call ∈ after.accepts) :
    (∃ old ∈ before.accepts, old.clientDetails = call.clientDetails) ∨
      event = .accept call.dialog call.clientDetails := by
  cases moves with
  | accept =>
      rcases List.mem_append.mp member with old | new
      · exact .inl ⟨call, old, rfl⟩
      · cases List.mem_singleton.mp new
        exact .inr rfl
  | slotRead reading =>
      rcases List.mem_or_eq_of_mem_set member with old | rfl
      · exact .inl ⟨call, old, rfl⟩
      · exact .inl ⟨_, List.mem_of_getElem? reading, rfl⟩
  | taken answered own | refused answered other =>
      exact .inl ⟨call, List.mem_of_mem_eraseIdx member, rfl⟩
  | _ => exact .inl ⟨call, member, rfl⟩

/-- A call with an answer had it before, or got it by this event. -/
theorem AppMove.answered (moves : AppMove before event after writes) {call : AcceptCall}
    {value : Option SlotValue} (member : call ∈ after.accepts) (answer : call.answer = some value) :
    call ∈ before.accepts ∨ ∃ index, event = .slotRead index value ∧
      ⟨call.dialog, call.clientDetails, none⟩ ∈ before.accepts := by
  cases moves with
  | accept =>
      rcases List.mem_append.mp member with old | new
      · exact .inl old
      · cases List.mem_singleton.mp new
        cases answer
  | slotRead reading =>
      rcases List.mem_or_eq_of_mem_set member with old | rfl
      · exact .inl old
      · cases answer
        exact .inr ⟨_, rfl, List.mem_of_getElem? reading⟩
  | taken answered own | refused answered other => exact .inl (List.mem_of_mem_eraseIdx member)
  | _ => exact .inl member

/-- A ride screen is pushed by a call whose read returned its request. -/
theorem AppMove.pushed (moves : AppMove before event after writes)
    {details : ClientDetails String} (member : details ∈ after.openings) :
    details ∈ before.openings ∨ ∃ call ∈ before.accepts, ∃ value, call.answer = some value ∧
      call.clientDetails = details ∧ theRideId value = details.rideRequestId := by
  cases moves with
  | taken answered own =>
      rcases List.mem_append.mp member with old | new
      · exact .inl old
      · cases List.mem_singleton.mp new
        exact .inr ⟨_, List.mem_of_getElem? answered, _, rfl, rfl, own⟩
  | built pushed => exact .inl (List.mem_of_mem_eraseIdx member)
  | _ => exact .inl member

/-- A ride screen was there with the same details before, or it is built now. -/
theorem AppMove.shown (moves : AppMove before event after writes)
    {screen : NewRequestScreen String} (member : screen ∈ after.screens) :
    (∃ old ∈ before.screens, old.clientDetails = screen.clientDetails) ∨
      screen.clientDetails ∈ before.openings := by
  cases moves with
  | built pushed =>
      rcases List.mem_append.mp member with old | new
      · exact .inl ⟨screen, old, rfl⟩
      · cases List.mem_singleton.mp new
        exact .inr (List.mem_of_getElem? pushed)
  | screen shown stepped =>
      rcases List.mem_or_eq_of_mem_set member with old | rfl
      · exact .inl ⟨screen, old, rfl⟩
      · exact .inl ⟨_, List.mem_of_getElem? shown,
          (NewRequestScreen.step_moves stepped).keeps.details.symm⟩
  | _ => exact .inl ⟨screen, member, rfl⟩

end Rides

/-! ## Where the writes come from -/

theorem mem_requestWrites {rideRequestId id : String} {actions : List ScreenAction}
    {write : RequestWrite} :
    .request id write ∈ requestWrites rideRequestId actions ↔
      id = rideRequestId ∧ .write write ∈ actions := by
  rw [requestWrites, List.mem_filterMap]
  constructor
  · intro found
    obtain ⟨action, member, writes⟩ := found
    cases action with
    | write issued =>
        cases writes
        exact ⟨rfl, member⟩
    | _ => cases writes
  · intro found
    obtain ⟨rfl, member⟩ := found
    exact ⟨_, member, rfl⟩

theorem rider_not_mem_requestWrites {rideRequestId : String} {actions : List ScreenAction}
    {write : RiderWrite} : .rider write ∉ requestWrites rideRequestId actions := by
  intro member
  obtain ⟨action, _, same⟩ := List.mem_filterMap.mp member
  cases action <;> cases same

/-- A write below a request comes from the acceptance when the ride screen is built,
or from that screen. -/
inductive RequestOrigin (before : App) (rideRequestId : String) (write : RequestWrite) :
    AppEvent → Prop where
  | accepted {opening : Nat} {clientDetails : ClientDetails String}
      (pushed : before.openings[opening]? = some clientDetails)
      (same : rideRequestId = clientDetails.rideRequestId)
      (issued : write ∈ acceptRideRequest before.uid before.riderInfo before.home.currentPosition) :
      RequestOrigin before rideRequestId write (.built opening)
  | screen {ride : Nat} {event : ScreenEvent} {screen : NewRequestScreen String}
      (shown : before.screens[ride]? = some screen)
      (same : rideRequestId = screen.clientDetails.rideRequestId)
      (issued : ScreenWrite before.rideType screen event write) :
      RequestOrigin before rideRequestId write (.screen ride event)

theorem AppMove.requestOrigin {before after : App} {event : AppEvent} {writes : List DbWrite}
    {rideRequestId : String} {write : RequestWrite}
    (moves : AppMove before event after writes)
    (written : .request rideRequestId write ∈ writes) :
    RequestOrigin before rideRequestId write event := by
  cases moves with
  | home moves =>
      obtain ⟨issued, _, same⟩ := List.mem_map.mp written
      cases same
  | taken answered offered => simp at written
  | built pushed =>
      rcases List.mem_append.mp written with inRequest | mark
      · obtain ⟨same, issued⟩ := mem_requestWrites.mp inRequest
        obtain ⟨accepted, member, equal⟩ := List.mem_map.mp issued
        cases equal
        exact .accepted pushed same member
      · cases List.mem_singleton.mp mark
  | screen shown stepped =>
      obtain ⟨same, issued⟩ := mem_requestWrites.mp written
      exact .screen shown same ((NewRequestScreen.step_moves stepped).screenWrite issued)
  | _ => cases written

/-- A write below the rider's own nodes comes from the home page, from an accepted
read or from the ride screen being built. -/
inductive RiderOrigin (before : App) : AppEvent → RiderWrite → Prop where
  | home {event : HomeEvent} {home : Home} {writes : List RiderWrite} {write : RiderWrite}
      (moves : HomeMove before.home event home writes) (issued : write ∈ writes) :
      RiderOrigin before (.home event) write
  | accepted {call : Nat} {dialog : DialogKind} {clientDetails : ClientDetails String}
      {value : Option SlotValue}
      (answered : before.accepts[call]? = some ⟨dialog, clientDetails, some value⟩)
      (offered : theRideId value = clientDetails.rideRequestId) :
      RiderOrigin before (.slotReply call true) (.accepted clientDetails.rideRequestId value)
  | leaves {call : Nat} : RiderOrigin before (.slotReply call true) .removeLocation
  | history {opening : Nat} {rideRequestId : String} :
      RiderOrigin before (.built opening) (.history before.uid rideRequestId)

theorem AppMove.riderOrigin {before after : App} {event : AppEvent} {writes : List DbWrite}
    {write : RiderWrite} (moves : AppMove before event after writes)
    (written : .rider write ∈ writes) : RiderOrigin before event write := by
  cases moves with
  | home moves =>
      obtain ⟨issued, member, same⟩ := List.mem_map.mp written
      cases same
      exact .home moves member
  | taken answered offered =>
      simp only [List.mem_cons, DbWrite.rider.injEq, List.not_mem_nil, or_false] at written
      rcases written with same | same <;> subst same
      · exact .accepted answered offered
      · exact .leaves
  | built pushed =>
      rcases List.mem_append.mp written with inRequest | mark
      · exact (rider_not_mem_requestWrites inRequest).elim
      · cases List.mem_singleton.mp mark
        exact .history
  | screen shown stepped => exact (rider_not_mem_requestWrites written).elim
  | _ => cases written

theorem HomeMove.write_cases {before after : Home} {event : HomeEvent}
    {writes : List RiderWrite} {write : RiderWrite}
    (moves : HomeMove before event after writes) (issued : write ∈ writes) :
    write = .removeLocation ∨ write = .removeSlot ∨ (∃ text, write = .searching text) ∨
      ∃ position, write = .setLocation position := by
  cases moves with
  | position =>
      split at issued
      · exact .inr (.inr (.inr ⟨_, List.mem_singleton.mp issued⟩))
      · cases issued
  | offline =>
      simp only [List.mem_cons, List.not_mem_nil, or_false] at issued
      rcases issued with same | same
      · exact .inl same
      · exact .inr (.inl same)
  | located =>
      simp only [List.mem_cons, List.not_mem_nil, or_false] at issued
      rcases issued with same | same | same
      · exact .inr (.inr (.inl ⟨_, same⟩))
      · exact .inr (.inr (.inr ⟨_, same⟩))
      · exact .inr (.inr (.inl ⟨_, same⟩))
  | _ => cases issued

/-- `saveEarnings` never gets to its write, and nothing else writes earnings. -/
theorem RiderOrigin.not_earnings {before : App} {event : AppEvent} {text : String} :
    ¬ RiderOrigin before event (.earnings text) := by
  intro origin
  cases origin with
  | home moves issued =>
      rcases moves.write_cases issued with same | same | ⟨_, same⟩ | ⟨_, same⟩ <;> cases same

end FilldRider
