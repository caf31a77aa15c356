import FilldRider.NewRequestScreen.Navigator

/-!
# Balanced routes

Every progress dialog of a ride belongs to one call that waits. The stack stays balanced
while calls find their dialogs on top; nothing in the source sees to that.
-/

set_option autoImplicit false

namespace FilldRider

open Runs

namespace RideNavigator

variable {RequestId : Type} {rideType : String} {screen resumed : NewRequestScreen RequestId}
  {label : ButtonLabel} {point : TapPoint} {reply : Reply} {next : Option TapPoint}
  {actions : List ScreenAction}

/-- The numbers of the pending copies are aligned with them, and every progress dialog
belongs to one call. -/
structure StackLaw (navigator : RideNavigator RequestId) : Prop where
  aligned : navigator.copies.length = navigator.screen.taps.length
  distinct : navigator.copies.Nodup
  numbered : ∀ id ∈ navigator.copies, id < navigator.tapped
  unlistened : navigator.screen.rideStreamSubscription = false
  created : navigator.screen.mapDirections = true →
    navigator.screen.newRideGoogleMapController = true
  once : (navigator.routes.filter RideRoute.isProgress).Nodup
  owned : ∀ route ∈ navigator.routes, route.isProgress = true → navigator.Waits route

variable {navigator after : RideNavigator RequestId} {copy id : Nat}

theorem StackLaw.initial (details : ClientDetails RequestId) :
    StackLaw { screen := { clientDetails := details } } := by
  constructor <;> simp [RideRoute.isProgress]

theorem StackLaw.number (law : StackLaw navigator)
    (waiting : navigator.screen.taps[copy]? = some ⟨label, point⟩) :
    ∃ id, navigator.copies[copy]? = some id := by
  obtain ⟨inside, _⟩ := List.getElem?_eq_some_iff.mp waiting
  rw [← law.aligned] at inside
  exact ⟨_, List.getElem?_eq_getElem inside⟩

theorem dialogs_progress {owner : Owner} {route : RideRoute} (member : route ∈ point.dialogs owner) :
    ∃ barrierDismissible, route = .progress barrierDismissible owner := by
  cases point <;> simp [TapPoint.dialogs] at member
  · rcases member with rfl | rfl <;> exact ⟨_, rfl⟩
  · exact ⟨_, member⟩
  · exact ⟨_, member⟩

theorem advanceCopies_reply (inside : copy < navigator.screen.taps.length)
    (taps : resumed.taps = NewRequestScreen.advanceTap navigator.screen.taps copy label next) :
    navigator.advanceCopies resumed (.reply copy reply) =
      if next.isNone = true then navigator.copies.eraseIdx copy else navigator.copies := by
  cases next with
  | none =>
      have shorter : (navigator.screen.taps.eraseIdx copy).length <
          navigator.screen.taps.length := by
        rw [List.length_eraseIdx_of_lt inside]
        omega
      simp [advanceCopies, taps, NewRequestScreen.advanceTap, shorter]
  | some reached => simp [advanceCopies, taps, NewRequestScreen.advanceTap]

/-- A resumed copy waits at its next await, if any; the others wait where they did. -/
theorem pending_advance (law : StackLaw navigator)
    (here : navigator.copies[copy]? = some id)
    (waiting : navigator.screen.taps[copy]? = some ⟨label, point⟩)
    (taps : resumed.taps = NewRequestScreen.advanceTap navigator.screen.taps copy label next)
    {other : Nat} {reached : TapPoint} :
    Pending (navigator.advanceCopies resumed (.reply copy reply)) resumed.taps other reached ↔
      other = id ∧ next = some reached ∨
        other ≠ id ∧ Pending navigator.copies navigator.screen.taps other reached := by
  obtain ⟨inside, _⟩ := List.getElem?_eq_some_iff.mp waiting
  rw [advanceCopies_reply inside taps, taps]
  cases next with
  | none =>
      simp [NewRequestScreen.advanceTap, Pending, Records.at_eraseIdx law.distinct here]
  | some onward =>
      simp [NewRequestScreen.advanceTap, Pending, Records.at_set law.distinct here inside,
        exists_or]

theorem dialogs_nodup (owner : Owner) (point : TapPoint) : (point.dialogs owner).Nodup := by
  cases point <;> simp [TapPoint.dialogs]

theorem onward_nodup (owner : Owner) (next : Option TapPoint) : (onward owner next).Nodup := by
  cases next with
  | none => exact List.nodup_nil
  | some point => exact dialogs_nodup owner point

theorem mem_onward {owner : Owner} {route : RideRoute} (member : route ∈ onward owner next) :
    ∃ reached, next = some reached ∧ route ∈ reached.dialogs owner := by
  cases next with
  | none => cases member
  | some reached => exact ⟨reached, rfl, member⟩

/-- A progress dialog is left on the routes by another call than the copy whose own
dialogs are gone. -/
theorem StackLaw.other_waits (law : StackLaw navigator)
    (here : navigator.copies[copy]? = some id)
    (waiting : navigator.screen.taps[copy]? = some ⟨label, point⟩) {count : Nat}
    (left : ∀ route ∈ point.dialogs (.copy id), route ∉ navigator.routes.drop count)
    {route : RideRoute} (remains : route ∈ navigator.routes.drop count)
    (isProgress : route.isProgress = true) :
    (∃ other reached, other ≠ id ∧
        Pending navigator.copies navigator.screen.taps other reached ∧
        route ∈ reached.dialogs (.copy other)) ∨
      route = .progress true .map ∧ navigator.screen.mapDirections = true := by
  rcases law.owned route (List.mem_of_mem_drop remains) isProgress with
    ⟨other, reached, pending, member⟩ | ofMap
  · refine .inl ⟨other, reached, ?_, pending, member⟩
    rintro rfl
    obtain ⟨shown, present⟩ := pending
    cases present.unique law.distinct ⟨copy, here, waiting⟩
    exact left route member remains
  · exact .inr ofMap

/-- A reply keeps the routes owned when none of the dialogs of its copy is left. -/
theorem StackLaw.reply_routes (law : StackLaw navigator)
    (here : navigator.copies[copy]? = some id)
    (waiting : navigator.screen.taps[copy]? = some ⟨label, point⟩)
    (same : navigator.screen.SameBackground resumed)
    (taps : resumed.taps = NewRequestScreen.advanceTap navigator.screen.taps copy label next)
    {fresh : List RideRoute} {count : Nat}
    (shown : fresh.filter RideRoute.isProgress = onward (.copy id) next)
    (left : ∀ route ∈ point.dialogs (.copy id), route ∉ navigator.routes.drop count)
    (screen : after.screen = resumed)
    (routes : after.routes = fresh ++ navigator.routes.drop count)
    (copies : after.copies = navigator.advanceCopies resumed (.reply copy reply)) :
    (after.routes.filter RideRoute.isProgress).Nodup ∧
      ∀ route ∈ after.routes, route.isProgress = true → after.Waits route := by
  constructor
  · rw [routes, List.filter_append, shown]
    refine List.nodup_append.mpr ⟨onward_nodup _ _, ?_, ?_⟩
    · exact law.once.sublist ((List.drop_sublist count navigator.routes).filter _)
    · rintro first new _ old rfl
      obtain ⟨remains, isProgress⟩ := List.mem_filter.mp old
      obtain ⟨reached, _, member⟩ := mem_onward new
      obtain ⟨barrierDismissible, rfl⟩ := dialogs_progress member
      rcases law.other_waits here waiting left remains isProgress with
        ⟨other, _, apart, _, belongs⟩ | ⟨ofMap, _⟩
      · obtain ⟨_, same⟩ := dialogs_progress belongs
        cases same
        exact apart rfl
      · cases ofMap
  · intro route member isProgress
    rw [routes] at member
    rw [Waits, screen, copies]
    rcases List.mem_append.mp member with new | old
    · have belongs : route ∈ onward (.copy id) next := by
        rw [← shown]
        exact List.mem_filter.mpr ⟨new, isProgress⟩
      obtain ⟨reached, waits, dialog⟩ := mem_onward belongs
      exact .inl ⟨id, reached,
        (pending_advance law here waiting taps).mpr (.inl ⟨rfl, waits⟩), dialog⟩
    · rcases law.other_waits here waiting left old isProgress with
        ⟨other, reached, apart, pending, dialog⟩ | ofMap
      · exact .inl ⟨other, reached,
          (pending_advance law here waiting taps).mpr (.inr ⟨apart, pending⟩), dialog⟩
      · exact .inr ⟨ofMap.1, same.map.trans ofMap.2⟩

/-! ## Steps -/

/-- One move of the ride screen, by what it does to the routes. -/
inductive ScreenMove (before after : RideNavigator RequestId) (changes : List RouteChange) :
    ScreenEvent → Prop where
  | reply {copy id : Nat} {reply : Reply} {label : ButtonLabel} {point : TapPoint}
      {next : Option TapPoint}
      (here : before.copies[copy]? = some id)
      (waiting : before.screen.taps[copy]? = some ⟨label, point⟩)
      (same : before.screen.SameBackground after.screen)
      (taps : after.screen.taps =
        NewRequestScreen.advanceTap before.screen.taps copy label next)
      (performs : Performs before.screen point reply next (.copy id) before.routes
        (after.routes, changes))
      (copies : after.copies = before.advanceCopies after.screen (.reply copy reply))
      (tapped : after.tapped = before.tapped) :
      ScreenMove before after changes (.reply copy reply)
  | draw {current : LatLng}
      (first : before.screen.newRideGoogleMapController = false)
      (controller : after.screen.newRideGoogleMapController = true)
      (map : after.screen.mapDirections = true) (taps : after.screen.taps = before.screen.taps)
      (routes : after.routes = .progress true .map :: before.routes)
      (numbers : after.copies = before.copies ∧ after.tapped = before.tapped)
      (pushed : changes = [.pushed (.progress true .map)]) :
      ScreenMove before after changes (.mapCreated (some current))
  | mapReply {reply : Reply} (waiting : before.screen.mapDirections = true)
      (map : after.screen.mapDirections = false) (taps : after.screen.taps = before.screen.taps)
      (routes : after.routes = before.routes.drop (before.pops (.mapReply reply)))
      (numbers : after.copies = before.copies ∧ after.tapped = before.tapped)
      (popped : changes = [] ∧ before.pops (.mapReply reply) = 0 ∨
        changes = [.popped (some (.progress true .map)) before.routes.head?] ∧
          before.pops (.mapReply reply) = 1) :
      ScreenMove before after changes (.mapReply reply)
  | tap (taps : after.screen.taps = before.screen.taps ++ [⟨before.screen.btnTitle, .clientId⟩])
      (map : after.screen.mapDirections = before.screen.mapDirections)
      (controller : before.screen.newRideGoogleMapController = true →
        after.screen.newRideGoogleMapController = true)
      (routes : after.routes = before.routes)
      (numbers : after.copies = before.copies ++ [before.tapped] ∧
        after.tapped = before.tapped + 1) (unchanged : changes = []) :
      ScreenMove before after changes .tap
  | other {event : ScreenEvent} (unasked : before.dialogs event = [])
      (known : before.loses event = false)
      (taps : after.screen.taps = before.screen.taps)
      (map : after.screen.mapDirections = before.screen.mapDirections)
      (controller : before.screen.newRideGoogleMapController = true →
        after.screen.newRideGoogleMapController = true)
      (routes : after.routes = before.routes)
      (numbers : after.copies = before.copies ∧ after.tapped = before.tapped)
      (unchanged : changes = []) (keeps : before.pops event = 0) :
      ScreenMove before after changes event

theorem step_screen_eq_some {event : ScreenEvent} {changes : List RouteChange}
    (stepped : navigator.step (.screen rideType event) = some (after, changes)) :
    ∃ actions, navigator.screen.step rideType event = some (after.screen, actions) ∧
      (after.routes, changes) =
        perform (navigator.owner event) actions (navigator.meant event) navigator.routes ∧
      after.copies = navigator.advanceCopies after.screen event ∧
      after.tapped = navigator.advanceTapped event := by
  simp only [step] at stepped
  split at stepped
  · split at stepped
    · cases stepped
    · next screen actions reached =>
      cases stepped
      exact ⟨actions, reached, rfl, rfl, rfl⟩
  · cases stepped

private theorem reply_move (law : StackLaw navigator) {changes : List RouteChange}
    (stepped : navigator.step (.screen rideType (.reply copy reply)) = some (after, changes)) :
    ScreenMove navigator after changes (.reply copy reply) := by
  obtain ⟨actions, reached, performed, copies, tapped⟩ := step_screen_eq_some stepped
  simp only [NewRequestScreen.step] at reached
  split at reached
  · cases reached
  · next tap waiting =>
    split at reached
    · cases reached
    · next resumed next emitted resumes =>
      obtain ⟨label, point⟩ := tap
      obtain ⟨id, here⟩ := law.number waiting
      simp only [Option.some.injEq, Prod.mk.injEq] at reached
      obtain ⟨screen, rfl⟩ := reached
      have same := NewRequestScreen.resume_background resumes
      have performs := resume_performs (.copy id) navigator.routes resumes
      have ofCopy : navigator.owner (.reply copy reply) = .copy id := by
        simp [owner, here]
      have meant : navigator.meant (.reply copy reply) = point.dialogs (.copy id) := by
        simp [meant, dialogs, waiting, ofCopy]
      rw [ofCopy, meant] at performed
      rw [← performed] at performs
      refine .reply here waiting ?_ ?_ performs copies tapped
      · rw [← screen]
        exact ⟨same.details, same.mounted, same.controller, same.icon, same.position,
          same.guard, same.map, same.live, same.pending⟩
      · rw [← screen]

theorem step_moves (law : StackLaw navigator) {event : ScreenEvent}
    {changes : List RouteChange}
    (stepped : navigator.step (.screen rideType event) = some (after, changes)) :
    ScreenMove navigator after changes event := by
  obtain ⟨actions, reached, performed, numbers⟩ := step_screen_eq_some stepped
  have moves := NewRequestScreen.step_background reached
  generalize next : after.screen = screen at moves
  cases moves with
  | button ofButton same =>
      cases event with
      | tap =>
          simp only [NewRequestScreen.step] at reached
          split at reached
          · simp only [Option.some.injEq, Prod.mk.injEq] at reached
            obtain ⟨tapped, rfl⟩ := reached
            simp only [perform, Prod.mk.injEq] at performed
            refine .tap ?_ ?_ ?_ performed.1 numbers performed.2
            · rw [← tapped]
            · rw [← tapped]
            · rw [← tapped]
              exact id
          · cases reached
      | reply copy reply => exact reply_move law stepped
      | statusValue value => simp [NewRequestScreen.step, law.unlistened] at reached
      | position | mapCreated | mapReply | rideDetailsReply | iconLoaded | unmount => cases ofButton
  | draw mounted first =>
      simp only [NewRequestScreen.getPlaceDirection, perform, Prod.mk.injEq] at performed
      exact .draw first (by rw [next]) (by rw [next]) (by rw [next]) performed.1 numbers
        performed.2
  | @drawn details waiting mounted =>
      have one : navigator.pops (.mapReply (.directions details)) = 1 := by
        simp [pops, mounted]
      simp only [perform, Prod.mk.injEq] at performed
      refine .mapReply waiting (by rw [next]) (by rw [next]) ?_ numbers (.inr ⟨performed.2, one⟩)
      rw [one, List.drop_one]
      exact performed.1
  | @undrawn reply waiting failed =>
      have keeps : navigator.pops (.mapReply reply) = 0 := by
        rcases failed with rfl | gone
        · rfl
        · cases reply <;> simp [pops, gone]
      simp only [perform, Prod.mk.injEq] at performed
      refine .mapReply waiting (by rw [next]) (by rw [next]) ?_ numbers
        (.inl ⟨performed.2, keeps⟩)
      rw [keeps]
      exact performed.1
  | request | skip | lost | create | recreate | release | stick | loadIcon | unmount =>
      simp only [perform, Prod.mk.injEq] at performed
      exact .other rfl rfl (by rw [next]) (by rw [next]) (by rw [next]; simp) performed.1 numbers
        performed.2 rfl

section Balance

variable {event : ScreenEvent} {changes : List RouteChange}

theorem pops_of_reply {reply : Reply}
    (waiting : navigator.screen.taps[copy]? = some ⟨label, point⟩) :
    navigator.pops (.reply copy reply) = tapPops navigator.screen point reply := by
  simp [pops, waiting]

theorem dialogs_of_reply {reply : Reply} (here : navigator.copies[copy]? = some id)
    (waiting : navigator.screen.taps[copy]? = some ⟨label, point⟩) :
    navigator.dialogs (.reply copy reply) = point.dialogs (.copy id) := by
  simp [dialogs, waiting, owner, here]

/-- The pops of a step remove what they are meant for exactly when it is on top. -/
theorem ScreenMove.matched_iff (moves : ScreenMove navigator after changes event) :
    (∀ change ∈ changes, change.Matched) ↔
      navigator.routes.take (navigator.pops event) =
        (navigator.dialogs event).take (navigator.pops event) := by
  cases moves with
  | reply here waiting same taps performs copies tapped =>
      rw [pops_of_reply waiting, dialogs_of_reply here waiting]
      exact performs.matched
  | draw first controller map taps routes numbers pushed =>
      simp [pushed, RouteChange.Matched, pops]
  | mapReply waiting map taps routes numbers popped =>
      rcases popped with ⟨none, keeps⟩ | ⟨one, pops⟩
      · simp [none, keeps]
      · rw [one, pops]
        simp [dialogs, RouteChange.Matched, take_one_eq]
  | tap taps map controller routes numbers unchanged => simp [unchanged, pops]
  | other unasked known taps map controller routes numbers unchanged keeps =>
      simp [unchanged, keeps]

/-- A step of the screen that pops what it is meant to leaves the ride screen there. -/
theorem ScreenMove.keepsScreen (moves : ScreenMove navigator after changes event)
    (matched : ∀ change ∈ changes, change.Matched) {change : RouteChange}
    (member : change ∈ changes) : change.removed? ≠ some .newRequestScreen := by
  cases moves with
  | reply here waiting same taps performs copies tapped =>
      have onTop := matched change member
      cases change with
      | pushed route => simp [RouteChange.removed?]
      | popped meant removed =>
          obtain ⟨route, dialog, same⟩ := performs.meant meant removed member
          obtain ⟨_, rfl⟩ := dialogs_progress dialog
          rw [RouteChange.removed?, show removed = meant from onTop, same]
          simp
      | dismissed route => exact (performs.undismissed route member).elim
  | draw first controller map taps routes numbers pushed =>
      rw [pushed, List.mem_singleton] at member
      subst member
      simp [RouteChange.removed?]
  | mapReply waiting map taps routes numbers pops =>
      have onTop := matched change member
      rcases pops with ⟨none, _⟩ | ⟨one, _⟩
      · rw [none] at member
        cases member
      · rw [one, List.mem_singleton] at member
        subst member
        rw [RouteChange.removed?, show navigator.routes.head? = _ from onTop]
        simp
  | tap taps map controller routes numbers unchanged =>
      rw [unchanged] at member
      cases member
  | other unasked known taps map controller routes numbers unchanged keeps =>
      rw [unchanged] at member
      cases member

/-- A call leaves none of its dialogs behind. -/
def LeavesNone (navigator : RideNavigator RequestId) (event : ScreenEvent) : Prop :=
  ∀ route ∈ navigator.dialogs event, route ∉ navigator.routes.drop (navigator.pops event)

/-- Fewer routes over the same calls. -/
private theorem StackLaw.frame (law : StackLaw navigator)
    (taps : after.screen.taps = navigator.screen.taps)
    (map : after.screen.mapDirections = navigator.screen.mapDirections)
    (controller : navigator.screen.newRideGoogleMapController = true →
      after.screen.newRideGoogleMapController = true)
    (unlistened : after.screen.rideStreamSubscription = false)
    (numbers : after.copies = navigator.copies ∧ after.tapped = navigator.tapped)
    (routes : after.routes.Sublist navigator.routes) : StackLaw after := by
  refine ⟨?_, ?_, ?_, unlistened, ?_, ?_, ?_⟩
  · rw [numbers.1, taps]
    exact law.aligned
  · rw [numbers.1]
    exact law.distinct
  · rw [numbers.1, numbers.2]
    exact law.numbered
  · rw [map]
    exact fun waiting => controller (law.created waiting)
  · exact law.once.sublist (routes.filter _)
  · intro route member isProgress
    rw [Waits, numbers.1, taps, map]
    exact law.owned route (routes.subset member) isProgress

private theorem StackLaw.tap_step (law : StackLaw navigator) {tap : Tap}
    (taps : after.screen.taps = navigator.screen.taps ++ [tap])
    (map : after.screen.mapDirections = navigator.screen.mapDirections)
    (controller : navigator.screen.newRideGoogleMapController = true →
      after.screen.newRideGoogleMapController = true)
    (unlistened : after.screen.rideStreamSubscription = false)
    (routes : after.routes = navigator.routes)
    (numbers : after.copies = navigator.copies ++ [navigator.tapped] ∧
      after.tapped = navigator.tapped + 1) : StackLaw after := by
  refine ⟨?_, ?_, ?_, unlistened, ?_, ?_, ?_⟩
  · simp [numbers.1, taps, law.aligned]
  · rw [numbers.1]
    refine List.nodup_append.mpr ⟨law.distinct, by simp, ?_⟩
    intro id member new last
    have older := law.numbered id member
    rw [List.mem_singleton.mp last]
    exact older.ne
  · rw [numbers.1, numbers.2]
    intro id member
    rcases List.mem_append.mp member with old | new
    · exact (law.numbered id old).trans (Nat.lt_succ_self _)
    · rw [List.mem_singleton.mp new]
      exact Nat.lt_succ_self _
  · rw [map]
    exact fun waiting => controller (law.created waiting)
  · rw [routes]
    exact law.once
  · intro route member isProgress
    rw [routes] at member
    rw [Waits, numbers.1, taps, map]
    rcases law.owned route member isProgress with ⟨id, point, ⟨label, pending⟩, dialog⟩ | ofMap
    · exact .inl ⟨id, point, ⟨label, pending.append _ _⟩, dialog⟩
    · exact .inr ofMap

private theorem StackLaw.reply_step (law : StackLaw navigator) {reply : Reply}
    (here : navigator.copies[copy]? = some id)
    (waiting : navigator.screen.taps[copy]? = some ⟨label, point⟩)
    (same : navigator.screen.SameBackground after.screen)
    (taps : after.screen.taps =
      NewRequestScreen.advanceTap navigator.screen.taps copy label next)
    (performs : Performs navigator.screen point reply next (.copy id) navigator.routes
      (after.routes, changes))
    (copies : after.copies = navigator.advanceCopies after.screen (.reply copy reply))
    (tapped : after.tapped = navigator.tapped)
    (unlistened : after.screen.rideStreamSubscription = false)
    (left : navigator.LeavesNone (.reply copy reply))
    (known : navigator.loses (.reply copy reply) = false) : StackLaw after := by
  obtain ⟨inside, _⟩ := List.getElem?_eq_some_iff.mp waiting
  have numbers := copies.trans (advanceCopies_reply inside taps)
  have numbered : copy < navigator.copies.length := law.aligned ▸ inside
  obtain ⟨fresh, routes, shown, _⟩ := performs.changed
  have none : ∀ route ∈ point.dialogs (.copy id),
      route ∉ navigator.routes.drop (tapPops navigator.screen point reply) := by
    have dialogs : navigator.dialogs (.reply copy reply) = point.dialogs (.copy id) :=
      dialogs_of_reply here waiting
    rw [← dialogs, ← pops_of_reply waiting]
    exact left
  have finds : tapLoses navigator.screen point reply = false := by
    simpa [loses, waiting] using known
  obtain ⟨once, owned⟩ := law.reply_routes here waiting same taps (shown finds) none rfl routes
    copies
  refine ⟨?_, ?_, ?_, unlistened, ?_, once, owned⟩
  · rw [numbers, taps]
    cases next with
    | none =>
        simp [NewRequestScreen.advanceTap, List.length_eraseIdx_of_lt inside,
          List.length_eraseIdx_of_lt numbered, law.aligned]
    | some reached => simp [NewRequestScreen.advanceTap, law.aligned]
  · rw [numbers]
    split
    · exact law.distinct.sublist (List.eraseIdx_sublist ..)
    · exact law.distinct
  · rw [numbers, tapped]
    intro number member
    apply law.numbered
    split at member
    · exact List.mem_of_mem_eraseIdx member
    · exact member
  · rw [same.map, same.controller]
    exact law.created

private theorem StackLaw.draw_step (law : StackLaw navigator)
    (first : navigator.screen.newRideGoogleMapController = false)
    (controller : after.screen.newRideGoogleMapController = true)
    (map : after.screen.mapDirections = true) (taps : after.screen.taps = navigator.screen.taps)
    (routes : after.routes = .progress true .map :: navigator.routes)
    (numbers : after.copies = navigator.copies ∧ after.tapped = navigator.tapped)
    (unlistened : after.screen.rideStreamSubscription = false) : StackLaw after := by
  have undrawn : navigator.screen.mapDirections ≠ true := by
    intro waiting
    rw [law.created waiting] at first
    cases first
  refine ⟨?_, ?_, ?_, unlistened, fun _ => controller, ?_, ?_⟩
  · rw [numbers.1, taps]
    exact law.aligned
  · rw [numbers.1]
    exact law.distinct
  · rw [numbers.1, numbers.2]
    exact law.numbered
  · rw [routes, List.filter_cons_of_pos rfl, List.nodup_cons]
    refine ⟨?_, law.once⟩
    intro member
    rcases law.owned _ (List.mem_filter.mp member).1 rfl with ⟨_, _, _, dialog⟩ | ⟨_, waiting⟩
    · obtain ⟨_, same⟩ := dialogs_progress dialog
      cases same
    · exact undrawn waiting
  · intro route member isProgress
    rw [routes] at member
    rw [Waits, numbers.1, taps, map]
    rcases List.mem_cons.mp member with rfl | old
    · exact .inr ⟨rfl, rfl⟩
    · rcases law.owned route old isProgress with ofCopy | ⟨ofMap, _⟩
      · exact .inl ofCopy
      · exact .inr ⟨ofMap, rfl⟩

private theorem StackLaw.mapReply_step (law : StackLaw navigator) {reply : Reply}
    (map : after.screen.mapDirections = false)
    (taps : after.screen.taps = navigator.screen.taps)
    (routes : after.routes = navigator.routes.drop (navigator.pops (.mapReply reply)))
    (numbers : after.copies = navigator.copies ∧ after.tapped = navigator.tapped)
    (unlistened : after.screen.rideStreamSubscription = false)
    (left : navigator.LeavesNone (.mapReply reply)) : StackLaw after := by
  refine ⟨?_, ?_, ?_, unlistened, ?_, ?_, ?_⟩
  · rw [numbers.1, taps]
    exact law.aligned
  · rw [numbers.1]
    exact law.distinct
  · rw [numbers.1, numbers.2]
    exact law.numbered
  · rw [map]
    exact fun drawing => absurd drawing (by decide)
  · rw [routes]
    exact law.once.sublist ((List.drop_sublist _ _).filter _)
  · intro route member isProgress
    rw [routes] at member
    rw [Waits, numbers.1, taps]
    rcases law.owned route (List.mem_of_mem_drop member) isProgress with ofCopy | ⟨rfl, _⟩
    · exact .inl ofCopy
    · exact (left _ (List.mem_singleton.mpr rfl) member).elim

theorem StackLaw.screen_step (law : StackLaw navigator)
    (stepped : navigator.step (.screen rideType event) = some (after, changes))
    (left : navigator.LeavesNone event) (known : navigator.loses event = false) :
    StackLaw after := by
  obtain ⟨actions, reached, _⟩ := step_screen_eq_some stepped
  have unlistened := (NewRequestScreen.step_moves reached).keeps.unlistened law.unlistened
  cases step_moves law stepped with
  | reply here waiting same taps performs copies tapped =>
      exact law.reply_step here waiting same taps performs copies tapped unlistened left known
  | draw first controller map taps routes numbers pushed =>
      exact law.draw_step first controller map taps routes numbers unlistened
  | mapReply waiting map taps routes numbers popped =>
      exact law.mapReply_step map taps routes numbers unlistened left
  | tap taps map controller routes numbers unchanged =>
      exact law.tap_step taps map controller unlistened routes numbers
  | other unasked known taps map controller routes numbers unchanged keeps =>
      exact law.frame taps map controller unlistened numbers (by rw [routes])

/-- What is left on the routes after a step has a call that removes it only if the call
that ended left nothing. -/
theorem leavesNone_of_owned (law : StackLaw navigator)
    (stepped : navigator.step (.screen rideType event) = some (after, changes))
    (owned : ∀ route ∈ after.routes, route.isProgress = true → after.Waits route) :
    navigator.LeavesNone event ∧ navigator.loses event = false := by
  cases step_moves law stepped with
  | @reply copy id reply label point next here waiting same taps performs copies tapped =>
      obtain ⟨fresh, routes, _, lost⟩ := performs.changed
      have waits : ∀ {route}, route ∈ after.routes → ∀ {barrierDismissible},
          route = .progress barrierDismissible (.copy id) →
          ∃ reached, next = some reached ∧ route ∈ reached.dialogs (.copy id) := by
        rintro _ member barrierDismissible rfl
        rcases owned _ member rfl with ⟨other, reached, pending, dialog⟩ | ⟨ofMap, _⟩
        · obtain ⟨_, ofOther⟩ := dialogs_progress dialog
          cases ofOther
          rw [copies] at pending
          rcases (pending_advance law here waiting taps).mp pending with ⟨_, onward⟩ | ⟨apart, _⟩
          · exact ⟨reached, onward, dialog⟩
          · exact (apart rfl).elim
        · cases ofMap
      constructor
      · rw [LeavesNone, dialogs_of_reply here waiting, pops_of_reply waiting]
        intro route dialog remains
        obtain ⟨_, ofCopy⟩ := dialogs_progress dialog
        have member : route ∈ after.routes := by
          rw [show after.routes = _ from routes]
          exact List.mem_append_right _ remains
        obtain ⟨reached, rfl, later⟩ := waits member ofCopy
        rcases performs.ends with none | none
        · rw [none] at dialog
          cases dialog
        · rw [show reached.dialogs (.copy id) = [] from none] at later
          cases later
      · cases loses : tapLoses navigator.screen point reply with
        | false => simpa [RideNavigator.loses, waiting] using loses
        | true =>
            obtain ⟨rfl, rfl⟩ := lost loses
            have member : .progress false (.copy id) ∈ after.routes := by
              rw [show after.routes = _ from routes]
              exact List.mem_append_left _ (List.mem_singleton.mpr rfl)
            obtain ⟨_, onward, _⟩ := waits member rfl
            cases onward
  | mapReply waiting map taps routes numbers popped =>
      refine ⟨?_, rfl⟩
      intro route dialog remains
      rw [← routes] at remains
      cases List.mem_singleton.mp dialog
      rcases owned _ remains rfl with ⟨_, _, _, ofCopy⟩ | ⟨_, drawing⟩
      · obtain ⟨_, same⟩ := dialogs_progress ofCopy
        cases same
      · rw [map] at drawing
        cases drawing
  | draw first controller map taps routes numbers pushed => exact ⟨by simp [LeavesNone, dialogs], rfl⟩
  | tap taps map controller routes numbers unchanged => exact ⟨by simp [LeavesNone, dialogs], rfl⟩
  | other unasked known taps map controller routes numbers unchanged keeps =>
      exact ⟨by simp [LeavesNone, unasked], known⟩

end Balance

/-! ## Runs -/

section Runs

variable {trace : List (NavigatorEvent × List RouteChange)} {event : NavigatorEvent}
  {changes : List RouteChange}

/-- The routes stay owned as long as the run was in order. -/
structure BalanceLaw (trace : List (NavigatorEvent × List RouteChange))
    (navigator : RideNavigator RequestId) : Prop where
  stack : StackLaw navigator
  balanced : Balanced trace navigator

private theorem step_law (law : StackLaw navigator) (ordered : InOrder trace navigator event)
    (stepped : navigator.step event = some (after, changes)) :
    StackLaw after ∧ (∀ change ∈ changes, change.Matched) ∧
      ∀ change ∈ changes, change.removed? = some .newRequestScreen → event.leaves = true := by
  cases event with
  | screen rideType event =>
      obtain ⟨onTop, left, known⟩ := ordered
      have moves := step_moves law stepped
      have matched := moves.matched_iff.mpr onTop
      refine ⟨law.screen_step stepped left known, matched, ?_⟩
      intro change member removed
      exact (moves.keepsScreen matched member removed).elim
  | dismiss =>
      simp only [step] at stepped
      split at stepped
      · next owner below top =>
        cases stepped
        refine ⟨law.frame rfl rfl id law.unlistened ⟨rfl, rfl⟩ ?_, by simp [RouteChange.Matched],
          by simp [RouteChange.removed?]⟩
        rw [top]
        exact List.sublist_cons_self ..
      · cases stepped
  | back =>
      simp only [step] at stepped
      split at stepped
      · cases stepped
      · cases stepped
      · next route below _ top =>
        cases stepped
        have other : some route ≠ some .newRequestScreen := by
          simpa [InOrder, top] using ordered
        refine ⟨law.frame rfl rfl id law.unlistened ⟨rfl, rfl⟩ ?_, by simp [RouteChange.Matched],
          ?_⟩
        · rw [top]
          exact List.sublist_cons_self ..
        · intro change member removed
          cases List.mem_singleton.mp member
          exact (other removed).elim
  | done =>
      simp only [step] at stepped
      split at stepped
      · next below top =>
        cases stepped
        have under : below.head? = some .newRequestScreen := by
          simpa [InOrder, top] using ordered
        refine ⟨law.frame rfl rfl id law.unlistened ⟨rfl, rfl⟩ ?_,
          by simp [RouteChange.Matched, under], fun _ _ _ => rfl⟩
        rw [top]
        exact (List.tail_sublist below).trans (List.sublist_cons_self ..)
      · cases stepped

private theorem inOrder_of_balanced (law : StackLaw navigator)
    (stepped : navigator.step event = some (after, changes))
    (balanced : Balanced (trace ++ [(event, changes)]) after) : InOrder trace navigator event := by
  have matched := balanced.matched (event, changes) (by simp)
  cases event with
  | screen rideType event =>
      obtain ⟨left, known⟩ := leavesNone_of_owned law stepped balanced.owned
      exact ⟨(step_moves law stepped).matched_iff.mp matched, left, known⟩
  | dismiss => trivial
  | back =>
      simp only [step] at stepped
      split at stepped
      · cases stepped
      · cases stepped
      · next route below _ top =>
        cases stepped
        rw [InOrder, top]
        intro leaves
        have left := balanced.leaves (.back, [.dismissed route]) (by simp) (.dismissed route)
          (by simp) leaves
        cases left
  | done =>
      simp only [step] at stepped
      split at stepped
      · next below top =>
        cases stepped
        have under : below.head? = some .newRequestScreen := by
          simpa [RouteChange.Matched] using matched
        rw [InOrder, top]
        exact under
      · cases stepped

/-- The navigator stack of a ride is balanced at every point of a run exactly when
dialogs are removed in the order they were shown. -/
theorem balanced_iff_inOrder (details : ClientDetails RequestId)
    {last : RideNavigator RequestId} {events : List NavigatorEvent}
    (run : exec component { screen := { clientDetails := details } } events =
      some (last, changes)) :
    Always (traced component) Balanced [] { screen := { clientDetails := details } } events ↔
      Meets (traced component) InOrder [] { screen := { clientDetails := details } } events := by
  obtain ⟨trace, traces, _⟩ := exec_traced run
  have all : ∀ event ∈ events, True := fun _ _ => trivial
  have start := StackLaw.initial details
  apply always_iff_meets BalanceLaw Balanced _ _ _ ⟨start, by simp, start.owned, by simp⟩ all
    traces
  · intro trace navigator law
    exact law.balanced
  · intro trace navigator event next entries law _ ordered traced
    obtain ⟨changes, stepped, rfl⟩ := traced_eq_some.mp traced
    obtain ⟨stack, matched, leaves⟩ := step_law law.stack ordered stepped
    refine ⟨stack, ?_, stack.owned, ?_⟩
    · intro entry member
      rcases List.mem_append.mp member with old | new
      · exact law.balanced.matched entry old
      · cases List.mem_singleton.mp new
        exact matched
    · intro entry member
      rcases List.mem_append.mp member with old | new
      · exact law.balanced.leaves entry old
      · cases List.mem_singleton.mp new
        exact leaves
  · intro trace navigator event next entries law _ traced balanced
    obtain ⟨changes, stepped, rfl⟩ := traced_eq_some.mp traced
    exact inOrder_of_balanced law.stack stepped balanced

/-- When no call waits for directions, a balanced stack has no progress dialog left. -/
theorem Balanced.settled (balanced : Balanced trace navigator)
    (quiet : ∀ tap ∈ navigator.screen.taps, ∀ owner, tap.point.dialogs owner = [])
    (drawn : navigator.screen.mapDirections = false) :
    ∀ route ∈ navigator.routes, route.isProgress = false := by
  intro route member
  rw [Bool.eq_false_iff]
  intro isProgress
  rcases balanced.owned route member isProgress with ⟨id, point, ⟨label, index, _, waiting⟩, dialog⟩
    | ⟨_, drawing⟩
  · have none := quiet _ (List.mem_of_getElem? waiting) (.copy id)
    rw [show point.dialogs (.copy id) = [] from none] at dialog
    cases dialog
  · rw [drawn] at drawing
    cases drawing

end Runs

end RideNavigator

def onScreen (events : List ScreenEvent) : List NavigatorEvent :=
  events.map (.screen "Rev-x")

theorem balanced_sampleRide :
    ∃ navigator changes,
      exec RideNavigator.component { screen := { clientDetails := sampleDetails } }
        (onScreen (rideToEndTrip ++ endTripTap sampleDirections) ++ [.done]) =
          some (navigator, changes) ∧
      navigator.routes = [.home] ∧
      Always (traced RideNavigator.component) RideNavigator.Balanced []
        { screen := { clientDetails := sampleDetails } }
        (onScreen (rideToEndTrip ++ endTripTap sampleDirections) ++ [.done]) := by
  have ends : (exec RideNavigator.component { screen := { clientDetails := sampleDetails } }
      (onScreen (rideToEndTrip ++ endTripTap sampleDirections) ++ [.done])).map
        (fun result => decide (result.1.routes = [.home])) = some true := by
    decide +kernel
  obtain ⟨⟨navigator, changes⟩, run, left⟩ := Option.map_eq_some_iff.mp ends
  have ordered : Meets (traced RideNavigator.component) RideNavigator.InOrder []
      { screen := { clientDetails := sampleDetails } }
      (onScreen (rideToEndTrip ++ endTripTap sampleDirections) ++ [.done]) := by
    decide +kernel
  exact ⟨navigator, changes, run, of_decide_eq_true left,
    (RideNavigator.balanced_iff_inOrder sampleDetails run).mpr ordered⟩

/-- The dialog of the first route, dismissed while the directions are on their way. -/
def dismissedRoute : List NavigatorEvent :=
  [.screen "Rev-x" (.mapCreated (some ⟨5, 1⟩)), .dismiss,
    .screen "Rev-x" (.mapReply (.directions (some sampleDirections)))]

/-- The pop meant for it removes the ride screen. -/
theorem not_balanced_of_dismissal :
    ¬ ∀ (details : ClientDetails String) (events : List NavigatorEvent)
        (navigator : RideNavigator String) (changes : List RouteChange),
      exec RideNavigator.component { screen := { clientDetails := details } } events =
        some (navigator, changes) →
      Always (traced RideNavigator.component) RideNavigator.Balanced []
        { screen := { clientDetails := details } } events := by
  intro balanced
  have ends : (exec (traced RideNavigator.component)
      { screen := { clientDetails := sampleDetails } } dismissedRoute).map
        (fun result => decide (∃ entry ∈ result.2,
          RouteChange.popped (some (.progress true .map)) (some .newRequestScreen) ∈ entry.2)) =
          some true := by
    decide +kernel
  have runs : (exec RideNavigator.component { screen := { clientDetails := sampleDetails } }
      dismissedRoute).isSome = true := by
    decide +kernel
  obtain ⟨⟨navigator, changes⟩, run⟩ := Option.isSome_iff_exists.mp runs
  obtain ⟨trace, traces, _⟩ := exec_traced run
  rw [traces, Option.map_some, Option.some.injEq, decide_eq_true_eq] at ends
  obtain ⟨entry, member, popped⟩ := ends
  have last := (balanced _ _ navigator changes run).last traces
  cases last.matched entry member _ popped

end FilldRider
