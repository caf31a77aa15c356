import FilldRider.NewRequestScreen.Background

/-!
# The position stream of a ride

`getRideLiveLocationUpdates` listens once the route is drawn. It drops the subscription,
so nothing on the screen cancels it.
-/

set_option autoImplicit false

namespace FilldRider

namespace NewRequestScreen

variable {RequestId : Type} {rideType : String} {screen next : NewRequestScreen RequestId}

/-- Only a drawn route starts the live updates of a ride. -/
def startsLiveLocation (screen : NewRequestScreen RequestId) : ScreenEvent → Bool
  | .mapReply (.directions details) => screen.mounted && screen.drawsRoute details
  | _ => false

theorem step_liveLocation {event : ScreenEvent} {actions : List ScreenAction}
    (off : screen.liveLocation = false)
    (stepped : screen.step rideType event = some (next, actions)) :
    next.liveLocation = screen.startsLiveLocation event := by
  cases step_background stepped with
  | button ofButton same =>
      rw [same.live, off]
      cases event <;> first | rfl | cases ofButton
  | drawn waiting mounted => rw [startsLiveLocation, mounted, Bool.true_and]
  | undrawn waiting failed =>
      rcases failed with rfl | gone
      · exact off
      · unfold startsLiveLocation
        split
        · rw [gone, Bool.false_and]
          exact off
        · exact off
  | request | skip | lost | draw | create | recreate | release | stick | loadIcon | unmount =>
      exact off

end NewRequestScreen

end FilldRider
