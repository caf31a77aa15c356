import FilldRider.NewRequestScreen.TapOnce
import FilldRider.NewRequestScreen.StageProgress
import FilldRider.NewRequestScreen.StageFailure
import FilldRider.Notification.AcceptTaps
import FilldRider.Notification.Push
import FilldRider.App.Offers
import FilldRider.App.Earnings
import FilldRider.App.Cancellation
import FilldRider.App.Acceptance
import FilldRider.App.Restoration
import FilldRider.App.Marks
import FilldRider.App.Departure
import FilldRider.Session.OwnSubtree
import FilldRider.Models.Profile
import FilldRider.History.Duplicates
import FilldRider.History.Attribution
import FilldRider.History.NextRider
import FilldRider.Notification.Tokens
import FilldRider.Account.Login
import FilldRider.Account.Deletion
import FilldRider.Account.Completion
import FilldRider.Home.Stream
import FilldRider.NewRequestScreen.RideDetails
import FilldRider.NewRequestScreen.Legs
import FilldRider.NewRequestScreen.Balance
import FilldRider.Models.FareLaws
import FilldRider.App.Classes
import FilldRider.NewRequestScreen.Bounds
import FilldRider.NewRequestScreen.OverlayIds
import FilldRider.NewRequestScreen.MapRuns
import FilldRider.Notification.Requests
import FilldRider.Account.Draft
import FilldRider.Account.Drivers
import FilldRider.Account.Support
import FilldRider.Account.Locating
import FilldRider.NewRequestScreen.MessageCounts
import FilldRider.History.Rides
import FilldRider.Guest.Riders
import FilldRider.Account.MainPage
import FilldRider.App.Return
import FilldRider.App.Provenance
import FilldRider.App.Service
import FilldRider.App.Work
import FilldRider.App.Positions
import FilldRider.App.Rides
import FilldRider.App.LedgerRuns
