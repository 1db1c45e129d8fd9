import RideService.Db.Types
import RideService.Db.Accounts
import RideService.Trips.Clock
import RideService.Trips.Model
import RideService.Trips.Service
import RideService.Trips.Ledger
import RideService.Trips.Lifecycle
import RideService.Trips.EndRace
import RideService.Trips.Events
import RideService.Trips.Handler
import RideService.Geo.Index
import RideService.Tracking.Hub
import RideService.Tracking.Subscribers
import RideService.Tracking.Refinement
import RideService.Tracking.Isolation
import RideService.Tracking.Snapshot
import RideService.Users.Accounts
import RideService.Http.Routes
import RideService.Http.Validation
import RideService.Drivers.Accounts
import RideService.Db.Migrations
import RideService.System.Step
import RideService.System.LiveTracking
import RideService.System.Authentication
import RideService.System.Moves
import RideService.System.Delivery
import RideService.System.Completion
import RideService.System.Matching
import RideService.System.Riders
import RideService.System.Ride
import RideService.System.Assignment
import RideService.System.Booking
