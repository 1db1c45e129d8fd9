import Mathlib.Data.Rat.Floor
import Mathlib.Logic.Function.Basic
import RideService.Db.Types
import RideService.Trips.Clock

/-!
# Trips, their status, and the event envelopes

The row of the `trips` table (`migrations/V3_create_trips.sql`) as `trips.Trip`
(`internal/trips/model.go`) carries it, the six status strings, the request body of
`POST /trips/request`, and the three event envelopes of `internal/events/events.go`.

**Numbers.** A `float64` coordinate or distance is an exact rational, and the fare is
`50 + 12·km` computed exactly: the `float64` product and sum differ from it in the last
binary digits only, and the model leaves that rounding out.

**Clocks.** A `time.Time` is a reading in nanoseconds, a `TIMESTAMPTZ` column its
microseconds, and an event's time its RFC 3339 text (`RideService.Trips.Clock`).

**Identifiers.** The code passes ids as Go strings (`TripId`, `UserId`, `DriverId`): path
parameters, claims, Redis members and the events' fields. The tables store and compare them as
`uuid`s, read from the string by `uuid_in` (`RideService.Db.Types`), so every spelling of an
id names one row, and a string that is no `uuid` fails the statement. The table is keyed by
the trip's `uuid`, so the row itself does not repeat it.
-/

namespace RideService

/-- A trip id as the code passes it. -/
abbrev TripId := String
/-- A rider's id as the code passes it: the `user_id` of a JWT. -/
abbrev UserId := String
/-- A driver's id as the code passes it, also a member of the geo set `driver:locations`. -/
abbrev DriverId := String

/-- The status strings of `internal/trips/model.go:6`. Nothing in the code ever writes
`MATCHING` or `CANCELLED`; `AssignDriver` still accepts `MATCHING` as a pre-state. -/
inductive TripStatus
  | requested
  | matching
  | driverAssigned
  | started
  | completed
  | cancelled
  deriving DecidableEq, Repr

/-- A row of `trips` (`internal/trips/model.go:16`): the nullable columns are `Option`s, and
the four times are `TIMESTAMPTZ` microseconds. -/
structure Trip where
  riderId : Uuid
  driverId : Option Uuid
  pickupLat : ℚ
  pickupLng : ℚ
  dropLat : ℚ
  dropLng : ℚ
  fare : Option ℚ
  status : TripStatus
  requestedAt : Option Nat
  startedAt : Option Nat
  completedAt : Option Nat
  createdAt : Nat
  deriving DecidableEq, Repr

/-- The body of `POST /trips/request` (`internal/trips/model.go:34`). -/
structure TripRequest where
  pickupLat : ℚ
  pickupLng : ℚ
  dropLat : ℚ
  dropLng : ℚ
  deriving DecidableEq, Repr

/-- `events.LatLng`. -/
structure LatLng where
  lat : ℚ
  lng : ℚ
  deriving DecidableEq, Repr

/-- `events.RideRequestedEvent`, published to `ride.requested`. -/
structure RideRequestedEvent where
  tripId : TripId
  riderId : UserId
  pickup : LatLng
  drop : LatLng
  requestedAt : String
  deriving DecidableEq, Repr

/-- `events.DriverAssignedEvent`, published to `driver.assigned`. -/
structure DriverAssignedEvent where
  tripId : TripId
  driverId : DriverId
  deriving DecidableEq, Repr

/-- `events.TripCompletedEvent`, published to `trip.completed`. `driverId` is the empty
string when the trip End read had no driver. -/
structure TripCompletedEvent where
  tripId : TripId
  driverId : DriverId
  riderId : UserId
  fare : ℚ
  completedAt : String
  durationSeconds : Int
  deriving DecidableEq, Repr

/-- The `trips` table, keyed by the trip's `uuid`. -/
abbrev Trips := Uuid → Option Trip

/-- The lifecycle `REQUESTED → DRIVER_ASSIGNED → STARTED → COMPLETED`, one state at a
time: `Advances a b` when `b` is the state right after `a`. -/
def Advances (a b : TripStatus) : Prop :=
  (a = .requested ∧ b = .driverAssigned) ∨ (a = .driverAssigned ∧ b = .started) ∨
    (a = .started ∧ b = .completed)

instance (a b : TripStatus) : Decidable (Advances a b) :=
  inferInstanceAs (Decidable (_ ∨ _ ∨ _))

/-- The statuses that carry a driver. -/
def TripStatus.hasDriver : TripStatus → Bool
  | .driverAssigned | .started | .completed => true
  | _ => false

/-- The statuses after `Start`. -/
def TripStatus.hasStarted : TripStatus → Bool
  | .started | .completed => true
  | _ => false

/-- A row whose nullable columns agree with its status: `driver_id` is set from
`DRIVER_ASSIGNED` on, `started_at` from `STARTED` on, `fare` and `completed_at` exactly at
`COMPLETED`; and the status is one of the lifecycle's four. -/
structure Trip.Agrees (r : Trip) : Prop where
  onPath : r.status ≠ .matching ∧ r.status ≠ .cancelled
  driver : r.driverId.isSome = r.status.hasDriver
  started : r.startedAt.isSome = r.status.hasStarted
  fare : r.fare.isSome = decide (r.status = .completed)
  completed : r.completedAt.isSome = decide (r.status = .completed)

end RideService
