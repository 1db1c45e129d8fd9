import RideService.Trips.Model
import RideService.Users.Accounts
import RideService.Drivers.Accounts

/-!
# The HTTP surface: `OptionalAuth`, `RequireAuth` and the routes that change state

The router of `main` (`src/unnamed/part_004:200`) runs `jwt.OptionalAuth` on every request:
a valid `Bearer` token puts its claims in the request's context. The `/trips` routes and the
protected `/drivers` and `/users` routes sit behind `jwt.RequireAuth`, which answers `401`
when there are no claims; the register and login routes of `/users` and `/drivers` and
`/ws/trips/{id}` do not. The routes that change state are modelled: the two register routes,
`POST /trips/request`, the three `PATCH /trips/{id}/…` transitions,
`PATCH /drivers/{id}/location` and the WebSocket upgrade; and the two login routes, which
only read. The `GET` routes read and change nothing, and are left out.

A request's body is its decoded value: a body that does not decode is answered `400`
before any handler runs, and changes nothing. Checking a token's signature and expiry is
the parameter `validate`, the `jwt.Validate` of the process's secret.
-/

namespace RideService.Http

open RideService

/-- The payload of a JWT (`part_001:95`). -/
structure Claims where
  userId : UserId
  email : String
  role : String
  deriving DecidableEq, Repr

/-- `jwt.OptionalAuth` (`part_001:154`): the claims of the `Authorization` header when it
is `Bearer ` followed by a token `validate` accepts. The prefix is ASCII, so its seven bytes
are its seven characters. -/
def optionalAuth (validate : String → Option Claims) (authorization : String) : Option Claims :=
  if authorization.toList.take 7 = "Bearer ".toList then
    validate (String.mk (authorization.toList.drop 7))
  else none

/-- `jwt.RequireAuth` (`part_001:166`): the handler runs on the claims, or the request is
answered `401 {"error":"unauthorized"}` and `reject` stands. -/
def requireAuth {α : Type} (claims : Option Claims) (reject : α) (next : Claims → α) : α :=
  match claims with
  | some c => next c
  | none => reject

/-- `validation.ValidateCoordinates` (`part_000:32`). -/
def validateCoordinates (lat lng : ℚ) : Bool :=
  decide (-90 ≤ lat ∧ lat ≤ 90 ∧ -180 ≤ lng ∧ lng ≤ 180)

/-- A request to a route, with its decoded body and the values its handler draws
(`uuid.New()`, bcrypt's salt, `time.Now()`, whether a query fails or Redis answers). -/
inductive Route
  /-- `POST /users/register`; `emailFails` and `phoneFails` are whether its two
  `SELECT EXISTS` queries fail. -/
  | userRegister (req : Users.RegisterRequest) (id : Uuid) (salt : Nat) (emailFails phoneFails : Bool)
  /-- `POST /users/login`. -/
  | userLogin (req : Users.LoginRequest)
  /-- `POST /drivers/register`; `existsFails` is whether its `SELECT EXISTS` fails. -/
  | driverRegister (req : Drivers.RegisterRequest) (id : Uuid) (salt : Nat) (existsFails : Bool)
  /-- `POST /drivers/login`. -/
  | driverLogin (req : Drivers.LoginRequest)
  /-- `POST /trips/request`, with the clocks of the handler and of the database. -/
  | tripRequest (id : Uuid) (req : TripRequest) (now dbNow : Nat)
  /-- `PATCH /trips/{t}/assign` with body `{driverId}`. -/
  | tripAssign (t : TripId) (driverId : DriverId)
  /-- `PATCH /trips/{t}/start`. -/
  | tripStart (t : TripId) (now : Nat)
  /-- `PATCH /trips/{t}/end` with the optional `distanceKm`. -/
  | tripEnd (t : TripId) (distanceKm : Option ℚ)
  /-- `PATCH /drivers/{d}/location` with body `{lat, lng}`; `ok` is whether the `GEOADD`
  goes through. -/
  | driverLocation (d : DriverId) (loc : LatLng) (ok : Bool)
  /-- `GET /ws/trips/{t}`, upgraded. -/
  | ws (t : TripId)
  deriving DecidableEq, Repr

/-- The two register routes, public and writing the account tables. -/
def Route.isRegister : Route → Bool
  | .userRegister .. | .driverRegister .. => true
  | _ => false

/-- An HTTP request: its `Authorization` header (`""` when absent) and its route. -/
structure HttpRequest where
  authorization : String
  route : Route
  deriving DecidableEq, Repr

/-- The claims the handlers of a request see. -/
def HttpRequest.claims (validate : String → Option Claims) (r : HttpRequest) : Option Claims :=
  optionalAuth validate r.authorization

end RideService.Http
