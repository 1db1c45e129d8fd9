import RideService.Trips.Ledger
import RideService.Geo.Index
import RideService.Tracking.Hub
import RideService.Http.Routes

/-!
# The whole service as one transition system

One process of `main` (`src/unnamed/part_004:145`): the HTTP surface, the `users` and
`drivers` tables, the trip ledger, the goroutines that publish `ride.requested` and
`trip.completed`, the three topics, the two consumer groups, the geo set and the tracking hub.
A step is one atomic action of one of them.

**The accounts.** The two register routes are the only writers of `users` and `drivers`
(`RideService.Db.Accounts`). The trip service's statements with a foreign key read the ids
the referenced table holds as they run: `Request`'s INSERT those of `users`, the assignment
UPDATEs those of `drivers`.

**The topics.** A topic is the list of messages published to it. A consumer group's loop
(`kafka.Client.Subscribe`, `V2_create_drivers.sql:107`) calls `ReadMessage`, which, for a
reader with a `GroupID`, commits the message's offset before it returns it, and `Subscribe`
only logs a handler's error and reads on. So the loop is handed each message at most once,
whatever its handler returns (`Sys.handedOnce`): a message on which the handler failed is
not handed again. `Writer.LeastBytes` spreads the messages over the three partitions without
regard to their key, so the loop may be handed them in any order. `Sys.matched` and
`Sys.assignTaken` record what each loop was handed and how its handler returned. A second
reader of the group, after a crash or a rebalance, is outside this one process.

**The matching handler** (`internal/events/events.go:58`) runs in the matching group's
loop, one message at a time: `matchTake` is its `GEOSEARCH`, `matchPublish` its publish of
`driver.assigned`, `matchRemove` its `ZREM`, whose error it drops. `internal/matching/
matcher.go` has the same handler, except that it returns `nil` on a failed `GEOSEARCH`; as
`Subscribe` drops errors, the two behave alike here.

**The `driver.assigned` consumer** (`service.go:174`) runs the AssignDriver UPDATE on each
message; `ok` is whether the UPDATE reaches the database.

**Environment.** `Env` holds what the model takes as given: the haversine of `End`, the
distance Redis measures, the capacity `append` gives a new backing array, the signature
check of tokens, and bcrypt.
-/

namespace RideService.System

open RideService RideService.Trips RideService.Geo RideService.Tracking RideService.Http

/-- A goroutine publishing one event: the event, and how its `Publish` ended, once it has
run. A failed publish is only logged (`service.go:61`, `:166`). -/
structure Publisher where
  event : Outgoing
  result : Option Bool
  deriving DecidableEq, Repr

/-- Where the matching handler is on the message it was handed. -/
inductive Matcher
  | idle
  /-- `GEOSEARCH` returned `d` for message `i`. -/
  | found (i : Nat) (ev : RideRequestedEvent) (d : DriverId)
  /-- `driver.assigned` was published; the `ZREM` of `d` is next. -/
  | published (i : Nat) (ev : RideRequestedEvent) (d : DriverId)
  deriving DecidableEq, Repr

/-- How the matching handler returned on a message. -/
inductive MatchOutcome
  /-- No driver within 5 km: `nil`. -/
  | noDriver
  /-- `GEOSEARCH` failed: an error. -/
  | queryFailed
  /-- The publish of `driver.assigned` failed: an error. -/
  | publishFailed
  /-- `driver.assigned` named `d`: `nil`. -/
  | assigned (d : DriverId)
  deriving DecidableEq, Repr

/-- The service. -/
structure Sys where
  users : Users.UsersTable
  drivers : Drivers.DriversTable
  ledger : Ledger
  publishers : List Publisher
  rideRequested : List RideRequestedEvent
  driverAssigned : List DriverAssignedEvent
  tripCompleted : List TripCompletedEvent
  /-- The matching group's loop: the messages it was handed, and how the handler returned. -/
  matched : List (Nat × MatchOutcome)
  matcher : Matcher
  /-- The `trip-driver-assigned` group's loop: the messages it was handed, and whether the
  UPDATE reached the database. -/
  assignTaken : List (Nat × Bool)
  geo : GeoSet
  hub : Hub

/-- What the model takes as given. -/
structure Env where
  haversineKm : ℚ → ℚ → ℚ → ℚ → ℚ
  dist : LatLng → LatLng → ℚ
  grow : GrowPolicy
  validate : String → Option Claims
  bcrypt : Bcrypt

/-- The atomic steps. -/
inductive SysAct
  /-- An HTTP request, up to the first atomic step of its handler. -/
  | http (r : HttpRequest)
  /-- The rest of the `End` call at index `call`. -/
  | endUpdate (call now : Nat)
  /-- The UPDATE of that call failing in the database. -/
  | endFail (call : Nat)
  /-- The publish goroutine at index `i` runs; `ok` is whether the broker takes it. -/
  | publish (i : Nat) (ok : Bool)
  /-- The matching group's loop is handed message `i`, unless it has been already; `ok` is
  whether Redis answers. -/
  | matchTake (i : Nat) (ok : Bool)
  /-- The matching handler publishes `driver.assigned`. -/
  | matchPublish (ok : Bool)
  /-- The matching handler runs `ZREM`. -/
  | matchRemove (ok : Bool)
  /-- The `trip-driver-assigned` group's loop is handed message `i`, unless it has been
  already; `ok` is whether the UPDATE reaches the database. -/
  | consume (i : Nat) (ok : Bool)
  /-- The read loop of connection `c` ends. -/
  | wsClose (c : ConnId)
  deriving DecidableEq, Repr

/-- The service before any request. -/
def Sys.init : Sys where
  users := AccountTable.empty
  drivers := AccountTable.empty
  ledger := Ledger.init
  publishers := []
  rideRequested := []
  driverAssigned := []
  tripCompleted := []
  matched := []
  matcher := .idle
  assignTaken := []
  geo := GeoSet.empty
  hub := Hub.init

section
variable (E : Env)

/-- A step of the ledger, and the publish goroutines it starts. -/
def Sys.ledgerStep (S : Sys) (a : LedgerAct) : Sys :=
  { S with
    ledger := (S.ledger.step E.haversineKm a).1
    publishers := S.publishers ++ (S.ledger.step E.haversineKm a).2.map (⟨·, none⟩) }

/-- The handler a route runs, given the claims in the request's context. -/
def Sys.handle (S : Sys) (claims : Option Claims) : Route → Sys
  | .userRegister req id salt emailFails phoneFails =>
    { S with users := (Users.registerHandler E.bcrypt S.users req id salt emailFails phoneFails).1 }
  | .userLogin _ => S
  | .driverRegister req id salt existsFails =>
    { S with drivers := (Drivers.registerHandler E.bcrypt S.drivers req id salt existsFails).1 }
  | .driverLogin _ => S
  | .ws t => { S with hub := S.hub.handleWS E.grow t }
  | .tripRequest id req now dbNow =>
    requireAuth claims S fun c => S.ledgerStep E (.request id c.userId req now dbNow S.users.ids)
  | .tripAssign t d => requireAuth claims S fun _ => S.ledgerStep E (.assign t d S.drivers.ids)
  | .tripStart t now => requireAuth claims S fun _ => S.ledgerStep E (.start t now)
  | .tripEnd t k => requireAuth claims S fun _ => S.ledgerStep E (.endRead t k)
  | .driverLocation d loc ok => requireAuth claims S fun _ =>
    if validateCoordinates loc.lat loc.lng && ok then
      { S with geo := setDriverLocation S.geo d loc.lat loc.lng }
    else S

/-- The publish goroutine at index `i` runs. -/
def Sys.publish (S : Sys) (i : Nat) (ok : Bool) : Sys :=
  match S.publishers[i]? with
  | some ⟨ev, none⟩ =>
    let S' := { S with publishers := S.publishers.set i ⟨ev, some ok⟩ }
    if ok then
      match ev with
      | .rideRequested e => { S' with rideRequested := S.rideRequested ++ [e] }
      | .tripCompleted e => { S' with tripCompleted := S.tripCompleted ++ [e] }
    else S'
  | _ => S

/-- The messages of `ride.requested` the matching group's loop was handed, and committed. -/
def Sys.handed (S : Sys) : List Nat := S.matched.map Prod.fst

/-- The matching handler is handed message `i`, if the loop has not committed it yet, and
searches 5 km around its pickup for one driver (`events.go:75`). -/
def Sys.matchTake (S : Sys) (i : Nat) (ok : Bool) : Sys :=
  match S.matcher, S.rideRequested[i]? with
  | .idle, some ev =>
    if i ∈ S.handed then S
    else if ok then
      match getNearbyDrivers E.dist S.geo ev.pickup.lat ev.pickup.lng 5 1 with
      | d :: _ => { S with matcher := .found i ev d }
      | [] => { S with matched := S.matched ++ [(i, .noDriver)] }
    else { S with matched := S.matched ++ [(i, .queryFailed)] }
  | _, _ => S

/-- The matching handler publishes `DriverAssigned{tripId, driverId}` (`events.go:87`). -/
def Sys.matchPublish (S : Sys) (ok : Bool) : Sys :=
  match S.matcher with
  | .found i ev d =>
    if ok then
      { S with
        driverAssigned := S.driverAssigned ++ [⟨ev.tripId, d⟩]
        matcher := .published i ev d }
    else { S with matcher := .idle, matched := S.matched ++ [(i, .publishFailed)] }
  | _ => S

/-- The matching handler removes the driver it published from the geo set, ignoring an
error, and returns `nil` (`events.go:93`). -/
def Sys.matchRemove (S : Sys) (ok : Bool) : Sys :=
  match S.matcher with
  | .published i _ d =>
    { S with
      geo := if ok then removeDriverLocation S.geo d else S.geo
      matcher := .idle
      matched := S.matched ++ [(i, .assigned d)] }
  | _ => S

/-- The `driver.assigned` consumer is handed message `i`, if its loop has not committed it
yet (`service.go:175`). -/
def Sys.consume (S : Sys) (i : Nat) (ok : Bool) : Sys :=
  match S.driverAssigned[i]? with
  | some ev =>
    if i ∈ S.assignTaken.map Prod.fst then S
    else
      { S with
        ledger := if ok then (S.ledger.step E.haversineKm (.consume ev S.drivers.ids)).1 else S.ledger
        assignTaken := S.assignTaken ++ [(i, ok)] }
  | none => S

/-- One step of the service. -/
def Sys.step (S : Sys) : SysAct → Sys
  | .http r => S.handle E (r.claims E.validate) r.route
  | .endUpdate i now => S.ledgerStep E (.endUpdate i now)
  | .endFail i => S.ledgerStep E (.endFail i)
  | .publish i ok => S.publish i ok
  | .matchTake i ok => S.matchTake E i ok
  | .matchPublish ok => S.matchPublish ok
  | .matchRemove ok => S.matchRemove ok
  | .consume i ok => S.consume E i ok
  | .wsClose c => { S with hub := S.hub.readEnds c }

/-- The service after a run of steps. -/
def Sys.run (S : Sys) (acts : List SysAct) : Sys := acts.foldl (Sys.step E) S

/-- The states some run from `Sys.init` reaches. -/
def Sys.Reachable (S : Sys) : Prop := ∃ acts, Sys.init.run E acts = S

@[simp] theorem Sys.run_nil (S : Sys) : S.run E [] = S := rfl

@[simp] theorem Sys.run_cons (S : Sys) (a : SysAct) (acts : List SysAct) :
    S.run E (a :: acts) = (S.step E a).run E acts := rfl

theorem Sys.run_append (S : Sys) (acts acts' : List SysAct) :
    S.run E (acts ++ acts') = (S.run E acts).run E acts' := by
  simp [Sys.run, List.foldl_append]

theorem Sys.Reachable.init : Sys.init.Reachable E := ⟨[], rfl⟩

theorem Sys.Reachable.step {S : Sys} (h : S.Reachable E) (a : SysAct) :
    (S.step E a).Reachable E := by
  obtain ⟨acts, rfl⟩ := h
  exact ⟨acts ++ [a], by simp [Sys.run_append]⟩

/-- Induction over the reachable states. -/
theorem Sys.Reachable.induction {P : Sys → Prop} (h0 : P Sys.init)
    (hs : ∀ S a, S.Reachable E → P S → P (S.step E a)) :
    ∀ S, S.Reachable E → P S := by
  suffices ∀ acts S, S.Reachable E → P S → P (S.run E acts) by
    rintro S ⟨acts, rfl⟩
    exact this acts _ (Sys.Reachable.init E) h0
  intro acts
  induction acts with
  | nil => exact fun _ _ h => h
  | cons a acts ih => exact fun S hS h => ih _ (hS.step E a) (hs S a hS h)

/-! ## What a step does to the hub -/

/-- **The hub moves only by its own two steps.** -/
theorem Sys.step_hub (S : Sys) (a : SysAct) :
    (S.step E a).hub = S.hub ∨ (∃ t, (S.step E a).hub = S.hub.handleWS E.grow t) ∨
      ∃ c, (S.step E a).hub = S.hub.readEnds c := by
  cases a with
  | http r =>
    obtain ⟨auth, route⟩ := r
    cases route <;> simp only [Sys.step, Sys.handle]
    case ws t => exact .inr (.inl ⟨t, rfl⟩)
    all_goals first
      | exact .inl trivial
      | unfold requireAuth
        split
        all_goals first | exact .inl rfl | (split <;> exact .inl rfl)
  | publish | matchTake | matchPublish | matchRemove | consume =>
    /- the message and matching steps write other fields, in every branch -/
    left
    simp only [Sys.step, Sys.publish, Sys.matchTake, Sys.matchPublish, Sys.matchRemove,
      Sys.consume]
    repeat' split
    all_goals rfl
  | wsClose c => exact .inr (.inr ⟨c, rfl⟩)
  | endUpdate | endFail => exact .inl rfl

end

/-- An environment for runs on fixed inputs: no haversine is needed; the discrete distance,
which agrees with any distance on the runs below, where a point is only ever compared with
itself; the runtime's doubling; the tokens of the rider `riderR` and of the driver
`driverD`; and the stand-in for bcrypt. -/
def Env.sample : Env where
  haversineKm _ _ _ _ := 0
  dist p q := if p = q then 0 else 100
  grow := .doubling
  validate raw :=
    if raw = "rider-token" then some ⟨uuidOut riderR, "rita@ride.co", "rider"⟩
    else if raw = "driver-token" then some ⟨uuidOut driverD, "dan@ride.co", "driver"⟩
    else none
  bcrypt := Bcrypt.sample

/-- The rider `riderR` registers. -/
def riderSignup : Route :=
  .userRegister ⟨"Rita Rider", "rita@ride.co", "+15550010", "secret1"⟩ riderR 0 false false

/-- The driver `driverD` registers. -/
def driverSignup : Route :=
  .driverRegister ⟨"Dan Driver", "dan@ride.co", "+15550020", "secret2", "", "AB123"⟩ driverD 1 false

/-- The rider and the driver of the runs on fixed inputs register, without a token. -/
def signups : List SysAct := [.http ⟨"", riderSignup⟩, .http ⟨"", driverSignup⟩]

end RideService.System
