import RideService.Trips.Lifecycle
import RideService.System.Step

/-!
# What one step of the service can do

`Sys.Moves E S a S'` lists every effect the step `a` can have on `S`, one constructor per
kind of effect, with the guard under which the code takes it. `Sys.step_moves` says that
every step is one of them. The invariants of the service are proved by cases on
`Sys.Moves`, never by unfolding `Sys.step`.

Three effects remember the step that made them, since some runs are only described by what
their steps ask for: a manual `AssignDriver`, the `GEOADD` of an `UpdateLocation`, and the
matching handler's `ZREM`. A register adds to `users` or `drivers`, and takes nothing away
(`Sys.Moves.accounts`).

`Sys.started` is the list of events the publish goroutines were started with, whatever
became of their `Publish`. It changes only together with the ledger, as one step of
`Ledger.step` says (`Sys.Moves.ledger_started`), so every fact about the ledger and the
events it starts carries over to the service (`Sys.Reachable.ledger_induction`).
-/

namespace RideService.System

open RideService RideService.Trips RideService.Geo RideService.Tracking RideService.Http

/-- The effects of one step `a`. -/
inductive Sys.Moves (E : Env) (S : Sys) (a : SysAct) : Sys → Prop
  /-- A step that changes nothing: a request turned away, an index with nothing to do. -/
  | stay : Sys.Moves E S a S
  /-- A register: the account tables grow. -/
  | accounts (U : Users.UsersTable) (D : Drivers.DriversTable) (hU : S.users.ids ⊆ U.ids)
      (hD : S.drivers.ids ⊆ D.ids) : Sys.Moves E S a { S with users := U, drivers := D }
  /-- A step of the trip ledger other than an assignment, with the publish goroutines it
  starts. -/
  | ledger (b : LedgerAct) (hb : b.assignsTrip = none) : Sys.Moves E S a (S.ledgerStep E b)
  /-- A manual `AssignDriver` let through by `RequireAuth`. -/
  | assign (r : HttpRequest) (t : TripId) (d : DriverId) (ha : a = .http r)
      (hr : r.route = .tripAssign t d) (hc : (r.claims E.validate).isSome) :
      Sys.Moves E S a (S.ledgerStep E (.assign t d S.drivers.ids))
  /-- The `GEOADD` of an `UpdateLocation` let through by `RequireAuth`. -/
  | locate (r : HttpRequest) (d : DriverId) (loc : LatLng) (ok : Bool) (ha : a = .http r)
      (hr : r.route = .driverLocation d loc ok) (hc : (r.claims E.validate).isSome) :
      Sys.Moves E S a { S with geo := setDriverLocation S.geo d loc.lat loc.lng }
  /-- A step of the tracking hub. -/
  | hub (h : Hub) : Sys.Moves E S a { S with hub := h }
  /-- A publish goroutine's `Publish` fails. -/
  | publishFail (i : Nat) (ev : Outgoing) (hp : S.publishers[i]? = some ⟨ev, none⟩) :
      Sys.Moves E S a { S with publishers := S.publishers.set i ⟨ev, some false⟩ }
  /-- A `ride.requested` message is published. -/
  | publishRide (i : Nat) (e : RideRequestedEvent)
      (hp : S.publishers[i]? = some ⟨.rideRequested e, none⟩) :
      Sys.Moves E S a { S with
        publishers := S.publishers.set i ⟨.rideRequested e, some true⟩
        rideRequested := S.rideRequested ++ [e] }
  /-- A `trip.completed` message is published. -/
  | publishCompleted (i : Nat) (e : TripCompletedEvent)
      (hp : S.publishers[i]? = some ⟨.tripCompleted e, none⟩) :
      Sys.Moves E S a { S with
        publishers := S.publishers.set i ⟨.tripCompleted e, some true⟩
        tripCompleted := S.tripCompleted ++ [e] }
  /-- The matching handler is handed message `i`, which its loop had not committed, and its
  `GEOSEARCH` finds `d`. -/
  | found (i : Nat) (ev : RideRequestedEvent) (d : DriverId) (ds : List DriverId)
      (hm : S.matcher = .idle) (he : S.rideRequested[i]? = some ev) (hi : i ∉ S.handed)
      (hd : getNearbyDrivers E.dist S.geo ev.pickup.lat ev.pickup.lng 5 1 = d :: ds) :
      Sys.Moves E S a { S with matcher := .found i ev d }
  /-- The matching handler is handed message `i`, which its loop had not committed, and
  returns before publishing: no driver within 5 km, or a failed `GEOSEARCH`. -/
  | returned (i : Nat) (ev : RideRequestedEvent) (o : MatchOutcome)
      (hm : S.matcher = .idle) (he : S.rideRequested[i]? = some ev) (hi : i ∉ S.handed)
      (ho : o = .queryFailed ∨
        o = .noDriver ∧ getNearbyDrivers E.dist S.geo ev.pickup.lat ev.pickup.lng 5 1 = []) :
      Sys.Moves E S a { S with matched := S.matched ++ [(i, o)] }
  /-- The matching handler publishes `driver.assigned`. -/
  | assignPublished (i : Nat) (ev : RideRequestedEvent) (d : DriverId)
      (hm : S.matcher = .found i ev d) :
      Sys.Moves E S a { S with
        driverAssigned := S.driverAssigned ++ [⟨ev.tripId, d⟩]
        matcher := .published i ev d }
  /-- That publish fails, and the handler returns the error. -/
  | assignFailed (i : Nat) (ev : RideRequestedEvent) (d : DriverId)
      (hm : S.matcher = .found i ev d) :
      Sys.Moves E S a { S with matcher := .idle, matched := S.matched ++ [(i, .publishFailed)] }
  /-- The handler's `ZREM`, successful or not, and its return. -/
  | removed (i : Nat) (ev : RideRequestedEvent) (d : DriverId) (ok : Bool)
      (ha : a = .matchRemove ok) (hm : S.matcher = .published i ev d) :
      Sys.Moves E S a { S with
        geo := if ok then removeDriverLocation S.geo d else S.geo
        matcher := .idle
        matched := S.matched ++ [(i, .assigned d)] }
  /-- The `driver.assigned` consumer is handed message `i`, which its loop had not
  committed; `ok` is whether its UPDATE reaches the database. -/
  | consumed (i : Nat) (ev : DriverAssignedEvent) (ok : Bool)
      (he : S.driverAssigned[i]? = some ev) (hi : i ∉ S.assignTaken.map Prod.fst) :
      Sys.Moves E S a { S with
        ledger := if ok then S.ledger.next E.haversineKm (.consume ev S.drivers.ids) else S.ledger
        assignTaken := S.assignTaken ++ [(i, ok)] }

section
variable (E : Env)

/-- What an authenticated request to a trip route does. -/
theorem Sys.moves_requireAuth (S : Sys) (r : HttpRequest) (b : LedgerAct)
    (hb : b.assignsTrip = none) :
    Sys.Moves E S (.http r) (requireAuth (r.claims E.validate) S fun _ => S.ledgerStep E b) := by
  unfold requireAuth; split
  · exact .ledger b hb
  · exact .stay

/-- **Every step is one of the effects of `Sys.Moves`.** -/
theorem Sys.step_moves (S : Sys) (a : SysAct) : Sys.Moves E S a (S.step E a) := by
  cases a with
  | http r =>
    obtain ⟨auth, route⟩ := r
    cases route with
    | userRegister req id salt emailFails phoneFails =>
      exact .accounts _ _ (List.map_subset _ Users.registerHandler_rows_sub) (List.Subset.refl _)
    | driverRegister req id salt existsFails =>
      exact .accounts _ _ (List.Subset.refl _)
        (List.map_subset _ (Drivers.step_rows_sub (.register req id salt existsFails)))
    | userLogin | driverLogin => exact .stay
    | ws t => exact .hub _
    | tripRequest id req now dbNow =>
      simp only [Sys.step, Sys.handle, requireAuth]
      split
      · exact .ledger _ rfl
      · exact .stay
    | tripStart t now => exact S.moves_requireAuth E _ (.start t now) rfl
    | tripEnd t k => exact S.moves_requireAuth E _ (.endRead t k) rfl
    | tripAssign t d =>
      simp only [Sys.step, Sys.handle, requireAuth]
      split
      · exact .assign _ t d rfl rfl (by simp [*])
      · exact .stay
    | driverLocation d loc ok =>
      simp only [Sys.step, Sys.handle, requireAuth]
      split
      · split
        · exact .locate _ d loc ok rfl rfl (by simp [*])
        · exact .stay
      · exact .stay
  | endUpdate i now => exact .ledger _ rfl
  | endFail i => exact .ledger _ rfl
  | publish i ok =>
    simp only [Sys.step, Sys.publish]
    split
    · rename_i ev hp
      cases ok
      · exact .publishFail i ev hp
      · cases ev with
        | rideRequested e => exact .publishRide i e hp
        | tripCompleted e => exact .publishCompleted i e hp
    · exact .stay
  | matchTake i ok =>
    simp only [Sys.step, Sys.matchTake]
    split
    · rename_i ev hm he
      split
      · exact .stay
      · rename_i hi
        split
        · split
          · rename_i d ds hd
            exact .found i ev d ds hm he hi hd
          · rename_i hd
            exact .returned i ev _ hm he hi (.inr ⟨rfl, hd⟩)
        · exact .returned i ev _ hm he hi (.inl rfl)
    · exact .stay
  | matchPublish ok =>
    simp only [Sys.step, Sys.matchPublish]
    split
    · rename_i i ev d hm
      cases ok
      · exact .assignFailed i ev d hm
      · exact .assignPublished i ev d hm
    · exact .stay
  | matchRemove ok =>
    simp only [Sys.step, Sys.matchRemove]
    split
    · rename_i i ev d hm
      exact .removed i ev d ok rfl hm
    · exact .stay
  | consume i ok =>
    simp only [Sys.step, Sys.consume]
    split
    · rename_i ev he
      split
      · exact .stay
      · exact .consumed i ev ok he ‹_›
    · exact .stay
  | wsClose c => exact .hub _

/-! ## The ledger and the events started -/

/-- The events the publish goroutines were started with, in the order they were started. -/
def Sys.started (S : Sys) : List Outgoing := S.publishers.map (·.event)

/-- Recording how a `Publish` ended changes no event. -/
theorem started_set {ps : List Publisher} {i : Nat} {p : Publisher} (r : Option Bool)
    (hp : ps[i]? = some p) : (ps.set i ⟨p.event, r⟩).map (·.event) = ps.map (·.event) := by
  apply List.ext_getElem?; intro n
  rw [List.getElem?_map, List.getElem?_map, List.getElem?_set]
  split
  · subst n; rw [hp, if_pos (List.getElem?_eq_some_iff.1 hp).1]; rfl
  · rfl

variable {E} {S S' : Sys} {a : SysAct}

/-- **The ledger and the events started move together**, by one step of `Ledger.step`. -/
theorem Sys.Moves.ledger_started (h : Sys.Moves E S a S') :
    (S'.ledger = S.ledger ∧ S'.started = S.started) ∨
      ∃ b, S'.ledger = S.ledger.next E.haversineKm b ∧
        S'.started = S.started ++ (S.ledger.step E.haversineKm b).2 := by
  cases h with
  | ledger b | assign _ t d =>
    exact .inr ⟨_, rfl, by simp [Sys.started, Sys.ledgerStep, Function.comp_def]⟩
  | publishFail i ev hp | publishRide i ev hp | publishCompleted i ev hp =>
    exact .inl ⟨rfl, started_set _ hp⟩
  | consumed i ev ok =>
    cases ok
    · exact .inl ⟨rfl, rfl⟩
    · exact .inr ⟨.consume ev S.drivers.ids, rfl, by simp [Sys.started]⟩
  | _ => exact .inl ⟨rfl, rfl⟩

/-- A publish goroutine that has run keeps its place and its result. -/
theorem Sys.Moves.publisher_stable (h : Sys.Moves E S a S') {j : Nat} {p : Publisher}
    (hp : S.publishers[j]? = some p) (hr : p.result.isSome) : S'.publishers[j]? = some p := by
  have ne : ∀ {i ev}, S.publishers[i]? = some ⟨ev, none⟩ → i ≠ j := fun hi hij => by
    subst hij; rw [hp, Option.some.injEq] at hi; subst hi; cases hr
  cases h with
  | ledger | assign =>
    exact (List.getElem?_append_left (List.getElem?_eq_some_iff.1 hp).1).trans hp
  | publishFail i ev hi | publishRide i ev hi | publishCompleted i ev hi =>
    exact (List.getElem?_set_ne (ne hi)).trans hp
  | _ => exact hp

end

/-- Induction over the reachable states for a property of the ledger and the events
started: one that holds initially and that every step of a reachable ledger keeps holds of
every reachable state. -/
theorem Sys.Reachable.ledger_induction (E : Env) {P : Ledger → List Outgoing → Prop}
    (h0 : P Ledger.init [])
    (hs : ∀ L out b, L.Reachable E.haversineKm → P L out →
      P (L.next E.haversineKm b) (out ++ (L.step E.haversineKm b).2)) :
    ∀ S : Sys, S.Reachable E → S.ledger.Reachable E.haversineKm ∧ P S.ledger S.started :=
  Sys.Reachable.induction E
    (P := fun S : Sys => S.ledger.Reachable E.haversineKm ∧ P S.ledger S.started)
    ⟨Ledger.Reachable.init _, h0⟩ fun S a _ ⟨hr, hp⟩ => by
      rcases (S.step_moves E a).ledger_started with ⟨h1, h2⟩ | ⟨b, h1, h2⟩ <;> rw [h1, h2]
      · exact ⟨hr, hp⟩
      · exact ⟨hr.next _ b, hs _ _ b hr hp⟩

theorem Sys.Reachable.ledger {E : Env} {S : Sys} (h : S.Reachable E) :
    S.ledger.Reachable E.haversineKm :=
  (Sys.Reachable.ledger_induction E (P := fun _ _ => True) trivial (fun _ _ _ _ _ => trivial) S h).1

theorem Sys.Reachable.run {E : Env} {S : Sys} (h : S.Reachable E) (acts : List SysAct) :
    (S.run E acts).Reachable E := by
  obtain ⟨acts₀, rfl⟩ := h
  exact ⟨acts₀ ++ acts, Sys.run_append E _ _ _⟩

/-! ## What stays -/

section
variable {E : Env} {S : Sys} {t : Uuid}

/-- **Every step moves every row by `RowStep`** (`RideService.Trips.ledger_lifecycle`). -/
theorem Sys.Moves.rowStep {S' : Sys} {a : SysAct} (hL : S.ledger.Reachable E.haversineKm)
    (h : Sys.Moves E S a S') (t : Uuid) : RowStep (S.ledger.trips t) (S'.ledger.trips t) := by
  rcases h.ledger_started with ⟨h1, -⟩ | ⟨b, h1, -⟩ <;> rw [h1]
  · exact RowStep.refl _
  · exact ((hL.inv E.haversineKm).rowStep E.haversineKm b t).1

/-- A row, once inserted, stays. -/
theorem Sys.Reachable.trips_isSome_run (hS : S.Reachable E) (h : (S.ledger.trips t).isSome)
    (acts : List SysAct) : ((S.run E acts).ledger.trips t).isSome := by
  induction acts generalizing S with
  | nil => exact h
  | cons a acts ih => exact ih (hS.step E a) (((S.step_moves E a).rowStep hS.ledger t).isSome h)

/-- A row's driver, once set, stays. -/
theorem Sys.Reachable.driverId_run (hS : S.Reachable E) {r : Trip} (h : S.ledger.trips t = some r)
    (hd : r.driverId ≠ none) (acts : List SysAct) :
    ∃ r', (S.run E acts).ledger.trips t = some r' ∧ r'.driverId = r.driverId := by
  induction acts generalizing S r with
  | nil => exact ⟨r, h, rfl⟩
  | cons a acts ih =>
    have hs := (S.step_moves E a).rowStep hS.ledger t
    rw [h] at hs
    obtain ⟨r₁, h₁, hd₁⟩ := hs.driverId hd
    obtain ⟨r', h', hd'⟩ := ih (hS.step E a) h₁ (hd₁ ▸ hd)
    exact ⟨r', h', hd'.trans hd₁⟩

/-- A publish goroutine that has run keeps its place and its result along every run. -/
theorem Sys.run_publisher_stable {j : Nat} {p : Publisher} (hp : S.publishers[j]? = some p)
    (hr : p.result.isSome) (acts : List SysAct) : (S.run E acts).publishers[j]? = some p := by
  induction acts generalizing S with
  | nil => exact hp
  | cons a acts ih => exact ih ((S.step_moves E a).publisher_stable hp hr)

end

end RideService.System
