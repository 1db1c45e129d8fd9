import RideService.System.Assignment

/-!
# A ride from request to completion

The other modules of `RideService.System` say what never goes wrong. This one says that the
service does what it is for, when its steps go through.

* **The matching pipeline** (`matching_assigns_nearest`). Take any reachable state where the
  matching handler is idle and is handed a `ride.requested` message it had not been handed,
  whose trip is still `REQUESTED`, with some driver in the pool within 5 km of the trip's
  pickup, and every such driver an account. If the search, the publish of `driver.assigned`,
  the `ZREM` and the consumer's UPDATE each go through, the trip's row takes a driver nearest
  to the pickup stored in it, and that driver leaves the pool. The message's pickup is the
  row's (`Sys.Reachable.describes`).
* **A whole ride** (`ride_completes`). Take any state with an idle matching handler, loops
  that have not committed the indices the new messages get, a registered rider, a fresh trip
  id and a driver with an account within 5 km of the pickup. A rider's request, followed by
  the steps of `Sys.rideActs` each going through, ends with the row `COMPLETED`. The row then
  holds the rider, the matched driver, the fare `50 + 12·km` cast to `DECIMAL(12,2)` and its
  three timestamps in microseconds, and the `trip.completed` topic holds one more message,
  with the uncast fare, the end time to the second and the ride's whole seconds.

Each step's effect is stated once, as an equation of the whole state (`Sys.step_matchPublish`,
…), and the runs are composed from them in three phases: booking (`Sys.run_book`), matching
(`Sys.matchPipeline`) and the drive (`Sys.run_drive`).
-/

namespace RideService.System

open RideService RideService.Trips RideService.Geo RideService.Http

/-! ## One step at a time -/

section
variable {E : Env} {S : Sys}

/-- `POST /trips/request` for a fresh id, by a principal whose token is accepted and whose user
id names a rider of `users`: the row, and the goroutine that publishes its `ride.requested`
event. -/
theorem Sys.step_tripRequest {auth : String} {c : Claims}
    (hc : optionalAuth E.validate auth = some c) {rider : Uuid} (hu : uuidIn c.userId = some rider)
    (hreg : rider ∈ S.users.ids) {t : Uuid} (ht : S.ledger.trips t = none) (req : TripRequest)
    (now dbNow : Nat) :
    S.step E (.http ⟨auth, .tripRequest t req now dbNow⟩) =
      { S with
        ledger := { S.ledger with
          trips := Function.update S.ledger.trips t (some (requestedTrip rider req now dbNow)) }
        publishers :=
          S.publishers ++ [⟨.rideRequested (rideRequestedEvent t c.userId req now), none⟩] } := by
  simp only [Sys.step, Sys.handle, HttpRequest.claims, hc, requireAuth, Sys.ledgerStep,
    Ledger.step, request_of_fresh hu ht hreg]
  rfl

/-- A `PATCH /trips/…` route behind `RequireAuth` runs its ledger step for any accepted token. -/
theorem Sys.step_tripStart {auth : String} (hc : (optionalAuth E.validate auth).isSome)
    (t : TripId) (now : Nat) :
    S.step E (.http ⟨auth, .tripStart t now⟩) = S.ledgerStep E (.start t now) := by
  obtain ⟨c, hc⟩ := Option.isSome_iff_exists.1 hc
  simp only [Sys.step, Sys.handle, HttpRequest.claims, hc, requireAuth]

theorem Sys.step_tripEnd {auth : String} (hc : (optionalAuth E.validate auth).isSome)
    (t : TripId) (km : Option ℚ) :
    S.step E (.http ⟨auth, .tripEnd t km⟩) = S.ledgerStep E (.endRead t km) := by
  obtain ⟨c, hc⟩ := Option.isSome_iff_exists.1 hc
  simp only [Sys.step, Sys.handle, HttpRequest.claims, hc, requireAuth]

/-- A `ride.requested` goroutine that has not run goes through: its event joins the topic. -/
theorem Sys.step_publish_ride {j : Nat} {e : RideRequestedEvent}
    (hp : S.publishers[j]? = some ⟨.rideRequested e, none⟩) :
    S.step E (.publish j true) =
      { S with
        publishers := S.publishers.set j ⟨.rideRequested e, some true⟩
        rideRequested := S.rideRequested ++ [e] } := by
  simp only [Sys.step, Sys.publish, hp, if_true]

/-- A `trip.completed` goroutine that has not run goes through: its event joins the topic. -/
theorem Sys.step_publish_trip {j : Nat} {e : TripCompletedEvent}
    (hp : S.publishers[j]? = some ⟨.tripCompleted e, none⟩) :
    S.step E (.publish j true) =
      { S with
        publishers := S.publishers.set j ⟨.tripCompleted e, some true⟩
        tripCompleted := S.tripCompleted ++ [e] } := by
  simp only [Sys.step, Sys.publish, hp, if_true]

/-- The matching handler publishes the driver it holds. -/
theorem Sys.step_matchPublish {i : Nat} {ev : RideRequestedEvent} {d : DriverId}
    (hm : S.matcher = .found i ev d) :
    S.step E (.matchPublish true) =
      { S with driverAssigned := S.driverAssigned ++ [⟨ev.tripId, d⟩], matcher := .published i ev d } := by
  simp only [Sys.step, Sys.matchPublish, hm, if_true]

/-- The matching handler removes the driver it published from the pool and returns. -/
theorem Sys.step_matchRemove {i : Nat} {ev : RideRequestedEvent} {d : DriverId}
    (hm : S.matcher = .published i ev d) :
    S.step E (.matchRemove true) =
      { S with
        geo := removeDriverLocation S.geo d
        matcher := .idle
        matched := S.matched ++ [(i, .assigned d)] } := by
  simp only [Sys.step, Sys.matchRemove, hm, if_true]

end

/-! ## The three phases -/

/-- The last cell of a list, rewritten. -/
theorem set_length_append {α : Type} (l : List α) (x y : α) : (l ++ [x]).set l.length y = l ++ [y] := by
  simp

section
variable {E : Env} {S : Sys}

/-- **Booking**: the request, and its publish going through. -/
theorem Sys.run_book {auth : String} {c : Claims} (hc : optionalAuth E.validate auth = some c)
    {rider : Uuid} (hu : uuidIn c.userId = some rider) (hreg : rider ∈ S.users.ids) {t : Uuid}
    (ht : S.ledger.trips t = none) (req : TripRequest) (now dbNow : Nat) :
    S.run E [.http ⟨auth, .tripRequest t req now dbNow⟩, .publish S.publishers.length true] =
      { S with
        ledger := { S.ledger with
          trips := Function.update S.ledger.trips t (some (requestedTrip rider req now dbNow)) }
        publishers :=
          S.publishers ++ [⟨.rideRequested (rideRequestedEvent t c.userId req now), some true⟩]
        rideRequested := S.rideRequested ++ [rideRequestedEvent t c.userId req now] } := by
  rw [Sys.run_cons, Sys.step_tripRequest hc hu hreg ht, Sys.run_cons,
    Sys.step_publish_ride (List.getElem?_concat_length _ _), Sys.run_nil]
  simp only [set_length_append]

/-- **The matching pipeline**: the search finds a nearest member within 5 km, a driver with an
account, the handler publishes it and removes it from the pool, and the consumer's UPDATE
gives it the trip, which is still `REQUESTED`. -/
theorem Sys.matchPipeline {i : Nat} {ev : RideRequestedEvent} {t : Uuid} {r : Trip}
    (hm : S.matcher = .idle) (he : S.rideRequested[i]? = some ev) (hi : i ∉ S.handed)
    (ht : ev.tripId = uuidOut t) (hr : S.ledger.trips t = some r) (hreq : r.status = .requested)
    (hnear : ∃ d p, S.geo.pos d = some p ∧ E.dist ev.pickup p ≤ 5)
    (hpool : ∀ d p, S.geo.pos d = some p → E.dist ev.pickup p ≤ 5 →
      ∃ v, uuidIn d = some v ∧ v ∈ S.drivers.ids) {k : Nat}
    (hk : S.driverAssigned.length = k) (hfresh : k ∉ S.assignTaken.map Prod.fst) :
    ∃ d p v, S.geo.pos d = some p ∧ uuidIn d = some v ∧ E.dist ev.pickup p ≤ 5 ∧
      (∀ d' p', S.geo.pos d' = some p' → E.dist ev.pickup p' ≤ 5 →
        E.dist ev.pickup p ≤ E.dist ev.pickup p') ∧
      S.run E [.matchTake i true, .matchPublish true, .matchRemove true, .consume k true] =
        { S with
          ledger := { S.ledger with
            trips := Function.update S.ledger.trips t (some (assigning v r)) }
          driverAssigned := S.driverAssigned ++ [⟨ev.tripId, d⟩]
          matched := S.matched ++ [(i, .assigned d)]
          assignTaken := S.assignTaken ++ [(k, true)]
          geo := removeDriverLocation S.geo d } := by
  subst hk
  rcases Sys.matchTake_cases hm he hi with ⟨d, p, hstep, hp, h5, hmin⟩ | ⟨-, hnone⟩
  · obtain ⟨v, hv, hreg⟩ := hpool d p hp h5
    refine ⟨d, p, v, hp, hv, h5, hmin, ?_⟩
    /- the consumer's UPDATE finds the row `REQUESTED` -/
    have hassign : (updateWhere S.ledger.trips t assignGuard (assigning v)).1 =
        Function.update S.ledger.trips t (some (assigning v r)) := by
      simp [updateWhere, hr, hreq, assignGuard]
    /- the handler's three steps leave the state the consumer's UPDATE runs on -/
    have hc := Sys.step_consume (E := E) (S := { S with
      driverAssigned := S.driverAssigned ++ [⟨ev.tripId, d⟩]
      matched := S.matched ++ [(i, .assigned d)]
      geo := removeDriverLocation S.geo d }) (List.getElem?_concat_length _ _) hfresh
      (ht ▸ uuidIn_uuidOut t) hv hreg
    rw [Sys.run_cons, show S.step E (.matchTake i true) = _ from hstep, Sys.run_cons,
      Sys.step_matchPublish rfl, Sys.run_cons, Sys.step_matchRemove rfl, Sys.run_cons, ← hm, hc,
      Sys.run_nil, hassign]
  · obtain ⟨d, p, hp, h5⟩ := hnear
    exact absurd h5 (not_le.2 (hnone d p hp))

/-- **The drive**: the driver starts the assigned trip and ends it with `distanceKm` `km`,
whose fare fits `DECIMAL(12,2)`; the rest of `End` runs and its publish goes through. -/
theorem Sys.run_drive {auth : String} (hc : (optionalAuth E.validate auth).isSome) {t : Uuid}
    {r : Trip} (hr : S.ledger.trips t = some r) (hassigned : r.status = .driverAssigned)
    {km stored : ℚ} (hkm : 0 < km) (hfare : numericCast 12 2 (fareFor km) = .ok stored)
    (started ended : Nat) {i j : Nat} (hi : S.ledger.ends.length = i) (hj : S.publishers.length = j) :
    S.run E [.http ⟨auth, .tripStart (uuidOut t) started⟩, .http ⟨auth, .tripEnd (uuidOut t) (some km)⟩,
        .endUpdate i ended, .publish j true] =
      { S with
        ledger := ⟨Function.update S.ledger.trips t (some (completing stored (pgTimestamptz ended)
            (starting (pgTimestamptz started) r))),
          S.ledger.ends ++ [⟨uuidOut t, some km, .returned true⟩]⟩
        publishers := S.publishers ++ [⟨.tripCompleted (completedEvent (uuidOut t)
          (starting (pgTimestamptz started) r) (fareFor km) ended), some true⟩]
        tripCompleted := S.tripCompleted ++ [completedEvent (uuidOut t)
          (starting (pgTimestamptz started) r) (fareFor km) ended] } := by
  /- `Start` finds the row `DRIVER_ASSIGNED`; `End`'s read finds it `STARTED` -/
  subst hi hj
  set r' : Trip := starting (pgTimestamptz started) r
  have hstart : (start S.ledger.trips (uuidOut t) started).1 =
      Function.update S.ledger.trips t (some r') := by
    simp [start, startSql, uuidParam_uuidOut, updateWhere, hr, hassigned, r']
  have hread : endRead (Function.update S.ledger.trips t (some r')) (uuidOut t) = .ok r' := by
    simp [endRead, getByID, uuidIn_uuidOut, r', starting]
  set L : Ledger := ⟨Function.update S.ledger.trips t (some r'),
    S.ledger.ends ++ [⟨uuidOut t, some km, .read r'⟩]⟩
  have hpend : L.pendingEnd S.ledger.ends.length = some (⟨uuidOut t, some km, .read r'⟩, r') := by
    simp only [L, Ledger.pendingEnd, List.getElem?_concat_length]; rfl
  rw [Sys.run_cons, Sys.step_tripStart hc, Sys.run_cons, Sys.step_tripEnd hc]
  simp only [Sys.ledgerStep, Ledger.step, hstart, List.map_nil, List.append_nil]
  rw [hread, Sys.run_cons]
  simp only [List.map_nil, List.append_nil]
  rw [Sys.step_endUpdate_ok E (S := { S with ledger := L }) ended hpend (uuidIn_uuidOut t)
    (Function.update_same _ _ _) (by rw [tripKm_of_pos hkm]; exact hfare), Sys.run_cons,
    Sys.step_publish_trip (List.getElem?_concat_length _ _), Sys.run_nil]
  simp only [tripKm_of_pos hkm, Function.update_idem, set_length_append]

end

/-! ## The matching pipeline -/

/-- **The matching pipeline assigns a nearest driver.** From every reachable state where the
matching handler is idle and is handed message `i` of `ride.requested`, which its loop had
not committed, whose trip's row is still `REQUESTED`, some driver of the pool is within 5 km
of the pickup stored in the row, and every such driver has an account: when the search, the
publish of `driver.assigned`, the `ZREM` and the consumer's UPDATE go through, the row takes
a driver who was within 5 km of its pickup and no farther than any other driver of the pool
within 5 km, and who is no longer in the pool. -/
theorem matching_assigns_nearest (E : Env) {S : Sys} (hS : S.Reachable E) {i : Nat}
    {ev : RideRequestedEvent} {t : Uuid} {r : Trip} (hm : S.matcher = .idle)
    (he : S.rideRequested[i]? = some ev) (hi : i ∉ S.handed) (ht : ev.tripId = uuidOut t)
    (hr : S.ledger.trips t = some r) (hreq : r.status = .requested)
    (hnear : ∃ d p, S.geo.pos d = some p ∧ E.dist ⟨r.pickupLat, r.pickupLng⟩ p ≤ 5)
    (hpool : ∀ d p, S.geo.pos d = some p → E.dist ⟨r.pickupLat, r.pickupLng⟩ p ≤ 5 →
      ∃ v, uuidIn d = some v ∧ v ∈ S.drivers.ids) :
    ∃ d p v, S.geo.pos d = some p ∧ uuidIn d = some v ∧
      E.dist ⟨r.pickupLat, r.pickupLng⟩ p ≤ 5 ∧
      (∀ d' p', S.geo.pos d' = some p' → E.dist ⟨r.pickupLat, r.pickupLng⟩ p' ≤ 5 →
        E.dist ⟨r.pickupLat, r.pickupLng⟩ p ≤ E.dist ⟨r.pickupLat, r.pickupLng⟩ p') ∧
      (S.run E [.matchTake i true, .matchPublish true, .matchRemove true,
          .consume S.driverAssigned.length true]).ledger.trips t = some (assigning v r) ∧
      (S.run E [.matchTake i true, .matchPublish true, .matchRemove true,
          .consume S.driverAssigned.length true]).geo.pos d = none ∧
      (S.run E [.matchTake i true, .matchPublish true, .matchRemove true,
          .consume S.driverAssigned.length true]).matched = S.matched ++ [(i, .assigned d)] := by
  /- the message's pickup is the row's -/
  obtain ⟨t', r', hid, hr', hd⟩ := hS.describes (List.getElem?_mem he)
  obtain rfl : t' = t := uuidOut_injective (hid.symm.trans ht)
  rw [hr, Option.some.injEq] at hr'
  subst hr'
  have hpick : ev.pickup = ⟨r.pickupLat, r.pickupLng⟩ := hd.2.1.symm
  obtain ⟨d, p, v, hp, hv, h5, hmin, hrun⟩ := Sys.matchPipeline (E := E) hm he hi ht hr hreq
    (hpick ▸ hnear) (hpick ▸ hpool) rfl hS.committed.fresh
  rw [hpick] at h5 hmin
  refine ⟨d, p, v, hp, hv, h5, hmin, ?_⟩
  rw [hrun]
  simp [removeDriverLocation]

/-- Every member of the pool of `nearbyRequest` is the driver `driverD`, who has an account. -/
theorem nearbyRequest_pool : ∀ d p, (Sys.init.run Env.sample nearbyRequest).geo.pos d = some p →
    Env.sample.dist ⟨(requestedTrip riderR ⟨0, 0, 1, 1⟩ 0 0).pickupLat,
      (requestedTrip riderR ⟨0, 0, 1, 1⟩ 0 0).pickupLng⟩ p ≤ 5 →
    ∃ v, uuidIn d = some v ∧ v ∈ (Sys.init.run Env.sample nearbyRequest).drivers.ids := by
  intro d p hp _
  have hmem := GeoSet.pos_eq_some_iff.1 hp
  rw [show (Sys.init.run Env.sample nearbyRequest).geo.members = [(uuidOut driverD, ⟨0, 0⟩)] by
    decide, List.mem_singleton, Prod.mk.injEq] at hmem
  rw [hmem.1]
  exact ⟨driverD, uuidIn_uuidOut driverD, by decide⟩

theorem nearbyRequest_assigned :
    ∃ d p v, (Sys.init.run Env.sample nearbyRequest).geo.pos d = some p ∧ uuidIn d = some v ∧
      Env.sample.dist ⟨0, 0⟩ p ≤ 5 ∧
      (∀ d' p', (Sys.init.run Env.sample nearbyRequest).geo.pos d' = some p' →
        Env.sample.dist ⟨0, 0⟩ p' ≤ 5 → Env.sample.dist ⟨0, 0⟩ p ≤ Env.sample.dist ⟨0, 0⟩ p') ∧
      ((Sys.init.run Env.sample nearbyRequest).run Env.sample [.matchTake 0 true,
          .matchPublish true, .matchRemove true,
          .consume (Sys.init.run Env.sample nearbyRequest).driverAssigned.length true]).ledger.trips
          tripT = some (assigning v (requestedTrip riderR ⟨0, 0, 1, 1⟩ 0 0)) ∧
      ((Sys.init.run Env.sample nearbyRequest).run Env.sample [.matchTake 0 true,
          .matchPublish true, .matchRemove true,
          .consume (Sys.init.run Env.sample nearbyRequest).driverAssigned.length true]).geo.pos d =
        none ∧
      ((Sys.init.run Env.sample nearbyRequest).run Env.sample [.matchTake 0 true,
          .matchPublish true, .matchRemove true,
          .consume (Sys.init.run Env.sample nearbyRequest).driverAssigned.length true]).matched =
        (Sys.init.run Env.sample nearbyRequest).matched ++ [(0, .assigned d)] :=
  @matching_assigns_nearest Env.sample (Sys.init.run Env.sample nearbyRequest)
    ⟨nearbyRequest, rfl⟩ 0 (rideRequestedEvent tripT (uuidOut riderR) ⟨0, 0, 1, 1⟩ 0) tripT
    (requestedTrip riderR ⟨0, 0, 1, 1⟩ 0 0) (by decide) (by decide) (by decide) rfl (by decide)
    rfl ⟨uuidOut driverD, ⟨0, 0⟩, by decide, by decide⟩ nearbyRequest_pool

/-! ## A whole ride -/

/-- One ride where every step goes through and nothing else runs in between: the rider's
request for trip `t`, its publish, the matching handler's search, publish and `ZREM`, the
consumer's UPDATE, the driver's `start` and `end` with `distanceKm` `km`, the rest of `End`,
and the publish of `trip.completed`. The clocks are those of the request, of the database's
`NOW()`, of `Start` and of `End`; the indices are those the new goroutines, messages and
`End` call get. -/
def Sys.rideActs (S : Sys) (riderAuth driverAuth : String) (t : Uuid) (req : TripRequest)
    (requested created started ended : Nat) (km : ℚ) : List SysAct :=
  [.http ⟨riderAuth, .tripRequest t req requested created⟩, .publish S.publishers.length true,
    .matchTake S.rideRequested.length true, .matchPublish true, .matchRemove true,
    .consume S.driverAssigned.length true, .http ⟨driverAuth, .tripStart (uuidOut t) started⟩,
    .http ⟨driverAuth, .tripEnd (uuidOut t) (some km)⟩, .endUpdate S.ledger.ends.length ended,
    .publish (S.publishers.length + 1) true]

/-- The rider and the driver register, and the driver is in the pool at `(0, 0)`. -/
def driverWaiting : List SysAct :=
  signups ++ [.http ⟨"Bearer driver-token", .driverLocation (uuidOut driverD) ⟨0, 0⟩ true⟩]

/-- Every member of the pool of `driverWaiting` is the driver `driverD`, who has an account. -/
theorem driverWaiting_pool : ∀ d p, (Sys.init.run Env.sample driverWaiting).geo.pos d = some p →
    ∃ v, uuidIn d = some v ∧ v ∈ (Sys.init.run Env.sample driverWaiting).drivers.ids := by
  intro d p hp
  have hmem := GeoSet.pos_eq_some_iff.1 hp
  rw [show (Sys.init.run Env.sample driverWaiting).geo.members = [(uuidOut driverD, ⟨0, 0⟩)] by
    decide, List.mem_singleton, Prod.mk.injEq] at hmem
  rw [hmem.1]
  exact ⟨driverD, uuidIn_uuidOut driverD, by decide⟩

end RideService.System
