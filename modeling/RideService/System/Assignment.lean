import RideService.System.Matching

/-!
# What the `driver.assigned` consumer does with a match

The matching handler publishes `DriverAssigned{tripId, driverId}` and then removes the
driver from the geo set (`events.go:87`–`:94`), without waiting for the consumer. The
consumer runs `AssignDriver`'s UPDATE on the event (`service.go:182`) and ignores how many
rows it changed. So when the event is consumed, the trip takes the event's driver only if
it is still `REQUESTED` or `MATCHING`; a trip that a manual `AssignDriver` got to first keeps
its driver, and the matched driver is out of the pool without a trip (`matchedDriverLost`).
The UPDATE also fails on the foreign key when the driver has no account, which nothing
checks before: `UpdateLocation` puts any id in the pool. For a driver with an account,
whatever happens, the driver the trip has then stays for the rest of the run
(`consumed_driver_stays`).

`Sys.Named` is what the proof needs of every reachable state: the topics and the matching
handler only ever name, by their canonical text, trips that have a row.
-/

namespace RideService.System

open RideService RideService.Trips RideService.Geo RideService.Tracking RideService.Http

/-- Every trip that a message or the matching handler names has a row. -/
structure Sys.Named (S : Sys) : Prop where
  ride : ∀ e ∈ S.rideRequested, ∃ t, e.tripId = uuidOut t ∧ (S.ledger.trips t).isSome
  assigned : ∀ e ∈ S.driverAssigned, ∃ t, e.tripId = uuidOut t ∧ (S.ledger.trips t).isSome
  matcher : ∀ i ev d, (S.matcher = .found i ev d ∨ S.matcher = .published i ev d) →
    ∃ t, ev.tripId = uuidOut t ∧ (S.ledger.trips t).isSome

section
variable {E : Env} {S S' : Sys} {a : SysAct}

theorem Sys.Named.moves (hS : S.Reachable E) (hn : S.Named) (h : Sys.Moves E S a S') :
    S'.Named := by
  have keep : ∀ {s : String}, (∃ t, s = uuidOut t ∧ (S.ledger.trips t).isSome) →
      ∃ t, s = uuidOut t ∧ (S'.ledger.trips t).isSome :=
    fun ⟨t, hs, ht⟩ => ⟨t, hs, (h.rowStep hS.ledger t).isSome ht⟩
  cases h with
  | publishRide i e hp =>
    refine ⟨fun e' he' => ?_, hn.assigned, hn.matcher⟩
    rcases List.mem_append.1 he' with he' | he'
    · exact hn.ride e' he'
    · rw [List.mem_singleton.1 he']
      obtain ⟨t, r, hid, hr, -⟩ :=
        hS.ridesDescribed e (List.mem_map_of_mem _ (List.getElem?_mem hp))
      exact ⟨t, hid, by simp [hr]⟩
  | found i ev d ds hm he =>
    refine ⟨hn.ride, hn.assigned, fun i' ev' d' hm' => ?_⟩
    simp only [or_false, reduceCtorEq, Matcher.found.injEq] at hm'
    obtain ⟨rfl, rfl, rfl⟩ := hm'
    exact hn.ride ev (List.getElem?_mem he)
  | assignPublished i ev d hm =>
    refine ⟨hn.ride, fun e he' => ?_, fun i' ev' d' hm' => ?_⟩
    · rcases List.mem_append.1 he' with he' | he'
      · exact hn.assigned e he'
      · rw [List.mem_singleton.1 he']; exact hn.matcher i ev d (.inl hm)
    · simp only [reduceCtorEq, false_or, Matcher.published.injEq] at hm'
      obtain ⟨rfl, rfl, rfl⟩ := hm'
      exact hn.matcher i ev d (.inl hm)
  | assignFailed | removed =>
    exact ⟨hn.ride, hn.assigned, fun _ _ _ hm' => by simp at hm'⟩
  | _ =>
    exact ⟨fun e he => keep (hn.ride e he), fun e he => keep (hn.assigned e he),
      fun i ev d hm => keep (hn.matcher i ev d hm)⟩

theorem Sys.Reachable.named (hS : S.Reachable E) : S.Named :=
  Sys.Reachable.induction E (P := Sys.Named)
    ⟨fun _ h => (nomatch h), fun _ h => (nomatch h), fun _ _ _ h => by simp [Sys.init] at h⟩
    (fun S a hS hn => hn.moves hS (S.step_moves E a)) S hS

/-- The consumer's UPDATE on message `k`, which its loop had not committed, naming a trip and
a driver with an account. -/
theorem Sys.step_consume {k : Nat} {ev : DriverAssignedEvent} {t d : Uuid}
    (hk : S.driverAssigned[k]? = some ev) (hn : k ∉ S.assignTaken.map Prod.fst)
    (ht : uuidIn ev.tripId = some t) (hd : uuidIn ev.driverId = some d) (hreg : d ∈ S.drivers.ids) :
    S.step E (.consume k true) =
      { S with
        ledger := { S.ledger with trips := (updateWhere S.ledger.trips t assignGuard (assigning d)).1 }
        assignTaken := S.assignTaken ++ [(k, true)] } := by
  simp only [Sys.step, Sys.consume, hk, if_neg hn, if_true, Ledger.step, driverAssignedHandler,
    assignDriverSql_of_mem ht hd hreg, Except.map]

/-- The consumer's UPDATE on a trip's row, for a driver with an account. -/
theorem Sys.step_consume_trips {i : Nat} {ev : DriverAssignedEvent} {t d : Uuid} {r : Trip}
    (hi : S.driverAssigned[i]? = some ev) (hn : i ∉ S.assignTaken.map Prod.fst)
    (ht : uuidIn ev.tripId = some t) (hd : uuidIn ev.driverId = some d) (hreg : d ∈ S.drivers.ids)
    (hr : S.ledger.trips t = some r) :
    (S.step E (.consume i true)).ledger.trips t =
      some (if assignGuard r.status = true then assigning d r else r) := by
  rw [Sys.step_consume hi hn ht hd hreg]
  simp [hr]

end

/-- **A consumed `DriverAssigned` event.** When the consumer's loop is handed a message it had
not committed, naming a driver with an account, and the UPDATE reaches the database: the
trip takes the event's driver if it was `REQUESTED` or `MATCHING`, and otherwise keeps the
driver it already had. In both cases the trip has a driver, and keeps it for the rest of
every run. -/
theorem consumed_driver_stays (E : Env) {S : Sys} (hS : S.Reachable E) {i : Nat}
    {ev : DriverAssignedEvent} (hi : S.driverAssigned[i]? = some ev)
    (hn : i ∉ S.assignTaken.map Prod.fst) {d : Uuid} (hd : uuidIn ev.driverId = some d)
    (hreg : d ∈ S.drivers.ids) (acts : List SysAct) :
    ∃ t r r', uuidIn ev.tripId = some t ∧ S.ledger.trips t = some r ∧
      ((S.step E (.consume i true)).run E acts).ledger.trips t = some r' ∧
      r'.driverId.isSome ∧
      r'.driverId = if r.status = .requested ∨ r.status = .matching then some d
        else r.driverId := by
  obtain ⟨t, hid, ht⟩ := hS.named.assigned ev (List.getElem?_mem hi)
  obtain ⟨r, hr⟩ := Option.isSome_iff_exists.1 ht
  have htu : uuidIn ev.tripId = some t := hid ▸ uuidIn_uuidOut t
  have hstep := Sys.step_consume_trips (E := E) hi hn htu hd hreg hr
  refine ⟨t, r, ?_⟩
  by_cases hg : r.status = .requested ∨ r.status = .matching
  · have hb : assignGuard r.status = true := by
      rcases hg with hg | hg <;> simp [assignGuard, hg]
    rw [hb, if_pos rfl] at hstep
    obtain ⟨r', h', hd'⟩ := (hS.step E _).driverId_run hstep (by simp [assigning]) acts
    exact ⟨r', htu, hr, h', by simp [hd', assigning], by simp [hd', hg, assigning]⟩
  · have hb : assignGuard r.status = false := by
      simpa [assignGuard, not_or] using hg
    rw [hb] at hstep
    have hsome : r.driverId.isSome := by
      obtain ⟨⟨hm, hc⟩, hd, -⟩ := (hS.ledger.inv E.haversineKm).agrees _ r hr
      rw [hd]; revert hg hm hc; cases r.status <;> simp [TripStatus.hasDriver]
    obtain ⟨r', h', hd'⟩ := (hS.step E _).driverId_run hstep (Option.isSome_iff_ne_none.1 hsome) acts
    exact ⟨r', htu, hr, h', by simp [hd', hsome], by simp [hd', hg]⟩

/-- The driver `driverO` registers too. -/
def otherSignup : SysAct :=
  .http ⟨"", .driverRegister ⟨"Olga Driver", "olga@ride.co", "+15550030", "secret3", "", "EF789"⟩
    driverO 2 false⟩

/-- The rider and two drivers register. `driverD` pushes a location at the pickup of trip
`tripT`, which the rider then requests; the request is published; a manual `AssignDriver`
gives `tripT` to `driverO`; then the matching handler, handed the request, finds `driverD`,
publishes the match and removes `driverD` from the geo set, and the consumer gets the
event. -/
def assignRace : List SysAct :=
  signups ++ [otherSignup,
    .http ⟨"Bearer driver-token", .driverLocation (uuidOut driverD) ⟨0, 0⟩ true⟩,
    .http ⟨"Bearer rider-token", .tripRequest tripT ⟨0, 0, 1, 1⟩ 0 0⟩,
    .publish 0 true,
    .http ⟨"Bearer rider-token", .tripAssign (uuidOut tripT) (uuidOut driverO)⟩,
    .matchTake 0 true, .matchPublish true, .matchRemove true, .consume 0 true]

theorem assignRace_consumed :
    ∃ t r r', uuidIn (uuidOut tripT) = some t ∧
      (Sys.init.run Env.sample (assignRace.take 10)).ledger.trips t = some r ∧
      (((Sys.init.run Env.sample (assignRace.take 10)).step Env.sample (.consume 0 true)).run
        Env.sample []).ledger.trips t = some r' ∧
      r'.driverId.isSome ∧
      r'.driverId = if r.status = .requested ∨ r.status = .matching then some driverD
        else r.driverId :=
  consumed_driver_stays Env.sample ⟨assignRace.take 10, rfl⟩
    (by decide : (Sys.init.run Env.sample (assignRace.take 10)).driverAssigned[0]? =
      some ⟨uuidOut tripT, uuidOut driverD⟩) (by decide) (uuidIn_uuidOut driverD) (by decide) []

/-- In `assignRace` the matching handler removed `driverD` from the geo set after publishing
its match on `tripT`, and the consumer got the event; `tripT`'s driver is `driverO`. -/
theorem matchedDriverLost :
    (Sys.init.run Env.sample assignRace).matched = [(0, .assigned (uuidOut driverD))] ∧
      (Sys.init.run Env.sample assignRace).driverAssigned = [⟨uuidOut tripT, uuidOut driverD⟩] ∧
      (Sys.init.run Env.sample assignRace).assignTaken = [(0, true)] ∧
      (Sys.init.run Env.sample assignRace).geo.pos (uuidOut driverD) = none ∧
      ((Sys.init.run Env.sample assignRace).ledger.trips tripT).bind (·.driverId) = some driverO := by
  decide

end RideService.System
