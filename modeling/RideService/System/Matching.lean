import RideService.System.Completion

/-!
# What the matching handler is handed, and whom it picks

The matching handler reads the trip off its `ride.requested` message and never reads the
table: it searches around the message's pickup (`events.go:75`). Two facts make that search
about the right trip and the right driver.

* **The `ride.requested` stream agrees with the ledger** (`ride_stream_agrees`). No statement
  of `trips.Service` updates the rider, pickup, drop or request time of a row
  (`Trip.requestCols`), and each trip gets one publish (`Ledger.Emits.ride`); so every message
  of the topic is the only one for its trip and carries its row's values: the rider's id as
  the token spelled it, and the request time cut to the second (`rfc3339_timestamptz`).
* **The handler picks a nearest driver** (`matcher_takes_nearest`). Its
  `GEOSEARCH … BYRADIUS 5 km COUNT 1 ASC` (`getNearbyDrivers_nearest`) finds a driver exactly
  when some member of the geo set lies within 5 km of the pickup, and the one it finds is
  nearest; it answers "no driver" only when none lies within 5 km.
* **The `driver.assigned` topic is what the handler's runs published**
  (`driver_assigned_matches_handler`): one event per run that returned `assigned d`, in order,
  naming the trip of the message the run was handed; a run that returned an error published
  nothing.
-/

namespace RideService

/-- What a `ride.requested` event says of its trip's row: the rider (a spelling of the row's
`uuid`), the pickup and drop, and when the trip was requested, to the second. -/
def RideRequestedEvent.Describes (e : RideRequestedEvent) (r : Trip) : Prop :=
  uuidIn e.riderId = some r.riderId ∧ (⟨r.pickupLat, r.pickupLng⟩ : LatLng) = e.pickup ∧
    (⟨r.dropLat, r.dropLng⟩ : LatLng) = e.drop ∧
    r.requestedAt.map (fun us => formatRFC3339 (us / 10 ^ 6)) = some e.requestedAt

/-- The columns of a row that only `Request`'s INSERT writes. -/
def Trip.requestCols (r : Trip) : Uuid × ℚ × ℚ × ℚ × ℚ × Option Nat :=
  (r.riderId, r.pickupLat, r.pickupLng, r.dropLat, r.dropLng, r.requestedAt)

theorem RideRequestedEvent.Describes.of_requestCols {e : RideRequestedEvent} {r r' : Trip}
    (h : e.Describes r) (hc : r'.requestCols = r.requestCols) : e.Describes r' := by
  simp only [Trip.requestCols, Prod.mk.injEq] at hc
  obtain ⟨h1, h2, h3, h4, h5, h6⟩ := hc
  unfold RideRequestedEvent.Describes
  rw [h1, h2, h3, h4, h5, h6]
  exact h

end RideService

namespace RideService.Trips

open RideService

/-- Every `ride.requested` event started names its trip's `uuid` and describes its row. -/
def Ledger.RidesDescribed (L : Ledger) (out : List Outgoing) : Prop :=
  ∀ e, .rideRequested e ∈ out → ∃ t r, e.tripId = uuidOut t ∧ L.trips t = some r ∧ e.Describes r

section
variable (haversineKm : ℚ → ℚ → ℚ → ℚ → ℚ) {L : Ledger} {out : List Outgoing}

/-- An UPDATE whose rewrite keeps the request columns keeps every row described. -/
theorem Ledger.RidesDescribed.update (h : L.RidesDescribed out) {L' : Ledger} {t : Uuid}
    {guard : TripStatus → Bool} {set : Trip → Trip} (ht : L'.trips = (updateWhere L.trips t guard set).1)
    (hs : ∀ r, (set r).requestCols = r.requestCols) {new : List Outgoing}
    (hn : ∀ e, .rideRequested e ∉ new) : L'.RidesDescribed (out ++ new) := by
  intro e he
  obtain ⟨t', r, hid, hr, hd⟩ := h e ((List.mem_append.1 he).resolve_right (hn e))
  obtain ⟨r', hr', hc⟩ := updateWhere_keeps Trip.requestCols hs hr
  exact ⟨t', r', hid, ht ▸ hr', hd.of_requestCols hc⟩

/-- Each effect of a step keeps every started `ride.requested` event describing its row. -/
theorem Ledger.RidesDescribed.moves (h : L.RidesDescribed out) {b : LedgerAct}
    {p : Ledger × List Outgoing} (hm : Ledger.Moves haversineKm L b p) :
    p.1.RidesDescribed (out ++ p.2) := by
  cases hm with
  | stay => simpa using h
  | insert id riderId req now dbNow users rider _ hr hn =>
    intro e he
    rcases List.mem_append.1 he with he | he
    · obtain ⟨t, r, hid, hr, hd⟩ := h e he
      have hne : t ≠ id := fun ht => by rw [ht, hn] at hr; cases hr
      exact ⟨t, r, hid, by dsimp only; rwa [Function.update_noteq hne], hd⟩
    · rw [List.mem_singleton, Outgoing.rideRequested.injEq] at he
      subst he
      exact ⟨id, _, rfl, Function.update_same _ _ _, hr, rfl, rfl,
        congrArg some (rfc3339_timestamptz now)⟩
  | assign | start => exact h.update rfl (by exact fun _ => rfl) fun _ h => nomatch h
  | read | reject => simpa using h
  | complete => exact h.update rfl (by exact fun _ => rfl) fun _ h => by simp at h
  | fail => simpa [Ledger.returnEnd] using h

/-- **One step of the ledger keeps every started `ride.requested` event describing its row.**
-/
theorem Ledger.RidesDescribed.next (h : L.RidesDescribed out) (b : LedgerAct) :
    (L.next haversineKm b).RidesDescribed (out ++ (L.step haversineKm b).2) :=
  h.moves haversineKm (L.step_moves haversineKm b)

end

end RideService.Trips

namespace RideService.System

open RideService RideService.Trips RideService.Geo

section
variable {E : Env} {S : Sys}

/-- Every `ride.requested` event started by a reachable state describes its trip's row. -/
theorem Sys.Reachable.ridesDescribed (hS : S.Reachable E) : S.ledger.RidesDescribed S.started :=
  (@Sys.Reachable.ledger_induction E Ledger.RidesDescribed (fun _ h => nomatch h)
    (fun _ _ b _ h => h.next E.haversineKm b) S hS).2

/-- A message in the `ride.requested` topic names its trip's `uuid` and describes its row. -/
theorem Sys.Reachable.describes (hS : S.Reachable E) {e : RideRequestedEvent}
    (he : e ∈ S.rideRequested) : ∃ t r, e.tripId = uuidOut t ∧ S.ledger.trips t = some r ∧ e.Describes r :=
  hS.ridesDescribed e (Sys.mem_started_of_published
    (hS.topics.mem_iff.1 (List.mem_append_left _ (List.mem_map_of_mem _ he))))

/-- The topics' count of a trip's messages is the `ride.requested` topic's. -/
theorem Sys.sent_countP_ride (t : Uuid) :
    S.sent.countP (Outgoing.isRideFor t) = S.rideRequested.countP (fun e => e.tripId = uuidOut t) := by
  simp only [Sys.sent, List.countP_append, List.countP_map, Function.comp_def, Outgoing.isRideFor,
    List.countP_false, add_zero]
  exact List.countP_congr fun _ _ => by simp

/-- A message of the `ride.requested` topic is the only one for its trip. -/
theorem Sys.Reachable.ride_once (hS : S.Reachable E) {e : RideRequestedEvent}
    (he : e ∈ S.rideRequested) : S.rideRequested.countP (fun e' => e'.tripId = e.tripId) = 1 := by
  obtain ⟨t, r, hid, hr, -⟩ := hS.describes he
  refine le_antisymm ?_ (List.countP_pos_iff.2 ⟨e, he, by simp⟩)
  /- one publish per trip, and the topic holds only what was published -/
  calc S.rideRequested.countP (fun e' => e'.tripId = e.tripId)
      = S.published.countP (Outgoing.isRideFor t) := by
        rw [hid, ← Sys.sent_countP_ride, hS.topics.countP_eq]
    _ ≤ S.started.countP (Outgoing.isRideFor t) := Sys.published_countP_le _
    _ = 1 := by rw [hS.emits.ride, hr]; rfl

end

/-- **The `ride.requested` stream agrees with the ledger.** Over every run, each message in
the topic names, by its canonical text, a trip of the table; it is the only message for that
trip; and it carries the rider, pickup and drop stored in the trip's row, and the row's
request time cut to the second. -/
theorem ride_stream_agrees (E : Env) {S : Sys} (hS : S.Reachable E) :
    ∀ e ∈ S.rideRequested, ∃ t r, e.tripId = uuidOut t ∧ S.ledger.trips t = some r ∧
      S.rideRequested.countP (fun e' => e'.tripId = e.tripId) = 1 ∧ e.Describes r := by
  intro e he
  obtain ⟨t, r, hid, hr, hd⟩ := hS.describes he
  exact ⟨t, r, hid, hr, hS.ride_once he, hd⟩

/-- The rider and the driver register; the driver stands at the pickup of a request whose
publish went through. -/
def nearbyRequest : List SysAct :=
  signups ++
    [.http ⟨"Bearer driver-token", .driverLocation (uuidOut driverD) ⟨0, 0⟩ true⟩,
      .http ⟨"Bearer rider-token", .tripRequest tripT ⟨0, 0, 1, 1⟩ 0 0⟩, .publish 0 true]

theorem nearbyRequest_stream_agrees :
    ∃ t r, (rideRequestedEvent tripT (uuidOut riderR) ⟨0, 0, 1, 1⟩ 0).tripId = uuidOut t ∧
      (Sys.init.run Env.sample nearbyRequest).ledger.trips t = some r ∧
      (Sys.init.run Env.sample nearbyRequest).rideRequested.countP (fun e' =>
        e'.tripId = (rideRequestedEvent tripT (uuidOut riderR) ⟨0, 0, 1, 1⟩ 0).tripId) = 1 ∧
      (rideRequestedEvent tripT (uuidOut riderR) ⟨0, 0, 1, 1⟩ 0).Describes r :=
  ride_stream_agrees Env.sample ⟨nearbyRequest, rfl⟩
    (rideRequestedEvent tripT (uuidOut riderR) ⟨0, 0, 1, 1⟩ 0) (by decide)

/-! ## The driver the handler picks -/

section
variable {E : Env} {S : Sys} {i : Nat} {ev : RideRequestedEvent}

/-- **What the handler's search does** on message `i`, when it is idle, the loop has not
committed the message and Redis answers: it holds a nearest member within 5 km of the pickup,
or records that none is within 5 km. -/
theorem Sys.matchTake_cases (hm : S.matcher = .idle) (he : S.rideRequested[i]? = some ev)
    (hi : i ∉ S.handed) :
    (∃ d p, S.matchTake E i true = { S with matcher := .found i ev d } ∧ S.geo.pos d = some p ∧
        E.dist ev.pickup p ≤ 5 ∧ ∀ d' p', S.geo.pos d' = some p' → E.dist ev.pickup p' ≤ 5 →
          E.dist ev.pickup p ≤ E.dist ev.pickup p') ∨
      (S.matchTake E i true = { S with matched := S.matched ++ [(i, .noDriver)] } ∧
        ∀ d p, S.geo.pos d = some p → 5 < E.dist ev.pickup p) := by
  have hsearch : getNearbyDrivers E.dist S.geo ev.pickup.lat ev.pickup.lng 5 1 =
      S.geo.search E.dist ev.pickup 5 1 := by
    rw [getNearbyDrivers, if_pos (by norm_num)]
  simp only [Sys.matchTake, hm, he, if_neg hi, if_true, hsearch]
  rcases S.geo.search_one E.dist ev.pickup 5 with ⟨d, p, hs, hp⟩ | ⟨hs, hnone⟩ <;> rw [hs]
  · exact .inl ⟨d, p, rfl, hp⟩
  · exact .inr ⟨rfl, hnone⟩

end

/-- The `driver.assigned` event of a run of the handler that returned `assigned d` on message
`i` of `rides`: the trip of that message, and `d`. -/
def assignedEvent? (rides : List RideRequestedEvent) : Nat × MatchOutcome → Option DriverAssignedEvent
  | (i, .assigned d) => rides[i]?.map fun ev => ⟨ev.tripId, d⟩
  | _ => none

/-- The events the handler's runs published: one for each run that returned `assigned`, in
order, then the one of the run between its publish and its `ZREM`. -/
def Sys.matchedEvents (S : Sys) : List DriverAssignedEvent :=
  S.matched.filterMap (assignedEvent? S.rideRequested) ++
    match S.matcher with
    | .published _ ev d => [⟨ev.tripId, d⟩]
    | _ => []

/-- What ties the topic to the handler's runs in every reachable state. -/
structure Sys.MatchLog (S : Sys) : Prop where
  topic : S.driverAssigned = S.matchedEvents
  handed : ∀ p ∈ S.matched, p.1 < S.rideRequested.length
  current : ∀ i ev d, (S.matcher = .found i ev d ∨ S.matcher = .published i ev d) →
    S.rideRequested[i]? = some ev

/-- A record of runs on messages of `rides` reads the same once `rides` grows. -/
theorem filterMap_assignedEvent_append {rides : List RideRequestedEvent}
    {m : List (Nat × MatchOutcome)} (e : RideRequestedEvent) (hm : ∀ p ∈ m, p.1 < rides.length) :
    m.filterMap (assignedEvent? (rides ++ [e])) = m.filterMap (assignedEvent? rides) :=
  List.filterMap_congr fun p hp => by
    obtain ⟨i, o⟩ := p
    cases o <;> simp only [assignedEvent?]
    rw [List.getElem?_append_left (hm _ hp)]

section
variable {E : Env} {S S' : Sys} {a : SysAct}

/-- **One step keeps the topic equal to what the handler's runs published.** -/
theorem Sys.MatchLog.moves (h : S.MatchLog) (hm : Sys.Moves E S a S') : S'.MatchLog := by
  /- a step that touches none of the topic, the record, the handler and `ride.requested` -/
  have same : S'.driverAssigned = S.driverAssigned → S'.matched = S.matched →
      S'.matcher = S.matcher → S'.rideRequested = S.rideRequested → S'.MatchLog :=
    fun h1 h2 h3 h4 => ⟨by rw [h1, h.topic, Sys.matchedEvents, Sys.matchedEvents, h2, h3, h4],
      by rw [h2, h4]; exact h.handed, by rw [h3, h4]; exact h.current⟩
  /- the handler returns on message `i`, which is in the topic -/
  have handed : ∀ {i ev o}, S.rideRequested[i]? = some ev →
      ∀ p ∈ S.matched ++ [(i, o)], p.1 < S.rideRequested.length := fun he p hp => by
    rcases List.mem_append.1 hp with hp | hp
    · exact h.handed p hp
    · rw [List.mem_singleton.1 hp]; exact (List.getElem?_eq_some_iff.1 he).1
  cases hm with
  | stay => exact h
  | accounts | ledger | assign | locate | hub | publishFail | publishCompleted | consumed =>
    exact same rfl rfl rfl rfl
  | publishRide i e hp =>
    refine ⟨?_, fun p hp' => Nat.lt_of_lt_of_le (h.handed p hp') (by simp),
      fun i ev d hm' => ?_⟩
    · rw [h.topic]
      simp only [Sys.matchedEvents, filterMap_assignedEvent_append e h.handed]
    · have hc := h.current i ev d hm'
      rw [List.getElem?_append_left (List.getElem?_eq_some_iff.1 hc).1]
      exact hc
  | found i ev d ds hmi he _ =>
    refine ⟨by rw [h.topic, Sys.matchedEvents, Sys.matchedEvents, hmi], h.handed,
      fun i' ev' d' hm' => ?_⟩
    simp only [Matcher.found.injEq, reduceCtorEq, or_false] at hm'
    obtain ⟨rfl, rfl, rfl⟩ := hm'
    exact he
  | returned i ev o hmi he _ ho =>
    refine ⟨?_, handed he, h.current⟩
    rcases ho with rfl | ⟨rfl, -⟩ <;>
      simp [h.topic, Sys.matchedEvents, List.filterMap_append, assignedEvent?]
  | assignPublished i ev d hmi =>
    refine ⟨by simp [h.topic, Sys.matchedEvents, hmi], h.handed, fun i' ev' d' hm' => ?_⟩
    simp only [Matcher.published.injEq, reduceCtorEq, false_or] at hm'
    obtain ⟨rfl, rfl, rfl⟩ := hm'
    exact h.current i ev d (.inl hmi)
  | assignFailed i ev d hmi =>
    have he := h.current i ev d (.inl hmi)
    exact ⟨by simp [h.topic, Sys.matchedEvents, hmi, List.filterMap_append, assignedEvent?],
      handed he, fun _ _ _ hm' => by simp at hm'⟩
  | removed i ev d ok _ hmi =>
    have he := h.current i ev d (.inr hmi)
    exact ⟨by simp [h.topic, Sys.matchedEvents, hmi, List.filterMap_append, assignedEvent?, he],
      handed he, fun _ _ _ hm' => by simp at hm'⟩

end

/-- The index the next `ride.requested` message gets is not committed. -/
theorem Sys.MatchLog.fresh {S : Sys} (h : S.MatchLog) : S.rideRequested.length ∉ S.handed :=
  fun hm => by
    obtain ⟨p, hp, he⟩ := List.mem_map.1 hm
    exact absurd (h.handed p hp) (by omega)

theorem Sys.Reachable.matchLog {E : Env} {S : Sys} (hS : S.Reachable E) : S.MatchLog :=
  Sys.Reachable.induction E (P := Sys.MatchLog) ⟨rfl, fun _ h => (nomatch h),
    fun _ _ _ h => by simp [Sys.init] at h⟩ (fun S a _ h => h.moves (S.step_moves E a)) S hS

/-- **The `driver.assigned` topic is what the matching handler's runs published.** In every
reachable state, the topic holds, in order, one event for each run of the handler that
returned `assigned d` on a `ride.requested` message, naming that message's trip and `d`, and
then the event of the run between its publish and its `ZREM`; nothing else. -/
theorem driver_assigned_matches_handler (E : Env) {S : Sys} (hS : S.Reachable E) :
    S.driverAssigned = S.matchedEvents :=
  hS.matchLog.topic

/-- `nearbyRequest`, then one run of the matching handler through its `ZREM`. -/
def nearbyMatched : List SysAct :=
  nearbyRequest ++ [.matchTake 0 true, .matchPublish true, .matchRemove true]

theorem nearbyMatched_topic :
    (Sys.init.run Env.sample nearbyMatched).driverAssigned =
      (Sys.init.run Env.sample nearbyMatched).matchedEvents :=
  driver_assigned_matches_handler Env.sample ⟨nearbyMatched, rfl⟩

/-! ## A message the handler returned on without a driver -/

/-- Two cells of a list whose count under `p` is at most one, both satisfying `p`, are one
cell. -/
theorem index_eq_of_countP_le_one {α : Type} {p : α → Bool} {l : List α} (h : l.countP p ≤ 1)
    {i j : Nat} {a b : α} (ha : l[i]? = some a) (hb : l[j]? = some b) (hpa : p a) (hpb : p b) :
    i = j := by
  induction l generalizing i j with
  | nil => cases ha
  | cons x l ih =>
    rw [List.countP_cons] at h
    cases i with
    | zero =>
      cases j with
      | zero => rfl
      | succ j =>
        rw [List.getElem?_cons_zero, Option.some.injEq] at ha
        rw [List.getElem?_cons_succ] at hb
        subst ha
        have := List.countP_pos_iff.2 ⟨b, List.getElem?_mem hb, hpb⟩
        simp only [hpa, if_true] at h; omega
    | succ i =>
      rw [List.getElem?_cons_succ] at ha
      cases j with
      | zero =>
        rw [List.getElem?_cons_zero, Option.some.injEq] at hb
        subst hb
        have := List.countP_pos_iff.2 ⟨a, List.getElem?_mem ha, hpa⟩
        simp only [hpb, if_true] at h; omega
      | succ j =>
        rw [List.getElem?_cons_succ] at hb
        exact congrArg (· + 1) (ih (by split at h <;> omega) ha hb)

/-- **A message the matching handler returned on without a driver is lost.** Once the
matching group's loop was handed message `i` of `ride.requested` and the handler returned
without publishing a driver (no driver within 5 km, a failed `GEOSEARCH`, or a failed
publish), no `driver.assigned` event names that message's trip, in the rest of any run: the
loop committed the message before the handler ran, so it is not handed again, and the topic
holds no other message for the trip. -/
theorem handler_error_loses_request (E : Env) {S : Sys} (hS : S.Reachable E) {i : Nat}
    {o : MatchOutcome} (hi : (i, o) ∈ S.matched) (ho : ∀ d, o ≠ .assigned d)
    {ev : RideRequestedEvent} (he : S.rideRequested[i]? = some ev) (acts : List SysAct) :
    ∀ e ∈ (S.run E acts).driverAssigned, e.tripId ≠ ev.tripId := by
  have hS' := hS.run acts
  obtain ⟨hr, -, hm⟩ := S.run_grows (E := E) acts
  have hi' : (i, o) ∈ (S.run E acts).matched := hm.subset hi
  have he' : (S.run E acts).rideRequested[i]? = some ev := by
    obtain ⟨l, hl⟩ := hr
    rw [← hl, List.getElem?_append_left (List.getElem?_eq_some_iff.1 he).1, he]
  have hc := hS'.committed
  have hlog := hS'.matchLog
  /- the only message of the topic for `ev`'s trip is message `i` -/
  have same : ∀ {k ev'}, (S.run E acts).rideRequested[k]? = some ev' → ev'.tripId = ev.tripId →
      k = i := fun hk ht => index_eq_of_countP_le_one (hS'.ride_once (List.getElem?_mem he')).le
    hk he' (by simp [ht]) (by simp)
  intro e hmem ht
  rw [hlog.topic, Sys.matchedEvents] at hmem
  rcases List.mem_append.1 hmem with hmem | hmem
  · /- an event of a run that returned `assigned d`, on message `i` itself -/
    obtain ⟨⟨k, o'⟩, hk, hev⟩ := List.mem_filterMap.1 hmem
    cases o' with
    | assigned d =>
      obtain ⟨ev', hk', rfl⟩ := Option.map_eq_some'.1 hev
      obtain rfl := same hk' ht
      exact ho d (Prod.mk.inj (List.inj_on_of_nodup_map hc.handed hk hi' rfl)).2.symm
    | _ => cases hev
  · /- the event of the run the handler is in: on message `i`, already committed -/
    split at hmem
    · rename_i k ev' d hmatch
      rw [List.mem_singleton] at hmem
      subst hmem
      obtain rfl := same (hlog.current k ev' d (.inr hmatch)) ht
      exact hc.holding k ev' d (.inr hmatch) (List.mem_map_of_mem Prod.fst hi')
    · cases hmem

/-- `nearbyRequest`, then the handler is handed the request and its `GEOSEARCH` fails. -/
def searchFailed : List SysAct := nearbyRequest ++ [.matchTake 0 false]

theorem searchFailed_lost :
    (0, MatchOutcome.queryFailed) ∈ (Sys.init.run Env.sample searchFailed).matched ∧
      (∀ d, MatchOutcome.queryFailed ≠ .assigned d) ∧
      (Sys.init.run Env.sample searchFailed).rideRequested[0]? =
        some (rideRequestedEvent tripT (uuidOut riderR) ⟨0, 0, 1, 1⟩ 0) ∧
      ∀ acts, ∀ e ∈ ((Sys.init.run Env.sample searchFailed).run Env.sample acts).driverAssigned,
        e.tripId ≠ (rideRequestedEvent tripT (uuidOut riderR) ⟨0, 0, 1, 1⟩ 0).tripId :=
  ⟨by decide, fun _ h => (nomatch h), by decide, fun acts =>
    @handler_error_loses_request Env.sample (Sys.init.run Env.sample searchFailed)
      ⟨searchFailed, rfl⟩ 0 .queryFailed (by decide) (fun _ h => (nomatch h))
      (rideRequestedEvent tripT (uuidOut riderR) ⟨0, 0, 1, 1⟩ 0) (by decide) acts⟩

end RideService.System
