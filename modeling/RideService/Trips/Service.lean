import RideService.Trips.Model

/-!
# `trips.Service`: the statements on `trips` and the methods around them

The four writes `internal/trips/service.go` makes to `trips` are one statement family,
`updateWhere`: a single-row `UPDATE … WHERE id=$t` whose `WHERE` clause may also guard the
row's status, returning `RowsAffected()`. `assignDriverSql` (run both by `AssignDriver` and
by the `driver.assigned` consumer) and `startSql` guard the status; `endSql` does not — the
difference `endSql_rewrites_completed` states, and on which the End race rests.

Each statement first reads its id parameters as `uuid`s, in the order of the parameters,
and fails with `22P02` on one `uuid_in` cannot read. The foreign keys of `rider_id` and
`driver_id` check a row the statement inserts or changes against the ids of `users` and
`drivers`, which a statement takes as its argument.

`End` is split where other requests can interleave with it: `endRead` is its `GetByID` and
status check, `endUpdate` everything from the distance on. The haversine distance is a
parameter (`haversineKm`): `End` only ever evaluates it on a row's pickup and drop, and it
is `float64` trigonometry, which the model does not evaluate.

A statement the database fails for a reason of its own (a lost connection) is a separate
step of the ledger where the code can see it: `End`'s UPDATE (`LedgerAct.endFail`).
-/

namespace RideService.Trips

open RideService

/-! ## The conditional UPDATE -/

/-- `UPDATE trips SET … WHERE id=$t AND <guard on status>`: rewrites the row by `set` when it
exists and its status passes `guard`. The second component is `RowsAffected()`. -/
def updateWhere (trips : Trips) (t : Uuid) (guard : TripStatus → Bool) (set : Trip → Trip) :
    Trips × Nat :=
  match trips t with
  | some r => if guard r.status then (Function.update trips t (some (set r)), 1) else (trips, 0)
  | none => (trips, 0)

section
variable {trips : Trips} {t t' : Uuid} {guard : TripStatus → Bool} {set : Trip → Trip}

@[simp] theorem updateWhere_apply :
    (updateWhere trips t guard set).1 t' =
      if t' = t then (trips t).map (fun r => if guard r.status then set r else r) else trips t' := by
  unfold updateWhere
  split <;> rename_i h
  · by_cases ht : t' = t
    · subst ht; split <;> simp [h, *]
    · split <;> simp [ht, Function.update_noteq ht]
  · by_cases ht : t' = t
    · subst ht; simp [h]
    · simp [ht]

theorem updateWhere_rows_eq_zero :
    (updateWhere trips t guard set).2 = 0 ↔ ∀ r, trips t = some r → guard r.status = false := by
  unfold updateWhere
  split <;> rename_i h
  · split <;> simp_all
  · simp_all

/-- A statement on another row leaves this one alone. -/
theorem updateWhere_apply_ne (h : t' ≠ t) : (updateWhere trips t guard set).1 t' = trips t' := by
  simp [h]

end

/-- What `AssignDriver`'s UPDATE writes over a row. -/
def assigning (d : Uuid) (r : Trip) : Trip := { r with driverId := some d, status := .driverAssigned }

/-- Its `WHERE … AND status IN ($4,$5)`. -/
def assignGuard (st : TripStatus) : Bool := st == .requested || st == .matching

/-- The UPDATE of `AssignDriver` (`service.go:89`); the `driver.assigned` consumer runs the
same text (`service.go:182`). It reads `$1` (the driver) and `$3` (the trip) as `uuid`s, and
the foreign key of `driver_id` refuses a row it changed to a driver `drivers` does not hold. -/
def assignDriverSql (drivers : List Uuid) (trips : Trips) (t : TripId) (d : DriverId) :
    Except String (Trips × Nat) := do
  let d ← uuidParam d
  let t ← uuidParam t
  let w := updateWhere trips t assignGuard (assigning d)
  if w.2 ≠ 0 ∧ d ∉ drivers then throw (fkViolation "trips_driver_id_fkey") else pure w

/-- **What `AssignDriver`'s UPDATE does when it goes through**: both ids are `uuid`s, the
UPDATE is `updateWhere`, and a row it changed names a driver of `drivers`. -/
theorem assignDriverSql_eq_ok {drivers : List Uuid} {trips : Trips} {t : TripId} {d : DriverId}
    {w : Trips × Nat} (h : assignDriverSql drivers trips t d = .ok w) :
    ∃ u v, uuidIn t = some u ∧ uuidIn d = some v ∧
      w = updateWhere trips u assignGuard (assigning v) ∧ (w.2 ≠ 0 → v ∈ drivers) := by
  simp only [assignDriverSql, except_bind_eq_ok, uuidParam_eq_ok] at h
  obtain ⟨v, hv, u, hu, h⟩ := h
  split at h
  · cases h
  · cases h; exact ⟨u, v, hu, hv, rfl, by tauto⟩

/-- `AssignDriver`'s UPDATE for two `uuid`s and a driver of `drivers`. -/
theorem assignDriverSql_of_mem {drivers : List Uuid} {trips : Trips} {t : TripId} {d : DriverId}
    {u v : Uuid} (ht : uuidIn t = some u) (hd : uuidIn d = some v) (hv : v ∈ drivers) :
    assignDriverSql drivers trips t d = .ok (updateWhere trips u assignGuard (assigning v)) := by
  simp [assignDriverSql, uuidParam, ht, hd, hv, pure, Except.pure]

/-- The errors of `AssignDriver`'s UPDATE: an id that is no `uuid`, or the foreign key. -/
theorem assignDriverSql_eq_error {drivers : List Uuid} {trips : Trips} {t : TripId}
    {d : DriverId} {e : String} (h : assignDriverSql drivers trips t d = .error e) :
    e = invalidUuid d ∨ e = invalidUuid t ∨ e = fkViolation "trips_driver_id_fkey" := by
  unfold assignDriverSql uuidParam at h
  cases hd : uuidIn d with
  | none => simp only [hd, bind, Except.bind, Except.error.injEq] at h; exact .inl h.symm
  | some v =>
    cases ht : uuidIn t with
    | none => simp only [hd, ht, bind, Except.bind, Except.error.injEq] at h; exact .inr (.inl h.symm)
    | some u =>
      simp only [hd, ht, bind, Except.bind] at h
      split at h
      · cases h; exact .inr (.inr rfl)
      · cases h

/-- What `Start`'s UPDATE writes over a row, with the stored clock. -/
def starting (startedAt : Nat) (r : Trip) : Trip :=
  { r with status := .started, startedAt := some startedAt }

/-- The UPDATE of `Start` (`service.go:105`): `$3`, the trip, read as a `uuid`. -/
def startSql (trips : Trips) (t : TripId) (now : Nat) : Except String (Trips × Nat) := do
  let t ← uuidParam t
  pure (updateWhere trips t (· == .driverAssigned) (starting (pgTimestamptz now)))

/-! ## `DECIMAL(12,2)` -/

/-- Rounding to an integer, half away from zero, as PostgreSQL rounds to a `numeric` scale. -/
def roundHalfAway (x : ℚ) : ℤ :=
  if 0 ≤ x then ⌊x + 1 / 2⌋ else -⌊-x + 1 / 2⌋

/-- The assignment cast of a value to `DECIMAL(precision, scale)`: round to `scale`
decimals, and fail when the result needs more than `precision` digits. What is rounded is
the model's exact fare, where the server rounds the decimal text pgx writes of the
`float64`. -/
def numericCast (precision scale : Nat) (x : ℚ) : Except String ℚ :=
  let y := roundHalfAway (x * 10 ^ scale)
  if y.natAbs < 10 ^ precision then .ok (y / 10 ^ scale) else .error "numeric field overflow"

theorem roundHalfAway_intCast (n : ℤ) : roundHalfAway n = n := by
  have half : ⌊(1 / 2 : ℚ)⌋ = 0 := Int.floor_eq_zero_iff.2 ⟨by norm_num, by norm_num⟩
  unfold roundHalfAway
  split
  · rw [Int.floor_int_add, half, add_zero]
  · rw [← Int.cast_neg, Int.floor_int_add, half, add_zero, neg_neg]

/-- A value with at most two decimals that fits the precision is stored as it is. -/
theorem numericCast_exact {x : ℚ} {n : ℤ} (hn : x * 100 = n) (hb : n.natAbs < 10 ^ 12) :
    numericCast 12 2 x = .ok x := by
  have hr : roundHalfAway (x * 10 ^ 2) = n := by
    rw [← roundHalfAway_intCast n, ← hn]; norm_num
  simp only [numericCast, hr, hb, if_true]
  rw [← hn]; norm_num

theorem startSql_eq_ok {trips : Trips} {t : TripId} {now : Nat} {w : Trips × Nat}
    (h : startSql trips t now = .ok w) :
    ∃ u, uuidIn t = some u ∧ w = updateWhere trips u (· == .driverAssigned) (starting (pgTimestamptz now)) := by
  simp only [startSql, except_bind_eq_ok, uuidParam_eq_ok] at h
  obtain ⟨u, hu, h⟩ := h
  cases h
  exact ⟨u, hu, rfl⟩

/-- What `End`'s UPDATE writes over a row: `COMPLETED`, the stored fare, the stored clock. -/
def completing (stored : ℚ) (completedAt : Nat) (r : Trip) : Trip :=
  { r with status := .completed, fare := some stored, completedAt := some completedAt }

/-- The UPDATE of `End` (`service.go:139`): `$4`, the trip, read as a `uuid` when the
statement is bound, and the fare cast to the `fare` column when it runs. Its `WHERE` clause
guards nothing but the id. -/
def endSql (trips : Trips) (t : TripId) (fare : ℚ) (now : Nat) : Except String (Trips × Nat) := do
  let t ← uuidParam t
  let stored ← numericCast 12 2 fare
  pure (updateWhere trips t (fun _ => true) (completing stored (pgTimestamptz now)))

theorem endSql_of_cast {trips : Trips} {t : TripId} {u : Uuid} {fare stored : ℚ} {now : Nat}
    (ht : uuidIn t = some u) (hc : numericCast 12 2 fare = .ok stored) :
    endSql trips t fare now =
      .ok (updateWhere trips u (fun _ => true) (completing stored (pgTimestamptz now))) := by
  simp [endSql, uuidParam, ht, hc, bind, Except.bind, pure, Except.pure]

/-- **The difference of `End`'s UPDATE.** It rewrites a row that is already `COMPLETED`,
where `assignDriverSql` and `startSql` leave a row in a status other than their pre-state
alone. -/
theorem endSql_rewrites_completed {trips : Trips} {t : TripId} {u : Uuid} {r : Trip}
    {fare stored : ℚ} {now : Nat} (ht : uuidIn t = some u) (hr : trips u = some r)
    (hc : numericCast 12 2 fare = .ok stored) :
    ∃ trips', endSql trips t fare now = .ok (trips', 1) ∧
      trips' u = some (completing stored (pgTimestamptz now) r) := by
  rw [endSql_of_cast ht hc]
  simp only [updateWhere, hr, if_true]
  exact ⟨_, rfl, Function.update_same ..⟩

/-! ## The service methods -/

/-- `Service.GetByID` (`service.go:70`): any error of its query, an id that is no `uuid`
included, is `trip not found`. -/
def getByID (trips : Trips) (id : TripId) : Except String Trip :=
  match (uuidIn id).bind trips with
  | some r => .ok r
  | none => .error "trip not found"

/-- The row `Service.Request` inserts (`service.go:36`): `requested_at` is the request's
clock, `created_at` the database's `NOW()`. -/
def requestedTrip (rider : Uuid) (req : TripRequest) (now dbNow : Nat) : Trip where
  riderId := rider
  driverId := none
  pickupLat := req.pickupLat
  pickupLng := req.pickupLng
  dropLat := req.dropLat
  dropLng := req.dropLng
  fare := none
  status := .requested
  requestedAt := some (pgTimestamptz now)
  startedAt := none
  completedAt := none
  createdAt := dbNow

/-- The event `Request`'s goroutine publishes (`service.go:53`): the fresh id's string, the
rider as the claims gave it, and the clock in RFC 3339. -/
def rideRequestedEvent (id : Uuid) (riderId : UserId) (req : TripRequest) (now : Nat) :
    RideRequestedEvent where
  tripId := uuidOut id
  riderId := riderId
  pickup := ⟨req.pickupLat, req.pickupLng⟩
  drop := ⟨req.dropLat, req.dropLng⟩
  requestedAt := rfc3339 now

/-- `Service.Request` (`service.go:32`), with the `uuid.New()` it draws as `id` and `users`
the ids the foreign key of `rider_id` reads: the INSERT — `$2` read as a `uuid`, then the
primary key, then the foreign key — and the event of the publish goroutine it starts. The
`*Trip` it returns is built from the request's own values; the handler writes its `ID` and
its `Status`, which are `id` and `REQUESTED`. -/
def request (users : List Uuid) (trips : Trips) (id : Uuid) (riderId : UserId) (req : TripRequest)
    (now dbNow : Nat) : Except String (Trips × RideRequestedEvent) := do
  let rider ← uuidParam riderId
  if (trips id).isSome then throw (uniqueViolation "trips_pkey")
  else if rider ∉ users then throw (fkViolation "trips_rider_id_fkey")
  else pure (Function.update trips id (some (requestedTrip rider req now dbNow)),
    rideRequestedEvent id riderId req now)

/-- `Request` for a fresh id and a rider of `users`. -/
theorem request_of_fresh {users : List Uuid} {trips : Trips} {id rider : Uuid} {riderId : UserId}
    (hr : uuidIn riderId = some rider) (hn : trips id = none) (hu : rider ∈ users)
    (req : TripRequest) (now dbNow : Nat) :
    request users trips id riderId req now dbNow =
      .ok (Function.update trips id (some (requestedTrip rider req now dbNow)),
        rideRequestedEvent id riderId req now) := by
  simp [request, uuidParam, hr, hn, hu, pure, Except.pure]

/-- `Service.AssignDriver` (`service.go:87`): the UPDATE, then `GetByID` if it changed a
row. -/
def assignDriver (drivers : List Uuid) (trips : Trips) (t : TripId) (d : DriverId) :
    Trips × Except String Trip :=
  match assignDriverSql drivers trips t d with
  | .ok w => (w.1, if w.2 = 0 then .error "trip not found or invalid state for assignment"
      else getByID w.1 t)
  | .error e => (trips, .error e)

/-- `Service.Start` (`service.go:102`). -/
def start (trips : Trips) (t : TripId) (now : Nat) : Trips × Except String Trip :=
  match startSql trips t now with
  | .ok w => (w.1, if w.2 = 0 then .error "trip not found or not in DRIVER_ASSIGNED state"
      else getByID w.1 t)
  | .error e => (trips, .error e)

/-- The handler of `StartDriverAssignedConsumer` (`service.go:175`) on a decoded event: the
AssignDriver UPDATE, whose affected-row count it ignores; it returns the UPDATE's error. -/
def driverAssignedHandler (drivers : List Uuid) (trips : Trips) (ev : DriverAssignedEvent) :
    Except String Trips :=
  (assignDriverSql drivers trips ev.tripId ev.driverId).map (·.1)

/-- `Service.End` up to its status check (`service.go:119`). -/
def endRead (trips : Trips) (t : TripId) : Except String Trip :=
  match getByID trips t with
  | .ok trip => if trip.status = .started then .ok trip else .error "trip not in STARTED state"
  | .error e => .error e

theorem endRead_eq_ok {trips : Trips} {t : TripId} {trip : Trip}
    (h : endRead trips t = .ok trip) :
    ∃ u, uuidIn t = some u ∧ trips u = some trip ∧ trip.status = .started := by
  unfold endRead getByID at h
  cases ht : (uuidIn t).bind trips with
  | none => simp [ht] at h
  | some r =>
    simp only [ht] at h
    obtain ⟨u, hu, hr⟩ := Option.bind_eq_some.1 ht
    split at h
    · cases h; exact ⟨u, hu, hr, ‹_›⟩
    · cases h

/-- The distance `End` charges for (`service.go:127`): `distKm` when it is given and
positive, the haversine distance from pickup to drop otherwise. -/
def tripKm (haversineKm : ℚ → ℚ → ℚ → ℚ → ℚ) (trip : Trip) (distKm : Option ℚ) : ℚ :=
  match distKm.filter (fun k => decide (0 < k)) with
  | some k => k
  | none => haversineKm trip.pickupLat trip.pickupLng trip.dropLat trip.dropLng

@[simp] theorem tripKm_of_pos {haversineKm : ℚ → ℚ → ℚ → ℚ → ℚ} {trip : Trip} {k : ℚ}
    (h : 0 < k) : tripKm haversineKm trip (some k) = k := by
  simp [tripKm, Option.filter, h]

/-- `fare := 50.0 + km*12.0` (`service.go:135`). -/
def fareFor (km : ℚ) : ℚ := 50 + km * 12

/-- The `TripCompletedEvent` of `End`'s goroutine (`service.go:158`), built from the trip
`End` read, not from the row after its UPDATE: the id as the path gave it, the ids the row
read back into strings, the fare before its cast, and the clock of `End` in RFC 3339 and
less the stored start. -/
def completedEvent (t : TripId) (trip : Trip) (fare : ℚ) (now : Nat) : TripCompletedEvent where
  tripId := t
  driverId := (trip.driverId.map uuidOut).getD ""
  riderId := uuidOut trip.riderId
  fare := fare
  completedAt := rfc3339 now
  durationSeconds := match trip.startedAt with
    | some s => durationSeconds now s
    | none => 0

/-- `Service.End` from its distance on (`service.go:126`–`:170`), given the trip its
`GetByID` read: the table after the UPDATE, the event of the publish goroutine it starts,
and what `End` returns. -/
def endUpdate (haversineKm : ℚ → ℚ → ℚ → ℚ → ℚ) (trips : Trips) (t : TripId) (trip : Trip)
    (distKm : Option ℚ) (now : Nat) :
    Except String (Trips × TripCompletedEvent × Except String Trip) :=
  let fare := fareFor (tripKm haversineKm trip distKm)
  match endSql trips t fare now with
  | .ok w => .ok (w.1, completedEvent t trip fare now, getByID w.1 t)
  | .error e => .error e

/-- **`End`'s second half, when it gets through.** Its fare cast to `DECIMAL(12,2)`, the
table after its UPDATE, and the event it publishes. -/
theorem endUpdate_eq_ok {haversineKm : ℚ → ℚ → ℚ → ℚ → ℚ} {trips : Trips} {t : TripId}
    {trip : Trip} {distKm : Option ℚ} {now : Nat}
    {w : Trips × TripCompletedEvent × Except String Trip}
    (h : endUpdate haversineKm trips t trip distKm now = .ok w) :
    ∃ u stored, uuidIn t = some u ∧
      numericCast 12 2 (fareFor (tripKm haversineKm trip distKm)) = .ok stored ∧
      w.1 = (updateWhere trips u (fun _ => true) (completing stored (pgTimestamptz now))).1 ∧
      w.2.1 = completedEvent t trip (fareFor (tripKm haversineKm trip distKm)) now ∧
      w.2.2 = getByID w.1 t := by
  unfold endUpdate at h
  dsimp only at h
  cases hu : uuidIn t with
  | none => simp [endSql, uuidParam, hu, bind, Except.bind] at h
  | some u =>
    cases hc : numericCast 12 2 (fareFor (tripKm haversineKm trip distKm)) with
    | error e => simp [endSql, uuidParam, hu, hc, bind, Except.bind] at h
    | ok stored =>
      rw [endSql_of_cast hu hc] at h
      cases h
      exact ⟨u, stored, rfl, rfl, rfl, rfl, rfl⟩

end RideService.Trips
