import RideService.Trips.Service

/-!
# The trip ledger as a transition system

The `trips` table together with the `End` calls in flight, driven by every request the
trip service serves and by the `driver.assigned` consumer. A step is one atomic statement
of the code: `Request`'s INSERT, `AssignDriver`'s and `Start`'s conditional UPDATE (the
`GetByID` after each only reads), one delivery to the consumer, and the two halves of
`End` — its `GetByID` with the status check, and its UPDATE. `End`'s goroutine publishing
`trip.completed`, like `Request`'s publishing `ride.requested`, runs later: a step hands
the event it starts publishing to the caller as an `Outgoing`.

Deliveries to the consumer are arbitrary events (`LedgerAct.consume`): any trip, any
driver, as often and in whatever order the broker delivers them. A statement with a foreign
key carries the ids the referenced table holds as it runs (`users`, `drivers`): the service
around the ledger supplies them.

`Ledger.next_trips` and `Ledger.mem_next_ends` say once what a step can do to the table and
to the `End` calls; the invariants of `RideService.Trips.Lifecycle` are derived from them.
-/

namespace RideService.Trips

open RideService

/-- Where one `End` call is: turned away by its status check; between its read and its
UPDATE, holding the trip it read; or returned after its UPDATE, successfully or not. -/
inductive EndPhase
  | rejected
  | read (trip : Trip)
  | returned (ok : Bool)
  deriving DecidableEq, Repr

/-- One `PATCH /trips/{id}/end` call: the trip, the optional `distanceKm` of its body, and
where it is. -/
structure EndCall where
  tripId : TripId
  distKm : Option ℚ
  phase : EndPhase
  deriving DecidableEq, Repr

/-- The ledger: the `trips` table and every `End` call made so far. -/
structure Ledger where
  trips : Trips
  ends : List EndCall

/-- An event a step starts publishing, in a goroutine of its own. -/
inductive Outgoing
  | rideRequested (ev : RideRequestedEvent)
  | tripCompleted (ev : TripCompletedEvent)
  deriving DecidableEq, Repr

/-- The atomic steps of the trip service. -/
inductive LedgerAct
  /-- `POST /trips/request` by `riderId`, with the fresh id `uuid.New()` drew, the clocks of
  the request and of the database, and the ids of `users`. -/
  | request (id : Uuid) (riderId : UserId) (req : TripRequest) (now dbNow : Nat)
      (users : List Uuid)
  /-- `PATCH /trips/{t}/assign` with body `driverId`, and the ids of `drivers`. -/
  | assign (t : TripId) (d : DriverId) (drivers : List Uuid)
  /-- One delivery of a `driver.assigned` message to the consumer, and the ids of
  `drivers`. -/
  | consume (ev : DriverAssignedEvent) (drivers : List Uuid)
  /-- `PATCH /trips/{t}/start`. -/
  | start (t : TripId) (now : Nat)
  /-- A new `PATCH /trips/{t}/end` call, up to its status check. -/
  | endRead (t : TripId) (distKm : Option ℚ)
  /-- The rest of the `End` call at index `call`. -/
  | endUpdate (call : Nat) (now : Nat)
  /-- The UPDATE of the `End` call at index `call` failing in the database. -/
  | endFail (call : Nat)
  deriving DecidableEq, Repr

/-- No trips, no calls. -/
def Ledger.init : Ledger := ⟨fun _ => none, []⟩

/-- The trip a call holds while it is between read and UPDATE. -/
def EndCall.readTrip? (c : EndCall) : Option Trip :=
  match c.phase with
  | .read trip => some trip
  | _ => none

/-- The `End` call at index `i`, if it is between read and UPDATE, with the trip it read. -/
def Ledger.pendingEnd (L : Ledger) (i : Nat) : Option (EndCall × Trip) :=
  L.ends[i]? >>= fun c => c.readTrip?.map (c, ·)

/-- The ledger after the `End` call at index `i` returned. -/
def Ledger.returnEnd (L : Ledger) (i : Nat) (c : EndCall) (ok : Bool) : Ledger :=
  { L with ends := L.ends.set i { c with phase := .returned ok } }

theorem Ledger.pendingEnd_eq_some {L : Ledger} {i : Nat} {c : EndCall} {trip : Trip}
    (h : L.pendingEnd i = some (c, trip)) : c ∈ L.ends ∧ c.phase = .read trip := by
  simp only [Ledger.pendingEnd, Option.bind_eq_bind, Option.bind_eq_some, Option.map_eq_some',
    Prod.mk.injEq] at h
  obtain ⟨c', hc', trip', ht, rfl, rfl⟩ := h
  refine ⟨List.getElem?_mem hc', ?_⟩
  unfold EndCall.readTrip? at ht
  split at ht <;> simp_all

theorem Ledger.pendingEnd_getElem? {L : Ledger} {i : Nat} {c : EndCall} {trip : Trip}
    (h : L.pendingEnd i = some (c, trip)) : L.ends[i]? = some c := by
  simp only [Ledger.pendingEnd, Option.bind_eq_bind, Option.bind_eq_some, Option.map_eq_some',
    Prod.mk.injEq] at h
  obtain ⟨c', hc', -, -, rfl, -⟩ := h
  exact hc'

section
variable (haversineKm : ℚ → ℚ → ℚ → ℚ → ℚ)

/-- One step of the trip service, and the event it starts publishing, if any. -/
def Ledger.step (L : Ledger) : LedgerAct → Ledger × List Outgoing
  | .request id riderId req now dbNow users =>
    match request users L.trips id riderId req now dbNow with
    | .ok (trips', ev) => ({ L with trips := trips' }, [.rideRequested ev])
    | .error _ => (L, [])
  | .assign t d drivers => ({ L with trips := (assignDriver drivers L.trips t d).1 }, [])
  | .consume ev drivers =>
    match driverAssignedHandler drivers L.trips ev with
    | .ok trips' => ({ L with trips := trips' }, [])
    | .error _ => (L, [])
  | .start t now => ({ L with trips := (start L.trips t now).1 }, [])
  | .endRead t distKm =>
    match endRead L.trips t with
    | .ok trip => ({ L with ends := L.ends ++ [⟨t, distKm, .read trip⟩] }, [])
    | .error _ => ({ L with ends := L.ends ++ [⟨t, distKm, .rejected⟩] }, [])
  | .endUpdate i now =>
    match L.pendingEnd i with
    | some (c, trip) =>
      match endUpdate haversineKm L.trips c.tripId trip c.distKm now with
      | .ok w => (⟨w.1, L.ends.set i { c with phase := .returned w.2.2.toBool }⟩,
          [.tripCompleted w.2.1])
      | .error _ => (L.returnEnd i c false, [])
    | none => (L, [])
  | .endFail i =>
    match L.pendingEnd i with
    | some (c, _) => (L.returnEnd i c false, [])
    | none => (L, [])

/-- The ledger after a step. -/
def Ledger.next (L : Ledger) (a : LedgerAct) : Ledger := (L.step haversineKm a).1

/-- The ledger after a run of steps. -/
def Ledger.run (L : Ledger) (acts : List LedgerAct) : Ledger :=
  acts.foldl (Ledger.next haversineKm) L

/-- The ledger after a run of steps, and the events the run started publishing. -/
def Ledger.exec (L : Ledger) : List LedgerAct → Ledger × List Outgoing
  | [] => (L, [])
  | a :: acts =>
    let r := (L.step haversineKm a).1.exec acts
    (r.1, (L.step haversineKm a).2 ++ r.2)

theorem Ledger.exec_nil (L : Ledger) : L.exec haversineKm [] = (L, []) := rfl

theorem Ledger.exec_cons (L : Ledger) (a : LedgerAct) (acts : List LedgerAct) :
    L.exec haversineKm (a :: acts) = (((L.step haversineKm a).1.exec haversineKm acts).1,
      (L.step haversineKm a).2 ++ ((L.step haversineKm a).1.exec haversineKm acts).2) := rfl

/-- `End`'s read starts no publish. -/
@[simp] theorem Ledger.step_endRead_snd (L : Ledger) (t : TripId) (distKm : Option ℚ) :
    (L.step haversineKm (.endRead t distKm)).2 = [] := by
  simp only [Ledger.step]; split <;> rfl

/-- The consumer starts no publish. -/
@[simp] theorem Ledger.step_consume_snd (L : Ledger) (ev : DriverAssignedEvent)
    (drivers : List Uuid) : (L.step haversineKm (.consume ev drivers)).2 = [] := by
  simp only [Ledger.step]; split <;> rfl

/-- The ledgers some run from the empty one reaches. -/
def Ledger.Reachable (L : Ledger) : Prop := ∃ acts, Ledger.init.run haversineKm acts = L

@[simp] theorem Ledger.run_nil (L : Ledger) : L.run haversineKm [] = L := rfl

@[simp] theorem Ledger.run_cons (L : Ledger) (a : LedgerAct) (acts : List LedgerAct) :
    L.run haversineKm (a :: acts) = (L.next haversineKm a).run haversineKm acts := rfl

theorem Ledger.Reachable.init : Ledger.init.Reachable haversineKm := ⟨[], rfl⟩

theorem Ledger.Reachable.next {L : Ledger} (h : L.Reachable haversineKm) (a : LedgerAct) :
    (L.next haversineKm a).Reachable haversineKm := by
  obtain ⟨acts, rfl⟩ := h
  exact ⟨acts ++ [a], by simp [Ledger.run, List.foldl_append]⟩

/-- Induction over the reachable ledgers: a property of the empty ledger that every step
keeps holds of all of them. -/
theorem Ledger.Reachable.induction {P : Ledger → Prop} (h0 : P Ledger.init)
    (hs : ∀ L a, L.Reachable haversineKm → P L → P (L.next haversineKm a)) :
    ∀ L, L.Reachable haversineKm → P L := by
  suffices ∀ acts L, L.Reachable haversineKm → P L → P (L.run haversineKm acts) by
    rintro L ⟨acts, rfl⟩
    exact this acts _ (Ledger.Reachable.init haversineKm) h0
  intro acts
  induction acts with
  | nil => exact fun _ _ h => h
  | cons a acts ih => exact fun L hL h => ih _ (hL.next haversineKm a) (hs L a hL h)

/-! ## What a step can do -/

/-- **The effects of one step** `b` of the ledger: the ledger after it, and the events it
starts publishing. One constructor per statement of the code that changes something, with
the guard under which it runs. -/
inductive Ledger.Moves (L : Ledger) (b : LedgerAct) : Ledger × List Outgoing → Prop
  /-- Nothing changes: a duplicate id, an index of no pending call. -/
  | stay : Ledger.Moves L b (L, [])
  /-- `Request`'s INSERT, and its publish of `ride.requested`. -/
  | insert (id : Uuid) (riderId : UserId) (req : TripRequest) (now dbNow : Nat)
      (users : List Uuid) (rider : Uuid) (hb : b = .request id riderId req now dbNow users)
      (hr : uuidIn riderId = some rider) (hn : L.trips id = none) (hu : rider ∈ users) :
      Ledger.Moves L b
        ({ L with trips := Function.update L.trips id (some (requestedTrip rider req now dbNow)) },
          [.rideRequested (rideRequestedEvent id riderId req now)])
  /-- The UPDATE of `AssignDriver`, manual or run by the consumer. -/
  | assign (ts ds : String) (drivers : List Uuid) (t d : Uuid)
      (hb : b = .assign ts ds drivers ∨ b = .consume ⟨ts, ds⟩ drivers)
      (ht : uuidIn ts = some t) (hd : uuidIn ds = some d)
      (hk : (updateWhere L.trips t assignGuard (assigning d)).2 ≠ 0 → d ∈ drivers) :
      Ledger.Moves L b ({ L with trips := (updateWhere L.trips t assignGuard (assigning d)).1 }, [])
  /-- The UPDATE of `Start`. -/
  | start (ts : String) (t : Uuid) (now : Nat) (hb : b = .start ts now) (ht : uuidIn ts = some t) :
      Ledger.Moves L b
        ({ L with trips := (updateWhere L.trips t (· == .driverAssigned)
          (starting (pgTimestamptz now))).1 }, [])
  /-- `End`'s read lets the call through. -/
  | read (t : TripId) (distKm : Option ℚ) (trip : Trip) (hb : b = .endRead t distKm)
      (h : endRead L.trips t = .ok trip) :
      Ledger.Moves L b ({ L with ends := L.ends ++ [⟨t, distKm, .read trip⟩] }, [])
  /-- `End`'s read turns the call away. -/
  | reject (t : TripId) (distKm : Option ℚ) (hb : b = .endRead t distKm)
      (h : ∀ trip, endRead L.trips t ≠ .ok trip) :
      Ledger.Moves L b ({ L with ends := L.ends ++ [⟨t, distKm, .rejected⟩] }, [])
  /-- `End`'s UPDATE, and its publish of `trip.completed`. -/
  | complete (i now : Nat) (c : EndCall) (trip : Trip) (u : Uuid) (stored : ℚ) (ok : Bool)
      (hb : b = .endUpdate i now) (hp : L.pendingEnd i = some (c, trip))
      (hu : uuidIn c.tripId = some u)
      (hc : numericCast 12 2 (fareFor (tripKm haversineKm trip c.distKm)) = .ok stored) :
      Ledger.Moves L b
        (⟨(updateWhere L.trips u (fun _ => true) (completing stored (pgTimestamptz now))).1,
            L.ends.set i { c with phase := .returned ok }⟩,
          [.tripCompleted (completedEvent c.tripId trip (fareFor (tripKm haversineKm trip c.distKm)) now)])
  /-- `End`'s UPDATE fails: the fare overflows `DECIMAL(12,2)`, or the database fails it. -/
  | fail (i : Nat) (c : EndCall) (trip : Trip) (hp : L.pendingEnd i = some (c, trip)) :
      Ledger.Moves L b (L.returnEnd i c false, [])

/-- Every step is one of the effects of `Ledger.Moves`. -/
theorem Ledger.step_moves (L : Ledger) (b : LedgerAct) :
    Ledger.Moves haversineKm L b (L.step haversineKm b) := by
  cases b with
  | request id riderId req now dbNow users =>
    simp only [Ledger.step]
    split
    · rename_i w hw
      simp only [request, except_bind_eq_ok, uuidParam_eq_ok] at hw
      obtain ⟨rider, hr, hw⟩ := hw
      split at hw
      · cases hw
      · split at hw
        · cases hw
        · cases hw
          exact .insert id riderId req now dbNow users rider rfl hr
            (Option.not_isSome_iff_eq_none.1 ‹_›) (not_not.1 ‹_›)
    · exact .stay
  | assign t d drivers =>
    simp only [Ledger.step, assignDriver]
    split
    · rename_i w hw
      obtain ⟨u, v, hu, hv, rfl, hk⟩ := assignDriverSql_eq_ok hw
      exact .assign t d drivers u v (.inl rfl) hu hv hk
    · exact .stay
  | consume ev drivers =>
    simp only [Ledger.step, driverAssignedHandler]
    split
    · rename_i trips' hw
      obtain ⟨w, hw', rfl⟩ := except_map_eq_ok.1 hw
      obtain ⟨u, v, hu, hv, rfl, hk⟩ := assignDriverSql_eq_ok hw'
      exact .assign ev.tripId ev.driverId drivers u v (.inr rfl) hu hv hk
    · exact .stay
  | start t now =>
    simp only [Ledger.step, start]
    split
    · rename_i w hw
      obtain ⟨u, hu, rfl⟩ := startSql_eq_ok hw
      exact .start t u now rfl hu
    · exact .stay
  | endRead t distKm =>
    simp only [Ledger.step]
    split
    · exact .read t distKm _ rfl ‹_›
    · rename_i e h
      exact .reject t distKm rfl fun trip h' => by rw [h] at h'; cases h'
  | endUpdate i now =>
    simp only [Ledger.step]
    split
    · rename_i c trip hp
      split
      · rename_i w hw
        obtain ⟨u, stored, hu, hc, h1, h2, -⟩ := endUpdate_eq_ok hw
        rw [h1, h2]
        exact .complete i now c trip u stored _ rfl hp hu hc
      · exact .fail i c trip hp
    · exact .stay
  | endFail i =>
    simp only [Ledger.step]
    split
    · exact .fail i _ _ ‹_›
    · exact .stay

/-- **What a step does to the table.** It leaves it alone, inserts a `REQUESTED` row under
a new id, or runs one of the three UPDATEs — `End`'s only for a call that read its trip. -/
theorem Ledger.next_trips (L : Ledger) (a : LedgerAct) :
    (L.next haversineKm a).trips = L.trips ∨
    (∃ id rider req now dbNow, L.trips id = none ∧
      (L.next haversineKm a).trips =
        Function.update L.trips id (some (requestedTrip rider req now dbNow))) ∨
    (∃ t d, (L.next haversineKm a).trips = (updateWhere L.trips t assignGuard (assigning d)).1) ∨
    (∃ t now, (L.next haversineKm a).trips =
      (updateWhere L.trips t (· == .driverAssigned) (starting now)).1) ∨
    (∃ c ∈ L.ends, ∃ trip u stored now, uuidIn c.tripId = some u ∧ c.phase = .read trip ∧
      (L.next haversineKm a).trips =
        (updateWhere L.trips u (fun _ => true) (completing stored now)).1) := by
  unfold Ledger.next
  have h := L.step_moves haversineKm a
  generalize L.step haversineKm a = p at h ⊢
  cases h with
  | stay | read | reject | fail => exact .inl rfl
  | insert id riderId req now dbNow users rider _ _ hn =>
    exact .inr (.inl ⟨id, rider, req, now, dbNow, hn, rfl⟩)
  | assign ts ds drivers t d => exact .inr (.inr (.inl ⟨t, d, rfl⟩))
  | start ts t now => exact .inr (.inr (.inr (.inl ⟨t, _, rfl⟩)))
  | complete i now c trip u stored ok _ hp hu =>
    obtain ⟨hc, hr⟩ := Ledger.pendingEnd_eq_some hp
    exact .inr (.inr (.inr (.inr ⟨c, hc, trip, u, stored, _, hu, hr, rfl⟩)))

/-- **What a step does to the `End` calls.** A call between read and UPDATE after the step
was one before it, or is new and read its trip `STARTED`. -/
theorem Ledger.mem_next_ends {L : Ledger} {a : LedgerAct} {c : EndCall} {trip : Trip}
    (hc : c ∈ (L.next haversineKm a).ends) (hr : c.phase = .read trip) :
    c ∈ L.ends ∨ endRead L.trips c.tripId = .ok trip := by
  unfold Ledger.next at hc
  have h := L.step_moves haversineKm a
  generalize L.step haversineKm a = p at h hc
  cases h with
  | stay | insert | assign | start => exact .inl hc
  | read t distKm trip' _ h =>
    rcases List.mem_append.1 hc with hc | hc
    · exact .inl hc
    · rw [List.mem_singleton.1 hc] at hr ⊢; cases hr; exact .inr h
  | reject t distKm =>
    rcases List.mem_append.1 hc with hc | hc
    · exact .inl hc
    · rw [List.mem_singleton.1 hc] at hr; cases hr
  | complete i now c' | fail i c' =>
    rcases List.mem_or_eq_of_mem_set hc with hc | rfl
    · exact .inl hc
    · cases hr

end

end RideService.Trips
