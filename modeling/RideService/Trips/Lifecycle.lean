import RideService.Trips.Ledger

/-!
# The lifecycle of a trip over every run of the ledger

Three facts about every run of `Ledger.step`, whatever the interleaving of requests,
deliveries to the `driver.assigned` consumer and halves of `End` calls:

* a row only moves along `REQUESTED → DRIVER_ASSIGNED → STARTED → COMPLETED`, one state
  at a time, and its `driver_id` is only written over a `NULL` (`Ledger.Inv.rowStep`);
* a row's nullable columns agree with its status (`Ledger.Inv.agrees`);
* of all assignment attempts on a trip, at most one changes its row
  (`Ledger.effectiveAssigns_le_one`), and a manual one that changes nothing answers with
  an error (`assignDriver_error_of_unchanged`).

The invariant `Ledger.Inv` adds to the agreement of the rows what `End`'s unguarded UPDATE
needs: a call between its read and its UPDATE has a row that is `STARTED` or `COMPLETED`.
So that UPDATE only ever moves `STARTED` to `COMPLETED` or rewrites `COMPLETED`. The step
lemmas go through the inversion `Ledger.next_trips` and, for the three UPDATEs, through
`updateWhere_cases`.
-/

namespace RideService.Trips

open RideService

/-! ## How one step may change one row -/

/-- The change one step may make to one row: create it at `REQUESTED`, keep its status or
move it one state along the lifecycle, never delete it, and write `driver_id` only over
a `NULL`. -/
def RowStep : Option Trip → Option Trip → Prop
  | none, none => True
  | none, some r => r.status = .requested
  | some _, none => False
  | some r, some r' =>
    (r'.status = r.status ∨ Advances r.status r'.status) ∧
      (r'.driverId ≠ r.driverId → r.driverId = none)

theorem RowStep.refl : ∀ o, RowStep o o
  | none => trivial
  | some _ => ⟨.inl rfl, fun h => absurd rfl h⟩

/-- A row, once inserted, stays. -/
theorem RowStep.isSome {o o' : Option Trip} (h : RowStep o o') (ho : o.isSome) : o'.isSome := by
  match o, o', h with
  | some _, some _, _ => rfl
  | none, _, _ => cases ho

/-- A row past `Start` stays past it. -/
theorem RowStep.hasStarted {r : Trip} {o : Option Trip} (h : RowStep (some r) o)
    (hs : r.status.hasStarted = true) : ∃ r', o = some r' ∧ r'.status.hasStarted = true := by
  match o, h with
  | some r', ⟨hst, _⟩ =>
    refine ⟨r', rfl, ?_⟩
    rcases hst with hst | hst
    · rwa [hst]
    · unfold Advances at hst
      rcases hst with ⟨h1, -⟩ | ⟨h1, -⟩ | ⟨-, h2⟩ <;> simp_all [TripStatus.hasStarted]

/-- A row with a driver keeps it. -/
theorem RowStep.driverId {r : Trip} {o : Option Trip} (h : RowStep (some r) o)
    (hd : r.driverId ≠ none) : ∃ r', o = some r' ∧ r'.driverId = r.driverId := by
  match o, h with
  | some r', ⟨_, hdr⟩ => exact ⟨r', rfl, by_contra fun hne => hd (hdr hne)⟩

/-- **The statement family, inverted.** After one `updateWhere`, a row is the old one, or
the rewrite of the old row at the target when its status passed the guard. -/
theorem updateWhere_cases (trips : Trips) (t t' : Uuid) (guard : TripStatus → Bool)
    (set : Trip → Trip) :
    (updateWhere trips t guard set).1 t' = trips t' ∨
      t' = t ∧ ∃ r, trips t = some r ∧ guard r.status = true ∧
        (updateWhere trips t guard set).1 t' = some (set r) := by
  rw [updateWhere_apply]
  by_cases ht : t' = t
  · subst ht
    cases trips t' with
    | none => exact .inl (by simp)
    | some r => by_cases hg : guard r.status <;> simp [hg]
  · exact .inl (if_neg ht)

/-- The rewrite of `AssignDriver`'s UPDATE on an agreeing row it accepts. -/
theorem assign_rewrite {r : Trip} {d : Uuid} (h : r.Agrees) (hg : assignGuard r.status = true) :
    RowStep (some r) (some (assigning d r)) ∧ (assigning d r).Agrees := by
  obtain ⟨⟨hm, -⟩, hd, hs, hf, hc⟩ := h
  have hreq : r.status = .requested := by
    revert hg hm; cases r.status <;> simp [assignGuard]
  rw [hreq] at hd hs hf hc
  refine ⟨⟨.inr (.inl ⟨hreq, rfl⟩), fun _ => ?_⟩, ⟨by simp [assigning], ?_, ?_, ?_, ?_⟩⟩ <;>
    simp_all [assigning, TripStatus.hasDriver, TripStatus.hasStarted]

/-- The rewrite of `Start`'s UPDATE on an agreeing row it accepts. -/
theorem start_rewrite {r : Trip} {now : Nat} (h : r.Agrees)
    (hg : (r.status == .driverAssigned) = true) :
    RowStep (some r) (some (starting now r)) ∧ (starting now r).Agrees := by
  obtain ⟨-, hd, hs, hf, hc⟩ := h
  have hda : r.status = .driverAssigned := by simpa using hg
  rw [hda] at hd hs hf hc
  refine ⟨⟨.inr (.inr (.inl ⟨hda, rfl⟩)), fun h => absurd rfl h⟩, ⟨by simp [starting], ?_, ?_, ?_, ?_⟩⟩ <;>
    simp_all [starting, TripStatus.hasDriver, TripStatus.hasStarted]

/-- The rewrite of `End`'s UPDATE on an agreeing row past `Start`. -/
theorem complete_rewrite {r : Trip} {stored : ℚ} {now : Nat} (h : r.Agrees)
    (hs : r.status.hasStarted = true) :
    RowStep (some r) (some (completing stored now r)) ∧ (completing stored now r).Agrees := by
  obtain ⟨-, hd, hst, -, -⟩ := h
  have hsc : r.status = .started ∨ r.status = .completed := by
    revert hs; cases r.status <;> simp [TripStatus.hasStarted]
  refine ⟨⟨?_, fun h => absurd rfl h⟩, ⟨by simp [completing], ?_, ?_, by simp [completing],
    by simp [completing]⟩⟩
  · rcases hsc with hsc | hsc
    · exact .inr (.inr (.inr ⟨hsc, rfl⟩))
    · exact .inl hsc.symm
  · rcases hsc with hsc | hsc <;> simp_all [completing, TripStatus.hasDriver]
  · rcases hsc with hsc | hsc <;> simp_all [completing, TripStatus.hasStarted]

/-- A new row agrees with its status. -/
theorem requestedTrip_agrees (rider : Uuid) (req : TripRequest) (now dbNow : Nat) :
    (requestedTrip rider req now dbNow).Agrees :=
  ⟨by simp [requestedTrip], rfl, rfl, rfl, rfl⟩

/-! ## The ledger invariant -/

/-- What holds of every reachable ledger. -/
structure Ledger.Inv (L : Ledger) : Prop where
  agrees : ∀ t r, L.trips t = some r → r.Agrees
  ends : ∀ c ∈ L.ends, ∀ trip, c.phase = .read trip →
    ∃ u r, uuidIn c.tripId = some u ∧ L.trips u = some r ∧ r.status.hasStarted = true

section
variable (haversineKm : ℚ → ℚ → ℚ → ℚ → ℚ) {L : Ledger}

theorem Ledger.Inv.init : Ledger.init.Inv :=
  ⟨fun _ _ h => (nomatch h), fun _ h => (nomatch h)⟩

/-- **One step, one row.** Every step moves every row by `RowStep`, and keeps rows agreeing
with their status. -/
theorem Ledger.Inv.rowStep (hi : L.Inv) (a : LedgerAct) (t : Uuid) :
    RowStep (L.trips t) ((L.next haversineKm a).trips t) ∧
      ∀ r', (L.next haversineKm a).trips t = some r' → r'.Agrees := by
  have keep : ∀ r', L.trips t = some r' → r'.Agrees := hi.agrees t
  /- the three UPDATEs: the row is the old one or a rewrite the member lemma covers -/
  have upd : ∀ {t₀ guard set}, (∀ r, L.trips t₀ = some r → guard r.status = true →
      RowStep (some r) (some (set r)) ∧ (set r).Agrees) →
      RowStep (L.trips t) ((updateWhere L.trips t₀ guard set).1 t) ∧
        ∀ r', (updateWhere L.trips t₀ guard set).1 t = some r' → r'.Agrees := by
    intro t₀ guard set hset
    rcases updateWhere_cases L.trips t₀ t guard set with h | ⟨rfl, r, hr, hg, h⟩ <;> rw [h]
    · exact ⟨RowStep.refl _, keep⟩
    · obtain ⟨h1, h2⟩ := hset r hr hg
      exact ⟨hr ▸ h1, fun r' hr' => Option.some.inj hr' ▸ h2⟩
  rcases Ledger.next_trips haversineKm L a with h | ⟨id, rider, req, now, dbNow, hnone, h⟩ |
    ⟨t₀, d, h⟩ | ⟨t₀, now, h⟩ | ⟨c, hc, trip, u, stored, now, hu, hr, h⟩ <;> rw [h]
  · exact ⟨RowStep.refl _, keep⟩
  · by_cases ht : t = id
    · subst ht
      simp only [Function.update_same, hnone, Option.some.injEq, forall_eq']
      exact ⟨rfl, requestedTrip_agrees rider req now dbNow⟩
    · simp only [Function.update_noteq ht]
      exact ⟨RowStep.refl _, keep⟩
  · exact upd fun r hr hg => assign_rewrite (hi.agrees _ r hr) hg
  · exact upd fun r hr hg => start_rewrite (hi.agrees _ r hr) hg
  · refine upd fun r hr' _ => complete_rewrite (hi.agrees _ r hr') ?_
    obtain ⟨u₀, r₀, hu₀, hr₀, hs⟩ := hi.ends c hc trip hr
    rw [hu] at hu₀; cases hu₀
    rw [hr₀] at hr'; cases hr'; exact hs

theorem Ledger.Inv.next (hi : L.Inv) (a : LedgerAct) : (L.next haversineKm a).Inv where
  agrees t := (hi.rowStep haversineKm a t).2
  ends c hc trip hr := by
    rcases Ledger.mem_next_ends haversineKm hc hr with hc | he
    · obtain ⟨u, r, hu, hr', hs⟩ := hi.ends c hc trip hr
      have := (hi.rowStep haversineKm a u).1
      rw [hr'] at this
      obtain ⟨r', h', hs'⟩ := this.hasStarted hs
      exact ⟨u, r', hu, h', hs'⟩
    · obtain ⟨u, hu, h, hs⟩ := endRead_eq_ok he
      have := (hi.rowStep haversineKm a u).1
      rw [h] at this
      obtain ⟨r', h', hs'⟩ := this.hasStarted (by simp [hs, TripStatus.hasStarted])
      exact ⟨u, r', hu, h', hs'⟩

/-- Every reachable ledger satisfies the invariant. -/
theorem Ledger.Reachable.inv (h : L.Reachable haversineKm) : L.Inv :=
  Ledger.Reachable.induction haversineKm (P := Ledger.Inv) Ledger.Inv.init
    (fun _ a _ hi => hi.next haversineKm a) L h

end

/-! ## Assignment attempts -/

/-- The trip an action tries to assign: a manual `AssignDriver`, or a delivery to the
`driver.assigned` consumer. -/
def LedgerAct.assignsTrip : LedgerAct → Option Uuid
  | .assign t _ _ => uuidIn t
  | .consume ev _ => uuidIn ev.tripId
  | _ => none

/-- Whether a row exists and has a driver. -/
def hasDriverSet (o : Option Trip) : Bool := o.any (·.driverId.isSome)

/-- The assignment attempts on `t` in a run that change its row. -/
def Ledger.effectiveAssigns (haversineKm : ℚ → ℚ → ℚ → ℚ → ℚ) (t : Uuid) :
    Ledger → List LedgerAct → Nat
  | _, [] => 0
  | L, a :: acts =>
    (if a.assignsTrip = some t ∧ (L.next haversineKm a).trips t ≠ L.trips t then 1 else 0) +
      Ledger.effectiveAssigns haversineKm t (L.next haversineKm a) acts

section
variable (haversineKm : ℚ → ℚ → ℚ → ℚ → ℚ) {L : Ledger} {a : LedgerAct} {t : Uuid}

/-- An assignment attempt leaves the table alone or runs `AssignDriver`'s UPDATE on its
trip. -/
theorem Ledger.next_trips_of_assignsTrip (ha : a.assignsTrip = some t) :
    (L.next haversineKm a).trips = L.trips ∨
      ∃ d, (L.next haversineKm a).trips = (updateWhere L.trips t assignGuard (assigning d)).1 := by
  unfold Ledger.next
  have h := L.step_moves haversineKm a
  generalize L.step haversineKm a = p at h
  cases h with
  | assign ts ds drivers t' d hb ht =>
    rcases hb with rfl | rfl <;> simp only [LedgerAct.assignsTrip, ht, Option.some.injEq] at ha <;>
      exact .inr ⟨d, by rw [ha]⟩
  | stay | read | reject | fail => exact .inl rfl
  | insert _ _ _ _ _ _ _ hb | start _ _ _ hb | complete _ _ _ _ _ _ _ hb => subst hb; cases ha

/-- **A step that is not an assignment attempt assigns no row.** A row after it is the row
before, a new `REQUESTED` row, a `DRIVER_ASSIGNED` row started with its driver, or
`COMPLETED`. -/
theorem Ledger.Moves.row_of_not_assign {b : LedgerAct} {p : Ledger × List Outgoing}
    (h : Ledger.Moves haversineKm L b p) (hb : b.assignsTrip = none) {t : Uuid} {r' : Trip}
    (h' : p.1.trips t = some r') :
    L.trips t = some r' ∨ (L.trips t = none ∧ r'.status = .requested) ∨
      (∃ r, L.trips t = some r ∧ r.status = .driverAssigned ∧ r'.status = .started ∧
        r'.driverId = r.driverId) ∨ r'.status = .completed := by
  cases h with
  | stay | read | reject | fail => exact .inl h'
  | insert id riderId req now dbNow users rider _ _ hn =>
    by_cases ht : t = id
    · subst ht
      simp only [Function.update_same, Option.some.injEq] at h'
      subst h'
      exact .inr (.inl ⟨hn, rfl⟩)
    · exact .inl (by simpa [Function.update_noteq ht] using h')
  | assign ts ds drivers t₀ d hb' ht =>
    rcases hb' with rfl | rfl <;> simp [LedgerAct.assignsTrip, ht] at hb
  | start ts t₀ now =>
    have hs := updateWhere_cases L.trips t₀ t (· == .driverAssigned) (starting (pgTimestamptz now))
    dsimp only at h'
    rcases hs with h | ⟨rfl, r, hr, hg, h⟩ <;> rw [h] at h'
    · exact .inl h'
    · cases h'; exact .inr (.inr (.inl ⟨r, hr, by simpa using hg, rfl, rfl⟩))
  | complete i now c trip u stored ok =>
    rcases updateWhere_cases L.trips u t _ (completing stored (pgTimestamptz now)) with
      h | ⟨-, r, -, -, h⟩ <;> dsimp only at h' <;> rw [h] at h'
    · exact .inl h'
    · cases h'; exact .inr (.inr (.inr rfl))

/-- An assignment attempt that changes the row finds it without a driver and leaves it with
one. -/
theorem Ledger.Inv.assign_effective (hi : L.Inv) (ha : a.assignsTrip = some t)
    (hch : (L.next haversineKm a).trips t ≠ L.trips t) :
    hasDriverSet (L.trips t) = false ∧ hasDriverSet ((L.next haversineKm a).trips t) = true := by
  rcases Ledger.next_trips_of_assignsTrip haversineKm (L := L) ha with hd | ⟨d, hd⟩ <;>
    rw [hd] at hch ⊢
  · exact absurd rfl hch
  rcases updateWhere_cases L.trips t t assignGuard (assigning d) with h | ⟨-, r, hr, hg, h⟩
  · exact absurd h hch
  · obtain ⟨⟨hm, -⟩, hdr, -, -, -⟩ := hi.agrees t r hr
    have hreq : r.status = .requested := by revert hg hm; cases r.status <;> simp [assignGuard]
    rw [h, hr]
    simp_all [hasDriverSet, assigning, TripStatus.hasDriver]

/-- A row with a driver keeps one. -/
theorem Ledger.Inv.hasDriverSet_next (hi : L.Inv) (h : hasDriverSet (L.trips t) = true) :
    hasDriverSet ((L.next haversineKm a).trips t) = true := by
  have hs := (hi.rowStep haversineKm a t).1
  cases ht : L.trips t with
  | none => simp [ht, hasDriverSet] at h
  | some r =>
    rw [ht] at hs h
    have hd : r.driverId ≠ none := by simpa [hasDriverSet, Option.isSome_iff_ne_none] using h
    obtain ⟨r', h', hr'⟩ := hs.driverId hd
    simpa [h', hasDriverSet, hr'] using h

/-- From an invariant ledger, a run changes a row by assignment at most once, and not at
all once the row has a driver. -/
theorem Ledger.Inv.effectiveAssigns_le (hi : L.Inv) (t : Uuid) (acts : List LedgerAct) :
    L.effectiveAssigns haversineKm t acts ≤ if hasDriverSet (L.trips t) then 0 else 1 := by
  induction acts generalizing L with
  | nil => simp [Ledger.effectiveAssigns]
  | cons a acts ih =>
    have ih' := ih (hi.next haversineKm a)
    simp only [Ledger.effectiveAssigns]
    split
    · rename_i he
      obtain ⟨h1, h2⟩ := hi.assign_effective haversineKm he.1 he.2
      rw [h1]; rw [h2] at ih'
      simp only [if_true, Bool.false_eq_true, if_false] at ih' ⊢
      omega
    · cases h : hasDriverSet (L.trips t)
      · simp only [Bool.false_eq_true, if_false]
        split at ih' <;> omega
      · rw [hi.hasDriverSet_next haversineKm h] at ih'
        simpa using ih'

/-- **A manual assignment that leaves the row as it was answers with an error**: the id of
the driver or of the trip is no `uuid`, the driver is not in `drivers`, or the conflict. -/
theorem assignDriver_error_of_unchanged {drivers : List Uuid} {trips : Trips} {t : TripId}
    {d : DriverId} (h : ∀ u, uuidIn t = some u → (assignDriver drivers trips t d).1 u = trips u) :
    ∃ e, (assignDriver drivers trips t d).2 = .error e ∧
      (e = invalidUuid d ∨ e = invalidUuid t ∨ e = fkViolation "trips_driver_id_fkey" ∨
        e = "trip not found or invalid state for assignment") := by
  unfold assignDriver at h ⊢
  split
  · rename_i w hw
    obtain ⟨u, v, hu, hv, rfl, -⟩ := assignDriverSql_eq_ok hw
    have h0 : (updateWhere trips u assignGuard (assigning v)).2 = 0 := by
      rw [updateWhere_rows_eq_zero]
      intro r hr
      by_contra hg
      rw [Bool.not_eq_false] at hg
      have hu' := h u hu
      rw [hw] at hu'
      simp only [updateWhere_apply, hr, if_true, Option.map_some', hg, Option.some.injEq] at hu'
      have hs : TripStatus.driverAssigned = r.status := congrArg Trip.status hu'
      rw [← hs] at hg
      exact absurd hg (by decide)
    exact ⟨_, by simp [h0], .inr (.inr (.inr rfl))⟩
  · rename_i e hw
    rcases assignDriverSql_eq_error hw with h | h | h <;> subst h
    · exact ⟨_, rfl, .inl rfl⟩
    · exact ⟨_, rfl, .inr (.inl rfl)⟩
    · exact ⟨_, rfl, .inr (.inr (.inl rfl))⟩

end

/-- **The trip lifecycle.** Over every run of the ledger, any interleaving of requests,
manual assignments, deliveries of any `driver.assigned` events, starts and halves of `End`
calls: every step moves every row forward along the lifecycle one state at a time (and
writes `driver_id` only over a `NULL`); every row agrees with its status; at most one
assignment attempt on a trip changes its row; and a manual attempt that changes nothing
answers with an error. -/
theorem ledger_lifecycle (haversineKm : ℚ → ℚ → ℚ → ℚ → ℚ) :
    (∀ L : Ledger, L.Reachable haversineKm → ∀ a t,
      RowStep (L.trips t) ((L.next haversineKm a).trips t)) ∧
    (∀ L : Ledger, L.Reachable haversineKm → ∀ t r, L.trips t = some r → r.Agrees) ∧
    (∀ t acts, Ledger.init.effectiveAssigns haversineKm t acts ≤ 1) ∧
    (∀ drivers trips t d,
      (∀ u, uuidIn t = some u → (assignDriver drivers trips t d).1 u = trips u) →
      ∃ e, (assignDriver drivers trips t d).2 = .error e ∧
        (e = invalidUuid d ∨ e = invalidUuid t ∨ e = fkViolation "trips_driver_id_fkey" ∨
          e = "trip not found or invalid state for assignment")) :=
  ⟨fun _ hL a t => ((hL.inv haversineKm).rowStep haversineKm a t).1,
    fun _ hL => (hL.inv haversineKm).agrees,
    fun t acts => (Ledger.Inv.init.effectiveAssigns_le haversineKm t acts).trans (by split <;> omega),
    fun _ _ _ _ => assignDriver_error_of_unchanged⟩

end RideService.Trips
