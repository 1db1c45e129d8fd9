import RideService.Trips.Lifecycle

/-!
# The events the ledger starts publishing

Along a run of the ledger, `Request` starts one `ride.requested` publish per row it
inserts, and every `End` whose UPDATE goes through starts one `trip.completed` publish,
built from the trip its read saw (`service.go:158`). `Ledger.Emits L out` relates the ledger
to the list `out` of all events started so far. An event names its trip by a string: a
`ride.requested` event by `uuid_out` of the fresh id, a `trip.completed` event by the path's
spelling, which `uuid_in` reads as the row's key.

* each trip has exactly one `ride.requested` event, and no event names a trip with no row;
* each `trip.completed` event names a `COMPLETED` row with the event's rider and driver;
* a trip has no more `trip.completed` events than `End` calls that passed their status
  check, less those still between their read and their UPDATE;
* a `COMPLETED` row's fare is the `DECIMAL(12,2)` cast of the fare of the last
  `trip.completed` event started for it.

The last two are what the End race (`RideService.Trips.EndRace`) leaves of the spec: with
two calls through the check, a trip gets two events, and its row keeps the fare of the
later UPDATE. `Ledger.Emits.moves` proves one step by cases on `Ledger.Moves`.
-/

namespace RideService.Trips

open RideService

/-- Whether an event is the `ride.requested` event of trip `t`. -/
def Outgoing.isRideFor (t : Uuid) : Outgoing → Bool
  | .rideRequested e => e.tripId == uuidOut t
  | .tripCompleted _ => false

/-- The `trip.completed` event of trip `t`, if this is one. -/
def Outgoing.completedFor? (t : Uuid) : Outgoing → Option TripCompletedEvent
  | .tripCompleted e => if uuidIn e.tripId = some t then some e else none
  | .rideRequested _ => none

/-- The last `trip.completed` event started for `t`. -/
def lastCompleted (out : List Outgoing) (t : Uuid) : Option TripCompletedEvent :=
  (out.filterMap (Outgoing.completedFor? t)).getLast?

/-- The number of `trip.completed` events for `t`. -/
def completedCount (out : List Outgoing) (t : Uuid) : Nat :=
  out.countP fun o => (o.completedFor? t).isSome

/-- Whether a call passed its status check. -/
def EndPhase.passed : EndPhase → Bool
  | .rejected => false
  | .read _ | .returned _ => true

/-- Whether a call is between its read and its UPDATE. -/
def EndPhase.pending : EndPhase → Bool
  | .read _ => true
  | .rejected | .returned _ => false

/-- The `End` calls on `t` that passed their status check. -/
def Ledger.passedEnds (L : Ledger) (t : Uuid) : Nat :=
  L.ends.countP fun c => uuidIn c.tripId == some t && c.phase.passed

/-- The `End` calls on `t` between their read and their UPDATE. -/
def Ledger.pendingEnds (L : Ledger) (t : Uuid) : Nat :=
  L.ends.countP fun c => uuidIn c.tripId == some t && c.phase.pending

@[simp] theorem Outgoing.completedFor?_tripCompleted {t : Uuid} {e : TripCompletedEvent} :
    (Outgoing.tripCompleted e).completedFor? t = if uuidIn e.tripId = some t then some e else none :=
  rfl

@[simp] theorem Outgoing.completedFor?_rideRequested {t : Uuid} {e : RideRequestedEvent} :
    (Outgoing.rideRequested e).completedFor? t = none := rfl

theorem lastCompleted_append_of_none {out out' : List Outgoing} {t : Uuid}
    (h : ∀ o ∈ out', o.completedFor? t = none) :
    lastCompleted (out ++ out') t = lastCompleted out t := by
  simp [lastCompleted, List.filterMap_eq_nil_iff.2 h]

theorem mem_of_lastCompleted {out : List Outgoing} {t : Uuid} {e : TripCompletedEvent}
    (h : lastCompleted out t = some e) : uuidIn e.tripId = some t ∧ .tripCompleted e ∈ out := by
  obtain ⟨o, ho, he⟩ := List.mem_filterMap.1 (List.mem_of_getLast?_eq_some h)
  cases o with
  | rideRequested => cases he
  | tripCompleted e' =>
    simp only [Outgoing.completedFor?_tripCompleted, Option.ite_none_right_eq_some,
      Option.some.injEq] at he
    obtain ⟨ht, rfl⟩ := he
    exact ⟨ht, ho⟩

theorem completedCount_append (out out' : List Outgoing) (t : Uuid) :
    completedCount (out ++ out') t = completedCount out t + completedCount out' t :=
  List.countP_append ..

/-- Overwriting one element changes a count by what it removes and what it adds. -/
theorem countP_set_add {α : Type} {l : List α} {i : Nat} {x y : α} (p : α → Bool)
    (h : l[i]? = some x) :
    (l.set i y).countP p + (if p x then 1 else 0) = l.countP p + (if p y then 1 else 0) := by
  obtain ⟨hi, rfl⟩ := List.getElem?_eq_some_iff.1 h
  have := List.boole_getElem_le_countP p l i hi
  rw [List.countP_set p l i y hi]
  omega

/-- A row keeps what an UPDATE's rewrite keeps. -/
theorem updateWhere_keeps {α : Type} {trips : Trips} {t t' : Uuid} {guard : TripStatus → Bool}
    {set : Trip → Trip} (f : Trip → α) (hf : ∀ r, f (set r) = f r) {r : Trip}
    (h : trips t' = some r) : ∃ r', (updateWhere trips t guard set).1 t' = some r' ∧ f r' = f r := by
  rw [updateWhere_apply]
  split
  · subst t'
    rw [h, Option.map_some']
    exact ⟨_, rfl, by split <;> simp [hf]⟩
  · exact ⟨r, h, rfl⟩

theorem updateWhere_isSome {trips : Trips} {t t' : Uuid} {guard : TripStatus → Bool}
    {set : Trip → Trip} : ((updateWhere trips t guard set).1 t').isSome = (trips t').isSome := by
  rw [updateWhere_apply]; split <;> simp_all

/-! ## The invariant -/

/-- What relates a reachable ledger to the events its run started. -/
structure Ledger.Emits (L : Ledger) (out : List Outgoing) : Prop where
  ride : ∀ t, out.countP (Outgoing.isRideFor t) = if (L.trips t).isSome then 1 else 0
  reads : ∀ c ∈ L.ends, ∀ trip, c.phase = .read trip → ∃ u r, uuidIn c.tripId = some u ∧
    L.trips u = some r ∧ r.riderId = trip.riderId ∧ r.driverId = trip.driverId
  completed : ∀ e, .tripCompleted e ∈ out → ∃ u r, uuidIn e.tripId = some u ∧
    L.trips u = some r ∧ r.status = .completed ∧ uuidOut r.riderId = e.riderId ∧
    r.driverId.map uuidOut = some e.driverId
  count : ∀ t, completedCount out t + L.pendingEnds t ≤ L.passedEnds t
  fare : ∀ t r, L.trips t = some r → r.status = .completed →
    ∃ e stored, lastCompleted out t = some e ∧ numericCast 12 2 e.fare = .ok stored ∧
      r.fare = some stored

section
variable (haversineKm : ℚ → ℚ → ℚ → ℚ → ℚ) {L : Ledger} {out : List Outgoing}

theorem Ledger.Emits.init : Ledger.init.Emits [] where
  ride _ := rfl
  reads _ h := nomatch h
  completed _ h := nomatch h
  count _ := Nat.le_refl _
  fare _ _ h := nomatch h

/-- A guarded UPDATE whose guard only lets rows through that have not started, and whose
rewrite does not complete them, keeps the invariant. -/
theorem Ledger.Emits.update (hi : L.Inv) (he : L.Emits out) {t : Uuid}
    {guard : TripStatus → Bool} {set : Trip → Trip}
    (hg : ∀ st, guard st = true → st.hasStarted = false) (hs : ∀ r, (set r).status ≠ .completed) :
    { L with trips := (updateWhere L.trips t guard set).1 }.Emits out := by
  /- a row that has started is left alone -/
  have keep : ∀ t' r, L.trips t' = some r → r.status.hasStarted = true →
      (updateWhere L.trips t guard set).1 t' = L.trips t' := fun t' r hr hst => by
    rcases updateWhere_cases L.trips t t' guard set with h | ⟨rfl, r', hr', hg', -⟩
    · exact h
    · rw [hr, Option.some.injEq] at hr'; subst hr'; rw [hg _ hg'] at hst; cases hst
  have done : ∀ r : Trip, r.status = .completed → r.status.hasStarted = true := fun r h => by
    rw [h]; rfl
  refine ⟨fun t' => ?_, fun c hc trip hr => ?_, fun e he' => ?_, he.count, fun t' r hr hc => ?_⟩
  · simp only [updateWhere_isSome, he.ride t']
  · obtain ⟨u, r, hu, hr', h⟩ := he.reads c hc trip hr
    obtain ⟨u₀, r₀, hu₀, hr₀, hst⟩ := hi.ends c hc trip hr
    rw [hu, Option.some.injEq] at hu₀; subst hu₀
    rw [hr₀, Option.some.injEq] at hr'; subst hr'
    exact ⟨u, r₀, hu, (keep _ r₀ hr₀ hst).trans hr₀, h⟩
  · obtain ⟨u, r, hu, hr, h⟩ := he.completed e he'
    exact ⟨u, r, hu, (keep _ r hr (done r h.1)).trans hr, h⟩
  · dsimp only at hr
    rcases updateWhere_cases L.trips t t' guard set with h | ⟨-, r', -, -, h⟩ <;>
      rw [h] at hr
    · exact he.fare t' r hr hc
    · cases hr; exact absurd hc (hs r')

/-- A step that only records `End` calls, and starts no event, keeps the invariant when the
calls it records are about rows of the table and the counts still agree. -/
theorem Ledger.Emits.withEnds (he : L.Emits out) {ends : List EndCall}
    (hr : ∀ c ∈ ends, ∀ trip, c.phase = .read trip → ∃ u r, uuidIn c.tripId = some u ∧
      L.trips u = some r ∧ r.riderId = trip.riderId ∧ r.driverId = trip.driverId)
    (hc : ∀ t, completedCount out t +
        ends.countP (fun c => uuidIn c.tripId == some t && c.phase.pending) ≤
      ends.countP fun c => uuidIn c.tripId == some t && c.phase.passed) :
    { L with ends := ends }.Emits (out ++ []) := by
  rw [List.append_nil]
  exact ⟨he.ride, hr, he.completed, hc, he.fare⟩

/-- `Request`'s INSERT of a fresh row, with its `ride.requested` event. -/
theorem Ledger.Emits.insert (he : L.Emits out) {id : Uuid} (rider : Uuid) (riderId : UserId)
    (req : TripRequest) (now dbNow : Nat) (hn : L.trips id = none) :
    { L with trips := Function.update L.trips id (some (requestedTrip rider req now dbNow)) }.Emits
      (out ++ [Outgoing.rideRequested (rideRequestedEvent id riderId req now)]) := by
  have ne : ∀ {t r}, L.trips t = some r → t ≠ id := fun hr ht => by
    rw [ht, hn] at hr; cases hr
  refine ⟨fun t => ?_, fun c hc trip hr => ?_, fun e he' => ?_, fun t => ?_,
    fun t r hr hc => ?_⟩
  · rw [List.countP_append, he.ride t]
    by_cases ht : t = id
    · subst ht; simp [hn, Outgoing.isRideFor, rideRequestedEvent]
    · have : uuidOut id ≠ uuidOut t := fun h => ht (uuidOut_injective h).symm
      simp [Function.update_noteq ht, Outgoing.isRideFor, rideRequestedEvent, this]
  · obtain ⟨u, r, hu, hr', h⟩ := he.reads c hc trip hr
    exact ⟨u, r, hu, by simp [Function.update_noteq (ne hr'), hr'], h⟩
  · rcases List.mem_append.1 he' with he' | he'
    · obtain ⟨u, r, hu, hr, h⟩ := he.completed e he'
      exact ⟨u, r, hu, by simp [Function.update_noteq (ne hr), hr], h⟩
    · simp at he'
  · rw [completedCount_append]
    simpa [completedCount] using he.count t
  · dsimp only at hr
    rw [lastCompleted_append_of_none (by simp)]
    by_cases ht : t = id
    · subst ht; simp only [Function.update_same, Option.some.injEq] at hr
      subst hr; cases hc
    · rw [Function.update_noteq ht] at hr
      exact he.fare t r hr hc

/-- Returning a pending call keeps it among the calls that passed, and takes it out of
the pending ones. -/
theorem Ledger.returned_counts {i : Nat} {c : EndCall} {trip : Trip}
    (hp : L.pendingEnd i = some (c, trip)) (ok : Bool) (t : Uuid) :
    (L.ends.set i { c with phase := .returned ok }).countP
        (fun c => uuidIn c.tripId == some t && c.phase.passed) = L.passedEnds t ∧
      (L.ends.set i { c with phase := .returned ok }).countP
        (fun c => uuidIn c.tripId == some t && c.phase.pending) +
          (if uuidIn c.tripId = some t then 1 else 0) = L.pendingEnds t := by
  have hph := (Ledger.pendingEnd_eq_some hp).2
  have hget := Ledger.pendingEnd_getElem? hp
  have hp₁ := countP_set_add (y := { c with phase := .returned ok })
    (fun c => uuidIn c.tripId == some t && c.phase.passed) hget
  have hp₂ := countP_set_add (y := { c with phase := .returned ok })
    (fun c => uuidIn c.tripId == some t && c.phase.pending) hget
  simp only [Ledger.passedEnds, Ledger.pendingEnds, hph, EndPhase.passed, EndPhase.pending,
    Bool.and_true, Bool.and_false, Bool.false_eq_true, if_false, Nat.add_zero, beq_iff_eq]
    at hp₁ hp₂ ⊢
  omega

/-- `End`'s UPDATE of a pending call, with its `trip.completed` event. -/
theorem Ledger.Emits.complete (hi : L.Inv) (he : L.Emits out) {i now : Nat} {c : EndCall}
    {trip : Trip} {u : Uuid} {fare stored : ℚ} (ok : Bool) (hp : L.pendingEnd i = some (c, trip))
    (hu : uuidIn c.tripId = some u) (hc : numericCast 12 2 fare = .ok stored) :
    (⟨(updateWhere L.trips u (fun _ => true) (completing stored (pgTimestamptz now))).1,
        L.ends.set i { c with phase := .returned ok }⟩ : Ledger).Emits
      (out ++ [Outgoing.tripCompleted (completedEvent c.tripId trip fare now)]) := by
  obtain ⟨hce, hph⟩ := Ledger.pendingEnd_eq_some hp
  obtain ⟨u₁, r, hu₁, hr, hrider, hdriver⟩ := he.reads c hce trip hph
  obtain ⟨u₀, r₀, hu₀, hr₀, hst⟩ := hi.ends c hce trip hph
  rw [hu, Option.some.injEq] at hu₀ hu₁; subst hu₀ hu₁
  rw [hr, Option.some.injEq] at hr₀; subst hr₀
  have hd : r.driverId.isSome := by
    rw [(hi.agrees _ r hr).driver]
    revert hst; cases r.status <;> decide
  obtain ⟨x, hx⟩ := Option.isSome_iff_exists.1 hd
  set done := completing stored (pgTimestamptz now)
  have hrow : (updateWhere L.trips u (fun _ => true) done).1 u = some (done r) := by simp [hr]
  refine ⟨fun t => ?_, fun c' hc' trip' hr' => ?_, fun e he' => ?_, fun t => ?_,
    fun t r' hr' hc' => ?_⟩
  · show _ = if ((updateWhere L.trips u _ _).1 t).isSome then 1 else 0
    rw [updateWhere_isSome, List.countP_append, he.ride t]
    simp [Outgoing.isRideFor]
  · rcases List.mem_or_eq_of_mem_set hc' with hc' | rfl
    · obtain ⟨u', r', hu', hr'', h⟩ := he.reads c' hc' trip' hr'
      obtain ⟨r'', h', hf⟩ : ∃ r'', (updateWhere L.trips u (fun _ => true) done).1 u' = some r'' ∧
          (r''.riderId, r''.driverId) = (r'.riderId, r'.driverId) :=
        updateWhere_keeps _ (by intro; rfl) hr''
      simp only [Prod.mk.injEq] at hf
      exact ⟨u', r'', hu', h', hf.1.trans h.1, hf.2.trans h.2⟩
    · cases hr'
  · rcases List.mem_append.1 he' with he' | he'
    · obtain ⟨u', r', hu', hr', hs, h⟩ := he.completed e he'
      rcases updateWhere_cases L.trips u u' (fun _ => true) done with h' | ⟨ht, r'', hr'', -, h'⟩
      · exact ⟨u', r', hu', h'.trans hr', hs, h⟩
      · rw [← ht, hr', Option.some.injEq] at hr''; subst hr''
        exact ⟨u', _, hu', h', rfl, h⟩
    · rw [List.mem_singleton, Outgoing.tripCompleted.injEq] at he'; subst he'
      have htrip : trip.driverId = some x := hdriver ▸ hx
      exact ⟨u, _, hu, hrow, rfl, by simp [done, completing, completedEvent, hrider],
        by simp [done, completing, completedEvent, htrip, hx]⟩
  · have hev : completedCount [.tripCompleted (completedEvent c.tripId trip fare now)] t =
        if uuidIn c.tripId = some t then 1 else 0 := by
      by_cases ht : uuidIn c.tripId = some t <;> simp [completedCount, completedEvent, ht]
    have := Ledger.returned_counts hp ok t
    have := he.count t
    simp only [Ledger.passedEnds, Ledger.pendingEnds, completedCount_append, hev] at *
    omega
  · dsimp only at hr'
    by_cases ht : t = u
    · subst ht
      rw [hrow, Option.some.injEq] at hr'; subst hr'
      exact ⟨completedEvent c.tripId trip fare now, stored,
        by simp [lastCompleted, List.getLast?_append, completedEvent, hu], hc, rfl⟩
    · rw [updateWhere_apply_ne ht] at hr'
      rw [lastCompleted_append_of_none (by simp [completedEvent, hu, Ne.symm ht])]
      exact he.fare t r' hr' hc'

/-- **One step keeps the invariant.** -/
theorem Ledger.Emits.moves (hi : L.Inv) (he : L.Emits out) {b : LedgerAct}
    {p : Ledger × List Outgoing} (h : Ledger.Moves haversineKm L b p) : p.1.Emits (out ++ p.2) := by
  cases h with
  | stay => simpa using he
  | insert id riderId req now dbNow users rider _ _ hn => exact he.insert rider riderId req now dbNow hn
  | assign | start =>
    simpa using he.update hi (fun st hg => by revert hg; cases st <;> decide)
      (fun _ h => by cases h)
  | read t distKm trip _ h =>
    obtain ⟨u, hu, hrow, -⟩ := endRead_eq_ok h
    refine he.withEnds (fun c hc trip' hr => ?_) (fun t' => ?_)
    · rcases List.mem_append.1 hc with hc | hc
      · exact he.reads c hc trip' hr
      · rw [List.mem_singleton.1 hc] at hr ⊢; cases hr; exact ⟨u, trip, hu, hrow, rfl, rfl⟩
    · have := he.count t'
      simp only [Ledger.passedEnds, Ledger.pendingEnds, List.countP_append, List.countP_singleton,
        EndPhase.passed, EndPhase.pending, Bool.and_true] at this ⊢
      omega
  | reject t distKm =>
    refine he.withEnds (fun c hc trip hr => ?_) (fun t' => ?_)
    · rcases List.mem_append.1 hc with hc | hc
      · exact he.reads c hc trip hr
      · rw [List.mem_singleton.1 hc] at hr; cases hr
    · have := he.count t'
      simp only [Ledger.passedEnds, Ledger.pendingEnds, List.countP_append, List.countP_singleton,
        EndPhase.passed, EndPhase.pending, Bool.and_false, Bool.false_eq_true, if_false,
        Nat.add_zero] at this ⊢
      exact this
  | complete i now c trip u stored ok _ hp hu hc => exact he.complete hi ok hp hu hc
  | fail i c trip hp =>
    refine he.withEnds (fun c' hc' trip' hr' => ?_) (fun t => ?_)
    · rcases List.mem_or_eq_of_mem_set hc' with hc' | rfl
      · exact he.reads c' hc' trip' hr'
      · cases hr'
    · have := Ledger.returned_counts hp false t
      have := he.count t
      omega

theorem Ledger.Emits.next (hi : L.Inv) (he : L.Emits out) (b : LedgerAct) :
    (L.next haversineKm b).Emits (out ++ (L.step haversineKm b).2) :=
  he.moves haversineKm hi (L.step_moves haversineKm b)

end

end RideService.Trips
