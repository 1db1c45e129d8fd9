import RideService.Trips.EndRace
import RideService.System.Delivery

/-!
# The `trip.completed` stream against the ledger

`End` builds its `trip.completed` event from the trip its read saw and the fare
`50 + 12·km` it computed, and publishes it in a goroutine whose failure is only logged
(`service.go:155`–`:168`); the row gets that fare cast to `DECIMAL(12,2)`. So, over every
run (`completed_stream_agrees`):

* each event in the topic names a `COMPLETED` row with the event's rider and driver;
* a trip has no more events than `End` calls that passed their status check;
* when only one call passed, the row's fare is the event's fare cast to `DECIMAL(12,2)`;
* every `COMPLETED` trip has a publish of its event, which is in the topic once the
  publish went through.

The spec's stronger reading fails three ways: a fare with more than two decimals is
rounded in the row but not in the event (`fareRounded`); a failed publish leaves a
`COMPLETED` trip with no event; two `End` calls through the check give two events
(`RideService.Trips.end_race_both_succeed`).

No fare in the table or in the topic is under the base fare `50`, when the haversine
distance is never negative (`fares_at_least_base`).
-/

namespace RideService.System

open RideService RideService.Trips RideService.Geo RideService.Tracking RideService.Http

/-- An element count of at most one leaves room for one element. -/
theorem eq_of_countP_le_one {α : Type} {p : α → Bool} {l : List α} (h : l.countP p ≤ 1)
    {a b : α} (ha : a ∈ l) (hb : b ∈ l) (hpa : p a) (hpb : p b) : a = b := by
  induction l with
  | nil => cases ha
  | cons x l ih =>
    rw [List.countP_cons] at h
    have none : ∀ y ∈ l, p y → p x → False := fun y hy hpy hpx => by
      have := List.countP_pos_iff.2 ⟨y, hy, hpy⟩
      simp only [hpx, if_true] at h; omega
    rcases List.mem_cons.1 ha with rfl | ha'
    · rcases List.mem_cons.1 hb with rfl | hb'
      · rfl
      · exact (none b hb' hpb hpa).elim
    · rcases List.mem_cons.1 hb with rfl | hb'
      · exact (none a ha' hpa hpb).elim
      · exact ih (by split at h <;> omega) ha' hb'

/-- What the `trip.completed` topic tells about the ledger. -/
structure Sys.CompletedAgrees (S : Sys) : Prop where
  /-- Each event names a `COMPLETED` row with the event's rider and driver. -/
  row : ∀ e ∈ S.tripCompleted, ∃ u r, uuidIn e.tripId = some u ∧ S.ledger.trips u = some r ∧
    r.status = .completed ∧ uuidOut r.riderId = e.riderId ∧ r.driverId.map uuidOut = some e.driverId
  /-- A trip has no more events than `End` calls that passed the status check. -/
  count : ∀ t, S.tripCompleted.countP (fun e => uuidIn e.tripId = some t) ≤ S.ledger.passedEnds t
  /-- When only one call passed, the row's fare is the event's cast to `DECIMAL(12,2)`. -/
  fare : ∀ e ∈ S.tripCompleted, ∀ u, uuidIn e.tripId = some u → S.ledger.passedEnds u ≤ 1 →
    ∃ r stored, S.ledger.trips u = some r ∧ numericCast 12 2 e.fare = .ok stored ∧
      r.fare = some stored
  /-- A `COMPLETED` trip has a publish of its event, in the topic once it went through. -/
  published : ∀ t r, S.ledger.trips t = some r → r.status = .completed →
    ∃ (j : Nat) (e : TripCompletedEvent) (res : Option Bool), uuidIn e.tripId = some t ∧
      S.publishers[j]? = some { event := .tripCompleted e, result := res } ∧
      (res = some true → e ∈ S.tripCompleted)

section
variable {E : Env} {S : Sys}

/-- A publish that went through started with its event. -/
theorem Sys.mem_started_of_published {o : Outgoing} (h : o ∈ S.published) : o ∈ S.started := by
  obtain ⟨p, hp, ho⟩ := List.mem_filterMap.1 h
  unfold Publisher.sentEvent? at ho
  split at ho
  · cases ho; exact List.mem_map_of_mem _ hp
  · cases ho

theorem Sys.published_countP_le (q : Outgoing → Bool) :
    S.published.countP q ≤ S.started.countP q := by
  rw [Sys.published, List.countP_filterMap, Sys.started, List.countP_map]
  refine List.countP_mono_left fun p _ h => ?_
  unfold Publisher.sentEvent? at h
  split at h <;> simp_all

/-- An event in the topic was started. -/
theorem Sys.Reachable.completed_started (hS : S.Reachable E) {e : TripCompletedEvent}
    (he : e ∈ S.tripCompleted) : .tripCompleted e ∈ S.started :=
  Sys.mem_started_of_published (hS.topics.mem_iff.1 (List.mem_append_right _ (List.mem_map_of_mem _ he)))

/-- The topic's count of a trip's events, as a count over both topics. -/
theorem Sys.sent_countP_completed (t : Uuid) :
    S.sent.countP (fun o => (o.completedFor? t).isSome) =
      S.tripCompleted.countP (fun e => uuidIn e.tripId = some t) := by
  simp only [Sys.sent, List.countP_append, List.countP_map]
  rw [List.countP_eq_zero.2 (by simp [Outgoing.completedFor?]), zero_add]
  exact List.countP_congr fun e _ => by by_cases h : uuidIn e.tripId = some t <;> simp [h]

end

/-- **The `trip.completed` stream against the ledger**, over every run. -/
theorem completed_stream_agrees (E : Env) {S : Sys} (hS : S.Reachable E) : S.CompletedAgrees := by
  have he := hS.emits
  refine ⟨fun e h => he.completed e (hS.completed_started h), fun t => ?_,
    fun e h u h1 h2 => ?_, fun t r hr hc => ?_⟩
  · have hsent := hS.topics.countP_eq fun o => (o.completedFor? t).isSome
    have hle := Sys.published_countP_le (S := S) fun o => (o.completedFor? t).isSome
    have hc := he.count t
    rw [Sys.sent_countP_completed] at hsent
    unfold completedCount at hc
    omega
  · obtain ⟨u', r, hu', hr, hc, -⟩ := he.completed e (hS.completed_started h)
    rw [h1, Option.some.injEq] at hu'
    subst hu'
    obtain ⟨e₀, stored, hl, hs, hf⟩ := he.fare _ r hr hc
    obtain ⟨ht₀, h₀⟩ := mem_of_lastCompleted hl
    have hcount : completedCount S.started u ≤ 1 := by
      have := he.count u; omega
    have := eq_of_countP_le_one hcount (hS.completed_started h) h₀ (by simp [h1]) (by simp [ht₀])
    cases this
    exact ⟨r, stored, hr, hs, hf⟩
  · obtain ⟨e, stored, hl, -, -⟩ := he.fare t r hr hc
    obtain ⟨ht, h₀⟩ := mem_of_lastCompleted hl
    obtain ⟨⟨ev, res⟩, hp, hev⟩ := List.mem_map.1 h₀
    cases hev
    obtain ⟨j, hj⟩ := List.getElem?_of_mem hp
    refine ⟨j, e, res, ht, hj, fun hres => ?_⟩
    subst hres
    have : Outgoing.tripCompleted e ∈ S.sent :=
      hS.topics.mem_iff.2 (List.mem_filterMap.2 ⟨_, hp, rfl⟩)
    simpa [Sys.sent] using this

/-! ## A fare with three decimals -/

section
variable (E : Env) {S : Sys}

/-- A pending `End` call whose UPDATE goes through. -/
theorem Sys.step_endUpdate_ok (now : Nat) {i : Nat} {c : EndCall} {u : Uuid} {r trip : Trip}
    {stored : ℚ} (hp : S.ledger.pendingEnd i = some (c, trip)) (hu : uuidIn c.tripId = some u)
    (hr : S.ledger.trips u = some r)
    (hc : numericCast 12 2 (fareFor (tripKm E.haversineKm trip c.distKm)) = .ok stored) :
    S.step E (.endUpdate i now) = { S with
      ledger := ⟨Function.update S.ledger.trips u (some (completing stored (pgTimestamptz now) r)),
        S.ledger.ends.set i { c with phase := .returned true }⟩
      publishers := S.publishers ++ [⟨.tripCompleted (completedEvent c.tripId trip
        (fareFor (tripKm E.haversineKm trip c.distKm)) now), none⟩] } := by
  simp only [Sys.step, Sys.ledgerStep, Ledger.step_endUpdate E.haversineKm now hp hu hr hc]
  rfl

/-- A `trip.completed` publish that goes through. -/
theorem Sys.step_publish_completed {j : Nat} {e : TripCompletedEvent}
    (hp : S.publishers[j]? = some ⟨.tripCompleted e, none⟩) :
    (S.step E (.publish j true)).tripCompleted = S.tripCompleted ++ [e] ∧
      (S.step E (.publish j true)).ledger = S.ledger := by
  simp only [Sys.step, Sys.publish, hp]
  exact ⟨rfl, rfl⟩

end

/-- The rider and the driver register; the rider requests `tripT`, it is assigned to
`driverD` and started, and `End` is called on it with `distanceKm` `0.001`; then the call's
UPDATE and its publish go through. -/
def thousandthKm : List SysAct :=
  signups ++
    [.http ⟨"Bearer rider-token", .tripRequest tripT ⟨0, 0, 1, 1⟩ 0 0⟩,
      .http ⟨"Bearer rider-token", .tripAssign (uuidOut tripT) (uuidOut driverD)⟩,
      .http ⟨"Bearer driver-token", .tripStart (uuidOut tripT) (10 ^ 9)⟩,
      .http ⟨"Bearer driver-token", .tripEnd (uuidOut tripT) (some (1 / 1000))⟩,
      .endUpdate 0 (5 * 10 ^ 9), .publish 1 true]

theorem thousandthKm_agrees : (Sys.init.run Env.sample thousandthKm).CompletedAgrees :=
  completed_stream_agrees Env.sample ⟨thousandthKm, rfl⟩

/-- In `thousandthKm` the trip is `COMPLETED` with fare `50.01`, and the one event in the
topic carries `50.012`. -/
theorem fareRounded :
    ((Sys.init.run Env.sample thousandthKm).ledger.trips tripT).map (fun r => (r.status, r.fare)) =
        some (.completed, some (5001 / 100)) ∧
      (Sys.init.run Env.sample thousandthKm).tripCompleted.map (·.fare) = [50012 / 1000] := by
  let trip : Trip := starting (10 ^ 6) (assigning driverD (requestedTrip riderR ⟨0, 0, 1, 1⟩ 0 0))
  have hp : (Sys.init.run Env.sample (thousandthKm.take 6)).ledger.pendingEnd 0 =
      some (⟨uuidOut tripT, some (1 / 1000), .read trip⟩, trip) := rfl
  have hr : (Sys.init.run Env.sample (thousandthKm.take 6)).ledger.trips tripT = some trip := rfl
  have hc : numericCast 12 2 (fareFor (tripKm Env.sample.haversineKm trip (some (1 / 1000)))) =
      .ok (5001 / 100) := by
    rw [tripKm_of_pos (by norm_num)]
    norm_num [numericCast, roundHalfAway, fareFor, Int.floor_eq_iff]
  have h₁ := Sys.step_endUpdate_ok Env.sample (5 * 10 ^ 9) hp (uuidIn_uuidOut tripT) hr hc
  have hj : ((Sys.init.run Env.sample (thousandthKm.take 6)).step Env.sample
      (.endUpdate 0 (5 * 10 ^ 9))).publishers[1]? = some ⟨.tripCompleted (completedEvent
        (uuidOut tripT) trip (fareFor (tripKm Env.sample.haversineKm trip (some (1 / 1000))))
        (5 * 10 ^ 9)), none⟩ := by
    rw [h₁]; rfl
  obtain ⟨h₂, h₃⟩ := Sys.step_publish_completed Env.sample hj
  have hrun : Sys.init.run Env.sample thousandthKm = ((Sys.init.run Env.sample
      (thousandthKm.take 6)).step Env.sample (.endUpdate 0 (5 * 10 ^ 9))).step Env.sample
      (.publish 1 true) := by
    rw [show thousandthKm = thousandthKm.take 6 ++ [.endUpdate 0 (5 * 10 ^ 9), .publish 1 true]
      from rfl, Sys.run_append]
    rfl
  have h₀ : (Sys.init.run Env.sample (thousandthKm.take 6)).tripCompleted = [] := rfl
  rw [hrun, h₂, h₃, h₁, h₀]
  refine ⟨by simp [completing], ?_⟩
  rw [tripKm_of_pos (by norm_num)]
  norm_num [completedEvent, fareFor]


/-! ## No fare under the base fare

`End` charges `50 + 12·km` (`service.go:135`) for the body's distance when it is positive and
the haversine distance otherwise, which is never negative. The cast to `DECIMAL(12,2)` keeps a
fare of at least `50` at least `50`, so no row and no `trip.completed` event carries less
(`fares_at_least_base`). -/

end RideService.System

namespace RideService.Trips

open RideService

theorem le_roundHalfAway {m : ℤ} {q : ℚ} (hm : 0 ≤ m) (h : (m : ℚ) ≤ q) : m ≤ roundHalfAway q := by
  rw [roundHalfAway, if_pos (le_trans (Int.cast_nonneg.2 hm) h)]
  exact Int.le_floor.2 (h.trans (le_add_of_nonneg_right (by norm_num)))

/-- The cast to `DECIMAL(12,2)` of a value at least a whole number is at least that number. -/
theorem numericCast_ge {x y : ℚ} {n : ℕ} (hc : numericCast 12 2 x = .ok y) (hx : (n : ℚ) ≤ x) :
    (n : ℚ) ≤ y := by
  unfold numericCast at hc
  dsimp only at hc
  split at hc
  · cases hc
    have hr := le_roundHalfAway (m := n * 100) (by positivity)
      (by push_cast; exact mul_le_mul_of_nonneg_right hx (by norm_num))
    rw [le_div_iff₀ (by norm_num)]
    exact_mod_cast hr
  · cases hc

theorem tripKm_nonneg {haversineKm : ℚ → ℚ → ℚ → ℚ → ℚ} (hk : ∀ a b c d, 0 ≤ haversineKm a b c d)
    (trip : Trip) (distKm : Option ℚ) : 0 ≤ tripKm haversineKm trip distKm := by
  unfold tripKm
  split
  · rename_i k h
    cases distKm with
    | none => cases h
    | some k' =>
      simp only [Option.filter] at h
      split at h
      · rename_i hpos
        cases h; exact le_of_lt (by simpa using hpos)
      · cases h
  · exact hk _ _ _ _

theorem fareFor_ge {km : ℚ} (h : 0 ≤ km) : 50 ≤ fareFor km := by
  unfold fareFor; linarith

/-- No fare under `50`: in the table, and in the `trip.completed` events started. -/
structure Ledger.FareFloor (L : Ledger) (out : List Outgoing) : Prop where
  row : ∀ t r f, L.trips t = some r → r.fare = some f → 50 ≤ f
  event : ∀ e, .tripCompleted e ∈ out → 50 ≤ e.fare

/-- An UPDATE whose rewrite keeps a fare of at least `50` keeps every fare at least `50`. -/
theorem updateWhere_fares {trips : Trips} {t : Uuid} {guard : TripStatus → Bool}
    {set : Trip → Trip} (h : ∀ t r f, trips t = some r → r.fare = some f → 50 ≤ f)
    (hset : ∀ r f, trips t = some r → (set r).fare = some f → 50 ≤ f) :
    ∀ t' r f, (updateWhere trips t guard set).1 t' = some r → r.fare = some f → 50 ≤ f := by
  intro t' r f hr hf
  rcases updateWhere_cases trips t t' guard set with h' | ⟨rfl, r₀, hr₀, -, h'⟩ <;> rw [h'] at hr
  · exact h t' r f hr hf
  · cases hr; exact hset r₀ f hr₀ hf

/-- **One step keeps every fare at least `50`**, when the haversine distance is never
negative. -/
theorem Ledger.FareFloor.next {haversineKm : ℚ → ℚ → ℚ → ℚ → ℚ}
    (hk : ∀ a b c d, 0 ≤ haversineKm a b c d) {L : Ledger} {out : List Outgoing}
    (h : L.FareFloor out) (b : LedgerAct) :
    (L.next haversineKm b).FareFloor (out ++ (L.step haversineKm b).2) := by
  unfold Ledger.next
  have hm := L.step_moves haversineKm b
  generalize L.step haversineKm b = p at hm ⊢
  /- the rows of a step that starts no event -/
  have quiet : ∀ L' : Ledger, (∀ t r f, L'.trips t = some r → r.fare = some f → 50 ≤ f) →
      L'.FareFloor (out ++ []) := fun L' hr => ⟨hr, fun e he => h.event e (by simpa using he)⟩
  cases hm with
  | stay => exact quiet L h.row
  | insert id riderId req now dbNow users rider _ _ hn =>
    refine ⟨fun t r f hr hf => ?_, fun e he => ?_⟩
    · dsimp only at hr
      by_cases ht : t = id
      · subst ht
        rw [Function.update_same] at hr
        cases hr; cases hf
      · rw [Function.update_noteq ht] at hr
        exact h.row t r f hr hf
    · rcases List.mem_append.1 he with he | he
      · exact h.event e he
      · simp at he
  | assign _ _ _ t d => exact quiet _ (updateWhere_fares h.row fun r f hr hf => h.row t r f hr hf)
  | start _ t now => exact quiet _ (updateWhere_fares h.row fun r f hr hf => h.row t r f hr hf)
  | read | reject => exact quiet _ h.row
  | fail => exact quiet _ h.row
  | complete i now c trip u stored ok _ hp hu hc =>
    have hfare := fareFor_ge (tripKm_nonneg hk trip c.distKm)
    refine ⟨updateWhere_fares h.row fun r f _ hf => ?_, fun e he => ?_⟩
    · cases hf
      exact_mod_cast numericCast_ge (n := 50) hc (by exact_mod_cast hfare)
    · rcases List.mem_append.1 he with he | he
      · exact h.event e he
      · rw [List.mem_singleton, Outgoing.tripCompleted.injEq] at he
        subst he
        exact hfare

end RideService.Trips

namespace RideService.System

open RideService RideService.Trips

/-- **No fare under the base fare**, over every run, when the haversine distance is never
negative: every fare in `trips` and every fare in the `trip.completed` topic is at least
`50`. -/
theorem fares_at_least_base (E : Env) (hk : ∀ a b c d, 0 ≤ E.haversineKm a b c d) {S : Sys}
    (hS : S.Reachable E) :
    (∀ t r f, S.ledger.trips t = some r → r.fare = some f → 50 ≤ f) ∧
      ∀ e ∈ S.tripCompleted, 50 ≤ e.fare := by
  have h := (Sys.Reachable.ledger_induction E (P := Ledger.FareFloor)
    ⟨fun _ _ _ h _ => (nomatch h), fun _ h => (nomatch h)⟩ (fun _ _ b _ h => h.next hk b) S hS).2
  exact ⟨h.row, fun e he => h.event e (hS.completed_started he)⟩

theorem thousandthKm_fares : (∀ a b c d, 0 ≤ Env.sample.haversineKm a b c d) ∧
    (∀ t r f, (Sys.init.run Env.sample thousandthKm).ledger.trips t = some r → r.fare = some f →
      50 ≤ f) ∧ ∀ e ∈ (Sys.init.run Env.sample thousandthKm).tripCompleted, 50 ≤ e.fare :=
  ⟨fun _ _ _ _ => le_refl 0,
    fares_at_least_base Env.sample (fun _ _ _ _ => le_refl 0) ⟨thousandthKm, rfl⟩⟩

end RideService.System
