import RideService.Trips.Ledger

/-!
# Two `End` calls on one trip

`AssignDriver` and `Start` are compare-and-swap updates: their `WHERE` clause names the
pre-state, so of two racing calls one changes nothing. `End` checks the status in its
`GetByID`, but its UPDATE (`service.go:139`) guards only the id. Two calls that both read
the trip `STARTED` before either updates therefore both succeed: each rewrites the row,
the second over the first's `COMPLETED`, and each starts its own `trip.completed` publish
(`Ledger.end_twice`). `end_race_both_succeed` runs this from an empty ledger.
-/

namespace RideService.Trips

open RideService

section
variable (haversineKm : ℚ → ℚ → ℚ → ℚ → ℚ)

/-- `End`'s second half on a trip whose row is there and whose fare fits the column. -/
theorem endUpdate_of_row {trips : Trips} {t : TripId} {u : Uuid} {r trip : Trip}
    {distKm : Option ℚ} {stored : ℚ} (now : Nat) (hu : uuidIn t = some u) (hr : trips u = some r)
    (hc : numericCast 12 2 (fareFor (tripKm haversineKm trip distKm)) = .ok stored) :
    endUpdate haversineKm trips t trip distKm now =
      .ok (Function.update trips u (some (completing stored (pgTimestamptz now) r)),
        completedEvent t trip (fareFor (tripKm haversineKm trip distKm)) now,
        .ok (completing stored (pgTimestamptz now) r)) := by
  unfold endUpdate
  dsimp only
  rw [endSql_of_cast hu hc]
  simp only [updateWhere, hr, if_true, getByID, hu, Option.some_bind, Function.update_same]

/-- The step of a pending `End` call whose UPDATE goes through. -/
theorem Ledger.step_endUpdate {L : Ledger} {i : Nat} {c : EndCall} {u : Uuid} {r trip : Trip}
    {stored : ℚ} (now : Nat) (hp : L.pendingEnd i = some (c, trip)) (hu : uuidIn c.tripId = some u)
    (hr : L.trips u = some r)
    (hc : numericCast 12 2 (fareFor (tripKm haversineKm trip c.distKm)) = .ok stored) :
    L.step haversineKm (.endUpdate i now) =
      (⟨Function.update L.trips u (some (completing stored (pgTimestamptz now) r)),
        L.ends.set i { c with phase := .returned true }⟩,
        [.tripCompleted (completedEvent c.tripId trip
          (fareFor (tripKm haversineKm trip c.distKm)) now)]) := by
  simp [Ledger.step, hp, endUpdate_of_row haversineKm now hu hr hc, Except.toBool]

/-- **Both of two `End` calls succeed.** When two calls on `t` both read it `STARTED`
before either updates, both UPDATEs go through, both calls return success, and each starts
a `trip.completed` publish, with its own fare; the row ends with the second fare. -/
theorem Ledger.end_twice (L : Ledger) {t : TripId} {u : Uuid} {trip : Trip}
    (hu : uuidIn t = some u) (hr : endRead L.trips t = .ok trip) (k₁ k₂ : Option ℚ)
    (now₁ now₂ : Nat) {s₁ s₂ : ℚ}
    (h₁ : numericCast 12 2 (fareFor (tripKm haversineKm trip k₁)) = .ok s₁)
    (h₂ : numericCast 12 2 (fareFor (tripKm haversineKm trip k₂)) = .ok s₂) :
    L.exec haversineKm [.endRead t k₁, .endRead t k₂, .endUpdate L.ends.length now₁,
        .endUpdate (L.ends.length + 1) now₂] =
      (⟨Function.update L.trips u (some (completing s₂ (pgTimestamptz now₂) trip)),
        L.ends ++ [⟨t, k₁, .returned true⟩, ⟨t, k₂, .returned true⟩]⟩,
        [.tripCompleted (completedEvent t trip (fareFor (tripKm haversineKm trip k₁)) now₁),
          .tripCompleted (completedEvent t trip (fareFor (tripKm haversineKm trip k₂)) now₂)]) := by
  obtain ⟨u', hu', hrow, -⟩ := endRead_eq_ok hr
  rw [hu, Option.some.injEq] at hu'
  subst hu'
  have hL₂ : ((L.step haversineKm (.endRead t k₁)).1.step haversineKm (.endRead t k₂)).1 =
      ⟨L.trips, L.ends ++ [⟨t, k₁, .read trip⟩, ⟨t, k₂, .read trip⟩]⟩ := by
    simp [Ledger.step, hr]
  have hp₁ : Ledger.pendingEnd ⟨L.trips, L.ends ++ [⟨t, k₁, .read trip⟩, ⟨t, k₂, .read trip⟩]⟩
      L.ends.length = some (⟨t, k₁, .read trip⟩, trip) := by
    simp only [Ledger.pendingEnd, List.getElem?_append_right (le_refl _), Nat.sub_self]
    rfl
  have hp₂ : Ledger.pendingEnd
      ⟨Function.update L.trips u (some (completing s₁ (pgTimestamptz now₁) trip)),
      L.ends ++ [⟨t, k₁, .returned true⟩, ⟨t, k₂, .read trip⟩]⟩ (L.ends.length + 1) =
      some (⟨t, k₂, .read trip⟩, trip) := by
    simp only [Ledger.pendingEnd, List.getElem?_append_right (Nat.le_add_right _ 1),
      Nat.add_sub_cancel_left]
    rfl
  have hs₁ := Ledger.step_endUpdate haversineKm now₁ hp₁ hu hrow h₁
  have hs₂ := Ledger.step_endUpdate haversineKm now₂ hp₂ hu (Function.update_same _ _ _) h₂
  simp only [List.set_append_right, List.length_cons, List.length_nil, le_refl, Nat.sub_self,
    List.set_cons_zero] at hs₁
  rw [Ledger.exec_cons, Ledger.exec_cons, hL₂, Ledger.exec_cons, hs₁, Ledger.exec_cons, hs₂,
    Ledger.exec_nil]
  simp [List.set_append_right, completing]

/-- The ledger of one trip, requested at second `0`, assigned, and started at second `1`. -/
def startedLedger (haversineKm : ℚ → ℚ → ℚ → ℚ → ℚ) : Ledger :=
  Ledger.init.run haversineKm
    [.request tripT (uuidOut riderR) ⟨0, 0, 0, 0⟩ 0 0 [riderR],
      .assign (uuidOut tripT) (uuidOut driverD) [driverD], .start (uuidOut tripT) (10 ^ 9)]

/-- `End(t, 1)` and `End(t, 2)` both read the trip before either updates, at seconds `5`
and `6`. -/
def endRace : List LedgerAct :=
  [.endRead (uuidOut tripT) (some 1), .endRead (uuidOut tripT) (some 2),
    .endUpdate 0 (5 * 10 ^ 9), .endUpdate 1 (6 * 10 ^ 9)]

/-- **The End race.** On the started trip of `startedLedger`, both calls of `endRace`
return success, both publish `trip.completed` (fares `62` and `74`), and the row keeps
`74`. -/
theorem end_race_both_succeed (haversineKm : ℚ → ℚ → ℚ → ℚ → ℚ) :
    ((startedLedger haversineKm).exec haversineKm endRace).2 =
      [.tripCompleted ⟨uuidOut tripT, uuidOut driverD, uuidOut riderR, 62,
          "1970-01-01T00:00:05Z", 4⟩,
        .tripCompleted ⟨uuidOut tripT, uuidOut driverD, uuidOut riderR, 74,
          "1970-01-01T00:00:06Z", 5⟩] ∧
      ((startedLedger haversineKm).exec haversineKm endRace).1.ends.map (·.phase) =
        [.returned true, .returned true] ∧
      (((startedLedger haversineKm).exec haversineKm endRace).1.trips tripT).bind (·.fare) =
        some 74 := by
  have hr : endRead (startedLedger haversineKm).trips (uuidOut tripT) = .ok
      (starting (10 ^ 6) (assigning driverD (requestedTrip riderR ⟨0, 0, 0, 0⟩ 0 0))) :=
    rfl
  have hc : ∀ (trip : Trip) (k : ℚ) (n : ℤ), 0 < k → (50 + k * 12) * 100 = n →
      n.natAbs < 10 ^ 12 →
      numericCast 12 2 (fareFor (tripKm haversineKm trip (some k))) = .ok (50 + k * 12) :=
    fun _ _ _ hk hn hb => by rw [tripKm_of_pos hk]; exact numericCast_exact hn hb
  have hends : (startedLedger haversineKm).ends = [] := rfl
  have h := (startedLedger haversineKm).end_twice haversineKm (uuidIn_uuidOut tripT) hr
    (some 1) (some 2) (5 * 10 ^ 9) (6 * 10 ^ 9)
    (hc _ 1 6200 one_pos (by norm_num) (by norm_num)) (hc _ 2 7400 two_pos (by norm_num) (by norm_num))
  simp only [hends, List.length_nil, zero_add, List.append_nil, List.nil_append] at h
  rw [endRace, h]
  refine ⟨?_, rfl, by simp [completing]; norm_num⟩
  simp only [completedEvent, fareFor, tripKm_of_pos one_pos, tripKm_of_pos two_pos]
  norm_num
  decide
end

end RideService.Trips
