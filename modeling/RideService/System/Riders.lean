import RideService.System.Matching

/-!
# Whose trip it is

`Handler.Request` takes the rider from the claims `jwt.OptionalAuth` put in the request's
context (`handler.go:33`), never from the body, and `RequireAuth` lets no request without
claims reach it; the INSERT stores the `uuid` that `uuid_in` reads off it. No statement of
`trips.Service` writes `rider_id` again, nor the pickup, the drop or the request time
(`Trip.requestCols`). So over every run, every trip's rider is the `uuid` of the user id of
claims the token check returned for some token, and the trip keeps its rider and its request
for the rest of any run (`trip_rider_authenticated`).

`Ledger.next_requestCols` says once where a row after a step comes from: a row before it with
the same request columns, or the row the step's own `Request` inserted. `Sys.step_ledger`
says which steps of the service reach the ledger, and that a `Request` among them carries the
user id of the caller's claims.
-/

namespace RideService.Trips

open RideService

section
variable (haversineKm : ℚ → ℚ → ℚ → ℚ → ℚ) {L : Ledger} {t : Uuid}

/-- **Where a row after a step comes from**: a row before it with the same request columns,
or the `Request` of the step, which inserted it for the `uuid` of its rider's id. -/
theorem Ledger.next_requestCols (L : Ledger) (b : LedgerAct) {r' : Trip}
    (h : (L.next haversineKm b).trips t = some r') :
    (∃ r, L.trips t = some r ∧ r'.requestCols = r.requestCols) ∨
      ∃ riderId rider req now dbNow users, b = .request t riderId req now dbNow users ∧
        uuidIn riderId = some rider ∧ r' = requestedTrip rider req now dbNow := by
  unfold Ledger.next at h
  have hm := L.step_moves haversineKm b
  generalize L.step haversineKm b = p at hm h
  /- an UPDATE's row is the old row or its rewrite, which keeps the request columns -/
  have upd : ∀ {t₀ guard} {set : Trip → Trip}, (updateWhere L.trips t₀ guard set).1 t = some r' →
      (∀ r, (set r).requestCols = r.requestCols) → ∃ r, L.trips t = some r ∧
        r'.requestCols = r.requestCols := fun {t₀ guard set} hu hs => by
    rcases updateWhere_cases L.trips t₀ t guard set with h' | ⟨rfl, r, hr, -, h'⟩ <;> rw [h'] at hu
    · exact ⟨r', hu, rfl⟩
    · cases hu; exact ⟨r, hr, hs r⟩
  cases hm with
  | stay | read | reject | fail => exact .inl ⟨r', h, rfl⟩
  | insert id riderId req now dbNow users rider hb hr =>
    dsimp only at h
    by_cases ht : t = id
    · subst ht
      rw [Function.update_same, Option.some.injEq] at h
      exact .inr ⟨riderId, rider, req, now, dbNow, users, hb, hr, h.symm⟩
    · rw [Function.update_noteq ht] at h
      exact .inl ⟨r', h, rfl⟩
  | assign | start | complete => exact .inl (upd h fun _ => rfl)

/-- A row keeps its request columns over a step. -/
theorem Ledger.next_keeps_requestCols {r : Trip} (h : L.trips t = some r) (b : LedgerAct) :
    ∃ r', (L.next haversineKm b).trips t = some r' ∧ r'.requestCols = r.requestCols := by
  unfold Ledger.next
  have hm := L.step_moves haversineKm b
  generalize L.step haversineKm b = p at hm
  cases hm with
  | stay | read | reject | fail => exact ⟨r, h, rfl⟩
  | insert id riderId req now dbNow users rider _ _ hn =>
    have ht : t ≠ id := fun e => by rw [e, hn] at h; cases h
    exact ⟨r, by dsimp only; rw [Function.update_noteq ht, h], rfl⟩
  | assign | start | complete => exact updateWhere_keeps Trip.requestCols (by exact fun _ => rfl) h

end

end RideService.Trips

namespace RideService.System

open RideService RideService.Trips RideService.Http

/-- The claims a request's handlers see came from a token `validate` accepted. -/
theorem HttpRequest.validate_of_claims {validate : String → Option Claims} {r : HttpRequest}
    {c : Claims} (h : r.claims validate = some c) : ∃ raw, validate raw = some c := by
  unfold HttpRequest.claims optionalAuth at h
  split at h
  · exact ⟨_, h⟩
  · cases h

section
variable (E : Env)

/-- **Which steps reach the ledger.** A step leaves it alone, or makes one step of it, which
is a `Request` only on behalf of the user id of claims the token check returned. -/
theorem Sys.step_ledger (S : Sys) (a : SysAct) :
    (S.step E a).ledger = S.ledger ∨ ∃ b, (S.step E a).ledger = S.ledger.next E.haversineKm b ∧
      ∀ id riderId req now dbNow users, b = .request id riderId req now dbNow users →
        ∃ raw c, E.validate raw = some c ∧ c.userId = riderId := by
  /- a step of the ledger that is no `Request` -/
  have other : ∀ b : LedgerAct,
      (∀ id riderId req now dbNow users, b ≠ .request id riderId req now dbNow users) →
      ∃ b', (S.ledgerStep E b).ledger = S.ledger.next E.haversineKm b' ∧
        ∀ id riderId req now dbNow users, b' = .request id riderId req now dbNow users →
          ∃ raw c, E.validate raw = some c ∧ c.userId = riderId :=
    fun b hb => ⟨b, rfl, fun id riderId req now dbNow users h =>
      absurd h (hb id riderId req now dbNow users)⟩
  cases a with
  | http r =>
    obtain ⟨auth, route⟩ := r
    cases route with
    | ws | userRegister | userLogin | driverRegister | driverLogin => exact .inl rfl
    | driverLocation =>
      refine .inl ?_
      simp only [Sys.step, Sys.handle, requireAuth]
      repeat' split
      all_goals rfl
    | tripRequest id req now dbNow =>
      simp only [Sys.step, Sys.handle, requireAuth]
      split
      · rename_i c hc
        obtain ⟨raw, hraw⟩ := HttpRequest.validate_of_claims hc
        exact .inr ⟨_, rfl, fun _ _ _ _ _ _ h => by cases h; exact ⟨raw, c, hraw, rfl⟩⟩
      · exact .inl rfl
    | tripAssign | tripStart | tripEnd =>
      simp only [Sys.step, Sys.handle, requireAuth]
      split
      · exact .inr (other _ fun _ _ _ _ _ _ h => nomatch h)
      · exact .inl rfl
  | endUpdate | endFail => exact .inr (other _ fun _ _ _ _ _ _ h => nomatch h)
  | consume i ok =>
    simp only [Sys.step, Sys.consume]
    split
    · split
      · exact .inl rfl
      · cases ok
        · exact .inl rfl
        · exact .inr ⟨_, rfl, fun _ _ _ _ _ _ h => nomatch h⟩
    · exact .inl rfl
  | publish | matchTake | matchPublish | matchRemove =>
    simp only [Sys.step, Sys.publish, Sys.matchTake, Sys.matchPublish, Sys.matchRemove]
    repeat' split
    all_goals exact .inl rfl
  | wsClose => exact .inl rfl

/-- Every trip's rider is the `uuid` of the user id of claims the token check returned. -/
def Sys.RidersAuthenticated (S : Sys) : Prop :=
  ∀ t r, S.ledger.trips t = some r → ∃ raw c, E.validate raw = some c ∧ uuidIn c.userId = some r.riderId

theorem Sys.RidersAuthenticated.step {S : Sys} (h : S.RidersAuthenticated E) (a : SysAct) :
    (S.step E a).RidersAuthenticated E := by
  intro t r' hr'
  rcases S.step_ledger E a with hl | ⟨b, hl, hreq⟩ <;> rw [hl] at hr'
  · exact h t r' hr'
  · rcases S.ledger.next_requestCols E.haversineKm b hr' with
      ⟨r, hr, hc⟩ | ⟨riderId, rider, req, now, dbNow, users, hb, hu, rfl⟩
    · rw [show r'.riderId = r.riderId from congrArg Prod.fst hc]
      exact h t r hr
    · obtain ⟨raw, c, hraw, hc⟩ := hreq t riderId req now dbNow users hb
      exact ⟨raw, c, hraw, hc ▸ hu⟩

/-- Over every run, a row keeps its request columns. -/
theorem Sys.run_keeps_requestCols (S : Sys) (acts : List SysAct) {t : Uuid} {r : Trip}
    (hr : S.ledger.trips t = some r) :
    ∃ r', (S.run E acts).ledger.trips t = some r' ∧ r'.requestCols = r.requestCols := by
  induction acts generalizing S r with
  | nil => exact ⟨r, hr, rfl⟩
  | cons a acts ih =>
    have keep : ∃ r₁, (S.step E a).ledger.trips t = some r₁ ∧ r₁.requestCols = r.requestCols := by
      rcases S.step_ledger E a with hl | ⟨b, hl, -⟩ <;> rw [hl]
      · exact ⟨r, hr, rfl⟩
      · exact S.ledger.next_keeps_requestCols E.haversineKm hr b
    obtain ⟨r₁, hr₁, hc₁⟩ := keep
    obtain ⟨r', hr', hc'⟩ := ih (S.step E a) hr₁
    exact ⟨r', hr', hc'.trans hc₁⟩

end

/-- **A trip belongs to the user whose token requested it.** In every reachable state, every
trip's rider is the `uuid` of the user id of claims the token check returned for some token;
and over every continuation of the run the trip keeps its rider, pickup, drop and request
time. -/
theorem trip_rider_authenticated (E : Env) {S : Sys} (hS : S.Reachable E) (acts : List SysAct)
    {t : Uuid} {r : Trip} (hr : S.ledger.trips t = some r) :
    (∃ raw c, E.validate raw = some c ∧ uuidIn c.userId = some r.riderId) ∧
      ∃ r', (S.run E acts).ledger.trips t = some r' ∧ r'.requestCols = r.requestCols :=
  ⟨Sys.Reachable.induction E (P := Sys.RidersAuthenticated E) (fun _ _ h => nomatch h)
      (fun _ a _ h => h.step E a) S hS t r hr,
    S.run_keeps_requestCols E acts hr⟩

/-- The trip of `nearbyRequest`, and a manual assignment after it. -/
theorem nearbyRequest_rider :
    (Sys.init.run Env.sample nearbyRequest).ledger.trips tripT =
        some (requestedTrip riderR ⟨0, 0, 1, 1⟩ 0 0) ∧
      (∃ raw c, Env.sample.validate raw = some c ∧
        uuidIn c.userId = some (requestedTrip riderR ⟨0, 0, 1, 1⟩ 0 0).riderId) ∧
      ∃ r', ((Sys.init.run Env.sample nearbyRequest).run Env.sample
          [.http ⟨"Bearer driver-token", .tripAssign (uuidOut tripT) (uuidOut driverD)⟩]).ledger.trips
          tripT = some r' ∧ r'.requestCols = (requestedTrip riderR ⟨0, 0, 1, 1⟩ 0 0).requestCols :=
  have h : (Sys.init.run Env.sample nearbyRequest).ledger.trips tripT =
      some (requestedTrip riderR ⟨0, 0, 1, 1⟩ 0 0) := by decide
  ⟨h, trip_rider_authenticated Env.sample ⟨nearbyRequest, rfl⟩ _ h⟩

end RideService.System
