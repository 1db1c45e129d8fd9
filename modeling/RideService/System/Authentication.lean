import RideService.System.Step

/-!
# What authentication protects

`RequireAuth` checks that a request carries a valid token, not whose it is: the handler of
`PATCH /drivers/{id}/location` (`drivers/handler.go:96`) moves the driver named in the path
for any caller with a valid token (`riderMovesDriver`). The two register routes need no
token and add accounts, on which later requests depend: a trip's rider must be in `users`,
an assigned driver in `drivers`. What the middleware does guarantee is that any other request
without a valid token changes nothing but, on the public `/ws` route, the tracking hub
(`Sys.forgetHub_guest`). No other step reads the hub (`Sys.forgetHub_step`), so two runs
that differ only in such requests end in the same state apart from the hub, with the same
geo set in particular (`unauthenticated_requests_inert`).

What does change the pool (`pool_changes`): an `UpdateLocation` let through by `RequireAuth`,
with coordinates that pass `ValidateCoordinates` and a `GEOADD` that goes through, which sets
the driver's position; and the matching handler's `ZREM` of the driver it published, which
removes it. So every position in the pool passed `ValidateCoordinates`
(`Sys.Reachable.pool_valid`).
-/

namespace RideService.System

open RideService RideService.Trips RideService.Geo RideService.Tracking RideService.Http

/-- The service with its hub forgotten. -/
def Sys.forgetHub (S : Sys) : Sys := { S with hub := Hub.init }

/-- A request whose handlers see no claims, to a route other than the two registers. -/
def SysAct.guest (validate : String → Option Claims) : SysAct → Bool
  | .http r => (r.claims validate).isNone && !r.route.isRegister
  | _ => false

section
variable (E : Env)

/-- **No step reads the hub.** -/
theorem Sys.forgetHub_step (S : Sys) (a : SysAct) :
    (S.step E a).forgetHub = (S.forgetHub.step E a).forgetHub := by
  cases a with
  | http r =>
    obtain ⟨auth, route⟩ := r
    cases route <;> simp only [Sys.step, Sys.handle, requireAuth, Sys.forgetHub, Sys.ledgerStep]
    all_goals (try split) <;> (try split) <;> rfl
  | publish | matchTake | matchPublish | matchRemove | consume =>
    simp only [Sys.step, Sys.publish, Sys.matchTake, Sys.matchPublish, Sys.matchRemove,
      Sys.consume, Sys.forgetHub, Sys.handed]
    repeat' split
    all_goals rfl
  | wsClose c => rfl
  | endUpdate | endFail => rfl

/-- **A request without a valid token, other than a register, changes nothing but the
hub.** `RequireAuth` turns it away from every route but `/ws` and the two logins, which
only read. -/
theorem Sys.forgetHub_guest (S : Sys) {a : SysAct} (ha : a.guest E.validate = true) :
    (S.step E a).forgetHub = S.forgetHub := by
  cases a with
  | http r =>
    obtain ⟨auth, route⟩ := r
    simp only [SysAct.guest, Bool.and_eq_true, Option.isNone_iff_eq_none] at ha
    cases route <;> simp_all [Sys.step, Sys.handle, requireAuth, Sys.forgetHub, Route.isRegister]
  | _ => cases ha

theorem Sys.forgetHub_run (S : Sys) (acts : List SysAct) :
    (S.run E acts).forgetHub = (S.forgetHub.run E acts).forgetHub := by
  induction acts generalizing S with
  | nil => rfl
  | cons a acts ih =>
    rw [Sys.run_cons, Sys.run_cons, ih, S.forgetHub_step E a, ← ih]

/-- A run ends where the run of its steps other than guests' ends, the hub apart. -/
theorem Sys.forgetHub_run_filter (S : Sys) (acts : List SysAct) :
    (S.run E acts).forgetHub =
      (S.run E (acts.filter fun a => !a.guest E.validate)).forgetHub := by
  induction acts generalizing S with
  | nil => rfl
  | cons a acts ih =>
    by_cases ha : a.guest E.validate = true
    · rw [List.filter_cons_of_neg (by simp [ha]), Sys.run_cons, Sys.forgetHub_run, ih,
        Sys.forgetHub_run, S.forgetHub_guest E ha, ← Sys.forgetHub_run,
        ← Sys.forgetHub_run]
    · rw [List.filter_cons_of_pos (by simpa using ha), Sys.run_cons, Sys.run_cons, ih]

/-- **Requests without a valid token are inert, registers apart.** Two runs that differ only
in requests whose handlers see no claims, to routes other than the two registers, end in the
same state apart from the tracking hub: the same accounts, ledger, topics and matching, and
the same geo set. -/
theorem unauthenticated_requests_inert (acts₁ acts₂ : List SysAct)
    (h : acts₁.filter (fun a => !a.guest E.validate) = acts₂.filter (fun a => !a.guest E.validate)) :
    (Sys.init.run E acts₁).forgetHub = (Sys.init.run E acts₂).forgetHub ∧
      (Sys.init.run E acts₁).geo = (Sys.init.run E acts₂).geo := by
  have he : (Sys.init.run E acts₁).forgetHub = (Sys.init.run E acts₂).forgetHub := by
    rw [Sys.forgetHub_run_filter, h, ← Sys.forgetHub_run_filter]
  exact ⟨he, by have := congrArg Sys.geo he; exact this⟩

end

/-- A location push without a token, and no request at all, leave the same geo set. -/
theorem unauthenticated_location_inert :
    [SysAct.http ⟨"", .driverLocation (uuidOut driverD) ⟨1, 1⟩ true⟩].filter
        (fun a => !a.guest Env.sample.validate) = [].filter (fun a => !a.guest Env.sample.validate) ∧
      (Sys.init.run Env.sample [.http ⟨"", .driverLocation (uuidOut driverD) ⟨1, 1⟩ true⟩]).geo =
        (Sys.init.run Env.sample []).geo :=
  ⟨by decide, (unauthenticated_requests_inert Env.sample
    [.http ⟨"", .driverLocation (uuidOut driverD) ⟨1, 1⟩ true⟩] [] (by decide)).2⟩

/-- With the rider's token, a request moves the driver `driverD`: the run of that one request
and the empty run differ only in a request of the principal `riderR`, and end with different
positions of `driverD`. -/
theorem riderMovesDriver :
    (Env.sample.validate "rider-token").map (·.userId) = some (uuidOut riderR) ∧
      uuidOut riderR ≠ uuidOut driverD ∧
      (Sys.init.run Env.sample
        [.http ⟨"Bearer rider-token", .driverLocation (uuidOut driverD) ⟨1, 1⟩ true⟩]).geo.pos
          (uuidOut driverD) = some ⟨1, 1⟩ ∧
      (Sys.init.run Env.sample []).geo.pos (uuidOut driverD) = none := by
  decide

/-! ## Who changes the pool -/

section
variable (E : Env)

/-- **What a step does to the geo set**: nothing; an authenticated `UpdateLocation` with valid
coordinates whose `GEOADD` goes through; or the matching handler's `ZREM` of the driver it
published. -/
theorem Sys.step_geo (S : Sys) (a : SysAct) :
    (S.step E a).geo = S.geo ∨
      (∃ auth d loc, a = .http ⟨auth, .driverLocation d loc true⟩ ∧
        (optionalAuth E.validate auth).isSome ∧ validateCoordinates loc.lat loc.lng = true ∧
        (S.step E a).geo = setDriverLocation S.geo d loc.lat loc.lng) ∨
      ∃ i ev d, a = .matchRemove true ∧ S.matcher = .published i ev d ∧
        (S.step E a).geo = removeDriverLocation S.geo d := by
  cases a with
  | http r =>
    obtain ⟨auth, route⟩ := r
    cases route with
    | driverLocation d loc ok =>
      simp only [Sys.step, Sys.handle, HttpRequest.claims, requireAuth]
      split
      · rename_i c hc
        split
        · rename_i hg
          obtain ⟨hv, rfl⟩ := Bool.and_eq_true_iff.1 hg
          exact .inr (.inl ⟨auth, d, loc, rfl, by rw [hc]; rfl, hv, rfl⟩)
        · exact .inl rfl
      · exact .inl rfl
    | _ =>
      refine .inl ?_
      simp only [Sys.step, Sys.handle, requireAuth, Sys.ledgerStep]
      repeat' split
      all_goals rfl
  | matchRemove ok =>
    simp only [Sys.step, Sys.matchRemove]
    split
    · rename_i i ev d hm
      cases ok
      · exact .inl rfl
      · exact .inr (.inr ⟨i, ev, d, rfl, hm, rfl⟩)
    · exact .inl rfl
  | _ =>
    refine .inl ?_
    simp only [Sys.step, Sys.ledgerStep, Sys.publish, Sys.matchTake, Sys.matchPublish, Sys.consume]
    repeat' split
    all_goals rfl

/-- Every position in the pool of a reachable state passed `ValidateCoordinates`. -/
theorem Sys.Reachable.pool_valid {S : Sys} (hS : S.Reachable E) :
    ∀ d p, S.geo.pos d = some p → validateCoordinates p.lat p.lng = true :=
  Sys.Reachable.induction E (P := fun S => ∀ d p, S.geo.pos d = some p →
      validateCoordinates p.lat p.lng = true) (fun _ _ h => by simp [Sys.init] at h)
    (fun S a _ ih d p hp => by
      rcases S.step_geo E a with hg | ⟨_, d', loc, -, -, hv, hg⟩ | ⟨_, _, d', -, -, hg⟩ <;>
        rw [hg] at hp
      · exact ih d p hp
      · simp only [setDriverLocation, GeoSet.pos_geoAdd] at hp
        split at hp
        · cases hp; exact hv
        · exact ih d p hp
      · simp only [removeDriverLocation, GeoSet.pos_zRem] at hp
        split at hp
        · cases hp
        · exact ih d p hp) S hS

/-- After a driver's first push, its position passed `ValidateCoordinates`. -/
theorem firstPush_valid :
    (Sys.init.run Env.sample
        [.http ⟨"Bearer driver-token", .driverLocation (uuidOut driverD) ⟨0, 0⟩ true⟩]).geo.pos
        (uuidOut driverD) = some ⟨0, 0⟩ ∧ validateCoordinates 0 0 = true :=
  have hp : (Sys.init.run Env.sample
      [.http ⟨"Bearer driver-token", .driverLocation (uuidOut driverD) ⟨0, 0⟩ true⟩]).geo.pos
      (uuidOut driverD) = some ⟨0, 0⟩ := by decide
  ⟨hp, Sys.Reachable.pool_valid Env.sample ⟨_, rfl⟩ _ _ hp⟩

end

end RideService.System
