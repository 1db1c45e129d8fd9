import RideService.System.Step

/-!
# Live tracking carries no position

The README (`src/unnamed/part_005:557`) and `BroadcastLocation`'s own comment say that a
driver's location pushes reach the subscribers of its trip. `BroadcastLocation` is the only
code that writes to a tracking connection, and nothing in the service calls it:
`UpdateLocation` (`src/unnamed/part_003:105`) only runs `SetDriverLocation`, and `main`
hands the hub to the `/ws` route alone, so it is reached only by `HandleWS` and the end of
its read loop (`Sys.step_hub`). Along every run the hub sends nothing, whatever location
pushes, trips and subscriptions interleave (`tracking_never_sent`), which is a defect of the
code against its documentation. `movedWhileWatched` is a run that shows it: a connection is
in the hub's `conns` entry of the trip of the driver who moves, and is sent nothing.
-/

namespace RideService.System

open RideService RideService.Trips RideService.Geo RideService.Tracking RideService.Http

section
variable (E : Env)

/-- `PATCH /drivers/{d}/location` changes the geo set and nothing else. -/
theorem Sys.step_driverLocation (S : Sys) (auth : String) (d : DriverId) (loc : LatLng)
    (ok : Bool) :
    S.step E (.http ⟨auth, .driverLocation d loc ok⟩) = S ∨
      S.step E (.http ⟨auth, .driverLocation d loc ok⟩) =
        { S with geo := setDriverLocation S.geo d loc.lat loc.lng } := by
  simp only [Sys.step, Sys.handle, requireAuth]
  split
  · split
    · exact .inr rfl
    · exact .inl rfl
  · exact .inl rfl

/-- A step sends no tracking message and starts no broadcast. -/
theorem Sys.step_hub_sent (S : Sys) (a : SysAct) :
    (S.step E a).hub.sent = S.hub.sent ∧ (S.step E a).hub.broadcasts = S.hub.broadcasts := by
  rcases S.step_hub E a with h | ⟨t, h⟩ | ⟨c, h⟩ <;> rw [h] <;> simp

/-- **No position is ever sent to a tracking connection.** `UpdateLocation` changes only the
geo set, and along every run the hub has sent nothing and runs no broadcast. -/
theorem tracking_never_sent (acts : List SysAct) :
    (∀ (S : Sys) auth d loc ok, S.step E (.http ⟨auth, .driverLocation d loc ok⟩) = S ∨
      S.step E (.http ⟨auth, .driverLocation d loc ok⟩) =
        { S with geo := setDriverLocation S.geo d loc.lat loc.lng }) ∧
      (Sys.init.run E acts).hub.sent = [] ∧ (Sys.init.run E acts).hub.broadcasts = [] := by
  refine ⟨Sys.step_driverLocation E, ?_⟩
  suffices ∀ S : Sys, (S.run E acts).hub.sent = S.hub.sent ∧
      (S.run E acts).hub.broadcasts = S.hub.broadcasts from this Sys.init
  induction acts with
  | nil => exact fun _ => ⟨rfl, rfl⟩
  | cons a acts ih =>
    intro S
    obtain ⟨h₁, h₂⟩ := ih (S.step E a)
    obtain ⟨h₃, h₄⟩ := S.step_hub_sent E a
    exact ⟨h₁.trans h₃, h₂.trans h₄⟩

end

/-- The rider and the driver register; the rider requests trip `tripT`; a manual
`AssignDriver` gives it to `driverD`; a client opens `/ws/trips/{tripT}`; and the driver
pushes a location. -/
def movedWhileWatched : List SysAct :=
  signups ++
    [.http ⟨"Bearer rider-token", .tripRequest tripT ⟨0, 0, 1, 1⟩ 0 0⟩,
      .http ⟨"Bearer rider-token", .tripAssign (uuidOut tripT) (uuidOut driverD)⟩,
      .http ⟨"", .ws (uuidOut tripT)⟩,
      .http ⟨"Bearer driver-token", .driverLocation (uuidOut driverD) ⟨0, 0⟩ true⟩]

/-- In `movedWhileWatched` the push succeeds while `driverD` drives `tripT` and connection
`1` is in the hub's `conns` entry for `tripT`, and nothing is sent to it. -/
theorem movedWhileWatched_unsent :
    ((Sys.init.run Env.sample movedWhileWatched).ledger.trips tripT).map
        (fun r => (r.status, r.driverId)) = some (.driverAssigned, some driverD) ∧
      (∃ s, (Sys.init.run Env.sample movedWhileWatched).hub.conns (uuidOut tripT) = some s ∧
        (Sys.init.run Env.sample movedWhileWatched).hub.cells s = [1]) ∧
      (Sys.init.run Env.sample (movedWhileWatched.take 5)).geo.pos (uuidOut driverD) = none ∧
      (Sys.init.run Env.sample movedWhileWatched).geo.pos (uuidOut driverD) = some ⟨0, 0⟩ ∧
      (Sys.init.run Env.sample movedWhileWatched).hub.sent = [] := by
  refine ⟨by decide, ⟨⟨1, 1, 1⟩, by decide, by decide⟩, by decide, by decide,
    (tracking_never_sent Env.sample movedWhileWatched).2.1⟩

end RideService.System
