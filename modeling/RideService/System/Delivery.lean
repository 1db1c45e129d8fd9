import RideService.Trips.Events
import RideService.System.Moves

/-!
# What becomes of a ride request

`Request` starts publishing `ride.requested` in a goroutine and answers `201` without
waiting for it (`service.go:51`); a failed `Publish` is only logged, and nothing retries
it. So each trip gets exactly one publish of its `ride.requested` event
(`Ledger.Emits.ride`), and when that publish fails, no `ride.requested` message for the
trip is ever published, whatever the rest of the run does (`Sys.Reachable.ride_lost`):
the request is lost to the failure, even while its trip stays `REQUESTED`
(`requestLost`).

The topics hold exactly the events of the publishes that went through, each once:
`Sys.Reachable.topics` states it as a permutation, since the goroutines publish in any
order. A message that did reach the topic is handed to the matching handler at most once,
since its loop commits before the handler runs (`Sys.Reachable.committed`); so a message on
which the handler returned an error is lost as well
(`RideService.System.handler_error_loses_request`).
-/

namespace RideService.System

open RideService RideService.Trips RideService.Geo RideService.Tracking RideService.Http

/-- The messages in the `ride.requested` and `trip.completed` topics. -/
def Sys.sent (S : Sys) : List Outgoing :=
  S.rideRequested.map .rideRequested ++ S.tripCompleted.map .tripCompleted

/-- The event of a publish goroutine whose `Publish` went through. -/
def Publisher.sentEvent? (p : Publisher) : Option Outgoing :=
  if p.result = some true then some p.event else none

/-- The events of the publish goroutines whose `Publish` went through. -/
def Sys.published (S : Sys) : List Outgoing := S.publishers.filterMap Publisher.sentEvent?

/-- Overwriting an element that `f` drops adds what `f` makes of the new one, up to
order. -/
theorem filterMap_set_perm {α β : Type} {f : α → Option β} {l : List α} {i : Nat} {x y : α}
    (hp : l[i]? = some x) (hx : f x = none) :
    List.Perm ((l.set i y).filterMap f) (l.filterMap f ++ (f y).toList) := by
  induction l generalizing i with
  | nil => cases hp
  | cons a l ih =>
    cases i with
    | zero =>
      rw [List.getElem?_cons_zero, Option.some.injEq] at hp; subst hp
      rw [List.set_cons_zero, List.filterMap_cons, List.filterMap_cons, hx]
      cases f y with
      | none => simp
      | some b => exact @List.perm_append_comm _ [b] _
    | succ i =>
      rw [List.getElem?_cons_succ] at hp
      rw [List.set_cons_succ, List.filterMap_cons, List.filterMap_cons]
      cases f a
      · exact ih hp
      · exact (ih hp).cons _

section
variable {E : Env} {S S' : Sys} {a : SysAct}

/-- **One step keeps the topics equal, up to order, to the publishes that went through.** -/
theorem Sys.Moves.topics (h : Sys.Moves E S a S') (ht : List.Perm S.sent S.published) :
    List.Perm S'.sent S'.published := by
  cases h with
  | ledger b | assign =>
    have hn : ∀ l : List Outgoing,
        (l.map fun o => (⟨o, none⟩ : Publisher)).filterMap Publisher.sentEvent? = [] :=
      fun l => List.filterMap_eq_nil_iff.2 (by simp [Publisher.sentEvent?])
    simpa only [Sys.sent, Sys.published, Sys.ledgerStep, List.filterMap_append, hn,
      List.append_nil] using ht
  | publishFail i ev hp =>
    have h := filterMap_set_perm (f := Publisher.sentEvent?) (y := ⟨ev, some false⟩) hp rfl
    exact ht.trans (by simpa [Publisher.sentEvent?] using h.symm)
  | publishRide i e hp =>
    have h := filterMap_set_perm (f := Publisher.sentEvent?) (y := ⟨.rideRequested e, some true⟩) hp rfl
    have hs : List.Perm ((S.rideRequested ++ [e]).map Outgoing.rideRequested ++
        S.tripCompleted.map Outgoing.tripCompleted) (S.sent ++ [.rideRequested e]) := by
      simp only [Sys.sent, List.map_append, List.map_cons, List.map_nil, List.append_assoc]
      exact List.Perm.append_left _ (@List.perm_append_comm _ [_] _)
    exact hs.trans ((ht.append_right _).trans (by simpa [Publisher.sentEvent?] using h.symm))
  | publishCompleted i e hp =>
    have h := filterMap_set_perm (f := Publisher.sentEvent?) (y := ⟨.tripCompleted e, some true⟩) hp rfl
    have hs : List.Perm (S.rideRequested.map Outgoing.rideRequested ++
        (S.tripCompleted ++ [e]).map Outgoing.tripCompleted) (S.sent ++ [.tripCompleted e]) :=
      .of_eq (by simp [Sys.sent])
    exact hs.trans ((ht.append_right _).trans (by simpa [Publisher.sentEvent?] using h.symm))
  | _ => exact ht

end

/-! ## Over every run -/

section
variable {E : Env} {S : Sys}

/-- **The topics are the publishes that went through**, up to order. -/
theorem Sys.Reachable.topics (hS : S.Reachable E) : List.Perm S.sent S.published :=
  Sys.Reachable.induction E (P := fun S : Sys => List.Perm S.sent S.published) (.refl _)
    (fun S a _ h => (S.step_moves E a).topics h) S hS

/-- The ledger and the events started satisfy `Ledger.Emits`. -/
theorem Sys.Reachable.emits (hS : S.Reachable E) : S.ledger.Emits S.started :=
  (Sys.Reachable.ledger_induction E (P := Ledger.Emits) Ledger.Emits.init
    (fun _ _ b hL he => he.next E.haversineKm (hL.inv E.haversineKm) b) S hS).2

/-- Elements that pass `p` either pass `q` or not. -/
theorem countP_and_add_and_not {α : Type} (p q : α → Bool) (l : List α) :
    l.countP (fun a => p a && q a) + l.countP (fun a => p a && !q a) = l.countP p := by
  induction l with
  | nil => rfl
  | cons a l ih =>
    simp only [List.countP_cons]
    cases p a <;> cases q a <;> simp <;> omega

/-- **A failed `ride.requested` publish is never made up for.** When the one publish of a
trip's `ride.requested` event failed, the topic holds no message for the trip. -/
theorem Sys.Reachable.ride_unsent (hS : S.Reachable E) {t : Uuid} {j : Nat}
    {e : RideRequestedEvent} (ht : (S.ledger.trips t).isSome)
    (hj : S.publishers[j]? = some ⟨.rideRequested e, some false⟩) (he : e.tripId = uuidOut t) :
    ∀ e' ∈ S.rideRequested, e'.tripId ≠ uuidOut t := by
  have hone : S.publishers.countP (fun p => p.event.isRideFor t) = 1 := by
    have := hS.emits.ride t
    rw [ht, Sys.started, List.countP_map] at this
    exact this
  have hfailed : 0 < S.publishers.countP
      (fun p => p.event.isRideFor t && !(p.result == some true)) :=
    List.countP_pos_iff.2 ⟨_, List.getElem?_mem hj, by simp [Outgoing.isRideFor, he]⟩
  have hsplit := countP_and_add_and_not (fun p : Publisher => p.event.isRideFor t)
    (fun p => p.result == some true) S.publishers
  have hsent : S.sent.countP (Outgoing.isRideFor t) = 0 := by
    rw [hS.topics.countP_eq, Sys.published, List.countP_filterMap]
    have : (fun p : Publisher => ((p.sentEvent?).map (Outgoing.isRideFor t)).getD false) =
        fun p => p.event.isRideFor t && p.result == some true := by
      funext p; unfold Publisher.sentEvent?; split <;> simp_all
    rw [this]
    omega
  intro e' he' ht'
  have : 0 < S.sent.countP (Outgoing.isRideFor t) :=
    List.countP_pos_iff.2 ⟨_, List.mem_append_left _ (List.mem_map_of_mem _ he'),
      by simp [Outgoing.isRideFor, ht']⟩
  omega

/-- The same, for the rest of every run. -/
theorem Sys.Reachable.ride_lost (hS : S.Reachable E) {t : Uuid} {j : Nat}
    {e : RideRequestedEvent} (ht : (S.ledger.trips t).isSome)
    (hj : S.publishers[j]? = some ⟨.rideRequested e, some false⟩) (he : e.tripId = uuidOut t)
    (acts : List SysAct) : ∀ e' ∈ (S.run E acts).rideRequested, e'.tripId ≠ uuidOut t :=
  (hS.run acts).ride_unsent (hS.trips_isSome_run ht acts) (Sys.run_publisher_stable hj rfl acts) he

end

/-! ## What the consumer loops commit -/

/-- What the two loops have committed: each message of `ride.requested` at most once, and
never the one the matching handler holds; each message of `driver.assigned` at most once, and
only messages the topic has. -/
structure Sys.Committed (S : Sys) : Prop where
  handed : S.handed.Nodup
  holding : ∀ i ev d, (S.matcher = .found i ev d ∨ S.matcher = .published i ev d) → i ∉ S.handed
  taken : (S.assignTaken.map Prod.fst).Nodup
  takenLt : ∀ p ∈ S.assignTaken, p.1 < S.driverAssigned.length

section
variable {E : Env} {S S' : Sys} {a : SysAct}

/-- A loop that commits a message it had not committed keeps its commits distinct. -/
theorem nodup_map_fst_append {β : Type} {l : List (Nat × β)} {i : Nat} {b : β}
    (h : (l.map Prod.fst).Nodup) (hi : i ∉ l.map Prod.fst) : ((l ++ [(i, b)]).map Prod.fst).Nodup := by
  rw [List.map_append, List.nodup_append]
  exact ⟨h, List.nodup_singleton i, fun x hx hx' => by
    rw [List.map_singleton, List.mem_singleton] at hx'; subst hx'; exact hi hx⟩

/-- **One step keeps what the loops committed.** -/
theorem Sys.Committed.moves (h : S.Committed) (hm : Sys.Moves E S a S') : S'.Committed := by
  cases hm with
  | found i ev d ds _ _ hi =>
    refine ⟨h.handed, fun i' ev' d' hm' => ?_, h.taken, h.takenLt⟩
    simp only [Matcher.found.injEq, reduceCtorEq, or_false] at hm'
    exact hm'.1 ▸ hi
  | returned i ev o hm _ hi =>
    exact ⟨nodup_map_fst_append h.handed hi, fun i' ev' d' hm' => by simp_all, h.taken, h.takenLt⟩
  | assignPublished i ev d hm =>
    refine ⟨h.handed, fun i' ev' d' hm' => ?_, h.taken,
      fun p hp => Nat.lt_of_lt_of_le (h.takenLt p hp) (by simp)⟩
    simp only [Matcher.published.injEq, reduceCtorEq, false_or] at hm'
    exact hm'.1 ▸ h.holding i ev d (.inl hm)
  | assignFailed i ev d hm =>
    exact ⟨nodup_map_fst_append h.handed (h.holding i ev d (.inl hm)),
      fun _ _ _ hm' => by simp at hm', h.taken, h.takenLt⟩
  | removed i ev d ok _ hm =>
    exact ⟨nodup_map_fst_append h.handed (h.holding i ev d (.inr hm)),
      fun _ _ _ hm' => by simp at hm', h.taken, h.takenLt⟩
  | consumed i ev ok he hi =>
    refine ⟨h.handed, h.holding, nodup_map_fst_append h.taken hi, fun p hp => ?_⟩
    rcases List.mem_append.1 hp with hp | hp
    · exact h.takenLt p hp
    · rw [List.mem_singleton.1 hp]; exact (List.getElem?_eq_some_iff.1 he).1
  | _ => exact ⟨h.handed, h.holding, h.taken, h.takenLt⟩

/-- The index the next `driver.assigned` message gets is not committed. -/
theorem Sys.Committed.fresh (h : S.Committed) :
    S.driverAssigned.length ∉ S.assignTaken.map Prod.fst := fun hm => by
  obtain ⟨p, hp, he⟩ := List.mem_map.1 hm
  exact absurd (h.takenLt p hp) (by omega)

theorem Sys.Reachable.committed (hS : S.Reachable E) : S.Committed :=
  Sys.Reachable.induction E (P := Sys.Committed)
    ⟨.nil, fun _ _ _ h => by simp [Sys.init] at h, .nil, fun _ h => (nomatch h)⟩
    (fun S a _ h => h.moves (S.step_moves E a)) S hS

/-- **What a step appends to.** The two topics a handler reads and the two loops' records only
grow. -/
theorem Sys.Moves.grows (hm : Sys.Moves E S a S') :
    S.rideRequested <+: S'.rideRequested ∧ S.driverAssigned <+: S'.driverAssigned ∧
      S.matched <+: S'.matched := by
  cases hm with
  | publishRide | assignPublished | returned | assignFailed | removed =>
    refine ⟨?_, ?_, ?_⟩ <;> first | exact List.prefix_refl _ | exact List.prefix_append _ _
  | _ => exact ⟨List.prefix_refl _, List.prefix_refl _, List.prefix_refl _⟩

theorem Sys.run_grows (S : Sys) (acts : List SysAct) :
    S.rideRequested <+: (S.run E acts).rideRequested ∧
      S.driverAssigned <+: (S.run E acts).driverAssigned ∧ S.matched <+: (S.run E acts).matched := by
  induction acts generalizing S with
  | nil => exact ⟨List.prefix_refl _, List.prefix_refl _, List.prefix_refl _⟩
  | cons a acts ih =>
    obtain ⟨h₁, h₂, h₃⟩ := (S.step_moves E a).grows
    obtain ⟨h₁', h₂', h₃'⟩ := ih (S.step E a)
    exact ⟨h₁.trans h₁', h₂.trans h₂', h₃.trans h₃'⟩

end

/-- **What becomes of a ride request.** Every trip has one publish of its `ride.requested`
event. Until it runs, the trip's message may still be published: the publish going through
puts it in the topic. Once it went through, the message is in the topic, where the matching
group may be handed it; and once it failed, no message for the trip is ever published, in the
rest of any run. -/
theorem ride_request_accounted (E : Env) {S : Sys} (hS : S.Reachable E) {t : Uuid}
    (ht : (S.ledger.trips t).isSome) :
    ∃ (j : Nat) (e : RideRequestedEvent) (res : Option Bool), e.tripId = uuidOut t ∧
      S.publishers[j]? = some { event := .rideRequested e, result := res } ∧
      (res = none → e ∈ (S.step E (.publish j true)).rideRequested) ∧
      (res = some true → e ∈ S.rideRequested) ∧
      (res = some false → ∀ acts, ∀ e' ∈ (S.run E acts).rideRequested, e'.tripId ≠ uuidOut t) := by
  have hpos : 0 < S.started.countP (Outgoing.isRideFor t) := by
    rw [hS.emits.ride t, ht]; decide
  obtain ⟨o, ho, hr⟩ := List.countP_pos_iff.1 hpos
  obtain ⟨⟨ev, res⟩, hp, rfl⟩ := List.mem_map.1 ho
  obtain ⟨j, hj⟩ := List.getElem?_of_mem hp
  cases ev with
  | tripCompleted _ => cases hr
  | rideRequested e =>
    have he : e.tripId = uuidOut t := by simpa [Outgoing.isRideFor] using hr
    refine ⟨j, e, res, he, hj, fun hres => ?_, fun hres => ?_, fun hres => ?_⟩
    · subst hres
      simp [Sys.step, Sys.publish, hj]
    · subst hres
      have : Outgoing.rideRequested e ∈ S.sent :=
        hS.topics.mem_iff.2 (List.mem_filterMap.2 ⟨_, List.getElem?_mem hj, rfl⟩)
      simpa [Sys.sent] using this
    · subst hres
      exact hS.ride_lost ht hj he

/-- The rider and the driver register; the rider requests trip `tripT`, and the publish of
its `ride.requested` event fails. -/
def lostRequest : List SysAct :=
  signups ++ [.http ⟨"Bearer rider-token", .tripRequest tripT ⟨0, 0, 1, 1⟩ 0 0⟩, .publish 0 false]

theorem lostRequest_accounted :
    ∃ (j : Nat) (e : RideRequestedEvent) (res : Option Bool), e.tripId = uuidOut tripT ∧
      (Sys.init.run Env.sample lostRequest).publishers[j]? =
        some { event := .rideRequested e, result := res } ∧
      (res = none → e ∈ ((Sys.init.run Env.sample lostRequest).step Env.sample
        (.publish j true)).rideRequested) ∧
      (res = some true → e ∈ (Sys.init.run Env.sample lostRequest).rideRequested) ∧
      (res = some false → ∀ acts, ∀ e' ∈ ((Sys.init.run Env.sample lostRequest).run Env.sample
        acts).rideRequested, e'.tripId ≠ uuidOut tripT) :=
  ride_request_accounted Env.sample ⟨lostRequest, rfl⟩ (by decide)

/-- In `lostRequest` the trip stays `REQUESTED`, its one publish has failed, the matching
handler was never handed its message, and no run from there publishes one. -/
theorem requestLost :
    ((Sys.init.run Env.sample lostRequest).ledger.trips tripT).map (·.status) =
        some .requested ∧
      (Sys.init.run Env.sample lostRequest).publishers.map (·.result) = [some false] ∧
      (Sys.init.run Env.sample lostRequest).matched = [] ∧
      ∀ acts, ∀ e ∈ ((Sys.init.run Env.sample lostRequest).run Env.sample acts).rideRequested,
        e.tripId ≠ uuidOut tripT :=
  ⟨by decide, by decide, by decide,
    Sys.Reachable.ride_lost ⟨lostRequest, rfl⟩ (by decide) (j := 0)
      (e := rideRequestedEvent tripT (uuidOut riderR) ⟨0, 0, 1, 1⟩ 0) (by decide) rfl⟩

end RideService.System
