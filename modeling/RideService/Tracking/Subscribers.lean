import RideService.Tracking.Hub

/-!
# The spec's tracking hub

The hub of the spec keeps, per trip, a set of subscribers: `Subscribe` adds a new
connection, `Unsubscribe` removes one, and "if the trip's subscriber set becomes empty,
the set entry itself is discarded". `Subscribers` is that hub, as lists in the order the
connections were made, together with the read loops of their handlers (`live`), which is
what decides when a connection unsubscribes.

`Subscribers.Inv` pins down every state a run reaches: a trip's entry is exactly the
connections reading for it, in order (`Subscribers.readers`), and there is no entry when
there are none. `RideService.Tracking.Refinement` carries this over to the Go hub.
-/

namespace RideService.Tracking

open RideService

/-- The hub of the spec: each trip's subscribers, the trip each connection's handler is
reading for, and the next connection. -/
structure Subscribers where
  subs : TripId → Option (List ConnId)
  live : ConnId → Option TripId
  nextConn : ConnId

/-- No subscribers; connections are numbered from `1`. -/
def Subscribers.init : Subscribers := ⟨fun _ => none, fun _ => none, 1⟩

/-- `Subscribe(t)`: a new connection, added to `t`'s subscribers. -/
def Subscribers.subscribe (S : Subscribers) (t : TripId) : Subscribers where
  subs := Function.update S.subs t (some ((S.subs t).getD [] ++ [S.nextConn]))
  live := Function.update S.live S.nextConn (some t)
  nextConn := S.nextConn + 1

/-- `Unsubscribe(t, c)` by `c`'s own handler: `c` leaves `t`'s subscribers, and an empty
set is discarded. -/
def Subscribers.unsubscribe (S : Subscribers) (c : ConnId) : Subscribers :=
  match S.live c with
  | some t =>
    let l := ((S.subs t).getD []).erase c
    { S with
      subs := Function.update S.subs t (if l = [] then none else some l)
      live := Function.update S.live c none }
  | none => S

/-- The spec's step for a step of the Go hub: a broadcast changes no set. -/
def Subscribers.step (S : Subscribers) : HubAct → Subscribers
  | .handleWS t => S.subscribe t
  | .readEnds c => S.unsubscribe c
  | .broadcastLocation .. | .deliver _ => S

/-- The spec's hub after a run of steps. -/
def Subscribers.run (S : Subscribers) (acts : List HubAct) : Subscribers :=
  acts.foldl Subscribers.step S

@[simp] theorem Subscribers.run_nil (S : Subscribers) : S.run [] = S := rfl

@[simp] theorem Subscribers.run_cons (S : Subscribers) (a : HubAct) (acts : List HubAct) :
    S.run (a :: acts) = (S.step a).run acts := rfl

/-! ## Who reads for a trip -/

/-- The connections reading for `t`, in the order they were made. -/
def Subscribers.readers (S : Subscribers) (t : TripId) : List ConnId :=
  (List.range S.nextConn).filter fun c => S.live c = some t

section
variable {S : Subscribers} {t t' : TripId} {c : ConnId}

@[simp] theorem Subscribers.mem_readers : c ∈ S.readers t ↔ c < S.nextConn ∧ S.live c = some t := by
  simp [Subscribers.readers]

theorem Subscribers.readers_nodup : (S.readers t).Nodup := (List.nodup_range _).filter _

theorem Subscribers.readers_subscribe :
    (S.subscribe t).readers t' = S.readers t' ++ if t' = t then [S.nextConn] else [] := by
  simp only [Subscribers.readers, Subscribers.subscribe, List.range_succ, List.filter_append]
  congr 1
  · exact List.filter_congr fun x hx => by
      simp only [Function.update_noteq (List.mem_range.mp hx).ne]
  · by_cases e : t' = t
    · simp [e]
    · simp [e, Ne.symm e]

theorem Subscribers.unsubscribe_live : (S.unsubscribe c).live = Function.update S.live c none := by
  unfold Subscribers.unsubscribe
  cases hc : S.live c
  · exact (Function.update_eq_self_iff.mpr hc.symm : Function.update S.live c none = S.live).symm
  · rfl

theorem Subscribers.unsubscribe_nextConn : (S.unsubscribe c).nextConn = S.nextConn := by
  unfold Subscribers.unsubscribe; split <;> rfl

theorem Subscribers.readers_unsubscribe : (S.unsubscribe c).readers t = (S.readers t).erase c := by
  rw [Subscribers.readers_nodup.erase_eq_filter, Subscribers.readers, Subscribers.readers,
    Subscribers.unsubscribe_live, Subscribers.unsubscribe_nextConn, List.filter_filter]
  refine List.filter_congr fun x _ => ?_
  by_cases e : x = c
  · subst e; simp
  · simp [Function.update_noteq e, e]

end

/-! ## The invariant -/

/-- Every entry is the list of the connections reading for its trip, and there is no
entry for a trip with none; connections not yet made are not reading. -/
structure Subscribers.Inv (S : Subscribers) : Prop where
  fresh : ∀ c, S.nextConn ≤ c → S.live c = none
  subs : ∀ t, S.subs t = if S.readers t = [] then none else some (S.readers t)

section
variable {S : Subscribers}

theorem Subscribers.Inv.getD_subs (hi : S.Inv) (t : TripId) : (S.subs t).getD [] = S.readers t := by
  rw [hi.subs t]; split <;> simp_all

theorem Subscribers.Inv.init : Subscribers.init.Inv :=
  ⟨fun _ _ => rfl, fun _ => by simp [Subscribers.init, Subscribers.readers]⟩

theorem Subscribers.Inv.subscribe (hi : S.Inv) (t : TripId) : (S.subscribe t).Inv := by
  refine ⟨fun c (hc : S.nextConn + 1 ≤ c) => ?_, fun t' => ?_⟩
  · show Function.update S.live S.nextConn (some t) c = none
    rw [Function.update_noteq (Nat.lt_of_succ_le hc).ne']
    exact hi.fresh c (Nat.le_of_succ_le hc)
  · rw [Subscribers.readers_subscribe]
    by_cases e : t' = t
    · subst e; simp [Subscribers.subscribe, hi.getD_subs]
    · simp [Subscribers.subscribe, e, hi.subs t']

theorem Subscribers.Inv.unsubscribe (hi : S.Inv) (c : ConnId) : (S.unsubscribe c).Inv := by
  refine ⟨fun x hx => ?_, fun t' => ?_⟩
  · rw [Subscribers.unsubscribe_nextConn] at hx
    rw [Subscribers.unsubscribe_live]
    by_cases e : x = c
    · subst e; simp
    · rw [Function.update_noteq e]; exact hi.fresh x hx
  · rw [Subscribers.readers_unsubscribe]
    unfold Subscribers.unsubscribe
    cases hc : S.live c with
    | none => rw [List.erase_of_not_mem (by simp [hc]), hi.subs t']
    | some t =>
      dsimp only
      by_cases e : t' = t
      · subst e; simp [hi.getD_subs]
      · rw [Function.update_noteq e, List.erase_of_not_mem (by simp [hc, Ne.symm e]), hi.subs t']

theorem Subscribers.Inv.step (hi : S.Inv) : ∀ a, (S.step a).Inv
  | .handleWS t => hi.subscribe t
  | .readEnds c => hi.unsubscribe c
  | .broadcastLocation .. | .deliver _ => hi

theorem Subscribers.Inv.run (hi : S.Inv) (acts : List HubAct) : (S.run acts).Inv := by
  induction acts generalizing S with
  | nil => exact hi
  | cons a acts ih => exact ih (hi.step a)

end

end RideService.Tracking
