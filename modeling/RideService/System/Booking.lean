import RideService.System.Assignment

/-!
# When a driver can be booked twice

The matching handler reads presence in the geo set as availability: it only picks drivers
from the set, and removes the driver it picked "so they aren't double-assigned"
(`matching/matcher.go:52`). Nothing else in the code keeps to it.
`UpdateLocation` adds any driver to the set, also one on a trip; a manual `AssignDriver`
takes any driver, also one in the set or on another trip; and the matching handler drops
the error of its `ZREM`. `driverBookedTwice` is a run where a driver on a trip pushes a
location, is matched to a second trip, and drives both.

A driver is the `uuid` its id spells: the trips' `driver_id` column holds `uuid`s, while the
geo set and the `driver.assigned` messages hold the text a request sent, and PostgreSQL reads
many texts as one `uuid` (`uuidIn`). Two spellings of one driver are two members of the geo
set and one driver of the table.

What the matching handler does keep (`good_runs_book_once`) holds in the runs that respect
the discipline the code leaves to its callers (`Sys.GoodRun`): a manual `AssignDriver`
names a driver with no claim on any trip and outside the geo set; `UpdateLocation` comes
from a driver with no claim, and never while the set holds that driver under another
spelling; and every `ZREM` goes through. In those runs a driver holds at most one trip, the
handler never holds a driver on a trip, and a driver in the geo set is on a trip only while
the handler, between its publish and its `ZREM`, holds it.

A driver's claims on a trip (`Sys.Claim`): it drives the trip (`Sys.Active`); a
`driver.assigned` message the consumer has not been handed would give it the trip
(`Sys.Pending`); or the handler found it for the trip and has not published yet
(`Sys.Found`). `Sys.Booking` is the invariant; `Sys.Booking.moves` proves one step of it by
cases on `Sys.Moves`.
-/

namespace RideService.System

open RideService RideService.Trips RideService.Geo RideService.Tracking RideService.Http

section
variable (S : Sys)

/-- `AssignDriver`'s UPDATE would still change `t`'s row: it is `REQUESTED` or `MATCHING`. -/
def Sys.Assignable (t : Uuid) : Prop :=
  ∃ r, S.ledger.trips t = some r ∧ assignGuard r.status = true

/-- `d` drives `t`: the row names `d` and is `DRIVER_ASSIGNED` or `STARTED`. -/
def Sys.Active (d t : Uuid) : Prop :=
  ∃ r, S.ledger.trips t = some r ∧ r.driverId = some d ∧
    (r.status = .driverAssigned ∨ r.status = .started)

/-- A `driver.assigned` message that the consumer's loop has not been handed would give `t` to
`d`. -/
def Sys.Pending (d t : Uuid) : Prop :=
  ∃ k ev, S.driverAssigned[k]? = some ev ∧ k ∉ S.assignTaken.map Prod.fst ∧
    uuidIn ev.tripId = some t ∧ uuidIn ev.driverId = some d ∧ S.Assignable t

/-- The matching handler found a member that spells `d`, for `t`, and has not published yet. -/
def Sys.Found (d t : Uuid) : Prop :=
  ∃ i ev m, S.matcher = .found i ev m ∧ uuidIn m = some d ∧ uuidIn ev.tripId = some t ∧
    S.Assignable t

/-- `d` has a claim on `t`. -/
def Sys.Claim (d t : Uuid) : Prop :=
  S.Active d t ∨ S.Pending d t ∨ S.Found d t

/-- The matching handler holds a member that spells `d`, for `t`, before or after its
publish. -/
def Sys.Holds (d t : Uuid) : Prop :=
  ∃ i ev m, (S.matcher = .found i ev m ∨ S.matcher = .published i ev m) ∧ uuidIn m = some d ∧
    uuidIn ev.tripId = some t

/-- A member of the geo set spells `d`. -/
def Sys.Pooled (d : Uuid) : Prop :=
  ∃ m, (S.geo.pos m).isSome ∧ uuidIn m = some d

/-- `d` has no claim on any trip. -/
def Sys.Free (d : Uuid) : Prop := ∀ t, ¬ S.Claim d t

end

/-- The discipline the code leaves to the callers, for one step. -/
def Sys.Good (S : Sys) : SysAct → Prop
  | .http r =>
    match r.route with
    | .tripAssign _ ds => ∀ d, uuidIn ds = some d → S.Free d ∧ ¬ S.Pooled d
    | .driverLocation m _ _ => ∀ d, uuidIn m = some d →
      S.Free d ∧ ∀ m', m' ≠ m → (S.geo.pos m').isSome → uuidIn m' ≠ some d
    | _ => True
  | .matchRemove ok => ok = true
  | _ => True

/-- A run every step of which keeps the discipline. -/
def Sys.GoodRun (E : Env) : Sys → List SysAct → Prop
  | _, [] => True
  | S, a :: acts => S.Good a ∧ (S.step E a).GoodRun E acts

/-- The states a run that keeps the discipline reaches. -/
def Sys.GoodReachable (E : Env) (S : Sys) : Prop :=
  ∃ acts, Sys.init.GoodRun E acts ∧ Sys.init.run E acts = S

/-- What holds of every state a good run reaches. `spelled` is what lets one `ZREM` take a
driver out of the set. -/
structure Sys.Booking (S : Sys) : Prop where
  unique : ∀ d t₁ t₂, S.Claim d t₁ → S.Claim d t₂ → t₁ = t₂
  pooled : ∀ d t, S.Pooled d → S.Claim d t → S.Holds d t
  held : ∀ i ev m, (S.matcher = .found i ev m ∨ S.matcher = .published i ev m) →
    (S.geo.pos m).isSome
  foundFree : ∀ i ev m d, S.matcher = .found i ev m → uuidIn m = some d →
    ∀ t, ¬ S.Active d t ∧ ¬ S.Pending d t
  spelled : ∀ m m' d, (S.geo.pos m).isSome → (S.geo.pos m').isSome → uuidIn m = some d →
    uuidIn m' = some d → m = m'

/-- An index of a list with one more element is an index of the list, or the new one. -/
theorem getElem?_concat_eq_some {α : Type} {l : List α} {a e : α} {k : Nat}
    (h : (l ++ [a])[k]? = some e) : l[k]? = some e ∨ k = l.length ∧ e = a := by
  rcases Nat.lt_or_ge k l.length with hk | hk
  · exact .inl (by rwa [List.getElem?_append_left hk] at h)
  · rw [List.getElem?_append_right hk] at h
    obtain ⟨hk', he⟩ := List.getElem?_eq_some_iff.1 h
    simp only [List.length_singleton] at hk'
    exact .inr ⟨by omega, by simpa using he.symm⟩

/-- An assignment attempt from the texts `ts` and `ds` leaves the table alone, or runs
`AssignDriver`'s UPDATE with the `uuid`s they spell. -/
theorem Ledger.next_trips_of_assign (haversineKm : ℚ → ℚ → ℚ → ℚ → ℚ) {L : Ledger}
    {b : LedgerAct} {ts ds : String} {drivers : List Uuid}
    (hb : b = .assign ts ds drivers ∨ b = .consume ⟨ts, ds⟩ drivers) :
    (L.next haversineKm b).trips = L.trips ∨ ∃ t d, uuidIn ts = some t ∧ uuidIn ds = some d ∧
      (L.next haversineKm b).trips = (updateWhere L.trips t assignGuard (assigning d)).1 := by
  unfold Ledger.next
  have h := L.step_moves haversineKm b
  generalize L.step haversineKm b = p at h
  cases h with
  | assign _ _ _ t d hb' ht hd =>
    rcases hb with rfl | rfl <;> rcases hb' with h | h <;> cases h <;>
      exact .inr ⟨t, d, ht, hd, rfl⟩
  | stay | read | reject | fail => exact .inl rfl
  | insert _ _ _ _ _ _ _ hb' | start _ _ _ hb' | complete _ _ _ _ _ _ _ hb' =>
    rcases hb with rfl | rfl <;> cases hb'

section
variable {E : Env} {S S' : Sys}

/-- A step that changes neither the matching handler nor the geo set, and only takes claims
away, except that a pending message may become the trip its driver drives, keeps the
invariant. -/
theorem Sys.Booking.shrink (hb : S.Booking)
    (hA : ∀ d t, S'.Active d t → S.Active d t ∨ S.Pending d t)
    (hP : ∀ d t, S'.Pending d t → S.Pending d t) (hF : ∀ d t, S'.Found d t → S.Found d t)
    (hm : S'.matcher = S.matcher) (hg : S'.geo = S.geo) : S'.Booking := by
  have hC : ∀ d t, S'.Claim d t → S.Claim d t := by
    rintro d t (h | h | h)
    · exact (hA d t h).elim .inl (.inr ∘ .inl)
    · exact .inr (.inl (hP d t h))
    · exact .inr (.inr (hF d t h))
  have hpos : ∀ m, S'.geo.pos m = S.geo.pos m := fun m => by rw [hg]
  refine ⟨fun d t₁ t₂ h₁ h₂ => hb.unique d t₁ t₂ (hC d t₁ h₁) (hC d t₂ h₂),
    fun d t ⟨m, hd, hm'⟩ h => ?_, fun i ev m h => ?_, fun i ev m d h hd t => ?_,
    fun m m' d h h' => ?_⟩
  · obtain ⟨i, ev, m, hm', ht⟩ := hb.pooled d t ⟨m, hpos m ▸ hd, hm'⟩ (hC d t h)
    exact ⟨i, ev, m, hm ▸ hm', ht⟩
  · rw [hpos]; exact hb.held i ev m (hm ▸ h)
  · obtain ⟨hA', hP'⟩ := hb.foundFree i ev m d (hm ▸ h) hd t
    exact ⟨fun h' => (hA d t h').elim hA' hP', fun h' => hP' (hP d t h')⟩
  · rw [hpos] at h h'; exact hb.spelled m m' d h h'

/-- The old claims, and new claims on one trip of drivers that had none, are still one per
driver. -/
theorem Sys.Booking.unique_add (hb : S.Booking) {P : Uuid → Prop} {o : Option Uuid}
    (hfree : ∀ x, P x → S.Free x) (hC : ∀ x y, S'.Claim x y → S.Claim x y ∨ P x ∧ o = some y)
    (x y₁ y₂ : Uuid) (h₁ : S'.Claim x y₁) (h₂ : S'.Claim x y₂) : y₁ = y₂ := by
  rcases hC x y₁ h₁ with h₁ | ⟨hx₁, hy₁⟩ <;> rcases hC x y₂ h₂ with h₂ | ⟨hx₂, hy₂⟩
  · exact hb.unique x y₁ y₂ h₁ h₂
  · exact (hfree x hx₂ _ h₁).elim
  · exact (hfree x hx₁ _ h₂).elim
  · exact Option.some.inj (hy₁.symm.trans hy₂)

/-! ## One step -/

/-- After an assignment attempt from `ts` and `ds`, a driver drives a trip it drove before, or
the driver `ds` spells drives the trip `ts` spells, which was assignable. -/
theorem Sys.active_of_assign {b : LedgerAct} {ts ds : String} {drivers : List Uuid}
    (hT : S'.ledger.trips = (S.ledger.next E.haversineKm b).trips)
    (hb : b = .assign ts ds drivers ∨ b = .consume ⟨ts, ds⟩ drivers) {x y : Uuid}
    (h : S'.Active x y) : S.Active x y ∨ uuidIn ds = some x ∧ uuidIn ts = some y ∧ S.Assignable y := by
  obtain ⟨r', hr', hx, hs⟩ := h
  rw [hT] at hr'
  rcases Ledger.next_trips_of_assign E.haversineKm (L := S.ledger) hb with
    he | ⟨t, d, ht, hd, he⟩ <;> rw [he] at hr'
  · exact .inl ⟨r', hr', hx, hs⟩
  rcases updateWhere_cases S.ledger.trips t y assignGuard (assigning d) with
    h | ⟨rfl, r, hr, hg, h⟩ <;> rw [h] at hr'
  · exact .inl ⟨r', hr', hx, hs⟩
  · cases hr'
    exact .inr ⟨Option.some.inj hx ▸ hd, ht, r, hr, hg⟩

/-- An assignment attempt makes no row assignable. -/
theorem Sys.assignable_of_assign {b : LedgerAct} {ts ds : String} {drivers : List Uuid}
    (hT : S'.ledger.trips = (S.ledger.next E.haversineKm b).trips)
    (hb : b = .assign ts ds drivers ∨ b = .consume ⟨ts, ds⟩ drivers) {y : Uuid}
    (h : S'.Assignable y) : S.Assignable y := by
  obtain ⟨r', hr', hg'⟩ := h
  rw [hT] at hr'
  rcases Ledger.next_trips_of_assign E.haversineKm (L := S.ledger) hb with
    he | ⟨t, d, -, -, he⟩ <;> rw [he] at hr'
  · exact ⟨r', hr', hg'⟩
  rcases updateWhere_cases S.ledger.trips t y assignGuard (assigning d) with
    h | ⟨rfl, r, hr, hg, h⟩ <;> rw [h] at hr'
  · exact ⟨r', hr', hg'⟩
  · cases hr'; cases hg'

/-- A step of the ledger that is not an assignment attempt. -/
theorem Sys.Booking.ledger (hb : S.Booking) (hn : S.Named) {b : LedgerAct}
    (hb' : b.assignsTrip = none) : (S.ledgerStep E b).Booking := by
  have rows := fun {t r'} (h' : (S.ledgerStep E b).ledger.trips t = some r') =>
    (S.ledger.step_moves E.haversineKm b).row_of_not_assign E.haversineKm hb' h'
  have hA : ∀ {d t}, (S.ledgerStep E b).Active d t → S.Active d t := by
    rintro d t ⟨r', hr', hx, hs⟩
    rcases rows hr' with h | ⟨-, hs'⟩ | ⟨r, hr, hs₀, -, hd⟩ | hs' <;>
      first | rw [hs'] at hs; simp at hs | skip
    · exact ⟨r', h, hx, hs⟩
    · exact ⟨r, hr, hd ▸ hx, .inl hs₀⟩
  have hAs : ∀ {t}, (S.ledger.trips t).isSome → (S.ledgerStep E b).Assignable t →
      S.Assignable t := by
    rintro t ht ⟨r', hr', hg⟩
    rcases rows hr' with h | ⟨h, -⟩ | ⟨r, -, -, hs, -⟩ | hs
    · exact ⟨r', h, hg⟩
    · rw [h] at ht; cases ht
    · rw [hs] at hg; cases hg
    · rw [hs] at hg; cases hg
  /- the trip a message names is a row of the table already -/
  have hrow : ∀ {s t}, (∃ t', s = uuidOut t' ∧ (S.ledger.trips t').isSome) →
      uuidIn s = some t → (S.ledger.trips t).isSome := by
    rintro s t ⟨t', rfl, h⟩ ht
    rw [uuidIn_uuidOut, Option.some.injEq] at ht
    exact ht ▸ h
  exact hb.shrink (fun _ _ h => .inl (hA h))
    (fun _ _ ⟨k, ev, hk, hn', ht, hd, ha⟩ =>
      ⟨k, ev, hk, hn', ht, hd, hAs (hrow (hn.assigned _ (List.getElem?_mem hk)) ht) ha⟩)
    (fun _ _ ⟨i, ev, m, hm, hd, ht, ha⟩ =>
      ⟨i, ev, m, hm, hd, ht, hAs (hrow (hn.matcher i ev m (.inl hm)) ht) ha⟩)
    rfl rfl

/-- The `driver.assigned` consumer is handed message `i`: it is no longer pending, and its
UPDATE makes it the trip its driver drives. -/
theorem Sys.Booking.consumed (hb : S.Booking) {i : Nat} {ev : DriverAssignedEvent}
    (he : S.driverAssigned[i]? = some ev) (hi : i ∉ S.assignTaken.map Prod.fst) (ok : Bool) :
    ({ S with
      ledger := if ok then S.ledger.next E.haversineKm (.consume ev S.drivers.ids) else S.ledger
      assignTaken := S.assignTaken ++ [(i, ok)] } : Sys).Booking := by
  have hnt : ∀ {k}, k ∉ (S.assignTaken ++ [(i, ok)]).map Prod.fst →
      k ∉ S.assignTaken.map Prod.fst := fun h h' => h (by simp [h'])
  cases ok
  · exact hb.shrink (fun _ _ h => .inl h) (fun _ _ ⟨k, e, hk, hn, hr⟩ => ⟨k, e, hk, hnt hn, hr⟩)
      (fun _ _ h => h) rfl rfl
  · have hb' : LedgerAct.consume ev S.drivers.ids = .assign ev.tripId ev.driverId S.drivers.ids ∨
        LedgerAct.consume ev S.drivers.ids = .consume ⟨ev.tripId, ev.driverId⟩ S.drivers.ids :=
      .inr rfl
    exact hb.shrink
      (fun _ _ h => (Sys.active_of_assign rfl hb' h).imp_right fun ⟨hd, ht, ha⟩ =>
        ⟨i, ev, he, hi, ht, hd, ha⟩)
      (fun _ _ ⟨k, e, hk, hn, ht, hd, ha⟩ =>
        ⟨k, e, hk, hnt hn, ht, hd, Sys.assignable_of_assign rfl hb' ha⟩)
      (fun _ _ ⟨i, e, m, hm, hd, ht, ha⟩ =>
        ⟨i, e, m, hm, hd, ht, Sys.assignable_of_assign rfl hb' ha⟩)
      rfl rfl

/-- A manual `AssignDriver` of a driver with no claim, outside the geo set. -/
theorem Sys.Booking.assign (hb : S.Booking) {ts ds : String}
    (hgood : ∀ d, uuidIn ds = some d → S.Free d ∧ ¬ S.Pooled d) :
    (S.ledgerStep E (.assign ts ds S.drivers.ids)).Booking := by
  have hb' : LedgerAct.assign ts ds S.drivers.ids = .assign ts ds S.drivers.ids ∨
      LedgerAct.assign ts ds S.drivers.ids = .consume ⟨ts, ds⟩ S.drivers.ids := .inl rfl
  have hAs := fun {y} (h : (S.ledgerStep E (.assign ts ds S.drivers.ids)).Assignable y) =>
    Sys.assignable_of_assign (E := E) rfl hb' h
  have hC : ∀ x y, (S.ledgerStep E (.assign ts ds S.drivers.ids)).Claim x y →
      S.Claim x y ∨ uuidIn ds = some x ∧ uuidIn ts = some y := by
    rintro x y (h | ⟨k, ev, hk, hn, ht, hd, ha⟩ | ⟨i, ev, m, hm, hd, ht, ha⟩)
    · exact (Sys.active_of_assign (E := E) rfl hb' h).imp .inl fun ⟨hx, hy, _⟩ => ⟨hx, hy⟩
    · exact .inl (.inr (.inl ⟨k, ev, hk, hn, ht, hd, hAs ha⟩))
    · exact .inl (.inr (.inr ⟨i, ev, m, hm, hd, ht, hAs ha⟩))
  refine ⟨hb.unique_add (fun x hx => (hgood x hx).1) hC, fun x y hx h => ?_, hb.held,
    fun i ev m x hm hx y => ?_, hb.spelled⟩
  · rcases hC x y h with h | ⟨hx', -⟩
    · exact hb.pooled x y hx h
    · exact ((hgood x hx').2 hx).elim
  · obtain ⟨hA, hP⟩ := hb.foundFree i ev m x hm hx y
    refine ⟨fun h => ?_, fun ⟨k, ev', hk, hn, ht, hd, ha⟩ => hP ⟨k, ev', hk, hn, ht, hd, hAs ha⟩⟩
    rcases Sys.active_of_assign (E := E) rfl hb' h with h | ⟨hx', -⟩
    · exact hA h
    · exact (hgood x hx').2 ⟨m, hb.held i ev m (.inl hm), hx⟩

/-- The `GEOADD` of an `UpdateLocation` from a driver with no claim, and no other spelling in
the set. -/
theorem Sys.Booking.locate (hb : S.Booking) {m : DriverId}
    (hgood : ∀ d, uuidIn m = some d →
      S.Free d ∧ ∀ m', m' ≠ m → (S.geo.pos m').isSome → uuidIn m' ≠ some d) (lat lng : ℚ) :
    ({ S with geo := setDriverLocation S.geo m lat lng } : Sys).Booking := by
  have hpos : ∀ x, (setDriverLocation S.geo m lat lng).pos x =
      if x = m then some ⟨lat, lng⟩ else S.geo.pos x := fun x => by simp [setDriverLocation]
  have hold : ∀ x, x ≠ m → ((setDriverLocation S.geo m lat lng).pos x).isSome →
      (S.geo.pos x).isSome := fun x hx h => by rwa [hpos, if_neg hx] at h
  refine ⟨hb.unique, fun d t ⟨x, hx, hd⟩ h => ?_, fun i ev x hm => ?_, hb.foundFree,
    fun x x' d h h' hd hd' => ?_⟩
  · by_cases e : x = m
    · subst e; exact ((hgood d hd).1 t h).elim
    · exact hb.pooled d t ⟨x, hold x e hx, hd⟩ h
  · show ((setDriverLocation S.geo m lat lng).pos x).isSome
    rw [hpos]; split
    · rfl
    · exact hb.held i ev x hm
  · by_cases e : x = m <;> by_cases e' : x' = m
    · rw [e, e']
    · subst e; exact ((hgood d hd).2 x' e' (hold x' e' h') hd').elim
    · subst e'; exact ((hgood d hd').2 x e (hold x e h) hd).elim
    · exact hb.spelled x x' d (hold x e h) (hold x' e' h') hd hd'

/-- The matching handler finds `m` in the geo set. -/
theorem Sys.Booking.found (hb : S.Booking) (hm : S.matcher = .idle) {m : DriverId}
    (hpos : (S.geo.pos m).isSome) (i : Nat) (ev : RideRequestedEvent) :
    ({ S with matcher := .found i ev m } : Sys).Booking := by
  /- a driver of the set had no claim, for the handler held nothing -/
  have hidle : ∀ d t, S.Pooled d → ¬ S.Claim d t := fun d t hd h => by
    obtain ⟨_, _, _, hm', -⟩ := hb.pooled d t hd h
    rw [hm] at hm'; simp at hm'
  have hfree : ∀ d, uuidIn m = some d → S.Free d := fun d hd t => hidle d t ⟨m, hpos, hd⟩
  have hC : ∀ x y, ({ S with matcher := .found i ev m } : Sys).Claim x y →
      S.Claim x y ∨ uuidIn m = some x ∧ uuidIn ev.tripId = some y := by
    rintro x y (h | h | ⟨i', ev', m', hm', hx, ht, -⟩)
    · exact .inl (.inl h)
    · exact .inl (.inr (.inl h))
    · cases hm'; exact .inr ⟨hx, ht⟩
  refine ⟨hb.unique_add hfree hC, fun x y hx h => ?_, fun i' ev' m' hm' => ?_,
    fun i' ev' m' x hm' hx y => ?_, hb.spelled⟩
  · rcases hC x y h with h | ⟨hx', hy⟩
    · exact (hidle x y hx h).elim
    · exact ⟨i, ev, m, .inl rfl, hx', hy⟩
  · rcases hm' with hm' | hm' <;> cases hm'
    exact hpos
  · cases hm'
    exact ⟨fun h => hfree x hx y (.inl h), fun h => hfree x hx y (.inr (.inl h))⟩

/-- The matching handler publishes `driver.assigned` for the member it found. -/
theorem Sys.Booking.assignPublished (hb : S.Booking) {i : Nat} {ev : RideRequestedEvent}
    {m : DriverId} (hm : S.matcher = .found i ev m) :
    ({ S with
      driverAssigned := S.driverAssigned ++ [⟨ev.tripId, m⟩]
      matcher := .published i ev m } : Sys).Booking := by
  have hC : ∀ x y, ({ S with
      driverAssigned := S.driverAssigned ++ [⟨ev.tripId, m⟩]
      matcher := .published i ev m } : Sys).Claim x y → S.Claim x y := by
    rintro x y (h | ⟨k, e, hk, hn, ht, hd, ha⟩ | ⟨_, _, _, hm', -⟩)
    · exact .inl h
    · rcases getElem?_concat_eq_some hk with hk | ⟨-, rfl⟩
      · exact .inr (.inl ⟨k, e, hk, hn, ht, hd, ha⟩)
      · exact .inr (.inr ⟨i, ev, m, hm, hd, ht, ha⟩)
    · cases hm'
  refine ⟨fun x y₁ y₂ h₁ h₂ => hb.unique x y₁ y₂ (hC x y₁ h₁) (hC x y₂ h₂),
    fun x y hx h => ?_, fun i' ev' m' hm' => ?_, fun _ _ _ _ hm' => (by cases hm'), hb.spelled⟩
  · obtain ⟨i', ev', m', hm', hx', ht⟩ := hb.pooled x y hx (hC x y h)
    rw [hm] at hm'
    rcases hm' with hm' | hm' <;> cases hm'
    exact ⟨i, ev, m, .inr rfl, hx', ht⟩
  · rcases hm' with hm' | hm' <;> cases hm'
    exact hb.held i ev m (.inl hm)

/-- The publish of `driver.assigned` fails, and the matching handler returns. -/
theorem Sys.Booking.assignFailed (hb : S.Booking) {i : Nat} {ev : RideRequestedEvent}
    {m : DriverId} (hm : S.matcher = .found i ev m) (ms : List (Nat × MatchOutcome)) :
    ({ S with matcher := .idle, matched := ms } : Sys).Booking := by
  have hC : ∀ x y, ({ S with matcher := .idle, matched := ms } : Sys).Claim x y →
      S.Active x y ∨ S.Pending x y := by
    rintro x y (h | h | ⟨_, _, _, hm', -⟩)
    · exact .inl h
    · exact .inr h
    · cases hm'
  have hC' := fun x y h => (hC x y h).elim (Or.inl (b := S.Pending x y ∨ S.Found x y))
    (Or.inr ∘ Or.inl)
  refine ⟨fun x y₁ y₂ h₁ h₂ => hb.unique x y₁ y₂ (hC' x y₁ h₁) (hC' x y₂ h₂),
    fun x y hx h => ?_, fun _ _ _ hm' => by simp at hm', fun _ _ _ _ hm' => (by cases hm'),
    hb.spelled⟩
  obtain ⟨i', ev', m', hm', hx', -⟩ := hb.pooled x y hx (hC' x y h)
  rw [hm] at hm'
  rcases hm' with hm' | hm' <;> cases hm'
  obtain ⟨hA, hP⟩ := hb.foundFree i ev m x hm hx' y
  exact ((hC x y h).elim hA hP).elim

/-- The matching handler's `ZREM` goes through, and it returns. -/
theorem Sys.Booking.removed (hb : S.Booking) {i : Nat} {ev : RideRequestedEvent}
    {m : DriverId} (hm : S.matcher = .published i ev m) (ms : List (Nat × MatchOutcome)) :
    ({ S with geo := removeDriverLocation S.geo m, matcher := .idle, matched := ms } : Sys).Booking := by
  have hold : ∀ x, ((removeDriverLocation S.geo m).pos x).isSome →
      x ≠ m ∧ (S.geo.pos x).isSome := fun x hx => by
    change ((S.geo.zRem m).pos x).isSome at hx
    rw [GeoSet.pos_zRem] at hx
    split at hx
    · cases hx
    · exact ⟨‹_›, hx⟩
  have hC : ∀ x y, ({ S with
      geo := removeDriverLocation S.geo m
      matcher := .idle
      matched := ms } : Sys).Claim x y → S.Claim x y := by
    rintro x y (h | h | ⟨_, _, _, hm', -⟩)
    · exact .inl h
    · exact .inr (.inl h)
    · cases hm'
  refine ⟨fun x y₁ y₂ h₁ h₂ => hb.unique x y₁ y₂ (hC x y₁ h₁) (hC x y₂ h₂),
    fun x y ⟨m', hx, hd⟩ h => ?_, fun _ _ _ hm' => by simp at hm',
    fun _ _ _ _ hm' => (by cases hm'),
    fun x x' d h h' => hb.spelled x x' d (hold x h).2 (hold x' h').2⟩
  /- the handler held the only spelling of the driver, which is gone -/
  have hx' := hold m' hx
  obtain ⟨_, _, m'', hm', hd', -⟩ := hb.pooled x y ⟨m', hx'.2, hd⟩ (hC x y h)
  rw [hm] at hm'
  rcases hm' with hm' | hm' <;> cases hm'
  exact (hx'.1 (hb.spelled m' m x hx'.2 (hb.held i ev m (.inr hm)) hd hd')).elim

/-- **One step of a good run keeps the invariant.** -/
theorem Sys.Booking.moves (hS : S.Reachable E) (hb : S.Booking) {a : SysAct} (hg : S.Good a)
    (h : Sys.Moves E S a S') : S'.Booking := by
  cases h with
  | stay | hub | publishFail | publishRide | publishCompleted | returned | accounts =>
    exact ⟨hb.1, hb.2, hb.3, hb.4, hb.5⟩
  | ledger b hb' => exact hb.ledger hS.named hb'
  | assign r ts ds ha hr =>
    subst ha
    simp only [Sys.Good, hr] at hg
    exact hb.assign hg
  | locate r m loc ok ha hr =>
    subst ha
    simp only [Sys.Good, hr] at hg
    exact hb.locate hg loc.lat loc.lng
  | found i ev m ds hm _ _ hd =>
    obtain ⟨q, hq, -⟩ := GeoSet.mem_search (hd ▸ List.mem_cons_self m ds)
    exact hb.found hm (by simp [hq]) i ev
  | assignPublished i ev m hm => exact hb.assignPublished hm
  | assignFailed i ev m hm => exact hb.assignFailed hm _
  | removed i ev m ok ha hm =>
    subst ha
    cases hg
    exact hb.removed hm _
  | consumed i ev ok he hi => exact hb.consumed he hi ok

/-- A driver has no claim in a state with no trip, no `driver.assigned` message and an idle
matching handler. -/
theorem Sys.free_of_fresh (ht : ∀ t, S.ledger.trips t = none) (hd : S.driverAssigned = [])
    (hm : S.matcher = .idle) (d : Uuid) : S.Free d := by
  rintro t (⟨_, h, -⟩ | ⟨_, _, h, -⟩ | ⟨_, _, _, h, -⟩)
  · rw [ht] at h; cases h
  · rw [hd] at h; cases h
  · rw [hm] at h; cases h

theorem Sys.Booking.init : Sys.init.Booking where
  unique d t _ h := (Sys.free_of_fresh (fun _ => rfl) rfl rfl d t h).elim
  pooled d t _ h := (Sys.free_of_fresh (fun _ => rfl) rfl rfl d t h).elim
  held _ _ _ h := by simp [Sys.init] at h
  foundFree _ _ _ _ h := by cases h
  spelled _ _ _ h := by cases h

/-- Every state a good run reaches satisfies the invariant. -/
theorem Sys.GoodReachable.booking (h : S.GoodReachable E) : S.Booking := by
  obtain ⟨acts, hg, rfl⟩ := h
  suffices ∀ {S : Sys}, S.Reachable E → S.Booking → S.GoodRun E acts → (S.run E acts).Booking from
    this (Sys.Reachable.init E) .init hg
  clear hg
  induction acts with
  | nil => exact fun _ hb _ => hb
  | cons a acts ih =>
    exact fun {S} hS hb ⟨ha, hg⟩ => ih (hS.step E a) (hb.moves hS ha (S.step_moves E a)) hg

end

/-- **A driver is booked once, in the runs that keep the discipline.** In every state such a
run reaches: no driver drives two trips; the matching handler never holds, and so never
publishes, a driver who drives a trip; and a driver with a spelling in the geo set drives a
trip only while the matching handler holds it for that trip. -/
theorem good_runs_book_once (E : Env) {S : Sys} (hS : S.GoodReachable E) :
    (∀ d t₁ t₂, S.Active d t₁ → S.Active d t₂ → t₁ = t₂) ∧
      (∀ i ev m d, S.matcher = .found i ev m → uuidIn m = some d → ∀ t, ¬ S.Active d t) ∧
      (∀ d t, S.Pooled d → S.Active d t → S.Holds d t) :=
  have hb := hS.booking
  ⟨fun d t₁ t₂ h₁ h₂ => hb.unique d t₁ t₂ (.inl h₁) (.inl h₂),
    fun i ev m d hm hd t => (hb.foundFree i ev m d hm hd t).1,
    fun d t hd h => hb.pooled d t hd (.inl h)⟩

/-- The rider and the driver register, the driver pushes a location, the rider requests a
trip at it, and the matching handler gives the driver the trip, with every step going
through. -/
def matchedOnce : List SysAct :=
  signups ++ [.http ⟨"Bearer driver-token", .driverLocation (uuidOut driverD) ⟨0, 0⟩ true⟩,
    .http ⟨"Bearer rider-token", .tripRequest tripT ⟨0, 0, 1, 1⟩ 0 0⟩,
    .publish 0 true, .matchTake 0 true, .matchPublish true, .matchRemove true, .consume 0 true]

/-- `matchedOnce` keeps the discipline: the driver pushes its location with nothing booked
and the set empty. -/
theorem matchedOnce_good : Sys.init.GoodRun Env.sample matchedOnce :=
  ⟨trivial, trivial,
    fun d _ => ⟨Sys.free_of_fresh (fun _ => rfl) rfl rfl d, fun _ _ h _ => Bool.false_ne_true h⟩,
    trivial, trivial, trivial, trivial, rfl, trivial, trivial⟩

theorem matchedOnce_booked :
    (∀ d t₁ t₂, (Sys.init.run Env.sample matchedOnce).Active d t₁ →
        (Sys.init.run Env.sample matchedOnce).Active d t₂ → t₁ = t₂) ∧
      (∀ i ev m d, (Sys.init.run Env.sample matchedOnce).matcher = .found i ev m →
        uuidIn m = some d → ∀ t, ¬ (Sys.init.run Env.sample matchedOnce).Active d t) ∧
      (∀ d t, (Sys.init.run Env.sample matchedOnce).Pooled d →
        (Sys.init.run Env.sample matchedOnce).Active d t →
        (Sys.init.run Env.sample matchedOnce).Holds d t) :=
  good_runs_book_once Env.sample ⟨matchedOnce, matchedOnce_good, rfl⟩

/-- A driver on trip `tripT` pushes a location; a rider requests `tripT2` at it; the matching
handler gives the driver `tripT2` too. -/
def doubleBooking : List SysAct :=
  signups ++ [.http ⟨"Bearer rider-token", .tripRequest tripT ⟨0, 0, 1, 1⟩ 0 0⟩,
    .http ⟨"Bearer rider-token", .tripAssign (uuidOut tripT) (uuidOut driverD)⟩,
    .http ⟨"Bearer driver-token", .driverLocation (uuidOut driverD) ⟨0, 0⟩ true⟩,
    .http ⟨"Bearer rider-token", .tripRequest tripT2 ⟨0, 0, 1, 1⟩ 0 0⟩,
    .publish 1 true, .matchTake 0 true, .matchPublish true, .matchRemove true, .consume 0 true]

/-- In `doubleBooking` the matching handler holds `driverD` for `tripT2` while `driverD`
drives `tripT`, and in the end `driverD` drives both. -/
theorem driverBookedTwice :
    ((Sys.init.run Env.sample (doubleBooking.take 8)).ledger.trips tripT).map
        (fun r => (r.status, r.driverId)) = some (.driverAssigned, some driverD) ∧
      (Sys.init.run Env.sample (doubleBooking.take 8)).matcher =
        .found 0 (rideRequestedEvent tripT2 (uuidOut riderR) ⟨0, 0, 1, 1⟩ 0) (uuidOut driverD) ∧
      ((Sys.init.run Env.sample doubleBooking).ledger.trips tripT).map
        (fun r => (r.status, r.driverId)) = some (.driverAssigned, some driverD) ∧
      ((Sys.init.run Env.sample doubleBooking).ledger.trips tripT2).map
        (fun r => (r.status, r.driverId)) = some (.driverAssigned, some driverD) := by
  decide

end RideService.System
