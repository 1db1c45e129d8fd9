import RideService.Tracking.Isolation

/-!
# A broadcast with no unsubscription on its trip reaches each subscriber once

`broadcastLocation_shifted_snapshot` shows a `BroadcastLocation` loop writing to one
connection twice and skipping another: a read loop of its trip ends in the middle, and
`removeConn` shifts the array the loop's copied header shares. That is the only way a loop
goes wrong (`broadcast_reaches_subscribers`). When no connection of the trip ends its read
loop between the copy and the loop's last iteration, the loop writes to the subscribers the
trip had at the copy (`Subscribers.readers`), in the order they subscribed, each once. Any
`HandleWS` calls (on this trip or another, in place or into a new array), any ends of other
trips' read loops, and any other broadcasts may interleave.

The guard is named, not assumed away: without it the statement is false, and
`broadcastLocation_shifted_snapshot` is the run that refutes it.

The cells below the header's length stay as they were (`Hub.Stable`). The only writes to a
backing array are `append`'s, at an entry's length or into a new array, and the shift of
`removeConn`, on the array of the trip it runs for. The header's array is the trip's entry's,
with the header no longer than the entry, or it is no entry's at all. Which trip a read
loop belongs to is told by the spec's hub (`Subscribers.Opened`): the `c`-th `Subscribe`
opens connection `c`.
-/

namespace RideService.Tracking

open RideService

/-! ## What a broadcast's loop writes -/

/-- The writes of broadcast `k`'s loop along a run: what each of its iterations sends. -/
def Hub.loopSends (gp : GrowPolicy) (k : Nat) : Hub → List HubAct → List (ConnId × LocationMsg)
  | _, [] => []
  | h, a :: acts =>
    (if a = .deliver k then (h.step gp a).sent.drop h.sent.length else []) ++
      Hub.loopSends gp k (h.step gp a) acts

section
variable {h : Hub} {k : Nat} {b : Broadcast}

/-- An iteration of loop `k` sends the cell at its next index and moves on, while the index
is below its header's length. -/
theorem Hub.deliver_loop (hb : h.broadcasts[k]? = some b) :
    (h.deliver k).sent.drop h.sent.length =
        (if b.next < b.snap.len then [((h.arrays b.snap.arr).getD b.next 0, b.msg)] else []) ∧
      (h.deliver k).broadcasts[k]? =
        some (if b.next < b.snap.len then { b with next := b.next + 1 } else b) := by
  have hk : k < h.broadcasts.length := (List.getElem?_eq_some_iff.1 hb).1
  unfold Hub.deliver
  rw [hb]
  dsimp only
  split
  · simp [List.getElem?_set_self hk]
  · simp [hb]

/-- A step that is not an iteration of loop `k` leaves broadcast `k` as it was. -/
theorem Hub.step_broadcast (gp : GrowPolicy) (hb : h.broadcasts[k]? = some b) :
    ∀ a, a ≠ .deliver k → (h.step gp a).broadcasts[k]? = some b
  | .handleWS _, _ => by simpa [Hub.step] using hb
  | .readEnds _, _ => by simpa [Hub.step] using hb
  | .broadcastLocation .., _ => by
    simpa [Hub.step, Hub.broadcastLocation, List.getElem?_append_left
      (List.getElem?_eq_some_iff.1 hb).1] using hb
  | .deliver k', hk => by
    have hne : k' ≠ k := fun e => hk (e ▸ rfl)
    show (h.deliver k').broadcasts[k]? = some b
    unfold Hub.deliver
    split
    · split
      · rw [List.getElem?_set_ne hne]; exact hb
      · exact hb
    · exact hb

end

/-! ## Who reads for a trip -/

/-- Each connection in a read loop reads for the trip it was opened for, of the trips
opened so far (`ts`): the `c`-th `Subscribe` opens connection `c`. -/
structure Subscribers.Opened (ts : List TripId) (S : Subscribers) : Prop where
  next : S.nextConn = ts.length + 1
  live : ∀ c t, S.live c = some t → ts[c - 1]? = some t

theorem Subscribers.Opened.init : Subscribers.init.Opened [] :=
  ⟨rfl, fun _ _ h => (nomatch h)⟩

/-- One step of the spec's hub keeps each read loop on the trip it was opened for. -/
theorem Subscribers.Opened.step {ts : List TripId} {S : Subscribers} (ho : S.Opened ts) :
    ∀ a, (S.step a).Opened (ts ++ openedTrips [a])
  | .handleWS t => by
    refine ⟨by simp [Subscribers.step, Subscribers.subscribe, openedTrips, HubAct.opens, ho.next],
      fun c t' hc => ?_⟩
    simp only [Subscribers.step, Subscribers.subscribe, Function.update_apply] at hc
    split at hc
    · subst_vars; cases hc
      rw [ho.next, Nat.add_sub_cancel]; exact List.getElem?_concat_length ts t
    · have := ho.live c t' hc
      simpa [openedTrips, HubAct.opens, List.getElem?_append_left
        (List.getElem?_eq_some_iff.1 this).1] using this
  | .readEnds c => by
    refine ⟨by simpa [Subscribers.step, openedTrips, HubAct.opens, Subscribers.unsubscribe_nextConn]
      using ho.next, fun c' t' hc => ?_⟩
    simp only [Subscribers.step, Subscribers.unsubscribe_live, Function.update_apply] at hc
    split at hc
    · cases hc
    · simpa [openedTrips, HubAct.opens] using ho.live c' t' hc
  | .broadcastLocation .. | .deliver _ => by simpa [Subscribers.step, openedTrips, HubAct.opens] using ho

theorem Subscribers.Opened.run {ts : List TripId} {S : Subscribers} (ho : S.Opened ts)
    (acts : List HubAct) : (S.run acts).Opened (ts ++ openedTrips acts) := by
  induction acts generalizing S ts with
  | nil => simpa [openedTrips] using ho
  | cons a acts ih =>
    rw [Subscribers.run_cons, show openedTrips (a :: acts) = openedTrips [a] ++ openedTrips acts
      from List.filterMap_append [a] acts _, ← List.append_assoc]
    exact ih (ho.step a)

/-! ## The copied header stays as it was -/

/-- The header `s` that a broadcast on trip `t` copied still reads `cells`. It fits its
array, which is allocated. Any entry on that array is `t`'s, and is no shorter than the
header. -/
structure Hub.Stable (t : TripId) (s : Slice) (cells : List ConnId) (h : Hub) : Prop where
  cells : (h.arrays s.arr).take s.len = cells
  fits : s.len ≤ (h.arrays s.arr).length
  alloc : 0 < s.len → s.arr < h.nextArr
  owner : 0 < s.len → ∀ t' e, h.conns t' = some e → e.arr = s.arr → t' = t ∧ s.len ≤ e.len

section
variable {t : TripId} {s : Slice} {cells : List ConnId} {h : Hub}

/-- The header a broadcast copies when it reads `conns[t]`. -/
theorem Hub.Stable.snapshot (hw : h.Wf) (t : TripId) :
    h.Stable t ((h.conns t).getD .nil) (h.cells ((h.conns t).getD .nil)) := by
  refine ⟨rfl, (hw.getD_fits t).2.2, fun hp => hw.allocated t _ (Hub.conns_of_len_pos hp),
    fun hp t' e he hea => ?_⟩
  have ht := Hub.conns_of_len_pos hp
  by_cases e' : t' = t
  · subst e'; rw [ht, Option.some.injEq] at he; subst he; exact ⟨rfl, le_rfl⟩
  · exact absurd hea (hw.apart t' t e _ he ht e')

/-- An empty header stays empty, whatever the hub does. -/
theorem Hub.Stable.of_len_zero (hs : h.Stable t s cells) (h0 : s.len = 0) (h' : Hub) :
    h'.Stable t s cells := by
  have hc : cells = [] := by rw [← hs.cells, h0, List.take_zero]
  refine ⟨by rw [h0, List.take_zero, hc], by rw [h0]; exact Nat.zero_le _, ?_, ?_⟩ <;>
    exact fun hp => absurd h0 (Nat.pos_iff_ne_zero.1 hp)

/-- A hub with the same arrays, entries and next address keeps the header. -/
theorem Hub.Stable.of_eq (hs : h.Stable t s cells) {h' : Hub} (ha : h'.arrays = h.arrays)
    (hc : h'.conns = h.conns) (hn : h'.nextArr = h.nextArr) : h'.Stable t s cells :=
  ⟨ha ▸ hs.cells, ha ▸ hs.fits, hn ▸ hs.alloc, hc ▸ hs.owner⟩

/-- Writing the entry of `t''` keeps every entry on the header's array `t`'s when the new one
is. -/
theorem Hub.Stable.owner_update (hs : h.Stable t s cells) (hp : 0 < s.len) {t'' : TripId}
    {o : Option Slice} (ho : ∀ e, o = some e → e.arr = s.arr → t'' = t ∧ s.len ≤ e.len) :
    ∀ t' e, Function.update h.conns t'' o t' = some e → e.arr = s.arr → t' = t ∧ s.len ≤ e.len := by
  intro t' e he hea
  rw [Function.update_apply] at he
  split at he
  next ht => subst ht; exact ho e he hea
  · exact hs.owner hp t' e he hea

variable (gp : GrowPolicy)

/-- `HandleWS` writes at its entry's length, which is past the header's when the entry is on
the header's array, or into a new array. -/
theorem Hub.Stable.handleWS (hs : h.Stable t s cells) (t'' : TripId) :
    (h.handleWS gp t'').Stable t s cells := by
  rcases Nat.eq_zero_or_pos s.len with h0 | hp
  · exact hs.of_len_zero h0 _
  unfold Hub.handleWS Hub.append
  split
  · /- in place, at the entry's length -/
    rename_i hlt
    have hcs := Hub.conns_of_lt_cap hlt
    by_cases he : ((h.conns t'').getD .nil).arr = s.arr
    · obtain ⟨rfl, hle⟩ := hs.owner hp t'' _ hcs he
      refine ⟨?_, ?_, fun _ => hs.alloc hp, fun _ => hs.owner_update hp fun e he' hea => ?_⟩
      · show (Function.update h.arrays _ _ s.arr).take s.len = cells
        rw [← he, Function.update_same, List.set_take, List.set_eq_of_length_le
          ((List.length_take_le _ _).trans hle), he, hs.cells]
      · show s.len ≤ (Function.update h.arrays _ _ s.arr).length
        rw [← he, Function.update_same, List.length_set, he]; exact hs.fits
      · cases he'; exact ⟨rfl, Nat.le_succ_of_le hle⟩
    · have hne : s.arr ≠ ((h.conns t'').getD .nil).arr := Ne.symm he
      refine ⟨?_, ?_, fun _ => hs.alloc hp, fun _ => hs.owner_update hp fun e he' hea => ?_⟩
      · show (Function.update h.arrays _ _ s.arr).take s.len = cells
        rw [Function.update_noteq hne]; exact hs.cells
      · show s.len ≤ (Function.update h.arrays _ _ s.arr).length
        rw [Function.update_noteq hne]; exact hs.fits
      · cases he'; exact absurd hea he
  · /- into the array at the next address -/
    have hne : s.arr ≠ h.nextArr := (hs.alloc hp).ne
    refine ⟨?_, ?_, fun _ => Nat.lt_succ_of_lt (hs.alloc hp),
      fun _ => hs.owner_update hp fun e he' hea => ?_⟩
    · show (Function.update h.arrays h.nextArr _ s.arr).take s.len = cells
      rw [Function.update_noteq hne]; exact hs.cells
    · show s.len ≤ (Function.update h.arrays h.nextArr _ s.arr).length
      rw [Function.update_noteq hne]; exact hs.fits
    · cases he'; exact absurd hea.symm hne

/-- `removeConn` on another trip shifts only that trip's array, which is not the header's. -/
theorem Hub.Stable.removeConn (hs : h.Stable t s cells) {t' : TripId} (hne : t' ≠ t)
    (c : ConnId) : (h.removeConn t' c).Stable t s cells := by
  rcases Nat.eq_zero_or_pos s.len with h0 | hp
  · exact hs.of_len_zero h0 _
  have hother : ∀ e, h.conns t' = some e → e.arr ≠ s.arr := fun e he hea =>
    hne (hs.owner hp t' e he hea).1
  obtain ⟨o, hos, hr | ⟨i, hi, hr⟩⟩ := h.removeConn_cases t' c <;> rw [hr]
  · exact ⟨hs.cells, hs.fits, hs.alloc, fun _ => hs.owner_update hp fun e he hea =>
      absurd ((hos e he).2.1 ▸ hea) (hother _ (hos e he).1)⟩
  · have hpos : 0 < ((h.conns t').getD .nil).len :=
      Nat.pos_of_ne_zero fun h0 => by simp [Hub.cells, h0] at hi
    have hsa : s.arr ≠ ((h.conns t').getD .nil).arr :=
      Ne.symm (hother _ (Hub.conns_of_len_pos hpos))
    refine ⟨?_, ?_, hs.alloc, fun _ => hs.owner_update hp fun e he hea =>
      absurd ((hos e he).2.1 ▸ hea) (hother _ (hos e he).1)⟩
    · show (Function.update h.arrays _ _ s.arr).take s.len = cells
      rw [Function.update_noteq hsa]; exact hs.cells
    · show s.len ≤ (Function.update h.arrays _ _ s.arr).length
      rw [Function.update_noteq hsa]; exact hs.fits

/-- **One step keeps the copied header**, unless it ends the read loop of a connection of
the header's trip. -/
theorem Hub.Stable.step (hs : h.Stable t s cells) :
    ∀ a, (∀ c, a = .readEnds c → h.live c ≠ some t) → (h.step gp a).Stable t s cells
  | .handleWS t'', _ => hs.handleWS gp t''
  | .readEnds c, hc => by
    show (h.readEnds c).Stable t s cells
    unfold Hub.readEnds
    split
    · rename_i t' ht'
      exact (hs.removeConn (fun e => hc c rfl (e ▸ ht')) c).of_eq rfl rfl rfl
    · exact hs
  | .broadcastLocation .., _ => hs.of_eq rfl rfl rfl
  | .deliver k, _ => by
    obtain ⟨bs, sent, he⟩ := h.deliver_eq k
    show (h.deliver k).Stable t s cells
    rw [he]
    exact hs.of_eq rfl rfl rfl

end

/-! ## Runs -/

/-- The cells below a header's length, from index `j` on: the cell at `j` first. -/
theorem drop_take_eq_getD_cons {l : List ConnId} {n j : Nat} (hj : j < n) (hn : n ≤ l.length) :
    (l.take n).drop j = l.getD j 0 :: (l.take n).drop (j + 1) := by
  rw [List.drop_eq_getElem_cons (by rw [List.length_take]; omega), List.getElem_take,
    List.getD_eq_getElem _ _ (by omega)]

section
variable (gp : GrowPolicy) {t : TripId} {s : Slice} {cells : List ConnId} {msg : LocationMsg}
  {k : Nat}

/-- **The loop of a broadcast whose trip keeps its subscribers sends the rest of its copy.**
From a state where loop `k` is at index `j` of a header that still reads `cells`, along any
run in which no connection of the trip ends its read loop, the loop's writes are the next
cells from `j`, one per iteration, with the broadcast's message. -/
theorem Hub.Stable.loopSends {h : Hub} {ts : List TripId} {j : Nat} (hs : h.Stable t s cells)
    (hw : h.Wf) (ho : h.abs.Opened ts) (hb : h.broadcasts[k]? = some ⟨msg, s, j⟩)
    (acts : List HubAct)
    (hkeep : ∀ c, HubAct.readEnds c ∈ acts → (ts ++ openedTrips acts)[c - 1]? ≠ some t) :
    Hub.loopSends gp k h acts =
      ((cells.drop j).take (acts.count (.deliver k))).map fun c => (c, msg) := by
  induction acts generalizing h ts j with
  | nil => simp [Hub.loopSends]
  | cons a acts ih =>
    have hlen : cells.length = s.len := by rw [← hs.cells, List.length_take, min_eq_left hs.fits]
    have hopened : openedTrips (a :: acts) = openedTrips [a] ++ openedTrips acts :=
      List.filterMap_append [a] acts _
    /- a read loop that ends is not one of the trip's -/
    have ha : ∀ c, a = .readEnds c → h.live c ≠ some t := by
      rintro c rfl hc
      have hlive := ho.live c t hc
      refine hkeep c (List.mem_cons_self _ _) ?_
      rw [List.getElem?_append_left (List.getElem?_eq_some_iff.1 hlive).1, hlive]
    have hs' := hs.step gp a ha
    have hw' := (hw.step_abs gp a).2
    have ho' : (h.step gp a).abs.Opened (ts ++ openedTrips [a]) := (hw.step_abs gp a).1 ▸ ho.step a
    have hkeep' : ∀ c, HubAct.readEnds c ∈ acts →
        (ts ++ openedTrips [a] ++ openedTrips acts)[c - 1]? ≠ some t := fun c hc => by
      rw [List.append_assoc, ← hopened]; exact hkeep c (List.mem_cons_of_mem _ hc)
    rw [Hub.loopSends]
    by_cases hak : a = .deliver k
    · /- an iteration of the loop: the cell at `j`, if `j` is below the header's length -/
      subst hak
      obtain ⟨hsent, hb'⟩ := Hub.deliver_loop hb
      rw [if_pos rfl, show (h.step gp (.deliver k)).sent = (h.deliver k).sent from rfl, hsent,
        List.count_cons_self]
      dsimp only at hsent hb' ⊢
      split_ifs at hb' ⊢ with hj
      · rw [ih hs' hw' ho' hb' hkeep', ← hs.cells, drop_take_eq_getD_cons hj hs.fits]
        rfl
      · rw [ih hs' hw' ho' hb' hkeep', List.drop_eq_nil_of_le (by omega)]
        simp
    · rw [if_neg hak, List.nil_append, List.count_cons_of_ne (Ne.symm hak),
        ih hs' hw' ho' (Hub.step_broadcast gp hb a hak) hkeep']

end

/-- **A broadcast with no unsubscription on its trip reaches each subscriber once.** Take any
run from `NewHub`, then a `BroadcastLocation` on trip `t` copying `conns[t]`, then any run
in which no connection of `t` ends its read loop (the `c`-th `HandleWS` of the whole run
opens connection `c`). The writes of the broadcast's loop are then the trip's subscribers
at the copy, in the order they subscribed, one per iteration; the subscribers are distinct,
so once the loop has run as many iterations as there were subscribers, each was sent the
message exactly once. -/
theorem broadcast_reaches_subscribers (gp : GrowPolicy) (acts₁ acts₂ : List HubAct)
    (t : TripId) (lat lng : ℚ) (ts : Nat)
    (hkeep : ∀ c, HubAct.readEnds c ∈ acts₂ → (openedTrips (acts₁ ++ acts₂))[c - 1]? ≠ some t) :
    ((Subscribers.init.run acts₁).readers t).Nodup ∧
      Hub.loopSends gp (Hub.init.run gp acts₁).broadcasts.length
          ((Hub.init.run gp acts₁).broadcastLocation t lat lng ts) acts₂ =
        (((Subscribers.init.run acts₁).readers t).take
          (acts₂.count (.deliver (Hub.init.run gp acts₁).broadcasts.length))).map
            fun c => (c, ⟨t, lat, lng, ts⟩) := by
  obtain ⟨habs, hw⟩ := Hub.Wf.init.run_abs gp acts₁
  have hi : (Hub.init.run gp acts₁).abs.Inv := by rw [habs]; exact Subscribers.Inv.init.run acts₁
  /- the copy reads the trip's subscribers -/
  have hcells : (Hub.init.run gp acts₁).cells (((Hub.init.run gp acts₁).conns t).getD .nil) =
      (Subscribers.init.run acts₁).readers t := by
    rw [← Hub.abs_subs_getD, hi.getD_subs, habs]
    rfl
  have ho : (Hub.init.run gp acts₁).abs.Opened (openedTrips acts₁) := by
    rw [habs]; simpa using Subscribers.Opened.init.run acts₁
  refine ⟨Subscribers.readers_nodup, ?_⟩
  rw [← hcells, ← List.drop_zero ((Hub.init.run gp acts₁).cells _)]
  have hs₁ : ((Hub.init.run gp acts₁).broadcastLocation t lat lng ts).Stable t _ _ :=
    (Hub.Stable.snapshot hw t).of_eq rfl rfl rfl
  exact hs₁.loopSends gp ⟨hw.1, hw.2, hw.3⟩ ho (List.getElem?_concat_length _ _) acts₂
    (by rwa [openedTrips, openedTrips, ← List.filterMap_append])

/-- Trips `a` and `b` are watched, `a` by connections `1` and `3`. -/
def watchedTrips : List HubAct := [.handleWS "a", .handleWS "b", .handleWS "a"]

/-- A broadcast on `a` copies its header; then one iteration, a new subscriber of `a` (into a
new array), the end of `b`'s read loop, and a second iteration. -/
def watchedLoop : List HubAct := [.deliver 0, .handleWS "a", .readEnds 2, .deliver 0]

theorem watchedLoop_reaches :
    Hub.loopSends .doubling (Hub.init.run .doubling watchedTrips).broadcasts.length
        ((Hub.init.run .doubling watchedTrips).broadcastLocation "a" 0 0 7) watchedLoop =
      [(1, ⟨"a", 0, 0, 7⟩), (3, ⟨"a", 0, 0, 7⟩)] :=
  (broadcast_reaches_subscribers .doubling watchedTrips watchedLoop "a" 0 0 7 fun c hc => by
    simp only [watchedLoop, List.mem_cons, HubAct.readEnds.injEq, List.mem_nil_iff, or_false,
      reduceCtorEq, false_or] at hc
    subst hc; decide).2.trans (by decide)

end RideService.Tracking
