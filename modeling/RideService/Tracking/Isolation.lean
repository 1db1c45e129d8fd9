import RideService.Tracking.Refinement

/-!
# A broadcast reaches only its own trip's connections

`BroadcastLocation` copies the header of `conns[t]` and runs its loop after the lock is
released, while `HandleWS` appends in place and `removeConn` shifts in place, and an entry
may move to a new backing array or be deleted under a running loop (`Hub.lean`). Whatever
the interleaving, every `writeJSON` of a loop goes to a connection that is not `nil`, and
that connection was opened by a `HandleWS` for the loop's trip (`broadcasts_stay_in_trip`):
a loop can send a connection twice or skip one, but never leaks a trip's position to a
subscriber of another trip, nor writes to a `nil` cell.

The proof gives every backing array an owner, the trip whose entry allocated it
(`Hub.Owned`). An array only ever holds connections opened for its owner; every entry and
every copied header lies on an array of its own trip; and the cells below a header's
length are never `nil` (`Hub.Filled`), since `append` writes the cell at the old length and
the shift of `removeConn` moves cells down from below the entry's length. Connections are
named by the run itself: the `c`-th `HandleWS` of a run opens connection `c`
(`openedTrips`).
-/

namespace RideService.Tracking

open RideService

/-! ## Cells of backing arrays -/

section
variable {l : List ConnId}

theorem getD_pos_mem {i : Nat} (h : 0 < l.getD i 0) : l.getD i 0 ∈ l := by
  rw [List.getD_eq_getElem?_getD] at h ⊢
  cases hl : l[i]? with
  | none => rw [hl] at h; exact absurd h (lt_irrefl 0)
  | some c => exact List.getElem?_mem hl

theorem lt_length_of_getD_pos {i : Nat} (h : 0 < l.getD i 0) : i < l.length := by
  by_contra hn
  rw [List.getD_eq_default _ _ (not_lt.1 hn)] at h
  exact absurd h (lt_irrefl 0)

/-- Writing a connection into a cell keeps every cell that held one. -/
theorem getD_set_pos {n j x : Nat} (hx : 0 < x) (h : 0 < l.getD j 0) :
    0 < (l.set n x).getD j 0 := by
  rw [List.getD_eq_getElem?_getD] at h ⊢
  rw [List.getElem?_set]
  split_ifs with hn hl
  · exact hx
  · exact absurd (lt_length_of_getD_pos (by rwa [List.getD_eq_getElem?_getD])) (hn ▸ hl)
  · exact h

theorem getD_set_self {n x : Nat} (hn : n < l.length) : (l.set n x).getD n 0 = x := by
  simp [List.getD_eq_getElem?_getD, List.getElem?_set, hn]

/-- The cells of the array `append` allocates: the old cells, then the new connection. -/
theorem getD_take_append_cons {n j x : Nat} {r : List ConnId} (hn : n ≤ l.length) (hj : j ≤ n) :
    (l.take n ++ x :: r).getD j 0 = if j < n then l.getD j 0 else x := by
  have hlen : (l.take n).length = n := List.length_take_of_le hn
  simp only [List.getD_eq_getElem?_getD]
  split_ifs with hj'
  · rw [List.getElem?_append_left (by omega), List.getElem?_take, if_pos hj']
  · rw [List.getElem?_append_right (by omega), hlen, show j - n = 0 by omega,
      List.getElem?_cons_zero]; rfl

/-- The cells after the shift of `removeConn` (`Hub.shiftDown`): the cell at `j` is the old
one at `j + 1` from `i` up to the entry's length, and the old one at `j` elsewhere. -/
theorem getD_shift {i L j : Nat} (hi : i < L) (hL : L ≤ l.length) :
    (l.take i ++ (l.take L).drop (i + 1) ++ l.drop (L - 1)).getD j 0 =
      if i ≤ j ∧ j + 1 < L then l.getD (j + 1) 0 else l.getD j 0 := by
  have h₁ : (l.take i).length = i := List.length_take_of_le (by omega)
  have h₂ : (l.take i ++ (l.take L).drop (i + 1)).length = L - 1 := by
    simp only [List.length_append, List.length_drop, List.length_take]; omega
  simp only [List.getD_eq_getElem?_getD]
  split_ifs with hj
  · rw [List.getElem?_append_left (by omega), List.getElem?_append_right (by omega), h₁,
      List.getElem?_drop, List.getElem?_take, if_pos (by omega),
      show i + 1 + (j - i) = j + 1 by omega]
  · by_cases hji : j < i
    · rw [List.getElem?_append_left (by omega), List.getElem?_append_left (by omega),
        List.getElem?_take, if_pos hji]
    · rw [List.getElem?_append_right (by omega), h₂, List.getElem?_drop,
        show L - 1 + (j - (L - 1)) = j by omega]

theorem mem_of_mem_shift {i L x : Nat}
    (h : x ∈ l.take i ++ (l.take L).drop (i + 1) ++ l.drop (L - 1)) : x ∈ l := by
  rcases List.mem_append.1 h with h | h
  · rcases List.mem_append.1 h with h | h
    · exact List.mem_of_mem_take h
    · exact List.mem_of_mem_take (List.mem_of_mem_drop h)
  · exact List.mem_of_mem_drop h

end

/-! ## Who opened a connection -/

/-- The trip a step opens a connection for. -/
def HubAct.opens : HubAct → Option TripId
  | .handleWS t => some t
  | _ => none

/-- The trips of a run's `HandleWS` calls, in order: the `c`-th opens connection `c`. -/
def openedTrips (acts : List HubAct) : List TripId := acts.filterMap HubAct.opens

/-! ## The invariant -/

/-- The cells of a slice are connections, none of them `nil`. -/
def Hub.Filled (h : Hub) (s : Slice) : Prop := ∀ i < s.len, 0 < (h.arrays s.arr).getD i 0

/-- Each backing array belongs to one trip (`owner`), of the connections opened so far
(`ts`): its cells are connections opened for that trip; each entry lies on an array of its
own trip, and each copied header on an array of the broadcast's trip; their cells are not
`nil`; and every write so far went to a connection opened for the message's trip. -/
structure Hub.Owned (ts : List TripId) (owner : Nat → TripId) (h : Hub) : Prop where
  conn : h.nextConn = ts.length + 1
  entry : ∀ t s, h.conns t = some s → owner s.arr = t ∧ h.Filled s
  snap : ∀ b ∈ h.broadcasts,
    h.Filled b.snap ∧ (0 < b.snap.len → owner b.snap.arr = b.msg.tripId ∧ b.snap.arr < h.nextArr)
  cell : ∀ a c, c ∈ h.arrays a → 0 < c → ts[c - 1]? = some (owner a)
  sent : ∀ p ∈ h.sent, 0 < p.1 ∧ ts[p.1 - 1]? = some p.2.tripId

theorem Hub.Owned.init : Hub.init.Owned [] fun _ => "" where
  conn := rfl
  entry _ _ h := nomatch h
  snap _ h := nomatch h
  cell _ _ h := nomatch h
  sent _ h := nomatch h

section
variable {ts : List TripId} {owner : Nat → TripId} {h : Hub}

/-- The slice an entry reads, `nil` for none, is filled. -/
theorem Hub.Owned.filled_getD (ho : h.Owned ts owner) (t : TripId) :
    h.Filled ((h.conns t).getD .nil) := by
  cases ht : h.conns t with
  | none => exact fun i hi => absurd hi (Nat.not_lt_zero i)
  | some s => exact (ho.entry t s ht).2

/-- A slice with cells is an entry's, not `nil`. -/
theorem Hub.conns_of_len_pos {t : TripId} (hl : 0 < ((h.conns t).getD .nil).len) :
    h.conns t = some ((h.conns t).getD .nil) := by
  cases ht : h.conns t with
  | none => rw [ht] at hl; exact absurd hl (Nat.lt_irrefl 0)
  | some s => rfl

/-- A filled slice fits its array. -/
theorem Hub.Filled.len_le {s : Slice} (hf : h.Filled s) : s.len ≤ (h.arrays s.arr).length := by
  rcases Nat.eq_zero_or_pos s.len with h0 | hpos
  · rw [h0]; exact Nat.zero_le _
  · have := lt_length_of_getD_pos (hf (s.len - 1) (by omega)); omega

/-! ## One lemma per step -/

/-- `BroadcastLocation` copies a filled header of its own trip's array, or `nil`. -/
theorem Hub.Owned.broadcastLocation (ho : h.Owned ts owner) (hw : h.Wf) (t : TripId)
    (lat lng : ℚ) (now : Nat) : (h.broadcastLocation t lat lng now).Owned ts owner := by
  refine ⟨ho.conn, ho.entry, fun b hb => ?_, ho.cell, ho.sent⟩
  rcases List.mem_append.1 hb with hb | hb
  · exact ho.snap b hb
  · rw [List.mem_singleton.1 hb]
    refine ⟨ho.filled_getD t, fun hlen => ?_⟩
    cases ht : h.conns t with
    | none => rw [ht] at hlen; exact absurd hlen (Nat.lt_irrefl 0)
    | some s => exact ⟨(ho.entry t s ht).1, hw.allocated t s ht⟩

/-- One iteration of a loop writes to a cell of its header, which is a connection of its
trip. -/
theorem Hub.Owned.deliver (ho : h.Owned ts owner) (k : Nat) : (h.deliver k).Owned ts owner := by
  unfold Hub.deliver
  split
  · rename_i b hb
    split
    · rename_i hnext
      have hmem := List.getElem?_mem hb
      obtain ⟨hf, hown⟩ := ho.snap b hmem
      have hpos := hf b.next hnext
      refine ⟨ho.conn, ho.entry, fun b' hb' => ?_, ho.cell, fun p hp => ?_⟩
      · rcases List.mem_or_eq_of_mem_set hb' with hb' | rfl
        · exact ho.snap b' hb'
        · exact ho.snap b hmem
      · rcases List.mem_append.1 hp with hp | hp
        · exact ho.sent p hp
        · rw [List.mem_singleton.1 hp]
          refine ⟨hpos, ?_⟩
          rw [ho.cell _ _ (getD_pos_mem hpos) hpos, (hown (Nat.zero_lt_of_lt hnext)).1]
    · exact ho
  · exact ho

variable (gp : GrowPolicy)

/-- `HandleWS` writes its new connection into the cell at its entry's length: in place, on its
trip's array, or in a new array, which it gives to its trip. -/
theorem Hub.Owned.handleWS (ho : h.Owned ts owner) (hw : h.Wf) (t : TripId) :
    ∃ owner', (h.handleWS gp t).Owned (ts ++ [t]) owner' := by
  have hx : 0 < h.nextConn := by rw [ho.conn]; exact Nat.succ_pos _
  have hxt : (ts ++ [t])[h.nextConn - 1]? = some t := by
    rw [ho.conn, Nat.add_sub_cancel]; exact List.getElem?_concat_length ts t
  have hold : ∀ c o, ts[c]? = some o → (ts ++ [t])[c]? = some o := fun c o hc => by
    rw [List.getElem?_append_left (List.getElem?_eq_some_iff.1 hc).1, hc]
  have hf := ho.filled_getD t
  unfold Hub.handleWS Hub.append
  split
  · /- in place: the cell at the entry's length, on its trip's array -/
    rename_i hlt
    have hcs := Hub.conns_of_lt_cap hlt
    have hA : ((h.conns t).getD .nil).len < (h.arrays ((h.conns t).getD .nil).arr).length := by
      rw [(hw.sized t _ hcs).2]; exact hlt
    have hset : ∀ a i, 0 < (h.arrays a).getD i 0 →
        0 < (Function.update h.arrays ((h.conns t).getD .nil).arr
          ((h.arrays ((h.conns t).getD .nil).arr).set ((h.conns t).getD .nil).len h.nextConn) a).getD
          i 0 := fun a i hi => by
      rw [Function.update_apply]; split
      · subst_vars; exact getD_set_pos hx hi
      · exact hi
    refine ⟨owner, by simp [ho.conn], fun t' s' hs' => ?_, fun b hb => ?_, fun a c hc hc0 => ?_,
      fun p hp => ?_⟩
    · dsimp only at hs'
      rw [Function.update_apply] at hs'
      split at hs'
      · subst_vars; cases hs'
        refine ⟨(ho.entry _ _ hcs).1, fun i hi => ?_⟩
        rcases Nat.lt_succ_iff_lt_or_eq.1 hi with hi | rfl
        · exact hset _ _ (hf i hi)
        · show 0 < (Function.update h.arrays _ _ _).getD _ 0
          rw [Function.update_same, getD_set_self hA]; exact hx
      · obtain ⟨ho', hf'⟩ := ho.entry t' s' hs'
        exact ⟨ho', fun i hi => hset _ _ (hf' i hi)⟩
    · obtain ⟨hf', hown⟩ := ho.snap b hb
      exact ⟨fun i hi => hset _ _ (hf' i hi), hown⟩
    · dsimp only at hc
      rw [Function.update_apply] at hc
      split at hc
      · subst_vars
        rcases List.mem_or_eq_of_mem_set hc with hc | rfl
        · exact hold _ _ (ho.cell _ c hc hc0)
        · rw [hxt, (ho.entry _ _ hcs).1]
      · exact hold _ _ (ho.cell a c hc hc0)
    · obtain ⟨hp0, hp⟩ := ho.sent p hp
      exact ⟨hp0, hold _ _ hp⟩
  · /- a new array at `nextArr`, which the trip's entry then lies on -/
    have hlen := hf.len_le
    refine ⟨Function.update owner h.nextArr t, by simp [ho.conn], fun t' s' hs' => ?_,
      fun b hb => ?_, fun a c hc hc0 => ?_, fun p hp => ?_⟩
    · dsimp only at hs'
      rw [Function.update_apply] at hs'
      split at hs'
      · subst_vars; cases hs'
        refine ⟨Function.update_same _ _ _, fun i hi => ?_⟩
        show 0 < (Function.update h.arrays h.nextArr _ h.nextArr).getD i 0
        rw [Function.update_same, getD_take_append_cons hlen (Nat.lt_succ_iff.1 hi)]
        split
        · exact hf i ‹_›
        · exact hx
      · have hne := (hw.allocated t' s' hs').ne
        obtain ⟨ho', hf'⟩ := ho.entry t' s' hs'
        refine ⟨by rw [Function.update_noteq hne, ho'], fun i hi => ?_⟩
        show 0 < (Function.update h.arrays h.nextArr _ s'.arr).getD i 0
        rw [Function.update_noteq hne]; exact hf' i hi
    · obtain ⟨hf', hown⟩ := ho.snap b hb
      refine ⟨fun i hi => ?_, fun hl => ?_⟩
      · have hne := (hown (Nat.zero_lt_of_lt hi)).2.ne
        show 0 < (Function.update h.arrays h.nextArr _ b.snap.arr).getD i 0
        rw [Function.update_noteq hne]; exact hf' i hi
      · obtain ⟨ho', hlt⟩ := hown hl
        exact ⟨by rw [Function.update_noteq hlt.ne, ho'], Nat.lt_succ_of_lt hlt⟩
    · dsimp only at hc
      rw [Function.update_apply] at hc
      split at hc
      · subst_vars
        rw [Function.update_same]
        rcases List.mem_append.1 hc with hc | hc
        · have hpos : 0 < ((h.conns t).getD .nil).len :=
            Nat.pos_of_ne_zero fun h0 => by rw [h0, List.take_zero] at hc; cases hc
          have := hold _ _ (ho.cell _ c (List.mem_of_mem_take hc) hc0)
          rwa [(ho.entry t _ (Hub.conns_of_len_pos hpos)).1] at this
        · rcases List.mem_cons.1 hc with rfl | hc
          · exact hxt
          · rw [List.eq_of_mem_replicate hc] at hc0; exact absurd hc0 (Nat.lt_irrefl 0)
      · rw [Function.update_noteq ‹_›]
        exact hold _ _ (ho.cell a c hc hc0)
    · obtain ⟨hp0, hp⟩ := ho.sent p hp
      exact ⟨hp0, hold _ _ hp⟩

/-- **What `removeConn` writes**: its trip's entry, to a slice of the same array that is no
longer, or to none; and, when the connection is among the entry's cells, that array, shifted
down from the connection's index. -/
theorem Hub.removeConn_cases (h : Hub) (t : TripId) (c : ConnId) :
    ∃ o : Option Slice,
      (∀ s', o = some s' → h.conns t = some ((h.conns t).getD .nil) ∧
        s'.arr = ((h.conns t).getD .nil).arr ∧ s'.len ≤ ((h.conns t).getD .nil).len) ∧
      (h.removeConn t c = { h with conns := Function.update h.conns t o } ∨
        ∃ i < (h.cells ((h.conns t).getD .nil)).length,
          h.removeConn t c = { (h.shiftDown ((h.conns t).getD .nil) i).1 with
            conns := Function.update h.conns t o }) := by
  unfold Hub.removeConn
  dsimp only
  cases hidx : (h.cells ((h.conns t).getD .nil)).indexOf? c with
  | some i =>
    have hil : i < (h.cells ((h.conns t).getD .nil)).length :=
      (List.findIdx?_eq_some_iff_getElem.mp hidx).1
    have hpos : 0 < ((h.conns t).getD .nil).len :=
      Nat.pos_of_ne_zero fun h0 => by simp [Hub.cells, h0] at hil
    dsimp only
    split
    · exact ⟨none, fun _ h => (nomatch h), .inr ⟨i, hil, by simp only [Function.update_idem]⟩⟩
    · refine ⟨_, fun s' hs' => ?_, .inr ⟨i, hil, rfl⟩⟩
      cases hs'
      exact ⟨Hub.conns_of_len_pos hpos, rfl, Nat.sub_le _ _⟩
  | none =>
    dsimp only
    split
    · exact ⟨none, fun _ h => (nomatch h), .inl rfl⟩
    · refine ⟨h.conns t, fun s' hs' => ?_, .inl (by rw [Function.update_eq_self])⟩
      rw [hs']
      exact ⟨rfl, rfl, le_rfl⟩

/-- `removeConn` only shortens its trip's entry and shifts cells of its array down; the cells
below every header stay connections. -/
theorem Hub.Owned.removeConn (ho : h.Owned ts owner) (t : TripId) (c : ConnId) :
    (h.removeConn t c).Owned ts owner := by
  have hf := ho.filled_getD t
  obtain ⟨o, hos, hr | ⟨i, hi, hr⟩⟩ := h.removeConn_cases t c <;> rw [hr]
  · /- the array is as it was -/
    refine ⟨ho.conn, fun t' s' hs' => ?_, ho.snap, ho.cell, ho.sent⟩
    dsimp only at hs'
    rw [Function.update_apply] at hs'
    split at hs'
    next e =>
      subst e
      obtain ⟨hcs, harr, hlen⟩ := hos s' hs'
      refine ⟨harr ▸ (ho.entry _ _ hcs).1, fun j hj => ?_⟩
      rw [harr]; exact hf j (by omega)
    · exact ho.entry t' s' hs'
  · /- the array of the entry, shifted down from `i` -/
    have hL := hf.len_le
    have hiL : i < ((h.conns t).getD .nil).len := by
      simp only [Hub.cells, List.length_take] at hi; omega
    have hcs := Hub.conns_of_len_pos (Nat.zero_lt_of_lt hiL)
    have hkeep : ∀ s'', h.Filled s'' → Hub.Filled { (h.shiftDown ((h.conns t).getD .nil) i).1 with
        conns := Function.update h.conns t o } s'' := fun s'' hs'' j hj => by
      show 0 < (Function.update h.arrays ((h.conns t).getD .nil).arr _ s''.arr).getD j 0
      rw [Function.update_apply]
      split
      next e =>
        rw [getD_shift hiL hL]
        split
        · exact hf (j + 1) (by omega)
        · exact e ▸ hs'' j hj
      · exact hs'' j hj
    refine ⟨ho.conn, fun t' s' hs' => ?_, fun b hb => ?_, fun a x hx hx0 => ?_, ho.sent⟩
    · dsimp only at hs'
      rw [Function.update_apply] at hs'
      split at hs'
      next e =>
        subst e
        obtain ⟨-, harr, hlen⟩ := hos s' hs'
        refine ⟨harr ▸ (ho.entry _ _ hcs).1, hkeep _ fun j hj => ?_⟩
        rw [harr]; exact hf j (by omega)
      · obtain ⟨ho', hf'⟩ := ho.entry t' s' hs'
        exact ⟨ho', hkeep _ hf'⟩
    · obtain ⟨hf', hown⟩ := ho.snap b hb
      exact ⟨hkeep _ hf', hown⟩
    · change x ∈ Function.update h.arrays _ _ a at hx
      rw [Function.update_apply] at hx
      split at hx
      · subst_vars; exact ho.cell _ x (mem_of_mem_shift hx) hx0
      · exact ho.cell a x hx hx0

/-- The end of a read loop runs `removeConn`. -/
theorem Hub.Owned.readEnds (ho : h.Owned ts owner) (c : ConnId) :
    (h.readEnds c).Owned ts owner := by
  unfold Hub.readEnds
  split
  · have hr := ho.removeConn ‹_› c
    exact ⟨hr.conn, hr.entry, hr.snap, hr.cell, hr.sent⟩
  · exact ho

/-! ## Runs -/

/-- **One step keeps the hub's arrays owned**, the connection a `HandleWS` opens counted. -/
theorem Hub.Owned.step (ho : h.Owned ts owner) (hw : h.Wf) :
    ∀ a, ∃ owner', (h.step gp a).Owned (ts ++ openedTrips [a]) owner'
  | .handleWS t => ho.handleWS gp hw t
  | .readEnds c => ⟨owner, by simpa [openedTrips, HubAct.opens] using ho.readEnds c⟩
  | .broadcastLocation t lat lng now =>
    ⟨owner, by simpa [openedTrips, HubAct.opens] using ho.broadcastLocation hw t lat lng now⟩
  | .deliver k => ⟨owner, by simpa [openedTrips, HubAct.opens] using ho.deliver k⟩

theorem Hub.Owned.run (ho : h.Owned ts owner) (hw : h.Wf) (acts : List HubAct) :
    ∃ owner', (h.run gp acts).Owned (ts ++ openedTrips acts) owner' := by
  induction acts generalizing h ts owner with
  | nil => exact ⟨owner, by simpa [openedTrips] using ho⟩
  | cons a acts ih =>
    obtain ⟨owner', ho'⟩ := ho.step gp hw a
    obtain ⟨owner'', ho''⟩ := ih ho' (hw.step_abs gp a).2
    refine ⟨owner'', ?_⟩
    rw [Hub.run_cons, show openedTrips (a :: acts) = openedTrips [a] ++ openedTrips acts from
      List.filterMap_append [a] acts _, ← List.append_assoc]
    exact ho''

end

/-- **A broadcast reaches only its own trip's connections.** Along every run of the hub, any
interleaving of `HandleWS`, ends of read loops, `BroadcastLocation` calls and the iterations
of their loops, every write of a loop goes to a connection that is not `nil`, and that
connection was opened by a `HandleWS` for the trip of the message: the `c`-th `HandleWS` of
the run opens connection `c`. -/
theorem broadcasts_stay_in_trip (gp : GrowPolicy) (acts : List HubAct) :
    ∀ p ∈ (Hub.init.run gp acts).sent, 0 < p.1 ∧ (openedTrips acts)[p.1 - 1]? = some p.2.tripId := by
  obtain ⟨owner, ho⟩ := Hub.Owned.init.run gp Hub.Wf.init acts
  exact ho.sent

/-- Two trips are watched, and a read loop of trip `a` ends while a broadcast on `a` runs:
the shifted loop writes to connection `3` twice, but `3` is `a`'s. -/
def twoTripsShifted : List HubAct :=
  [.handleWS "a", .handleWS "b", .handleWS "a", .broadcastLocation "a" 0 0 7, .deliver 0,
    .readEnds 1, .deliver 0]

theorem twoTripsShifted_stay :
    (3, ⟨"a", 0, 0, 7⟩) ∈ (Hub.init.run .doubling twoTripsShifted).sent ∧
      0 < 3 ∧ (openedTrips twoTripsShifted)[3 - 1]? = some "a" :=
  have h : (3, ⟨"a", 0, 0, 7⟩) ∈ (Hub.init.run .doubling twoTripsShifted).sent := by decide
  ⟨h, broadcasts_stay_in_trip .doubling twoTripsShifted _ h⟩

end RideService.Tracking
