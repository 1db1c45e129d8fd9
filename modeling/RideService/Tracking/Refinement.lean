import Mathlib.Data.List.Nodup
import RideService.Tracking.Subscribers

/-!
# The Go hub implements the spec's

`Hub.abs` reads the spec's hub off the Go hub: a trip's subscribers are the first `len`
cells of its slice's backing array. `Hub.Wf.step_abs` shows that every step of the Go hub
is the spec's step for it (`HandleWS` subscribes, the end of a read loop unsubscribes, a
broadcast changes no set) as long as the hub is sound (`Hub.Wf`): each entry's slice fits
its array, and two entries never share an array. Both hold along every run from `NewHub`,
so `Subscribers.Inv` holds of the Go hub too, which gives `hub_conns_consistent`.

The one fact about Go slices the proofs rest on is `Hub.removeConn_of_some`: the
`append(conns[:i], conns[i+1:]...)` of `removeConn` shifts the cells after `i` down in
place, so the entry's cells lose exactly the first occurrence of the connection.
-/

namespace RideService.Tracking

open RideService

/-! ## Lists -/

private theorem take_append_cons {l r : List ConnId} {n : Nat} {x : ConnId}
    (h : n ≤ l.length) : (l.take n ++ x :: r).take (n + 1) = l.take n ++ [x] := by
  have hn : (l.take n).length = n := List.length_take_of_le h
  rw [List.take_append_eq_append_take, hn, List.take_of_length_le (by omega)]
  simp [show n + 1 - n = 1 by omega]

private theorem take_set_succ {l : List ConnId} {n : Nat} {x : ConnId} (h : n < l.length) :
    (l.set n x).take (n + 1) = l.take n ++ [x] := by
  rw [List.set_eq_take_append_cons_drop, if_pos h]
  exact take_append_cons h.le

private theorem shift_length {l : List ConnId} {i n : Nat} (hi : i < n) (hn : n ≤ l.length) :
    (l.take i ++ (l.take n).drop (i + 1) ++ l.drop (n - 1)).length = l.length := by
  simp only [List.length_append, List.length_take, List.length_drop]
  omega

private theorem take_shift {l : List ConnId} {i n : Nat} (hi : i < n) (hn : n ≤ l.length) :
    (l.take i ++ (l.take n).drop (i + 1) ++ l.drop (n - 1)).take (n - 1) =
      (l.take n).eraseIdx i := by
  have hlen : (l.take i ++ (l.take n).drop (i + 1)).length = n - 1 := by
    simp only [List.length_append, List.length_take, List.length_drop]; omega
  rw [List.take_append_eq_append_take, hlen, Nat.sub_self, List.take_zero, List.append_nil,
    List.take_of_length_le hlen.le, List.eraseIdx_eq_take_drop_succ, List.take_take,
    Nat.min_eq_left hi.le]

/-! ## The abstraction -/

/-- The spec's hub a Go hub implements. -/
def Hub.abs (h : Hub) : Subscribers :=
  ⟨fun t => (h.conns t).map fun s => h.cells s, h.live, h.nextConn⟩

/-- A trip's subscribers, `[]` for none, are the cells of its slice, `nil` for none. -/
theorem Hub.abs_subs_getD (h : Hub) (t : TripId) :
    (h.abs.subs t).getD [] = h.cells ((h.conns t).getD .nil) := by
  cases ht : h.conns t <;> simp [Hub.abs, ht, Hub.cells, Slice.nil]

/-- The Go hub's slices are sound: each fits its backing array, which is allocated, and two
entries never share one. -/
structure Hub.Wf (h : Hub) : Prop where
  sized : ∀ t s, h.conns t = some s → s.len ≤ s.cap ∧ (h.arrays s.arr).length = s.cap
  allocated : ∀ t s, h.conns t = some s → s.arr < h.nextArr
  apart : ∀ t t' s s', h.conns t = some s → h.conns t' = some s' → t ≠ t' → s.arr ≠ s'.arr

theorem Hub.Wf.init : Hub.init.Wf := ⟨fun _ _ h => (nomatch h), fun _ _ h => (nomatch h),
  fun _ _ _ _ h => (nomatch h)⟩

/-! ### Writing one entry

`HandleWS` and `removeConn` both write the entry of one trip and the backing array of its
slice, and leave the other entries' arrays as they were. -/

section
variable {h h' : Hub} {t : TripId} {o : Option Slice}
  (hconns : h'.conns = Function.update h.conns t o)
  (hkeep : ∀ t' s', t' ≠ t → h.conns t' = some s' → h'.arrays s'.arr = h.arrays s'.arr)
include hconns hkeep

/-- Writing the entry of `t` changes the spec's hub at `t` only. -/
theorem Hub.abs_subs_update : h'.abs.subs = Function.update h.abs.subs t (o.map h'.cells) := by
  funext t'
  by_cases e : t' = t
  · subst e; simp only [Hub.abs, hconns, Function.update_same]
  · simp only [Hub.abs, hconns, Function.update_noteq e]
    cases ht' : h.conns t' with
    | none => rfl
    | some s' => simp only [Option.map_some', Hub.cells, hkeep t' s' e ht']

/-- **Writing one entry keeps the hub sound** when the new slice fits its array, which is
allocated and no other entry's. -/
theorem Hub.Wf.update (hw : h.Wf) (hnext : h.nextArr ≤ h'.nextArr)
    (hnew : ∀ s, o = some s → (s.len ≤ s.cap ∧ (h'.arrays s.arr).length = s.cap) ∧
      s.arr < h'.nextArr ∧ ∀ t' s', t' ≠ t → h.conns t' = some s' → s'.arr ≠ s.arr) :
    h'.Wf := by
  /- an entry after the write is the new one, or another trip's as it was -/
  have hent : ∀ t' s', h'.conns t' = some s' →
      (t' = t ∧ o = some s') ∨ (t' ≠ t ∧ h.conns t' = some s') := by
    intro t' s' hs
    by_cases e : t' = t
    · subst e; rw [hconns, Function.update_same] at hs; exact .inl ⟨rfl, hs⟩
    · rw [hconns, Function.update_noteq e] at hs; exact .inr ⟨e, hs⟩
  refine ⟨fun t' s' hs => ?_, fun t' s' hs => ?_, fun t₁ t₂ s₁ s₂ h₁ h₂ hne => ?_⟩
  · rcases hent t' s' hs with ⟨-, ho⟩ | ⟨e, g⟩
    · exact (hnew s' ho).1
    · rw [hkeep t' s' e g]; exact hw.sized t' s' g
  · rcases hent t' s' hs with ⟨-, ho⟩ | ⟨-, g⟩
    · exact (hnew s' ho).2.1
    · exact (hw.allocated t' s' g).trans_le hnext
  · rcases hent t₁ s₁ h₁ with ⟨rfl, ho₁⟩ | ⟨e₁, g₁⟩ <;>
      rcases hent t₂ s₂ h₂ with ⟨rfl, ho₂⟩ | ⟨e₂, g₂⟩
    · exact absurd rfl hne
    · exact ((hnew s₁ ho₁).2.2 t₂ s₂ e₂ g₂).symm
    · exact (hnew s₂ ho₂).2.2 t₁ s₁ e₁ g₁
    · exact hw.apart t₁ t₂ s₁ s₂ g₁ g₂ hne

end

/-! ### `append` -/

section
variable (gp : GrowPolicy) (h : Hub) (s : Slice) (x : ConnId)

@[simp] theorem Hub.append_conns : (h.append gp s x).1.conns = h.conns := by
  unfold Hub.append; split <;> rfl

@[simp] theorem Hub.append_live : (h.append gp s x).1.live = h.live := by
  unfold Hub.append; split <;> rfl

@[simp] theorem Hub.append_nextConn : (h.append gp s x).1.nextConn = h.nextConn := by
  unfold Hub.append; split <;> rfl

/-- `append` writes only the backing array of the slice it returns. -/
theorem Hub.append_arrays_ne {a : Nat} (ha : a ≠ (h.append gp s x).2.arr) :
    (h.append gp s x).1.arrays a = h.arrays a := by
  by_cases hlt : s.len < s.cap <;> simp only [Hub.append, hlt, if_true, if_false] at ha ⊢ <;>
    exact Function.update_noteq ha _ _

/-- `append` writes in place, or into the array at the next free address. -/
theorem Hub.append_arr :
    (s.len < s.cap ∧ (h.append gp s x).2.arr = s.arr ∧ (h.append gp s x).1.nextArr = h.nextArr) ∨
      ((h.append gp s x).2.arr = h.nextArr ∧ (h.append gp s x).1.nextArr = h.nextArr + 1) := by
  unfold Hub.append
  split
  · exact .inl ⟨‹_›, rfl, rfl⟩
  · exact .inr ⟨rfl, rfl⟩

variable {h s} (hc : s.len < s.cap → (h.arrays s.arr).length = s.cap)
  (hl : s.len ≤ (h.arrays s.arr).length)
include hc hl

/-- The cells after `append` are the old ones and `x`. -/
theorem Hub.append_cells :
    ((h.append gp s x).1.arrays (h.append gp s x).2.arr).take (h.append gp s x).2.len =
      h.cells s ++ [x] := by
  unfold Hub.append Hub.cells
  split
  · simp only [Function.update_same]
    exact take_set_succ (by omega)
  · simp only [Function.update_same]
    exact take_append_cons hl

/-- The slice `append` returns fits its array. -/
theorem Hub.append_sized (hs : s.len ≤ s.cap) :
    (h.append gp s x).2.len ≤ (h.append gp s x).2.cap ∧
      ((h.append gp s x).1.arrays (h.append gp s x).2.arr).length = (h.append gp s x).2.cap := by
  unfold Hub.append
  have := gp.grows s.cap
  split
  · simp only [Function.update_same, List.length_set]; omega
  · simp only [Function.update_same, List.length_append, List.length_take, List.length_cons,
      List.length_replicate]
    omega

end

/-! ### `HandleWS` -/

section
variable (gp : GrowPolicy) (h : Hub) (t : TripId)

@[simp] theorem Hub.handleWS_conns : (h.handleWS gp t).conns =
    Function.update h.conns t (some (h.append gp ((h.conns t).getD .nil) h.nextConn).2) := rfl
@[simp] theorem Hub.handleWS_arrays : (h.handleWS gp t).arrays =
    (h.append gp ((h.conns t).getD .nil) h.nextConn).1.arrays := rfl
@[simp] theorem Hub.handleWS_nextArr : (h.handleWS gp t).nextArr =
    (h.append gp ((h.conns t).getD .nil) h.nextConn).1.nextArr := rfl
@[simp] theorem Hub.handleWS_live :
    (h.handleWS gp t).live = Function.update h.live h.nextConn (some t) := rfl
@[simp] theorem Hub.handleWS_nextConn : (h.handleWS gp t).nextConn = h.nextConn + 1 := rfl

end

section
variable (gp : GrowPolicy) {h : Hub}

/-- The slice of an entry, `nil` for none, fits its array. -/
theorem Hub.Wf.getD_fits (hw : h.Wf) (t : TripId) :
    ((h.conns t).getD .nil).len ≤ ((h.conns t).getD .nil).cap ∧
      (((h.conns t).getD .nil).len < ((h.conns t).getD .nil).cap →
        (h.arrays ((h.conns t).getD .nil).arr).length = ((h.conns t).getD .nil).cap) ∧
      ((h.conns t).getD .nil).len ≤ (h.arrays ((h.conns t).getD .nil).arr).length := by
  cases ht : h.conns t with
  | none => exact ⟨le_rfl, fun h => absurd h (by decide), Nat.zero_le _⟩
  | some s => obtain ⟨h1, h2⟩ := hw.sized t s ht; exact ⟨h1, fun _ => h2, h2 ▸ h1⟩

/-- A slice with room is an entry's, not `nil`. -/
theorem Hub.conns_of_lt_cap {t : TripId} (hlt : ((h.conns t).getD .nil).len < ((h.conns t).getD .nil).cap) :
    h.conns t = some ((h.conns t).getD .nil) := by
  cases ht : h.conns t with
  | none => rw [ht] at hlt; exact absurd hlt (by decide)
  | some s => rfl

/-- **`HandleWS` subscribes.** -/
theorem Hub.Wf.handleWS_abs (hw : h.Wf) (t : TripId) :
    (h.handleWS gp t).abs = h.abs.subscribe t ∧ (h.handleWS gp t).Wf := by
  obtain ⟨hs, hc, hl⟩ := hw.getD_fits t
  have harr := Hub.append_arr gp h ((h.conns t).getD .nil) h.nextConn
  have hin := Hub.conns_of_lt_cap (h := h) (t := t)
  /- no other entry uses the array `append` wrote -/
  have hother : ∀ t' s', t' ≠ t → h.conns t' = some s' →
      s'.arr ≠ (h.append gp ((h.conns t).getD .nil) h.nextConn).2.arr := by
    intro t' s' hne' ht'
    rcases harr with ⟨hlt, harr, -⟩ | ⟨harr, -⟩ <;> rw [harr]
    · exact hw.apart t' t s' _ ht' (hin hlt) hne'
    · exact (hw.allocated t' s' ht').ne
  have hkeep : ∀ t' s', t' ≠ t → h.conns t' = some s' →
      (h.handleWS gp t).arrays s'.arr = h.arrays s'.arr := fun t' s' e g =>
    Hub.append_arrays_ne gp h _ _ (hother t' s' e g)
  have hnext : h.nextArr ≤ (h.append gp ((h.conns t).getD .nil) h.nextConn).1.nextArr ∧
      (h.append gp ((h.conns t).getD .nil) h.nextConn).2.arr <
        (h.append gp ((h.conns t).getD .nil) h.nextConn).1.nextArr := by
    rcases harr with ⟨hlt, harr, hn⟩ | ⟨harr, hn⟩ <;> rw [harr, hn]
    · exact ⟨le_rfl, hw.allocated t _ (hin hlt)⟩
    · omega
  refine ⟨?_, hw.update (Hub.handleWS_conns gp h t) hkeep hnext.1 fun s hs' => ?_⟩
  · have hsubs := Hub.abs_subs_update (Hub.handleWS_conns gp h t) hkeep
    rw [Option.map_some', show (h.handleWS gp t).cells _ = _ from
      Hub.append_cells gp h.nextConn hc hl, ← Hub.abs_subs_getD] at hsubs
    show Subscribers.mk (h.handleWS gp t).abs.subs _ _ = _
    rw [hsubs]; rfl
  · cases hs'
    exact ⟨Hub.append_sized gp h.nextConn hc hl hs, hnext.2, hother⟩

end

/-! ### `removeConn` -/

private theorem indexOf?_eq_some {l : List ConnId} {c i : Nat} (h : l.indexOf? c = some i) :
    i < l.length ∧ l.eraseIdx i = l.erase c := by
  refine ⟨(List.findIdx?_eq_some_iff_getElem.mp h).1, ?_⟩
  rw [← List.eraseIdx_indexOf_eq_erase, List.indexOf_eq_indexOf?, h]

private theorem erase_of_indexOf?_eq_none {l : List ConnId} {c : Nat}
    (h : l.indexOf? c = none) : l.erase c = l :=
  List.erase_of_not_mem fun hc => by simpa using List.indexOf?_eq_none_iff.mp h c hc

/-- `removeConn` on a trip with no entry changes nothing. -/
theorem Hub.removeConn_of_none {h : Hub} {t : TripId} (ht : h.conns t = none) (c : ConnId) :
    h.removeConn t c = h := by
  have hu : Function.update h.conns t none = h.conns := Function.update_eq_self_iff.mpr ht.symm
  simp [Hub.removeConn, ht, Hub.cells, Slice.nil, hu]

/-- **What `removeConn` does to an entry.** The first occurrence of the connection leaves
its cells, in place in the same backing array, and an entry left empty is deleted. -/
theorem Hub.removeConn_of_some {h : Hub} {t : TripId} {s : Slice} (ht : h.conns t = some s)
    (hs : s.len ≤ (h.arrays s.arr).length) (c : ConnId) :
    ∃ a, h.removeConn t c = { h with
        conns := Function.update h.conns t (if (h.cells s).erase c = [] then none
          else some { s with len := ((h.cells s).erase c).length })
        arrays := Function.update h.arrays s.arr a } ∧
      a.length = (h.arrays s.arr).length ∧
      a.take ((h.cells s).erase c).length = (h.cells s).erase c := by
  have hlen : (h.cells s).length = s.len := by simp [Hub.cells, hs]
  cases hi : (h.cells s).indexOf? c with
  | none =>
    have he := erase_of_indexOf?_eq_none hi
    refine ⟨h.arrays s.arr, ?_, rfl, by rw [he, hlen]; rfl⟩
    by_cases h0 : s.len = 0
    · simp [Hub.removeConn, ht, hi, he, h0, ← List.length_eq_zero, hlen]
    · have hu : Function.update h.conns t (some s) = h.conns :=
        Function.update_eq_self_iff.mpr ht.symm
      simp [Hub.removeConn, ht, hi, he, h0, ← List.length_eq_zero, hlen]
      rw [hu]
  | some i =>
    obtain ⟨hil, he⟩ := indexOf?_eq_some hi
    have hl : ((h.cells s).erase c).length = s.len - 1 := by
      rw [← he, List.length_eraseIdx_of_lt hil, hlen]
    rw [hlen] at hil
    refine ⟨_, ?_, shift_length hil hs, ?_⟩
    · by_cases h0 : s.len - 1 = 0
      · simp [Hub.removeConn, Hub.shiftDown, ht, hi, h0, ← List.length_eq_zero, hl]
      · simp [Hub.removeConn, Hub.shiftDown, ht, hi, h0, ← List.length_eq_zero, hl]
    · rw [hl, take_shift hil hs, ← he]; rfl

/-- **The end of a read loop unsubscribes.** -/
theorem Hub.Wf.readEnds_abs {h : Hub} (hw : h.Wf) (c : ConnId) :
    (h.readEnds c).abs = h.abs.unsubscribe c ∧ (h.readEnds c).Wf := by
  cases hc : h.live c with
  | none =>
    have hl : h.abs.live c = none := hc
    simp only [Hub.readEnds, Subscribers.unsubscribe, hc, hl]
    exact ⟨trivial, hw⟩
  | some t =>
    have hl : h.abs.live c = some t := hc
    have hr : h.readEnds c = { h.removeConn t c with live := Function.update h.live c none } := by
      simp only [Hub.readEnds, hc]
    simp only [Subscribers.unsubscribe, hl, Hub.abs_subs_getD]
    cases ht : h.conns t with
    | none =>
      have hu : Function.update h.abs.subs t none = h.abs.subs :=
        Function.update_eq_self_iff.mpr (by simp [Hub.abs, ht])
      simp only [hr, Hub.removeConn_of_none ht, Option.getD_none, Hub.cells, Slice.nil,
        List.take_zero, List.erase_nil, if_true, hu]
      exact ⟨rfl, hw.1, hw.2, hw.3⟩
    | some s =>
      obtain ⟨hs, hsa⟩ := hw.sized t s ht
      obtain ⟨a, he, ha, hta⟩ := Hub.removeConn_of_some ht (hsa ▸ hs) c
      rw [he] at hr
      have hconns : (h.readEnds c).conns = Function.update h.conns t
          (if (h.cells s).erase c = [] then none
            else some { s with len := ((h.cells s).erase c).length }) := by rw [hr]
      have harrays : (h.readEnds c).arrays = Function.update h.arrays s.arr a := by rw [hr]
      have hnext : (h.readEnds c).nextArr = h.nextArr := by rw [hr]
      have hkeep : ∀ t' s', t' ≠ t → h.conns t' = some s' →
          (h.readEnds c).arrays s'.arr = h.arrays s'.arr := fun t' s' e g => by
        rw [harrays, Function.update_noteq (hw.apart t' t s' s g ht e)]
      have hll : ((h.cells s).erase c).length ≤ s.len :=
        (List.length_erase_le _ _).trans (by simp [Hub.cells])
      have hcells : (h.readEnds c).cells { s with len := ((h.cells s).erase c).length } =
          (h.cells s).erase c := by
        show ((h.readEnds c).arrays s.arr).take _ = _
        rw [harrays, Function.update_same, hta]
      refine ⟨?_, hw.update hconns hkeep hnext.ge fun s' hs' => ?_⟩
      · show Subscribers.mk (h.readEnds c).abs.subs (h.readEnds c).live (h.readEnds c).nextConn = _
        rw [Hub.abs_subs_update hconns hkeep, apply_ite (Option.map _), Option.map_some', hcells,
          Option.map_none', hr]
        rfl
      · split at hs' <;> cases hs'
        exact ⟨⟨hll.trans hs, by rw [harrays, Function.update_same, ha, hsa]⟩,
          hnext ▸ hw.allocated t s ht, fun t' s' e g => hw.apart t' t s' s g ht e⟩

/-! ### Broadcasts -/

/-- A delivery writes only the broadcasts and what they sent. -/
theorem Hub.deliver_eq (h : Hub) (k : Nat) :
    ∃ bs sent, h.deliver k = { h with broadcasts := bs, sent := sent } := by
  unfold Hub.deliver
  split
  · split
    · exact ⟨_, _, rfl⟩
    · exact ⟨h.broadcasts, h.sent, rfl⟩
  · exact ⟨h.broadcasts, h.sent, rfl⟩

/-! ## Runs -/

/-- **The Go hub implements the spec's.** A step of a sound hub is the spec's step for it,
and leaves the hub sound. -/
theorem Hub.Wf.step_abs (gp : GrowPolicy) {h : Hub} (hw : h.Wf) :
    ∀ a, (h.step gp a).abs = h.abs.step a ∧ (h.step gp a).Wf
  | .handleWS t => hw.handleWS_abs gp t
  | .readEnds c => hw.readEnds_abs c
  | .broadcastLocation .. => ⟨rfl, hw.1, hw.2, hw.3⟩
  | .deliver k => by
    obtain ⟨bs, sent, he⟩ := h.deliver_eq k
    show (h.deliver k).abs = h.abs ∧ (h.deliver k).Wf
    rw [he]
    exact ⟨rfl, hw.1, hw.2, hw.3⟩

theorem Hub.Wf.run_abs (gp : GrowPolicy) {h : Hub} (hw : h.Wf) (acts : List HubAct) :
    (h.run gp acts).abs = h.abs.run acts ∧ (h.run gp acts).Wf := by
  induction acts generalizing h with
  | nil => exact ⟨rfl, hw⟩
  | cons a acts ih =>
    obtain ⟨he, hw'⟩ := hw.step_abs gp a
    simpa only [Hub.run_cons, Subscribers.run_cons, he] using ih hw'

/-- **The hub's map is consistent.** Take any run of `HandleWS` calls, ends of read loops and
broadcasts from `NewHub`, and the spec's record of the same run (`Subscribers`), in which a
`HandleWS` subscribes a fresh connection to its trip and the end of a read loop unsubscribes
its connection. Then the Go hub's `conns` maps no trip to an empty slice; a connection is in
the map iff the spec has it subscribed and not yet unsubscribed; and then it is in its own
trip's slice exactly once, and in no other trip's. -/
theorem hub_conns_consistent (gp : GrowPolicy) (acts : List HubAct) :
    let h := Hub.init.run gp acts
    let spec := Subscribers.init.run acts
    (∀ t s, h.conns t = some s → h.cells s ≠ []) ∧
    (∀ c, (∃ t s, h.conns t = some s ∧ c ∈ h.cells s) ↔ spec.live c ≠ none) ∧
    (∀ c t, spec.live c = some t → ∃ s, h.conns t = some s ∧ (h.cells s).count c = 1 ∧
      ∀ t' s', h.conns t' = some s' → c ∈ h.cells s' → t' = t) := by
  intro h spec
  obtain ⟨habs, -⟩ : h.abs = spec ∧ h.Wf := Hub.Wf.init.run_abs gp acts
  /- the Go hub's read loops are the spec's subscriptions -/
  rw [show spec.live = h.live from habs ▸ rfl]
  have hi : h.abs.Inv := by rw [habs]; exact Subscribers.Inv.init.run acts
  /- a connection reading for `t` is one of `t`'s readers -/
  have hlive : ∀ c t, h.live c = some t → c ∈ h.abs.readers t := fun c t hc =>
    Subscribers.mem_readers.mpr
      ⟨Nat.lt_of_not_le fun hn => Option.some_ne_none t (hc.symm.trans (hi.fresh c hn)), hc⟩
  /- an entry's cells are its trip's readers -/
  have hentry : ∀ t s, h.conns t = some s → h.cells s = h.abs.readers t ∧ h.abs.readers t ≠ [] := by
    intro t s hs
    have := hi.subs t
    simp only [Hub.abs, hs, Option.map_some'] at this
    split at this
    · cases this
    · exact ⟨Option.some.inj this, ‹_›⟩
  /- a trip someone reads for has an entry -/
  have hconn : ∀ c t, h.live c = some t → ∃ s, h.conns t = some s ∧ h.cells s = h.abs.readers t := by
    intro c t hc
    have := hi.subs t
    rw [if_neg (List.ne_nil_of_mem (hlive c t hc))] at this
    exact Option.map_eq_some'.mp this
  refine ⟨fun t s hs => (hentry t s hs).1 ▸ (hentry t s hs).2, fun c => ⟨?_, fun hc => ?_⟩,
    fun c t hc => ?_⟩
  · rintro ⟨t, s, hs, hc⟩ hn
    rw [(hentry t s hs).1, Subscribers.mem_readers] at hc
    exact Option.some_ne_none t (hc.2.symm.trans hn)
  · obtain ⟨t, ht⟩ := Option.ne_none_iff_exists'.mp hc
    obtain ⟨s, hs, he⟩ := hconn c t ht
    exact ⟨t, s, hs, he ▸ hlive c t ht⟩
  · obtain ⟨s, hs, he⟩ := hconn c t hc
    refine ⟨s, hs, he ▸ List.count_eq_one_of_mem Subscribers.readers_nodup (hlive c t hc),
      fun t' s' hs' hc' => ?_⟩
    rw [(hentry t' s' hs').1, Subscribers.mem_readers] at hc'
    exact Option.some.inj (hc'.2.symm.trans hc)

end RideService.Tracking
