import RideService.Trips.Model

/-!
# The tracking hub, with Go's slices

`tracking.Hub` (`src/unnamed/part_004:36`) maps a trip id to a `[]*safeConn`. A Go slice
is a header — backing array, length, capacity — and `append` writes into the backing array
in place when the capacity allows, so two slice values can share cells. `BroadcastLocation`
copies the header of `conns[t]` under the read lock and iterates over it after releasing
the lock, while `removeConn` shifts the same array in place under the write lock. To say
what that does, the hub here keeps the backing arrays themselves (`Hub.arrays`) and the
headers (`Slice`).

* `Hub.handleWS` is `HandleWS` after a successful upgrade: a fresh connection, appended to
  its trip's slice; its handler then sits in its read loop (`Hub.live`).
* `Hub.readEnds` is the end of that read loop: `removeConn`, and the handler is done.
* `Hub.broadcastLocation` is `BroadcastLocation` up to its `RUnlock`: the header it copied
  and the message; `Hub.deliver` is one iteration of its loop, which reads the cell at the
  next index of the copied header and writes the message there (`Hub.sent`).

Pointers are addresses: connections are numbered from `1`, and `0` is `nil`, the value of
the cells of a new backing array past the ones `append` copies in. How much capacity the
runtime gives a new backing array is the parameter `GrowPolicy`: the Go spec only says
that it makes room.
-/

namespace RideService.Tracking

open RideService

/-- A `*safeConn`, by address; `0` is `nil`. -/
abbrev ConnId := Nat

/-- A slice header of the hub: its backing array (by address), length and capacity. Every
slice the hub builds starts at index `0` of its array. -/
structure Slice where
  arr : Nat
  len : Nat
  cap : Nat
  deriving DecidableEq, Repr

/-- The `nil` slice, what `h.conns[t]` reads for a trip with no entry. -/
def Slice.nil : Slice := ⟨0, 0, 0⟩

/-- The capacity the runtime gives the new backing array of an `append` that does not fit
in the old one: any policy that makes room. -/
structure GrowPolicy where
  grow : Nat → Nat
  grows : ∀ c, c < grow c

/-- The message `BroadcastLocation` builds (`part_004:90`): `{trip_id, lat, lng, ts}`. -/
structure LocationMsg where
  tripId : TripId
  lat : ℚ
  lng : ℚ
  ts : Nat
  deriving DecidableEq, Repr

/-- A `BroadcastLocation` call past its `RUnlock`: the message, the header it copied, and
the index its loop reads next. -/
structure Broadcast where
  msg : LocationMsg
  snap : Slice
  next : Nat
  deriving DecidableEq, Repr

/-- The hub, its backing arrays, its goroutines, and what they have written. -/
structure Hub where
  /-- `h.conns`. -/
  conns : TripId → Option Slice
  /-- The backing arrays by address. -/
  arrays : Nat → List ConnId
  /-- The next address a new backing array gets. -/
  nextArr : Nat
  /-- The next address a new `safeConn` gets. -/
  nextConn : ConnId
  /-- The trip a connection's `HandleWS` is reading for, while it is in its read loop. -/
  live : ConnId → Option TripId
  /-- The `BroadcastLocation` calls past their snapshot. -/
  broadcasts : List Broadcast
  /-- Every `writeJSON` of a broadcast, in order: the connection and the message. -/
  sent : List (ConnId × LocationMsg)

/-- The hub of `NewHub`, before any connection. -/
def Hub.init : Hub where
  conns _ := none
  arrays _ := []
  nextArr := 1
  nextConn := 1
  live _ := none
  broadcasts := []
  sent := []

section
variable (gp : GrowPolicy)

/-- `append(s, x)`: in place when `s.len < s.cap`; otherwise into a new backing array, with
the first `s.len` cells copied and the rest `nil`. -/
def Hub.append (h : Hub) (s : Slice) (x : ConnId) : Hub × Slice :=
  if s.len < s.cap then
    ({ h with arrays := Function.update h.arrays s.arr ((h.arrays s.arr).set s.len x) },
      { s with len := s.len + 1 })
  else
    ({ h with
        arrays := Function.update h.arrays h.nextArr
          ((h.arrays s.arr).take s.len ++ x :: List.replicate (gp.grow s.cap - s.len - 1) 0)
        nextArr := h.nextArr + 1 },
      ⟨h.nextArr, s.len + 1, gp.grow s.cap⟩)

/-- `HandleWS` (`part_004:55`) after a successful upgrade: a new `safeConn`, appended to
`conns[tripID]` under the lock; its handler then blocks in its read loop. -/
def Hub.handleWS (h : Hub) (tripID : TripId) : Hub :=
  let r := h.append gp ((h.conns tripID).getD .nil) h.nextConn
  { r.1 with
    conns := Function.update h.conns tripID (some r.2)
    nextConn := h.nextConn + 1
    live := Function.update h.live h.nextConn (some tripID) }

end

/-- The cells of a slice. -/
def Hub.cells (h : Hub) (s : Slice) : List ConnId := (h.arrays s.arr).take s.len

/-- `append(conns[:i], conns[i+1:]...)`. `conns[:i]` has the capacity of `conns`, so the
`len - i - 1` cells after `i` move one down in place; the last cell keeps its old value. -/
def Hub.shiftDown (h : Hub) (s : Slice) (i : Nat) : Hub × Slice :=
  let a := h.arrays s.arr
  ({ h with arrays := Function.update h.arrays s.arr (a.take i ++ (a.take s.len).drop (i + 1) ++
      a.drop (s.len - 1)) }, { s with len := s.len - 1 })

/-- `Hub.removeConn` (`part_004:104`): the first cell holding `conn` is removed by
`shiftDown`, and the entry is deleted if its slice is then empty. -/
def Hub.removeConn (h : Hub) (tripID : TripId) (conn : ConnId) : Hub :=
  let conns := (h.conns tripID).getD .nil
  let h₁ := match (h.cells conns).indexOf? conn with
    | some i =>
      let r := h.shiftDown conns i
      { r.1 with conns := Function.update h.conns tripID (some r.2) }
    | none => h
  if ((h₁.conns tripID).getD .nil).len = 0 then
    { h₁ with conns := Function.update h₁.conns tripID none }
  else h₁

/-- The read loop of connection `c` ends (a read error or a close): its handler runs
`removeConn` for its trip and returns. -/
def Hub.readEnds (h : Hub) (c : ConnId) : Hub :=
  match h.live c with
  | some t => { h.removeConn t c with live := Function.update h.live c none }
  | none => h

/-- `BroadcastLocation` (`part_004:85`) up to its `RUnlock`: the header of `conns[tripID]`
is copied; the loop runs later, one `deliver` at a time. -/
def Hub.broadcastLocation (h : Hub) (tripID : TripId) (lat lng : ℚ) (ts : Nat) : Hub :=
  { h with broadcasts := h.broadcasts ++ [⟨⟨tripID, lat, lng, ts⟩, (h.conns tripID).getD .nil, 0⟩] }

/-- One iteration of the loop of broadcast `k`: `range` fixed the length when it copied the
header, and reads the cell at the next index now. A failed write is only logged. -/
def Hub.deliver (h : Hub) (k : Nat) : Hub :=
  match h.broadcasts[k]? with
  | some b =>
    if b.next < b.snap.len then
      { h with
        sent := h.sent ++ [((h.arrays b.snap.arr).getD b.next 0, b.msg)]
        broadcasts := h.broadcasts.set k { b with next := b.next + 1 } }
    else h
  | none => h

/-! Only a broadcast's loop writes to a connection. -/

section
variable (gp : GrowPolicy) (h : Hub)

@[simp] theorem Hub.handleWS_sent (t : TripId) : (h.handleWS gp t).sent = h.sent := by
  unfold Hub.handleWS Hub.append; split <;> rfl

@[simp] theorem Hub.handleWS_broadcasts (t : TripId) :
    (h.handleWS gp t).broadcasts = h.broadcasts := by
  unfold Hub.handleWS Hub.append; split <;> rfl

theorem Hub.removeConn_sent_broadcasts (t : TripId) (c : ConnId) :
    (h.removeConn t c).sent = h.sent ∧ (h.removeConn t c).broadcasts = h.broadcasts := by
  unfold Hub.removeConn
  dsimp only
  split <;> split <;> exact ⟨rfl, rfl⟩

@[simp] theorem Hub.readEnds_sent (c : ConnId) : (h.readEnds c).sent = h.sent := by
  unfold Hub.readEnds; split
  · exact (h.removeConn_sent_broadcasts _ c).1
  · rfl

@[simp] theorem Hub.readEnds_broadcasts (c : ConnId) :
    (h.readEnds c).broadcasts = h.broadcasts := by
  unfold Hub.readEnds; split
  · exact (h.removeConn_sent_broadcasts _ c).2
  · rfl

end

/-- The steps of the hub's goroutines. -/
inductive HubAct
  | handleWS (t : TripId)
  | readEnds (c : ConnId)
  | broadcastLocation (t : TripId) (lat lng : ℚ) (ts : Nat)
  | deliver (k : Nat)
  deriving DecidableEq, Repr

/-- One step of the hub. -/
def Hub.step (gp : GrowPolicy) (h : Hub) : HubAct → Hub
  | .handleWS t => h.handleWS gp t
  | .readEnds c => h.readEnds c
  | .broadcastLocation t lat lng ts => h.broadcastLocation t lat lng ts
  | .deliver k => h.deliver k

/-- The hub after a run of steps. -/
def Hub.run (gp : GrowPolicy) (h : Hub) (acts : List HubAct) : Hub := acts.foldl (Hub.step gp) h

@[simp] theorem Hub.run_nil (gp : GrowPolicy) (h : Hub) : h.run gp [] = h := rfl

@[simp] theorem Hub.run_cons (gp : GrowPolicy) (h : Hub) (a : HubAct) (acts : List HubAct) :
    h.run gp (a :: acts) = (h.step gp a).run gp acts := rfl

/-- The runtime's growth for a small slice of pointers: capacity `1`, then doubled. -/
def GrowPolicy.doubling : GrowPolicy :=
  ⟨fun c => if c = 0 then 1 else 2 * c, fun c => by dsimp only; split <;> omega⟩

/-- Three connections subscribe to `t` (the slice ends with capacity `4`), a broadcast
copies the header and writes to the first, the first's read loop ends, and the broadcast
loop runs on. -/
def shiftedBroadcast : List HubAct :=
  [.handleWS "t", .handleWS "t", .handleWS "t", .broadcastLocation "t" 0 0 7, .deliver 0,
    .readEnds 1, .deliver 0, .deliver 0]

/-- **A broadcast's loop follows the shift of `removeConn`.** In `shiftedBroadcast`, the
copied slice holds connections `1, 2, 3`; `removeConn` shifts the array the copy shares, so
the loop's next two reads find `3` twice and never `2`, although `2` and `3` are still
subscribed when the loop ends. -/
theorem broadcastLocation_shifted_snapshot :
    (Hub.init.run .doubling (shiftedBroadcast.take 4)).broadcasts = [⟨⟨"t", 0, 0, 7⟩, ⟨3, 3, 4⟩, 0⟩] ∧
      (Hub.init.run .doubling (shiftedBroadcast.take 4)).cells ⟨3, 3, 4⟩ = [1, 2, 3] ∧
      (Hub.init.run .doubling shiftedBroadcast).broadcasts = [⟨⟨"t", 0, 0, 7⟩, ⟨3, 3, 4⟩, 3⟩] ∧
      (Hub.init.run .doubling shiftedBroadcast).live 2 = some "t" ∧
      (Hub.init.run .doubling shiftedBroadcast).live 3 = some "t" ∧
      (Hub.init.run .doubling shiftedBroadcast).sent =
        [(1, ⟨"t", 0, 0, 7⟩), (3, ⟨"t", 0, 0, 7⟩), (3, ⟨"t", 0, 0, 7⟩)] := by
  decide

end RideService.Tracking
