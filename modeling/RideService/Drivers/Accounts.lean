import Mathlib.Data.Rat.Defs
import RideService.Db.Accounts
import RideService.Http.Validation

/-!
# Driver accounts: `POST /drivers/register` and `POST /drivers/login`

`Handler.Register` (`handler.go:39`) validates the body's name, email, phone and password, and
`Service.Register` (`part_003:27`) asks `SELECT EXISTS(… WHERE email=$1)`, hashes the
password with bcrypt and inserts the row. `Handler.Login` validates the email, and
`Service.Login` reads the row `WHERE email=$1` and checks the password against its hash.

The validators trim (`RideService.Http.validateTrimmed`); the queries and the `INSERT` use the
strings of the body as they are. So an account is keyed by its exact email and phone: after
`ann@ride.co` registers, ` ann@ride.co` registers a second account, and logging in with it
finds none (`spacedEmailSecondAccount`). What does hold is `exact_credentials_identify`.

The `drivers` table is an `AccountTable`: `id` is the `PRIMARY KEY`, `email` and `phone` are
`UNIQUE` (`V2_create_drivers.sql`). The `INSERT` casts every string to its `VARCHAR(n)`
column, which refuses a longer string unless what is past the `n`-th character is spaces,
which it cuts: an email of more than 200 characters is stored cut, and no `WHERE email=$1`
with the body's email finds it again.
-/

namespace RideService.Drivers

open RideService RideService.Http

/-- The body of `POST /drivers/register` (`model.go:20`). -/
structure RegisterRequest where
  name : String
  email : String
  phone : String
  password : String
  vehicleType : String
  licensePlate : String
  deriving DecidableEq, Repr

/-- The body of `POST /drivers/login` (`model.go:30`). -/
structure LoginRequest where
  email : String
  password : String
  deriving DecidableEq, Repr

/-- A row of `drivers` (`V2_create_drivers.sql`), and `drivers.Driver` (`model.go:6`).
`created_at` is left out. -/
structure DriverRow where
  id : Uuid
  name : String
  email : String
  phone : String
  passwordHash : String
  vehicleType : String
  licensePlate : String
  status : String
  rating : ℚ
  deriving DecidableEq, Repr

/-! ## The table -/

/-- The casts of the `INSERT`'s strings, in the order of its columns. -/
def castRow (row : DriverRow) : Except String DriverRow := do
  let name ← varcharCast 200 row.name
  let email ← varcharCast 200 row.email
  let phone ← varcharCast 50 row.phone
  let passwordHash ← varcharCast 255 row.passwordHash
  let vehicleType ← varcharCast 50 row.vehicleType
  let licensePlate ← varcharCast 20 row.licensePlate
  pure { row with name, email, phone, passwordHash, vehicleType, licensePlate }

/-- The `drivers` table. -/
abbrev DriversTable := AccountTable DriverRow DriverRow.id DriverRow.email DriverRow.phone

/-- `INSERT INTO drivers (…) VALUES (…)` (`part_003:45`): the casts, then the keys. -/
def DriversTable.insert (T : DriversTable) (row : DriverRow) : Except String DriversTable := do
  let row ← castRow row
  AccountTable.insert "drivers" T row

/-! ## The service and the handlers -/

/-- The row `Service.Register` inserts: `vehicle_type` defaults to `sedan`, the status is
`available` and the rating `5.0`. -/
def driverRow (req : RegisterRequest) (id : Uuid) (hash : String) : DriverRow where
  id := id
  name := req.name
  email := req.email
  phone := req.phone
  passwordHash := hash
  vehicleType := if req.vehicleType = "" then "sedan" else req.vehicleType
  licensePlate := req.licensePlate
  status := "available"
  rating := 5

/-- `Service.Register` (`part_003:27`): the table after it, and the `Driver` of its response,
which it builds from the request and which has no hash. `existsFails` is whether the
`SELECT EXISTS` query fails, whose error the code drops; `id` is the `uuid.New()` it draws,
whose canonical text the `uuid` column reads back as the same `uuid` (`uuidIn_uuidOut`).
The JWT it signs is left out. -/
def register (bcrypt : Bcrypt) (T : DriversTable) (req : RegisterRequest) (id : Uuid)
    (salt : Nat) (existsFails : Bool) : Except String (DriversTable × DriverRow) :=
  if !existsFails && T.rows.any (·.email == req.email) then .error "email already exists"
  else do
    let hash ← bcrypt.generate salt req.password
    let T ← T.insert (driverRow req id hash)
    pure (T, { driverRow req id hash with passwordHash := "" })

/-- `Service.Login` (`part_003:69`): the row whose `email` is the body's, without its hash,
which is scanned apart. -/
def login (bcrypt : Bcrypt) (T : DriversTable) (req : LoginRequest) : Except String DriverRow :=
  match T.rows.find? (·.email == req.email) with
  | none => .error "invalid credentials"
  | some d =>
    if bcrypt.compare d.passwordHash req.password then .ok { d with passwordHash := "" }
    else .error "invalid credentials"

/-- What a handler writes: the status, and the body's `error`, or the `driver` of its
`AuthResponse`. -/
structure Reply where
  status : Nat
  body : Except String DriverRow

/-- `Handler.Register` (`handler.go:39`), on a body that decodes. -/
def registerHandler (bcrypt : Bcrypt) (T : DriversTable) (req : RegisterRequest) (id : Uuid)
    (salt : Nat) (existsFails : Bool) : DriversTable × Reply :=
  if !validateName req.name then (T, ⟨400, .error "invalid name"⟩)
  else if !validateEmail req.email then (T, ⟨400, .error "invalid email"⟩)
  else if !validatePhone req.phone then (T, ⟨400, .error "invalid phone"⟩)
  else if !validatePassword req.password then
    (T, ⟨400, .error "password must be at least 6 characters"⟩)
  else match register bcrypt T req id salt existsFails with
    | .error e => (T, ⟨409, .error e⟩)
    | .ok (T', d) => (T', ⟨201, .ok d⟩)

/-- `Handler.Login` (`handler.go:69`), on a body that decodes. -/
def loginHandler (bcrypt : Bcrypt) (T : DriversTable) (req : LoginRequest) : Reply :=
  if !validateEmail req.email then ⟨400, .error "invalid email"⟩
  else match login bcrypt T req with
    | .error e => ⟨401, .error e⟩
    | .ok d => ⟨200, .ok d⟩

/-- A request to the two public routes, with the values `Register` draws and whether its
`SELECT EXISTS` fails. -/
inductive AccountAct
  | register (req : RegisterRequest) (id : Uuid) (salt : Nat) (existsFails : Bool)
  | login (req : LoginRequest)

/-- The table after a request. -/
def DriversTable.step (bcrypt : Bcrypt) (T : DriversTable) : AccountAct → DriversTable
  | .register req id salt existsFails => (registerHandler bcrypt T req id salt existsFails).1
  | .login _ => T

/-- The table after a run of requests. -/
def DriversTable.run (bcrypt : Bcrypt) (T : DriversTable) (acts : List AccountAct) : DriversTable :=
  acts.foldl (DriversTable.step bcrypt) T

/-! ## Casts and inserts -/

theorem castRow_ok {row row' : DriverRow} (h : castRow row = .ok row') :
    row'.id = row.id ∧ varcharCast 200 row.email = .ok row'.email ∧
      varcharCast 50 row.phone = .ok row'.phone ∧
      varcharCast 255 row.passwordHash = .ok row'.passwordHash := by
  simp only [castRow, except_bind_eq_ok] at h
  obtain ⟨_, -, email, he, phone, hp, hash, hh, _, -, _, -, h⟩ := h
  cases h
  exact ⟨rfl, he, hp, hh⟩

/-- **What an `INSERT` that goes through adds**: the cast row, in front. -/
theorem DriversTable.insert_ok {T T' : DriversTable} {row : DriverRow} (h : T.insert row = .ok T') :
    ∃ row', castRow row = .ok row' ∧ T'.rows = row' :: T.rows := by
  simp only [DriversTable.insert, except_bind_eq_ok] at h
  obtain ⟨row', hc, h⟩ := h
  exact ⟨row', hc, AccountTable.insert_ok h⟩

/-- **An `INSERT` whose cast email or phone is taken fails.** -/
theorem DriversTable.insert_taken {T T' : DriversTable} {row row' : DriverRow}
    (hc : castRow row = .ok row')
    (ht : row'.email ∈ T.rows.map DriverRow.email ∨ row'.phone ∈ T.rows.map DriverRow.phone) :
    T.insert row ≠ .ok T' := fun h => by
  simp only [DriversTable.insert, except_bind_eq_ok, hc, Except.ok.injEq] at h
  obtain ⟨_, rfl, h⟩ := h
  exact AccountTable.insert_taken ht h

/-! ## One request -/

section
variable {bcrypt : Bcrypt} {T T' : DriversTable} {req : RegisterRequest} {id : Uuid}
  {salt : Nat} {existsFails : Bool}

/-- **What a register can do.** It is refused and changes nothing, or it passed the validators
and `Service.Register` went through, and it is answered `201`. -/
theorem registerHandler_cases (bcrypt : Bcrypt) (T : DriversTable) (req : RegisterRequest)
    (id : Uuid) (salt : Nat) (existsFails : Bool) :
    ((registerHandler bcrypt T req id salt existsFails).1 = T ∧
        (registerHandler bcrypt T req id salt existsFails).2.status ≠ 201) ∨
      (validateEmail req.email ∧ ∃ d, register bcrypt T req id salt existsFails =
        .ok ((registerHandler bcrypt T req id salt existsFails).1, d) ∧
        (registerHandler bcrypt T req id salt existsFails).2.status = 201) := by
  generalize hres : registerHandler bcrypt T req id salt existsFails = res
  unfold registerHandler at hres
  split_ifs at hres with h₁ h₂ <;> try (subst hres; exact .inl ⟨rfl, by simp⟩)
  split at hres <;> rename_i hr <;> subst hres
  · exact .inl ⟨rfl, by simp⟩
  · exact .inr ⟨by simpa using h₂, _, hr, rfl⟩

/-- **A register that goes through** hashed the password and inserted its row. -/
theorem register_ok {d : DriverRow} (h : register bcrypt T req id salt existsFails = .ok (T', d)) :
    ∃ hash, bcrypt.generate salt req.password = .ok hash ∧ T.insert (driverRow req id hash) = .ok T' := by
  unfold register at h
  split_ifs at h
  simp only [except_bind_eq_ok, pure, Except.pure, Except.ok.injEq, Prod.mk.injEq] at h
  obtain ⟨hash, hg, T'', hi, rfl, -⟩ := h
  exact ⟨hash, hg, hi⟩

/-- **A register answered `201`** passed the validators, and inserted the cast of its row. -/
theorem registerHandler_created {reply : Reply}
    (h : registerHandler bcrypt T req id salt existsFails = (T', reply)) (hok : reply.status = 201) :
    validateEmail req.email ∧ ∃ hash row, bcrypt.generate salt req.password = .ok hash ∧
      castRow (driverRow req id hash) = .ok row ∧ T'.rows = row :: T.rows := by
  rcases registerHandler_cases bcrypt T req id salt existsFails with ⟨-, hne⟩ | ⟨hv, d, hr, -⟩ <;>
    rw [h] at *
  · exact absurd hok hne
  · obtain ⟨hash, hg, hi⟩ := register_ok hr
    obtain ⟨row, hc, hrows⟩ := DriversTable.insert_ok hi
    exact ⟨hv, hash, row, hg, hc, hrows⟩

/-- **A register whose email or phone a row holds is refused**, and changes nothing: the
validators answer `400`, or the `SELECT EXISTS`, bcrypt or the `INSERT` fail it with `409`.
The row holds the cast of the email or the phone. -/
theorem registerHandler_taken {r : DriverRow} (hr : r ∈ T.rows)
    (ht : varcharCast 200 req.email = .ok r.email ∨ varcharCast 50 req.phone = .ok r.phone) :
    (registerHandler bcrypt T req id salt existsFails).1 = T ∧
      (registerHandler bcrypt T req id salt existsFails).2.status ≠ 201 := by
  refine (registerHandler_cases bcrypt T req id salt existsFails).resolve_right
    fun ⟨_, d, hreg, _⟩ => ?_
  obtain ⟨hash, -, hi⟩ := register_ok hreg
  obtain ⟨row, hc, -⟩ := DriversTable.insert_ok hi
  obtain ⟨-, he, hp, -⟩ := castRow_ok hc
  refine DriversTable.insert_taken hc ?_ hi
  rcases ht with ht | ht
  · exact .inl (List.mem_map.2 ⟨r, hr, Except.ok.inj (ht.symm.trans he)⟩)
  · exact .inr (List.mem_map.2 ⟨r, hr, Except.ok.inj (ht.symm.trans hp)⟩)

end

section
variable {bcrypt : Bcrypt} {T : DriversTable}

/-- **A login finds the row with its exact email.** With the password of its hash, it is
answered `200`. -/
theorem loginHandler_ok {req : LoginRequest} {r : DriverRow} (hr : r ∈ T.rows)
    (he : r.email = req.email) (hv : validateEmail req.email)
    (hp : bcrypt.compare r.passwordHash req.password) :
    (loginHandler bcrypt T req).status = 200 := by
  have hf := AccountTable.find?_email hr
  rw [he] at hf
  simp [loginHandler, hv, login, hf, hp]

theorem step_rows_sub (a : AccountAct) : T.rows ⊆ (T.step bcrypt a).rows := by
  cases a with
  | login => exact List.Subset.refl _
  | register req id salt existsFails =>
    show T.rows ⊆ (registerHandler bcrypt T req id salt existsFails).1.rows
    rcases registerHandler_cases bcrypt T req id salt existsFails with ⟨h, -⟩ | ⟨-, d, hr, -⟩
    · rw [h]; exact List.Subset.refl _
    · obtain ⟨hash, -, hi⟩ := register_ok hr
      obtain ⟨row, -, hrows⟩ := DriversTable.insert_ok hi
      rw [hrows]
      exact List.subset_cons_self _ _

/-- No request removes an account. -/
theorem run_rows_sub (acts : List AccountAct) : T.rows ⊆ (T.run bcrypt acts).rows := by
  induction acts generalizing T with
  | nil => exact List.Subset.refl _
  | cons a acts ih => exact (step_rows_sub a).trans ih

end

/-- **Accounts are keyed by the exact strings of the request.** After a register answered
`201`, and any requests since: a register with the same email, or the same phone, is refused
and changes nothing; and a login with the same email and password is answered `200`, when the
email fits its `VARCHAR(200)` column as it is. -/
theorem exact_credentials_identify (bcrypt : Bcrypt) {T T₁ : DriversTable} {req : RegisterRequest}
    {id : Uuid} {salt : Nat} {existsFails : Bool} {reply : Reply}
    (h : registerHandler bcrypt T req id salt existsFails = (T₁, reply)) (hok : reply.status = 201)
    (acts : List AccountAct) :
    (∀ (req' : RegisterRequest) (id' : Uuid) (salt' : Nat) (existsFails' : Bool),
      req'.email = req.email ∨ req'.phone = req.phone →
        (registerHandler bcrypt (T₁.run bcrypt acts) req' id' salt' existsFails').1 = T₁.run bcrypt acts ∧
        (registerHandler bcrypt (T₁.run bcrypt acts) req' id' salt' existsFails').2.status ≠ 201) ∧
      (req.email.length ≤ 200 →
        (loginHandler bcrypt (T₁.run bcrypt acts) ⟨req.email, req.password⟩).status = 200) := by
  obtain ⟨hv, hash, row, hg, hc, hrows⟩ := registerHandler_created h hok
  have hmem : row ∈ (T₁.run bcrypt acts).rows := run_rows_sub acts (hrows ▸ List.mem_cons_self _ _)
  obtain ⟨-, he, hp, hh⟩ := castRow_ok hc
  refine ⟨fun req' id' salt' existsFails' hsame => registerHandler_taken hmem ?_, fun hlen => ?_⟩
  · rcases hsame with hsame | hsame
    · exact .inl (hsame ▸ he)
    · exact .inr (hsame ▸ hp)
  · have hemail : row.email = req.email :=
      Except.ok.inj (he.symm.trans (varcharCast_of_length_le hlen))
    have hfits : hash.length ≤ 255 := by rw [bcrypt.length_generate _ _ _ hg]; decide
    have hhash : row.passwordHash = hash :=
      Except.ok.inj (hh.symm.trans (varcharCast_of_length_le hfits))
    exact loginHandler_ok hmem hemail hv (hhash ▸ bcrypt.compare_generate _ _ _ hg)

/-! ## Runs on fixed inputs -/

/-- Ann registers. -/
def annRequest : RegisterRequest :=
  ⟨"Ann Driver", "ann@ride.co", "+15550001", "secret1", "", "AB123"⟩

/-- Bob registers with another email and phone. -/
def bobRequest : RegisterRequest :=
  ⟨"Bob Driver", "bob@ride.co", "+15550002", "secret2", "suv", "CD456"⟩

/-- The table once Ann has registered. -/
def annRegistered : DriversTable := (registerHandler Bcrypt.sample .empty annRequest (Uuid.sample 1) 0 false).1

/-- Ann registers, then Bob: Ann's email and phone stay taken, and she can log in. -/
theorem annRegistered_identified :
    (∀ (req' : RegisterRequest) (id' : Uuid) (salt' : Nat) (existsFails' : Bool),
      req'.email = annRequest.email ∨ req'.phone = annRequest.phone →
        (registerHandler Bcrypt.sample (annRegistered.run Bcrypt.sample
            [.register bobRequest (Uuid.sample 2) 1 false]) req' id' salt' existsFails').1 =
          annRegistered.run Bcrypt.sample [.register bobRequest (Uuid.sample 2) 1 false] ∧
        (registerHandler Bcrypt.sample (annRegistered.run Bcrypt.sample
            [.register bobRequest (Uuid.sample 2) 1 false]) req' id' salt' existsFails').2.status ≠ 201) ∧
      (annRequest.email.length ≤ 200 →
        (loginHandler Bcrypt.sample (annRegistered.run Bcrypt.sample [.register bobRequest (Uuid.sample 2) 1 false])
          ⟨annRequest.email, annRequest.password⟩).status = 200) :=
  exact_credentials_identify Bcrypt.sample
    (show registerHandler Bcrypt.sample .empty annRequest (Uuid.sample 1) 0 false =
      (annRegistered, (registerHandler Bcrypt.sample .empty annRequest (Uuid.sample 1) 0 false).2) from rfl)
    (by decide) _

/-- Ann's email with a leading space, and another phone. -/
def spacedEmail : RegisterRequest :=
  ⟨"Ann Driver", " ann@ride.co", "+15550002", "secret1", "", "AB123"⟩

/-- Another email, and Ann's phone with a trailing space. -/
def spacedPhone : RegisterRequest :=
  ⟨"Bob Driver", "bob@ride.co", "+15550001 ", "secret2", "", "CD456"⟩

/-- After Ann registers, ` ann@ride.co` passes the validator as `ann@ride.co` does, yet it
registers a second account, and a login with it and Ann's password is refused; `+15550001 `
registers a second account on Ann's phone. -/
theorem spacedEmailSecondAccount :
    (registerHandler Bcrypt.sample .empty annRequest (Uuid.sample 1) 0 false).2.status = 201 ∧
      trimSpace spacedEmail.email = trimSpace annRequest.email ∧ validateEmail spacedEmail.email ∧
      (registerHandler Bcrypt.sample annRegistered spacedEmail (Uuid.sample 2) 1 false).2.status = 201 ∧
      (loginHandler Bcrypt.sample annRegistered ⟨spacedEmail.email, annRequest.password⟩).status = 401 ∧
      trimSpace spacedPhone.phone = trimSpace annRequest.phone ∧ validatePhone spacedPhone.phone ∧
      (registerHandler Bcrypt.sample annRegistered spacedPhone (Uuid.sample 3) 2 false).2.status = 201 := by
  decide

end RideService.Drivers
