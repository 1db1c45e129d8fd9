import Mathlib.Data.List.Nodup
import RideService.Db.Types

/-!
# Account tables: `users` and `drivers`

`users` (its `CREATE TABLE` is at `src/ride-service/migrations/V2_create_drivers.sql:16`) and
`drivers` (`V2_create_drivers.sql:1`) have the same keys: `id UUID PRIMARY KEY`,
`email VARCHAR(200) UNIQUE` and `phone VARCHAR(50) UNIQUE`. An `INSERT` into either checks
the keys in the order PostgreSQL built their indexes, and fails on the first one the table
already holds, naming its constraint (`AccountTable.insert`). No statement of the code
deletes an account or changes a key, so what a table holds only grows
(`AccountTable.insert_ok`): a foreign key to it, once satisfied, stays satisfied.

Both services hash passwords with bcrypt (`Bcrypt`) and cast the strings of their `INSERT`
to the `VARCHAR(n)` of the columns (`varcharCast`).
-/

namespace RideService

/-- `bcrypt.GenerateFromPassword`, with the salt it draws, and `bcrypt.CompareHashAndPassword`,
by what the code relies on: a password matches a hash generated from it, and a hash has the
60 characters of bcrypt's encoding. -/
structure Bcrypt where
  generate : Nat → String → Except String String
  compare : String → String → Bool
  compare_generate : ∀ salt password hash, generate salt password = .ok hash →
    compare hash password = true
  length_generate : ∀ salt password hash, generate salt password = .ok hash → hash.length = 60

/-- A stand-in for bcrypt in runs on fixed inputs: the password's first 60 characters, padded
with `$`. Like bcrypt, it reads a bounded prefix of the password. -/
def Bcrypt.sample : Bcrypt where
  generate _ password := .ok ⟨(password.toList ++ List.replicate 60 '$').take 60⟩
  compare hash password := hash == ⟨(password.toList ++ List.replicate 60 '$').take 60⟩
  compare_generate _ _ _ h := by cases h; exact beq_self_eq_true _
  length_generate _ password _ h := by
    cases h
    show ((password.toList ++ List.replicate 60 '$').take 60).length = 60
    rw [List.length_take, List.length_append, List.length_replicate]
    omega

/-- The assignment cast to `VARCHAR(n)`: a longer string is refused, unless what is past the
`n`-th character is all spaces, which are cut. The error is the text of `pgconn.PgError`. -/
def varcharCast (n : Nat) (s : String) : Except String String :=
  if s.length ≤ n then .ok s
  else if (s.toList.drop n).all (· = ' ') then .ok ⟨s.toList.take n⟩
  else .error ("ERROR: value too long for type character varying(" ++ toString n ++
    ") (SQLSTATE 22001)")

theorem varcharCast_of_length_le {n : Nat} {s : String} (h : s.length ≤ n) :
    varcharCast n s = .ok s := by
  simp [varcharCast, h]

/-- A table of accounts, rows of type `ρ` keyed by `id`, `email` and `phone`, with the
`PRIMARY KEY` and the two `UNIQUE` columns distinct. -/
structure AccountTable (ρ : Type) (id : ρ → Uuid) (email phone : ρ → String) where
  rows : List ρ
  id_nodup : (rows.map id).Nodup
  email_nodup : (rows.map email).Nodup
  phone_nodup : (rows.map phone).Nodup

namespace AccountTable

variable {ρ : Type} {id : ρ → Uuid} {email phone : ρ → String}

/-- No account. -/
def empty : AccountTable ρ id email phone := ⟨[], .nil, .nil, .nil⟩

/-- The ids of the accounts: what a foreign key to the table accepts. -/
def ids (T : AccountTable ρ id email phone) : List Uuid := T.rows.map id

/-- The `INSERT` of a row, cast already, into `table`: the keys in the order of their
indexes, `<table>_pkey`, `<table>_email_key`, `<table>_phone_key`. -/
def insert (table : String) (T : AccountTable ρ id email phone) (row : ρ) :
    Except String (AccountTable ρ id email phone) :=
  if h₁ : id row ∈ T.rows.map id then .error (uniqueViolation (table ++ "_pkey"))
  else if h₂ : email row ∈ T.rows.map email then .error (uniqueViolation (table ++ "_email_key"))
  else if h₃ : phone row ∈ T.rows.map phone then .error (uniqueViolation (table ++ "_phone_key"))
  else .ok ⟨row :: T.rows, List.nodup_cons.2 ⟨h₁, T.id_nodup⟩,
    List.nodup_cons.2 ⟨h₂, T.email_nodup⟩, List.nodup_cons.2 ⟨h₃, T.phone_nodup⟩⟩

/-- **What an `INSERT` that goes through adds**: its row, in front. -/
theorem insert_ok {table : String} {T T' : AccountTable ρ id email phone} {row : ρ}
    (h : T.insert table row = .ok T') : T'.rows = row :: T.rows := by
  unfold insert at h
  split_ifs at h
  cases h
  rfl

/-- **An `INSERT` whose email or phone is taken fails.** -/
theorem insert_taken {table : String} {T T' : AccountTable ρ id email phone} {row : ρ}
    (ht : email row ∈ T.rows.map email ∨ phone row ∈ T.rows.map phone) :
    T.insert table row ≠ .ok T' := fun h => by
  unfold insert at h
  split_ifs at h with h₁ h₂ h₃
  exact ht.elim h₂ h₃

/-- A row is found by its email. -/
theorem find?_email {T : AccountTable ρ id email phone} {r : ρ} (hr : r ∈ T.rows) :
    T.rows.find? (fun r' => email r' == email r) = some r := by
  obtain ⟨r', hf⟩ := Option.isSome_iff_exists.1
    (List.find?_isSome.2 ⟨r, hr, by simp⟩ : (T.rows.find? (fun r' => email r' == email r)).isSome)
  have he : email r' = email r := by simpa using List.find?_some hf
  rw [hf, List.inj_on_of_nodup_map T.email_nodup (List.mem_of_find?_eq_some hf) hr he]

end AccountTable

end RideService
