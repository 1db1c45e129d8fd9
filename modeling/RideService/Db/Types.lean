import Mathlib.Data.List.Basic

/-!
# PostgreSQL's `uuid`, and the errors of a statement

The `id` columns of `users`, `drivers` and `trips`, and `trips.rider_id` and
`trips.driver_id`, are `UUID`s (`V2_create_drivers.sql`, `V3_create_trips.sql`). The code
passes ids around as Go strings, and pgx sends a string parameter in text format whatever
the column's type, so the server reads it with `uuid_in`. Its `string_to_uuid` accepts many
spellings of one value: either case of the hex digits, a `-` after any byte of odd index
but the last, braces around the whole. A text it cannot read fails the statement with
SQLSTATE `22P02`. A `uuid` scanned back into a Go string, like `uuid.New().String()`, is
`uuid_out`'s spelling: lowercase, grouped 8-4-4-4-12.

A statement the server refuses returns a `pgconn.PgError`, whose text the handlers write
as they got it: `ERROR: <message> (SQLSTATE <code>)`.

So the tables identify every spelling of an id, where Go strings, Redis members and the
events' fields do not. `uuidIn_uuidOut` is the round trip the code relies on: `uuid_in`
reads back what `uuid_out` wrote.
-/

namespace RideService

/-- A value of the `uuid` type: sixteen bytes. -/
structure Uuid where
  bytes : List (Fin 256)
  length_bytes : bytes.length = 16
  deriving DecidableEq, Repr

/-- A hex digit's value, either case: `isxdigit`, then `strtoul` in base 16. -/
def hexValue (c : Char) : Option Nat :=
  if '0' ≤ c ∧ c ≤ '9' then some (c.toNat - '0'.toNat)
  else if 'a' ≤ c ∧ c ≤ 'f' then some (c.toNat - 'a'.toNat + 10)
  else if 'A' ≤ c ∧ c ≤ 'F' then some (c.toNat - 'A'.toNat + 10)
  else none

/-- After byte `i`, `string_to_uuid` skips one `-` when `i` is odd and not the last byte. -/
def skipDash (i : Nat) : List Char → List Char
  | '-' :: cs => if i % 2 = 1 ∧ i < 15 then cs else '-' :: cs
  | cs => cs

/-- The loop of `string_to_uuid` from byte `16 - k` on: two hex digits a byte, then
`skipDash`. The bytes read, and what is left of the text. -/
def uuidBytes : Nat → List Char → Option (List (Fin 256) × List Char)
  | 0, cs => some ([], cs)
  | k + 1, a :: b :: cs =>
    match hexValue a, hexValue b with
    | some hi, some lo =>
      (uuidBytes k (skipDash (15 - k) cs)).map fun r => (Fin.ofNat (hi * 16 + lo) :: r.1, r.2)
    | _, _ => none
  | _ + 1, _ => none

theorem uuidBytes_length : ∀ {k : Nat} {cs : List Char} {r : List (Fin 256) × List Char},
    uuidBytes k cs = some r → r.1.length = k
  | 0, _, _, h => by cases h; rfl
  | k + 1, a :: b :: cs, r, h => by
    simp only [uuidBytes] at h
    split at h
    · obtain ⟨r', h', rfl⟩ := Option.map_eq_some'.1 h
      exact congrArg (· + 1) (uuidBytes_length h')
    · cases h
  | _ + 1, [], _, h | _ + 1, [_], _, h => nomatch h

/-- `string_to_uuid`'s optional braces: the text inside, and what must close it. -/
def uuidBraces : List Char → List Char × List Char
  | '\x7b' :: cs => (cs, ['\x7d'])
  | cs => (cs, [])

/-- `uuid_in`: an optional `{`, sixteen bytes, the matching `}`, and nothing after. -/
def uuidIn (s : String) : Option Uuid :=
  match h : uuidBytes 16 (uuidBraces s.toList).1 with
  | some r => if r.2 = (uuidBraces s.toList).2 then some ⟨r.1, uuidBytes_length h⟩ else none
  | none => none

/-- The sixteen digits of `uuid_out`'s `hex_chars`. -/
def hexChars : List Char :=
  ['0', '1', '2', '3', '4', '5', '6', '7', '8', '9', 'a', 'b', 'c', 'd', 'e', 'f']

/-- The digit of a value below sixteen. -/
def hexDigit (n : Nat) : Char := hexChars.getD n '0'

/-- `uuid_out`'s text of the bytes from byte `16 - k` on: the two digits of each byte, and a
`-` after bytes `3`, `5`, `7` and `9` (`uuid_out` writes it before bytes `4`, `6`, `8`
and `10`). -/
def uuidChars : Nat → List (Fin 256) → List Char
  | k + 1, b :: bs =>
    hexDigit (b.val / 16) :: hexDigit (b.val % 16) ::
      ((if 15 - k = 3 ∨ 15 - k = 5 ∨ 15 - k = 7 ∨ 15 - k = 9 then ['-'] else []) ++
        uuidChars k bs)
  | _, _ => []

/-- `uuid_out`, and the Go string pgx scans a `uuid` column into. -/
def uuidOut (u : Uuid) : String := ⟨uuidChars 16 u.bytes⟩

/-- A statement with a parameter `uuid_in` cannot read fails, with this error. -/
def invalidUuid (s : String) : String :=
  "ERROR: invalid input syntax for type uuid: \"" ++ s ++ "\" (SQLSTATE 22P02)"

/-- The error of a key that is already there. -/
def uniqueViolation (constraint : String) : String :=
  "ERROR: duplicate key value violates unique constraint \"" ++ constraint ++ "\" (SQLSTATE 23505)"

/-- The error of a row of `trips` whose `rider_id` or `driver_id` names no row of the table
its foreign key references. -/
def fkViolation (constraint : String) : String :=
  "ERROR: insert or update on table \"trips\" violates foreign key constraint \"" ++
    constraint ++ "\" (SQLSTATE 23503)"

/-- A string parameter bound to a `uuid`. -/
def uuidParam (s : String) : Except String Uuid :=
  match uuidIn s with
  | some u => .ok u
  | none => .error (invalidUuid s)

theorem except_bind_eq_ok {α β : Type} {x : Except String α} {f : α → Except String β} {b : β} :
    x >>= f = .ok b ↔ ∃ a, x = .ok a ∧ f a = .ok b := by
  cases x <;> simp [bind, Except.bind]

@[simp] theorem except_ok_bind {α β : Type} (a : α) (f : α → Except String β) :
    (Except.ok a : Except String α) >>= f = f a := rfl

theorem except_map_eq_ok {α β : Type} {x : Except String α} {f : α → β} {b : β} :
    x.map f = .ok b ↔ ∃ a, x = .ok a ∧ f a = b := by
  cases x <;> simp [Except.map]

theorem uuidParam_eq_ok {s : String} {u : Uuid} : uuidParam s = .ok u ↔ uuidIn s = some u := by
  unfold uuidParam; split <;> simp_all

/-- The `uuid` `00000000-0000-0000-0000-0000000000nn`, for runs on fixed inputs. -/
def Uuid.sample (n : Fin 256) : Uuid := ⟨List.replicate 15 0 ++ [n], by simp⟩

/-- The ids of the runs on fixed inputs: two trips, a rider and two drivers. -/
def tripT : Uuid := Uuid.sample 1
def riderR : Uuid := Uuid.sample 2
def driverD : Uuid := Uuid.sample 3
def tripT2 : Uuid := Uuid.sample 4
def driverO : Uuid := Uuid.sample 5

/-! ## The round trip -/

theorem hexValue_hexDigit {n : Nat} (h : n < 16) : hexValue (hexDigit n) = some n :=
  (by decide : ∀ m : Fin 16, hexValue (hexDigit m) = some m) ⟨n, h⟩

theorem hexDigit_ne {n : Nat} (h : n < 16) : hexDigit n ≠ '-' ∧ hexDigit n ≠ '\x7b' :=
  (by decide : ∀ m : Fin 16, hexDigit m ≠ '-' ∧ hexDigit m ≠ '\x7b') ⟨n, h⟩

/-- A byte is its two digits. -/
theorem ofNat_digits (b : Fin 256) : (Fin.ofNat (b.val / 16 * 16 + b.val % 16) : Fin 256) = b :=
  Fin.ext (by show (b.val / 16 * 16 + b.val % 16) % 256 = b.val; have := b.isLt; omega)

/-- Past the last byte, no `-` is skipped. -/
theorem skipDash_last (cs : List Char) : skipDash 15 cs = cs := by
  unfold skipDash
  split <;> simp

/-- What follows a byte's digits loses no `-` it does not have: the dash `uuid_out` writes is
one `string_to_uuid` skips, the next byte starts with a digit, and after the last byte
nothing is skipped. -/
theorem skipDash_uuidChars (bs : List (Fin 256)) (rest : List Char) :
    skipDash (15 - bs.length)
        ((if 15 - bs.length = 3 ∨ 15 - bs.length = 5 ∨ 15 - bs.length = 7 ∨
            15 - bs.length = 9 then ['-'] else []) ++ (uuidChars bs.length bs ++ rest)) =
      uuidChars bs.length bs ++ rest := by
  split
  · rw [List.singleton_append, skipDash, if_pos (by omega)]
  · cases bs with
    | nil => exact skipDash_last _
    | cons b bs =>
      simp only [List.length_cons, uuidChars, List.nil_append, List.cons_append, skipDash]
      split
      · rename_i h
        exact absurd (List.cons.inj h).1 (hexDigit_ne (by omega : b.val / 16 < 16)).1
      · rfl

/-- `string_to_uuid`'s loop reads back the bytes `uuid_out` wrote, and leaves what follows. -/
theorem uuidBytes_uuidChars : ∀ (bs : List (Fin 256)) (rest : List Char),
    uuidBytes bs.length (uuidChars bs.length bs ++ rest) = some (bs, rest)
  | [], _ => rfl
  | b :: bs, rest => by
    simp only [List.length_cons, uuidChars, List.cons_append, List.append_assoc, uuidBytes,
      hexValue_hexDigit (by omega : b.val / 16 < 16), hexValue_hexDigit (by omega : b.val % 16 < 16),
      List.append_eq, skipDash_uuidChars, uuidBytes_uuidChars bs rest, Option.map_some',
      ofNat_digits]

/-- **`uuid_in` reads back what `uuid_out` wrote.** -/
theorem uuidIn_uuidOut (u : Uuid) : uuidIn (uuidOut u) = some u := by
  obtain ⟨bs, hl⟩ := u
  have hb : uuidBytes 16 (uuidChars 16 bs) = some (bs, []) := by
    simpa [hl] using uuidBytes_uuidChars bs []
  have hbr : uuidBraces (uuidOut ⟨bs, hl⟩).toList = (uuidChars 16 bs, []) := by
    match bs, hl with
    | b :: bs, _ =>
      show uuidBraces (uuidChars 16 (b :: bs)) = _
      simp only [uuidChars]
      unfold uuidBraces
      split
      · rename_i h
        exact absurd (List.cons.inj h).1 (hexDigit_ne (by omega : b.val / 16 < 16)).2
      · rfl
  unfold uuidIn
  split
  · rename_i r h
    rw [hbr, hb, Option.some.injEq] at h
    subst h
    rw [if_pos (by rw [hbr])]
  · rename_i h
    rw [hbr, hb] at h
    cases h

/-- Distinct values have distinct Go strings. -/
theorem uuidOut_injective {u v : Uuid} (h : uuidOut u = uuidOut v) : u = v :=
  Option.some.inj ((uuidIn_uuidOut u).symm.trans (h ▸ uuidIn_uuidOut v))

theorem uuidParam_uuidOut (u : Uuid) : uuidParam (uuidOut u) = .ok u := by
  simp [uuidParam, uuidIn_uuidOut]

end RideService
