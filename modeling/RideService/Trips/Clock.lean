import Mathlib.Tactic.Ring

/-!
# Clocks: `time.Now()`, `TIMESTAMPTZ` and RFC 3339

A `time.Now()` reading is a count of nanoseconds since the Unix epoch, and every step that
reads the clock carries its reading as an argument. The trip service makes three things of a
reading (`internal/trips/service.go`):

* a `TIMESTAMPTZ` column holds microseconds, and pgx writes a `time.Time` parameter as
  `t.Unix()*1000000 + t.Nanosecond()/1000` (`pgTimestamptz`);
* an event's time is `now.Format(time.RFC3339)`: the date and the time to the whole second,
  in the process's local zone, taken here as UTC (`rfc3339`);
* `End`'s duration is `int64(now.Sub(*trip.StartedAt).Seconds())`: a fresh reading less the
  column read back, in seconds, truncated toward zero (`durationSeconds`).

So an event's time is its row's time cut to the second (`rfc3339_timestamptz`), and the two
name the same instant only when the reading fell on a whole second.
-/

namespace RideService

/-- What a `TIMESTAMPTZ` column stores of a `time.Time` reading: whole microseconds. -/
def pgTimestamptz (now : Nat) : Nat := now / 1000

/-- The proleptic Gregorian date, as `(year, month, day)`, of a count of days since
1970-01-01: the era-of-400-years computation, with the year starting on March 1. -/
def civilFromDays (days : Nat) : Nat × Nat × Nat :=
  let z := days + 719468
  let era := z / 146097
  let doe := z % 146097
  let yoe := (doe - doe / 1460 + doe / 36524 - doe / 146096) / 365
  let doy := doe - (365 * yoe + yoe / 4 - yoe / 100)
  let mp := (5 * doy + 2) / 153
  let month := if mp < 10 then mp + 3 else mp - 9
  (yoe + era * 400 + (if month ≤ 2 then 1 else 0), month, doy - (153 * mp + 2) / 5 + 1)

/-- `appendInt(b, n, width)` of Go's `time` package: the decimal digits, padded with `0` to
`width`. -/
def padDigits (width n : Nat) : String :=
  String.mk (List.replicate (width - (Nat.toDigits 10 n).length) '0' ++ Nat.toDigits 10 n)

/-- `Format(time.RFC3339)` of the whole second `secs` after the epoch, in UTC:
`2006-01-02T15:04:05Z`. -/
def formatRFC3339 (secs : Nat) : String :=
  let (y, m, d) := civilFromDays (secs / 86400)
  let s := secs % 86400
  padDigits 4 y ++ "-" ++ padDigits 2 m ++ "-" ++ padDigits 2 d ++ "T" ++
    padDigits 2 (s / 3600) ++ ":" ++ padDigits 2 (s % 3600 / 60) ++ ":" ++
    padDigits 2 (s % 60) ++ "Z"

/-- `now.Format(time.RFC3339)`: the reading cut to its second. -/
def rfc3339 (now : Nat) : String := formatRFC3339 (now / 10 ^ 9)

/-- `int64(now.Sub(started).Seconds())`, with `started` a `TIMESTAMPTZ` read back: the
nanoseconds between them, in seconds, truncated toward zero. -/
def durationSeconds (now started : Nat) : Int := ((now : Int) - started * 1000).tdiv (10 ^ 9)

example : formatRFC3339 0 = "1970-01-01T00:00:00Z" := by decide
example : formatRFC3339 951782400 = "2000-02-29T00:00:00Z" := by decide
example : rfc3339 1700000000999999999 = "2023-11-14T22:13:20Z" := by decide

/-- **An event's time is its row's, cut to the second.** -/
theorem rfc3339_timestamptz (now : Nat) :
    formatRFC3339 (pgTimestamptz now / 10 ^ 6) = rfc3339 now := by
  rw [pgTimestamptz, Nat.div_div_eq_div_mul]
  rfl

/-- A duration from a start no later than the end is the whole seconds between them. -/
theorem durationSeconds_of_le {now started : Nat} (h : started * 1000 ≤ now) :
    durationSeconds now started = ((now - started * 1000) / 10 ^ 9 : Nat) := by
  have hsub : (now : Int) - started * 1000 = ((now - started * 1000 : Nat) : Int) := by omega
  rw [durationSeconds, hsub]
  rfl

end RideService
