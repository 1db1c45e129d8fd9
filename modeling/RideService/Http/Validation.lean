import Mathlib.Data.List.Basic

/-!
# `pkg/validation`: the checks on emails, phones, names and passwords

`ValidateEmail` and `ValidatePhone` (`part_000:13`) trim their argument with
`strings.TrimSpace` and check the trimmed string: non-empty, matched by an anchored regular
expression, and at most so many bytes. `ValidateName` trims and bounds the length, and
`ValidatePassword` bounds the length of the string as it is. Go's `len` counts bytes, which is
`String.utf8ByteSize`.

A regular expression is written as the language it denotes. A concatenation holds of a string
when some split of it matches the parts (`splitsAt` lists the splits around one character),
and `[…]+` is a non-empty string of the class's characters (`plusOf`). The classes are ASCII,
and `\d` in Go's syntax is `[0-9]`.

The two trimming checks read their argument only through `trimSpace`, so strings that differ
in leading or trailing white space are accepted together. What the handlers store is the
untrimmed string.
-/

namespace RideService.Http

/-! ## `strings.TrimSpace` -/

/-- `unicode.IsSpace`: in Latin-1, `'\t'`, `'\n'`, `'\v'`, `'\f'`, `'\r'`, `' '`, U+0085 and
U+00A0; above it, the characters with the `White_Space` property. -/
def isSpace (c : Char) : Bool :=
  [0x09, 0x0A, 0x0B, 0x0C, 0x0D, 0x20, 0x85, 0xA0, 0x1680, 0x2028, 0x2029, 0x202F, 0x205F,
    0x3000].contains c.toNat || (0x2000 ≤ c.toNat && c.toNat ≤ 0x200A)

/-- `strings.TrimSpace`: the string without its leading and trailing white space. -/
def trimSpace (s : String) : String :=
  ⟨((s.toList.dropWhile isSpace).reverse.dropWhile isSpace).reverse⟩

/-! ## The regular expressions -/

/-- The ways to write a string as `l ++ c :: r`, as the pairs `(l, r)`. -/
def splitsAt (c : Char) : List Char → List (List Char × List Char)
  | [] => []
  | x :: xs =>
    let later := (splitsAt c xs).map fun p => (x :: p.1, p.2)
    if x = c then ([], xs) :: later else later

/-- `[…]+` for the class `p`. -/
def plusOf (p : Char → Bool) (l : List Char) : Bool := !l.isEmpty && l.all p

/-- `[a-zA-Z0-9._%+\-]`. -/
def emailLocalChar (c : Char) : Bool := c.isAlphanum || ['.', '_', '%', '+', '-'].contains c

/-- `[a-zA-Z0-9.\-]`. -/
def emailDomainChar (c : Char) : Bool := c.isAlphanum || ['.', '-'].contains c

/-- `emailRegex` (`part_000:9`): `^[a-zA-Z0-9._%+\-]+@[a-zA-Z0-9.\-]+\.[a-zA-Z]{2,}$`. -/
def emailRegexMatch (s : List Char) : Bool :=
  (splitsAt '@' s).any fun (l, r) =>
    plusOf emailLocalChar l && (splitsAt '.' r).any fun (d, t) =>
      plusOf emailDomainChar d && 2 ≤ t.length && t.all Char.isAlpha

/-- `[1-9]\d{1,14}`. -/
def phoneDigits : List Char → Bool
  | d :: ds => '1' ≤ d && d ≤ '9' && 1 ≤ ds.length && ds.length ≤ 14 && ds.all Char.isDigit
  | [] => false

/-- `phoneRegex` (`part_000:10`): `^\+?[1-9]\d{1,14}$`. -/
def phoneRegexMatch (s : List Char) : Bool :=
  phoneDigits s || match s with
    | '+' :: r => phoneDigits r
    | _ => false

/-! ## The validators -/

/-- The shape of `ValidateEmail` and `ValidatePhone`: trim, then non-empty, matched, and at
most `maxBytes` bytes. -/
def validateTrimmed (regex : List Char → Bool) (maxBytes : Nat) (s : String) : Bool :=
  let s := trimSpace s
  s != "" && regex s.toList && s.utf8ByteSize ≤ maxBytes

/-- `ValidateEmail` (`part_000:13`). -/
def validateEmail (email : String) : Bool := validateTrimmed emailRegexMatch 200 email

/-- `ValidatePhone` (`part_000:18`). -/
def validatePhone (phone : String) : Bool := validateTrimmed phoneRegexMatch 50 phone

/-- `ValidateName` (`part_000:23`). -/
def validateName (name : String) : Bool :=
  let name := trimSpace name
  2 ≤ name.utf8ByteSize && name.utf8ByteSize ≤ 200

/-- `ValidatePassword` (`part_000:28`): the password as it is, untrimmed. -/
def validatePassword (password : String) : Bool :=
  6 ≤ password.utf8ByteSize && password.utf8ByteSize ≤ 100

example : trimSpace " ann@ride.co\t" = trimSpace "ann@ride.co" ∧ validateEmail " ann@ride.co\t" := by
  decide

end RideService.Http
