import Bibliography.Toml.Chars

/-! # Numbers and times in TOML

No member of a configuration is a number or a time. They are recognized, so that a document may hold
them under names the configuration does not know.
-/

namespace Bibliography.Toml
set_option autoImplicit false
open Text

/-! ## Digits -/

/-- Digits, with single low lines between them: the digits, and what follows. -/
def digitRun (isDigit : Char → Bool) : Text → Text × Text
  | [] => ([], [])
  | c :: s =>
    if isDigit c then (c :: (digitRun isDigit s).1, (digitRun isDigit s).2)
    else if c = '_' && s.head?.any isDigit then digitRun isDigit s
    else ([], c :: s)

/-- A run of digits that is not empty. -/
def digitsWith (isDigit : Char → Bool) (s : Text) : Option (Text × Text) :=
  if s.head?.any isDigit then some (digitRun isDigit s) else none

/-- Decimal digits; zeros may stand in front. -/
def digits (s : Text) : Option (Text × Text) := digitsWith Char.isDigit s

/-- The digits of a whole number; a zero stands alone. -/
def wholeDigits (s : Text) : Option (Text × Text) :=
  match s with
  | '0' :: s => some (['0'], s)
  | s => digits s

/-- The value of digits of some base. -/
def valueOf (base : Nat) (ds : Text) : Nat :=
  ds.foldl (fun n d => base * n + (hexDigitValue? d).getD 0) 0

/-! ## Numbers -/

/-- Whether the number is negative, and what follows its sign. -/
def sign (s : Text) : Bool × Text :=
  match s with
  | '-' :: s => (true, s)
  | '+' :: s => (false, s)
  | s => (false, s)

/-- Whole numbers are below this one, `2 ^ 63`, or equal to its negative. -/
def integerBound : Nat := 0x8000000000000000

/-- What follows a whole number, if it fits into 64 bits. -/
def afterInteger? (s : Text) : Option Text :=
  let based (base : Nat) (isDigit : Char → Bool) (s : Text) : Option Text :=
    (digitsWith isDigit s).bind fun (ds, rest) =>
      if valueOf base ds < integerBound then some rest else none
  match s with
  | '0' :: 'x' :: s => based 16 (fun c => (hexDigitValue? c).isSome) s
  | '0' :: 'o' :: s => based 8 (fun c => '0' ≤ c && c ≤ '7') s
  | '0' :: 'b' :: s => based 2 (fun c => c == '0' || c == '1') s
  | s =>
    let (negative, s) := sign s
    (wholeDigits s).bind fun (ds, rest) =>
      let n := valueOf 10 ds
      if n < integerBound || (negative && n == integerBound) then some rest else none

/-- The least real that is too large for a double. -/
def tooLarge : Nat := Nat.pow 2 1024 - Nat.pow 2 970

/-- The number with the given digits before and behind the point and the given exponent is too large
for a double. -/
def overflows (whole fraction : Text) (exponent : Int) : Bool :=
  let ds := (whole ++ fraction).dropWhile (· == '0')
  let e := exponent - Int.ofNat fraction.length
  let places := Int.ofNat ds.length + e
  if ds.isEmpty || places < 300 then false
  else if 310 < places then true
  else tooLarge * Nat.pow 10 (-e).toNat ≤ valueOf 10 ds * Nat.pow 10 e.toNat

/-- An exponent behind the letter for it. -/
def exponent? (s : Text) : Option (Int × Text) :=
  let (negative, s) := sign s
  (digits s).map fun (ds, rest) =>
    let n := Int.ofNat (valueOf 10 ds)
    (if negative then -n else n, rest)

/-- What follows a number with a point or an exponent. A number may be infinite only if it is
negative or says so. -/
def afterFloat? (s : Text) : Option Text :=
  let (negative, s) := sign s
  let checked (whole fraction : Text) (e : Int) (rest : Text) : Option Text :=
    if overflows whole fraction e && !negative then none else some rest
  let withExponent (whole fraction : Text) (s : Text) : Option Text :=
    (exponent? s).bind fun (e, rest) => checked whole fraction e rest
  match after? "inf" s, after? "nan" s with
  | some rest, _ => some rest
  | none, some rest => some rest
  | none, none =>
    (wholeDigits s).bind fun (whole, s) =>
      match s with
      | 'e' :: s | 'E' :: s => withExponent whole [] s
      | '.' :: s =>
        (digits s).bind fun (fraction, s) =>
          match s with
          | 'e' :: s | 'E' :: s => withExponent whole fraction s
          | s => checked whole fraction 0 s
      | _ => none

/-! ## Times -/

/-- A number of exactly so many digits within bounds. -/
def field? (width low high : Nat) (s : Text) : Option (Nat × Text) :=
  let ds := s.take width
  if ds.length = width && ds.all Char.isDigit then
    let n := valueOf 10 ds
    if low ≤ n && n ≤ high then some (n, s.drop width) else none
  else none

/-- The days of a month. -/
def daysIn (year month : Nat) : Nat :=
  if month = 2 then
    if year % 4 = 0 && (year % 100 != 0 || year % 400 == 0) then 29 else 28
  else if month = 4 || month = 6 || month = 9 || month = 11 then 30
  else 31

/-- What follows a date. -/
def afterDate? (s : Text) : Option Text := do
  let (year, s) ← field? 4 0 9999 s
  let s ← after? "-" s
  let (month, s) ← field? 2 1 12 s
  let s ← after? "-" s
  let (_, s) ← field? 2 1 (daysIn year month) s
  return s

/-- What follows the fraction of a second, if there is one. -/
def afterFraction? (s : Text) : Option Text :=
  match s with
  | '.' :: c :: s => if c.isDigit then some (s.dropWhile Char.isDigit) else none
  | '.' :: [] => none
  | s => some s

/-- What follows a time of day. -/
def afterTime? (s : Text) : Option Text := do
  let (_, s) ← field? 2 0 23 s
  let s ← after? ":" s
  let (_, s) ← field? 2 0 59 s
  let s ← after? ":" s
  let (_, s) ← field? 2 0 60 s
  afterFraction? s

/-- What follows the distance from universal time, if it is given. -/
def afterOffset? (s : Text) : Option Text :=
  match s with
  | 'Z' :: s | 'z' :: s => some s
  | '+' :: s | '-' :: s => do
    let (_, s) ← field? 2 0 23 s
    let s ← after? ":" s
    let (_, s) ← field? 2 0 59 s
    return s
  | s => some s

/-- What follows a date, a time, or both. -/
def afterDateTime? (s : Text) : Option Text :=
  match afterDate? s with
  | none => afterTime? s
  | some rest =>
    match rest with
    | c :: s =>
      if c = 'T' || c = 't' then (afterTime? s).bind afterOffset?
      else if c = ' ' && s.head?.any Char.isDigit then (afterTime? s).bind afterOffset?
      else some rest
    | [] => some rest

/-- What follows a number or a time. -/
def afterScalar? (s : Text) : Option Text :=
  (afterDateTime? s).orElse fun _ => (afterFloat? s).orElse fun _ => afterInteger? s

end Bibliography.Toml
