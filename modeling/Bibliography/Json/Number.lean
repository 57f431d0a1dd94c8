import Bibliography.Json.Fault
import Bibliography.Decimal.Shortest

/-! # Numbers in JSON

No member of a record or a configuration is a number, so a number is read only to say what was found
in the place of something else: an integer of 64 bits, or else a double. A double is computed from
the leading digits that fit into 64 bits and a power of ten, with one rounding for each.
-/

namespace Bibliography.Json
set_option autoImplicit false
open Text

/-! ## The value of a number -/

/-- The largest significand that is kept, `2 ^ 64 - 1`. -/
def largestWord : Nat := 0xFFFFFFFFFFFFFFFF

/-- Takes digits into a significand as long as it fits: the significand, how many digits it took,
and the rest. -/
def takeSignificand (n count : Nat) : Text → Nat × Nat × Text
  | [] => (n, count, [])
  | c :: s =>
    match digitValue? c with
    | some d =>
      if 10 * n + d ≤ largestWord then takeSignificand (10 * n + d) (count + 1) s
      else (n, count, c :: s)
    | none => (n, count, c :: s)

/-- Scales by powers of ten that a double can hold; the answer is `none` when it leaves the range.
-/
def scale (x : Float) (exponent : Int) : Nat → Option Float
  | 0 => some x
  | fuel + 1 =>
    if exponent.natAbs ≤ 308 then
      let power := Float.ofScientific 1 false exponent.natAbs
      if 0 ≤ exponent then
        let y := x * power
        if y.isInf then none else some y
      else some (x / power)
    else if x == 0.0 then some x
    else if 0 ≤ exponent then none
    else scale (x / 1e308) (exponent + 308) fuel

/-- The double of a significand and a power of ten. -/
def double (positive : Bool) (significand : Nat) (exponent : Int) : Except Fault Float :=
  match scale (Float.ofNat significand) exponent 4 with
  | some x => .ok (if positive then x else -x)
  | none => .error .malformed

/-- The exponent that follows the letter for it, and the double. -/
def exponentPart (positive : Bool) (significand : Nat) (exponent : Int) (s : Text) :
    Except Fault Float :=
  let (negative, s) :=
    match s with
    | '+' :: s => (false, s)
    | '-' :: s => (true, s)
    | s => (false, s)
  match s with
  | [] => .error .truncated
  | c :: _ =>
    if c.isDigit then
      let e := Int.ofNat ((s.takeWhile Char.isDigit).foldl (fun n d => 10 * n + (d.toNat - 48)) 0)
      double positive significand (if negative then exponent - e else exponent + e)
    else .error .malformed

/-- The double, after the digits before and behind the point are taken. -/
def afterDigits (positive : Bool) (significand : Nat) (exponent : Int) (s : Text) :
    Except Fault Float :=
  match s with
  | 'e' :: s | 'E' :: s => exponentPart positive significand exponent s
  | _ => double positive significand exponent

/-- The digits behind the point, and the double. -/
def fractionPart (positive : Bool) (significand : Nat) (exponent : Int) (s : Text) :
    Except Fault Float :=
  let (n, count, rest) := takeSignificand significand 0 s
  match rest with
  | [] =>
    if count = 0 then .error .truncated else double positive n (exponent - Int.ofNat count)
  | c :: _ =>
    if c.isDigit then
      afterDigits positive n (exponent - Int.ofNat count) (rest.dropWhile Char.isDigit)
    else if count = 0 then .error .malformed
    else afterDigits positive n (exponent - Int.ofNat count) rest

/-! ## Naming a number -/

/-- An integer as messages name it. -/
def integerName (n : Int) : Text := "integer " ++ ticked (signedDecimal n)

/-- A double as messages name it. -/
def doubleName (x : Float) : Text := "floating point " ++ ticked (Decimal.text x)

/-- The name of an integer; one that does not fit into 64 bits, and the negative zero, are doubles.
-/
def wholeName (positive : Bool) (n : Nat) : Text :=
  if positive then integerName n
  else if 0 < n && n ≤ 0x8000000000000000 then integerName (-n)
  else doubleName (-(Float.ofNat n))

/-- The name of a number from its first digit on. -/
def numberName (positive : Bool) (s : Text) : Except Fault Text :=
  match s with
  | [] => .error .truncated
  | c :: s =>
    if !c.isDigit then .error .malformed
    else if c = '0' && (s.head?.any Char.isDigit) then .error .malformed
    else
      let (n, _, rest) := takeSignificand (c.toNat - 48) 0 s
      let dropped := rest.takeWhile Char.isDigit
      let exponent := Int.ofNat dropped.length
      match rest.dropWhile Char.isDigit with
      | '.' :: s => (fractionPart positive n exponent s).map doubleName
      | 'e' :: s | 'E' :: s => (exponentPart positive n exponent s).map doubleName
      | _ =>
        if dropped.isEmpty then .ok (wholeName positive n)
        else (double positive n exponent).map doubleName

/-! ## Skipping -/

/-- What follows an exponent. -/
def skipExponent (s : Text) : Except Fault Text :=
  let s :=
    match s with
    | '+' :: s | '-' :: s => s
    | s => s
  if s.head?.any Char.isDigit then .ok (s.dropWhile Char.isDigit) else .error .malformed

/-- What follows a number, from its first digit on. -/
def skipNumber (s : Text) : Except Fault Text :=
  match s with
  | [] => .error .malformed
  | c :: s =>
    if !c.isDigit then .error .malformed
    else if c = '0' && (s.head?.any Char.isDigit) then .error .malformed
    else
      match s.dropWhile Char.isDigit with
      | '.' :: s =>
        if !(s.head?.any Char.isDigit) then .error .malformed
        else
          match s.dropWhile Char.isDigit with
          | 'e' :: s | 'E' :: s => skipExponent s
          | s => .ok s
      | 'e' :: s | 'E' :: s => skipExponent s
      | s => .ok s

end Bibliography.Json
