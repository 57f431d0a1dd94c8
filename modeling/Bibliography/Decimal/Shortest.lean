import Bibliography.Text.Numeral

/-! # Shortest decimal text of a binary number

A double stands for the reals that round to it. Its shortest text has the fewest digits that name
one of them, and of those digits the ones nearest to the double. All arithmetic is exact.

`Binary` is a positive double as `mantissa * 2 ^ exponent`, `Binary.digits` finds the digits, and
`text` writes them: positionally from 0.00001 up to sixteen places, otherwise with an exponent.
-/

namespace Bibliography.Decimal
set_option autoImplicit false
open Text

/-- A positive double, `mantissa * 2 ^ exponent`. -/
structure Binary where
  mantissa : Nat
  exponent : Int
deriving Repr

namespace Binary

/-- The leading bit of a mantissa, `2 ^ 52`; it is not stored. -/
def leadingBit : Nat := 0x10000000000000

/-- The bit that holds the sign, `2 ^ 63`. -/
def signBit : Nat := 0x8000000000000000

/-- The magnitude encoded in the bits of a finite double, zero included. -/
def ofBits (bits : Nat) : Binary :=
  let fraction : Nat := bits % leadingBit
  let field : Nat := bits / leadingBit % 0x800
  if field = 0 then ⟨fraction, -1074⟩ else ⟨leadingBit + fraction, Int.ofNat field - 1075⟩

/-! ## The reals that round to a double, in quarter units of its last place -/

/-- The lower end; just above a power of two the neighbour below is only half as far. -/
def low (b : Binary) : Nat :=
  4 * b.mantissa - (if b.mantissa = leadingBit ∧ b.exponent ≠ -1074 then 1 else 2)

/-- The upper end. -/
def high (b : Binary) : Nat := 4 * b.mantissa + 2

/-- A quarter unit as a fraction: its numerator and its denominator. -/
def unit (b : Binary) : Nat × Nat :=
  let e := b.exponent - 2
  (Nat.pow 2 e.toNat, Nat.pow 2 (-e).toNat)

/-- The decimal exponent of the leading digit of `num / den`. -/
def leadingExponent (num den : Nat) : Int :=
  if den ≤ num then Int.ofNat (Nat.toDigits 10 (num / den)).length - 1
  else
    match (List.range 400).find? fun j => den ≤ num * Nat.pow 10 j with
    | some j => -Int.ofNat j
    | none => 0

/-- The digits of a multiple of `10 ^ e` that rounds to the double, the nearest if there are two; of
two equally near ones the even. -/
def onGrid? (b : Binary) (e : Int) : Option Nat :=
  let (num, den) := b.unit
  let up := den * Nat.pow 10 e.toNat
  let down := num * Nat.pow 10 (-e).toNat
  let value := 4 * b.mantissa * down
  let q := value / up
  let ends := b.mantissa % 2 = 0
  let inside := fun c : Nat =>
    if ends then b.low * down ≤ c * up ∧ c * up ≤ b.high * down
    else b.low * down < c * up ∧ c * up < b.high * down
  let below := value - q * up
  let above := (q + 1) * up - value
  if inside q ∧ inside (q + 1) then
    some (if below < above ∨ (below = above ∧ q % 2 = 0) then q else q + 1)
  else if inside q then some q
  else if inside (q + 1) then some (q + 1)
  else none

/-- Digits without the zeros at their end, and the power of ten of the last one that stays. -/
def stripZeros (digits : Text) (e : Int) : Text × Int :=
  let kept := (digits.reverse.dropWhile (· == '0')).reverse
  (kept, e + Int.ofNat (digits.length - kept.length))

/-- The shortest digits, and the power of ten of the last one. -/
def digits (b : Binary) : Text × Int :=
  let (num, den) := b.unit
  let top := leadingExponent (4 * b.mantissa * num) den
  let found := (List.range 17).findSome? fun k =>
    let e := top - Int.ofNat k
    (b.onGrid? e).map fun d => stripZeros (decimal d) e
  found.getD ("0", 0)

end Binary

/-- Digits with the power of ten of the last one, as text with a point or an exponent. -/
def written (digits : Text) (e : Int) : Text :=
  let point := Int.ofNat digits.length + e
  if 0 ≤ e ∧ point ≤ 16 then digits ++ List.replicate e.toNat '0' ++ ".0"
  else if 0 < point ∧ point ≤ 16 then digits.take point.toNat ++ "." ++ digits.drop point.toNat
  else if -5 < point ∧ point ≤ 0 then "0." ++ List.replicate (-point).toNat '0' ++ digits
  else
    let mark : Text := "e" ++ signedDecimal (point - 1)
    match digits with
    | [d] => d :: mark
    | d :: ds => d :: '.' :: ds ++ mark
    | [] => mark

/-- The shortest text that reads back as the same double. -/
def text (x : Float) : Text :=
  let bits := x.toBits.toNat
  let sign : Text := if bits / Binary.signBit = 1 then "-" else ""
  let b := Binary.ofBits (bits % Binary.signBit)
  if b.mantissa = 0 then sign ++ "0.0"
  else
    let (ds, e) := b.digits
    sign ++ written ds e

end Bibliography.Decimal
