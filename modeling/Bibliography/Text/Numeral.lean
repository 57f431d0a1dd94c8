import Bibliography.Text.Basic

/-! # Numerals

Numbers as they are written in ASCII digits: decimal without padding, hexadecimal padded with zeros,
and the value of a run of digits.
-/

namespace Bibliography.Text
set_option autoImplicit false

/-- A natural number in decimal digits. -/
def decimal (n : Nat) : Text := Nat.toDigits 10 n

/-- An integer in decimal digits, with a hyphen before a negative one. -/
def signedDecimal : Int → Text
  | .ofNat n => decimal n
  | .negSucc n => '-' :: decimal (n + 1)

/-- The digits padded on the left with zeros to the given width. -/
def padZeros (width : Nat) (digits : Text) : Text :=
  List.replicate (width - digits.length) '0' ++ digits

/-- A number in small hexadecimal digits, at least `width` of them. -/
def hex (width n : Nat) : Text := padZeros width (Nat.toDigits 16 n)

/-- A number in capital hexadecimal digits, at least `width` of them. -/
def capitalHex (width n : Nat) : Text := (hex width n).map Char.toUpper

theorem exists_digitChar_of_mem_toDigitsCore {base fuel n : Nat} {digits : Text} {c : Char}
    (hdigits : ∀ c ∈ digits, ∃ d, c = Nat.digitChar d)
    (h : c ∈ Nat.toDigitsCore base fuel n digits) : ∃ d, c = Nat.digitChar d := by
  induction fuel generalizing n digits with
  | zero => exact hdigits c h
  | succ fuel ih =>
    have hmore : ∀ c ∈ Nat.digitChar (n % base) :: digits, ∃ d, c = Nat.digitChar d :=
      List.forall_mem_cons.2 ⟨⟨n % base, rfl⟩, hdigits⟩
    rw [Nat.toDigitsCore] at h
    split at h
    · exact hmore c h
    · exact ih hmore h

theorem exists_digitChar_of_mem_toDigits {base n : Nat} {c : Char}
    (h : c ∈ Nat.toDigits base n) : ∃ d, c = Nat.digitChar d :=
  exists_digitChar_of_mem_toDigitsCore (by simp) h

/-- A hexadecimal numeral is made of digits, its padding too. -/
theorem exists_digitChar_of_mem_hex {width n : Nat} {c : Char} (h : c ∈ hex width n) :
    ∃ d, c = Nat.digitChar d := by
  rcases List.mem_append.1 h with h | h
  · exact ⟨0, (List.mem_replicate.1 h).2⟩
  · exact exists_digitChar_of_mem_toDigits h

/-- What holds of the sixteen digits, and of the star that stands for no digit, holds of every digit
character. -/
theorem forall_digitChar {p : Char → Prop} (hdigits : ∀ d < 16, p (Nat.digitChar d))
    (hstar : p '*') (d : Nat) : p (Nat.digitChar d) := by
  by_cases h : d < 16
  · exact hdigits d h
  · rw [Nat.digitChar_eq_star.2 (by omega)]
    exact hstar

/-- The value of an ASCII digit. -/
def digitValue? (c : Char) : Option Nat :=
  if c.isDigit then some (c.toNat - '0'.toNat) else none

/-- The number that goes on with the given digits, if they are all ASCII digits. -/
def valueFrom (n : Nat) : Text → Option Nat
  | [] => some n
  | c :: cs => (digitValue? c).bind fun d => valueFrom (10 * n + d) cs

/-- The value of a non-empty run of ASCII digits. -/
def value? (s : Text) : Option Nat := if s.isEmpty then none else valueFrom 0 s

theorem valueFrom_eq {s : Text} (h : ∀ c ∈ s, c.isDigit = true) (n : Nat) :
    valueFrom n s = some (Nat.ofDigitChars 10 s n) := by
  induction s generalizing n with
  | nil => rfl
  | cons c s ih =>
    rw [List.forall_mem_cons] at h
    rw [valueFrom, digitValue?, if_pos h.1, Option.bind_some, ih h.2, Nat.ofDigitChars_cons]

theorem value?_of_isDigit {s : Text} (hne : s ≠ []) (h : ∀ c ∈ s, c.isDigit = true) :
    value? s = some (Nat.ofDigitChars 10 s 0) := by
  rw [value?, List.isEmpty_eq_false_iff.2 hne, valueFrom_eq h]
  rfl

/-- The value of a hexadecimal digit in either case. -/
def hexDigitValue? (c : Char) : Option Nat :=
  if c.isDigit then some (c.toNat - '0'.toNat)
  else if 'a' ≤ c && c ≤ 'f' then some (c.toNat - 'a'.toNat + 10)
  else if 'A' ≤ c && c ≤ 'F' then some (c.toNat - 'A'.toNat + 10)
  else none

end Bibliography.Text
