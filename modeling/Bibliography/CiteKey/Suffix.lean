import Bibliography.Text.Basic

/-! # Suffixes

The endings that tell colliding keys apart: `a` to `z`, then `aa`, `ab` and so on, every non-empty
text of small letters once, the shorter ones first.
-/

namespace Bibliography.CiteKey
set_option autoImplicit false

/-- The small letter of the given index. -/
def smallLetter (i : Nat) : Char := Char.ofNat ('a'.toNat + i % 26)

/-- The suffix number `n`. -/
def suffix (n : Nat) : Text :=
  if n < 26 then [smallLetter n] else suffix (n / 26 - 1) ++ [smallLetter n]
termination_by n
decreasing_by omega

end Bibliography.CiteKey
