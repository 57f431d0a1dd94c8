/-! # Case mappings as data

Most case mappings shift a stretch of the alphabet, either every letter of it or every second one.
The few that yield more than one character are listed.
-/

namespace Bibliography.Unicode
set_option autoImplicit false

/-- Every `step`-th code point from `first` to `last` moves by `offset`. -/
structure Shift where
  first : Nat
  last : Nat
  step : Nat
  offset : Int

/-- The code point is one of those the shift moves. -/
def Shift.covers (s : Shift) (n : Nat) : Bool :=
  s.first ≤ n && n ≤ s.last && (n - s.first) % s.step == 0

/-- The case mapping of one character: its listed image, or its shift, or itself. -/
def caseImage (specials : List (Nat × String)) (shifts : List Shift) (c : Char) : List Char :=
  match specials.find? fun p => p.1 == c.toNat with
  | some (_, image) => image.toList
  | none =>
    match shifts.find? fun s => s.covers c.toNat with
    | some s => [Char.ofNat (c.toNat + s.offset).toNat]
    | none => [c]

theorem caseImage_cases (specials : List (Nat × String)) (shifts : List Shift) (c : Char) :
    (∃ p ∈ specials, caseImage specials shifts c = p.2.toList) ∨
    (∃ s ∈ shifts, s.covers c.toNat = true ∧
      caseImage specials shifts c = [Char.ofNat (c.toNat + s.offset).toNat]) ∨
    caseImage specials shifts c = [c] := by
  cases hspecial : specials.find? fun p => p.1 == c.toNat with
  | some p => exact .inl ⟨p, List.mem_of_find?_eq_some hspecial, by rw [caseImage, hspecial]⟩
  | none =>
    cases hshift : shifts.find? fun s => s.covers c.toNat with
    | some s =>
      have hcovers := List.find?_some hshift
      exact .inr (.inl ⟨s, List.mem_of_find?_eq_some hshift, hcovers,
        by rw [caseImage, hspecial, hshift]⟩)
    | none => exact .inr (.inr (by rw [caseImage, hspecial, hshift]))

end Bibliography.Unicode
