import Bibliography.Proofs.Unicode.Ascii
import Bibliography.Unicode.Lowercase

/-! # Lower case and the case of ASCII letters

The lower case of a text does not depend on the case its ASCII letters are written in: a capital
and its small letter have one lower case, and for the word around them they are alike.
-/

namespace Bibliography.Unicode
set_option autoImplicit false
variable {c : Char}

/-! ## Letters -/

theorem toLower_eq_self (h : c.isUpper = false) : c.toLower = c :=
  dif_neg (of_decide_eq_false h)

theorem isLower_toLower (h : c.isUpper = true) : c.toLower.isLower = true := by
  have hcode := isUpper_iff.1 h
  exact of_all_codes (fun c => c.toLower.isLower) 0x41 26 (by decide) hcode.1 (by omega)

theorem isAlpha_toLower (h : c.isUpper = true) : c.toLower.isAlpha = true :=
  isAlpha_iff.2 (.inr (isLower_toLower h))

theorem toLower_toLower (h : c.isUpper = true) : c.toLower.toLower = c.toLower := by
  apply toLower_eq_self
  cases hupper : c.toLower.isUpper with
  | false => rfl
  | true =>
    have hlow := isLower_iff.1 (isLower_toLower h)
    have hhigh := isUpper_iff.1 hupper
    omega

set_option maxRecDepth 4000 in
/-- ASCII letters are cased, and none is passed over in the search for one that is. -/
theorem classes_of_isAlpha (h : c.isAlpha = true) :
    caseIgnorables.contains c = false ∧ casedLetters.contains c = true := by
  rw [isAlpha_iff, isUpper_iff, isLower_iff] at h
  constructor
  · have hrows : (caseIgnorables.ranges.all fun r =>
        Nat.blt r.2 0x41 || (Nat.blt 0x5A r.1 && Nat.blt r.2 0x61) || Nat.blt 0x7A r.1) = true := by
      decide
    rw [← Bool.not_eq_true, CharSet.contains_iff]
    rintro ⟨r, hr, hlow, hhigh⟩
    have hrow := List.all_eq_true.1 hrows r hr
    simp only [Bool.or_eq_true, Bool.and_eq_true, Nat.blt_eq] at hrow
    omega
  · rw [CharSet.contains_iff]
    rcases h with h | h
    · exact ⟨(0x41, 0x5A), by decide, h⟩
    · exact ⟨(0x61, 0x7A), by decide, h⟩

theorem classes_toLower (c : Char) :
    caseIgnorables.contains c.toLower = caseIgnorables.contains c ∧
      casedLetters.contains c.toLower = casedLetters.contains c := by
  cases h : c.isUpper with
  | false => rw [toLower_eq_self h]; exact ⟨rfl, rfl⟩
  | true =>
    have hcapital := classes_of_isAlpha (isAlpha_iff.2 (.inl h))
    have hsmall := classes_of_isAlpha (isAlpha_toLower h)
    rw [hcapital.1, hcapital.2, hsmall.1, hsmall.2]
    exact ⟨rfl, rfl⟩

theorem lowerChar_toLower (c : Char) : lowerChar c.toLower = lowerChar c := by
  cases h : c.isUpper with
  | false => rw [toLower_eq_self h]
  | true =>
    have hcapital := toNat_of_isAlpha (isAlpha_iff.2 (.inl h))
    have hsmall := toNat_of_isAlpha (isAlpha_toLower h)
    rw [lowerChar, lowerChar, if_pos hcapital, if_pos hsmall, toLower_toLower h]

theorem toLower_eq_capitalSigma : c.toLower = capitalSigma ↔ c = capitalSigma := by
  cases h : c.isUpper with
  | false => rw [toLower_eq_self h]
  | true =>
    have hcapital := toNat_of_isAlpha (isAlpha_iff.2 (.inl h))
    have hsmall := toNat_of_isAlpha (isAlpha_toLower h)
    have hsigma : capitalSigma.toNat = 0x3A3 := rfl
    constructor
    · intro heq
      rw [heq] at hsmall
      omega
    · intro heq
      rw [heq] at hcapital
      omega

/-! ## Texts -/

theorem reachesCased_map_toLower (s : List Char) :
    reachesCased (s.map Char.toLower) = reachesCased s := by
  have hpassed : caseIgnorables.contains ∘ Char.toLower = caseIgnorables.contains :=
    funext fun c => (classes_toLower c).1
  unfold reachesCased
  rw [List.dropWhile_map, hpassed]
  cases s.dropWhile caseIgnorables.contains with
  | nil => rfl
  | cons c cs => exact (classes_toLower c).2

theorem lowerAfter_map_toLower (before s : List Char) :
    lowerAfter (before.map Char.toLower) (s.map Char.toLower) = lowerAfter before s := by
  -- a sigma looks back at the letters before it, so they change case along with the others
  induction s generalizing before with
  | nil => rfl
  | cons c s ih =>
    have hrest := ih (c :: before)
    rw [List.map_cons] at hrest
    rw [List.map_cons, lowerAfter, lowerAfter, lowerSigma, lowerSigma, reachesCased_map_toLower,
      reachesCased_map_toLower, lowerChar_toLower, hrest]
    simp only [toLower_eq_capitalSigma]

/-- Texts that differ in the case of ASCII letters only have one lower case. -/
theorem lower_eq_of_map_toLower {s t : List Char}
    (h : s.map Char.toLower = t.map Char.toLower) : lower s = lower t :=
  calc lower s
    _ = lower (s.map Char.toLower) := (lowerAfter_map_toLower [] s).symm
    _ = lower (t.map Char.toLower) := by rw [h]
    _ = lower t := lowerAfter_map_toLower [] t

end Bibliography.Unicode
