import Bibliography.Proofs.Unicode.Ascii
import Bibliography.Text.Words
import Bibliography.Unicode.Lowercase

/-! # Words, letters and digits

ASCII letters and digits are parts of words, and letter case means for ASCII letters what it means
in ASCII. A digit of any script is a part of a word, so that a numeral ends where a word does.
`atWordStarts` passes over a word where its test fails, and goes on behind it.
-/

namespace Bibliography.Text
set_option autoImplicit false
open Unicode

/-! ## Letters -/

theorem isWord_of_isAlphanum {c : Char} (h : c.isAlphanum = true) : isWord c = true := by
  rw [isWord, if_pos (toNat_of_isAlphanum h), h]
  rfl

theorem isWord_of_isAlpha {c : Char} (h : c.isAlpha = true) : isWord c = true :=
  isWord_of_isAlphanum (isAlphanum_iff.2 (.inl h))

theorem foldLetter_of_isAlpha {c : Char} (h : c.isAlpha = true) : foldLetter c = c.toLower := by
  have hlong : c ≠ '\u017f' := by
    rintro rfl
    exact absurd h (by decide)
  have hkelvin : c ≠ '\u212a' := by
    rintro rfl
    exact absurd h (by decide)
  rw [foldLetter, if_neg hlong, if_neg hkelvin]

set_option maxRecDepth 4000 in
/-- The long s and the kelvin sign are parts of words too. -/
theorem isWord_of_foldLetter {c : Char} (h : (foldLetter c).isLower = true) : isWord c = true := by
  rw [foldLetter] at h
  split at h
  · next hlong =>
    rw [hlong]
    decide
  · split at h
    · next hkelvin =>
      rw [hkelvin]
      decide
    · exact isWord_of_isAlpha (isAlpha_of_toLower h)

theorem lowerAfter_of_isAlpha {s : Text} (h : ∀ c ∈ s, c.isAlpha = true) (before : Text) :
    lowerAfter before s = s.map Char.toLower := by
  induction s generalizing before with
  | nil => rfl
  | cons c s ih =>
    rw [List.forall_mem_cons] at h
    have hsigma : c ≠ capitalSigma := by
      rintro rfl
      exact absurd h.1 (by decide)
    rw [lowerAfter, if_neg hsigma, lowerChar, if_pos (toNat_of_isAlpha h.1), ih h.2,
      List.map_cons]
    rfl

/-! ## Word boundaries -/

theorem atBoundary_iff {s : Text} : atBoundary s = true ↔ ∀ c ∈ s.head?, isWord c = false := by
  cases s with
  | nil => simp [atBoundary]
  | cons c s => simp [atBoundary]

theorem atBoundary_append {s rest : Text} (hs : atBoundary s = true)
    (hrest : atBoundary rest = true) : atBoundary (s ++ rest) = true := by
  cases s with
  | nil => exact hrest
  | cons c s => exact hs

/-! ## Digits -/

/-- Among the ASCII characters only the ASCII digits are digits. -/
theorem isDigit_of_ascii {c : Char} (h : c.toNat < 0x80) : isDigit c = c.isDigit := by
  have hrows : ∀ r ∈ decimalDigits.ranges, r = (0x30, 0x39) ∨ 0x80 ≤ r.1 := by decide
  rw [Bool.eq_iff_iff, isDigit, CharSet.contains_iff, Char.isDigit_iff_toNat]
  constructor
  · rintro ⟨r, hr, hlow, hhigh⟩
    rcases hrows r hr with rfl | hbeyond
    · exact ⟨hlow, hhigh⟩
    · omega
  · exact fun hdigit => ⟨(0x30, 0x39), List.mem_cons_self, hdigit⟩

theorem isDigit_of_isDigit {c : Char} (h : c.isDigit = true) : isDigit c = true := by
  rw [isDigit_of_ascii (toNat_of_isAlphanum (isAlphanum_iff.2 (.inr h))), h]

theorem isDigit_of_isAlpha {c : Char} (h : c.isAlpha = true) : isDigit c = false := by
  rw [isDigit_of_ascii (toNat_of_isAlpha h), ← Bool.not_eq_true, Char.isDigit_iff_toNat]
  rw [isAlpha_iff, isUpper_iff, isLower_iff] at h
  have hnine : '9'.toNat = 0x39 := rfl
  omega

/-- Letters are no digits, in whatever case they are read. -/
theorem isDigit_of_foldLetter {c : Char} (h : (foldLetter c).isLower = true) :
    isDigit c = false := by
  rw [foldLetter] at h
  split at h
  · next hlong =>
    rw [hlong]
    decide
  · split at h
    · next hkelvin =>
      rw [hkelvin]
      decide
    · exact isDigit_of_isAlpha (isAlpha_of_toLower h)

/-- No letter is found where a digit stands. -/
theorem afterLetters?_of_isDigit {letters rest : Text} {c : Char} (hne : letters ≠ [])
    (hletters : ∀ d ∈ letters, d.isLower = true) (hc : isDigit c = true) :
    afterLetters? letters (c :: rest) = none := by
  cases letters with
  | nil => exact absurd rfl hne
  | cons d letters =>
    have hfolded : foldLetter c ≠ d := by
      rintro rfl
      rw [isDigit_of_foldLetter (hletters _ List.mem_cons_self)] at hc
      cases hc
    rw [afterLetters?, if_neg hfolded]

set_option maxRecDepth 8000 in
/-- The intervals of the digits lie within intervals of parts of words. -/
theorem digits_within_words : (decimalDigits.ranges.all fun r =>
    wordCharacters.ranges.any fun w => r.2.ble w.2 && w.1.ble r.1) = true := by decide

theorem isWord_of_isDigit {c : Char} (h : isDigit c = true) : isWord c = true := by
  by_cases hascii : c.toNat < 0x80
  · rw [isDigit_of_ascii hascii] at h
    exact isWord_of_isAlphanum (isAlphanum_iff.2 (.inr h))
  · obtain ⟨r, hr, hlow, hhigh⟩ := CharSet.contains_iff.1 h
    rw [isWord, if_neg hascii]
    exact CharSet.contains_of_within (List.all_eq_true.1 digits_within_words r hr) hlow hhigh

/-- Where no word goes on, no numeral does. -/
theorem isDigit_head_of_atBoundary {s : Text} (h : atBoundary s = true) :
    ∀ c ∈ s.head?, isDigit c = false := by
  intro c hc
  cases hdigit : isDigit c with
  | false => rfl
  | true =>
    have hword := atBoundary_iff.1 h c hc
    rw [isWord_of_isDigit hdigit] at hword
    cases hword

theorem digitRun_append {s rest : Text} (hs : ∀ c ∈ s, c.isDigit = true)
    (hrest : ∀ c ∈ rest.head?, isDigit c = false) : digitRun (s ++ rest) = (s, rest) := by
  have hdigits : ∀ c ∈ s, isDigit c = true := fun c hc => isDigit_of_isDigit (hs c hc)
  rw [digitRun, takeWhile_of_stop hdigits hrest, dropWhile_of_stop hdigits hrest]

/-! ## Word starts -/

section
variable {α : Type} {test : Text → Option α} {inWord : Bool} {c : Char} {word rest : Text}

theorem atWordStarts_of_test {a : α} (hne : rest ≠ []) (h : test rest = some a) :
    atWordStarts test false rest = some a := by
  cases rest with
  | nil => exact absurd rfl hne
  | cons c cs => simp only [atWordStarts, Bool.false_eq_true, if_false, h]

/-- Inside a word nothing is tried, and elsewhere a test that fails is passed over. -/
theorem atWordStarts_cons (h : inWord = false → test (c :: rest) = none) :
    atWordStarts test inWord (c :: rest) = atWordStarts test (isWord c) rest := by
  cases inWord with
  | true => rfl
  | false => simp only [atWordStarts, Bool.false_eq_true, if_false, h rfl]

theorem atWordStarts_inside (hword : ∀ c ∈ word, isWord c = true) :
    atWordStarts test true (word ++ rest) = atWordStarts test true rest := by
  induction word with
  | nil => rfl
  | cons c word ih =>
    rw [List.forall_mem_cons] at hword
    rw [List.cons_append, atWordStarts_cons (fun h => by cases h), hword.1, ih hword.2]

/-- A word at whose start the test fails is passed over as a whole, with what separates it from the
next one. -/
theorem atWordStarts_word (hne : word ≠ []) (hword : ∀ c ∈ word, isWord c = true)
    (hc : isWord c = false) (h : test (word ++ c :: rest) = none) :
    atWordStarts test false (word ++ c :: rest) = atWordStarts test false rest := by
  cases word with
  | nil => exact absurd rfl hne
  | cons d word =>
    rw [List.forall_mem_cons] at hword
    have hpassed : atWordStarts test false (d :: word ++ c :: rest) =
        atWordStarts test (isWord d) (word ++ c :: rest) := atWordStarts_cons fun _ => h
    rw [hpassed, hword.1, atWordStarts_inside hword.2, atWordStarts_cons (fun h => by cases h), hc]

end
end Bibliography.Text
