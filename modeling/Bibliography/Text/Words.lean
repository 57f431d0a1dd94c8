import Bibliography.Text.Search
import Bibliography.Unicode.Digit
import Bibliography.Unicode.Word

/-! # Word starts and letter case

`atWordStarts` tries a test at every place where a word may start. `sameLetters` compares a text
with small ASCII letters regardless of case; the long s and the kelvin sign count as letters there.
-/

namespace Bibliography.Text
set_option autoImplicit false
open Unicode

/-- The first outcome of a test at a place that does not follow a word character. `inWord` tells
whether the character before the text is one. -/
def atWordStarts {α : Type} (test : Text → Option α) (inWord : Bool) : Text → Option α
  | [] => none
  | c :: cs =>
    match if inWord then none else test (c :: cs) with
    | some a => some a
    | none => atWordStarts test (isWord c) cs

/-- The small letter a character counts as when case does not matter. -/
def foldLetter (c : Char) : Char :=
  if c = '\u017f' then 's' else if c = '\u212a' then 'k' else c.toLower

/-- What follows the given small letters, in whatever case they are written. -/
def afterLetters? : Text → Text → Option Text
  | [], s => some s
  | _ :: _, [] => none
  | p :: ps, c :: cs => if foldLetter c = p then afterLetters? ps cs else none

theorem afterLetters?_eq_some_iff {p s r : Text} :
    afterLetters? p s = some r ↔ ∃ word, s = word ++ r ∧ word.map foldLetter = p := by
  fun_induction afterLetters? p s with
  | case1 s => simp [eq_comm]
  | case2 p ps =>
    constructor
    · intro h
      cases h
    · rintro ⟨word, hnil, hword⟩
      obtain ⟨rfl, -⟩ := List.append_eq_nil_iff.1 hnil.symm
      cases hword
  | case3 ps c cs ih =>
    rw [ih]
    constructor
    · rintro ⟨word, rfl, rfl⟩
      exact ⟨c :: word, rfl, rfl⟩
    · rintro ⟨_ | ⟨d, word⟩, hs, hword⟩
      · cases hword
      · obtain ⟨-, rfl⟩ := List.cons.inj hs
        exact ⟨word, rfl, (List.cons.inj hword).2⟩
  | case4 p ps c cs hc =>
    constructor
    · intro h
      cases h
    · rintro ⟨_ | ⟨d, word⟩, hs, hword⟩
      · cases hword
      · obtain ⟨rfl, -⟩ := List.cons.inj hs
        exact absurd (List.cons.inj hword).1 hc

theorem length_of_afterLetters? {p s r : Text} (h : afterLetters? p s = some r) :
    s.length = p.length + r.length := by
  obtain ⟨word, rfl, rfl⟩ := afterLetters?_eq_some_iff.1 h
  rw [List.length_append, List.length_map]

/-- The text is made of the given small letters, in whatever case they are written. -/
def sameLetters (letters s : Text) : Bool := afterLetters? letters s == some []

theorem sameLetters_iff {letters s : Text} :
    sameLetters letters s = true ↔ s.map foldLetter = letters := by
  simp [sameLetters, afterLetters?_eq_some_iff]

/-- The digits a text begins with, and what follows them. -/
def digitRun (s : Text) : Text × Text := (s.takeWhile isDigit, s.dropWhile isDigit)

end Bibliography.Text
