import Bibliography.Unicode.Blank

/-! # Texts

A text is a list of characters. This module holds

* `splitWhere`, `splitOn` and `words`, which cut a text at separators;
* `joinWith`, which puts one back together;
* `trim`, which takes the blanks off both ends.

A string literal stands for its list of characters.
-/

namespace Bibliography
set_option autoImplicit false

/-- A text: a list of characters. -/
abbrev Text := List Char

instance : Coe String Text := ⟨String.toList⟩

namespace Text
open Unicode

/-! ## Cutting and joining -/

/-- The pieces between the characters with the given property; there is one piece more than such
characters. -/
def splitWhere (p : Char → Bool) : Text → List Text
  | [] => [[]]
  | c :: cs =>
    if p c then [] :: splitWhere p cs
    else
      match splitWhere p cs with
      | [] => [[c]]
      | w :: ws => (c :: w) :: ws

/-- The pieces between the occurrences of one character. -/
def splitOn (sep : Char) (s : Text) : List Text := splitWhere (· == sep) s

/-- The texts one after the other with a separator between any two. -/
def joinWith (sep : Text) : List Text → Text
  | [] => []
  | [t] => t
  | t :: u :: ts => t ++ sep ++ joinWith sep (u :: ts)

/-- The maximal runs of characters that are not blank. -/
def words (s : Text) : List Text := (splitWhere isBlank s).filter fun w => !w.isEmpty

theorem splitWhere_ne_nil (p : Char → Bool) (s : Text) : splitWhere p s ≠ [] := by
  cases s with
  | nil => simp [splitWhere]
  | cons c cs =>
    simp only [splitWhere]
    split
    · simp
    · split <;> simp

theorem joinWith_cons (sep t : Text) {ts : List Text} (h : ts ≠ []) :
    joinWith sep (t :: ts) = t ++ sep ++ joinWith sep ts := by
  cases ts with
  | nil => exact absurd rfl h
  | cons u us => rfl

/-- Cutting at a character and joining with it again loses nothing. -/
theorem joinWith_splitOn (sep : Char) (s : Text) : joinWith [sep] (splitOn sep s) = s := by
  induction s with
  | nil => rfl
  | cons c cs ih =>
    rw [splitOn, splitWhere]
    split
    · rename_i h
      rw [joinWith_cons _ _ (splitWhere_ne_nil _ _)]
      simp only [splitOn] at ih
      simp [ih, eq_of_beq h]
    · simp only [splitOn] at ih
      cases hw : splitWhere (fun x => x == sep) cs with
      | nil => exact absurd hw (splitWhere_ne_nil _ _)
      | cons w ws =>
        rw [hw] at ih
        cases ws with
        | nil => simpa [joinWith] using ih
        | cons v vs => simpa [joinWith] using ih

/-! ## Trimming -/

/-- The text without the blanks at its end. -/
def trimEnd (s : Text) : Text := (s.reverse.dropWhile isBlank).reverse

/-- The text without the blanks at either end. -/
def trim (s : Text) : Text := trimEnd (s.dropWhile isBlank)

end Text
end Bibliography
