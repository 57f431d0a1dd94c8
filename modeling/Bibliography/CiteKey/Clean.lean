import Bibliography.Text.Basic
import Bibliography.Unicode.Compatibility
import Bibliography.Unicode.Mark

/-! # Clean keys

A key keeps to characters every bibliography tool accepts: ASCII letters, digits and some
punctuation. Accents are dropped from their letters first, and letters that are no accented form of
an ASCII letter are spelled out.
-/

namespace Bibliography.CiteKey
set_option autoImplicit false
open Unicode

/-- Letters without a decomposition, and how they are spelled. -/
def spelledLetters : List (Char × Text) := [
  ('ß', "ss"), ('Æ', "AE"), ('æ', "ae"), ('Œ', "OE"), ('œ', "oe"), ('Ø', "O"), ('ø', "o"),
  ('Ł', "L"), ('ł', "l"), ('Đ', "D"), ('đ', "d"), ('Ð', "D"), ('ð', "d"), ('Þ', "TH"),
  ('þ', "th"), ('ı', "i")
]

/-- A letter spelled out, any other character as it is. -/
def spellLetter (c : Char) : Text := (spelledLetters.lookup c).getD [c]

/-- The text without accents. -/
def withoutAccents (s : Text) : Text :=
  ((compatible s).filter fun c => !isMark c).flatMap spellLetter

/-- Punctuation a key may contain. -/
def safePunctuation : Text := "-_!$*+./:;?[]"

/-- A character a key may contain. -/
def isSafe (c : Char) : Bool := c.isAlphanum || safePunctuation.contains c

/-- What is left of a text in a key. -/
def clean (s : Text) : Text := Text.trim ((withoutAccents s).filter isSafe)

/-- The words of a text, each cleaned; words of which nothing is left are dropped. -/
def cleanWords (s : Text) : List Text := ((Text.words s).map clean).filter fun w => !w.isEmpty

theorem isSafe_of_mem_trim {s : Text} {c : Char} (h : c ∈ Text.trim s) : c ∈ s := by
  unfold Text.trim Text.trimEnd at h
  have h1 := (List.dropWhile_sublist _).mem (List.mem_reverse.1 h)
  exact (List.dropWhile_sublist _).mem (List.mem_reverse.1 h1)

/-- A clean text holds safe characters only. -/
theorem isSafe_of_mem_clean {s : Text} {c : Char} (h : c ∈ clean s) : isSafe c = true :=
  (List.mem_filter.1 (isSafe_of_mem_trim h)).2

end Bibliography.CiteKey
