import Bibliography.Unicode.CombiningClass
import Bibliography.Unicode.Decomposition.Alphabetic
import Bibliography.Unicode.Decomposition.EastAsian
import Bibliography.Unicode.Decomposition.Presentation
import Bibliography.Unicode.Decomposition.Supplementary
import Bibliography.Unicode.Decomposition.Symbolic

/-! # Compatibility decomposition

`decompose` gives the parts of one character: a letter and its marks, the letters of a ligature, the
jamo of a Hangul syllable. `compatible` decomposes a text and puts its marks in order, which is the
normalization form NFKD.
-/

namespace Bibliography.Unicode
set_option autoImplicit false

/-- All rows of the table, in the order of code points. -/
def decompositionRows : List (Nat × List String) :=
  Decomposition.alphabetic ++ Decomposition.symbolic ++ Decomposition.eastAsian ++
    Decomposition.presentation ++ Decomposition.supplementary

/-- The decomposition a table gives for a code point; a row holds at most 32. -/
def tabulated (rows : List (Nat × List String)) (n : Nat) : Option (List Char) :=
  rows.findSome? fun row =>
    if row.1 ≤ n && n < row.1 + 32 then row.2[n - row.1]?.map String.toList else none

/-! ## Hangul -/

/-- The number of Hangul syllables. -/
def hangulCount : Nat := 11172

/-- The jamo of the syllable of the given index: a leading consonant, a vowel and possibly a
trailing consonant. -/
def jamo (i : Nat) : List Char :=
  let lead := Char.ofNat (0x1100 + i / 588)
  let vowel := Char.ofNat (0x1161 + i % 588 / 28)
  if i % 28 = 0 then [lead, vowel] else [lead, vowel, Char.ofNat (0x11A7 + i % 28)]

/-! ## Characters and texts -/

/-- The full compatibility decomposition of a character; an ASCII character is its own. -/
def decompose (c : Char) : List Char :=
  let n := c.toNat
  if n < 0x80 then [c]
  else if 0xAC00 ≤ n && n < 0xAC00 + hangulCount then jamo (n - 0xAC00)
  else (tabulated decompositionRows n).getD [c]

/-- The normalization form NFKD of a text. -/
def compatible (s : List Char) : List Char := orderMarks (s.flatMap decompose)

end Bibliography.Unicode
