import Bibliography.Latex.Escape
import Bibliography.Latex.Group

/-! # Decoding LaTeX

The spellings of the tables are replaced by their characters everywhere in a text, longer spellings
first, so that no spelling is taken for the beginning of another. Then groups in math mode are
opened and blanks are collapsed.
-/

namespace Bibliography.Latex
set_option autoImplicit false
open Text

/-! ## The order of the spellings -/

/-- Spellings that can be told from plain text, with their characters, in the order of the tables.
-/
def decodable : List (Text × Char) :=
  ((specials ++ letters ++ signs ++ greekLetters ++ symbols).map fun p => (p.2.toList, p.1)).filter
    fun p => 1 < p.1.length

/-- Longer spellings first; the tables decide among spellings of one length. -/
def longestFirst (rules : List (Text × Char)) : List (Text × Char) :=
  let longest := rules.foldl (fun n p => max n p.1.length) 0
  (List.range (longest + 1)).reverse.flatMap fun n => rules.filter fun p => p.1.length == n

/-- Of two rules with the same spelling the first one counts. -/
def firstOfEach : List (Text × Char) → List (Text × Char)
  | [] => []
  | p :: ps => p :: (firstOfEach ps).filter fun q => q.1 != p.1

/-- The replacements, in the order in which they are made. -/
def decodingRules : List (Text × Char) := firstOfEach (longestFirst decodable)

/-- The spellings of the tables replaced by their characters. -/
def decodeSpellings (s : Text) : Text :=
  decodingRules.foldl (fun s p => replaceAll p.1 [p.2] s) s

/-! ## Groups -/

/-- Groups in math mode without braces inside are replaced by what they hold. -/
def openMathGroups (s : Text) : Text := (flatGroup [mathOpen] []).replace id s

/-! ## Blanks -/

/-- The blanks of a source text. -/
def isSourceBlank (c : Char) : Bool := c == ' ' || c == '\n' || c == '\r' || c == '\t'

/-- Every run of blanks replaced by one space. `inRun` tells whether a run has begun. -/
def collapseFrom (inRun : Bool) : Text → Text
  | [] => []
  | c :: cs =>
    if isSourceBlank c then
      if inRun then collapseFrom true cs else ' ' :: collapseFrom true cs
    else c :: collapseFrom false cs

/-- Every run of blanks replaced by one space. -/
def collapseBlanks (s : Text) : Text := collapseFrom false s

/-- The text a LaTeX text stands for, as far as the tables know it. -/
def decode (s : Text) : Text := trim (collapseBlanks (openMathGroups (decodeSpellings s)))

end Bibliography.Latex
