import Bibliography.Latex.Spelling
import Bibliography.Text.Numeral
import Bibliography.Unicode.Compatibility
import Bibliography.Unicode.Mark

/-! # Letters without a spelling of their own

A character outside the tables is decomposed into base letters and marks. A mark becomes an accent
command around its letter, the first mark innermost; what has no ASCII form at all is given by
number.
-/

namespace Bibliography.Latex
set_option autoImplicit false
open Unicode

/-! ## Marks -/

/-- Marks and the commands that draw them. -/
def accents : List (Char × Text) := [
  ('\u0300', "`"), ('\u0301', "'"), ('\u0302', "^"), ('\u0303', "~"), ('\u0304', "="),
  ('\u0306', "u"), ('\u0307', "."), ('\u0308', "\""), ('\u030a', "r"), ('\u030b', "H"),
  ('\u030c', "v"), ('\u0323', "d"), ('\u0326', "c"), ('\u0327', "c"), ('\u0328', "k"),
  ('\u0331', "b")
]

/-- The command that draws a mark. -/
def accent? (mark : Char) : Option Text := accents.lookup mark

/-- Commands whose marks are drawn below the letter, which keeps its dot. -/
def drawnBelow : List Text := ["d", "c", "k", "b"]

/-- The mark takes the place of the dot on an `i` or a `j`. -/
def replacesDot (mark : Char) : Bool :=
  (accent? mark).any fun command => !drawnBelow.contains command

/-- The letter under an accent; a command of letters is set off by a space. -/
def accented (command letter : Text) : Text :=
  if command.all Char.isAlpha then r"{\" ++ command ++ " " ++ letter ++ r"}"
  else r"{\" ++ command ++ letter ++ r"}"

/-- The letter with its marks, the first one innermost; a mark without a command is dropped. -/
def withMarks (letter : Text) (marks : List Char) : Text :=
  marks.foldl (fun letter mark => (accent? mark).elim letter fun command => accented command letter)
    letter

/-! ## Letters -/

/-- The character by number, in at least four capital hexadecimal digits. -/
def byNumber (c : Char) : Text := r#"{\char""# ++ Text.capitalHex 4 c.toNat ++ r"}"

/-- A base letter on its own. -/
def bareLetter (base : Char) : Text :=
  match spelling? .ascii base with
  | some s => if base.toNat < 0x80 || !s.math then s.latex else byNumber base
  | none => if base.toNat < 0x80 then [base] else byNumber base

/-- A base letter as the first of its marks wants it: without its dot under a mark above. -/
def baseLetter (base : Char) (marks : List Char) : Text :=
  if (base = 'i' || base = 'j') && marks.head?.any replacesDot then ['\\', base]
  else bareLetter base

/-- A decomposed text. A mark with no letter before it is given by number, and the marks on it are
dropped. -/
def spellParts : Text → Text
  | [] => []
  | base :: rest =>
    let marks := rest.takeWhile isMark
    let first := if isMark base then byNumber base else withMarks (baseLetter base marks) marks
    first ++ spellParts (rest.dropWhile isMark)
termination_by s => s.length
decreasing_by
  have := (List.dropWhile_sublist isMark (l := rest)).length_le
  simp only [List.length_cons]
  omega

/-- The spelling of a character that is in no table. -/
def spellOut (c : Char) : Text := spellParts (compatible [c])

end Bibliography.Latex
