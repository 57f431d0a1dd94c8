import Bibliography.Text.Basic
import Bibliography.Unicode.Lowercase

/-! # Tags

The markup of rich text is a fixed set of tags. Each has the LaTeX that opens and closes it; a void
tag has no content and needs no closing tag.
-/

namespace Bibliography.Markup
set_option autoImplicit false

/-- A tag of the markup. -/
inductive Tag
  | superscript
  | subscript
  | italic
  | bold
  | paragraph
  | span
  | lineBreak
  /-- The long name of a line break. -/
  | longBreak
deriving DecidableEq, Repr

namespace Tag

/-- All tags. -/
def all : List Tag :=
  [superscript, subscript, italic, bold, paragraph, span, lineBreak, longBreak]

/-- The name of a tag. -/
def name : Tag → Text
  | superscript => "sup"
  | subscript => "sub"
  | italic => "i"
  | bold => "b"
  | paragraph => "p"
  | span => "span"
  | lineBreak => "br"
  | longBreak => "break"

/-- The tag with the given name, in any letter case. -/
def ofName? (s : Text) : Option Tag :=
  let name := Unicode.lower s
  all.find? fun t => t.name == name

/-- The LaTeX for the opening tag. -/
def opening : Tag → Text
  | superscript => r"\ensuremath{^{"
  | subscript => r"\ensuremath{_{"
  | italic => r"\emph{"
  | bold => r"\textbf{"
  | span => ""
  | paragraph | lineBreak | longBreak => "\n\n"

/-- The LaTeX for the closing tag. -/
def closing : Tag → Text
  | superscript | subscript => r"}}"
  | italic | bold => r"}"
  | paragraph => "\n\n"
  | span | lineBreak | longBreak => ""

/-- The tag has no content. -/
def isVoid : Tag → Bool
  | lineBreak | longBreak => true
  | _ => false

end Tag
end Bibliography.Markup
