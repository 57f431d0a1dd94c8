import Bibliography.Markup.Tag

/-! # Warnings about markup

What is wrong with the tags of a text. None of it stops a conversion.
-/

namespace Bibliography.Markup
set_option autoImplicit false
open Text

/-- The most tags that may be open at a time. -/
def maxDepth : Nat := 64

/-- Something wrong with the tags. -/
inductive Warning
  /-- A closing tag for which none is open; it is dropped. -/
  | unexpectedClose (tag : Tag)
  /-- A closing tag that closed inner tags too, given innermost first. -/
  | implicitlyClosed (tag : Tag) (closed : List Tag)
  /-- Tags that were open in the end, given innermost first. -/
  | unclosed (tags : List Tag)
  /-- An opening tag beyond the depth that is allowed; it is dropped. -/
  | tooDeep (tag : Tag)
deriving DecidableEq, Repr

/-- How a warning reads. -/
def Warning.message : Warning → Text
  | unexpectedClose tag => "Ignoring unexpected close tag \"" ++ tag.name ++ "\""
  | implicitlyClosed tag closed =>
    "Unexpected close tag \"" ++ tag.name ++ "\", closing \"" ++
      joinWith ", " (closed.map Tag.name) ++ "\""
  | unclosed tags => "Unmatched HTML tags: " ++ joinWith ", " (tags.map Tag.name)
  | tooDeep tag =>
    "Ignoring \"" ++ tag.name ++ "\", tags nested deeper than 64"

end Bibliography.Markup
