import Bibliography.Export.Config
import Bibliography.Link
import Bibliography.Text.Numeral

/-! # Field values

What a field is made of: numbers, rich text, and lists of such. A value is escaped as a whole; one
with nothing in it is not written.
-/

namespace Bibliography.Export
set_option autoImplicit false
open Text

/-- The value of a field. -/
inductive FieldValue
  | number (n : Int)
  | text (s : Text)
  /-- Text in braces of its own, which keep it as it is. -/
  | literal (s : Text)
  | list (items : List FieldValue)

/-- How a value is escaped. -/
structure EscapeStyle where
  /-- What stands between the items of a list. -/
  separator : Text
  /-- Asks for braces around texts, which the configuration may grant. -/
  brace : Bool
deriving DecidableEq, Repr

namespace EscapeStyle

/-- Commas between items, and no braces. -/
def standard : EscapeStyle := ⟨",", false⟩

/-- Another separator. -/
def separated (separator : Text) : EscapeStyle := { standard with separator }

/-- Braces are asked for. -/
def braced : EscapeStyle := { standard with brace := true }

end EscapeStyle

/-- The text in braces. -/
def inBraces (s : Text) : Text := r"{" ++ s ++ r"}"

namespace FieldValue

/-- A text that is not empty, converted, and in braces if they are wanted. -/
def escapeText (mode : Latex.Mode) (braces : Bool) (s : Text) : Option Text :=
  if s.isEmpty then none
  else if braces then some (inBraces (Markup.toLatex mode s))
  else some (Markup.toLatex mode s)

mutual

/-- The LaTeX of a value, if there is anything in it. -/
def escape (options : EscapeStyle) (config : Config) : FieldValue → Option Text
  | .number n => some (signedDecimal n)
  | .text s => escapeText config.mode (options.brace && config.braceAll) s
  | .literal s => escapeText config.mode true s
  | .list items =>
    let found := escapeItems options config items
    if found.isEmpty then none else some (joinWith options.separator found)

/-- The LaTeX of the items that have anything in them. -/
def escapeItems (options : EscapeStyle) (config : Config) : List FieldValue → List Text
  | [] => []
  | v :: vs =>
    match escape options config v with
    | some s => s :: escapeItems options config vs
    | none => escapeItems options config vs

end

end FieldValue
end Bibliography.Export
