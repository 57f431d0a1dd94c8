import Bibliography.Markup.Conversion

/-! # Links

A link is escaped as little as it can be: the seven characters LaTeX would not leave alone get a
backslash. Where the output must be ASCII, the bytes of everything that is not a visible ASCII
character are given by number.
-/

namespace Bibliography.Link
set_option autoImplicit false

/-- Characters that get a backslash. -/
def escaped : Text := r"#\_%&{}"

/-- A byte by number, with the escape its percent sign needs. -/
def byNumber (byte : UInt8) : Text := "\\%" ++ Text.hex 2 byte.toNat

/-- A visible ASCII character. -/
def isVisible (c : Char) : Bool := 0x21 ≤ c.toNat && c.toNat ≤ 0x7E

/-- A character of a link. -/
def escapeChar (mode : Latex.Mode) (c : Char) : Text :=
  if escaped.contains c then ['\\', c]
  else if isVisible c || mode = .unicode then [c]
  else (String.utf8EncodeChar c).flatMap byNumber

/-- A link or an identifier, escaped. -/
def escape (mode : Latex.Mode) (s : Text) : Text := s.flatMap (escapeChar mode)

/-- A link as a value; a fancy one names its target and shows the link as text. -/
def toLatex (mode : Latex.Mode) (fancy : Bool) (s : Text) : Text :=
  if fancy then
    r"\href{" ++ escape mode s ++ r"}{" ++ Markup.toLatex mode s ++ r"}"
  else escape mode s

end Bibliography.Link
