import Bibliography.Text.Numeral
import Bibliography.Unicode.Printable

/-! # Quoted texts

A text in double quotes on one line, as messages show it. Quotes and backslashes are escaped, the
common controls have a letter, and any other character that would not show is given by number.
-/

namespace Bibliography.Text
set_option autoImplicit false

/-- The character by its code point, in small hexadecimal digits between braces. -/
def codePoint (c : Char) : Text := r"\u{" ++ hex 1 c.toNat ++ r"}"

/-- A character as it stands between the quotes. -/
def quotedChar (c : Char) : Text :=
  if c = '"' then "\\\""
  else if c = '\\' then "\\\\"
  else if c = '\n' then "\\n"
  else if c = '\r' then "\\r"
  else if c = '\t' then "\\t"
  else if c.toNat = 0 then "\\0"
  else if Unicode.isPlain c then [c]
  else codePoint c

/-- The text in double quotes. -/
def quoted (s : Text) : Text := "\"" ++ s.flatMap quotedChar ++ "\""

end Bibliography.Text
