import Bibliography.Text.Quoted

/-! # What can be wrong with a JSON text

A reader meets one of three faults first: the text ends too early, it is not JSON, or it is JSON of
another shape than the one wanted. Only the last has a message.
-/

namespace Bibliography.Json
set_option autoImplicit false

/-- Why a JSON text was refused. -/
inductive Fault
  /-- The text ends before the value does. -/
  | truncated
  /-- The text is not JSON. -/
  | malformed
  /-- The value has the wrong shape. -/
  | misshapen (message : Text)
deriving DecidableEq, Repr

/-- A name between the quotes messages use. -/
def ticked (name : Text) : Text := "`" ++ name ++ "`"

namespace Fault

/-- A value of one kind where another was wanted. -/
def wrongKind (found expected : Text) : Fault :=
  .misshapen ("invalid type: " ++ found ++ ", expected " ++ expected)

/-- A member that must be there is not. -/
def missing (name : Text) : Fault := .misshapen ("missing field " ++ ticked name)

/-- A member is given twice. -/
def repeated (name : Text) : Fault := .misshapen ("duplicate field " ++ ticked name)

/-- The array form of an object stops too early. -/
def tooShort (length : Nat) (expected : Text) : Fault :=
  .misshapen ("invalid length " ++ Text.decimal length ++ ", expected " ++ expected)

/-- A word that is none of those allowed. -/
def unknownWord (word : Text) (allowed : List Text) : Fault :=
  .misshapen
    ("unknown variant " ++ ticked word ++ ", expected one of " ++
      Text.joinWith ", " (allowed.map ticked))

end Fault

/-- A reader takes a value off the beginning of a text and returns it with what follows. -/
abbrev Reader (α : Type) := Text → Except Fault (α × Text)

/-- The blanks between the tokens of a JSON text. -/
def isSpace (c : Char) : Bool := c == ' ' || c == '\n' || c == '\t' || c == '\r'

/-- The text from its first token on. -/
def skipSpace (s : Text) : Text := s.dropWhile isSpace

end Bibliography.Json
