import Bibliography.Json.Chars

/-! # Writing JSON

A value to be written, and its two layouts: `compact` puts no blank anywhere, `pretty` gives every
item and every member a line of its own, indented by two spaces per level. Empty brackets stay
together in both.
-/

namespace Bibliography.Json
set_option autoImplicit false
open Text

/-- A JSON value of the kinds that are written: no numbers. -/
inductive Value
  | null
  | flag (b : Bool)
  | text (s : Text)
  | array (items : List Value)
  | object (members : List (Text × Value))

namespace Value

/-- The word for a truth value. -/
def flagWord (b : Bool) : Text := if b then "true" else "false"

mutual

/-- A value without blanks. -/
def compact : Value → Text
  | .null => "null"
  | .flag b => flagWord b
  | .text s => writtenString s
  | .array items => "[" ++ compactItems items ++ "]"
  | .object members => r"{" ++ compactMembers members ++ r"}"

/-- Items with commas between them. -/
def compactItems : List Value → Text
  | [] => []
  | [v] => compact v
  | v :: w :: vs => compact v ++ "," ++ compactItems (w :: vs)

/-- Members with commas between them. -/
def compactMembers : List (Text × Value) → Text
  | [] => []
  | [(k, v)] => writtenString k ++ ":" ++ compact v
  | (k, v) :: m :: ms => writtenString k ++ ":" ++ compact v ++ "," ++ compactMembers (m :: ms)

end

/-- The start of a line at a level. -/
def lineStart (level : Nat) : Text := '\n' :: List.replicate (2 * level) ' '

mutual

/-- A value with a line for each part, inside `level` brackets. -/
def prettyAt (level : Nat) : Value → Text
  | .null => "null"
  | .flag b => flagWord b
  | .text s => writtenString s
  | .array [] => "[]"
  | .array (v :: vs) => "[" ++ prettyItems (level + 1) (v :: vs) ++ lineStart level ++ "]"
  | .object [] => "{}"
  | .object (m :: ms) => r"{" ++ prettyMembers (level + 1) (m :: ms) ++ lineStart level ++ r"}"

/-- Items, each on a line of its own. -/
def prettyItems (level : Nat) : List Value → Text
  | [] => []
  | [v] => lineStart level ++ prettyAt level v
  | v :: w :: vs => lineStart level ++ prettyAt level v ++ "," ++ prettyItems level (w :: vs)

/-- Members, each on a line of its own. -/
def prettyMembers (level : Nat) : List (Text × Value) → Text
  | [] => []
  | [(k, v)] => lineStart level ++ writtenString k ++ ": " ++ prettyAt level v
  | (k, v) :: m :: ms =>
    lineStart level ++ writtenString k ++ ": " ++ prettyAt level v ++ "," ++
      prettyMembers level (m :: ms)

end

/-- A value with a line for each part. -/
def pretty (v : Value) : Text := prettyAt 0 v

end Value
end Bibliography.Json
