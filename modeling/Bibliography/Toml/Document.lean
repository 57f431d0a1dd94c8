import Bibliography.Toml.Scalar
import Bibliography.Toml.Table

/-! # Reading TOML

`document` reads a whole text into its table, or refuses it. Values may be nested, and dotted names
may be long, but only up to a depth of eighty.
-/

namespace Bibliography.Toml
set_option autoImplicit false
open Text

/-- The depth at which nesting is refused. -/
def maxDepth : Nat := 80

/-! ## Between the tokens -/

/-- The text from the next character on that is no blank of its line. -/
def skipSpace (s : Text) : Text := s.dropWhile isSpace

/-- What follows a comment, if the text begins with one: the end of its line. -/
def skipComment (s : Text) : Text :=
  match s with
  | '#' :: s => s.dropWhile fun c => !isControl c
  | s => s

/-- What follows the end of a line with nothing but blanks and a comment before it. -/
def afterLine? (s : Text) : Option Text :=
  match skipComment (skipSpace s) with
  | [] => some []
  | s => afterNewline? s

/-- The text from the next token on, past blanks, comments and ends of lines. -/
def skipLines : Text → Text
  | [] => []
  | c :: s =>
    if isSpace c || c == '\n' || (c == '\r' && s.head? == some '\n') then skipLines s
    else if c = '#' then skipLines (s.dropWhile fun c => !isControl c)
    else c :: s
termination_by s => s.length
decreasing_by
  · simp
  · have := (List.dropWhile_sublist (fun c => !isControl c) (l := s)).length_le
    simp only [List.length_cons]
    omega

/-! ## Names -/

/-- A character of a name without quotes. -/
def isNameChar (c : Char) : Bool := c.isAlphanum || c == '_' || c == '-'

/-- A part of a name. -/
def namePart (s : Text) : Option (Text × Text) :=
  match s with
  | '"' :: _ | '\'' :: _ => lineString s
  | s =>
    let part := s.takeWhile isNameChar
    if part.isEmpty then none else some (part, s.dropWhile isNameChar)

/-- The parts of a dotted name, with blanks around them. The fuel bounds their number. -/
def nameParts : Nat → Text → Option (List Text × Text)
  | 0, _ => none
  | fuel + 1, s => do
    let (part, s) ← namePart (skipSpace s)
    match skipSpace s with
    | '.' :: s =>
      let (parts, s) ← nameParts fuel s
      return (part :: parts, s)
    | s => return ([part], s)

/-- A name: the parts on its way, and the last one. -/
def name (s : Text) : Option (List Text × Text × Text) := do
  let (parts, s) ← nameParts (maxDepth - 1) s
  return (parts.dropLast, (← parts.getLast?), s)

/-! ## Values -/

mutual

/-- A value inside `depth` brackets. The fuel bounds the number of values and brackets. -/
def value (depth : Nat) : Nat → Text → Option (Node × Text)
  | 0, _ => none
  | fuel + 1, s =>
    match s with
    | [] => none
    | c :: rest =>
      if c = '"' || c = '\'' then (string s).map fun r => (.text r.1, r.2)
      else if c = '[' then
        if maxDepth ≤ depth + 1 then none
        else (items (depth + 1) fuel rest).map fun r => (.array r.1, r.2)
      else if c = '{' then
        if maxDepth ≤ depth + 1 then none
        else
          match skipSpace rest with
          | '}' :: rest => some (.inline [], rest)
          | rest => (inlineMembers (depth + 1) [] fuel rest).map fun r => (.inline r.1, r.2)
      else if c = 't' then (after? "true" s).map fun rest => (.flag true, rest)
      else if c = 'f' then (after? "false" s).map fun rest => (.flag false, rest)
      else (afterScalar? s).map fun rest => (.scalar, rest)

/-- The items of an array, up to its closing bracket. -/
def items (depth : Nat) : Nat → Text → Option (List Node × Text)
  | 0, _ => none
  | fuel + 1, s =>
    match skipLines s with
    | ']' :: s => some ([], s)
    | s => do
      let (v, s) ← value depth fuel s
      match skipLines s with
      | ']' :: s => return ([v], s)
      | ',' :: s =>
        let (vs, s) ← items depth fuel s
        return (v :: vs, s)
      | _ => none

/-- The members of an inline table, up to its closing brace. -/
def inlineMembers (depth : Nat) (ms : Members) : Nat → Text → Option (Members × Text)
  | 0, _ => none
  | fuel + 1, s => do
    let (path, k, s) ← name s
    let s ← after? "=" s
    let (v, s) ← value depth fuel (skipSpace s)
    let ms ← ms.defineDotted path k v
    match skipSpace s with
    | '}' :: s => return (ms, s)
    | ',' :: s => inlineMembers depth ms fuel s
    | _ => none

end

/-! ## Documents -/

/-- A definition on a line of its own, in the table of the given header. -/
def definition (header : List Text) (root : Members) (s : Text) : Option (Members × Text) := do
  let (path, k, s) ← name s
  let s ← after? "=" s
  let (v, s) ← value 0 (2 * s.length + 2) (skipSpace s)
  let s ← afterLine? s
  return (← root.descend header (Members.defineDotted path k v), s)

/-- A header with its closing brackets; it opens a table, or one more of an array of tables. -/
def header (closing : Text) (change : Text → Members → Option Members) (root : Members) (s : Text) :
    Option (List Text × Members × Text) := do
  let (path, k, s) ← name s
  let s ← after? closing s
  let s ← afterLine? s
  return (path ++ [k], (← root.descend path (change k)), s)

/-- The lines of a document under the given header. The fuel bounds their number. -/
def lines (current : List Text) (root : Members) : Nat → Text → Option Members
  | 0, _ => none
  | fuel + 1, s =>
    match skipSpace s with
    | [] => some root
    | '#' :: s => do lines current root fuel (← afterLine? ('#' :: s))
    | '\n' :: s => lines current root fuel s
    | '\r' :: '\n' :: s => lines current root fuel s
    | '[' :: '[' :: s => do
      let (current, root, s) ← header "]]" Members.openElement root s
      lines current root fuel s
    | '[' :: s => do
      let (current, root, s) ← header "]" Members.openTable root s
      lines current root fuel s
    | s => do
      let (root, s) ← definition current root s
      lines current root fuel s

/-- The table a document describes. A byte order mark may stand in front. -/
def document (s : Text) : Option Members :=
  let s := (after? ['\ufeff'] s).getD s
  lines [] [] (s.length + 1) s

end Bibliography.Toml
