import Bibliography.Json.Skip
import Bibliography.Dict

/-! # Reading JSON of a known shape

A reader knows what it wants and takes it off the text, so the first fault met in reading order is
the one reported. `text`, `flag`, `array` and `dict` read values; a `Shape` lists the members of a
structure, which may be written as an object or as an array of its members in order; `whole` asks
that nothing but blanks follows.
-/

namespace Bibliography.Json
set_option autoImplicit false
open Text

namespace Reader

/-! ## Single values -/

/-- A string. -/
def text (s : Text) : Except Fault (Text × Text) :=
  match skipSpace s with
  | '"' :: s => readChars s
  | s => .error (unexpected "a string" s)

/-- A string, or `null` for none. -/
def optionalText (s : Text) : Except Fault (Option Text × Text) :=
  match skipSpace s with
  | 'n' :: s => (afterWord "ull" s).map fun rest => (none, rest)
  | s => (text s).map fun read => (some read.1, read.2)

/-- A truth value. -/
def flag (s : Text) : Except Fault (Bool × Text) :=
  match skipSpace s with
  | 't' :: s => (afterWord "rue" s).map fun rest => (true, rest)
  | 'f' :: s => (afterWord "alse" s).map fun rest => (false, rest)
  | s => .error (unexpected "a boolean" s)

/-! ## Sequences -/

/-- Where the next item of an array begins, or `none` with the rest at its closing bracket. -/
def nextItem (first : Bool) (s : Text) : Except Fault (Option Text × Text) :=
  match skipSpace s with
  | [] => .error .truncated
  | ']' :: s => .ok (none, ']' :: s)
  | c :: s =>
    if first then .ok (some (c :: s), [])
    else if c = ',' then
      match skipSpace s with
      | [] => .error .truncated
      | ']' :: _ => .error .malformed
      | s => .ok (some s, [])
    else .error .malformed

/-- The items of an array up to its closing bracket. The fuel bounds their number. -/
def itemsWith {α : Type} (item : Reader α) (first : Bool) :
    Nat → Text → Except Fault (List α × Text)
  | 0, _ => .error .malformed
  | fuel + 1, s => do
    match ← nextItem first s with
    | (none, rest) => .ok ([], rest.drop 1)
    | (some s, _) =>
      let (a, s) ← item s
      let (as, rest) ← itemsWith item false fuel s
      .ok (a :: as, rest)

/-- An array of values that the given reader reads. -/
def array {α : Type} (item : Reader α) (s : Text) : Except Fault (List α × Text) :=
  match skipSpace s with
  | '[' :: s => itemsWith item true (s.length + 1) s
  | s => .error (unexpected "a sequence" s)

/-! ## Objects -/

/-- The name of the next member of an object and what follows it, or `none` with the rest behind the
closing brace. -/
def nextName (first : Bool) (s : Text) : Except Fault (Option Text × Text) :=
  let name (s : Text) : Except Fault (Option Text × Text) :=
    (readChars s).map fun read => (some read.1, read.2)
  match skipSpace s with
  | [] => .error .truncated
  | '}' :: s => .ok (none, s)
  | '"' :: s => if first then name s else .error .malformed
  | ',' :: s =>
    if first then .error .malformed
    else
      match skipSpace s with
      | [] => .error .truncated
      | '"' :: s => name s
      | _ => .error .malformed
  | _ => .error .malformed

/-- The members of an object up to its closing brace, put into a dictionary one after the other. The
fuel bounds their number. -/
def membersWith {α : Type} (value : Reader α) (first : Bool) (d : Dict α) :
    Nat → Text → Except Fault (Dict α × Text)
  | 0, _ => .error .malformed
  | fuel + 1, s => do
    match ← nextName first s with
    | (none, rest) => .ok (d, rest)
    | (some k, s) =>
      let (v, s) ← value (← afterColon s)
      membersWith value false (d.put k v) fuel s

/-- An object with any names; of values under one name the last one stays. -/
def dict {α : Type} (value : Reader α) (s : Text) : Except Fault (Dict α × Text) :=
  match skipSpace s with
  | '{' :: s => membersWith value true ∅ (s.length + 1) s
  | s => .error (unexpected "a map" s)

end Reader

/-! ## Structures -/

/-- A member of a structure: its name, whether it may be left out, and how its value is taken in. -/
structure Member (α : Type) where
  name : Text
  required : Bool
  read : α → Reader α

/-- A structure: what messages call it, its members in order, and the value before any is read. -/
structure Shape (α : Type) where
  title : Text
  members : List (Member α)
  blank : α

/-- A member whose value is read and then stored. -/
def Member.of {α β : Type} (name : Text) (required : Bool) (value : Reader β) (store : α → β → α) :
    Member α where
  name := name
  required := required
  read := fun a s => (value s).map fun read => (store a read.1, read.2)

namespace Shape
variable {α : Type}

/-- What messages say is expected where an object cannot be read. -/
def wanted (shape : Shape α) : Text := "struct " ++ shape.title

/-- What messages say is expected where the array form is too short. -/
def wantedLength (shape : Shape α) : Text :=
  shape.wanted ++ " with " ++ decimal shape.members.length ++
    (if shape.members.length = 1 then " element" else " elements")

/-- The members of the object form. `seen` holds the names already met; the fuel bounds the number
of members. -/
def objectWith (shape : Shape α) (first : Bool) (seen : List Text) (a : α) :
    Nat → Text → Except Fault (α × Text)
  | 0, _ => .error .malformed
  | fuel + 1, s => do
    match ← Reader.nextName first s with
    | (none, rest) =>
      match shape.members.find? fun m => m.required && !seen.contains m.name with
      | some m => .error (.missing m.name)
      | none => .ok (a, rest)
    | (some k, s) =>
      match shape.members.find? fun m => m.name == k with
      | none => objectWith shape false seen a fuel (← skipValue (← afterColon s))
      | some m =>
        if seen.contains k then .error (.repeated k)
        else
          let (a, s) ← m.read a (← afterColon s)
          objectWith shape false (k :: seen) a fuel s

/-- The members of the array form from position `i` on. Once the array has ended, what is left must
not be required. -/
def arrayFrom (shape : Shape α) (i : Nat) (a : α) : List (Member α) → Text → Except Fault (α × Text)
  | [], s =>
    match skipSpace s with
    | [] => .error .truncated
    | ']' :: s => .ok (a, s)
    | _ => .error .malformed
  | m :: ms, s => do
    match ← Reader.nextItem (i == 0) s with
    | (none, rest) =>
      if m.required then .error (.tooShort i shape.wantedLength)
      else arrayFrom shape (i + 1) a ms rest
    | (some s, _) =>
      let (a, s) ← m.read a s
      arrayFrom shape (i + 1) a ms s

/-- A structure in either form. -/
def read (shape : Shape α) (s : Text) : Except Fault (α × Text) :=
  match skipSpace s with
  | '{' :: s => shape.objectWith true [] shape.blank (s.length + 1) s
  | '[' :: s => shape.arrayFrom 0 shape.blank shape.members s
  | s => .error (unexpected shape.wanted s)

end Shape

/-- A value with nothing but blanks after it. -/
def whole {α : Type} (read : Reader α) (s : Text) : Except Fault α := do
  let (a, rest) ← read s
  if (skipSpace rest).isEmpty then .ok a else .error .malformed

end Bibliography.Json
