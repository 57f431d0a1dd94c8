import Bibliography.Json.Chars
import Bibliography.Json.Number

/-! # Skipping values, and naming them

An unknown member is skipped: its value has to be well formed and is otherwise ignored. A value that
stands in the place of another kind is named in the fault.
-/

namespace Bibliography.Json
set_option autoImplicit false
open Text

/-- What follows one of the three words, whose first letter is already taken. -/
def afterWord (letters s : Text) : Except Fault Text :=
  match letters, s with
  | [], s => .ok s
  | _ :: _, [] => .error .truncated
  | l :: ls, c :: s => if l = c then afterWord ls s else .error .malformed

/-- What follows the colon between a name and its value. -/
def afterColon (s : Text) : Except Fault Text :=
  match skipSpace s with
  | [] => .error .truncated
  | ':' :: s => .ok s
  | _ => .error .malformed

mutual

/-- What follows a value. The fuel bounds the number of values and brackets in it. -/
def skipValueWith : Nat → Text → Except Fault Text
  | 0, _ => .error .malformed
  | fuel + 1, s =>
    match skipSpace s with
    | [] => .error .truncated
    | 'n' :: s => afterWord "ull" s
    | 't' :: s => afterWord "rue" s
    | 'f' :: s => afterWord "alse" s
    | '"' :: s => skipChars s
    | '-' :: s => skipNumber s
    | '[' :: s =>
      match skipSpace s with
      | [] => .error .truncated
      | ']' :: s => .ok s
      | s => skipItemsWith fuel s
    | '{' :: s =>
      match skipSpace s with
      | [] => .error .truncated
      | '}' :: s => .ok s
      | s => skipMembersWith fuel s
    | c :: s => if c.isDigit then skipNumber (c :: s) else .error .malformed

/-- What follows the items of an array and its closing bracket. -/
def skipItemsWith : Nat → Text → Except Fault Text
  | 0, _ => .error .malformed
  | fuel + 1, s => do
    let s ← skipValueWith fuel s
    match skipSpace s with
    | [] => .error .truncated
    | ']' :: s => .ok s
    | ',' :: s => skipItemsWith fuel s
    | _ => .error .malformed

/-- What follows the members of an object and its closing brace. -/
def skipMembersWith : Nat → Text → Except Fault Text
  | 0, _ => .error .malformed
  | fuel + 1, s =>
    match skipSpace s with
    | [] => .error .truncated
    | '"' :: s => do
      let s ← skipChars s
      let s ← afterColon s
      let s ← skipValueWith fuel s
      match skipSpace s with
      | [] => .error .truncated
      | '}' :: s => .ok s
      | ',' :: s => skipMembersWith fuel s
      | _ => .error .malformed
    | _ => .error .malformed

end

/-- What follows a value of any kind. -/
def skipValue (s : Text) : Except Fault Text := skipValueWith (2 * s.length + 2) s

/-- The fault of finding the value at the head of a text where another kind was wanted. -/
def unexpected (expected s : Text) : Fault :=
  let named (found : Except Fault Text) : Fault :=
    match found with
    | .ok name => .wrongKind name expected
    | .error fault => fault
  match s with
  | 'n' :: s => named ((afterWord "ull" s).map fun _ => "null")
  | 't' :: s => named ((afterWord "rue" s).map fun _ => "boolean " ++ ticked "true")
  | 'f' :: s => named ((afterWord "alse" s).map fun _ => "boolean " ++ ticked "false")
  | '"' :: s => named ((readChars s).map fun read => "string " ++ quoted read.1)
  | '-' :: s => named (numberName false s)
  | '[' :: _ => .wrongKind "sequence" expected
  | '{' :: _ => .wrongKind "map" expected
  | c :: s => if c.isDigit then named (numberName true (c :: s)) else .malformed
  | [] => .truncated

end Bibliography.Json
