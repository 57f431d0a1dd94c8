import Bibliography.Json.Fault

/-! # Strings in JSON

The characters of a string up to its closing quote, and the same characters written. An escape by
number names a UTF-16 unit: a high surrogate must be followed by a low one, and the two name one
character. Skipping a string checks that its escapes are well formed but not which units they name.
-/

namespace Bibliography.Json
set_option autoImplicit false
open Text

/-! ## Escapes -/

/-- The number of bytes of a text in UTF-8. -/
def byteCount (s : Text) : Nat := s.foldl (fun n c => n + c.utf8Size) 0

/-- The unit named by four hexadecimal digits. Where they are not there, the text is too short if
fewer than four bytes of UTF-8 are left. -/
def unit (s : Text) : Except Fault Nat :=
  match s.take 4, (s.take 4).mapM hexDigitValue? with
  | [_, _, _, _], some ds => .ok (ds.foldl (fun n d => 16 * n + d) 0)
  | first, _ =>
    if 4 ≤ byteCount first then .error .malformed else .error .truncated

/-- The unit is the first half of a character beyond the basic plane. -/
def isHighSurrogate (n : Nat) : Bool := 0xD800 ≤ n && n < 0xDC00

/-- The unit is the second half of a character beyond the basic plane. -/
def isLowSurrogate (n : Nat) : Bool := 0xDC00 ≤ n && n < 0xE000

/-- The character two surrogates name. -/
def joinSurrogates (high low : Nat) : Char :=
  Char.ofNat (0x10000 + (high - 0xD800) * 0x400 + (low - 0xDC00))

/-- The low surrogate that has to follow a high one, as an escape of its own. -/
def lowSurrogate (s : Text) : Except Fault Nat :=
  match s with
  | [] => .error .truncated
  | '\\' :: [] => .error .truncated
  | '\\' :: 'u' :: s => do
    let n ← unit s
    if isLowSurrogate n then .ok n else .error .malformed
  | _ => .error .malformed

/-- The character an escape by number stands for, and how many characters after the backslash the
escape has. -/
def numberEscape (s : Text) : Except Fault (Char × Nat) := do
  let n ← unit s
  if isLowSurrogate n then .error .malformed
  else if isHighSurrogate n then
    let low ← lowSurrogate (s.drop 4)
    .ok (joinSurrogates n low, 11)
  else .ok (Char.ofNat n, 5)

/-- The character an escape by letter stands for. -/
def letterEscape? (c : Char) : Option Char :=
  match c with
  | '"' => some '"'
  | '\\' => some '\\'
  | '/' => some '/'
  | 'b' => some '\x08'
  | 'f' => some '\x0c'
  | 'n' => some '\n'
  | 'r' => some '\r'
  | 't' => some '\t'
  | _ => none

/-- The character an escape stands for, and how many characters after the backslash it has. -/
def escape (s : Text) : Except Fault (Char × Nat) :=
  match s with
  | [] => .error .truncated
  | 'u' :: s => numberEscape s
  | c :: _ =>
    match letterEscape? c with
    | some d => .ok (d, 1)
    | none => .error .malformed

/-- How many characters after the backslash an escape has, whatever unit it names. -/
def escapeLength (s : Text) : Except Fault Nat :=
  match s with
  | [] => .error .truncated
  | 'u' :: s => (unit s).map fun _ => 5
  | c :: _ => if (letterEscape? c).isSome then .ok 1 else .error .malformed

/-! ## Strings -/

/-- A character that may not stand in a string as it is. -/
def isControl (c : Char) : Bool := c.toNat < 0x20

/-- The characters up to the closing quote. -/
def readChars : Reader Text
  | [] => .error .truncated
  | c :: s =>
    if c = '"' then .ok ([], s)
    else if c = '\\' then do
      let (d, n) ← escape s
      let (ds, rest) ← readChars (s.drop n)
      .ok (d :: ds, rest)
    else if isControl c then .error .malformed
    else do
      let (ds, rest) ← readChars s
      .ok (c :: ds, rest)
termination_by s => s.length
decreasing_by all_goals simp only [List.length_cons, List.length_drop]; omega

/-- What follows the closing quote. -/
def skipChars : Text → Except Fault Text
  | [] => .error .truncated
  | c :: s =>
    if c = '"' then .ok s
    else if c = '\\' then do
      let n ← escapeLength s
      skipChars (s.drop n)
    else if isControl c then .error .malformed
    else skipChars s
termination_by s => s.length
decreasing_by all_goals simp only [List.length_cons, List.length_drop]; omega

/-! ## Writing -/

/-- A character as it is written between quotes. -/
def writtenChar (c : Char) : Text :=
  match c with
  | '"' => "\\\""
  | '\\' => "\\\\"
  | '\x08' => "\\b"
  | '\x0c' => "\\f"
  | '\n' => "\\n"
  | '\r' => "\\r"
  | '\t' => "\\t"
  | c => if isControl c then "\\u" ++ hex 4 c.toNat else [c]

/-- A text as a JSON string. -/
def writtenString (s : Text) : Text := "\"" ++ s.flatMap writtenChar ++ "\""

end Bibliography.Json
