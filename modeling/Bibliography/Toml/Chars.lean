import Bibliography.Text.Numeral
import Bibliography.Text.Search

/-! # Strings in TOML

Strings come on one line or on several, and with escapes or without. All four kinds are read;
`writtenString` writes the first kind that can hold the text without escapes, and one with escapes
if none can.
-/

namespace Bibliography.Toml
set_option autoImplicit false
open Text

/-! ## Characters -/

/-- A blank within a line. -/
def isSpace (c : Char) : Bool := c == ' ' || c == '\t'

/-- A control character; the tab is none. -/
def isControl (c : Char) : Bool := c.toNat < 0x20 && c != '\t' || c.toNat == 0x7F

/-- What follows the end of a line, if the text begins with one. -/
def afterNewline? (s : Text) : Option Text :=
  match s with
  | '\n' :: s => some s
  | '\r' :: '\n' :: s => some s
  | _ => none

/-! ## Escapes -/

/-- The character named by the given number of hexadecimal digits. -/
def scalar? (width : Nat) (s : Text) : Option Char :=
  if (s.take width).length = width then
    ((s.take width).mapM hexDigitValue?).bind fun ds =>
      let n := ds.foldl (fun n d => 16 * n + d) 0
      if n.isValidChar then some (Char.ofNat n) else none
  else none

/-- The character an escape stands for, and how many characters after the backslash it has. -/
def escape? (s : Text) : Option (Char × Nat) :=
  match s with
  | 'b' :: _ => some ('\x08', 1)
  | 't' :: _ => some ('\t', 1)
  | 'n' :: _ => some ('\n', 1)
  | 'f' :: _ => some ('\x0c', 1)
  | 'r' :: _ => some ('\r', 1)
  | '"' :: _ => some ('"', 1)
  | '\\' :: _ => some ('\\', 1)
  | 'u' :: s => (scalar? 4 s).map fun c => (c, 5)
  | 'U' :: s => (scalar? 8 s).map fun c => (c, 9)
  | _ => none

/-- How many blanks and ends of lines a text begins with. -/
def blankLength : Text → Nat
  | [] => 0
  | c :: s =>
    if isSpace c || c == '\n' || (c == '\r' && s.head? == some '\n') then blankLength s + 1 else 0

/-- The length of an escaped end of line with all blanks after it, counted from the backslash. -/
def escapedNewline? (s : Text) : Option Nat :=
  if (afterNewline? (s.dropWhile isSpace)).isSome then some (blankLength s) else none

/-! ## Reading -/

/-- A string with escapes on one line, up to its closing quote. -/
def basicChars : Text → Option (Text × Text)
  | [] => none
  | c :: s =>
    if c = '"' then some ([], s)
    else if c = '\\' then
      (escape? s).bind fun (d, n) => (basicChars (s.drop n)).map fun r => (d :: r.1, r.2)
    else if isControl c then none
    else (basicChars s).map fun r => (c :: r.1, r.2)
termination_by s => s.length
decreasing_by all_goals simp only [List.length_cons, List.length_drop]; omega

/-- A string without escapes on one line, up to its closing quote. -/
def literalChars : Text → Option (Text × Text)
  | [] => none
  | c :: s =>
    if c = '\'' then some ([], s)
    else if isControl c then none
    else (literalChars s).map fun r => (c :: r.1, r.2)

/-- The end of a string on several lines, if enough quotes follow: those that still belong to the
string, and what follows the closing ones. -/
def closingQuotes? (quote : Char) (s : Text) : Option (Text × Text) :=
  let n := (s.takeWhile (· == quote)).length
  if n < 3 then none else some (List.replicate (min n 5 - 3) quote, s.drop (min n 5))

/-- A string with escapes on several lines, up to its closing quotes. -/
def basicLines : Text → Option (Text × Text)
  | [] => none
  | c :: s =>
    match closingQuotes? '"' (c :: s) with
    | some closed => some closed
    | none =>
      if c = '\\' then
        match escapedNewline? s with
        | some n => basicLines (s.drop n)
        | none =>
          (escape? s).bind fun (d, n) => (basicLines (s.drop n)).map fun r => (d :: r.1, r.2)
      else if c = '\n' then (basicLines s).map fun r => (c :: r.1, r.2)
      else if c = '\r' && s.head? == some '\n' then basicLines s
      else if isControl c then none
      else (basicLines s).map fun r => (c :: r.1, r.2)
termination_by s => s.length
decreasing_by all_goals simp only [List.length_cons, List.length_drop]; omega

/-- A string without escapes on several lines, up to its closing quotes. -/
def literalLines : Text → Option (Text × Text)
  | [] => none
  | c :: s =>
    match closingQuotes? '\'' (c :: s) with
    | some closed => some closed
    | none =>
      if c = '\n' then (literalLines s).map fun r => (c :: r.1, r.2)
      else if c = '\r' && s.head? == some '\n' then literalLines s
      else if isControl c then none
      else (literalLines s).map fun r => (c :: r.1, r.2)

/-- The text without the end of line it begins with. -/
def skipNewline (s : Text) : Text := (afterNewline? s).getD s

/-- A string on one line. -/
def lineString (s : Text) : Option (Text × Text) :=
  match s with
  | '"' :: s => basicChars s
  | '\'' :: s => literalChars s
  | _ => none

/-- A string of any kind. -/
def string (s : Text) : Option (Text × Text) :=
  match after? "\"\"\"" s, after? "'''" s with
  | some s, _ => basicLines (skipNewline s)
  | none, some s => literalLines (skipNewline s)
  | none, none => lineString s

/-! ## Writing -/

/-- The length of the longest run of a character; `run` is the length of the run just read. -/
def longestRun (c : Char) (run : Nat) : Text → Nat
  | [] => run
  | d :: s => if d = c then longestRun c (run + 1) s else max run (longestRun c 0 s)

/-- A character between quotes that allow escapes. -/
def writtenChar (c : Char) : Text :=
  match c with
  | '\x08' => "\\b"
  | '\t' => "\\t"
  | '\n' => "\\n"
  | '\x0c' => "\\f"
  | '\r' => "\\r"
  | '"' => "\\\""
  | '\\' => "\\\\"
  | c => if isControl c then "\\u" ++ capitalHex 4 c.toNat else [c]

/-- The characters of a string on several lines. A third quote in a row is escaped; `quotes` counts
those just written. -/
def writtenLines (quotes : Nat) : Text → Text
  | [] => []
  | c :: s =>
    if c = '"' then
      if quotes < 2 then c :: writtenLines (quotes + 1) s else "\\\"" ++ writtenLines 0 s
    else if c = '\n' then c :: writtenLines 0 s
    else writtenChar c ++ writtenLines 0 s

/-- A text as a TOML string. -/
def writtenString (s : Text) : Text :=
  let controls := s.any fun c => isControl c && c != '\n'
  let escapes := s.contains '\\'
  let lines := s.contains '\n'
  let doubles := longestRun '"' 0 s
  let singles := longestRun '\'' 0 s
  let opening : Text := if lines then "\n" else []
  if !controls && !escapes && doubles == 0 && !lines then
    "\"" ++ s.flatMap writtenChar ++ "\""
  else if !controls && singles == 0 && !lines then "'" ++ s ++ "'"
  else if !controls && !escapes && doubles ≤ 2 then
    "\"\"\"" ++ opening ++ writtenLines 0 s ++ "\"\"\""
  else if !controls && singles ≤ 2 then "'''" ++ opening ++ s ++ "'''"
  else if lines then "\"\"\"" ++ opening ++ writtenLines 0 s ++ "\"\"\""
  else "\"" ++ s.flatMap writtenChar ++ "\""

end Bibliography.Toml
