import Bibliography.Text.Basic
import Bibliography.Unicode.Case.Upper
import Bibliography.Unicode.Lowercase

/-! # Filters of a key pattern

A directive passes its value through filters: a default for an empty value, or one of four named
changes. A filter nobody knows leaves nothing.
-/

namespace Bibliography.CiteKey
set_option autoImplicit false

/-- A change of a value that has a name. -/
inductive NamedFilter
  /-- Blanks are removed. -/
  | condense
  /-- The first character of every word is kept. -/
  | abbr
  | lower
  | upper
deriving DecidableEq, Repr

namespace NamedFilter

/-- The name of the filter. -/
def name : NamedFilter → Text
  | condense => "condense"
  | abbr => "abbr"
  | lower => "lower"
  | upper => "upper"

/-- The filter with the given name. -/
def ofName? (s : Text) : Option NamedFilter :=
  [condense, abbr, lower, upper].find? fun f => f.name == s

/-- The value after the change. -/
def apply : NamedFilter → Text → Text
  | condense, s => s.filter fun c => !Unicode.isBlank c
  | abbr, s => (Text.words s).flatMap fun w => w.take 1
  | lower, s => Unicode.lower s
  | upper, s => Unicode.upper s

end NamedFilter

/-- A filter of a directive. -/
inductive Filter
  /-- Takes the place of an empty value. -/
  | default (text : Text)
  | named (filter : NamedFilter)
  | unknown (text : Text)
deriving DecidableEq, Repr

namespace Filter

/-- The text between parentheses that enclose all of it. -/
def parenthesized? (s : Text) : Option Text :=
  match s with
  | '(' :: rest => if rest.getLast? = some ')' then some rest.dropLast else none
  | _ => none

/-- The filter that is written so. -/
def ofText (s : Text) : Filter :=
  match parenthesized? s with
  | some text => default text
  | none =>
    match NamedFilter.ofName? s with
    | some f => named f
    | none => unknown s

/-- How the filter is written. -/
def text : Filter → Text
  | default s => "(" ++ s ++ ")"
  | named f => f.name
  | unknown s => s

end Filter
end Bibliography.CiteKey
