import Bibliography.CiteKey.Filter
import Bibliography.CiteKey.Function
import Bibliography.Text.Search

/-! # Directives of a key pattern

Between brackets stands the name of a function and, after colons, its filters. The name may end in a
limit, or in a limit and an index with a low line between them: `auth3_1` is the first three letters
of the second name. A name that begins with `edtr` or `editors` means the function of the authors,
asked of the editors only.
-/

namespace Bibliography.CiteKey
set_option autoImplicit false
open Text

/-- A directive, with the name as it is written. -/
structure Directive where
  /-- The name of the function, without the numbers and with the authors in the editors' place. -/
  name : Text
  /-- The name as it is written, which may also be that of a field. -/
  property : Text
  function : Function
  limit : Option Nat
  index : Option Nat
  onlyEditors : Bool
  filters : List Filter
deriving DecidableEq, Repr

namespace Directive

/-! ## Numbers at the end of a name -/

/-- The largest number a directive can name, `2 ^ 64 - 1`. -/
def largestNumber : Nat := 0xFFFFFFFFFFFFFFFF

/-- The value of a numeral, unless it is too large. -/
def number? (digits : Text) : Option Nat := (value? digits).filter fun n => n ≤ largestNumber

/-- The text is a non-empty run of ASCII digits. -/
def isNumeral (s : Text) : Bool := !s.isEmpty && s.all Char.isDigit

/-- The name without the numbers at its end, the limit and the index. -/
def splitNumbers (s : Text) : Text × Option Nat × Option Nat :=
  let base := s.takeWhile fun c => !c.isDigit
  let tail := s.dropWhile fun c => !c.isDigit
  let first := tail.takeWhile Char.isDigit
  if base.isEmpty || first.isEmpty then (s, none, none)
  else
    match tail.dropWhile Char.isDigit with
    | [] => (base, number? first, none)
    | c :: second =>
      if c = '_' && isNumeral second then (base, number? first, number? second)
      else (s, none, none)

/-! ## Editors -/

/-- The function's name, and whether only editors are asked. -/
def resolveEditors (base : Text) : Text × Bool :=
  match after? "edtr" base with
  | some rest => ("auth" ++ rest, true)
  | none =>
    match after? "editors" base with
    | some rest => ("authors" ++ rest, true)
    | none => (base, false)

/-! ## Reading and writing -/

/-- The directive with the given name and filters. -/
def ofParts (property : Text) (filters : List Text) : Directive :=
  let (base, limit, index) := splitNumbers property
  let (name, onlyEditors) := resolveEditors base
  { name, property, function := .ofName name, limit, index, onlyEditors,
    filters := filters.map Filter.ofText }

/-- The directive that is written so between its brackets. -/
def ofText (s : Text) : Directive :=
  match splitOn ':' s with
  | [] => ofParts [] []
  | property :: filters => ofParts property filters

/-- What stands between the brackets. -/
def text (d : Directive) : Text := joinWith ":" (d.property :: d.filters.map Filter.text)

end Directive
end Bibliography.CiteKey
