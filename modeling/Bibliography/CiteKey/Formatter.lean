import Bibliography.CiteKey.Pattern

/-! # Formatting keys

A formatter turns a record into a candidate key. The first alternative that yields any text is
taken; if none does, the key of the item in its library stands in. Functions and filters nobody
knows yield nothing and are reported.
-/

namespace Bibliography.CiteKey
set_option autoImplicit false

/-- Something a pattern asks for that does not exist. -/
inductive Diagnostic
  | unknownFunction (name : Text)
  | unknownFilter (name : Text)
deriving DecidableEq, Repr

/-- The name that was asked for. -/
def Diagnostic.name : Diagnostic → Text
  | unknownFunction name | unknownFilter name => name

/-- How a diagnostic reads. -/
def Diagnostic.message : Diagnostic → Text
  | unknownFunction name => "requested non-existent item function " ++ name
  | unknownFilter name => "requested non-existent item filter " ++ name

/-- A pattern, and the types its records are given. -/
structure Formatter where
  pattern : Pattern
  types : TypeTable

namespace Formatter

/-- The pattern used where none is chosen. -/
def standardPattern : Text := "[auth:lower][year]"

/-- What stands before the library key if no alternative yields anything. -/
def fallbackMark : Text := "zotero-"

/-- The formatter of a pattern that is given as text. -/
def ofText (pattern : Text) (types : TypeTable) : Formatter := ⟨.ofText pattern, types⟩

/-- The formatter used where none is chosen. -/
def standard : Formatter := ofText standardPattern .standard

/-- The key of a record for which no alternative yields anything. -/
def fallback (r : Record) : Text := fallbackMark ++ r.key

/-! ## Directives -/

/-- The value of a directive before its filters: what its function yields, or else the field of that
name. -/
def value (types : TypeTable) (r : Record) (d : Directive) : Text :=
  let v := d.function.eval types d.onlyEditors d.limit d.index r
  if v.isEmpty then (r.field? d.property).getD [] else v

/-- What one filter makes of a value. -/
def applyFilter (v : Text) : Filter → Text × List Diagnostic
  | .default text => (if v.isEmpty then text else v, [])
  | .named f => (f.apply v, [])
  | .unknown name => ([], [.unknownFilter name])

/-- What filters make of a value, one after the other. -/
def applyFilters (v : Text) : List Filter → Text × List Diagnostic
  | [] => (v, [])
  | f :: fs =>
    let (v, found) := applyFilter v f
    let (v, more) := applyFilters v fs
    (v, found ++ more)

/-- The text of a directive. -/
def resolve (types : TypeTable) (r : Record) (d : Directive) : Text × List Diagnostic :=
  let v := value types r d
  let found := if v.isEmpty && d.function.isUnknown then [.unknownFunction d.property] else []
  let (v, more) := applyFilters v d.filters
  (v, found ++ more)

/-! ## Alternatives -/

/-- The text of an alternative. -/
def render (types : TypeTable) (r : Record) : Template → Text × List Diagnostic
  | [] => ([], [])
  | .run t :: rest =>
    let (s, found) := render types r rest
    (t ++ s, found)
  | .found d :: rest =>
    let (t, found) := resolve types r d
    let (s, more) := render types r rest
    (t ++ s, found ++ more)

/-- The first alternative with any text, or the fallback; what was reported up to there. -/
def choose (types : TypeTable) (r : Record) : List Template → Text × List Diagnostic
  | [] => (fallback r, [])
  | t :: rest =>
    let (s, found) := render types r t
    if s.isEmpty then
      let (s, more) := choose types r rest
      (s, found ++ more)
    else (s, found)

/-- The candidate key of a record, and what was reported on the way. -/
def run (f : Formatter) (r : Record) : Text × List Diagnostic :=
  choose f.types r f.pattern.alternatives

/-- The candidate key of a record. -/
def format (f : Formatter) (r : Record) : Text := (f.run r).1

end Formatter
end Bibliography.CiteKey
