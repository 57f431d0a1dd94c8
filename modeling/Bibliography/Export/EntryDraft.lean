import Bibliography.CiteKey.Pinned
import Bibliography.Export.FieldTable
import Bibliography.Export.FieldValue

/-! # The fields of an entry

A draft takes in the fields of one entry as they come. It leaves out what the configuration skips
and what is empty, and notes names that come again. What is written goes out in pieces, so that a
sink may stop it anywhere.
-/

namespace Bibliography.Export
set_option autoImplicit false
open Text

/-- The fields of one entry, as far as they are written. -/
structure EntryDraft where
  /-- The pieces of text, in order. -/
  pieces : List Text
  /-- The names of the fields, each once, in the order in which they came first. -/
  names : List Text
  /-- The names that came again, in order. -/
  repeated : List Text
deriving DecidableEq, Repr

/-- How the warning about a name that came again reads. -/
def repeatedMessage (name : Text) : Text := "Field " ++ name ++ " output more than once!"

namespace EntryDraft

/-- Nothing is written. -/
def empty : EntryDraft := ⟨[], [], []⟩

/-- The text that is written. -/
def text (w : EntryDraft) : Text := w.pieces.flatten

/-- The number of distinct names. -/
def fieldCount (w : EntryDraft) : Nat := w.names.length

/-- The pieces of one field; a bare value has no braces. -/
def fragment (name value : Text) (bare : Bool) : List Text :=
  if bare then [",\n  ", name, " = ", value] else [",\n  ", name, r" = {", value, r"}"]

/-- Writes a value that is escaped already, unless it is empty or its field is skipped. -/
def field (config : Config) (name : Text) (value : Option Text) (bare : Bool) (w : EntryDraft) :
    EntryDraft :=
  match value with
  | none => w
  | some value =>
    if config.skips name || value.isEmpty then w
    else
      { pieces := w.pieces ++ fragment name value bare
        names := if w.names.contains name then w.names else w.names ++ [name]
        repeated := if w.names.contains name then w.repeated ++ [name] else w.repeated }

/-- Escapes a value and writes it. -/
def escaped (config : Config) (name : Text) (value : FieldValue) (options : EscapeStyle)
    (w : EntryDraft) : EntryDraft :=
  w.field config name (value.escape options config) false

/-- Escapes a text and writes it. -/
def plain (config : Config) (name value : Text) (w : EntryDraft) : EntryDraft :=
  w.escaped config name (.text value) .standard

/-- Writes a link. -/
def link (config : Config) (name url : Text) (w : EntryDraft) : EntryDraft :=
  if url.isEmpty then w
  else w.field config name (some (Link.toLatex config.mode config.fancyUrls url)) false

/-- Writes an identifier. -/
def verbatim (config : Config) (name value : Text) (w : EntryDraft) : EntryDraft :=
  if value.isEmpty then w
  else w.field config name (some (Link.escape config.mode value)) false

/-! ## Assignments in the extra field -/

/-- An assignment of a value to a name, both trimmed; one without a name or an equals sign is none.
-/
def assignment? (s : Text) : Option (Text × Text) :=
  match s.dropWhile (· != '=') with
  | [] => none
  | _ :: value =>
    let name := trim (s.takeWhile (· != '='))
    if name.isEmpty then none else some (name, trim value)

/-- The assignments with semicolons between them. -/
def assignments (s : Text) : List (Text × Text) := (splitOn ';' s).filterMap assignment?

/-- The leftmost directive that assigns values to fields of the entry. -/
def dataDirective? (extra : Text) : Option CiteKey.Pin :=
  CiteKey.Pin.locate (CiteKey.Pin.bracketed? "biblatexdata") extra

/-- Writes the assignments of an extra field, and then what is left of it. -/
def extra (config : Config) (name value : Text) (w : EntryDraft) : EntryDraft :=
  match dataDirective? value with
  | none => w.plain config name value
  | some found =>
    let w := (assignments found.key).foldl (fun w p => w.plain config p.1 p.2) w
    w.plain config name found.remainder

/-! ## Mapped fields -/

/-- Writes a field that the record may have. -/
def mapped (config : Config) (r : Record) (w : EntryDraft) (m : FieldRule) : EntryDraft :=
  match r.field? m.source with
  | none => w
  | some value =>
    match m.kind with
    | .link => w.link config m.field value
    | .verbatim => w.verbatim config m.field value
    | .text => w.plain config m.field value
    | .literal => w.escaped config m.field (.text value) .braced

/-- Writes all mapped fields the record has. -/
def fields (config : Config) (table : FieldTable) (r : Record) (w : EntryDraft) : EntryDraft :=
  table.foldl (mapped config r) w

/-- Gives an entry without any field its type as one. -/
def flush (config : Config) (entryType : Text) (w : EntryDraft) : EntryDraft :=
  if w.names.isEmpty then w.plain config "type" entryType else w

end EntryDraft
end Bibliography.Export
