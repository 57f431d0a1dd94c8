import Bibliography.Text.Basic

/-! # Field tables

Which fields of a record are copied into its entry, under which names and how they are escaped.
-/

namespace Bibliography.Export
set_option autoImplicit false

/-- How a field is escaped. -/
inductive FieldKind
  | text
  /-- Text that asks for braces. -/
  | literal
  | link
  /-- An identifier, of which only the special characters are escaped. -/
  | verbatim
deriving DecidableEq, Repr

/-- A field that is copied. -/
structure FieldRule where
  /-- The name in the entry. -/
  field : Text
  /-- The name in the record. -/
  source : Text
  kind : FieldKind
deriving DecidableEq, Repr

/-- The fields that are copied, in the order in which they are written. -/
abbrev FieldTable := List FieldRule

/-- The fields of the standard entries. Title, creators, container, date, pages, tags and extra are
written in ways of their own. -/
def FieldTable.standard : FieldTable := [
  ⟨"volume", "volume", .text⟩,
  ⟨"number", "issue", .text⟩,
  ⟨"number", "reportNumber", .text⟩,
  ⟨"edition", "edition", .text⟩,
  ⟨"series", "series", .literal⟩,
  ⟨"publisher", "publisher", .literal⟩,
  ⟨"institution", "institution", .literal⟩,
  ⟨"school", "university", .literal⟩,
  ⟨"address", "place", .text⟩,
  ⟨"isbn", "ISBN", .text⟩,
  ⟨"issn", "ISSN", .text⟩,
  ⟨"doi", "DOI", .verbatim⟩,
  ⟨"url", "url", .link⟩,
  ⟨"urldate", "accessDate", .text⟩,
  ⟨"abstract", "abstractNote", .text⟩,
  ⟨"langid", "language", .text⟩
]

end Bibliography.Export
