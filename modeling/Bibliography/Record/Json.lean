import Bibliography.Json.Reader
import Bibliography.Json.Value
import Bibliography.Record.Basic

/-! # Records in JSON

`Record.ofJson` reads a record, `Record.listOfJson` an array of them, and `Record.toJson` writes one
with all its members. Only the item's identifier and kind must be given; a creator without a role is
an author.
-/

namespace Bibliography
set_option autoImplicit false
open Json

/-! ## Reading -/

/-- The members of a creator. -/
def Creator.shape : Shape Creator where
  title := "Creator"
  blank := ⟨[], none, .author⟩
  members := [
    .of "lastName" false Reader.text fun c v => { c with lastName := v },
    .of "firstName" false Reader.optionalText fun c v => { c with firstName := v },
    .of "creatorType" false Reader.text fun c v => { c with role := .ofName v }
  ]

/-- A tag is a structure with one member. -/
def tagShape : Shape Text where
  title := "Tag"
  blank := []
  members := [.of "tag" true Reader.text fun _ v => v]

namespace Record

/-- A record of which nothing is known. -/
def blank : Record where
  itemId := []
  key := []
  itemType := []
  creators := []
  title := []
  date := []
  extra := []
  tags := []
  pages := []
  fields := ∅

/-- The members of a record. -/
def shape : Shape Record where
  title := "Record"
  blank := blank
  members := [
    .of "itemID" true Reader.text fun r v => { r with itemId := v },
    .of "key" false Reader.text fun r v => { r with key := v },
    .of "itemType" true Reader.text fun r v => { r with itemType := v },
    .of "creators" false (Reader.array Creator.shape.read) fun r v => { r with creators := v },
    .of "title" false Reader.text fun r v => { r with title := v },
    .of "date" false Reader.text fun r v => { r with date := v },
    .of "extra" false Reader.text fun r v => { r with extra := v },
    .of "tags" false (Reader.array tagShape.read) fun r v => { r with tags := v },
    .of "pages" false Reader.text fun r v => { r with pages := v },
    .of "fields" false (Reader.dict Reader.text) fun r v => { r with fields := v }
  ]

/-- The record a JSON text describes. -/
def ofJson (s : Text) : Except Fault Record := whole shape.read s

/-- The records a JSON array describes. -/
def listOfJson (s : Text) : Except Fault (List Record) := whole (Reader.array shape.read) s

end Record

/-! ## Writing -/

/-- A creator as it is written; a missing given name is left out. -/
def Creator.toValue (c : Creator) : Value :=
  let last : List (Text × Value) := [("creatorType", .text c.role.name)]
  match c.firstName with
  | some first => .object (("lastName", .text c.lastName) :: ("firstName", .text first) :: last)
  | none => .object (("lastName", .text c.lastName) :: last)

namespace Record

/-- A record as it is written, with all its members. -/
def toValue (r : Record) : Value :=
  .object [
    ("itemID", .text r.itemId),
    ("key", .text r.key),
    ("itemType", .text r.itemType),
    ("creators", .array (r.creators.map Creator.toValue)),
    ("title", .text r.title),
    ("date", .text r.date),
    ("extra", .text r.extra),
    ("tags", .array (r.tags.map fun t => .object [("tag", .text t)])),
    ("pages", .text r.pages),
    ("fields", .object (r.fields.pairs.map fun p => (p.1, .text p.2)))
  ]

/-- The JSON text of a record. -/
def toJson (r : Record) : Text := r.toValue.compact

end Record
end Bibliography
