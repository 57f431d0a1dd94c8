import Bibliography.Dict
import Bibliography.Record.Creator

/-! # Records

One item of a library as it is handed to the export: the parts every kind of item has, and all other
fields by name.
-/

namespace Bibliography
set_option autoImplicit false

/-- One item of a library. -/
structure Record where
  itemId : Text
  /-- The key of the item within its library. -/
  key : Text
  itemType : Text
  creators : List Creator
  title : Text
  date : Text
  extra : Text
  tags : List Text
  pages : Text
  /-- Every other field, by name. -/
  fields : Dict Text

namespace Record

/-- The value of a field, empty or not. -/
def stored? (r : Record) (name : Text) : Option Text :=
  if name = "itemID" then some r.itemId
  else if name = "key" then some r.key
  else if name = "itemType" then some r.itemType
  else if name = "title" then some r.title
  else if name = "date" then some r.date
  else if name = "extra" then some r.extra
  else if name = "pages" then some r.pages
  else r.fields.get? name

/-- The value of a field; an empty one counts as absent. -/
def field? (r : Record) (name : Text) : Option Text := (r.stored? name).filter fun v => !v.isEmpty

/-- Notes and attachments are no entries of their own. -/
def isExportable (r : Record) : Bool := !(r.itemType == "note" || r.itemType == "attachment")

end Record
end Bibliography
