import Bibliography.Record.Basic

/-! # Credits

The family names on a record, sorted by what their bearers did. A request for the authors takes the
first kind of credit there is.
-/

namespace Bibliography.CiteKey
set_option autoImplicit false

/-- Family names by kind of credit, each kind in the order of the record. -/
structure Credits where
  authors : List Text
  editors : List Text
  collaborators : List Text
  translators : List Text

namespace Credits

/-- The trimmed family name, unless it is blank. -/
def name? (c : Creator) : Option Text :=
  let name := Text.trim c.lastName
  if name.isEmpty then none else some name

/-- The names of the creators that meet a condition. -/
def namesWhere (p : Creator → Bool) (cs : List Creator) : List Text := (cs.filter p).filterMap name?

/-- Neither an editor nor a translator. -/
def isOther (c : Creator) : Bool := !c.role.isEditor && c.role != .translator

/-- The credits of a record. -/
def ofRecord (r : Record) : Credits :=
  let primary := Role.primary r.itemType
  { authors := namesWhere (fun c => isOther c && c.role == primary) r.creators
    editors := namesWhere (fun c => c.role.isEditor) r.creators
    collaborators := namesWhere (fun c => isOther c && c.role != primary) r.creators
    translators := namesWhere (fun c => c.role == .translator) r.creators }

/-- The first list that holds anything. -/
def firstNonempty : List (List Text) → List Text
  | [] => []
  | names :: rest => if names.isEmpty then firstNonempty rest else names

/-- The names a request for the authors means; a request for editors takes no one else. -/
def select (c : Credits) (onlyEditors : Bool) : List Text :=
  if onlyEditors then c.editors
  else firstNonempty [c.authors, c.editors, c.collaborators, c.translators]

end Credits
end Bibliography.CiteKey
