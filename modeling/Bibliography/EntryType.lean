import Bibliography.Record.Basic
import Bibliography.Text.Quoted
import Bibliography.Text.Search
import Bibliography.Unicode.Lowercase

/-! # Entry types

Kinds of items and types of entries, in both directions. A kind of item may list several entry
types: the first is the one written for it. Read the other way, an entry type belongs to the first
kind that lists it, unless a later one takes it over with a colon in front. A kind may also decide
record by record.
-/

namespace Bibliography
set_option autoImplicit false
open Text

/-- The entry type of a kind of item: a fixed name, or a rule for each record. -/
inductive EntryType
  | literal (name : Text)
  | rule (choose : Record → Text)

/-- How an entry type shows in messages; a rule has no text. -/
def EntryType.display : EntryType → Text
  | .literal name => "Literal(" ++ quoted name ++ ")"
  | .rule _ => "Resolver(..)"

/-- Kinds of items and types of entries. -/
structure TypeTable where
  /-- The entry type of a kind. -/
  outputs : Dict EntryType
  /-- The kind an entry type belongs to. -/
  sources : Dict Text

namespace TypeTable

/-- No kind has an entry type. -/
def empty : TypeTable := ⟨∅, ∅⟩

/-- The entry type written for a kind the table does not know. -/
def fallback : Text := "misc"

/-- The name of an entry type without the colons in front. -/
def bareName (listed : Text) : Text := listed.dropWhile (· == ':')

/-- The entry type is taken from whoever has it. -/
def takesOver (listed : Text) : Bool := listed.head? == some ':'

/-- Lists one entry type under a kind of item. -/
def insertName (source : Text) (t : TypeTable) (listed : Text) : TypeTable :=
  let name := bareName listed
  if takesOver listed || !t.sources.has name then { t with sources := t.sources.put name source }
  else t

/-- Lists entry types under a kind of item; the first is written for it. -/
def insert (t : TypeTable) (source : Text) (listed : List Text) : TypeTable :=
  let t := listed.foldl (insertName source) t
  match listed with
  | [] => t
  | first :: _ => { t with outputs := t.outputs.put source (.literal (bareName first)) }

/-- Gives a kind of item a rule; nothing leads back from the types it chooses. -/
def insertRule (t : TypeTable) (source : Text) (choose : Record → Text) : TypeTable :=
  { t with outputs := t.outputs.put source (.rule choose) }

/-- The entry type of a record. -/
def output (t : TypeTable) (r : Record) : Text :=
  let chosen :=
    match t.outputs.get? r.itemType with
    | some (.literal name) => name
    | some (.rule choose) => choose r
    | none => []
  if chosen.isEmpty then fallback else chosen

/-- The kind of item an entry type belongs to; the name is looked up in lower case. -/
def source? (t : TypeTable) (output : Text) : Option Text := t.sources.get? (Unicode.lower output)

/-! ## The standard table -/

/-- What the kind of a thesis says if it is a master's thesis. -/
def masterWords : List Text := ["master", "m.sc", "msc"]

/-- Theses are told apart by the degree they name. -/
def thesisType (r : Record) : Text :=
  let kind := Unicode.lower ((r.field? "thesisType").getD [])
  if masterWords.any fun w => occursIn w kind then "mastersthesis" else "phdthesis"

/-- The entry types listed for each kind of item. -/
def standardTypes : List (Text × List Text) := [
  ("journalArticle", ["article"]),
  ("magazineArticle", ["article"]),
  ("newspaperArticle", ["article"]),
  ("book", ["book", "booklet", "manual"]),
  ("bookSection", ["incollection", "inbook"]),
  ("conferencePaper", ["inproceedings", ":conference"]),
  ("report", ["techreport"]),
  ("manuscript", ["unpublished"]),
  ("document", ["misc"]),
  ("webpage", ["online"]),
  ("computerProgram", ["software"]),
  ("dataset", ["dataset"])
]

/-- The table of the standard entry types. -/
def standard : TypeTable :=
  (standardTypes.foldl (fun t p => t.insert p.1 p.2) empty).insertRule "thesis" thesisType

end TypeTable
end Bibliography
