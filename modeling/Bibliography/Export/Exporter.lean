import Bibliography.CiteKey.Registry
import Bibliography.Export.EntryDraft
import Bibliography.Record.Json

/-! # Exporting records

An exporter gives a batch of records their keys and writes an entry for each. What it writes is a
list of pieces of text; a sink takes them one after the other as long as it has room.

* `Entry.ofRecord` is the entry of one record;
* `Exporter.run` gives the entries of a batch and the report, `Exporter.write` hands them to a sink;
* `exportJson` goes from the JSON text of the records to the text of their entries.
-/

namespace Bibliography.Export
set_option autoImplicit false
open Text CiteKey

/-! ## Reports -/

/-- Something unusual about an export. -/
inductive Warning
  | repeatedPin (w : RepeatedPin)
  /-- A field was written again in the entry with this key. -/
  | repeatedField (key field : Text)
deriving DecidableEq, Repr

/-- How a warning reads. -/
def Warning.message : Warning → Text
  | repeatedPin w => w.message
  | repeatedField key field => key ++ ": field " ++ field ++ " output more than once"

/-- What an export did. -/
structure Report where
  /-- The number of entries. -/
  entries : Nat
  warnings : List Warning
deriving DecidableEq, Repr

/-! ## Fields of a record -/

/-- A creator as a value; a single name is kept as it is. -/
def creatorName (c : Creator) : FieldValue :=
  match c.givenName? with
  | some _ => .text c.listedName
  | none => .literal (trim c.lastName)

/-- The creator is written as an author. -/
def isAuthor (r : Record) (c : Creator) : Bool :=
  c.role == Role.primary r.itemType || c.role == .author

/-- The creator is written as an editor. -/
def isEditor (r : Record) (c : Creator) : Bool := !isAuthor r c && c.role.isEditor

/-- The creator is written as a translator. -/
def isTranslator (r : Record) (c : Creator) : Bool := !isAuthor r c && c.role == .translator

/-- Writes the names of the creators that meet a condition. -/
def writeNames (config : Config) (name : Text) (p : Creator → Bool) (r : Record) (w : EntryDraft) :
    EntryDraft :=
  w.escaped config name (.list ((r.creators.filter p).map creatorName)) (.separated " and ")

/-- Writes authors, editors and translators; other creators are left out. -/
def writeCreators (config : Config) (r : Record) (w : EntryDraft) : EntryDraft :=
  let w := writeNames config "author" (isAuthor r) r w
  let w := writeNames config "editor" (isEditor r) r w
  writeNames config "translator" (isTranslator r) r w

/-- Kinds of items that appear in a journal. -/
def journalTypes : List Text := ["journalArticle", "magazineArticle", "newspaperArticle"]

/-- Kinds of items that are part of a book. -/
def partTypes : List Text := ["bookSection", "conferencePaper"]

/-- The title of the journal of a record. -/
def journalTitle? (config : Config) (r : Record) : Option Text :=
  let short := if config.useJournalAbbreviation then r.field? "journalAbbreviation" else none
  short.orElse fun _ => r.field? "publicationTitle"

/-- The title of the book a record is part of. -/
def bookTitle? (r : Record) : Option Text :=
  (r.field? "publicationTitle").orElse fun _ =>
    (r.field? "bookTitle").orElse fun _ => r.field? "proceedingsTitle"

/-- Writes the title of what the record appeared in. -/
def writeContainer (config : Config) (r : Record) (w : EntryDraft) : EntryDraft :=
  let write (name : Text) (title : Option Text) : EntryDraft :=
    match title with
    | some title => w.escaped config name (.text title) .braced
    | none => w
  if journalTypes.contains r.itemType then write "journal" (journalTitle? config r)
  else if partTypes.contains r.itemType then write "booktitle" (bookTitle? r)
  else w

/-- Writes year and month, or the whole date if it has no year. -/
def writeDate (config : Config) (r : Record) (w : EntryDraft) : EntryDraft :=
  let date := Date.ofText r.date
  match date.year with
  | some year =>
    let w := w.field config "year" (some (decimal year)) false
    w.field config "month" date.monthName? true
  | none => w.plain config "year" r.date

/-- Writes the fields that are written only if they are asked for. -/
def writeOptional (config : Config) (r : Record) (w : EntryDraft) : EntryDraft :=
  let w :=
    if config.usePrefix && r.creators.any Creator.hasParticle then
      w.field config "options" (some "useprefix=true".toList) false
    else w
  let w :=
    match if config.exportNotes then r.field? "notes" else none with
    | some notes => w.plain config "annote" notes
    | none => w
  match if config.exportFileData then r.field? "file" else none with
  | some file => w.verbatim config "file" file
  | none => w

/-- Writes all fields of a record. -/
def writeFields (config : Config) (map : FieldTable) (r : Record) (w : EntryDraft) : EntryDraft :=
  let w := w.escaped config "title" (.text r.title) .braced
  let w := writeCreators config r w
  let w := writeContainer config r w
  let w := writeDate config r w
  let w := w.plain config "pages" r.pages
  let w := w.fields config map r
  let w := w.escaped config "keywords" (.list (r.tags.map FieldValue.text)) (.separated ", ")
  let w := writeOptional config r w
  w.extra config "note" r.extra

/-! ## Entries -/

/-- An entry: its pieces, and the fields that were written again. -/
structure Entry where
  key : Text
  pieces : List Text
  repeated : List Text
deriving DecidableEq, Repr

/-- The entry of a record with the given type and key. -/
def Entry.ofRecord (config : Config) (map : FieldTable) (entryType key : Text) (r : Record) :
    Entry :=
  let w := (writeFields config map r .empty).flush config entryType
  { key
    pieces := [['@'], entryType, ['{'], key] ++ w.pieces ++ [['\n', '}', '\n', '\n']]
    repeated := w.repeated }

/-- The warnings about an entry. -/
def Entry.warnings (e : Entry) : List Warning := e.repeated.map (.repeatedField e.key)

/-! ## Sinks -/

/-- How much more a sink takes. -/
inductive Room
  | unlimited
  /-- So many characters; of a piece that is too long it takes the beginning. -/
  | characters (n : Nat)
  /-- So many pieces, however long. -/
  | pieces (n : Nat)
deriving DecidableEq, Repr

/-- Where an export goes: the text taken in, and the room that is left. -/
structure Sink where
  text : Text
  room : Room
deriving DecidableEq, Repr

namespace Sink

/-- A sink that has taken nothing in yet. -/
def new (room : Room) : Sink := ⟨[], room⟩

/-- Hands a piece to the sink, which tells whether it took all of it. -/
def write (s : Sink) (piece : Text) : Sink × Bool :=
  match s.room with
  | .unlimited => (⟨s.text ++ piece, .unlimited⟩, true)
  | .characters n =>
    if piece.length ≤ n then (⟨s.text ++ piece, .characters (n - piece.length)⟩, true)
    else (⟨s.text ++ piece.take n, .characters 0⟩, false)
  | .pieces 0 => (s, false)
  | .pieces (n + 1) => (⟨s.text ++ piece, .pieces n⟩, true)

/-- Hands pieces to the sink until it refuses one. -/
def writeAll (s : Sink) : List Text → Sink × Bool
  | [] => (s, true)
  | p :: ps =>
    match s.write p with
    | (s, true) => s.writeAll ps
    | (s, false) => (s, false)

end Sink

/-! ## The exporter -/

/-- A configuration with its tables, and the keys of the last batch. -/
structure Exporter where
  config : Config
  map : FieldTable
  registry : Registry

namespace Exporter

/-- An exporter with the standard tables. -/
def new (config : Config) : Exporter := ⟨config, .standard, .new (config.formatter .standard)⟩

/-- The exporter with another table of entry types. -/
def withTypes (e : Exporter) (types : TypeTable) : Exporter :=
  { e with registry := .new (e.config.formatter types) }

/-- The exporter with another field map. -/
def withMap (e : Exporter) (map : FieldTable) : Exporter := { e with map }

/-- The entry of a record, if it is one and has a key. -/
def entry? (e : Exporter) (r : Record) : Option Entry :=
  if r.isExportable then
    (e.registry.keyOf? r.itemId).map fun key =>
      Entry.ofRecord e.config e.map (e.registry.formatter.types.output r) key r
  else none

/-- Gives a batch its keys, forgetting those of the batch before. -/
def load (e : Exporter) (records : List Record) : Exporter × List Record :=
  let (registry, records) := e.registry.reset.assign records
  ({ e with registry }, records)

/-- The exporter after a batch, the entries of the batch, and the report. -/
def run (e : Exporter) (records : List Record) : Exporter × List Entry × Report :=
  let (e, records) := e.load records
  let entries := records.filterMap e.entry?
  let warnings := e.registry.warnings.map Warning.repeatedPin ++ entries.flatMap Entry.warnings
  (e, entries, ⟨entries.length, warnings⟩)

/-- Exports a batch into a sink. There is a report if the sink took everything in. -/
def write (e : Exporter) (records : List Record) (sink : Sink) : Exporter × Sink × Option Report :=
  let (e, entries, report) := e.run records
  let (sink, complete) := sink.writeAll (entries.flatMap Entry.pieces)
  (e, sink, if complete then some report else none)

/-- The text of a batch. -/
def exportText (e : Exporter) (records : List Record) : Text :=
  (e.write records (.new .unlimited)).2.1.text

end Exporter

/-- The message of an export into a sink that took not everything in. -/
def refusedMessage : Text := "Write error: an error occurred when formatting an argument"

/-- Exports the records of a JSON array. -/
def exportJson (config : Config) (json : Text) : Except Json.Fault Text :=
  (Record.listOfJson json).map (Exporter.new config).exportText

end Bibliography.Export
