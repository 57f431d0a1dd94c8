import Bibliography.Export.Exporter

/-! # What is written into an entry

An entry is a sequence of writes, each a name and what stands under it. `writes` lists those of a
record, and `writeFields_eq` says that writing its fields is carrying them out one after the other.
What holds of one write (`FieldWrite.apply`) then holds of entries by induction on the list.
-/

namespace Bibliography.Export
set_option autoImplicit false
open Text

/-! ## Writes -/

/-- What is written under a name. -/
inductive FieldContent
  | value (v : FieldValue) (style : EscapeStyle)
  | link (url : Text)
  | verbatim (s : Text)
  /-- LaTeX that is not escaped any more. -/
  | latex (s : Text) (bare : Bool)

/-- A name and what is written under it. -/
structure FieldWrite where
  name : Text
  content : FieldContent

namespace FieldContent

/-- The LaTeX of a content, if there is any. -/
def latex? (config : Config) : FieldContent → Option Text
  | value v style => v.escape style config
  | link url => if url.isEmpty then none else some (Link.toLatex config.mode config.fancyUrls url)
  | verbatim s => if s.isEmpty then none else some (Link.escape config.mode s)
  | latex s _ => some s

/-- The content stands without braces. -/
def bare : FieldContent → Bool
  | latex _ bare => bare
  | _ => false

end FieldContent

namespace FieldWrite

/-- A text that is escaped as most are. -/
def plain (name value : Text) : FieldWrite := ⟨name, .value (.text value) .standard⟩

/-- Carries out a write. -/
def apply (config : Config) (x : FieldWrite) (w : EntryDraft) : EntryDraft :=
  w.field config x.name (x.content.latex? config) x.content.bare

/-- What a write adds under its name: nothing if the field is skipped or its content is empty. -/
def written? (config : Config) (x : FieldWrite) : Option Text :=
  (x.content.latex? config).filter fun s => !(config.skips x.name || s.isEmpty)

theorem latex?_of_written? {config : Config} {x : FieldWrite} {s : Text}
    (h : x.written? config = some s) : x.content.latex? config = some s :=
  (Option.filter_eq_some_iff.1 h).1

/-- A write appends its pieces, or nothing at all. -/
theorem text_apply (config : Config) (x : FieldWrite) (w : EntryDraft) :
    (x.apply config w).text = w.text ++ ((x.written? config).elim [] fun s =>
      (EntryDraft.fragment x.name s x.content.bare).flatten) := by
  unfold apply EntryDraft.field written?
  cases x.content.latex? config with
  | none => exact (List.append_nil _).symm
  | some s =>
    rw [Option.filter_some]
    cases hskipped : config.skips x.name || s.isEmpty with
    | true =>
      simp only [hskipped]
      exact (List.append_nil _).symm
    | false =>
      simp only [hskipped]
      exact List.flatten_append

/-- Carries out writes, one after the other. -/
def applyAll (config : Config) (xs : List FieldWrite) (w : EntryDraft) : EntryDraft :=
  xs.foldl (fun w x => x.apply config w) w

@[simp] theorem applyAll_nil (config : Config) (w : EntryDraft) : applyAll config [] w = w := rfl

@[simp] theorem applyAll_cons (config : Config) (x : FieldWrite) (xs : List FieldWrite)
    (w : EntryDraft) :
    applyAll config (x :: xs) w = applyAll config xs (x.apply config w) := rfl

theorem applyAll_append (config : Config) (xs ys : List FieldWrite) (w : EntryDraft) :
    applyAll config (xs ++ ys) w = applyAll config ys (applyAll config xs w) :=
  List.foldl_append

end FieldWrite

open FieldWrite

/-! ## The writes of a record -/

/-- The creators that meet a condition. -/
def namesWrite (name : Text) (p : Creator → Bool) (r : Record) : FieldWrite :=
  ⟨name, .value (.list ((r.creators.filter p).map creatorName)) (.separated " and ")⟩

def creatorWrites (r : Record) : List FieldWrite :=
  [namesWrite "author" (isAuthor r) r, namesWrite "editor" (isEditor r) r,
    namesWrite "translator" (isTranslator r) r]

/-- A title that asks for braces, if there is one. -/
def titleWrite? (name : Text) (title : Option Text) : Option FieldWrite :=
  title.map fun title => ⟨name, .value (.text title) .braced⟩

def containerWrite? (config : Config) (r : Record) : Option FieldWrite :=
  if journalTypes.contains r.itemType then titleWrite? "journal" (journalTitle? config r)
  else if partTypes.contains r.itemType then titleWrite? "booktitle" (bookTitle? r)
  else none

def dateWrites (r : Record) : List FieldWrite :=
  let date := Date.ofText r.date
  match date.year with
  | some year =>
    ⟨"year", .latex (decimal year) false⟩ ::
      (date.monthName?.map fun month => ⟨"month", .latex month true⟩).toList
  | none => [plain "year" r.date]

/-- A field that is copied, if the record has it. -/
def ruleWrite? (r : Record) (m : FieldRule) : Option FieldWrite :=
  (r.field? m.source).map fun value =>
    match m.kind with
    | .link => ⟨m.field, .link value⟩
    | .verbatim => ⟨m.field, .verbatim value⟩
    | .text => plain m.field value
    | .literal => ⟨m.field, .value (.text value) .braced⟩

/-- The writes that are made only if they are asked for. -/
def optionalWrites (config : Config) (r : Record) : List FieldWrite :=
  (if config.usePrefix && r.creators.any Creator.hasParticle then
    [⟨"options", .latex "useprefix=true" false⟩] else []) ++
  ((if config.exportNotes then r.field? "notes" else none).map (plain "annote")).toList ++
  ((if config.exportFileData then r.field? "file" else none).map
    fun file => ⟨"file", .verbatim file⟩).toList

/-- The assignments of an extra field, and what is left of it. -/
def extraWrites (name extra : Text) : List FieldWrite :=
  match EntryDraft.dataDirective? extra with
  | none => [plain name extra]
  | some found =>
    (EntryDraft.assignments found.key).map (fun p => plain p.1 p.2) ++ [plain name found.remainder]

/-- Everything that is written of a record, in order. -/
def writes (config : Config) (map : FieldTable) (r : Record) : List FieldWrite :=
  [⟨"title", .value (.text r.title) .braced⟩] ++ creatorWrites r ++
    (containerWrite? config r).toList ++ dateWrites r ++ [plain "pages" r.pages] ++
    map.filterMap (ruleWrite? r) ++
    [⟨"keywords", .value (.list (r.tags.map FieldValue.text)) (.separated ", ")⟩] ++
    optionalWrites config r ++ extraWrites "note" r.extra

/-! ## Writing is carrying out writes -/

section
variable (config : Config) (r : Record) (w : EntryDraft)

theorem plain_eq_apply (name value : Text) :
    w.plain config name value = apply config (plain name value) w := rfl

theorem link_eq_apply (name url : Text) :
    w.link config name url = apply config ⟨name, .link url⟩ w := by
  cases url with
  | nil => rfl
  | cons c cs => rfl

theorem verbatim_eq_apply (name value : Text) :
    w.verbatim config name value = apply config ⟨name, .verbatim value⟩ w := by
  cases value with
  | nil => rfl
  | cons c cs => rfl

theorem writeCreators_eq : writeCreators config r w = applyAll config (creatorWrites r) w := rfl

theorem writeContainer_eq :
    writeContainer config r w = applyAll config (containerWrite? config r).toList w := by
  unfold writeContainer containerWrite? titleWrite?
  dsimp only
  split
  · cases journalTitle? config r with
    | none => rfl
    | some title => rfl
  · split
    · cases bookTitle? r with
      | none => rfl
      | some title => rfl
    · rfl

theorem writeDate_eq : writeDate config r w = applyAll config (dateWrites r) w := by
  unfold writeDate dateWrites
  dsimp only
  cases (Date.ofText r.date).year with
  | none => rfl
  | some year =>
    dsimp only
    cases (Date.ofText r.date).monthName? with
    | none => rfl
    | some month => rfl

theorem mapped_eq (m : FieldRule) :
    EntryDraft.mapped config r w m = applyAll config (ruleWrite? r m).toList w := by
  unfold EntryDraft.mapped ruleWrite?
  cases r.field? m.source with
  | none => rfl
  | some value =>
    dsimp only [Option.map_some, Option.toList_some]
    cases m.kind with
    | link => exact link_eq_apply config w m.field value
    | verbatim => exact verbatim_eq_apply config w m.field value
    | text => rfl
    | literal => rfl

theorem fields_eq (table : FieldTable) :
    w.fields config table r = applyAll config (table.filterMap (ruleWrite? r)) w := by
  unfold EntryDraft.fields
  induction table generalizing w with
  | nil => rfl
  | cons m table ih =>
    rw [List.foldl_cons, ih, mapped_eq, ← applyAll_append]
    cases hm : ruleWrite? r m with
    | none => rw [List.filterMap_cons_none hm, Option.toList_none, List.nil_append]
    | some x => rw [List.filterMap_cons_some hm, Option.toList_some, List.singleton_append]

theorem writeOptional_eq :
    writeOptional config r w = applyAll config (optionalWrites config r) w := by
  unfold writeOptional optionalWrites
  rw [applyAll_append, applyAll_append]
  have hparticle : (if config.usePrefix && r.creators.any Creator.hasParticle then
      w.field config "options" (some "useprefix=true".toList) false else w) =
      applyAll config (if config.usePrefix && r.creators.any Creator.hasParticle then
        [⟨"options", .latex "useprefix=true" false⟩] else []) w := by
    split
    · rfl
    · rfl
  rw [hparticle]
  cases (if config.exportNotes then r.field? "notes" else none) with
  | none =>
    cases (if config.exportFileData then r.field? "file" else none) with
    | none => rfl
    | some file => exact verbatim_eq_apply config _ "file" file
  | some notes =>
    cases (if config.exportFileData then r.field? "file" else none) with
    | none => rfl
    | some file => exact verbatim_eq_apply config _ "file" file

theorem extra_eq (name extra : Text) :
    w.extra config name extra = applyAll config (extraWrites name extra) w := by
  unfold EntryDraft.extra extraWrites
  cases EntryDraft.dataDirective? extra with
  | none => rfl
  | some found =>
    have hassignments : applyAll config
        ((EntryDraft.assignments found.key).map fun p => plain p.1 p.2) w =
          (EntryDraft.assignments found.key).foldl (fun w p => w.plain config p.1 p.2) w :=
      List.foldl_map
    dsimp only
    rw [applyAll_append, hassignments]
    rfl

/-- Writing the fields of a record is carrying out its writes. -/
theorem writeFields_eq (map : FieldTable) :
    writeFields config map r w = applyAll config (writes config map r) w := by
  unfold writeFields writes
  simp only [applyAll_append, extra_eq, writeOptional_eq, fields_eq, writeDate_eq,
    writeContainer_eq, writeCreators_eq]
  rfl

end
end Bibliography.Export
