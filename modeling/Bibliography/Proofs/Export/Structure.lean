import Bibliography.Proofs.EntryTypes.Owners
import Bibliography.Proofs.Export.Entries
import Mathlib.Data.List.Forall2

/-! # The entries of an export

An export with the standard tables is balanced, and cut at depth zero it falls into one entry for
each record that is one, headed by its type and key. What a record brings along unescaped must be
harmless in what is left of it when its pinned key is cut out, not only in the record as it is
given.
-/

namespace Bibliography.Export
set_option autoImplicit false
open Text Latex Markup CiteKey

/-! ## Standard entry types -/

/-- The entry types the standard table chooses. -/
def standardNames : List Text :=
  ["article", "book", "incollection", "inproceedings", "techreport", "unpublished", "misc",
    "online", "software", "dataset", "mastersthesis", "phdthesis"]

theorem isPlain_standardNames : ∀ name ∈ standardNames, name.all isPlain = true := by decide

theorem balancedBlocks_standardNames : ∀ name ∈ standardNames, BalancedBlocks name := by
  have hbracket : ∀ name ∈ standardNames, '<' ∉ name := by decide
  exact fun name hname => balancedBlocks_of_notMem (hbracket name hname)

theorem get?_foldl_insert {types : List (Text × List Text)} {t : TypeTable} {kind : Text}
    {e : EntryType}
    (h : (types.foldl (fun t p => t.insert p.1 p.2) t).outputs.get? kind = some e) :
    t.outputs.get? kind = some e ∨
      ∃ p ∈ types, ∃ first ∈ p.2.head?, e = .literal (TypeTable.bareName first) := by
  induction types generalizing t with
  | nil => exact Or.inl h
  | cons p types ih =>
    rcases ih h with hget | ⟨q, hq, hfirst⟩
    · obtain ⟨source, listed⟩ := p
      cases listed with
      | nil => exact Or.inl hget
      | cons first others =>
        rw [TypeTable.outputs_insert_cons, Dict.get?_put] at hget
        split at hget
        · cases hget
          exact Or.inr ⟨_, List.mem_cons_self .., first, rfl, rfl⟩
        · exact Or.inl hget
    · exact Or.inr ⟨q, List.mem_cons_of_mem _ hq, hfirst⟩

/-- The standard table has a fixed name for each kind but theses. -/
theorem standard_get?_cases {kind : Text} {e : EntryType}
    (h : TypeTable.standard.outputs.get? kind = some e) :
    (∃ name ∈ standardNames, e = .literal name) ∨ e = .rule TypeTable.thesisType := by
  have hnames : ∀ p ∈ TypeTable.standardTypes, ∀ first ∈ p.2.head?,
      TypeTable.bareName first ∈ standardNames := by decide
  rw [TypeTable.standard, TypeTable.insertRule, Dict.get?_put] at h
  split at h
  · cases h
    exact Or.inr rfl
  · rcases get?_foldl_insert h with hnone | ⟨p, hp, first, hfirst, rfl⟩
    · exact absurd hnone (by simp [TypeTable.empty, Dict.get?, EmptyCollection.emptyCollection])
    · exact Or.inl ⟨_, hnames p hp first hfirst, rfl⟩

theorem output_standard_mem (r : Record) : TypeTable.standard.output r ∈ standardNames := by
  have hchosen : ∀ chosen : Text, chosen = [] ∨ chosen ∈ standardNames →
      (if chosen.isEmpty then TypeTable.fallback else chosen) ∈ standardNames := by
    rintro chosen (rfl | hmem)
    · decide
    · split
      · decide
      · exact hmem
  unfold TypeTable.output
  refine hchosen _ ?_
  cases h : TypeTable.standard.outputs.get? r.itemType with
  | none => exact Or.inl rfl
  | some t =>
    right
    rcases standard_get?_cases h with ⟨name, hname, rfl⟩ | rfl
    · exact hname
    · unfold TypeTable.thesisType
      dsimp only
      split
      · decide
      · decide

theorem field?_of_ne_extra {name : Text} (h : name ≠ "extra".toList) (r : Record) (extra : Text) :
    ({ r with extra } : Record).field? name = r.field? name := by
  simp only [Record.field?, Record.stored?, h, if_false]

theorem output_standard_withoutPin (r : Record) :
    TypeTable.standard.output (Registry.withoutPin r) = TypeTable.standard.output r := by
  have hthesis : TypeTable.thesisType (Registry.withoutPin r) = TypeTable.thesisType r := by
    have hne : ("thesisType" : String).toList ≠ "extra".toList := by decide
    rw [Registry.withoutPin_eq, TypeTable.thesisType, TypeTable.thesisType, field?_of_ne_extra hne]
  have hkind : (Registry.withoutPin r).itemType = r.itemType := by rw [Registry.withoutPin_eq]
  unfold TypeTable.output
  rw [hkind]
  cases h : TypeTable.standard.outputs.get? r.itemType with
  | none => rfl
  | some t =>
    rcases standard_get?_cases h with ⟨name, -, rfl⟩ | rfl
    · rfl
    · simp only [hthesis]

/-! ## Entries -/

/-- The text of the entry is a group with the given name, that begins with its key. -/
def Entry.Grouped (name : Text) (x : Entry) : Prop :=
  (∀ c ∈ name, isPlain c = true) ∧ ∃ body, BraceBalanced (x.key ++ body) ∧
    x.pieces.flatten = groupText name (x.key ++ body) ++ ['\n', '\n']

theorem Entry.Grouped.balanced {name : Text} {x : Entry} (h : x.Grouped name) :
    BraceBalanced x.pieces.flatten := by
  obtain ⟨hname, body, hbody, hpieces⟩ := h
  have hbreak : BraceBalanced ['\n', '\n'] := by decide
  rw [hpieces]
  exact (balanced_groupText hname hbody).append hbreak

theorem grouped_ofRecord {config : Config} {map : FieldTable} {name key : Text} {r : Record}
    (hname : name ∈ standardNames) (hkey : ∀ c ∈ key, isPlain c = true)
    (hmap : ∀ m ∈ map, m.field.all isPlain = true)
    (hassigned : ∀ name ∈ assignedNames r.extra, name.all isPlain = true)
    (htexts : ∀ s ∈ convertedTexts config map r, BalancedBlocks s) :
    (Entry.ofRecord config map name key r).Grouped name := by
  have hfields : BraceBalanced (writeFields config map r .empty).text := by
    rw [writeFields_eq]
    refine balanced_applyAll (sound_of_mem_writes hmap hassigned) ?_ BraceBalanced.nil
    exact fun x hx s hs => htexts s (List.mem_flatMap.2 ⟨x, hx, hs⟩)
  have hflushed : BraceBalanced ((writeFields config map r .empty).flush config name).text := by
    unfold EntryDraft.flush
    split
    · -- an entry without a field gets its type as one
      rw [plain_eq_apply]
      refine balanced_apply (sound_plain (by decide) name) ?_ hfields
      intro s hs
      have heq : s = name := by
        simpa [FieldWrite.plain, FieldContent.texts, FieldValue.texts] using hs
      rw [heq]
      exact balancedBlocks_standardNames name hname
    · exact hfields
  have hend : BraceBalanced ['\n'] := by decide
  refine ⟨List.all_eq_true.1 (isPlain_standardNames name hname),
    ((writeFields config map r .empty).flush config name).text ++ ['\n'], ?_, ?_⟩
  · exact (BraceBalanced.of_plain hkey).append (hflushed.append hend)
  · simp [Entry.ofRecord, groupText, EntryDraft.text]

/-! ## Texts of entries -/

/-- The text of a record's entry begins with its type and key. -/
def StartsEntry (keys : Registry) (r : Record) (s : Text) : Prop :=
  ∃ key, keys.keyOf? r.itemId = some key ∧
    '@' :: TypeTable.standard.output r ++ '{' :: key <+: s

/-- The entry stands for the record, under its key. -/
structure StandsFor (keys : Registry) (r : Record) (x : Entry) : Prop where
  key : keys.keyOf? r.itemId = some x.key
  grouped : x.Grouped (TypeTable.standard.output r)

theorem balanced_entries {keys : Registry} {rs : List Record} {xs : List Entry}
    (h : List.Forall₂ (StandsFor keys) rs xs) :
    BraceBalanced (xs.flatMap Entry.pieces).flatten := by
  induction h with
  | nil => exact BraceBalanced.nil
  | cons hfirst _ ih =>
    rw [List.flatMap_cons, List.flatten_append]
    exact hfirst.grouped.balanced.append ih

/-- Behind blanks, the texts of entries are found as they stand for their records. -/
theorem startsEntry_entriesOf {keys : Registry} {rs : List Record} {xs : List Entry}
    (h : List.Forall₂ (StandsFor keys) rs xs) {lead : Text}
    (hlead : ∀ c ∈ lead, Unicode.isBlank c = true) :
    List.Forall₂ (StartsEntry keys) rs
      (entriesOf (lead ++ (xs.flatMap Entry.pieces).flatten)) := by
  induction h generalizing lead with
  | nil =>
    have hnone := entriesOf_blank hlead
    rw [List.flatMap_nil, List.flatten_nil, List.append_nil, hnone]
    exact List.Forall₂.nil
  | @cons r x rs xs hfirst _ ih =>
    obtain ⟨hname, body, hbody, hpieces⟩ := hfirst.grouped
    have hbreak : ∀ c ∈ ['\n', '\n'], Unicode.isBlank c = true :=
      List.all_eq_true.1 (by decide)
    have hform : lead ++ ((x :: xs).flatMap Entry.pieces).flatten =
        lead ++ groupText (TypeTable.standard.output r) (x.key ++ body) ++
          (['\n', '\n'] ++ (xs.flatMap Entry.pieces).flatten) := by
      rw [List.flatMap_cons, List.flatten_append, hpieces]
      simp only [List.append_assoc]
    -- the empty line behind an entry stands before the next one
    rw [hform, entriesOf_cons hlead hname hbody]
    refine List.Forall₂.cons ⟨x.key, hfirst.key, ?_⟩ (ih hbreak)
    exact ⟨body ++ ['}'], by simp [groupText]⟩

/-! ## Exports -/

theorem writeAll_unlimited (s : Text) (pieces : List Text) :
    (⟨s, .unlimited⟩ : Sink).writeAll pieces = (⟨s ++ pieces.flatten, .unlimited⟩, true) := by
  induction pieces generalizing s with
  | nil => simp [Sink.writeAll]
  | cons p ps ih =>
    rw [Sink.writeAll]
    simp only [Sink.write, ih, List.flatten_cons, List.append_assoc]

theorem entry?_of_not_isExportable {e : Exporter} {r : Record} (h : ¬r.isExportable = true) :
    Exporter.entry? (e) (Registry.withoutPin r) = none := by
  rw [Exporter.entry?, Registry.isExportable_withoutPin, if_neg h]

/-- Every record that is an entry gets one, in the order of the batch. -/
theorem forall₂_entries {e : Exporter} {related : Record → Entry → Prop} {records : List Record}
    (h : ∀ r ∈ records, r.isExportable = true →
      ∃ x, e.entry? (Registry.withoutPin r) = some x ∧ related r x) :
    List.Forall₂ related (records.filter Record.isExportable)
      ((records.map Registry.withoutPin).filterMap e.entry?) := by
  induction records with
  | nil => exact List.Forall₂.nil
  | cons r rs ih =>
    have hrest := ih fun r hr => h r (List.mem_cons_of_mem _ hr)
    rw [List.map_cons]
    by_cases he : r.isExportable = true
    · obtain ⟨x, hx, hrelated⟩ := h r (List.mem_cons_self ..) he
      rw [List.filter_cons_of_pos he, List.filterMap_cons_some hx]
      exact List.Forall₂.cons hrelated hrest
    · rw [List.filter_cons_of_neg he, List.filterMap_cons_none (entry?_of_not_isExportable he)]
      exact hrest

theorem isPlain_of_isSafe {c : Char} (h : isSafe c = true) : isPlain c = true :=
  isPlain_of_test h (by decide) (by decide) (by decide)

theorem load_eq (e : Exporter) (records : List Record) :
    e.load records = ({ e with registry := ((Registry.new e.registry.formatter).assign records).1 },
      records.map Registry.withoutPin) := rfl

theorem write_unlimited (e : Exporter) (records : List Record) :
    e.write records (.new .unlimited) =
      ((e.run records).1, ⟨((e.run records).2.1.flatMap Entry.pieces).flatten, .unlimited⟩,
        some (e.run records).2.2) := by
  rw [Exporter.write, Sink.new]
  simp only [writeAll_unlimited, List.nil_append, if_true]

/-- A record that is an entry gets one, under its type and key. -/
theorem exists_entry?_load (e : Exporter) {records : List Record} {r : Record} (hr : r ∈ records)
    (he : r.isExportable = true) :
    ∃ key, (e.load records).1.registry.keyOf? r.itemId = some key ∧
      Exporter.entry? (e.load records).1 (Registry.withoutPin r) =
        some (Entry.ofRecord e.config e.map
          (e.registry.formatter.types.output (Registry.withoutPin r)) key
          (Registry.withoutPin r)) := by
  obtain ⟨key, hkey⟩ := Option.isSome_iff_exists.1
    (Registry.keyOf?_assign_isSome e.registry.formatter hr he)
  refine ⟨key, hkey, ?_⟩
  rw [load_eq, Exporter.entry?, Registry.isExportable_withoutPin, if_pos he,
    Registry.itemId_withoutPin]
  simp only [hkey, Option.map_some, Registry.formatter_assign]

/-- The entry of a record under the key it has in a registry. -/
def entryOf (config : Config) (map : FieldTable) (keys : Registry) (r : Record) : Entry :=
  .ofRecord config map (keys.formatter.types.output (Registry.withoutPin r))
    ((keys.keyOf? r.itemId).getD []) (Registry.withoutPin r)

/-- The entries of a run are those of the records that are entries, one for each, in the order of
the batch. -/
theorem entries_run (e : Exporter) (records : List Record) :
    (e.run records).2.1 = (records.filter Record.isExportable).map
      (entryOf e.config e.map (e.load records).1.registry) := by
  have hentries : List.Forall₂
      (fun r x => entryOf e.config e.map (e.load records).1.registry r = x)
      (records.filter Record.isExportable) (e.run records).2.1 := by
    refine forall₂_entries fun r hr he => ?_
    obtain ⟨key, hkey, hentry⟩ := exists_entry?_load e hr he
    refine ⟨_, hentry, ?_⟩
    rw [entryOf, hkey]
    simp only [load_eq, Registry.formatter_assign, Option.getD_some]
  rw [← List.forall₂_map_left_iff, List.forall₂_eq_eq_eq] at hentries
  exact hentries.symm

/-- With the standard tables, a record that is an entry gets one, under its type and key. -/
theorem entry?_load {e : Exporter} {records : List Record} (map : e.map = .standard)
    (types : e.registry.formatter.types = .standard) {r : Record} (hr : r ∈ records)
    (he : r.isExportable = true) :
    ∃ key, (e.load records).1.registry.keyOf? r.itemId = some key ∧
      Exporter.entry? (e.load records).1 (Registry.withoutPin r) =
        some (Entry.ofRecord e.config .standard (TypeTable.standard.output r) key
          (Registry.withoutPin r)) := by
  obtain ⟨key, hkey, hentry⟩ := exists_entry?_load e hr he
  refine ⟨key, hkey, ?_⟩
  rw [hentry, types, map, output_standard_withoutPin]

/-- The entry of a record stands for it, if what it takes over unescaped is harmless. -/
theorem exists_entry {e : Exporter} {records : List Record} (map : e.map = .standard)
    (types : e.registry.formatter.types = .standard)
    (pins : ∀ r ∈ records, r.isExportable = true → ∀ key, pinnedKey? r.extra = some key →
      ∀ c ∈ key, isPlain c = true)
    {r : Record} (hr : r ∈ records) (he : r.isExportable = true)
    (names : ∀ name ∈ assignedNames (Registry.withoutPin r).extra, name.all isPlain = true)
    (texts : ∀ s ∈ convertedTexts e.config .standard (Registry.withoutPin r), BalancedBlocks s) :
    ∃ x, Exporter.entry? (e.load records).1 (Registry.withoutPin r) = some x ∧
      StandsFor (e.load records).1.registry r x := by
  obtain ⟨key, hkey, hentry⟩ := entry?_load map types hr he
  -- the key is one that some record pins, or it is made of safe characters
  have hplain : ∀ c ∈ key, isPlain c = true := by
    rcases Registry.pinned_or_isSafe_of_keyOf? hkey with ⟨r', hr', he', hpin⟩ | hsafe
    · exact pins r' hr' he' key hpin
    · exact fun c hc => isPlain_of_isSafe (hsafe c hc)
  have hfields : ∀ m ∈ FieldTable.standard, m.field.all isPlain = true := by decide
  exact ⟨_, hentry, hkey, grouped_ofRecord (output_standard_mem r) hplain hfields names texts⟩

/-- Into a sink that takes everything, an export writes a balanced text with one entry for each
record that is one, under its type and key. What a record brings along unescaped has to be
harmless: its pinned key, and, in what is left of it without that, the names in its data directive
and the preformatted blocks. -/
theorem write_structure (e : Exporter) (records : List Record)
    (map : e.map = .standard) (types : e.registry.formatter.types = .standard)
    (pins : ∀ r ∈ records, r.isExportable = true → ∀ key, pinnedKey? r.extra = some key →
      ∀ c ∈ key, isPlain c = true)
    (names : ∀ r ∈ records, r.isExportable = true →
      ∀ name ∈ assignedNames (Registry.withoutPin r).extra, ∀ c ∈ name, isPlain c = true)
    (texts : ∀ r ∈ records, r.isExportable = true →
      ∀ s ∈ convertedTexts e.config .standard (Registry.withoutPin r), BalancedBlocks s) :
    ∃ after sink report, e.write records (.new .unlimited) = (after, sink, some report) ∧
      BraceBalanced sink.text ∧
      report.entries = (records.filter Record.isExportable).length ∧
      (entriesOf sink.text).length = report.entries ∧
      List.Forall₂ (StartsEntry after.registry) (records.filter Record.isExportable)
        (entriesOf sink.text) := by
  have hentries : List.Forall₂ (StandsFor (e.load records).1.registry)
      (records.filter Record.isExportable) (e.run records).2.1 :=
    forall₂_entries fun r hr he => exists_entry map types pins hr he
      (fun name hname => List.all_eq_true.2 (names r hr he name hname)) (texts r hr he)
  have hblank : ∀ c ∈ ([] : Text), Unicode.isBlank c = true := by simp
  have hstarts := startsEntry_entriesOf hentries hblank
  have hcount : (e.run records).2.2.entries = (records.filter Record.isExportable).length :=
    hentries.length_eq.symm
  refine ⟨_, _, _, write_unlimited e records, balanced_entries hentries, hcount, ?_, hstarts⟩
  rw [hcount]
  exact hstarts.length_eq.symm

/-- A book with a pinned key, an assignment and a preformatted block. -/
def pinnedBook : Record :=
  { Record.blank with
    itemId := "1", itemType := "book", title := r"Air <pre>\emph{in}</pre> {<b>",
    extra := r"bibtex: air1 biblatexdata[issue=}] rare" }

theorem withoutPin_pinnedBook : Registry.withoutPin pinnedBook =
    { pinnedBook with extra := r"biblatexdata[issue=}] rare" } := by
  have hextra : (Registry.withoutPin pinnedBook).extra =
      r"biblatexdata[issue=}] rare".toList := by decide +kernel
  rw [Registry.withoutPin_eq, hextra]

theorem write_pinnedBook :
    ∃ after sink report,
      (Exporter.new .standard).write [pinnedBook] (.new .unlimited) = (after, sink, some report) ∧
      BraceBalanced sink.text ∧ report.entries = 1 ∧ (entriesOf sink.text).length = 1 := by
  have hpin : pinnedKey? pinnedBook.extra = some "air1".toList := by decide +kernel
  have hnames : assignedNames r"biblatexdata[issue=}] rare" = ["issue".toList] := by
    decide +kernel
  have htexts : ∀ s ∈ convertedTexts Config.standard .standard
      { pinnedBook with extra := r"biblatexdata[issue=}] rare" }, BalancedBlocks s := by
    decide +kernel
  obtain ⟨after, sink, report, hwrite, hbalanced, hcount, hlength, -⟩ :=
    write_structure (Exporter.new .standard) [pinnedBook] rfl rfl
      (by
        simp only [List.forall_mem_singleton, hpin, Option.some.injEq, forall_eq']
        exact fun _ => List.all_eq_true.1 (by decide))
      (by
        simp only [List.forall_mem_singleton, withoutPin_pinnedBook, hnames]
        exact fun _ => List.all_eq_true.1 (by decide))
      (by
        simp only [List.forall_mem_singleton, withoutPin_pinnedBook]
        exact fun _ => htexts)
  exact ⟨after, sink, report, hwrite, hbalanced, hcount, hlength.trans hcount⟩

/-- A book whose extra field has no data directive until its pinned key is cut out. -/
def gluedDirective : Record :=
  { Record.blank with
    itemId := "1", itemType := "book", extra := r"biblatexdabiblatexcitekey[x]ta[a}b=1]" }

/-- It is not enough that the names in the extra field as it is given are harmless. Cutting out a
pinned key may put a data directive together, here one that assigns a value to `a}b`. -/
theorem not_balanced_write_gluedDirective :
    (∀ key, pinnedKey? gluedDirective.extra = some key → ∀ c ∈ key, isPlain c = true) ∧
      (∀ name ∈ assignedNames gluedDirective.extra, ∀ c ∈ name, isPlain c = true) ∧
      (∀ s ∈ convertedTexts Config.standard .standard (Registry.withoutPin gluedDirective),
        BalancedBlocks s) ∧
      ∃ after sink report,
        (Exporter.new .standard).write [gluedDirective] (.new .unlimited) =
          (after, sink, some report) ∧ ¬BraceBalanced sink.text := by
  have hpin : pinnedKey? gluedDirective.extra = some "x".toList := by decide +kernel
  have hnames : assignedNames gluedDirective.extra = [] := by decide +kernel
  have htexts : ∀ s ∈ convertedTexts Config.standard .standard
      (Registry.withoutPin gluedDirective), BalancedBlocks s := by
    decide +kernel
  refine ⟨?_, by simp [hnames], htexts, _, _, _, write_unlimited _ _, ?_⟩
  · simp only [hpin, Option.some.injEq, forall_eq']
    exact List.all_eq_true.1 (by decide)
  · decide +kernel

end Bibliography.Export
