import Bibliography.Proofs.CiteKey.Safe
import Bibliography.Proofs.Export.Structure
import Bibliography.Proofs.Markup.Ascii

/-! # Exports in ASCII

Where other characters are not kept, links, numbers and rich text all come out in ASCII. Pinned keys
and preformatted blocks are meant to be written as they are; the names in data directives are not
escaped either. `isAscii_write_iff` says that an export is ASCII exactly if these are, as far as
they are written.
-/

namespace Bibliography
set_option autoImplicit false
open Text Unicode Latex Markup CiteKey

/-! ## Links -/

namespace Link

theorem isAscii_byNumber (byte : UInt8) : IsAscii (byNumber byte) :=
  isAscii_cons.2 ⟨by decide, isAscii_cons.2 ⟨by decide, isAscii_hex 2 byte.toNat⟩⟩

theorem isAscii_escapeChar (c : Char) : IsAscii (escapeChar .ascii c) := by
  unfold escapeChar
  split
  · next hspecial =>
    have hescaped : (escaped.all fun c => decide (c.toNat < 0x80)) = true := by decide
    have hmem : c ∈ escaped := by simpa using hspecial
    exact isAscii_cons.2 ⟨by decide,
      isAscii_cons.2 ⟨isAscii_iff_all.2 hescaped c hmem, isAscii_nil⟩⟩
  · split
    · next hvisible =>
      have hbounds : 0x21 ≤ c.toNat ∧ c.toNat ≤ 0x7E := by simpa [isVisible] using hvisible
      exact isAscii_cons.2 ⟨by omega, isAscii_nil⟩
    · refine isAscii_flatten.2 ?_
      intro s hs
      obtain ⟨byte, -, rfl⟩ := List.mem_map.1 hs
      exact isAscii_byNumber byte

theorem isAscii_escape (s : Text) : IsAscii (escape .ascii s) := by
  refine isAscii_flatten.2 ?_
  intro t ht
  obtain ⟨c, -, rfl⟩ := List.mem_map.1 ht
  exact isAscii_escapeChar c

theorem isAscii_toLatex_iff {fancy : Bool} {s : Text} :
    IsAscii (toLatex .ascii fancy s) ↔ (fancy = true → AsciiBlocks s) := by
  cases fancy with
  | false => simp [toLatex, isAscii_escape]
  | true =>
    have hcommand : IsAscii r"\href{".toList := by decide
    have hbetween : IsAscii r"}{".toList := by decide
    have hclose : IsAscii r"}".toList := by decide
    have hform : toLatex .ascii true s = r"\href{".toList ++ escape .ascii s ++
        r"}{".toList ++ Markup.toLatex .ascii s ++ r"}".toList := rfl
    rw [hform]
    simp only [isAscii_append, hcommand, hbetween, hclose, isAscii_escape,
      Markup.isAscii_toLatex_iff, true_and, and_true, forall_const]

end Link

namespace Export

/-! ## Values -/

theorem isAscii_joinWith_iff {separator : Text} (hseparator : IsAscii separator)
    {ts : List Text} : IsAscii (joinWith separator ts) ↔ ∀ t ∈ ts, IsAscii t := by
  induction ts with
  | nil => simp [joinWith, isAscii_nil]
  | cons t ts ih =>
    rw [List.forall_mem_cons, ← ih]
    cases ts with
    | nil => simp [joinWith, isAscii_nil]
    | cons u us =>
      rw [joinWith, isAscii_append, isAscii_append]
      simp only [hseparator, and_true]

namespace FieldValue

theorem isAscii_escapeText_iff {braces : Bool} {s : Text} :
    (∀ latex, escapeText .ascii braces s = some latex → IsAscii latex) ↔ AsciiBlocks s := by
  have hopen : IsAscii r"{".toList := by decide
  have hclose : IsAscii r"}".toList := by decide
  unfold escapeText
  split
  · next hempty =>
    have hnothing : AsciiBlocks [] := asciiBlocks_of_notMem (by simp)
    rw [List.isEmpty_iff.1 hempty]
    simp [hnothing]
  · split
    · simp only [Option.some.injEq, forall_eq', inBraces]
      rw [isAscii_append, isAscii_append, isAscii_toLatex_iff]
      simp only [hopen, hclose, true_and, and_true]
    · simp only [Option.some.injEq, forall_eq', isAscii_toLatex_iff]

section
variable {style : EscapeStyle} {config : Config}

mutual

/-- A value, if it gives anything, gives ASCII exactly if the blocks of its texts are. -/
theorem isAscii_escape_iff (hmode : config.mode = .ascii) (hseparator : IsAscii style.separator) :
    ∀ {v : FieldValue}, (∀ latex, v.escape style config = some latex → IsAscii latex) ↔
      ∀ s ∈ v.texts, AsciiBlocks s
  | .number n => by simp [escape, texts, isAscii_signedDecimal]
  | .text s => by
    rw [escape, hmode, isAscii_escapeText_iff]
    simp [texts]
  | .literal s => by
    rw [escape, hmode, isAscii_escapeText_iff]
    simp [texts]
  | .list items => by
    have hitems : (∀ t ∈ escapeItems style config items, IsAscii t) ↔
        ∀ s ∈ textsOfItems items, AsciiBlocks s := isAscii_escapeItems_iff hmode hseparator
    rw [texts, ← hitems, ← isAscii_joinWith_iff hseparator]
    simp only [escape]
    split
    · next hempty =>
      rw [List.isEmpty_iff.1 hempty]
      simp [joinWith, isAscii_nil]
    · simp

theorem isAscii_escapeItems_iff (hmode : config.mode = .ascii)
    (hseparator : IsAscii style.separator) :
    ∀ {vs : List FieldValue}, (∀ t ∈ escapeItems style config vs, IsAscii t) ↔
      ∀ s ∈ textsOfItems vs, AsciiBlocks s
  | [] => by simp [escapeItems, textsOfItems]
  | v :: vs => by
    have hfirst : (∀ latex, v.escape style config = some latex → IsAscii latex) ↔
        ∀ s ∈ v.texts, AsciiBlocks s := isAscii_escape_iff hmode hseparator
    have hrest : (∀ t ∈ escapeItems style config vs, IsAscii t) ↔
        ∀ s ∈ textsOfItems vs, AsciiBlocks s := isAscii_escapeItems_iff hmode hseparator
    rw [textsOfItems, List.forall_mem_append, ← hfirst, ← hrest, escapeItems]
    cases v.escape style config with
    | none => simp
    | some latex => simp

end

end
end FieldValue

/-! ## Writes -/

variable {config : Config}

theorem FieldContent.Regular.isAscii_latex?_iff {x : FieldContent} (h : x.Regular)
    (hmode : config.mode = .ascii) :
    (∀ s, x.latex? config = some s → IsAscii s) ↔ ∀ t ∈ x.texts config, AsciiBlocks t := by
  cases x with
  | value v style => exact FieldValue.isAscii_escape_iff hmode (isAscii_of_isPlainAscii h)
  | link url =>
    have hnothing : AsciiBlocks [] := asciiBlocks_of_notMem (by simp)
    have hlink : IsAscii (Link.toLatex config.mode config.fancyUrls url) ↔
        (config.fancyUrls = true → AsciiBlocks url) := by
      rw [hmode, Link.isAscii_toLatex_iff]
    have htexts : (∀ t ∈ (FieldContent.link url).texts config, AsciiBlocks t) ↔
        (config.fancyUrls = true → AsciiBlocks url) := by
      unfold FieldContent.texts
      cases config.fancyUrls with
      | false => simp
      | true => simp
    rw [htexts, ← hlink]
    cases url with
    | nil => simp [FieldContent.latex?, hlink, hnothing]
    | cons c cs => simp [FieldContent.latex?]
  | verbatim s =>
    have hs : IsAscii (Link.escape config.mode s) := by
      rw [hmode]
      exact Link.isAscii_escape s
    simp [FieldContent.latex?, FieldContent.texts, hs]
  | latex s bare =>
    have hs : IsAscii s := isAscii_of_isPlainAscii h
    simp [FieldContent.latex?, FieldContent.texts, hs]

theorem isAscii_fragment_iff {name value : Text} {bare : Bool} :
    IsAscii (EntryDraft.fragment name value bare).flatten ↔ IsAscii name ∧ IsAscii value := by
  have hbreak : IsAscii [',', '\n', ' ', ' '] := by decide
  have hequals : IsAscii [' ', '=', ' '] := by decide
  have hopen : IsAscii [' ', '=', ' ', '{'] := by decide
  have hclose : IsAscii ['}'] := by decide
  rw [isAscii_flatten]
  cases bare with
  | true => simp [EntryDraft.fragment, hbreak, hequals]
  | false => simp [EntryDraft.fragment, hbreak, hopen, hclose]

/-- If the write adds anything, its name is ASCII and so are the blocks in its texts. -/
def FieldWrite.StaysAscii (config : Config) (x : FieldWrite) : Prop :=
  (x.written? config).isSome = true →
    IsAscii x.name ∧ ∀ s ∈ x.content.texts config, AsciiBlocks s

theorem isAscii_apply_iff {names : List Text} {x : FieldWrite} (hx : x.Regular names)
    (hmode : config.mode = .ascii) {w : EntryDraft} :
    IsAscii (x.apply config w).text ↔ IsAscii w.text ∧ x.StaysAscii config := by
  rw [FieldWrite.text_apply, isAscii_append, FieldWrite.StaysAscii,
    ← hx.content.isAscii_latex?_iff hmode]
  cases hwritten : x.written? config with
  | none => simp [isAscii_nil]
  | some s =>
    have hlatex := FieldWrite.latex?_of_written? hwritten
    simp [isAscii_fragment_iff, hlatex]

theorem isAscii_applyAll_iff {names : List Text} {xs : List FieldWrite}
    (hxs : ∀ x ∈ xs, x.Regular names) (hmode : config.mode = .ascii) {w : EntryDraft} :
    IsAscii (FieldWrite.applyAll config xs w).text ↔
      IsAscii w.text ∧ ∀ x ∈ xs, x.StaysAscii config := by
  induction xs generalizing w with
  | nil => simp
  | cons x xs ih =>
    have hrest : ∀ y ∈ xs, y.Regular names := fun y hy => hxs y (List.mem_cons_of_mem _ hy)
    rw [FieldWrite.applyAll_cons, ih hrest, isAscii_apply_iff (hxs x (List.mem_cons_self ..)) hmode,
      List.forall_mem_cons, and_assoc]

/-! ## Entries -/

/-- What the entry of a record takes over as it is is ASCII, as far as it is written: assigned names
and preformatted blocks. -/
def TakesAscii (config : Config) (r : Record) : Prop :=
  ∀ x ∈ writes config .standard r, (x.written? config).isSome = true →
    (x.name ∈ assignedNames r.extra → IsAscii x.name) ∧
      ∀ s ∈ x.content.texts config, AsciiBlocks s

instance (config : Config) (r : Record) : Decidable (TakesAscii config r) :=
  inferInstanceAs (Decidable (∀ x ∈ writes config .standard r, _ → _ ∧ _))

theorem staysAscii_iff {r : Record} {x : FieldWrite}
    (hx : x.Regular (givenNames .standard r)) :
    x.StaysAscii config ↔ ((x.written? config).isSome = true →
      (x.name ∈ assignedNames r.extra → IsAscii x.name) ∧
        ∀ s ∈ x.content.texts config, AsciiBlocks s) := by
  have hfields : ∀ m ∈ FieldTable.standard, m.field.all isPlainAscii = true := by decide
  -- other names than the assigned ones are fixed
  have hname : IsAscii x.name ↔ (x.name ∈ assignedNames r.extra → IsAscii x.name) := by
    refine ⟨fun h _ => h, fun h => ?_⟩
    rcases hx.name with hgiven | hfixed
    · rcases List.mem_append.1 hgiven with hmapped | hassigned
      · obtain ⟨m, hm, hfield⟩ := List.mem_map.1 hmapped
        rw [← hfield]
        exact isAscii_of_isPlainAscii (hfields m hm)
      · exact h hassigned
    · exact isAscii_of_isPlainAscii hfixed
  rw [FieldWrite.StaysAscii, ← hname]

theorem isAscii_writeFields_iff (hmode : config.mode = .ascii) {r : Record} :
    IsAscii (writeFields config .standard r .empty).text ↔ TakesAscii config r := by
  have hempty : IsAscii EntryDraft.empty.text := isAscii_nil
  rw [writeFields_eq, isAscii_applyAll_iff regular_of_mem_writes hmode]
  simp only [hempty, true_and]
  exact forall₂_congr fun x hx => staysAscii_iff (regular_of_mem_writes x hx)

/-- The type that an entry without a field gets as one is ASCII. -/
theorem isAscii_flush_iff (hmode : config.mode = .ascii) {name : Text}
    (hname : name ∈ standardNames) {w : EntryDraft} :
    IsAscii (w.flush config name).text ↔ IsAscii w.text := by
  have hbracket : ∀ name ∈ standardNames, '<' ∉ name := by decide
  unfold EntryDraft.flush
  split
  · have hregular : (FieldWrite.plain "type" name).Regular [] :=
      regular_plain (.inr (by decide)) name
    have htype : IsAscii "type".toList := by decide
    have hstays : (FieldWrite.plain "type" name).StaysAscii config := by
      intro _
      refine ⟨htype, ?_⟩
      intro s hs
      have heq : s = name := by
        simpa [FieldWrite.plain, FieldContent.texts, FieldValue.texts] using hs
      rw [heq]
      exact asciiBlocks_of_notMem (hbracket name hname)
    rw [plain_eq_apply, isAscii_apply_iff hregular hmode]
    simp only [hstays, and_true]
  · exact Iff.rfl

theorem isAscii_ofRecord_iff (hmode : config.mode = .ascii) {name key : Text} {r : Record}
    (hname : name ∈ standardNames) :
    IsAscii (Entry.ofRecord config .standard name key r).pieces.flatten ↔
      IsAscii key ∧ TakesAscii config r := by
  have hnames : ∀ name ∈ standardNames, IsAscii name := by decide
  have hmark : IsAscii ['@'] := by decide
  have hopen : IsAscii ['{'] := by decide
  have hclose : IsAscii ['\n', '}', '\n', '\n'] := by decide
  have hform : (Entry.ofRecord config .standard name key r).pieces.flatten =
      ['@'] ++ name ++ ['{'] ++ key ++
        ((writeFields config .standard r .empty).flush config name).text ++
        ['\n', '}', '\n', '\n'] := by
    simp [Entry.ofRecord, EntryDraft.text]
  rw [hform]
  simp only [isAscii_append, hmark, hnames name hname, hopen, hclose,
    isAscii_flush_iff hmode hname, isAscii_writeFields_iff hmode, true_and, and_true]

/-! ## Sinks -/

/-- A sink takes in a beginning of what it is given. -/
theorem exists_isPrefix_write (s : Sink) (piece : Text) :
    ∃ taken, taken <+: piece ∧ (s.write piece).1.text = s.text ++ taken ∧
      ((s.write piece).2 = true → taken = piece) := by
  fun_cases Sink.write s piece with
  | case1 => exact ⟨piece, List.prefix_rfl, rfl, fun _ => rfl⟩
  | case2 => exact ⟨piece, List.prefix_rfl, rfl, fun _ => rfl⟩
  | case3 n => exact ⟨piece.take n, List.take_prefix n piece, rfl, by simp⟩
  | case4 => exact ⟨[], List.nil_prefix, (List.append_nil _).symm, by simp⟩
  | case5 => exact ⟨piece, List.prefix_rfl, rfl, fun _ => rfl⟩

theorem exists_isPrefix_writeAll (s : Sink) (pieces : List Text) :
    ∃ taken, taken <+: pieces.flatten ∧ (s.writeAll pieces).1.text = s.text ++ taken := by
  induction pieces generalizing s with
  | nil => exact ⟨[], List.nil_prefix, (List.append_nil _).symm⟩
  | cons p ps ih =>
    obtain ⟨taken, htaken, htext, hall⟩ := exists_isPrefix_write s p
    rw [Sink.writeAll, List.flatten_cons]
    rcases hwrite : s.write p with ⟨s', complete⟩
    rw [hwrite] at htext hall
    cases complete with
    | true =>
      obtain ⟨more, hmore, hmoreText⟩ := ih s'
      refine ⟨p ++ more, (List.prefix_append_right_inj p).2 hmore, ?_⟩
      rw [hmoreText, htext, hall rfl, List.append_assoc]
    | false => exact ⟨taken, htaken.trans (List.prefix_append p _), htext⟩

/-! ## Exports -/

theorem mode_of_not_keepsUnicode (h : config.keepsUnicode = false) : config.mode = .ascii := by
  simp [Config.mode, h]

theorem isAscii_of_isSafe {key : Text} (h : ∀ c ∈ key, isSafe c = true) : IsAscii key :=
  fun c hc => toNat_of_isSafe (h c hc)

/-- What an export hands to its sink is ASCII exactly if all its entries are. -/
theorem isAscii_run_iff {e : Exporter} {records : List Record} :
    IsAscii ((e.run records).2.1.flatMap Entry.pieces).flatten ↔
      ∀ r ∈ records, ∀ x, Exporter.entry? (e.load records).1 (Registry.withoutPin r) = some x →
        IsAscii x.pieces.flatten := by
  have hentries : (e.run records).2.1 =
      (records.map Registry.withoutPin).filterMap (Exporter.entry? (e.load records).1) := rfl
  rw [hentries]
  simp only [isAscii_flatten, List.mem_flatMap, List.mem_filterMap, List.mem_map]
  constructor
  · intro h r hr x hx p hp
    exact h p ⟨x, ⟨_, ⟨r, hr, rfl⟩, hx⟩, hp⟩
  · rintro h p ⟨x, ⟨_, ⟨r, hr, rfl⟩, hx⟩, hp⟩
    exact h r hr x hx p hp

theorem isAscii_write_room_iff {e : Exporter} {records : List Record} :
    (∀ room, IsAscii (e.write records (.new room)).2.1.text) ↔
      IsAscii ((e.run records).2.1.flatMap Entry.pieces).flatten := by
  constructor
  · intro h
    have hall := h .unlimited
    rw [write_unlimited] at hall
    exact hall
  · intro h room
    obtain ⟨taken, htaken, htext⟩ :=
      exists_isPrefix_writeAll (.new room) ((e.run records).2.1.flatMap Entry.pieces)
    have hwritten : (e.write records (.new room)).2.1.text = taken := htext
    rw [hwritten]
    exact fun c hc => h c (htaken.subset hc)

/-- Where other characters are not kept, what a sink takes in of an export is ASCII, whatever its
room, exactly if what is written as it is is ASCII: keys that are pinned, assigned names, and
preformatted blocks. -/
theorem isAscii_write_iff (e : Exporter) (records : List Record) (map : e.map = .standard)
    (types : e.registry.formatter.types = .standard) (unicode : e.config.keepsUnicode = false) :
    (∀ room, IsAscii (e.write records (.new room)).2.1.text) ↔
      ∀ r ∈ records, r.isExportable = true →
        (∀ key, (e.load records).1.registry.keyOf? r.itemId = some key →
          (∃ other ∈ records, other.isExportable = true ∧ pinnedKey? other.extra = some key) →
            IsAscii key) ∧
          TakesAscii e.config (Registry.withoutPin r) := by
  have hmode := mode_of_not_keepsUnicode unicode
  rw [isAscii_write_room_iff, isAscii_run_iff]
  refine forall₂_congr fun r hr => ?_
  by_cases he : r.isExportable = true
  · obtain ⟨key, hkey, hentry⟩ := entry?_load map types hr he
    have hkeys : IsAscii key ↔ ((∃ other ∈ records, other.isExportable = true ∧
        pinnedKey? other.extra = some key) → IsAscii key) := by
      refine ⟨fun h _ => h, fun h => ?_⟩
      -- a key that nobody pins is generated, of safe characters
      rcases Registry.pinned_or_isSafe_of_keyOf? hkey with hpinned | hsafe
      · exact h hpinned
      · exact isAscii_of_isSafe hsafe
    simp only [hentry, hkey, he, Option.some.injEq, forall_eq', forall_const,
      isAscii_ofRecord_iff hmode (output_standard_mem r), ← hkeys]
  · simp [entry?_of_not_isExportable he, he]

/-- No other characters than ASCII ones are kept. -/
def asciiConfig : Config := { Config.standard with unicode := .never }

/-- A book with accents that are escaped, and with a pinned key, an assignment and a block in ASCII.
-/
def accentedBook : Record :=
  { Record.blank with
    itemId := "1", itemType := "book", title := r"Über <pre>\emph{S}</pre>ätze",
    extra := "bibtex: goedel1931 biblatexdata[issue=é]" }

theorem isAscii_write_accentedBook :
    asciiConfig.keepsUnicode = false ∧
      ∀ room, IsAscii ((Exporter.new asciiConfig).write [accentedBook] (.new room)).2.1.text := by
  have hpin : pinnedKey? accentedBook.extra = some "goedel1931".toList := by decide +kernel
  have htakes : TakesAscii asciiConfig (Registry.withoutPin accentedBook) := by decide +kernel
  refine ⟨rfl, (isAscii_write_iff (Exporter.new asciiConfig) [accentedBook] rfl rfl rfl).2 ?_⟩
  intro r hr _
  cases List.mem_singleton.1 hr
  refine ⟨?_, htakes⟩
  rintro key - ⟨other, hother, -, hkey⟩
  cases List.mem_singleton.1 hother
  rw [hpin] at hkey
  cases hkey
  decide

/-- Records with an umlaut in a pinned key, in an assigned name and in a preformatted block. -/
def umlauts : List Record :=
  [{ Record.blank with itemId := "1", itemType := "book", extra := "bibtex: müller2020" },
    { Record.blank with itemId := "1", itemType := "book", extra := "biblatexdata[ü=1]" },
    { Record.blank with itemId := "1", itemType := "book", title := "<pre>ü</pre>" }]

theorem not_isAscii_exportText :
    asciiConfig.keepsUnicode = false ∧
      ∀ r ∈ umlauts, ¬IsAscii ((Exporter.new asciiConfig).exportText [r]) := by
  decide +kernel

end Export
end Bibliography
