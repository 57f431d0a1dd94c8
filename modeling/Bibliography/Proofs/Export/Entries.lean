import Bibliography.Proofs.CiteKey.Keys
import Bibliography.Proofs.Export.Cutting
import Bibliography.Proofs.Export.Values
import Bibliography.Proofs.Export.Writes
import Bibliography.Proofs.Latex.Ascii

/-! # The structure of an export

Each write keeps the text of its entry balanced, so an entry is a name and a group, and an export is
cut into as many entries as the batch has. Three things are taken from the batch as they are and
have to be harmless: pinned keys, the names in its data directives, and preformatted blocks.
-/

namespace Bibliography.Export
set_option autoImplicit false
open Text Latex Markup CiteKey

/-! ## Contents -/

namespace FieldContent

/-- The texts of a content that are converted. -/
def texts (config : Config) : FieldContent → List Text
  | value v _ => v.texts
  | link url => if config.fancyUrls then [url] else []
  | _ => []

/-- What is written as it is has no braces. -/
def Sound : FieldContent → Prop
  | value _ style => style.separator.all isPlain = true
  | latex s _ => s.all isPlain = true
  | _ => True

theorem Sound.balanced {config : Config} {x : FieldContent} (h : x.Sound)
    (htexts : ∀ s ∈ x.texts config, BalancedBlocks s) {latex : Text}
    (hlatex : x.latex? config = some latex) : BraceBalanced latex := by
  cases x with
  | value v style =>
    exact FieldValue.balanced_escape (BraceBalanced.of_plain (List.all_eq_true.1 h)) htexts hlatex
  | link url =>
    obtain ⟨-, hurl⟩ := Option.ite_none_left_eq_some.1 hlatex
    cases hurl
    refine Link.balanced_toLatex fun hfancy => htexts url ?_
    simp [texts, hfancy]
  | verbatim s =>
    obtain ⟨-, hs⟩ := Option.ite_none_left_eq_some.1 hlatex
    cases hs
    exact Link.balanced_escape config.mode s
  | latex s bare =>
    cases hlatex
    exact BraceBalanced.of_plain (List.all_eq_true.1 h)

end FieldContent

/-! ## Drafts -/

theorem balanced_fragment {name value : Text} (hname : ∀ c ∈ name, isPlain c = true)
    (hvalue : BraceBalanced value) (bare : Bool) :
    BraceBalanced (EntryDraft.fragment name value bare).flatten := by
  have hbreak : BraceBalanced [',', '\n', ' ', ' '] := by decide
  have hequals : BraceBalanced [' ', '=', ' '] := by decide
  have hfront := (hbreak.append (BraceBalanced.of_plain hname)).append hequals
  cases bare with
  | true =>
    have hform : (EntryDraft.fragment name value true).flatten =
        [',', '\n', ' ', ' '] ++ name ++ [' ', '=', ' '] ++ value := by
      simp [EntryDraft.fragment]
    rw [hform]
    exact hfront.append hvalue
  | false =>
    have hform : (EntryDraft.fragment name value false).flatten =
        [',', '\n', ' ', ' '] ++ name ++ [' ', '=', ' '] ++ ('{' :: value ++ ['}']) := by
      simp [EntryDraft.fragment]
    rw [hform]
    exact hfront.append hvalue.braced

/-- A write whose name and content leave the text of an entry balanced. -/
structure FieldWrite.Sound (x : FieldWrite) : Prop where
  name : ∀ c ∈ x.name, isPlain c = true
  content : x.content.Sound

theorem balanced_apply {config : Config} {x : FieldWrite} (h : x.Sound)
    (htexts : ∀ s ∈ x.content.texts config, BalancedBlocks s) {w : EntryDraft}
    (hw : BraceBalanced w.text) : BraceBalanced (x.apply config w).text := by
  rw [FieldWrite.text_apply]
  cases hwritten : x.written? config with
  | none => exact hw.append BraceBalanced.nil
  | some s =>
    have hlatex := FieldWrite.latex?_of_written? hwritten
    exact hw.append (balanced_fragment h.name (h.content.balanced htexts hlatex) _)

theorem balanced_applyAll {config : Config} {xs : List FieldWrite} (h : ∀ x ∈ xs, x.Sound)
    (htexts : ∀ x ∈ xs, ∀ s ∈ x.content.texts config, BalancedBlocks s) {w : EntryDraft}
    (hw : BraceBalanced w.text) : BraceBalanced (FieldWrite.applyAll config xs w).text := by
  induction xs generalizing w with
  | nil => exact hw
  | cons x xs ih =>
    rw [FieldWrite.applyAll_cons]
    refine ih (fun y hy => h y (List.mem_cons_of_mem _ hy))
      (fun y hy => htexts y (List.mem_cons_of_mem _ hy)) ?_
    exact balanced_apply (h x (List.mem_cons_self ..)) (htexts x (List.mem_cons_self ..)) hw

/-! ## The writes of a record -/

/-- The names to which the data directive of an extra field assigns values. -/
def assignedNames (extra : Text) : List Text :=
  match EntryDraft.dataDirective? extra with
  | none => []
  | some found => (EntryDraft.assignments found.key).map Prod.fst

/-- The texts of a record that are converted. -/
def convertedTexts (config : Config) (map : FieldTable) (r : Record) : List Text :=
  (writes config map r).flatMap fun x => x.content.texts config

/-- What is written as it is is plain ASCII. -/
def FieldContent.Regular : FieldContent → Prop
  | value _ style => style.separator.all isPlainAscii = true
  | latex s _ => s.all isPlainAscii = true
  | _ => True

theorem FieldContent.Regular.sound {x : FieldContent} (h : x.Regular) : x.Sound := by
  cases x with
  | value v style => exact all_isPlain_of_isPlainAscii h
  | link url => trivial
  | verbatim s => trivial
  | latex s bare => exact all_isPlain_of_isPlainAscii h

/-- A write whose name is plain ASCII or one of the given names. -/
structure FieldWrite.Regular (names : List Text) (x : FieldWrite) : Prop where
  name : x.name ∈ names ∨ x.name.all isPlainAscii = true
  content : x.content.Regular

/-- The names that are not fixed: those of the field table and those of the data directive. -/
def givenNames (map : FieldTable) (r : Record) : List Text :=
  map.map FieldRule.field ++ assignedNames r.extra

section
variable {names : List Text}

theorem regular_value {name : Text} (hname : name ∈ names ∨ name.all isPlainAscii = true)
    {style : EscapeStyle} (hstyle : style.separator.all isPlainAscii = true) (v : FieldValue) :
    FieldWrite.Regular names ⟨name, .value v style⟩ := ⟨hname, hstyle⟩

theorem regular_latex {name : Text} (hname : name.all isPlainAscii = true) {s : Text}
    (hs : s.all isPlainAscii = true) (bare : Bool) :
    FieldWrite.Regular names ⟨name, .latex s bare⟩ :=
  ⟨.inr hname, hs⟩

theorem regular_verbatim {name : Text} (hname : name ∈ names ∨ name.all isPlainAscii = true)
    (value : Text) : FieldWrite.Regular names ⟨name, .verbatim value⟩ := ⟨hname, trivial⟩

theorem regular_plain {name : Text} (hname : name ∈ names ∨ name.all isPlainAscii = true)
    (value : Text) : (FieldWrite.plain name value).Regular names :=
  regular_value hname (by decide) _

theorem regular_of_mem_creatorWrites {r : Record} {x : FieldWrite} (h : x ∈ creatorWrites r) :
    x.Regular names := by
  simp only [creatorWrites, List.mem_cons, List.not_mem_nil, or_false] at h
  rcases h with rfl | rfl | rfl
  · exact regular_value (.inr (by decide)) (by decide) _
  · exact regular_value (.inr (by decide)) (by decide) _
  · exact regular_value (.inr (by decide)) (by decide) _

theorem regular_of_containerWrite? {config : Config} {r : Record} {x : FieldWrite}
    (h : containerWrite? config r = some x) : x.Regular names := by
  have htitle : ∀ {name : Text} {title : Option Text}, name.all isPlainAscii = true →
      titleWrite? name title = some x → x.Regular names := by
    intro name title hname hx
    obtain ⟨title, -, rfl⟩ := Option.map_eq_some_iff.1 hx
    exact regular_value (.inr hname) (by decide) _
  unfold containerWrite? at h
  split at h
  · exact htitle (by decide) h
  · split at h
    · exact htitle (by decide) h
    · simp at h

theorem isPlainAscii_monthName? {d : Date} {month : Text} (h : d.monthName? = some month) :
    month.all isPlainAscii = true := by
  have hnames : ∀ month ∈ Date.monthNames, month.all isPlainAscii = true := by decide
  obtain ⟨i, -, hi⟩ := Option.bind_eq_some_iff.1 h
  exact hnames month (List.mem_of_getElem? hi)

theorem isPlainAscii_decimal (n : Nat) : (decimal n).all isPlainAscii = true :=
  List.all_eq_true.2 fun c hc =>
    isPlainAscii_iff.2 ⟨isPlain_of_mem_decimal hc, isAscii_decimal n c hc⟩

theorem regular_of_mem_dateWrites {r : Record} {x : FieldWrite} (h : x ∈ dateWrites r) :
    x.Regular names := by
  unfold dateWrites at h
  dsimp only at h
  split at h
  · rcases List.mem_cons.1 h with rfl | h
    · exact regular_latex (by decide) (isPlainAscii_decimal _) false
    · obtain ⟨month, hmonth, rfl⟩ := Option.map_eq_some_iff.1 (Option.mem_toList.1 h)
      exact regular_latex (by decide) (isPlainAscii_monthName? hmonth) true
  · rw [List.mem_singleton.1 h]
    exact regular_plain (.inr (by decide)) r.date

theorem regular_of_ruleWrite? {r : Record} {m : FieldRule} (hm : m.field ∈ names)
    {x : FieldWrite} (h : ruleWrite? r m = some x) : x.Regular names := by
  obtain ⟨value, -, rfl⟩ := Option.map_eq_some_iff.1 h
  cases m.kind with
  | link => exact ⟨.inl hm, trivial⟩
  | verbatim => exact regular_verbatim (.inl hm) value
  | text => exact regular_plain (.inl hm) value
  | literal => exact regular_value (.inl hm) (by decide) _

theorem regular_of_mem_optionalWrites {config : Config} {r : Record} {x : FieldWrite}
    (h : x ∈ optionalWrites config r) : x.Regular names := by
  unfold optionalWrites at h
  rcases List.mem_append.1 h with h | h
  · rcases List.mem_append.1 h with h | h
    · split at h
      · rw [List.mem_singleton.1 h]
        exact regular_latex (by decide) (by decide) false
      · simp at h
    · obtain ⟨notes, -, rfl⟩ := Option.map_eq_some_iff.1 (Option.mem_toList.1 h)
      exact regular_plain (.inr (by decide)) notes
  · obtain ⟨file, -, rfl⟩ := Option.map_eq_some_iff.1 (Option.mem_toList.1 h)
    exact regular_verbatim (.inr (by decide)) file

theorem regular_of_mem_extraWrites {name extra : Text} (hname : name.all isPlainAscii = true)
    (hassigned : ∀ name ∈ assignedNames extra, name ∈ names) {x : FieldWrite}
    (h : x ∈ extraWrites name extra) : x.Regular names := by
  unfold extraWrites at h
  unfold assignedNames at hassigned
  split at h
  · rw [List.mem_singleton.1 h]
    exact regular_plain (.inr hname) extra
  · next found hfound =>
    rw [hfound] at hassigned
    rcases List.mem_append.1 h with h | h
    · obtain ⟨p, hp, rfl⟩ := List.mem_map.1 h
      exact regular_plain (.inl (hassigned p.1 (List.mem_map_of_mem hp))) p.2
    · rw [List.mem_singleton.1 h]
      exact regular_plain (.inr hname) found.remainder

end

/-- What is written of a record is plain ASCII, but for converted text and names that are not
fixed. -/
theorem regular_of_mem_writes {config : Config} {map : FieldTable} {r : Record} :
    ∀ x ∈ writes config map r, x.Regular (givenNames map r) := by
  unfold writes
  simp only [List.forall_mem_append, List.forall_mem_singleton]
  refine ⟨⟨⟨⟨⟨⟨⟨⟨?title, ?creators⟩, ?container⟩, ?date⟩, ?pages⟩, ?mapped⟩, ?keywords⟩, ?optional⟩,
    ?extra⟩
  case title => exact regular_value (.inr (by decide)) (by decide) _
  case creators => exact fun x => regular_of_mem_creatorWrites
  case container => exact fun x hx => regular_of_containerWrite? (Option.mem_toList.1 hx)
  case date => exact fun x => regular_of_mem_dateWrites
  case pages => exact regular_plain (.inr (by decide)) r.pages
  case mapped =>
    intro x hx
    obtain ⟨m, hm, hwrite⟩ := List.mem_filterMap.1 hx
    exact regular_of_ruleWrite? (List.mem_append_left _ (List.mem_map_of_mem hm)) hwrite
  case keywords =>
    exact regular_value (.inr (by decide)) (by decide) _
  case optional => exact fun x => regular_of_mem_optionalWrites
  case extra =>
    exact fun x => regular_of_mem_extraWrites (by decide) fun _ => List.mem_append_right _

theorem sound_plain {name : Text} (hname : name.all isPlain = true) (value : Text) :
    (FieldWrite.plain name value).Sound := by
  have hstandard : EscapeStyle.standard.separator.all isPlain = true := by decide
  exact ⟨List.all_eq_true.1 hname, hstandard⟩

/-- All writes of a record are sound if the names that are not fixed are plain. -/
theorem sound_of_mem_writes {config : Config} {map : FieldTable} {r : Record}
    (hmap : ∀ m ∈ map, m.field.all isPlain = true)
    (hassigned : ∀ name ∈ assignedNames r.extra, name.all isPlain = true) :
    ∀ x ∈ writes config map r, x.Sound := by
  intro x hx
  have hregular := regular_of_mem_writes x hx
  have hname : x.name.all isPlain = true := by
    rcases hregular.name with hgiven | hfixed
    · rcases List.mem_append.1 hgiven with hmapped | hname
      · obtain ⟨m, hm, hfield⟩ := List.mem_map.1 hmapped
        rw [← hfield]
        exact hmap m hm
      · exact hassigned x.name hname
    · exact all_isPlain_of_isPlainAscii hfixed
  exact ⟨List.all_eq_true.1 hname, hregular.content.sound⟩

end Bibliography.Export
