import Bibliography.Export.ConfigText
import Bibliography.Proofs.Json.Reading
import Bibliography.Proofs.Toml.Documents

/-! # Configurations as text, and back

Both readers take in one member after the other. Taking one in puts its value under its name and
leaves the other members alone (`Puts`), whatever the configuration was before. So the outcome is
known name by name: a member that is given has the value given for it, one that is left out has its
default.
-/

namespace Bibliography.Export
set_option autoImplicit false
open Json Json.Reader Text

theorem UnicodePolicy.lookup_name (p : UnicodePolicy) : table.lookup p.name = some p := by
  cases p with
  | always => decide
  | never => decide
  | auto => decide

theorem accepts_policy (p : UnicodePolicy) : Accepts policyFromJson (.text p.name) p := by
  intro b t rest hb ht
  cases ht
  rw [writtenString_append, policyFromJson, skipSpace_token hb rfl]
  simp only [readChars_written, policyNamed, UnicodePolicy.lookup_name, bind, Except.bind]
  rfl

namespace Config

/-! ## Members in a document -/

/-- The value of a member as it is read from a document. -/
def settingNode : Setting → Toml.Node
  | .text s => .text s
  | .flag b => .flag b
  | .list items => .array (items.map Toml.Node.text)
  | .policy p => .text p.name

theorem listOf?_map_text (items : List Text) :
    listOf? (.array (items.map Toml.Node.text)) = some items := by
  rw [listOf?]
  induction items with
  | nil => rfl
  | cons s items ih =>
    simp only [List.map_cons, List.mapM_cons, ih, textOf?, bind, Option.bind, pure]

theorem isValue_writtenList (items : List Text) :
    Toml.IsValue 0 (writtenList items) (.array (items.map Toml.Node.text)) := by
  have hdepth : 0 + 1 < Toml.maxDepth := by decide
  cases items with
  | nil => exact Toml.isValue_empty hdepth
  | cons s items =>
    cases items with
    | nil => exact Toml.isValue_singleton hdepth (Toml.isValue_writtenString 1 s)
    | cons s' items =>
      have hitems : List.Forall₂ (Toml.IsValue (0 + 1))
          ((s :: s' :: items).map Toml.writtenString) ((s :: s' :: items).map Toml.Node.text) :=
        List.forall₂_map_left_iff.2 (List.forall₂_map_right_iff.2
          (List.forall₂_same.2 fun s _ => Toml.isValue_writtenString 1 s))
      have hlines := Toml.isValue_lines hdepth hitems
      rwa [List.flatMap_map] at hlines

theorem isValue_writtenSetting (v : Setting) :
    Toml.IsValue 0 (writtenSetting v) (settingNode v) := by
  cases v with
  | text s => exact Toml.isValue_writtenString 0 s
  | flag b =>
    cases b with
    | true => exact Toml.isValue_true 0
    | false => exact Toml.isValue_false 0
  | list items => exact isValue_writtenList items
  | policy p => exact Toml.isValue_writtenString 0 p.name

/-! ## Taking in one member -/

/-- Taking the member into the first configuration gives the second one: both readers do so, and all
that changes is the value under the member's name. -/
structure Puts (a : Config) (p : Text × Setting) (a' : Config) : Prop where
  settings : a'.settings = putPair p.1 p.2 a.settings
  toml : takeSetting a (p.1, settingNode p.2) = some a'
  json : ∃ m, shape.members.find? (fun m => m.name == p.1) = some m ∧
    Accepts (m.read a) (settingValue p.2) a'

/-- Every configuration takes in every member of another one. -/
theorem exists_puts (c a : Config) : ∀ p ∈ c.settings, ∃ a', Puts a p a' := by
  have hpolicy : takeSetting a ("unicode", settingNode (.policy c.unicode)) =
      some { a with unicode := c.unicode } :=
    congrArg (Option.map fun v => ({ a with unicode := v } : Config))
      (UnicodePolicy.lookup_name c.unicode)
  have hlist : takeSetting a ("skip_fields", settingNode (.list c.skipFields)) =
      some { a with skipFields := c.skipFields } :=
    congrArg (Option.map fun v => ({ a with skipFields := v } : Config))
      (listOf?_map_text c.skipFields)
  have htexts : Accepts (Reader.array Reader.text)
      (.array (c.skipFields.map Value.text)) c.skipFields :=
    accepts_array (List.forall₂_map_left_iff.2 (List.forall₂_same.2 fun s _ => accepts_text s))
  unfold settings
  repeat rw [List.forall_mem_cons]
  -- One case for each member; what changes in `settings` is seen by evaluation.
  refine ⟨?_, ?_, ?_, ?_, ?_, ?_, ?_, ?_, ?_, ?_, fun p hp => absurd hp List.not_mem_nil⟩
  · exact ⟨{ a with citekeyFormat := c.citekeyFormat }, rfl, rfl, _, rfl,
      Member.accepts_of (accepts_text _) _ _ _ a⟩
  · exact ⟨{ a with skipFields := c.skipFields }, rfl, hlist, _, rfl,
      Member.accepts_of htexts _ _ _ a⟩
  · exact ⟨{ a with usePrefix := c.usePrefix }, rfl, rfl, _, rfl,
      Member.accepts_of (accepts_flag _) _ _ _ a⟩
  · exact ⟨{ a with braceAll := c.braceAll }, rfl, rfl, _, rfl,
      Member.accepts_of (accepts_flag _) _ _ _ a⟩
  · exact ⟨{ a with fancyUrls := c.fancyUrls }, rfl, rfl, _, rfl,
      Member.accepts_of (accepts_flag _) _ _ _ a⟩
  · exact ⟨{ a with unicode := c.unicode }, rfl, hpolicy, _, rfl,
      Member.accepts_of (accepts_policy _) _ _ _ a⟩
  · exact ⟨{ a with exportCharset := c.exportCharset }, rfl, rfl, _, rfl,
      Member.accepts_of (accepts_text _) _ _ _ a⟩
  · exact ⟨{ a with exportFileData := c.exportFileData }, rfl, rfl, _, rfl,
      Member.accepts_of (accepts_flag _) _ _ _ a⟩
  · exact ⟨{ a with exportNotes := c.exportNotes }, rfl, rfl, _, rfl,
      Member.accepts_of (accepts_flag _) _ _ _ a⟩
  · exact ⟨{ a with useJournalAbbreviation := c.useJournalAbbreviation }, rfl, rfl, _, rfl,
      Member.accepts_of (accepts_flag _) _ _ _ a⟩

/-! ## Taking in several members -/

theorem nodup_names (c : Config) : (c.settings.map Prod.fst).Nodup := by
  have hnames : c.settings.map Prod.fst = standard.settings.map Prod.fst := rfl
  rw [hnames]
  decide

/-- What a configuration has after members of another one have been taken in: its own members where
they were left alone. -/
theorem exists_fills {c : Config} {ps : List (Text × Setting)} (hps : ∀ p ∈ ps, p ∈ c.settings)
    (a : Config) :
    ∃ a', shape.Fills a (ps.map fun p => (p.1, settingValue p.2)) a' ∧
      (ps.map fun p => (p.1, settingNode p.2)).foldlM takeSetting a = some a' ∧
      ∀ name, a'.settings.lookup name =
        if (ps.map Prod.fst).contains name then c.settings.lookup name
        else a.settings.lookup name := by
  induction ps generalizing a with
  | nil => exact ⟨a, .done a, rfl, fun name => rfl⟩
  | cons p ps ih =>
    obtain ⟨hp, hps⟩ := List.forall_mem_cons.1 hps
    obtain ⟨a', hsettings, htoml, m, hfind, hread⟩ := exists_puts c a p hp
    obtain ⟨a'', hfills, hfold, hlookup⟩ := ih hps a'
    refine ⟨a'', .member hfind hread hfills, ?_, fun name => ?_⟩
    · rw [List.map_cons, List.foldlM_cons, htoml]
      exact hfold
    · have hvalue : c.settings.lookup p.1 = some p.2 :=
        Dict.get?_of_mem_pairs (d := ⟨c.settings, nodup_names c⟩) hp
      rw [hlookup, hsettings, Dict.lookup_putPair, List.map_cons, List.contains_cons]
      by_cases hname : name = p.1
      · simp [hname, hvalue]
      · rw [if_neg hname, beq_eq_false_iff_ne.2 hname, Bool.false_or]

/-! ## Defaults -/

/-- The configuration with some of its members at their defaults. -/
def defaulting (left : Text → Bool) (c : Config) : Config where
  citekeyFormat := if left "citekey_format" then standard.citekeyFormat else c.citekeyFormat
  skipFields := if left "skip_fields" then standard.skipFields else c.skipFields
  usePrefix := if left "use_prefix" then standard.usePrefix else c.usePrefix
  braceAll := if left "brace_all" then standard.braceAll else c.braceAll
  fancyUrls := if left "fancy_urls" then standard.fancyUrls else c.fancyUrls
  unicode := if left "unicode" then standard.unicode else c.unicode
  exportCharset := if left "export_charset" then standard.exportCharset else c.exportCharset
  exportFileData := if left "export_file_data" then standard.exportFileData else c.exportFileData
  exportNotes := if left "export_notes" then standard.exportNotes else c.exportNotes
  useJournalAbbreviation :=
    if left "use_journal_abbreviation" then standard.useJournalAbbreviation
    else c.useJournalAbbreviation

theorem eq_defaulting {left : Text → Bool} {a c : Config}
    (h : ∀ name, a.settings.lookup name =
      if left name then standard.settings.lookup name else c.settings.lookup name) :
    a = c.defaulting left := by
  have hmember {β : Type} {f : β → Setting} (hf : Function.Injective f) {x y z : β} {b : Bool}
      (hx : some (f x) = if b then some (f y) else some (f z)) : x = if b then y else z := by
    cases b with
    | true => exact hf (Option.some.inj hx)
    | false => exact hf (Option.some.inj hx)
  have htext : Function.Injective Setting.text := fun _ _ => Setting.text.inj
  have hflag : Function.Injective Setting.flag := fun _ _ => Setting.flag.inj
  have hlist : Function.Injective Setting.list := fun _ _ => Setting.list.inj
  have hpolicy : Function.Injective Setting.policy := fun _ _ => Setting.policy.inj
  have citekeyFormat := hmember htext (h "citekey_format")
  have skipFields := hmember hlist (h "skip_fields")
  have usePrefix := hmember hflag (h "use_prefix")
  have braceAll := hmember hflag (h "brace_all")
  have fancyUrls := hmember hflag (h "fancy_urls")
  have unicode := hmember hpolicy (h "unicode")
  have exportCharset := hmember htext (h "export_charset")
  have exportFileData := hmember hflag (h "export_file_data")
  have exportNotes := hmember hflag (h "export_notes")
  have useJournalAbbreviation := hmember hflag (h "use_journal_abbreviation")
  cases a
  rw [defaulting, ← citekeyFormat, ← skipFields, ← usePrefix, ← braceAll, ← fancyUrls, ← unicode,
    ← exportCharset, ← exportFileData, ← exportNotes, ← useJournalAbbreviation]

theorem defaulting_nothing (c : Config) : c.defaulting (fun _ => false) = c := rfl

/-! ## Round trips -/

theorem lookup_of_notMem {c : Config} {name : Text} (h : name ∉ c.settings.map Prod.fst) :
    c.settings.lookup name = none := by
  refine List.lookup_eq_none_iff.2 fun p hp => bne_iff_ne.2 fun heq => ?_
  exact h (heq ▸ List.mem_map_of_mem hp)

/-- Taking in the members of a configuration, some of them left out, in any order. -/
theorem takes_defaulting (left : Text → Bool) {c : Config} {ps : List (Text × Setting)}
    (h : ps.Perm (c.settings.filter fun p => !left p.1)) :
    shape.Fills standard (ps.map fun p => (p.1, settingValue p.2)) (c.defaulting left) ∧
      (ps.map fun p => (p.1, settingNode p.2)).foldlM takeSetting standard =
        some (c.defaulting left) := by
  have hmem (p : Text × Setting) : p ∈ ps ↔ p ∈ c.settings ∧ left p.1 = false := by
    rw [h.mem_iff, List.mem_filter, Bool.not_eq_true']
  obtain ⟨a, hfills, hfold, hlookup⟩ := exists_fills (fun p hp => ((hmem p).1 hp).1) standard
  have ha : a = c.defaulting left := by
    refine eq_defaulting fun name => ?_
    rw [hlookup]
    by_cases hgiven : name ∈ ps.map Prod.fst
    · obtain ⟨p, hp, rfl⟩ := List.mem_map.1 hgiven
      rw [if_pos (List.contains_iff_mem.2 hgiven), ((hmem p).1 hp).2]
      rfl
    · rw [if_neg (mt List.contains_iff_mem.1 hgiven)]
      cases hleft : left name with
      | true => rfl
      | false =>
        -- Neither given nor left out: the name is no member's.
        have hunknown : name ∉ c.settings.map Prod.fst := by
          intro hname
          obtain ⟨p, hp, rfl⟩ := List.mem_map.1 hname
          exact hgiven (List.mem_map_of_mem ((hmem p).2 ⟨hp, hleft⟩))
        have hunknown' : name ∉ standard.settings.map Prod.fst := hunknown
        rw [lookup_of_notMem hunknown', lookup_of_notMem hunknown]
        rfl
  exact ha ▸ ⟨hfills, hfold⟩

theorem accepts_defaulting (left : Text → Bool) {c : Config} {ps : List (Text × Setting)}
    (h : ps.Perm (c.settings.filter fun p => !left p.1)) :
    Accepts shape.read (.object (ps.map fun p => (p.1, settingValue p.2))) (c.defaulting left) := by
  have hnames : (ps.map fun p => (p.1, settingValue p.2)).map Prod.fst = ps.map Prod.fst := by
    rw [List.map_map]
    rfl
  have hnodup : (ps.map Prod.fst).Nodup :=
    (h.map Prod.fst).nodup_iff.2 ((List.filter_sublist.map Prod.fst).nodup (nodup_names c))
  have hnone : shape.requiredNames = [] := rfl
  refine Shape.accepts_read _ hnames hnodup ?_ (takes_defaulting left h).1
  rw [hnone]
  exact fun k hk => absurd hk List.not_mem_nil

theorem isBareName_of_mem (c : Config) : ∀ p ∈ c.settings, Toml.IsBareName p.1 := by
  have hall : (standard.settings.map Prod.fst).all
      (fun k => !k.isEmpty && k.all Toml.isNameChar) = true := by decide
  intro p hp
  have hp' : p.1 ∈ c.settings.map Prod.fst := List.mem_map_of_mem hp
  obtain ⟨hne, hchars⟩ := Bool.and_eq_true_iff.1 (List.all_eq_true.1 hall p.1 hp')
  exact ⟨by simpa using hne, List.all_eq_true.1 hchars⟩

theorem document_toToml (c : Config) :
    Toml.document c.toToml = some (c.settings.map fun p => (p.1, settingNode p.2)) :=
  Toml.document_definitions
    (fun p hp => ⟨isBareName_of_mem c p hp, isValue_writtenSetting p.2⟩) (nodup_names c)

/-- A configuration is read again from what is written for it, in either form. Members may be left
out of its JSON, and the others may come in any order, with any blanks in between: those left out
have their defaults. -/
theorem read_written (c : Config) :
    ofToml? c.toToml = some c ∧ ofJson c.toJson = .ok c ∧
      ∀ (left : Text → Bool) (ps : List (Text × Setting)),
        ps.Perm (c.settings.filter fun p => !left p.1) → ∀ b t ending, Spaces b →
          IsLayout (.object (ps.map fun p => (p.1, settingValue p.2))) t → Spaces ending →
            ofJson (b ++ (t ++ ending)) = .ok (c.defaulting left) := by
  have hall : c.settings.Perm (c.settings.filter fun _ => !false) := by simp
  refine ⟨?_, ?_, ?_⟩
  · have htaken := (takes_defaulting (fun _ => false) hall).2
    rw [ofToml?, document_toToml, Option.bind_some, htaken, defaulting_nothing]
  · have haccepts := accepts_defaulting (fun _ => false) hall
    have hread := haccepts.whole spaces_nil (isLayout_pretty c.toValue) spaces_nil
    rwa [List.append_nil] at hread
  · intro left ps h b t ending hb ht hending
    exact (accepts_defaulting left h).whole hb ht hending

/-- A configuration whose texts need strings of every form. -/
def quoted : Config where
  citekeyFormat := "\"[auth]\"\"\"[year]'''\n\"\""
  skipFields := ["it's", "C:\\dir", "\"\"", "a\tb\x00\r\n", "''''", ""]
  usePrefix := true
  braceAll := false
  fancyUrls := true
  unicode := .never
  exportCharset := "L'\"été\" \u2028\x7f"
  exportFileData := true
  exportNotes := false
  useJournalAbbreviation := true

theorem read_written_quoted :
    ofToml? quoted.toToml = some quoted ∧
      ofJson (" " ++ ((Value.object (((quoted.settings.filter fun p =>
        !(p.1 == ("skip_fields" : Text) || p.1 == ("unicode" : Text))).reverse).map fun p =>
          (p.1, settingValue p.2))).compact ++ "\n")) =
            .ok { quoted with skipFields := [], unicode := .auto } := by
  have hread := read_written quoted
  refine ⟨hread.1, ?_⟩
  exact hread.2.2 (fun name => name == ("skip_fields" : Text) || name == ("unicode" : Text)) _
    (List.reverse_perm _) " " _ "\n" (by simp [Spaces, isSpace]) (isLayout_compact _)
    (by simp [Spaces, isSpace])

end Config
end Bibliography.Export
