import Bibliography.Proofs.Markup.Balance

/-! # Forests of markup

Well-formed markup as a tree, the way it is written, and what it stands for in LaTeX.

* `Forest` has a node for each text, each element with children, and each tag without content;
  `Forest.markup` writes it;
* `Forest.Renders` are the rules of its LaTeX, node by node; `Forest.render` computes it.
-/

namespace Bibliography.Markup
set_option autoImplicit false
open Text Unicode

/-! ## Tags as they are written -/

/-- The name is that of the tag; any of its letters may be capitals. -/
def Tag.Spelled (tag : Tag) (name : Text) : Prop := name.map Char.toLower = tag.name

instance (tag : Tag) (name : Text) : Decidable (tag.Spelled name) :=
  inferInstanceAs (Decidable (name.map Char.toLower = tag.name))

/-- A tag that opens an element or stands alone. -/
structure StartTag where
  tag : Tag
  name : Text
  attributes : Text
  spelled : tag.Spelled name
  /-- The attributes do not go on with the name. -/
  apart : atBoundary attributes = true
  inside : '<' ∉ attributes ∧ '>' ∉ attributes
  /-- A slash in the end would close the tag. -/
  unslashed : attributes.getLast? ≠ some '/'

/-- How a tag ends, with a slash or without. -/
def tagEnd (slash : Bool) : Text := if slash then "/>" else ">"

def StartTag.markup (t : StartTag) (slash : Bool) : Text :=
  '<' :: (t.name ++ (t.attributes ++ tagEnd slash))

def closingMarkup (name : Text) : Text := '<' :: '/' :: (name ++ tagEnd false)

/-! ## Forests -/

/-- A sequence of trees: its first node, with the nodes inside it, and the others. -/
inductive Forest
  | nil
  | text (s : Text) (plain : '<' ∉ s) (rest : Forest)
  | element (start : StartTag) (full : start.tag.isVoid = false) (ending : Text)
      (spelled : start.tag.Spelled ending) (children rest : Forest)
  /-- A void tag, or any tag that closes itself. -/
  | leaf (start : StartTag) (slash : Bool) (empty : start.tag.isVoid = true ∨ slash = true)
      (rest : Forest)

namespace Forest

def markup : Forest → Text
  | nil => []
  | text s _ rest => s ++ rest.markup
  | element start _ ending _ children rest =>
    start.markup false ++ (children.markup ++ (closingMarkup ending ++ rest.markup))
  | leaf start slash _ rest => start.markup slash ++ rest.markup

/-- How deep elements with children are nested. -/
def depth : Forest → Nat
  | nil => 0
  | text _ _ rest => rest.depth
  | element _ _ _ _ children rest => max (children.depth + 1) rest.depth
  | leaf _ _ _ rest => rest.depth

def beginsWithText : Forest → Bool
  | text .. => true
  | _ => false

/-- No text stands beside another one. -/
def separated : Forest → Bool
  | nil => true
  | text _ _ rest => !rest.beginsWithText && rest.separated
  | element _ _ _ _ children rest => children.separated && rest.separated
  | leaf _ _ _ rest => rest.separated

end Forest

/-! ## Empty groups -/

/-- The text begins with an empty group and a blank. -/
def BeginsGroup (s : Text) : Prop :=
  ∃ b rest, s = '{' :: '}' :: b :: rest ∧ isBlank b = true

/-- The second text is the first one with a space in place of each empty group and all the blanks
behind it. -/
inductive Collapses : Text → Text → Prop
  | nil : Collapses [] []
  | group {blanks s t : Text} : blanks ≠ [] → (∀ b ∈ blanks, isBlank b = true) →
      (∀ c ∈ s.head?, isBlank c = false) → Collapses s t →
        Collapses ('{' :: '}' :: (blanks ++ s)) (' ' :: t)
  | other {c : Char} {s t : Text} : ¬BeginsGroup (c :: s) → Collapses s t →
      Collapses (c :: s) (c :: t)

theorem beginsGroup_of_afterEmptyGroup? {s r : Text} (h : afterEmptyGroup? s = some r) :
    BeginsGroup s := by
  obtain ⟨b, rest, heq, hblank, -⟩ := afterEmptyGroup?_eq_some h
  exact ⟨b, rest, heq, hblank⟩

theorem Collapses.behind {b : Char} {s t : Text} (hb : isBlank b = true)
    (h : Collapses (s.dropWhile isBlank) t) :
    Collapses ('{' :: '}' :: b :: s) (' ' :: t) := by
  have hblanks : ∀ c ∈ b :: s.takeWhile isBlank, isBlank c = true := by
    rw [List.forall_mem_cons]
    exact ⟨hb, List.all_eq_true.1 List.all_takeWhile⟩
  have hstop : ∀ c ∈ (s.dropWhile isBlank).head?, isBlank c = false := by
    intro c hc
    simpa [Option.mem_def.1 hc] using List.head?_dropWhile_not isBlank s
  have hgroup := Collapses.group (List.cons_ne_nil b (s.takeWhile isBlank)) hblanks hstop h
  rwa [List.cons_append, List.takeWhile_append_dropWhile] at hgroup

theorem collapses_collapseGroups (s : Text) : Collapses s (collapseGroups s) := by
  induction hn : s.length using Nat.strongRecOn generalizing s with
  | ind n ih =>
    cases s with
    | nil =>
      rw [collapseGroups_nil]
      exact .nil
    | cons c s =>
      cases hgroup : afterEmptyGroup? (c :: s) with
      | none =>
        have hother : ¬BeginsGroup (c :: s) := by
          rintro ⟨b, rest, heq, hblank⟩
          rw [heq, afterEmptyGroup?, if_pos hblank] at hgroup
          cases hgroup
        rw [collapseGroups_of_none hgroup]
        exact .other hother (ih s.length (by simp [← hn]) s rfl)
      | some r =>
        have hshorter := length_of_afterEmptyGroup? hgroup
        have hrest := ih r.length (by omega) r rfl
        rw [collapseGroups_of_some hgroup]
        obtain ⟨b, rest, heq, hblank, rfl⟩ := afterEmptyGroup?_eq_some hgroup
        rw [heq]
        exact .behind hblank hrest

theorem Collapses.eq_collapseGroups {s t : Text} (h : Collapses s t) : t = collapseGroups s := by
  induction h with
  | nil => exact collapseGroups_nil.symm
  | @group blanks s t hne hblanks hs _ ih =>
    cases blanks with
    | nil => exact absurd rfl hne
    | cons b blanks =>
      rw [List.forall_mem_cons] at hblanks
      have hgroup : afterEmptyGroup? ('{' :: '}' :: (b :: blanks ++ s)) = some s := by
        rw [List.cons_append, afterEmptyGroup?, if_pos hblanks.1, dropWhile_of_stop hblanks.2 hs]
      rw [collapseGroups_of_some hgroup, ih]
  | @other c s t hother _ ih =>
    have hnone : afterEmptyGroup? (c :: s) = none :=
      Option.eq_none_iff_forall_ne_some.2 fun r hr => hother (beginsGroup_of_afterEmptyGroup? hr)
    rw [collapseGroups_of_none hnone, ih]

/-! ## Small capitals -/

/-- A span is set in small capitals if its attributes name them, in any letter case. -/
def StartTag.SmallCaps (t : StartTag) : Prop :=
  t.tag = .span ∧ ∃ before word after, t.attributes = before ++ word ++ after ∧
    word.map foldLetter = "small-caps"

/-- What opens and what closes the content of a tag. -/
inductive StartTag.Delimits (t : StartTag) : Text → Text → Prop
  | smallCaps : t.SmallCaps → t.Delimits r"\textsc{" r"}"
  | plain : ¬t.SmallCaps → t.Delimits t.tag.opening t.tag.closing

def StartTag.delimiters (t : StartTag) : Text × Text :=
  Conversion.delimiters t.tag t.attributes

theorem asksSmallCaps_iff {attributes : Text} : Conversion.asksSmallCaps attributes = true ↔
    ∃ before word after, attributes = before ++ word ++ after ∧
      word.map foldLetter = "small-caps" := by
  rw [Conversion.asksSmallCaps, leftmost_isSome_iff]
  constructor
  · rintro ⟨before, rest, rfl, hword⟩
    obtain ⟨after, hafter⟩ := Option.isSome_iff_exists.1 hword
    obtain ⟨word, rfl, hletters⟩ := afterLetters?_eq_some_iff.1 hafter
    exact ⟨before, word, after, (List.append_assoc ..).symm, hletters⟩
  · rintro ⟨before, word, after, rfl, hletters⟩
    refine ⟨before, word ++ after, List.append_assoc .., ?_⟩
    rw [afterLetters?_eq_some_iff.2 ⟨word, rfl, hletters⟩]
    rfl

theorem StartTag.delimits_iff {t : StartTag} {opening closing : Text} :
    t.Delimits opening closing ↔ t.delimiters = (opening, closing) := by
  have hsmall : t.SmallCaps ↔
      (decide (t.tag = .span) && Conversion.asksSmallCaps t.attributes) = true := by
    rw [Bool.and_eq_true, decide_eq_true_eq, asksSmallCaps_iff, StartTag.SmallCaps]
  rw [StartTag.delimiters, Conversion.delimiters]
  constructor
  · intro h
    cases h with
    | smallCaps h => rw [if_pos (hsmall.1 h)]
    | plain h => rw [if_neg fun hask => h (hsmall.2 hask)]
  · split
    · next hask =>
      intro h
      cases h
      exact .smallCaps (hsmall.2 hask)
    · next hask =>
      intro h
      cases h
      exact .plain fun hs => hask (hsmall.1 hs)

/-! ## Rendering -/

namespace Forest
variable {mode : Latex.Mode}

/-- The LaTeX of a forest: a text is escaped and its empty groups collapse; an element or a leaf has
its children between what opens and what closes it. -/
inductive Renders (mode : Latex.Mode) : Forest → Text → Prop
  | nil : Renders mode nil []
  | text {s latex following : Text} {plain : '<' ∉ s} {rest : Forest} :
      Collapses (Latex.escape mode s) latex → Renders mode rest following →
        Renders mode (text s plain rest) (latex ++ following)
  | element {start : StartTag} {full : start.tag.isVoid = false} {ending : Text}
      {spelled : start.tag.Spelled ending} {children rest : Forest}
      {opening inner closing following : Text} :
      start.Delimits opening closing → Renders mode children inner → Renders mode rest following →
        Renders mode (element start full ending spelled children rest)
          (opening ++ inner ++ closing ++ following)
  | leaf {start : StartTag} {slash : Bool} {empty : start.tag.isVoid = true ∨ slash = true}
      {rest : Forest} {opening closing following : Text} :
      start.Delimits opening closing → Renders mode rest following →
        Renders mode (leaf start slash empty rest) (opening ++ closing ++ following)

def render (mode : Latex.Mode) : Forest → Text
  | nil => []
  | text s _ rest => escapeRun mode s ++ rest.render mode
  | element start _ _ _ children rest =>
    start.delimiters.1 ++ children.render mode ++ start.delimiters.2 ++ rest.render mode
  | leaf start _ _ rest => start.delimiters.1 ++ start.delimiters.2 ++ rest.render mode

theorem renders_render (f : Forest) : f.Renders mode (f.render mode) := by
  induction f with
  | nil => exact .nil
  | text s plain rest ih => exact .text (collapses_collapseGroups _) ih
  | element start full ending spelled children rest ihchildren ihrest =>
    exact .element (StartTag.delimits_iff.2 rfl) ihchildren ihrest
  | leaf start slash empty rest ih => exact .leaf (StartTag.delimits_iff.2 rfl) ih

theorem Renders.eq_render {f : Forest} {latex : Text} (h : f.Renders mode latex) :
    latex = f.render mode := by
  induction h with
  | nil => rfl
  | text hs _ ih => rw [hs.eq_collapseGroups, ih, render, escapeRun]
  | element hdelimits _ _ ihchildren ihrest =>
    rw [render, StartTag.delimits_iff.1 hdelimits, ihchildren, ihrest]
  | leaf hdelimits _ ih => rw [render, StartTag.delimits_iff.1 hdelimits, ih]

/-- A forest has one rendering. -/
theorem renders_iff {f : Forest} {latex : Text} : f.Renders mode latex ↔ latex = f.render mode :=
  ⟨Renders.eq_render, fun h => h ▸ f.renders_render⟩

end Forest
end Bibliography.Markup
