import Bibliography.Markup.FromLatex
import Bibliography.Proofs.Markup.Styled

/-! # Styled text and back

Styled text comes back from LaTeX as it was. A pass over the LaTeX finds the commands whose content
has no commands and puts tags in their place. To the tree behind the text this is a leaf in the
place of each element that has none inside, for every style once; so a pass takes at least one level
off the nesting, and as many passes as there are levels are enough.
-/

namespace Bibliography.Markup
set_option autoImplicit false
open Text Unicode

/-! ## What a formatting finds -/

/-- The characters with which commands begin. -/
def isMark (c : Char) : Bool := c == '\\' || c == '$'

def isInert (c : Char) : Bool := Latex.isNoBrace c && !isMark c

theorem isInert_iff {c : Char} :
    isInert c = true ↔ Latex.isNoBrace c = true ∧ isMark c = false := by
  rw [isInert, Bool.and_eq_true, Bool.not_eq_true']

namespace Formatting

/-- The formatting puts the tags of the style in the place of its command. -/
def reads (f : Formatting) (style : Style) : Bool :=
  afterAny? f.openings style.opening == some []

/-- A formatting finds the commands of the styles it reads, and no others. The command of a raised
or lowered text might be taken for a longer one if its content began with the rest of that. -/
structure Undoes (f : Formatting) : Prop where
  marked : ∀ p ∈ f.openings, p.head?.any isMark = true
  found : ∀ style s, f.reads style = true → afterAny? f.openings (style.opening ++ s) = some s
  closing : ∀ style, f.reads style = true → style.closing = '}' :: f.tail
  wrap : ∀ style s, f.reads style = true → f.opening ++ s ++ f.closing = style.wrap s
  passed : ∀ style s, f.reads style = false → after? r"\textrm{" s = none →
    afterAny? f.openings (style.opening ++ s) = none

theorem undoes_of_mem {f : Formatting} (hf : f ∈ formattings) : f.Undoes := by
  simp only [formattings, scripts, List.cons_append, List.nil_append, List.mem_cons,
    List.not_mem_nil, or_false] at hf
  rcases hf with rfl | rfl | rfl | rfl | rfl | rfl | rfl | rfl | rfl | rfl | rfl
  all_goals
    constructor
    · decide
    · intro style s hstyle
      cases style <;> first | rfl | exact absurd hstyle (by decide)
    · intro style hstyle
      cases style <;> first | rfl | exact absurd hstyle (by decide)
    · intro style s hstyle
      cases style <;> first | rfl | exact absurd hstyle (by decide)
    · intro style s hstyle hs
      cases style <;>
        first | rfl | exact absurd hstyle (by decide) | exact (afterAny?_singleton _ _).trans hs

theorem exists_reads (style : Style) : ∃ f ∈ formattings, f.reads style = true := by
  have h : (formattings.any fun f => f.reads style) = true := by cases style <;> decide
  exact List.any_eq_true.1 h

end Formatting

/-! ## One formatting -/

namespace Styled

/-- Each element that has no elements inside becomes text, if the formatting reads its style. -/
def settle (f : Formatting) : Styled → Styled
  | nil => nil
  | text s rest => text s (rest.settle f)
  | element style children rest =>
    if f.reads style = true ∧ children.depth = 0 then
      text (style.wrap children.markup) (rest.settle f)
    else element style (children.settle f) (rest.settle f)

/-- No character outside the tags begins a command, and none is a brace. -/
def Inert (t : Styled) : Prop := ∀ c ∈ t.chars, isInert c = true

theorem inert_text {s : Text} {rest : Styled} :
    (text s rest).Inert ↔ (∀ c ∈ s, isInert c = true) ∧ rest.Inert := List.forall_mem_append

theorem inert_element {style : Style} {children rest : Styled} :
    (element style children rest).Inert ↔ children.Inert ∧ rest.Inert := List.forall_mem_append

variable {t : Styled} {f : Formatting}

theorem markup_settle : (t.settle f).markup = t.markup := by
  induction t with
  | nil => rfl
  | text s rest ih => rw [settle, markup, markup, ih]
  | element style children rest ihchildren ihrest =>
    rw [settle]
    split
    · rw [markup, markup, ihrest]
    · rw [markup, markup, ihchildren, ihrest]

theorem depth_settle_le : (t.settle f).depth ≤ t.depth := by
  induction t with
  | nil => exact Nat.le_refl _
  | text s rest ih => exact ih
  | element style children rest ihchildren ihrest =>
    rw [settle]
    split
    · rw [depth, depth]
      omega
    · rw [depth, depth]
      omega

theorem latex_of_flat (hflat : t.depth = 0) : t.latex = t.markup := by
  induction t with
  | nil => rfl
  | text s rest ih => rw [latex, markup, ih hflat]
  | element style children rest => simp [depth] at hflat

theorem inert_wrap (style : Style) {s : Text} (hs : ∀ c ∈ s, isInert c = true) :
    ∀ c ∈ style.wrap s, isInert c = true := by
  have hopen : (style.start.markup false).all isInert = true := by cases style <;> decide
  have hclose : (closingMarkup style.start.name).all isInert = true := by cases style <;> decide
  rw [Style.wrap, List.forall_mem_append, List.forall_mem_append]
  exact ⟨List.all_eq_true.1 hopen, hs, List.all_eq_true.1 hclose⟩

theorem Inert.markup (ht : t.Inert) : ∀ c ∈ t.markup, isInert c = true := by
  induction t with
  | nil => exact ht
  | text s rest ih =>
    rw [inert_text] at ht
    rw [Styled.markup, List.forall_mem_append]
    exact ⟨ht.1, ih ht.2⟩
  | element style children rest ihchildren ihrest =>
    rw [inert_element] at ht
    rw [Styled.markup, List.forall_mem_append]
    exact ⟨inert_wrap style (ihchildren ht.1), ihrest ht.2⟩

theorem Inert.settle (ht : t.Inert) (f : Formatting) : (t.settle f).Inert := by
  induction t with
  | nil => exact ht
  | text s rest ih =>
    rw [inert_text] at ht
    exact inert_text.2 ⟨ht.1, ih ht.2⟩
  | element style children rest ihchildren ihrest =>
    rw [inert_element] at ht
    rw [Styled.settle]
    split
    · exact inert_text.2 ⟨inert_wrap style (Inert.markup ht.1), ihrest ht.2⟩
    · exact inert_element.2 ⟨ihchildren ht.1, ihrest ht.2⟩

/-- The first brace of a text with an element in it is that of a command. -/
theorem dropWhile_of_nested (ht : t.Inert) (hnested : t.depth ≠ 0) (u : Text) :
    ∃ v, (t.latex ++ u).dropWhile Latex.isNoBrace = '{' :: v := by
  induction t with
  | nil => exact absurd rfl hnested
  | text s rest ih =>
    rw [inert_text] at ht
    rw [latex, List.append_assoc,
      List.dropWhile_append_of_pos fun c hc => (isInert_iff.1 (ht.1 c hc)).1]
    exact ih ht.2 hnested
  | element style children rest =>
    cases style <;> exact ⟨_, rfl⟩

/-- No content goes on with the beginning of the long command for raised or lowered text. -/
theorem after?_textrm (ht : t.Inert) (u : Text) :
    after? r"\textrm{" (t.latex ++ '}' :: u) = none := by
  induction t with
  | nil => rfl
  | text s rest ih =>
    rw [inert_text] at ht
    cases s with
    | nil => exact ih ht.2
    | cons c s =>
      have hmark : '\\' ≠ c := by
        rintro rfl
        exact absurd (ht.1 '\\' (List.mem_cons_self ..)) (by decide)
      exact if_neg hmark
  | element style children rest =>
    cases style <;> rfl

end Styled

namespace Formatting.Undoes
variable {f : Formatting} {t : Styled}

theorem test_of_isMark (hf : f.Undoes) {c : Char} (hc : isMark c = false) (s : Text) :
    (Latex.flatGroup f.openings f.tail).test (c :: s) = none := by
  have hnone : afterAny? f.openings (c :: s) = none := by
    refine List.findSome?_eq_none_iff.2 fun p hp => ?_
    have hmark := hf.marked p hp
    cases p with
    | nil => cases hmark
    | cons d p =>
      have hne : d ≠ c := by
        rintro rfl
        rw [List.head?_cons, Option.any_some, hc] at hmark
        cases hmark
      exact if_neg hne
  show (afterAny? f.openings (c :: s)).bind _ = none
  rw [hnone]
  rfl

theorem test_flat (hf : f.Undoes) {style : Style} (hstyle : f.reads style = true) (ht : t.Inert)
    (hflat : t.depth = 0) (u : Text) :
    (Latex.flatGroup f.openings f.tail).test
      (style.opening ++ (t.latex ++ (style.closing ++ u))) = some (t.markup, u) := by
  have hinside : ∀ c ∈ t.markup, Latex.isNoBrace c = true := fun c hc =>
    (isInert_iff.1 (ht.markup c hc)).1
  have hstop : ∀ c ∈ (style.closing ++ u).head?, Latex.isNoBrace c = false := by
    rw [hf.closing style hstyle]
    intro c hc
    obtain rfl : '}' = c := Option.some.inj hc
    decide
  have htail : after? f.tail (f.tail ++ u) = some u := after?_eq_some_iff.2 rfl
  show (afterAny? f.openings _).bind _ = _
  rw [hf.found style _ hstyle, Option.bind_some, Styled.latex_of_flat hflat,
    takeWhile_of_stop hinside hstop, dropWhile_of_stop hinside hstop, hf.closing style hstyle,
    List.cons_append]
  simp only [htail, Option.map_some]

theorem test_nested (hf : f.Undoes) {style : Style} (ht : t.Inert)
    (hother : ¬(f.reads style = true ∧ t.depth = 0)) (u : Text) :
    (Latex.flatGroup f.openings f.tail).test
      (style.opening ++ (t.latex ++ (style.closing ++ u))) = none := by
  show (afterAny? f.openings _).bind _ = none
  cases hstyle : f.reads style with
  | true =>
    obtain ⟨v, hv⟩ := Styled.dropWhile_of_nested ht (fun hflat => hother ⟨hstyle, hflat⟩)
      (style.closing ++ u)
    rw [hf.found style _ hstyle, Option.bind_some, hv]
    rfl
  | false =>
    have hclosing : ∃ v, style.closing ++ u = '}' :: v := by
      cases style <;> exact ⟨_, rfl⟩
    obtain ⟨v, hv⟩ := hclosing
    rw [hf.passed style _ hstyle (hv ▸ Styled.after?_textrm ht v)]
    rfl

/-- A formatting turns the elements that it finds into text, whatever follows. -/
theorem replace_latex_append (hf : f.Undoes) (ht : t.Inert) (u : Text) :
    (Latex.flatGroup f.openings f.tail).replace (fun inner => f.opening ++ inner ++ f.closing)
      (t.latex ++ u) = (t.settle f).latex ++
        (Latex.flatGroup f.openings f.tail).replace
          (fun inner => f.opening ++ inner ++ f.closing) u := by
  induction t generalizing u with
  | nil => rfl
  | text s rest ih =>
    rw [Styled.inert_text] at ht
    rw [Styled.latex, List.append_assoc, Scanner.replace_append_of_none _ _
      fun c hc => hf.test_of_isMark (isInert_iff.1 (ht.1 c hc)).2, ih ht.2, Styled.settle,
      Styled.latex, List.append_assoc]
  | element style children rest ihchildren ihrest =>
    rw [Styled.inert_element] at ht
    have hopening : ∃ word, style.opening = '\\' :: word ∧
        (word.all fun c => !isMark c) = true := by
      cases style <;> exact ⟨_, rfl, by decide⟩
    have hclosing : (style.closing.all fun c => !isMark c) = true := by
      cases style <;> decide
    simp only [List.all_eq_true, Bool.not_eq_true'] at hopening hclosing
    obtain ⟨word, hword, hquiet⟩ := hopening
    rw [Styled.latex, Styled.settle, List.append_assoc, List.append_assoc, List.append_assoc]
    split
    · next hfound =>
      have htest := hf.test_flat hfound.1 ht.1 hfound.2 (rest.latex ++ u)
      rw [hword, List.cons_append] at htest ⊢
      rw [Scanner.replace_of_test _ htest, ihrest ht.2, hf.wrap style _ hfound.1, Styled.latex,
        List.append_assoc]
    · next hother =>
      have htest := hf.test_nested ht.1 hother (rest.latex ++ u)
      rw [Styled.latex]
      rw [hword, List.cons_append] at htest ⊢
      rw [Scanner.replace_of_none _ htest,
        Scanner.replace_append_of_none _ _ fun c hc => hf.test_of_isMark (hquiet c hc),
        ihchildren ht.1,
        Scanner.replace_append_of_none _ _ fun c hc => hf.test_of_isMark (hclosing c hc),
        ihrest ht.2]
      simp only [List.cons_append, List.append_assoc]

theorem apply_latex (hf : f.Undoes) (ht : t.Inert) : f.apply t.latex = (t.settle f).latex := by
  have hwhole := hf.replace_latex_append ht []
  rwa [List.append_nil, Scanner.replace_nil, List.append_nil] at hwhole

end Formatting.Undoes

/-! ## Passes -/

namespace Styled
variable {t : Styled}

/-- The formattings one after the other. -/
def settleAll (fs : List Formatting) (t : Styled) : Styled := fs.foldl (fun t f => t.settle f) t

theorem markup_settleAll (fs : List Formatting) : (t.settleAll fs).markup = t.markup := by
  induction fs generalizing t with
  | nil => rfl
  | cons f fs ih => exact ih.trans markup_settle

theorem Inert.settleAll (ht : t.Inert) (fs : List Formatting) : (t.settleAll fs).Inert := by
  induction fs generalizing t with
  | nil => exact ht
  | cons f fs ih => exact ih (ht.settle f)

theorem foldl_apply {fs : List Formatting} (hfs : ∀ f ∈ fs, f.Undoes) (ht : t.Inert) :
    fs.foldl (fun s f => f.apply s) t.latex = (t.settleAll fs).latex := by
  induction fs generalizing t with
  | nil => rfl
  | cons f fs ih =>
    rw [List.forall_mem_cons] at hfs
    rw [List.foldl_cons, hfs.1.apply_latex ht]
    exact ih hfs.2 (ht.settle f)

theorem settleAll_nil (fs : List Formatting) : nil.settleAll fs = nil := by
  induction fs with
  | nil => rfl
  | cons f fs ih => exact ih

theorem settleAll_text (fs : List Formatting) (s : Text) (rest : Styled) :
    (text s rest).settleAll fs = text s (rest.settleAll fs) := by
  induction fs generalizing rest with
  | nil => rfl
  | cons f fs ih => exact ih (rest.settle f)

/-- An element becomes text, or else it has elements inside or no formatting reads its style. -/
theorem settleAll_element (fs : List Formatting) (style : Style) (children rest : Styled) :
    (∃ s, (element style children rest).settleAll fs = text s (rest.settleAll fs)) ∨
      ((element style children rest).settleAll fs =
        element style (children.settleAll fs) (rest.settleAll fs) ∧
          (children.depth = 0 → ∀ f ∈ fs, f.reads style = false)) := by
  induction fs generalizing children rest with
  | nil => exact .inr ⟨rfl, fun _ f hf => by cases hf⟩
  | cons f fs ih =>
    by_cases hfound : f.reads style = true ∧ children.depth = 0
    · have hstep : (element style children rest).settle f =
          text (style.wrap children.markup) (rest.settle f) := by
        rw [settle, if_pos hfound]
      refine .inl ⟨style.wrap children.markup, ?_⟩
      rw [settleAll, List.foldl_cons, hstep]
      exact settleAll_text fs _ _
    · have hstep : (element style children rest).settle f =
          element style (children.settle f) (rest.settle f) := by
        rw [settle, if_neg hfound]
      rw [settleAll, List.foldl_cons, hstep]
      rcases ih (children.settle f) (rest.settle f) with htext | ⟨helement, hunread⟩
      · exact .inl htext
      · refine .inr ⟨helement, fun hflat => ?_⟩
        rw [List.forall_mem_cons]
        have hstays : (children.settle f).depth = 0 :=
          Nat.eq_zero_of_le_zero (hflat ▸ depth_settle_le)
        exact ⟨Bool.eq_false_iff.2 fun hread => hfound ⟨hread, hflat⟩, hunread hstays⟩

/-- If every style is read by one of the formattings, they take off a level. -/
theorem depth_settleAll_le {fs : List Formatting}
    (hfs : ∀ style, ∃ f ∈ fs, f.reads style = true) :
    (t.settleAll fs).depth ≤ t.depth - 1 := by
  induction t with
  | nil =>
    rw [settleAll_nil]
    exact Nat.zero_le _
  | text s rest ih =>
    rw [settleAll_text]
    exact ih
  | element style children rest ihchildren ihrest =>
    rcases settleAll_element fs style children rest with ⟨s, htext⟩ | ⟨helement, hunread⟩
    · rw [htext, depth, depth]
      omega
    · have hnested : children.depth ≠ 0 := by
        intro hflat
        obtain ⟨f, hf, hread⟩ := hfs style
        rw [hunread hflat f hf] at hread
        cases hread
      rw [helement, depth, depth]
      omega

theorem pass_latex (ht : t.Inert) : pass t.latex = (t.settleAll formattings).latex :=
  foldl_apply (fun _ hf => Formatting.undoes_of_mem hf) ht

end Styled

theorem passes_of_pass_eq {s : Text} (hs : pass s = s) (n : Nat) : passes n s = s := by
  cases n with
  | zero => rfl
  | succ n => exact if_pos hs

/-- A pass for each level of nesting is enough. -/
theorem passes_latex {t : Styled} {n : Nat} (ht : t.Inert) (hdepth : t.depth ≤ n) :
    passes n t.latex = t.markup := by
  induction n generalizing t with
  | zero => exact Styled.latex_of_flat (Nat.le_zero.1 hdepth)
  | succ n ih =>
    have hlower := Styled.depth_settleAll_le (t := t) Formatting.exists_reads
    have hrest := ih (ht.settleAll formattings) (by omega)
    rw [Styled.markup_settleAll] at hrest
    rw [← Styled.pass_latex ht] at hrest
    rw [passes]
    split
    · next hstable => rwa [hstable, passes_of_pass_eq hstable] at hrest
    · exact hrest

theorem Styled.Plain.inert {t : Styled} (ht : t.Plain) : t.Inert := by
  intro c hc
  have hne : ∀ d ∈ Latex.specials.map Prod.fst, c ≠ d := by
    rintro d hd rfl
    exact ht c hc hd
  have hopen := hne '{' (by decide)
  have hclose := hne '}' (by decide)
  have hslash := hne '\\' (by decide)
  have hdollar := hne '$' (by decide)
  simp [isInert, Latex.isNoBrace, isMark, hopen, hclose, hslash, hdollar]

/-- Styled text whose elements are not nested deeper than there are passes comes back from LaTeX as
it was. -/
theorem ofLatex_toLatex {t : Styled} (ht : t.Plain) (hdepth : t.depth ≤ maxPasses) :
    ofLatex (toLatex .unicode t.markup) = t.markup := by
  have hroom : t.depth ≤ maxDepth := Nat.le_trans hdepth (by decide)
  rw [Styled.toLatex_markup ht hroom]
  exact passes_latex ht.inert hdepth

/-- A title with a formula in it, and italics inside italics. -/
def nestedTitle : Styled :=
  .element .italic
    (.text "The p" <| .element .superscript (.text "n" .nil) <| .text " of " <|
      .element .smallCaps (.element .italic (.text "Nasa" .nil) .nil) .nil)
    (.text ", in brief" .nil)

theorem ofLatex_toLatex_nestedTitle :
    nestedTitle.Plain ∧ nestedTitle.depth ≤ maxPasses ∧
      ofLatex (toLatex .unicode nestedTitle.markup) = nestedTitle.markup := by
  have hplain : nestedTitle.Plain := by
    have hall : (nestedTitle.chars.all fun c =>
        !(Latex.specials.map Prod.fst).contains c) = true := by decide
    intro c hc hspecial
    have hother := List.all_eq_true.1 hall c hc
    rw [List.contains_iff_mem.2 hspecial] at hother
    cases hother
  have hdepth : nestedTitle.depth ≤ maxPasses := by decide
  exact ⟨hplain, hdepth, ofLatex_toLatex hplain hdepth⟩

end Bibliography.Markup
