import Bibliography.Markup.Conversion
import Bibliography.Proofs.Latex.Escape

/-! # Converted markup is balanced

Whatever the tags of a text do, its LaTeX closes every group it opens. Two facts carry this:

* collapsing an empty group keeps the depth, as no escaped brace looks like the beginning of one;
* the open tags of a conversion enclose what is written so far (`Conversion.Nested`): closing them,
  the innermost first, leads back to depth zero. Every step keeps that.
-/

namespace Bibliography.Markup
set_option autoImplicit false
open Text Unicode Latex

/-! ## Empty groups -/

theorem depthAfter?_dropBlanks (d : Nat) (s : Text) :
    depthAfter? d (s.dropWhile isBlank) = depthAfter? d s := by
  induction s with
  | nil => rfl
  | cons c s ih =>
    rw [List.dropWhile_cons]
    split
    · next hblank => rw [ih, depthAfter?_plain (isPlain_of_isBlank hblank)]
    · rfl

theorem isTidy_dropBlanks (s : Text) : isTidy (s.dropWhile isBlank) = isTidy s := by
  induction s with
  | nil => rfl
  | cons c s ih =>
    rw [List.dropWhile_cons]
    split
    · next hblank => rw [ih, isTidy_cons (isPlain_iff.1 (isPlain_of_isBlank hblank)).1]
    · rfl

theorem afterEmptyGroup?_eq_some {s r : Text} (h : afterEmptyGroup? s = some r) :
    ∃ b rest, s = '{' :: '}' :: b :: rest ∧ isBlank b = true ∧
      r = rest.dropWhile isBlank := by
  unfold afterEmptyGroup? at h
  split at h
  · next b rest =>
    split at h
    · next hblank =>
      cases h
      exact ⟨b, rest, rfl, hblank, rfl⟩
    · simp at h
  · simp at h

theorem collapseGroups_nil : collapseGroups [] = [] := Scanner.replace_nil _ _

theorem collapseGroups_of_none {c : Char} {s : Text} (h : afterEmptyGroup? (c :: s) = none) :
    collapseGroups (c :: s) = c :: collapseGroups s :=
  Scanner.replace_of_none _ (by simp [emptyGroup, h])

theorem collapseGroups_of_some {c : Char} {s r : Text} (h : afterEmptyGroup? (c :: s) = some r) :
    collapseGroups (c :: s) = ' ' :: collapseGroups r :=
  Scanner.replace_of_test (a := ()) _ (by simp [emptyGroup, h])

theorem afterEmptyGroup?_of_head {c : Char} {s : Text} (h : c ≠ '{' ∨ s.head? ≠ some '}') :
    afterEmptyGroup? (c :: s) = none := by
  rw [Option.eq_none_iff_forall_ne_some]
  intro r hr
  obtain ⟨b, rest, heq, -, -⟩ := afterEmptyGroup?_eq_some hr
  obtain ⟨rfl, rfl⟩ := List.cons.inj heq
  simp at h

theorem collapseGroups_append_of_notMem {s : Text} (hs : '{' ∉ s) (t : Text) :
    collapseGroups (s ++ t) = s ++ collapseGroups t := by
  refine Scanner.replace_append_of_none _ _ fun c hc u => ?_
  have hbrace : c ≠ '{' := fun heq => hs (heq ▸ hc)
  simp [emptyGroup, afterEmptyGroup?_of_head (.inl hbrace)]

/-- Collapsing keeps the depth of a tidy text: it never takes an escaped brace for an empty group.
-/
theorem depthAfter?_collapseGroups {s : Text} (h : isTidy s = true) (d : Nat) :
    depthAfter? d (collapseGroups s) = depthAfter? d s := by
  induction hn : s.length using Nat.strongRecOn generalizing s d with
  | ind n ih =>
    cases s with
    | nil => rw [collapseGroups_nil]
    | cons c s =>
      rw [List.length_cons] at hn
      by_cases hslash : c = '\\'
      · subst hslash
        rw [collapseGroups_of_none (afterEmptyGroup?_of_head (.inl (by decide)))]
        cases s with
        | nil => rw [collapseGroups_nil]
        | cons c s =>
          rw [List.length_cons] at hn
          rw [isTidy_escape, Bool.and_eq_true] at h
          -- the character behind the backslash begins no empty group
          have hhead : c ≠ '{' ∨ s.head? ≠ some '}' := by
            simpa [Decidable.imp_iff_not_or] using h.1
          rw [collapseGroups_of_none (afterEmptyGroup?_of_head hhead), depthAfter?_escape,
            depthAfter?_escape]
          exact ih s.length (by omega) h.2 d rfl
      · rw [isTidy_cons hslash] at h
        cases hgroup : afterEmptyGroup? (c :: s) with
        | some r =>
          rw [collapseGroups_of_some hgroup]
          obtain ⟨b, rest, heq, hblank, rfl⟩ := afterEmptyGroup?_eq_some hgroup
          obtain ⟨rfl, rfl⟩ := List.cons.inj heq
          have hplain := isPlain_of_isBlank hblank
          have hshorter := (List.dropWhile_sublist isBlank (l := rest)).length_le
          have htidy : isTidy (rest.dropWhile isBlank) = true := by
            rw [isTidy_dropBlanks, ← isTidy_cons (isPlain_iff.1 hplain).1,
              ← isTidy_cons (c := '}') (by decide), h]
          simp only [List.length_cons] at hn
          rw [depthAfter?_plain (by decide), ih _ (by omega) htidy d rfl, depthAfter?_dropBlanks,
            depthAfter?_open, depthAfter?_close, depthAfter?_plain hplain]
        | none =>
          have hrest : ∀ d, depthAfter? d (collapseGroups s) = depthAfter? d s := fun d =>
            ih s.length (by omega) h d rfl
          rw [collapseGroups_of_none hgroup, depthAfter?.eq_def, depthAfter?.eq_def d (c :: s)]
          simp only [hslash, if_false, hrest]

theorem balanced_escapeRun (mode : Mode) (s : Text) : BraceBalanced (escapeRun mode s) := by
  have hescaped := joinable_escape mode s
  rw [BraceBalanced, escapeRun, depthAfter?_collapseGroups hescaped.tidy]
  exact hescaped.balanced

/-! ## Open tags -/

/-- The open tags close, the innermost first, what is open at the given depth. -/
inductive Encloses : List OpenTag → Nat → Prop
  | nil : Encloses [] 0
  | cons {o : OpenTag} {outer : List OpenTag} {inside outside : Nat} :
      depthAfter? inside o.close = some outside → Encloses outer outside →
        Encloses (o :: outer) inside

theorem Encloses.append {inner outer : List OpenTag} {d : Nat} (h : Encloses (inner ++ outer) d) :
    ∃ e, depthAfter? d (Conversion.closings inner) = some e ∧ Encloses outer e := by
  induction inner generalizing d with
  | nil => exact ⟨d, rfl, h⟩
  | cons o inner ih =>
    cases h with
    | cons hclose houter =>
      obtain ⟨e, hinner, hrest⟩ := ih houter
      refine ⟨e, ?_, hrest⟩
      rw [Conversion.closings, List.flatMap_cons, depthAfter?_append hclose]
      exact hinner

/-- Closing every open tag leads back to depth zero. -/
theorem Encloses.closings {stack : List OpenTag} {d : Nat} (h : Encloses stack d) :
    depthAfter? d (Conversion.closings stack) = some 0 := by
  rw [← List.append_nil stack] at h
  obtain ⟨e, hclosings, hnone⟩ := h.append
  cases hnone
  exact hclosings

/-- What closes a tag closes the groups that its opening opens. -/
theorem depthAfter?_delimiters (tag : Tag) (attributes : Text) :
    ∃ n, depthAfter? 0 (Conversion.delimiters tag attributes).1 = some n ∧
      depthAfter? n (Conversion.delimiters tag attributes).2 = some 0 := by
  unfold Conversion.delimiters
  split
  · exact ⟨1, by decide +kernel, by decide +kernel⟩
  · cases tag with
    | superscript => exact ⟨2, by decide +kernel, by decide +kernel⟩
    | subscript => exact ⟨2, by decide +kernel, by decide +kernel⟩
    | italic => exact ⟨1, by decide +kernel, by decide +kernel⟩
    | bold => exact ⟨1, by decide +kernel, by decide +kernel⟩
    | paragraph => exact ⟨0, by decide +kernel, by decide +kernel⟩
    | span => exact ⟨0, by decide +kernel, by decide +kernel⟩
    | lineBreak => exact ⟨0, by decide +kernel, by decide +kernel⟩
    | longBreak => exact ⟨0, by decide +kernel, by decide +kernel⟩

theorem balanced_opening_of_isVoid {tag : Tag} (h : tag.isVoid = true) (attributes : Text) :
    BraceBalanced (Conversion.delimiters tag attributes).1 := by
  cases tag with
  | lineBreak => exact (by decide +kernel : BraceBalanced (Tag.opening .lineBreak))
  | longBreak => exact (by decide +kernel : BraceBalanced (Tag.opening .longBreak))
  | _ => simp [Tag.isVoid] at h

/-! ## Steps of a conversion -/

namespace Conversion

/-- The open tags enclose what is written so far. -/
def Nested (c : Conversion) : Prop := ∃ d, depthAfter? 0 c.latex = some d ∧ Encloses c.stack d

theorem nested_start : start.Nested := ⟨0, rfl, Encloses.nil⟩

theorem Nested.emit {c : Conversion} (h : c.Nested) {s : Text} (hs : BraceBalanced s) :
    (c.emit s).Nested := by
  obtain ⟨d, hlatex, hstack⟩ := h
  exact ⟨d, (depthAfter?_append hlatex s).trans (hs.depth d), hstack⟩

theorem Nested.openTag {c : Conversion} (h : c.Nested) (tag : Tag) (attributes : Text)
    (selfClosing : Bool) : (c.openTag tag attributes selfClosing).Nested := by
  obtain ⟨n, hopening, hclosing⟩ := depthAfter?_delimiters tag attributes
  unfold Conversion.openTag
  dsimp only
  split
  · next hvoid => exact h.emit (balanced_opening_of_isVoid hvoid attributes)
  · split
    · -- the tag is closed at once
      obtain ⟨d, hlatex, hstack⟩ := h
      have hopened := depthAfter?_add hopening d
      have hclosed := depthAfter?_add hclosing d
      rw [Nat.zero_add] at hopened hclosed
      refine ⟨d, ?_, hstack⟩
      rw [Conversion.emit, Conversion.emit, List.append_assoc, depthAfter?_append hlatex,
        depthAfter?_append hopened]
      exact hclosed
    · split
      · exact h
      · obtain ⟨d, hlatex, hstack⟩ := h
        have hopened := depthAfter?_add hopening d
        have hclosed := depthAfter?_add hclosing d
        rw [Nat.zero_add] at hopened hclosed
        exact ⟨n + d, (depthAfter?_append hlatex _).trans hopened, Encloses.cons hclosed hstack⟩

theorem Nested.closeTag {c : Conversion} (h : c.Nested) (tag : Tag) : (c.closeTag tag).Nested := by
  unfold Conversion.closeTag
  dsimp only
  split
  · exact h
  · next closed outer hopen =>
    obtain ⟨d, hlatex, hstack⟩ := h
    -- the tag and those inside it are the top of the stack
    rw [← List.takeWhile_append_dropWhile (p := fun o => o.tag != tag) (l := c.stack), hopen,
      List.append_cons] at hstack
    obtain ⟨e, hclosings, houter⟩ := hstack.append
    have hwritten := (depthAfter?_append hlatex _).trans hclosings
    split
    · exact ⟨e, hwritten, houter⟩
    · exact ⟨e, hwritten, houter⟩

theorem Nested.step {c : Conversion} (h : c.Nested) (mode : Mode) (p : Segment Token) :
    (c.step mode p).Nested := by
  cases p with
  | run s => exact h.emit (balanced_escapeRun mode s)
  | found t =>
    cases t with
    | opening tag attributes selfClosing => exact h.openTag tag attributes selfClosing
    | closing tag => exact h.closeTag tag
    | ignored => exact h

theorem Nested.steps {c : Conversion} (h : c.Nested) (mode : Mode) (ps : List (Segment Token)) :
    (ps.foldl (Conversion.step mode) c).Nested := by
  induction ps generalizing c with
  | nil => exact h
  | cons p ps ih => exact ih (h.step mode p)

theorem Nested.block {c : Conversion} (h : c.Nested) (mode : Mode) {b : Segment Text}
    (hpre : ∀ content, b = .found content → BraceBalanced content) : (c.block mode b).Nested := by
  cases b with
  | run s => exact h.steps mode (pieces s)
  | found content => exact h.emit (hpre content rfl)

theorem Nested.blocks {c : Conversion} (h : c.Nested) (mode : Mode) {bs : List (Segment Text)}
    (hpre : ∀ content, .found content ∈ bs → BraceBalanced content) :
    (bs.foldl (Conversion.block mode) c).Nested := by
  induction bs generalizing c with
  | nil => exact h
  | cons b bs ih =>
    have hfirst : ∀ content, b = .found content → BraceBalanced content := fun content hb =>
      hpre content (hb ▸ List.mem_cons_self ..)
    exact ih (h.block mode hfirst) fun content hc => hpre content (List.mem_cons_of_mem _ hc)

theorem Nested.finish {c : Conversion} (h : c.Nested) : BraceBalanced c.finish.latex := by
  obtain ⟨d, hlatex, hstack⟩ := h
  have hclosings := hstack.closings
  unfold Conversion.finish
  split
  · next hempty =>
    rw [List.isEmpty_iff.1 hempty] at hclosings
    exact hlatex.trans hclosings
  · exact (depthAfter?_append hlatex _).trans hclosings

end Conversion

/-! ## Conversions -/

/-- The content of a preformatted block; a stretch of markup has none. -/
def content? (b : Segment Text) : Option Text :=
  match b with
  | .run _ => none
  | .found content => some content

theorem content?_eq_some_iff {b : Segment Text} {content : Text} :
    content? b = some content ↔ b = .found content := by
  cases b with
  | run s => simp [content?]
  | found content => simp [content?]

/-- The preformatted blocks of a text, which are passed through, are balanced. -/
def BalancedBlocks (s : Text) : Prop :=
  ∀ content, Segment.found content ∈ blocks s → BraceBalanced content

instance (s : Text) : Decidable (BalancedBlocks s) :=
  decidable_of_iff (∀ content ∈ (blocks s).filterMap content?, BraceBalanced content) (by
    simp only [BalancedBlocks, List.mem_filterMap, content?_eq_some_iff, exists_eq_right])

theorem mem_of_mem_consRun {α : Type} {c : Char} {a : α} {ps : List (Segment α)}
    (h : Segment.found a ∈ Segment.consRun c ps) : Segment.found a ∈ ps := by
  unfold Segment.consRun at h
  split at h
  · simpa using h
  · simpa using h

theorem preformatted?_of_head {c : Char} {s : Text} (h : c ≠ '<') :
    preformatted? (c :: s) = none := by
  have hafter : after? "<" (c :: s) = none := by
    simp [after?, Ne.symm h]
  rw [preformatted?, afterPreOpen?, hafter]
  rfl

/-- A text without an angle bracket has no preformatted blocks. -/
theorem found_notMem_blocks {s : Text} (h : '<' ∉ s) (content : Text) :
    Segment.found content ∉ blocks s := by
  intro hcontent
  unfold blocks at hcontent
  induction s with
  | nil => simp [Scanner.segments] at hcontent
  | cons c s ih =>
    have hc : c ≠ '<' := fun heq => h (heq ▸ List.mem_cons_self ..)
    have hnone : preformatted.test (c :: s) = none := preformatted?_of_head hc
    rw [Scanner.segments_of_none hnone] at hcontent
    exact ih (fun hm => h (List.mem_cons_of_mem _ hm)) (mem_of_mem_consRun hcontent)

theorem balancedBlocks_of_notMem {s : Text} (h : '<' ∉ s) : BalancedBlocks s :=
  fun content hcontent => absurd hcontent (found_notMem_blocks h content)

theorem BalancedBlocks.toLatex {s : Text} (h : BalancedBlocks s) (mode : Mode) :
    BraceBalanced (toLatex mode s) :=
  (Conversion.nested_start.blocks mode h).finish

/-- The LaTeX of a marked-up text is balanced if its preformatted blocks are, whatever the tags. -/
theorem balanced_convert (mode : Mode) (s : Text)
    (h : ∀ content, Segment.found content ∈ blocks s → BraceBalanced content) :
    BraceBalanced (convert mode s).latex :=
  BalancedBlocks.toLatex h mode

/-- A preformatted block between tags that do not match, and a letter with an accent. -/
def strayTags : Text := r"<b>a</i>{ <pre>\emph{x}</pre><sup>é"

theorem blocks_strayTags : blocks strayTags =
    [.run r"<b>a</i>{ ".toList, .found r"\emph{x}".toList, .run "<sup>é".toList] := by
  decide +kernel

theorem balanced_convert_strayTags :
    (∀ content, Segment.found content ∈ blocks strayTags → BraceBalanced content) ∧
      BraceBalanced (convert .ascii strayTags).latex := by
  have hpre : ∀ content, Segment.found content ∈ blocks strayTags → BraceBalanced content := by
    intro content hcontent
    rw [blocks_strayTags] at hcontent
    have heq : content = r"\emph{x}".toList := by simpa using hcontent
    rw [heq]
    decide +kernel
  exact ⟨hpre, balanced_convert .ascii strayTags hpre⟩

end Bibliography.Markup
