import Bibliography.Proofs.Markup.Vocabulary

/-! # The parts of a text

A conversion writes every run of text, escaped, and every preformatted block as it is, in the order
of the text; between them it writes what opens and closes tags and nothing else.

* `CutAtTags` cuts a stretch of markup at the tags of the vocabulary, `Cut` a whole text;
* `Shows` says what the LaTeX of such parts looks like;
* `KeepsText`: the conversion of a text shows all its parts.
-/

namespace Bibliography.Markup
set_option autoImplicit false
open Text Unicode

/-! ## Parts of a text -/

inductive Part
  | text (s : Text)
  | tag
  | preformatted (content : Text)

def IsVocabularyTag (source : Text) : Prop :=
  ∃ name, (Tag.ofName? name).isSome = true ∧ TagOf name source

/-- The name of the tag would be one of the vocabulary if the long s counted as a letter. -/
def IsMisspelledTag (source : Text) : Prop :=
  ∃ name, Tag.ofName? name = none ∧ Found name ∧ TagOf name source

def HasNoTag (s : Text) : Prop := ∀ source, IsVocabularyTag source → ¬source <:+: s

/-- The parts of a stretch of markup: its tags, and the texts between them. -/
inductive CutAtTags : Text → List Part → Prop
  | last {s : Text} : HasNoTag s → CutAtTags s [.text s]
  | tag {before source after : Text} {ps : List Part} : HasNoTag before → IsVocabularyTag source →
      CutAtTags after ps → CutAtTags (before ++ (source ++ after)) (.text before :: .tag :: ps)

/-- The parts of a text with the given blocks. -/
inductive CutBlocks : List (Segment Text) → Text → List Part → Prop
  | nil : CutBlocks [] [] []
  | markup {bs : List (Segment Text)} {u s : Text} {ps qs : List Part} : CutAtTags u ps →
      CutBlocks bs s qs → CutBlocks (.run u :: bs) (u ++ s) (ps ++ qs)
  | preformatted {bs : List (Segment Text)} {source s content : Text} {ps : List Part} :
      preformatted? (source ++ s) = some (content, s) → CutBlocks bs s ps →
        CutBlocks (.found content :: bs) (source ++ s) (.preformatted content :: ps)

def Cut (s : Text) (ps : List Part) : Prop := CutBlocks (blocks s) s ps

/-! ## What is shown of them -/

/-- The text opens or closes a tag. -/
def IsDelimiter (d : Text) : Prop :=
  ∃ tag attributes, d = (Conversion.delimiters tag attributes).1 ∨
    d = (Conversion.delimiters tag attributes).2

inductive Delimiting : Text → Prop
  | nil : Delimiting []
  | cons {d out : Text} : IsDelimiter d → Delimiting out → Delimiting (d ++ out)

/-- The LaTeX shows every text, escaped, and every preformatted block; in the place of a tag there
is what opens and closes tags. -/
inductive Shows (mode : Latex.Mode) : List Part → Text → Prop
  | nil : Shows mode [] []
  | text {s out : Text} {ps : List Part} : Shows mode ps out →
      Shows mode (.text s :: ps) (escapeRun mode s ++ out)
  | tag {d out : Text} {ps : List Part} : Delimiting d → Shows mode ps out →
      Shows mode (.tag :: ps) (d ++ out)
  | preformatted {content out : Text} {ps : List Part} : Shows mode ps out →
      Shows mode (.preformatted content :: ps) (content ++ out)

/-- The LaTeX of the text shows all its parts, and closes in the end what is still open. -/
def KeepsText (mode : Latex.Mode) (s : Text) : Prop :=
  ∃ ps out closings, Cut s ps ∧ Shows mode ps out ∧ Delimiting closings ∧
    (convert mode s).latex = out ++ closings

theorem IsDelimiter.delimiting {d : Text} (h : IsDelimiter d) : Delimiting d := by
  have hsingle := Delimiting.cons h .nil
  rwa [List.append_nil] at hsingle

section
variable {mode : Latex.Mode}

theorem Shows.append {ps qs : List Part} {s t : Text} (hs : Shows mode ps s)
    (ht : Shows mode qs t) : Shows mode (ps ++ qs) (s ++ t) := by
  induction hs with
  | nil => exact ht
  | text _ ih =>
    rw [List.append_assoc]
    exact .text ih
  | tag hd _ ih =>
    rw [List.append_assoc]
    exact .tag hd ih
  | preformatted _ ih =>
    rw [List.append_assoc]
    exact .preformatted ih

theorem shows_append_iff {ps qs : List Part} {out : Text} :
    Shows mode (ps ++ qs) out ↔ ∃ s t, out = s ++ t ∧ Shows mode ps s ∧ Shows mode qs t := by
  constructor
  · intro h
    induction ps generalizing out with
    | nil => exact ⟨[], out, rfl, .nil, h⟩
    | cons p ps ih =>
      cases h with
      | text h =>
        obtain ⟨s, t, rfl, hs, ht⟩ := ih h
        exact ⟨_, t, (List.append_assoc ..).symm, .text hs, ht⟩
      | tag hd h =>
        obtain ⟨s, t, rfl, hs, ht⟩ := ih h
        exact ⟨_, t, (List.append_assoc ..).symm, .tag hd hs, ht⟩
      | preformatted h =>
        obtain ⟨s, t, rfl, hs, ht⟩ := ih h
        exact ⟨_, t, (List.append_assoc ..).symm, .preformatted hs, ht⟩
  · rintro ⟨s, t, rfl, hs, ht⟩
    exact hs.append ht

/-! ## What a conversion shows -/

def piecePart : Segment Token → Part
  | .run s => .text s
  | .found _ => .tag

def blockParts : Segment Text → List Part
  | .run s => (pieces s).map piecePart
  | .found content => [.preformatted content]

/-- The parts of a text as a conversion finds them. -/
def foundParts (s : Text) : List Part := (blocks s).flatMap blockParts

namespace Conversion
variable {c : Conversion}

/-- What closes the open tags closes tags. -/
def Delimited (c : Conversion) : Prop := ∀ o ∈ c.stack, IsDelimiter o.close

theorem delimiting_closings {tags : List OpenTag} (h : ∀ o ∈ tags, IsDelimiter o.close) :
    Delimiting (closings tags) := by
  induction tags with
  | nil => exact .nil
  | cons o tags ih =>
    rw [List.forall_mem_cons] at h
    exact .cons h.1 (ih h.2)

theorem Delimited.openTag (h : c.Delimited) (tag : Tag) (attributes : Text) (selfClosing : Bool) :
    (c.openTag tag attributes selfClosing).Delimited ∧
      ∃ d, Delimiting d ∧ (c.openTag tag attributes selfClosing).latex = c.latex ++ d := by
  have hopening : IsDelimiter (delimiters tag attributes).1 := ⟨tag, attributes, .inl rfl⟩
  have hclosing : IsDelimiter (delimiters tag attributes).2 := ⟨tag, attributes, .inr rfl⟩
  unfold Conversion.openTag
  dsimp only
  split
  · exact ⟨h, _, hopening.delimiting, rfl⟩
  · split
    · exact ⟨h, _, .cons hopening hclosing.delimiting, List.append_assoc ..⟩
    · split
      · exact ⟨h, [], .nil, (List.append_nil _).symm⟩
      · exact ⟨List.forall_mem_cons.2 ⟨hclosing, h⟩, _, hopening.delimiting, rfl⟩

theorem Delimited.closeTag (h : c.Delimited) (tag : Tag) :
    (c.closeTag tag).Delimited ∧
      ∃ d, Delimiting d ∧ (c.closeTag tag).latex = c.latex ++ d := by
  have hstack := List.takeWhile_append_dropWhile (p := fun o => o.tag != tag) (l := c.stack)
  unfold Conversion.closeTag
  dsimp only
  split
  · exact ⟨h, [], .nil, (List.append_nil _).symm⟩
  · next closed outer hopen =>
    rw [hopen, List.append_cons] at hstack
    unfold Delimited at h
    rw [← hstack, List.forall_mem_append] at h
    have hclosings := delimiting_closings h.1
    split
    · exact ⟨h.2, _, hclosings, rfl⟩
    · exact ⟨h.2, _, hclosings, rfl⟩

variable (mode) in
theorem Delimited.step (h : c.Delimited) (p : Segment Token) :
    (c.step mode p).Delimited ∧
      ∃ out, Shows mode [piecePart p] out ∧ (c.step mode p).latex = c.latex ++ out := by
  have hshown : ∀ {d : Text}, Delimiting d → Shows mode [.tag] d := by
    intro d hd
    have htag : Shows mode [.tag] (d ++ []) := .tag hd .nil
    rwa [List.append_nil] at htag
  cases p with
  | run s =>
    refine ⟨h, escapeRun mode s ++ [], .text .nil, ?_⟩
    rw [List.append_nil]
    rfl
  | found t =>
    cases t with
    | opening tag attributes selfClosing =>
      obtain ⟨hstack, d, hd, hlatex⟩ := h.openTag tag attributes selfClosing
      exact ⟨hstack, d, hshown hd, hlatex⟩
    | closing tag =>
      obtain ⟨hstack, d, hd, hlatex⟩ := h.closeTag tag
      exact ⟨hstack, d, hshown hd, hlatex⟩
    | ignored => exact ⟨h, [], hshown .nil, (List.append_nil _).symm⟩

variable (mode) in
theorem Delimited.steps (h : c.Delimited) (ps : List (Segment Token)) :
    (ps.foldl (Conversion.step mode) c).Delimited ∧
      ∃ out, Shows mode (ps.map piecePart) out ∧
        (ps.foldl (Conversion.step mode) c).latex = c.latex ++ out := by
  induction ps generalizing c with
  | nil => exact ⟨h, [], .nil, (List.append_nil _).symm⟩
  | cons p ps ih =>
    obtain ⟨hstep, first, hfirst, hlatex⟩ := h.step mode p
    obtain ⟨hsteps, rest, hrest, hlatex'⟩ := ih hstep
    refine ⟨hsteps, first ++ rest, hfirst.append hrest, ?_⟩
    rw [List.foldl_cons, hlatex', hlatex, List.append_assoc]

variable (mode) in
theorem Delimited.block (h : c.Delimited) (b : Segment Text) :
    (c.block mode b).Delimited ∧
      ∃ out, Shows mode (blockParts b) out ∧ (c.block mode b).latex = c.latex ++ out := by
  cases b with
  | run s => exact h.steps mode (pieces s)
  | found content =>
    refine ⟨h, content ++ [], .preformatted .nil, ?_⟩
    rw [List.append_nil]
    rfl

variable (mode) in
theorem Delimited.blocks (h : c.Delimited) (bs : List (Segment Text)) :
    (bs.foldl (Conversion.block mode) c).Delimited ∧
      ∃ out, Shows mode (bs.flatMap blockParts) out ∧
        (bs.foldl (Conversion.block mode) c).latex = c.latex ++ out := by
  induction bs generalizing c with
  | nil => exact ⟨h, [], .nil, (List.append_nil _).symm⟩
  | cons b bs ih =>
    obtain ⟨hblock, first, hfirst, hlatex⟩ := h.block mode b
    obtain ⟨hblocks, rest, hrest, hlatex'⟩ := ih hblock
    refine ⟨hblocks, first ++ rest, hfirst.append hrest, ?_⟩
    rw [List.foldl_cons, hlatex', hlatex, List.append_assoc]

theorem Delimited.finish (h : c.Delimited) :
    ∃ d, Delimiting d ∧ c.finish.latex = c.latex ++ d := by
  unfold Conversion.finish
  split
  · exact ⟨[], .nil, (List.append_nil _).symm⟩
  · exact ⟨_, delimiting_closings h, rfl⟩

end Conversion

/-- A conversion shows all parts that it finds. -/
theorem exists_shows (mode : Latex.Mode) (s : Text) :
    ∃ out closings, Shows mode (foundParts s) out ∧ Delimiting closings ∧
      (convert mode s).latex = out ++ closings := by
  have hstart : Conversion.start.Delimited := fun _ h => by cases h
  obtain ⟨hend, out, hout, hlatex⟩ := hstart.blocks mode (blocks s)
  obtain ⟨closings, hclosings, hfinish⟩ := hend.finish
  refine ⟨out, closings, hout, hclosings, ?_⟩
  rw [convert, hfinish, hlatex]
  rfl

end

/-! ## Cutting a text -/

theorem TagOf.eq_cons {name source : Text} (h : TagOf name source) :
    ∃ inner, source = '<' :: inner := by
  cases h with
  | opening => exact ⟨_, rfl⟩
  | closing => exact ⟨_, rfl⟩

/-- A tag stands between the pieces before it and those behind it. -/
theorem TagOf.pieces {name source : Text} (h : TagOf name source) (hname : Found name)
    (before after : Text) :
    ∃ tok, (tok = .ignored ↔ Tag.ofName? name = none) ∧
      Markup.pieces (before ++ (source ++ after)) =
        Markup.pieces before ++ .found tok :: Markup.pieces after := by
  obtain ⟨tok, hread, hignored⟩ := h.token? hname
  obtain ⟨inner, rfl⟩ := h.eq_cons
  exact ⟨tok, hignored, segments_append_tag before (hread after)⟩

theorem IsVocabularyTag.pieces {source : Text} (h : IsVocabularyTag source) (before after : Text) :
    ∃ tok, tok ≠ .ignored ∧ Markup.pieces (before ++ (source ++ after)) =
      Markup.pieces before ++ .found tok :: Markup.pieces after := by
  obtain ⟨name, hmeaning, htag⟩ := h
  obtain ⟨t, ht⟩ := Option.isSome_iff_exists.1 hmeaning
  obtain ⟨tok, hignored, hpieces⟩ := htag.pieces (found_of_ofName? ht) before after
  refine ⟨tok, fun htok => ?_, hpieces⟩
  rw [hignored.1 htok] at ht
  cases ht

theorem IsMisspelledTag.mem_pieces {source s : Text} (h : IsMisspelledTag source)
    (hs : source <:+: s) : .found .ignored ∈ pieces s := by
  obtain ⟨name, hmeaning, hname, htag⟩ := h
  obtain ⟨before, after, rfl⟩ := hs
  obtain ⟨tok, hignored, hpieces⟩ := htag.pieces hname before after
  rw [List.append_assoc, hpieces, hignored.2 hmeaning]
  exact List.mem_append_right _ (List.mem_cons_self ..)

theorem reads_pieces (s : Text) : token.Reads (pieces s) s :=
  Scanner.reads_segments suffix_of_token? s

/-- Every tag that is found is one of the vocabulary, or misspelled. -/
theorem exists_tag_of_mem_pieces {s : Text} {tok : Token} (h : .found tok ∈ pieces s) :
    ∃ source, source <:+: s ∧ (tok ≠ .ignored → IsVocabularyTag source) ∧
      (tok = .ignored → IsMisspelledTag source) := by
  obtain ⟨before, source', rest, rfl, htest⟩ := (reads_pieces s).exists_test h
  obtain ⟨name, source, hname, htag, hsource⟩ := exists_tagOf htest
  obtain ⟨tok', hread, hignored⟩ := htag.token? hname
  have hsame : tok = tok' := by
    have hboth := hread rest
    rw [← hsource] at hboth
    have htest' : Markup.token? (source' ++ rest) = some (tok, rest) := htest
    rw [htest'] at hboth
    exact (Prod.mk.inj (Option.some.inj hboth)).1
  subst hsame
  have hinfix : before ++ source ++ rest = before ++ (source' ++ rest) := by
    rw [hsource, List.append_assoc]
  refine ⟨source, ⟨before, rest, hinfix⟩, fun htok => ?_, fun htok => ?_⟩
  · refine ⟨name, ?_, htag⟩
    rw [← Option.ne_none_iff_isSome]
    exact fun hnone => htok (hignored.2 hnone)
  · exact ⟨name, hignored.1 htok, hname, htag⟩

theorem hasNoTag_nil : HasNoTag [] := by
  intro source hsource hinfix
  obtain ⟨name, -, htag⟩ := hsource
  obtain ⟨inner, rfl⟩ := htag.eq_cons
  simp at hinfix

theorem CutAtTags.cons {c : Char} {s : Text} {ps : List Part} (h : CutAtTags s ps)
    (hnone : ∀ source, IsVocabularyTag source → ¬source <+: c :: s) :
    ∃ qs, CutAtTags (c :: s) qs := by
  have hlonger : ∀ {u : Text}, HasNoTag u → u <+: s → HasNoTag (c :: u) := by
    intro u hu hpre source hsource hinfix
    rcases List.infix_cons_iff.1 hinfix with hhead | htail
    · exact hnone source hsource (hhead.trans (List.prefix_cons_inj c |>.2 hpre))
    · exact hu source hsource htail
  cases h with
  | last hs => exact ⟨_, .last (hlonger hs (List.prefix_refl _))⟩
  | tag hbefore htag hafter =>
    exact ⟨_, .tag (hlonger hbefore (List.prefix_append ..)) htag hafter⟩

theorem exists_cutAtTags (s : Text) : ∃ ps, CutAtTags s ps := by
  induction hn : s.length using Nat.strongRecOn generalizing s with
  | ind n ih =>
    cases s with
    | nil => exact ⟨_, .last hasNoTag_nil⟩
    | cons c s =>
      by_cases htag : ∃ source, IsVocabularyTag source ∧ source <+: c :: s
      · obtain ⟨source, hsource, rest, hrest⟩ := htag
        have hshorter : rest.length < n := by
          obtain ⟨name, -, htag⟩ := hsource
          obtain ⟨inner, rfl⟩ := htag.eq_cons
          rw [← hn, ← hrest, List.length_append, List.length_cons]
          omega
        obtain ⟨ps, hps⟩ := ih rest.length hshorter rest rfl
        rw [← hrest]
        have hcut := CutAtTags.tag hasNoTag_nil hsource hps
        exact ⟨_, hcut⟩
      · obtain ⟨ps, hps⟩ := ih s.length (by simp [← hn]) s rfl
        exact hps.cons fun source hsource hpre => htag ⟨source, hsource, hpre⟩

theorem suffix_of_afterLetters? {mark letters s inner rest : Text}
    (hmark : after? mark s = some inner) (hletters : afterLetters? letters inner = some rest) :
    rest <:+ s := by
  obtain ⟨word, rfl, -⟩ := afterLetters?_eq_some_iff.1 hletters
  rw [after?_eq_some_iff.1 hmark]
  exact (List.suffix_append ..).trans (List.suffix_append ..)

theorem suffix_of_dropWhile {p : Char → Bool} {s rest : Text} {c : Char}
    (h : s.dropWhile p = c :: rest) : rest <:+ s := by
  have hdrop := List.dropWhile_suffix p (l := s)
  rw [h] at hdrop
  exact (List.suffix_cons c rest).trans hdrop

theorem suffix_of_afterPreOpen? {s r : Text} (h : afterPreOpen? s = some r) : r <:+ s := by
  obtain ⟨s', hs, hname⟩ := Option.bind_eq_some_iff.1 h
  obtain ⟨s'', hletters, hend⟩ := Option.bind_eq_some_iff.1 hname
  refine List.IsSuffix.trans ?_ (suffix_of_afterLetters? hs hletters)
  split at hend
  · split at hend
    · cases hend
    · next heq =>
      cases hend
      exact suffix_of_dropWhile heq
  · cases hend

theorem suffix_of_afterPreClose? {s r : Text} (h : afterPreClose? s = some r) : r <:+ s := by
  obtain ⟨s', hs, hname⟩ := Option.bind_eq_some_iff.1 h
  obtain ⟨s'', hletters, hend⟩ := Option.bind_eq_some_iff.1 hname
  refine List.IsSuffix.trans ?_ (suffix_of_afterLetters? hs hletters)
  split at hend
  · next heq =>
    cases hend
    exact suffix_of_dropWhile heq
  · cases hend

theorem suffix_of_preformatted? {s content rest : Text}
    (h : preformatted.test s = some (content, rest)) : rest <:+ s := by
  obtain ⟨inside, hinside, hcontent⟩ := Option.bind_eq_some_iff.1 h
  obtain ⟨closing, rfl, hclosing⟩ := leftmost_eq_some hcontent
  have hopen := suffix_of_afterPreOpen? hinside
  exact ((suffix_of_afterPreClose? hclosing).trans (List.suffix_append content closing)).trans hopen

/-- Every text can be cut into its parts. -/
theorem exists_cut (s : Text) : ∃ ps, Cut s ps := by
  have hblocks : ∀ {bs : List (Segment Text)} {s : Text}, preformatted.Reads bs s →
      ∃ ps, CutBlocks bs s ps := by
    intro bs s h
    induction h with
    | nil => exact ⟨_, .nil⟩
    | @run u rest bs _ ih =>
      obtain ⟨ps, hps⟩ := ih
      obtain ⟨qs, hqs⟩ := exists_cutAtTags u
      exact ⟨_, .markup hqs hps⟩
    | found htest _ ih =>
      obtain ⟨ps, hps⟩ := ih
      exact ⟨_, .preformatted htest hps⟩
  exact hblocks (Scanner.reads_segments suffix_of_preformatted? s)

end Bibliography.Markup
