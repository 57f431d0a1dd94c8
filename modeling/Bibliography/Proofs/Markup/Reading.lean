import Bibliography.Proofs.Markup.Forest
import Bibliography.Proofs.Text.Words

/-! # Forests read back

The tags of a forest are found where they were written, and nothing else is taken for a tag or for a
preformatted block: names end at a word boundary, and texts and attributes hold no angle bracket.
-/

namespace Bibliography.Markup
set_option autoImplicit false
open Text Unicode

/-! ## Names -/

namespace Tag

theorem isLower_name (t : Tag) : ∀ c ∈ t.name, c.isLower = true := by
  cases t <;> exact List.all_eq_true.1 (by decide)

theorem mem_all (t : Tag) : t ∈ all := by
  cases t <;> decide

theorem find?_name (t : Tag) : (all.find? fun u => u.name == t.name) = some t := by
  cases t <;> decide

/-- No tag has the name of a preformatted block. -/
theorem name_ne_pre (t : Tag) : t.name ≠ "pre".toList := by
  cases t <;> decide

variable {t : Tag} {name : Text}

theorem Spelled.isAlpha (h : t.Spelled name) : ∀ c ∈ name, c.isAlpha = true := by
  intro c hc
  have hmem : c.toLower ∈ t.name := h ▸ List.mem_map_of_mem hc
  exact isAlpha_of_toLower (t.isLower_name _ hmem)

theorem Spelled.isWord (h : t.Spelled name) : ∀ c ∈ name, isWord c = true := fun c hc =>
  isWord_of_isAlpha (h.isAlpha c hc)

theorem Spelled.map_foldLetter (h : t.Spelled name) : name.map foldLetter = t.name := by
  rw [← h]
  exact List.map_congr_left fun c hc => foldLetter_of_isAlpha (h.isAlpha c hc)

theorem Spelled.ofName? (h : t.Spelled name) : ofName? name = some t := by
  have hlower : lower name = t.name := (lowerAfter_of_isAlpha h.isAlpha []).trans h
  rw [Tag.ofName?, hlower]
  exact find?_name t

theorem Spelled.ne_nil (h : t.Spelled name) : name ≠ [] := by
  rintro rfl
  cases t <;> exact absurd h (by decide)

end Tag

/-! ## Tags -/

/-- A tag goes on behind its name with no part of a word. -/
theorem atBoundary_tagEnd (slash : Bool) (rest : Text) :
    atBoundary (tagEnd slash ++ rest) = true := by
  cases slash with
  | false => exact (by decide : (!isWord '>') = true)
  | true => exact (by decide : (!isWord '/') = true)

theorem attributes?_written {attributes : Text} (hinside : '<' ∉ attributes ∧ '>' ∉ attributes)
    (hend : attributes.getLast? ≠ some '/') (slash : Bool) (rest : Text) :
    attributes? (attributes ++ (tagEnd slash ++ rest)) = some (attributes, slash, rest) := by
  have hplain : ∀ c ∈ attributes, (c != '<' && c != '>') = true := by
    intro c hc
    have hopen : c ≠ '<' := fun heq => hinside.1 (heq ▸ hc)
    have hclose : c ≠ '>' := fun heq => hinside.2 (heq ▸ hc)
    simp [hopen, hclose]
  have hstop : ∀ c ∈ ('>' :: rest).head?, (c != '<' && c != '>') = false := by
    intro c hc
    obtain rfl : '>' = c := Option.some.inj hc
    decide
  cases slash with
  | false =>
    have hform : attributes ++ (tagEnd false ++ rest) = attributes ++ '>' :: rest := rfl
    rw [hform, attributes?, takeWhile_of_stop hplain hstop, dropWhile_of_stop hplain hstop]
    simp [hend]
  | true =>
    have hslashed : ∀ c ∈ attributes ++ ['/'], (c != '<' && c != '>') = true := by
      intro c hc
      rcases List.mem_append.1 hc with hc | hc
      · exact hplain c hc
      · obtain rfl := List.mem_singleton.1 hc
        decide
    have hform : attributes ++ (tagEnd true ++ rest) = (attributes ++ ['/']) ++ '>' :: rest := by
      rw [List.append_assoc]
      rfl
    rw [hform, attributes?, takeWhile_of_stop hslashed hstop, dropWhile_of_stop hslashed hstop]
    simp

/-- A name, attributes and an end are read as one tag. -/
theorem namedTag?_written {t : Tag} {name attributes : Text} (h : t.Spelled name)
    (hapart : atBoundary attributes = true) (hinside : '<' ∉ attributes ∧ '>' ∉ attributes)
    (hend : attributes.getLast? ≠ some '/') (isClosing slash : Bool) (rest : Text) :
    namedTag? isClosing (name ++ (attributes ++ (tagEnd slash ++ rest))) =
      some (if isClosing then .closing t else .opening t attributes slash, rest) := by
  have hstop := atBoundary_iff.1 (atBoundary_append hapart (atBoundary_tagEnd slash rest))
  have hknown : (Tag.all.any fun u => sameLetters u.name name) = true :=
    List.any_eq_true.2 ⟨t, t.mem_all, sameLetters_iff.2 h.map_foldLetter⟩
  rw [namedTag?, takeWhile_of_stop h.isWord hstop, dropWhile_of_stop h.isWord hstop, if_pos hknown,
    attributes?_written hinside hend, Option.map_some, h.ofName?]

theorem token?_start (t : StartTag) (slash : Bool) (rest : Text) :
    token? (t.markup slash ++ rest) = some (.opening t.tag t.attributes slash, rest) := by
  have hread := namedTag?_written t.spelled t.apart t.inside t.unslashed false slash rest
  obtain ⟨c, cs, hname⟩ := List.exists_cons_of_ne_nil t.spelled.ne_nil
  have hslash : c ≠ '/' := by
    rintro rfl
    exact absurd (t.spelled.isAlpha '/' (hname ▸ List.mem_cons_self ..)) (by decide)
  rw [StartTag.markup, List.cons_append, List.append_assoc, List.append_assoc]
  rw [hname, List.cons_append] at hread ⊢
  rw [token?]
  · exact hread
  · intro s hs
    exact hslash (List.cons.inj hs).1

theorem token?_closing {t : Tag} {name : Text} (h : t.Spelled name) (rest : Text) :
    token? (closingMarkup name ++ rest) = some (.closing t, rest) := by
  have hapart : atBoundary [] = true := rfl
  have hread := namedTag?_written h hapart (by simp) (by simp) true false rest
  rw [closingMarkup, List.cons_append, List.cons_append, List.append_assoc, token?]
  exact hread

theorem token?_of_head {c : Char} {s : Text} (h : c ≠ '<') : token? (c :: s) = none := by
  unfold token?
  split
  · next heq => exact absurd (List.cons.inj heq).1 h
  · next heq => exact absurd (List.cons.inj heq).1 h
  · rfl

/-! ## Pieces -/

namespace Forest

/-- The texts of a forest, but for empty ones, and its tags. -/
def pieces : Forest → List (Segment Token)
  | nil => []
  | text s _ rest => Segment.ofRun s ++ rest.pieces
  | element start _ _ _ children rest =>
    .found (.opening start.tag start.attributes false) ::
      (children.pieces ++ .found (.closing start.tag) :: rest.pieces)
  | leaf start slash _ rest => .found (.opening start.tag start.attributes slash) :: rest.pieces

theorem pieces_start (t : StartTag) (slash : Bool) (rest : Text) :
    Markup.pieces (t.markup slash ++ rest) =
      .found (.opening t.tag t.attributes slash) :: Markup.pieces rest :=
  Scanner.segments_of_test (token?_start t slash rest)

theorem pieces_closing {t : Tag} {name : Text} (h : t.Spelled name) (rest : Text) :
    Markup.pieces (closingMarkup name ++ rest) = .found (.closing t) :: Markup.pieces rest :=
  Scanner.segments_of_test (token?_closing h rest)

theorem head?_pieces {f : Forest} (h : f.beginsWithText = false) {ps : List (Segment Token)}
    (hps : ∀ u, ps.head? ≠ some (.run u)) (u : Text) : (f.pieces ++ ps).head? ≠ some (.run u) := by
  cases f with
  | nil => exact hps u
  | text s plain rest => cases h
  | element start full ending spelled children rest => simp [pieces]
  | leaf start slash empty rest => simp [pieces]

/-- The pieces of the markup of a forest are those of the forest. -/
theorem pieces_markup_append {f : Forest} (h : f.separated = true) {tail : Text}
    (htail : ∀ u, (Markup.pieces tail).head? ≠ some (.run u)) :
    Markup.pieces (f.markup ++ tail) = f.pieces ++ Markup.pieces tail := by
  induction f generalizing tail with
  | nil => rfl
  | text s plain rest ih =>
    simp only [separated, Bool.and_eq_true, Bool.not_eq_true'] at h
    have hnone : ∀ c ∈ s, ∀ u, token.test (c :: u) = none := by
      intro c hc u
      have hangle : c ≠ '<' := fun heq => plain (heq ▸ hc)
      exact token?_of_head hangle
    have hrest := ih h.2 htail
    rw [markup, pieces, List.append_assoc, List.append_assoc, ← hrest]
    refine Scanner.segments_append_of_head hnone ?_
    intro u
    have hhead := head?_pieces h.1 htail u
    rwa [← hrest] at hhead
  | element start full ending spelled children rest ihchildren ihrest =>
    simp only [separated, Bool.and_eq_true] at h
    have hclosing := pieces_closing spelled (rest.markup ++ tail)
    have hinside : ∀ u,
        (Markup.pieces (closingMarkup ending ++ (rest.markup ++ tail))).head? ≠ some (.run u) := by
      intro u
      rw [hclosing]
      simp
    simp only [markup, pieces, List.append_assoc, List.cons_append]
    rw [pieces_start, ihchildren h.1 hinside, hclosing, ihrest h.2 htail]
  | leaf start slash empty rest ih =>
    rw [markup, pieces, List.append_assoc, pieces_start, List.cons_append, ih h htail]

theorem pieces_markup {f : Forest} (h : f.separated = true) :
    Markup.pieces f.markup = f.pieces := by
  have hnil : Markup.pieces [] = [] := by rw [Markup.pieces, Scanner.segments]
  have htail : ∀ u, (Markup.pieces []).head? ≠ some (.run u) := by
    intro u
    rw [hnil]
    simp
  have hwhole := pieces_markup_append h htail
  rwa [List.append_nil, hnil, List.append_nil] at hwhole

end Forest

/-! ## Blocks -/

theorem afterPreOpen?_eq_some {s r : Text} (h : afterPreOpen? s = some r) :
    ∃ word rest, s = '<' :: (word ++ rest) ∧ word.map foldLetter = "pre" ∧
      atBoundary rest = true := by
  obtain ⟨s', hs, hname⟩ := Option.bind_eq_some_iff.1 h
  obtain ⟨rest, hletters, hend⟩ := Option.bind_eq_some_iff.1 hname
  obtain ⟨word, rfl, hword⟩ := afterLetters?_eq_some_iff.1 hletters
  refine ⟨word, rest, after?_eq_some_iff.1 hs, hword, ?_⟩
  cases hb : atBoundary rest with
  | true => rfl
  | false =>
    rw [hb] at hend
    cases hend

/-- No tag begins with the name of a preformatted block. -/
theorem preformatted?_name {t : Tag} {name rest : Text} (h : t.Spelled name)
    (hrest : atBoundary rest = true) : preformatted? ('<' :: (name ++ rest)) = none := by
  have hopen : ∀ r, afterPreOpen? ('<' :: (name ++ rest)) ≠ some r := by
    intro r hr
    obtain ⟨word, after, heq, hpre, hafter⟩ := afterPreOpen?_eq_some hr
    have hsame : name ++ rest = word ++ after := (List.cons.inj heq).2
    have hword : ∀ c ∈ word, isWord c = true := by
      intro c hc
      have hmem : foldLetter c ∈ "pre".toList := hpre ▸ List.mem_map_of_mem hc
      exact isWord_of_foldLetter (List.all_eq_true.1 (by decide) _ hmem)
    -- both names are what stands before the first character that is no part of a word
    have hname : name = word := by
      rw [← takeWhile_of_stop h.isWord (atBoundary_iff.1 hrest), hsame,
        takeWhile_of_stop hword (atBoundary_iff.1 hafter)]
    exact t.name_ne_pre (by rw [← h.map_foldLetter, hname, hpre])
  rw [preformatted?, Option.eq_none_iff_forall_ne_some.2 hopen]
  rfl

theorem preformatted?_closing (name rest : Text) :
    preformatted? ('<' :: '/' :: (name ++ rest)) = none := rfl

theorem blocks_plain {s rest : Text} (hs : '<' ∉ s) (hrest : blocks rest = Segment.ofRun rest) :
    blocks (s ++ rest) = Segment.ofRun (s ++ rest) := by
  refine Scanner.segments_append_of_run ?_ hrest
  intro c hc u
  have hangle : c ≠ '<' := fun heq => hs (heq ▸ hc)
  exact preformatted?_of_head hangle

theorem blocks_tag {s rest : Text} (hs : '<' ∉ s)
    (hnone : preformatted? ('<' :: (s ++ rest)) = none) (hrest : blocks rest = Segment.ofRun rest) :
    blocks ('<' :: (s ++ rest)) = Segment.ofRun ('<' :: (s ++ rest)) := by
  have hplain := blocks_plain hs hrest
  rw [blocks] at hplain ⊢
  rw [Scanner.segments_of_none hnone, hplain, Segment.consRun_ofRun]

theorem angle_notMem_tagEnd (slash : Bool) : '<' ∉ tagEnd slash := by
  cases slash <;> decide

theorem Tag.Spelled.angle_notMem {t : Tag} {name : Text} (h : t.Spelled name) : '<' ∉ name := by
  intro hmem
  exact absurd (h.isAlpha '<' hmem) (by decide)

theorem blocks_start (t : StartTag) (slash : Bool) {rest : Text}
    (hrest : blocks rest = Segment.ofRun rest) :
    blocks (t.markup slash ++ rest) = Segment.ofRun (t.markup slash ++ rest) := by
  have hinside : '<' ∉ t.name ++ (t.attributes ++ tagEnd slash) := by
    rw [List.mem_append, List.mem_append]
    rintro (hname | hattributes | hend)
    · exact t.spelled.angle_notMem hname
    · exact t.inside.1 hattributes
    · exact angle_notMem_tagEnd slash hend
  have hstop : atBoundary (t.attributes ++ (tagEnd slash ++ rest)) = true :=
    atBoundary_append t.apart (atBoundary_tagEnd slash rest)
  have hnone := preformatted?_name t.spelled hstop
  rw [StartTag.markup, List.cons_append]
  refine blocks_tag hinside ?_ hrest
  rwa [List.append_assoc, List.append_assoc]

theorem blocks_closing {t : Tag} {name rest : Text} (h : t.Spelled name)
    (hrest : blocks rest = Segment.ofRun rest) :
    blocks (closingMarkup name ++ rest) = Segment.ofRun (closingMarkup name ++ rest) := by
  have hinside : '<' ∉ '/' :: (name ++ tagEnd false) := by
    rw [List.mem_cons, List.mem_append]
    rintro (hslash | hname | hend)
    · exact absurd hslash (by decide)
    · exact h.angle_notMem hname
    · exact angle_notMem_tagEnd false hend
  exact blocks_tag hinside (preformatted?_closing (name ++ tagEnd false) rest) hrest

/-- The markup of a forest has no preformatted blocks. -/
theorem blocks_markup_append (f : Forest) {tail : Text} (h : blocks tail = Segment.ofRun tail) :
    blocks (f.markup ++ tail) = Segment.ofRun (f.markup ++ tail) := by
  induction f generalizing tail with
  | nil => exact h
  | text s plain rest ih =>
    rw [Forest.markup, List.append_assoc]
    exact blocks_plain plain (ih h)
  | element start full ending spelled children rest ihchildren ihrest =>
    rw [Forest.markup, List.append_assoc, List.append_assoc, List.append_assoc]
    exact blocks_start start false (ihchildren (blocks_closing spelled (ihrest h)))
  | leaf start slash empty rest ih =>
    rw [Forest.markup, List.append_assoc]
    exact blocks_start start slash (ih h)

end Bibliography.Markup
