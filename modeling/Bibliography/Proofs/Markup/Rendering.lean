import Bibliography.Proofs.Markup.Reading

/-! # Forests are rendered node by node

The pieces of a forest, taken in one after the other, leave the open tags as they were and write its
rendering: a closing tag finds its own opening tag on top of the stack. So the LaTeX of well-formed
markup is put together from that of its parts, and nothing about it is worth a warning.
-/

namespace Bibliography.Markup
set_option autoImplicit false
open Text Unicode

namespace Conversion
variable (c : Conversion)

theorem emit_nil : c.emit [] = c := by
  rw [emit, List.append_nil]

theorem emit_emit (s t : Text) : (c.emit s).emit t = c.emit (s ++ t) := by
  rw [emit, emit, emit, List.append_assoc]

/-- The tag is opened inside those that are open. -/
def push (t : StartTag) : Conversion :=
  { c with stack := ⟨t.tag, t.delimiters.2⟩ :: c.stack, latex := c.latex ++ t.delimiters.1 }

theorem openTag_push {t : StartTag} (hfull : t.tag.isVoid = false)
    (hroom : c.stack.length < maxDepth) : c.openTag t.tag t.attributes false = c.push t := by
  unfold openTag
  dsimp only
  rw [if_neg (by simp [hfull]), if_neg (by simp), if_neg (by omega)]
  rfl

theorem closing_of_isVoid {t : StartTag} (h : t.tag.isVoid = true) : t.delimiters.2 = [] := by
  have hspan : t.tag ≠ .span := by
    intro hspan
    rw [hspan] at h
    cases h
  rw [StartTag.delimiters, delimiters, if_neg (by simp [hspan])]
  cases htag : t.tag with
  | lineBreak => rfl
  | longBreak => rfl
  | _ => simp [htag, Tag.isVoid] at h

theorem openTag_leaf {t : StartTag} {slash : Bool} (h : t.tag.isVoid = true ∨ slash = true) :
    c.openTag t.tag t.attributes slash = c.emit (t.delimiters.1 ++ t.delimiters.2) := by
  unfold openTag
  dsimp only
  split
  · next hvoid =>
    rw [closing_of_isVoid hvoid, List.append_nil]
    rfl
  · next hfull =>
    rw [if_pos (h.resolve_left hfull), emit_emit]
    rfl

/-- The innermost tag is closed without a warning. -/
theorem closeTag_push (t : StartTag) (s : Text) :
    ((c.push t).emit s).closeTag t.tag = c.emit (t.delimiters.1 ++ s ++ t.delimiters.2) := by
  unfold closeTag
  dsimp only
  simp [push, emit, closings]

theorem foldl_ofRun (mode : Latex.Mode) (s : Text) :
    (Segment.ofRun s).foldl (step mode) c = c.emit (escapeRun mode s) := by
  cases s with
  | nil =>
    have hnil : escapeRun mode [] = [] := collapseGroups_nil
    rw [hnil, emit_nil]
    rfl
  | cons d s => rfl

/-- The pieces of a forest write its rendering, whatever tags are open around it. -/
theorem foldl_pieces (mode : Latex.Mode) (f : Forest) (h : c.stack.length + f.depth ≤ maxDepth) :
    f.pieces.foldl (step mode) c = c.emit (f.render mode) := by
  induction f generalizing c with
  | nil => exact (emit_nil c).symm
  | text s plain rest ih =>
    rw [Forest.pieces, List.foldl_append, foldl_ofRun, ih (c.emit (escapeRun mode s)) h, emit_emit]
    rfl
  | element start full ending spelled children rest ihchildren ihrest =>
    rw [Forest.depth] at h
    have hopen : step mode c (.found (.opening start.tag start.attributes false)) = c.push start :=
      c.openTag_push full (by omega)
    have hchildren : children.pieces.foldl (step mode) (c.push start) =
        (c.push start).emit (children.render mode) := by
      refine ihchildren (c.push start) ?_
      show c.stack.length + 1 + children.depth ≤ maxDepth
      omega
    have hclose : step mode ((c.push start).emit (children.render mode))
        (.found (.closing start.tag)) =
          c.emit (start.delimiters.1 ++ children.render mode ++ start.delimiters.2) :=
      c.closeTag_push start (children.render mode)
    have hrest : c.stack.length + rest.depth ≤ maxDepth := by omega
    rw [Forest.pieces, List.foldl_cons, hopen, List.foldl_append, hchildren, List.foldl_cons,
      hclose,
      ihrest (c.emit (start.delimiters.1 ++ children.render mode ++ start.delimiters.2)) hrest,
      emit_emit]
    rfl
  | leaf start slash empty rest ih =>
    have hleaf : step mode c (.found (.opening start.tag start.attributes slash)) =
        c.emit (start.delimiters.1 ++ start.delimiters.2) := c.openTag_leaf empty
    rw [Forest.pieces, List.foldl_cons, hleaf,
      ih (c.emit (start.delimiters.1 ++ start.delimiters.2)) h, emit_emit]
    rfl

end Conversion

/-! ## Conversions -/

theorem foldl_block_ofRun (mode : Latex.Mode) (s : Text) (c : Conversion) :
    (Segment.ofRun s).foldl (Conversion.block mode) c =
      (pieces s).foldl (Conversion.step mode) c := by
  cases s with
  | nil => rw [pieces, Scanner.segments]; rfl
  | cons d s => rfl

/-- Well-formed markup is converted to its rendering. -/
theorem convert_markup (mode : Latex.Mode) {f : Forest} (hseparated : f.separated = true)
    (hdepth : f.depth ≤ maxDepth) : convert mode f.markup = ⟨[], [], f.render mode⟩ := by
  have hnil : blocks [] = Segment.ofRun [] := by
    rw [blocks, Scanner.segments]
    rfl
  have hblocks := blocks_markup_append f hnil
  rw [List.append_nil] at hblocks
  have hroom : Conversion.start.stack.length + f.depth ≤ maxDepth := by
    show 0 + f.depth ≤ maxDepth
    omega
  have hsteps := Conversion.start.foldl_pieces mode f hroom
  rw [convert, hblocks, foldl_block_ofRun, Forest.pieces_markup hseparated, hsteps]
  rfl

/-- Well-formed markup is converted without a warning, and what it is converted to is what the rules
of its nodes put together. -/
theorem convert_markup_renders (mode : Latex.Mode) (f : Forest) (hseparated : f.separated = true)
    (hdepth : f.depth ≤ maxDepth) :
    (convert mode f.markup).warnings = [] ∧
      ∀ latex, f.Renders mode latex ↔ latex = (convert mode f.markup).latex := by
  rw [convert_markup mode hseparated hdepth]
  exact ⟨rfl, fun _ => Forest.renders_iff⟩

/-- A title with a line break and small capitals inside italics, and a tag that closes itself. -/
def mixedTitle : Forest :=
  .element ⟨.italic, "I", " lang='en'", by decide, by decide, by decide, by decide⟩ rfl "i"
    (by decide)
    (.text "p > q" (by decide) <|
      .leaf ⟨.lineBreak, "BR", [], by decide, by decide, by decide, by decide⟩ true (.inl rfl) <|
      .element ⟨.span, "Span", " style='Small-Caps'", by decide, by decide, by decide, by decide⟩
        rfl "sPAN" (by decide) (.text "Nasa" (by decide) .nil) .nil) <|
    .leaf ⟨.bold, "b", [], by decide, by decide, by decide, by decide⟩ true (.inr rfl) .nil

example : mixedTitle.markup =
    "<I lang='en'>p > q<BR/><Span style='Small-Caps'>Nasa</sPAN></i><b/>".toList := by
  decide

theorem convert_mixedTitle :
    mixedTitle.separated = true ∧ mixedTitle.depth ≤ maxDepth ∧
      (convert .unicode mixedTitle.markup).warnings = [] ∧
        mixedTitle.Renders .unicode
          (r"\emph{p \textgreater q" ++ "\n\n" ++ r"\textsc{Nasa}}\textbf{}") := by
  have hseparated : mixedTitle.separated = true := by decide
  have hdepth : mixedTitle.depth ≤ maxDepth := by decide
  obtain ⟨hwarnings, hlatex⟩ :=
    convert_markup_renders .unicode mixedTitle hseparated hdepth
  exact ⟨hseparated, hdepth, hwarnings, (hlatex _).2 (by decide +kernel)⟩

end Bibliography.Markup
