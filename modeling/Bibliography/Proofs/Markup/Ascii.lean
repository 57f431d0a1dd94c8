import Bibliography.Proofs.Latex.Ascii
import Bibliography.Proofs.Markup.Parts

/-! # Converted markup is ASCII

In ASCII mode a conversion writes escaped runs, what opens and closes tags, and preformatted blocks.
Only the blocks can bring other characters along, and they do so whatever the tags around them are.
-/

namespace Bibliography.Markup
set_option autoImplicit false
open Text Unicode Latex

/-! ## Runs and tags -/

theorem isAscii_of_collapses {s t : Text} (h : Collapses s t) (hs : IsAscii s) : IsAscii t := by
  induction h with
  | nil => exact isAscii_nil
  | group _ _ _ _ ih =>
    rw [isAscii_cons, isAscii_cons, isAscii_append] at hs
    exact isAscii_cons.2 ⟨by decide, ih hs.2.2.2⟩
  | other _ _ ih =>
    rw [isAscii_cons] at hs
    exact isAscii_cons.2 ⟨hs.1, ih hs.2⟩

theorem isAscii_escapeRun (s : Text) : IsAscii (escapeRun .ascii s) :=
  isAscii_of_collapses (collapses_collapseGroups _) (isAscii_escape s)

theorem isAscii_of_isDelimiter {d : Text} (h : IsDelimiter d) : IsAscii d := by
  obtain ⟨tag, attributes, hd⟩ := h
  have hascii : IsAscii (Conversion.delimiters tag attributes).1 ∧
      IsAscii (Conversion.delimiters tag attributes).2 := by
    unfold Conversion.delimiters
    split
    · exact ⟨by decide, by decide⟩
    · cases tag <;> exact ⟨by decide, by decide⟩
  rcases hd with rfl | rfl
  · exact hascii.1
  · exact hascii.2

theorem isAscii_of_delimiting {d : Text} (h : Delimiting d) : IsAscii d := by
  induction h with
  | nil => exact isAscii_nil
  | cons hd _ ih => exact (isAscii_of_isDelimiter hd).append ih

/-! ## What is shown -/

/-- What is shown of some parts is ASCII if the preformatted ones among them are. -/
theorem Shows.isAscii_iff {ps : List Part} {out : Text} (h : Shows .ascii ps out) :
    IsAscii out ↔ ∀ content, .preformatted content ∈ ps → IsAscii content := by
  induction h with
  | nil => simp [isAscii_nil]
  | @text s out ps _ ih => simp [isAscii_append, isAscii_escapeRun, ih]
  | @tag d out ps hd _ ih => simp [isAscii_append, isAscii_of_delimiting hd, ih]
  | @preformatted content out ps _ ih => simp [isAscii_append, ih]

theorem preformatted_mem_foundParts_iff {s content : Text} :
    .preformatted content ∈ foundParts s ↔ Segment.found content ∈ blocks s := by
  rw [foundParts, List.mem_flatMap]
  constructor
  · rintro ⟨b, hb, hpart⟩
    cases b with
    | run u =>
      obtain ⟨p, -, hp⟩ := List.mem_map.1 hpart
      cases p <;> cases hp
    | found content' =>
      cases List.mem_singleton.1 hpart
      exact hb
  · exact fun hb => ⟨_, hb, List.mem_singleton_self _⟩

/-! ## Conversions -/

/-- The preformatted blocks of a text, which are passed through, are ASCII. -/
def AsciiBlocks (s : Text) : Prop := ∀ content, Segment.found content ∈ blocks s → IsAscii content

instance (s : Text) : Decidable (AsciiBlocks s) :=
  decidable_of_iff (∀ content ∈ (blocks s).filterMap content?, IsAscii content) (by
    simp only [AsciiBlocks, List.mem_filterMap, content?_eq_some_iff, exists_eq_right])

theorem asciiBlocks_of_notMem {s : Text} (h : '<' ∉ s) : AsciiBlocks s :=
  fun content hcontent => absurd hcontent (found_notMem_blocks h content)

theorem isAscii_toLatex_iff (s : Text) : IsAscii (toLatex .ascii s) ↔ AsciiBlocks s := by
  obtain ⟨out, closings, hout, hclosings, hlatex⟩ := exists_shows .ascii s
  rw [toLatex, hlatex, isAscii_append, hout.isAscii_iff]
  simp only [preformatted_mem_foundParts_iff, isAscii_of_delimiting hclosings, and_true]
  exact Iff.rfl

/-- In ASCII mode escaped text is ASCII, and converted text is exactly if its preformatted blocks
are. -/
theorem isAscii_convert_iff (s : Text) :
    IsAscii (escape .ascii s) ∧
      (IsAscii (convert .ascii s).latex ↔
        ∀ content, Segment.found content ∈ blocks s → IsAscii content) :=
  ⟨isAscii_escape s, isAscii_toLatex_iff s⟩

/-- Accents outside of a block are spelled, and one inside a block is passed through. -/
theorem isAscii_convert_accents :
    IsAscii (escape .ascii "é <pre>") ∧
      IsAscii (convert .ascii "é <pre>e</pre>").latex ∧
      ¬IsAscii (convert .ascii "e <pre>é</pre>").latex := by
  have hblocks : AsciiBlocks "é <pre>e</pre>" := by decide +kernel
  have hblock : .found "é".toList ∈ blocks "e <pre>é</pre>" := by decide +kernel
  have haccent : ¬IsAscii "é".toList := by decide
  refine ⟨(isAscii_convert_iff "é <pre>").1, (isAscii_convert_iff _).2.2 hblocks, ?_⟩
  exact fun h => haccent ((isAscii_convert_iff _).2.1 h _ hblock)

end Bibliography.Markup
