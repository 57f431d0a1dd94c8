import Bibliography.Proofs.Latex.MathRuns
import Bibliography.Proofs.Markup.Parts
import Mathlib.Algebra.GroupWithZero.Nat

/-! # What becomes of the text

The text between the tags of the vocabulary comes out whole exactly if no tag has a long s in its
name: such a tag is no tag of the vocabulary, and yet it is dropped. That it is missed shows in the
letter l, which is in the spelling of an angle bracket and in nothing that opens or closes a tag.
-/

namespace Bibliography.Markup
set_option autoImplicit false
open Text Unicode

/-! ## Texts without misspelled tags -/

theorem HasNoTag.pieces {s : Text} (h : HasNoTag s) (hnone : .found .ignored ∉ Markup.pieces s) :
    Markup.pieces s = Segment.ofRun s := by
  refine Scanner.segments_eq_ofRun fun tok htok => ?_
  obtain ⟨source, hinfix, hvocabulary, -⟩ := exists_tag_of_mem_pieces htok
  exact h source (hvocabulary fun heq => hnone (heq ▸ htok)) hinfix

section
variable {mode : Latex.Mode}

theorem Shows.of_run {s out : Text} (h : Shows mode ((Segment.ofRun s).map piecePart) out) :
    Shows mode [.text s] out := by
  cases s with
  | nil =>
    cases h
    have hempty : escapeRun mode [] = [] := collapseGroups_nil
    have htext : Shows mode [.text []] (escapeRun mode [] ++ []) := .text .nil
    rwa [hempty] at htext
  | cons c s => exact h

theorem Shows.of_pieces {s out : Text} {ps : List Part} (h : CutAtTags s ps)
    (hnone : .found .ignored ∉ pieces s) (hout : Shows mode ((pieces s).map piecePart) out) :
    Shows mode ps out := by
  induction h generalizing out with
  | last hs =>
    rw [hs.pieces hnone] at hout
    exact hout.of_run
  | @tag before source after ps hbefore htag hafter ih =>
    obtain ⟨tok, -, hpieces⟩ := htag.pieces before after
    rw [hpieces] at hnone hout
    rw [List.mem_append, List.mem_cons, not_or, not_or] at hnone
    rw [List.map_append, shows_append_iff, hbefore.pieces hnone.1] at hout
    obtain ⟨first, rest, rfl, hfirst, hrest⟩ := hout
    cases hrest with
    | tag hd hrest => exact hfirst.of_run.append (.tag hd (ih hnone.2.2 hrest))

theorem Shows.of_blocks {bs : List (Segment Text)} {s out : Text} {ps : List Part}
    (h : CutBlocks bs s ps) (hnone : ∀ u, .run u ∈ bs → .found .ignored ∉ pieces u)
    (hout : Shows mode (bs.flatMap blockParts) out) : Shows mode ps out := by
  induction h generalizing out with
  | nil => exact hout
  | markup hu _ ih =>
    rw [List.flatMap_cons, shows_append_iff] at hout
    obtain ⟨first, rest, rfl, hfirst, hrest⟩ := hout
    have hrun := Shows.of_pieces hu (hnone _ (List.mem_cons_self ..)) hfirst
    exact hrun.append (ih (fun u hu => hnone u (List.mem_cons_of_mem _ hu)) hrest)
  | preformatted _ _ ih =>
    rw [List.flatMap_cons, shows_append_iff] at hout
    obtain ⟨first, rest, rfl, hfirst, hrest⟩ := hout
    exact hfirst.append (ih (fun u hu => hnone u (List.mem_cons_of_mem _ hu)) hrest)

end

theorem keepsText_of_notMem {mode : Latex.Mode} {s : Text}
    (h : ∀ u, .run u ∈ blocks s → .found .ignored ∉ pieces u) : KeepsText mode s := by
  obtain ⟨ps, hps⟩ := exists_cut s
  obtain ⟨out, closings, hout, hclosings, hlatex⟩ := exists_shows mode s
  exact ⟨ps, out, closings, hps, .of_blocks hps h hout, hclosings, hlatex⟩

/-! ## The letter l -/

theorem count_of_delimiting {d : Text} (h : Delimiting d) : d.count 'l' = 0 := by
  induction h with
  | nil => rfl
  | @cons d out hd _ ih =>
    obtain ⟨tag, attributes, hd⟩ := hd
    have hfree : 'l' ∉ (Conversion.delimiters tag attributes).1 ∧
        'l' ∉ (Conversion.delimiters tag attributes).2 := by
      unfold Conversion.delimiters
      split
      · exact ⟨by decide, by decide⟩
      · cases tag <;> exact ⟨by decide, by decide⟩
    rw [List.count_append, ih, Nat.add_zero, List.count_eq_zero]
    rcases hd with rfl | rfl
    · exact hfree.1
    · exact hfree.2

theorem count_collapses {s t : Text} (h : Collapses s t) : t.count 'l' = s.count 'l' := by
  induction h with
  | nil => rfl
  | @group blanks s t _ hblanks _ _ ih =>
    have hnone : blanks.count 'l' = 0 := by
      rw [List.count_eq_zero]
      exact fun hmem => absurd (hblanks 'l' hmem) (by decide)
    simp [hnone, ih]
  | @other c s t _ _ ih => simp [List.count_cons, ih]

theorem count_escapeRun (mode : Latex.Mode) (s : Text) :
    (escapeRun mode s).count 'l' = (Latex.escape mode s).count 'l' :=
  count_collapses (collapses_collapseGroups _)

theorem count_escape_append (mode : Latex.Mode) (s t : Text) :
    (Latex.escape mode (s ++ t)).count 'l' =
      (Latex.escape mode s).count 'l' + (Latex.escape mode t).count 'l' := by
  have hboundary : ∀ ends begins, (Latex.boundary ends begins).count 'l' = 0 := by decide
  obtain ⟨before, after, hs, ht, hst⟩ := Latex.exists_escape_append mode s t
  simp [hs, ht, hst, hboundary]

theorem one_le_count_escape (mode : Latex.Mode) (s : Text) :
    1 ≤ (Latex.escape mode ('<' :: s)).count 'l' := by
  have hspelling : Latex.spelling? mode '<' = some ⟨r"\textless{}".toList, false⟩ := by
    cases mode <;> rfl
  have hletter : r"\textless{}".toList.count 'l' = 1 := by decide
  have hstep : Latex.escape mode ('<' :: s) =
      r"\textless{}".toList ++ Latex.escape mode s := by
    rw [Latex.escape, Latex.escapeFrom, hspelling]
    rfl
  rw [hstep, List.count_append, hletter]
  omega

/-- How often the letter is shown in a part that is shown. -/
def Part.letters (mode : Latex.Mode) : Part → Nat
  | .text s => (Latex.escape mode s).count 'l'
  | .tag => 0
  | .preformatted content => content.count 'l'

def letters (mode : Latex.Mode) (ps : List Part) : Nat := (ps.map (Part.letters mode)).sum

def droppedTags : Segment Text → Nat
  | .run u => (pieces u).count (.found .ignored)
  | .found _ => 0

section
variable {mode : Latex.Mode}

theorem letters_append (ps qs : List Part) :
    letters mode (ps ++ qs) = letters mode ps + letters mode qs := by
  rw [letters, List.map_append, List.sum_append]
  rfl

theorem letters_cons (p : Part) (ps : List Part) :
    letters mode (p :: ps) = p.letters mode + letters mode ps := rfl

theorem Shows.count {ps : List Part} {out : Text} (h : Shows mode ps out) :
    out.count 'l' = letters mode ps := by
  induction h with
  | nil => rfl
  | text _ ih => rw [List.count_append, count_escapeRun, ih, letters_cons, Part.letters]
  | tag hd _ ih => rw [List.count_append, count_of_delimiting hd, ih, letters_cons, Part.letters]
  | preformatted _ ih => rw [List.count_append, ih, letters_cons, Part.letters]

variable (mode) in
theorem letters_pieces (s : Text) :
    letters mode ((pieces s).map piecePart) + (pieces s).count (.found .ignored) ≤
      (Latex.escape mode s).count 'l' := by
  have hreads : ∀ {ps : List (Segment Token)} {s : Text}, token.Reads ps s →
      letters mode (ps.map piecePart) + ps.count (.found .ignored) ≤
        (Latex.escape mode s).count 'l' := by
    intro ps s h
    induction h with
    | nil => exact Nat.zero_le _
    | run _ ih =>
      rw [List.map_cons, letters_cons, count_escape_append, piecePart, Part.letters,
        List.count_cons_of_ne (by simp)]
      omega
    | @found tok source rest ps htest _ ih =>
      obtain ⟨name, tag, -, htag, hsource⟩ := exists_tagOf htest
      obtain ⟨inner, rfl⟩ := htag.eq_cons
      obtain rfl := List.append_cancel_right hsource
      have hangle := one_le_count_escape mode inner
      have hone : (Segment.found tok :: ps).count (.found .ignored) ≤
          ps.count (.found .ignored) + 1 := by
        rw [List.count_cons]
        split <;> omega
      rw [List.map_cons, letters_cons, count_escape_append, piecePart, Part.letters]
      omega
  exact hreads (reads_pieces s)

variable (mode) in
theorem CutAtTags.letters {s : Text} {ps : List Part} (h : CutAtTags s ps) :
    letters mode ((pieces s).map piecePart) + (pieces s).count (.found .ignored) ≤
      Markup.letters mode ps := by
  induction h with
  | @last s _ => exact letters_pieces mode s
  | @tag before source after ps _ htag _ ih =>
    obtain ⟨tok, htok, hpieces⟩ := htag.pieces before after
    have hbefore := letters_pieces mode before
    have hcount : (Segment.found tok :: Markup.pieces after).count (.found .ignored) =
        (Markup.pieces after).count (.found .ignored) :=
      List.count_cons_of_ne (by simpa using htok)
    rw [hpieces, List.map_append, letters_append, List.map_cons, letters_cons, List.count_append,
      hcount, letters_cons, letters_cons, piecePart, Part.letters, Part.letters]
    omega

variable (mode) in
theorem CutBlocks.letters {bs : List (Segment Text)} {s : Text} {ps : List Part}
    (h : CutBlocks bs s ps) :
    letters mode (bs.flatMap blockParts) + (bs.map droppedTags).sum ≤ Markup.letters mode ps := by
  induction h with
  | nil => exact Nat.le_refl _
  | @markup bs u s ps qs hu _ ih =>
    have hrun := hu.letters mode
    rw [List.flatMap_cons, letters_append, letters_append, List.map_cons, List.sum_cons, blockParts,
      droppedTags]
    omega
  | preformatted _ _ ih =>
    rw [List.flatMap_cons, letters_append, blockParts, letters_cons, letters_cons, List.map_cons,
      List.sum_cons, droppedTags, Markup.letters]
    simp only [List.map_nil, List.sum_nil]
    omega

theorem not_keepsText {s u : Text} (hu : .run u ∈ blocks s)
    (hdropped : .found .ignored ∈ pieces u) : ¬KeepsText mode s := by
  rintro ⟨ps, out, closings, hps, hout, hclosings, hlatex⟩
  obtain ⟨out', closings', hout', hclosings', hlatex'⟩ := exists_shows mode s
  have hsame : letters mode ps = letters mode (foundParts s) := by
    have hcount := congrArg (List.count 'l') (hlatex.symm.trans hlatex')
    rwa [List.count_append, List.count_append, count_of_delimiting hclosings,
      count_of_delimiting hclosings', hout.count, hout'.count] at hcount
  have hfewer := hps.letters mode
  have hdrops : 0 < ((blocks s).map droppedTags).sum :=
    List.sum_pos_iff_exists_pos_nat.2
      ⟨_, List.mem_map_of_mem hu, List.count_pos_iff.2 hdropped⟩
  rw [foundParts] at hsame
  omega

end

/-- The text between the tags comes out whole, in its order, if and only if no tag outside the
preformatted blocks is misspelled with a long s. -/
theorem keepsText_iff (mode : Latex.Mode) (s : Text) :
    KeepsText mode s ↔
      ∀ u source, .run u ∈ blocks s → source <:+: u → ¬IsMisspelledTag source := by
  constructor
  · intro hkeeps u source hu hsource hmisspelled
    exact not_keepsText hu (hmisspelled.mem_pieces hsource) hkeeps
  · intro hnone
    refine keepsText_of_notMem fun u hu hdropped => ?_
    obtain ⟨source, hsource, -, hmisspelled⟩ := exists_tag_of_mem_pieces hdropped
    exact hnone u source hu hsource (hmisspelled rfl)

/-- A tag with a long s is no tag of the vocabulary, and is lost. -/
theorem not_keepsText_longS : ¬∀ mode s, KeepsText mode s := by
  intro hkeeps
  have hblocks : .run "<ſup>x".toList ∈ blocks "<ſup>x".toList := by
    have h : blocks "<ſup>x".toList = [.run "<ſup>x".toList] := by cbv
    rw [h]
    exact List.mem_singleton.2 rfl
  have hpieces : .found .ignored ∈ pieces "<ſup>x".toList := by
    have h : pieces "<ſup>x".toList = [.found .ignored, .run ['x']] := by cbv
    rw [h]
    exact List.mem_cons_self ..
  exact not_keepsText hblocks hpieces (hkeeps .unicode _)

end Bibliography.Markup
