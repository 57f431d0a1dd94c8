import Bibliography.Proofs.Markup.Ledger
import Bibliography.Proofs.Markup.Parts
import Bibliography.Proofs.Text.Pieces
import Bibliography.Proofs.Unicode.Ascii

/-! # The two modes

The modes differ in how they spell characters that are not ASCII, and in nothing else: the tags of a
text are the same in both, and so are the warnings. What a conversion writes is the same if the text
between the tags is ASCII.
-/

namespace Bibliography
set_option autoImplicit false
open Text Unicode

/-! ## Escaped text -/

namespace Latex

theorem keys_beyond_ascii : ((spelled false (letters ++ signs) ++
    spelled true (greekLetters ++ symbols)).all fun p => decide (0x80 ≤ p.1.toNat)) = true := by
  decide

theorem spelling?_modes {c : Char} (h : c.toNat < 0x80) :
    spelling? .ascii c = spelling? .unicode c := by
  have hnone : (spelled false (letters ++ signs) ++
      spelled true (greekLetters ++ symbols)).lookup c = none := by
    rw [List.lookup_eq_none_iff]
    intro p hp
    have hbeyond := of_decide_eq_true (List.all_eq_true.1 keys_beyond_ascii p hp)
    have hne : c ≠ p.1 := by
      rintro rfl
      omega
    simpa using hne
  show asciiSpelled.lookup c = alwaysSpelled.lookup c
  rw [asciiSpelled, List.append_assoc, List.lookup_append, hnone, Option.or_none]

theorem plainChar_modes {c : Char} (h : c.toNat < 0x80) :
    plainChar .ascii c = plainChar .unicode c := by
  have hbelow : ¬0x80 ≤ c.toNat := Nat.not_le.2 h
  simp [plainChar, hbelow]

theorem escapeFrom_modes {s : Text} (h : IsAscii s) (pending : Text) :
    escapeFrom .ascii pending s = escapeFrom .unicode pending s := by
  induction s generalizing pending with
  | nil => rfl
  | cons c s ih =>
    rw [isAscii_cons] at h
    rw [escapeFrom, escapeFrom, spelling?_modes h.1, plainChar_modes h.1]
    cases spelling? .unicode c with
    | none => simp only [ih h.2]
    | some spelling => simp only [ih h.2]

end Latex

namespace Markup

/-! ## Conversions -/

theorem isAscii_of_infix {s u : Text} (hs : IsAscii s) (h : u <:+: s) : IsAscii u :=
  fun c hc => hs c (h.subset hc)

theorem step_modes {s : Text} (h : IsAscii s) (c : Conversion) {p : Segment Token}
    (hp : p ∈ pieces s) : c.step .ascii p = c.step .unicode p := by
  cases p with
  | run u =>
    have hrun : IsAscii u := isAscii_of_infix h ((reads_pieces s).infix_of_run hp)
    show c.emit (collapseGroups (Latex.escapeFrom .ascii [] u)) = _
    rw [Latex.escapeFrom_modes hrun]
    rfl
  | found t => cases t <;> rfl

/-- A conversion takes in a block the same way in both modes if the markup in it is ASCII. -/
theorem block_modes (c : Conversion) {b : Segment Text} (h : ∀ u, b = .run u → IsAscii u) :
    c.block .ascii b = c.block .unicode b := by
  cases b with
  | run u => exact List.foldl_ext _ _ c fun c p hp => step_modes (h u rfl) c hp
  | found content => rfl

theorem convert_of_isAscii {s : Text} (h : ∀ u, .run u ∈ blocks s → IsAscii u) :
    convert .ascii s = convert .unicode s := by
  have hblocks : (blocks s).foldl (Conversion.block .ascii) Conversion.start =
      (blocks s).foldl (Conversion.block .unicode) Conversion.start :=
    List.foldl_ext _ _ _ fun c b hb => block_modes c fun u hu => h u (hu ▸ hb)
  rw [convert, convert, hblocks]

theorem isAscii_of_run_mem_blocks {s u : Text} (h : IsAscii s) (hu : .run u ∈ blocks s) :
    IsAscii u :=
  isAscii_of_infix h ((Scanner.reads_segments suffix_of_preformatted? s).infix_of_run hu)

/-- A conversion warns of the same in both modes, and of an ASCII text it makes the same LaTeX. -/
theorem convert_modes (s : Text) :
    (convert .unicode s).warnings = (convert .ascii s).warnings ∧
      (IsAscii s → (convert .unicode s).latex = (convert .ascii s).latex) := by
  refine ⟨?_, fun h => ?_⟩
  · rw [warnings_convert, warnings_convert]
  · rw [convert_of_isAscii fun u hu => isAscii_of_run_mem_blocks h hu]

/-- Characters with a meaning in LaTeX, between tags that cross, behind a block that stays open. -/
theorem convert_modes_crossing :
    IsAscii r"<pre><i>50% & <b>a~ \ b</i> {</p>" ∧
      (convert .unicode r"<pre><i>50% & <b>a~ \ b</i> {</p>").latex =
        (convert .ascii r"<pre><i>50% & <b>a~ \ b</i> {</p>").latex := by
  have hascii : IsAscii r"<pre><i>50% & <b>a~ \ b</i> {</p>" := by decide
  exact ⟨hascii, (convert_modes _).2 hascii⟩

end Markup
end Bibliography
