import Bibliography.Proofs.Latex.Decode
import Bibliography.Proofs.Markup.Rendering

/-! # Texts that stay as they are

A character without a spelling is kept, unless it is not ASCII where the output must be. A text of
such characters holds no angle bracket, so it has no markup, and no brace, so it has no group:
converting it gives it back.
-/

namespace Bibliography
set_option autoImplicit false
open Unicode

namespace Latex
variable {mode : Mode}

/-- A character that is written as it stands. -/
def Kept (mode : Mode) (c : Char) : Prop := spelling? mode c = none ∧ plainChar mode c = [c]

theorem kept_of_isAlphanum {c : Char} (h : c.isAlphanum = true) : Kept mode c := by
  have hcode := toNat_of_isAlphanum h
  refine ⟨?_, if_neg fun hlarge => by omega⟩
  cases hs : spelling? mode c with
  | none => rfl
  | some s =>
    have hkey := (key_of_mem (mem_asciiSpelled hs)).1
    rw [h] at hkey
    cases hkey

/-- Where any character may be written, all are kept but those with a meaning in LaTeX. -/
theorem kept_of_notMem {c : Char} (h : c ∉ specials.map Prod.fst) : Kept .unicode c := by
  refine ⟨List.lookup_eq_none_iff.2 fun p hp => ?_, if_neg fun hascii => by cases hascii.1⟩
  obtain ⟨q, hq, rfl⟩ := List.mem_map.1 hp
  have hne : c ≠ q.1 := fun heq => h (heq.symm ▸ List.mem_map_of_mem hq)
  exact bne_iff_ne.2 hne

theorem escape_eq_self {s : Text} (h : ∀ c ∈ s, Kept mode c) : escape mode s = s := by
  unfold escape
  induction s with
  | nil => rfl
  | cons c s ih =>
    rw [List.forall_mem_cons] at h
    rw [escapeFrom, h.1.1]
    dsimp only
    rw [h.1.2, ih h.2]
    rfl

end Latex

namespace Markup
open Latex
variable {mode : Mode}

theorem collapseGroups_eq_self {s : Text} (h : '{' ∉ s) : collapseGroups s = s := by
  have happend := collapseGroups_append_of_notMem h []
  rwa [List.append_nil, collapseGroups_nil, List.append_nil] at happend

theorem toLatex_eq_self {s : Text} (h : ∀ c ∈ s, Kept mode c) : toLatex mode s = s := by
  have hangle : '<' ∉ s := fun hmem => absurd (h '<' hmem).1 (by cases mode <;> decide)
  have hbrace : '{' ∉ s := fun hmem => absurd (h '{' hmem).1 (by cases mode <;> decide)
  have hrun : escapeRun mode s = s := by
    rw [escapeRun, escape_eq_self h, collapseGroups_eq_self hbrace]
  have hconvert := convert_markup mode (f := .text s hangle .nil) rfl (Nat.zero_le _)
  rw [Forest.markup, Forest.markup, List.append_nil, Forest.render, hrun, Forest.render,
    List.append_nil] at hconvert
  rw [toLatex, hconvert]

end Markup
end Bibliography
