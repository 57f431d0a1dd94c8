import Bibliography.Proofs.Latex.Rules

/-! # Escaped text, character by character

An escaped text is what its characters are spelled as, one after the other, with a group around each
run of mathematics. The commands that are held back until the run ends are those of the run.
-/

namespace Bibliography.Latex
set_option autoImplicit false

/-- What stands where a run of mathematics begins or ends. -/
def boundary : Bool → Bool → Text
  | false, true => mathOpen
  | true, false => ['}']
  | _, _ => []

/-- The characters of a text in the way they are written, each run of mathematics in a group. -/
def grouped (isMath : Char → Bool) (write : Char → Text) (inMath : Bool) : Text → Text
  | [] => boundary inMath false
  | c :: s =>
    boundary inMath (isMath c) ++ (write c ++ grouped isMath write (isMath c) s)

theorem grouped_congr {isMath : Char → Bool} {write write' : Char → Text} {s : Text}
    (h : ∀ c ∈ s, write c = write' c) (inMath : Bool) :
    grouped isMath write inMath s = grouped isMath write' inMath s := by
  induction s generalizing inMath with
  | nil => rfl
  | cons c s ih =>
    rw [List.forall_mem_cons] at h
    rw [grouped, grouped, h.1, ih h.2]

def isMath (mode : Mode) (c : Char) : Bool := (spelling? mode c).any Spelling.math

/-- The spelling of a character, where it needs none the character itself. -/
def spell (mode : Mode) (c : Char) : Text :=
  match spelling? mode c with
  | some s => s.latex
  | none => plainChar mode c

theorem mathGroup_eq (pending : Text) :
    mathGroup pending =
      boundary false (!pending.isEmpty) ++ (pending ++ boundary (!pending.isEmpty) false) := by
  cases pending with
  | nil => rfl
  | cons c pending => simp [mathGroup, boundary]

/-- The commands that are held back stand before the text, in the group that they share with it. -/
theorem escapeFrom_eq_grouped (mode : Mode) (pending s : Text) :
    escapeFrom mode pending s = boundary false (!pending.isEmpty) ++
      (pending ++ grouped (isMath mode) (spell mode) (!pending.isEmpty) s) := by
  induction s generalizing pending with
  | nil => exact mathGroup_eq pending
  | cons c s ih =>
    rw [escapeFrom, grouped, isMath, spell]
    cases hspelling : spelling? mode c with
    | none =>
      dsimp only
      rw [ih, mathGroup_eq, Option.any_none]
      simp [boundary]
    | some spelling =>
      dsimp only
      rw [Option.any_some]
      cases hmath : spelling.math with
      | false =>
        rw [if_neg Bool.false_ne_true, ih, mathGroup_eq]
        simp [boundary]
      | true =>
        have hne := ne_nil_of_math hspelling hmath
        obtain ⟨d, latex, hlatex⟩ := List.exists_cons_of_ne_nil hne
        rw [if_pos rfl, ih, hlatex]
        cases pending with
        | nil => simp [boundary]
        | cons e pending => simp [boundary]

theorem escape_eq_grouped (mode : Mode) (s : Text) :
    escape mode s = grouped (isMath mode) (spell mode) false s :=
  escapeFrom_eq_grouped mode [] s

end Bibliography.Latex
