import Bibliography.Latex.Accent

/-! # Escaping text for LaTeX

Every character that needs a spelling gets it. Neighbouring characters that belong in math mode
share one group.
-/

namespace Bibliography.Latex
set_option autoImplicit false

/-- What opens a group in math mode. -/
def mathOpen : Text := r"\ensuremath{"

/-- A group in math mode; an empty one is not written. -/
def mathGroup (pending : Text) : Text :=
  if pending.isEmpty then [] else mathOpen ++ pending ++ r"}"

/-- A character that needs no spelling from the tables. -/
def plainChar (mode : Mode) (c : Char) : Text :=
  if mode = .ascii ∧ 0x80 ≤ c.toNat then spellOut c else [c]

/-- Escapes a text, with the commands of the math group that is still open. -/
def escapeFrom (mode : Mode) (pending : Text) : Text → Text
  | [] => mathGroup pending
  | c :: cs =>
    match spelling? mode c with
    | some s =>
      if s.math then escapeFrom mode (pending ++ s.latex) cs
      else mathGroup pending ++ s.latex ++ escapeFrom mode [] cs
    | none => mathGroup pending ++ plainChar mode c ++ escapeFrom mode [] cs

/-- A text without markup, escaped. -/
def escape (mode : Mode) (s : Text) : Text := escapeFrom mode [] s

end Bibliography.Latex
