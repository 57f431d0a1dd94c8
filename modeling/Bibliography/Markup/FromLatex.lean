import Bibliography.Latex.Group

/-! # From LaTeX back to markup

The formatting commands a conversion writes, and two older notations for raised and lowered text,
become tags again. A pass finds the innermost commands, so nesting is undone pass by pass.
Everything else is left as it is.
-/

namespace Bibliography.Markup
set_option autoImplicit false
open Text

/-- A formatting command and the tags it becomes. -/
structure Formatting where
  /-- The ways in which the command begins. -/
  openings : List Text
  /-- What ends the command after its closing brace. -/
  tail : Text
  opening : Text
  closing : Text

/-- The commands of raised or lowered text, by the character that marks them. -/
def scripts (mark : Text) (opening closing : Text) : List Formatting := [
  ⟨[r"\ensuremath{" ++ mark ++ r"{\textrm{"], r"}}", opening, closing⟩,
  ⟨[r"\ensuremath{" ++ mark ++ r"{"], r"}", opening, closing⟩,
  ⟨["$" ++ mark ++ r"{\textrm{"], r"}$", opening, closing⟩,
  ⟨["$" ++ mark ++ r"{"], "$", opening, closing⟩
]

/-- All formatting commands, in the order in which a pass looks for them. -/
def formattings : List Formatting := [
  ⟨[r"\textit{", r"\emph{"], "", "<i>", "</i>"⟩,
  ⟨[r"\textbf{"], "", "<b>", "</b>"⟩,
  ⟨[r"\textsc{"], "", "<span style=\"font-variant:small-caps;\">", "</span>"⟩
] ++ scripts "^" "<sup>" "</sup>" ++ scripts "_" "<sub>" "</sub>"

/-- Every command of one kind that holds no braces becomes tags. -/
def Formatting.apply (f : Formatting) (s : Text) : Text :=
  (Latex.flatGroup f.openings f.tail).replace (fun inner => f.opening ++ inner ++ f.closing) s

/-- One pass over the text for each kind of command. -/
def pass (s : Text) : Text := formattings.foldl (fun s f => f.apply s) s

/-- At most the given number of passes, as long as they change anything. -/
def passes : Nat → Text → Text
  | 0, s => s
  | n + 1, s =>
    let t := pass s
    if t = s then s else passes n t

/-- The most passes that are made. -/
def maxPasses : Nat := 16

/-- The markup for a LaTeX text. -/
def ofLatex (s : Text) : Text := passes maxPasses s

end Bibliography.Markup
