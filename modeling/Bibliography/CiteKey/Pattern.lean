import Bibliography.CiteKey.Directive
import Bibliography.Text.Scanner

/-! # Key patterns

A pattern is a list of alternatives with bars between them. An alternative mixes literal text with
directives in brackets. Every text is a pattern: a bracket that opens no directive, because nothing
or no closing bracket follows it, is literal.
-/

namespace Bibliography.CiteKey
set_option autoImplicit false
open Text

/-- The text begins with a directive: brackets with something between them. -/
def Directive.test (s : Text) : Option (Directive × Text) :=
  match s with
  | '[' :: s =>
    let body := s.takeWhile (· != ']')
    match s.dropWhile (· != ']') with
    | [] => none
    | _ :: rest => if body.isEmpty then none else some (.ofText body, rest)
  | _ => none

theorem Directive.length_of_test {s rest : Text} {d : Directive}
    (h : Directive.test s = some (d, rest)) : rest.length < s.length := by
  unfold Directive.test at h
  split at h
  · rename_i s
    have l := (List.dropWhile_sublist (fun c => c != ']') (l := s)).length_le
    simp only at h
    split at h
    · simp at h
    · rename_i heq
      rw [heq] at l
      split at h
      · simp at h
      · simp only [Option.some.injEq, Prod.mk.injEq] at h
        simp only [List.length_cons] at l ⊢
        rw [← h.2]
        omega
  · simp at h

/-- Finds the directives of an alternative. -/
def Directive.scanner : Scanner Directive := ⟨Directive.test, Directive.length_of_test⟩

/-- One alternative of a pattern: runs of literal text, and the directives between them. -/
abbrev Template := List (Segment Directive)

namespace Template

/-- The alternative that is written so. -/
def ofText (s : Text) : Template := Directive.scanner.segments s

/-- How an alternative is written. -/
def text (t : Template) : Text := t.flatMap (Segment.text fun d => "[" ++ d.text ++ "]")

/-- The directives of an alternative. -/
def directives (t : Template) : List Directive :=
  t.filterMap fun
    | .found d => some d
    | .run _ => none

end Template

/-- The alternatives of a pattern, in order of preference. -/
structure Pattern where
  alternatives : List Template
deriving DecidableEq, Repr

namespace Pattern

/-- The pattern that is written so. -/
def ofText (s : Text) : Pattern := ⟨(splitOn '|' s).map Template.ofText⟩

/-- How a pattern is written. -/
def text (p : Pattern) : Text := joinWith "|" (p.alternatives.map Template.text)

end Pattern
end Bibliography.CiteKey
