import Bibliography.Text.Scanner

/-! # Flat groups

A command with braces that hold no braces themselves. Nested groups are taken apart from the inside
out: once the inner ones are gone, the outer ones are flat.
-/

namespace Bibliography.Latex
set_option autoImplicit false
open Text

/-- Neither of the two braces. -/
def isNoBrace (c : Char) : Bool := c != '{' && c != '}'

/-- The text begins with one of several openings, goes on without braces, and ends with a closing
brace and a tail: what stands between, and what follows. -/
def flatGroup? (openings : List Text) (tail s : Text) : Option (Text × Text) :=
  (afterAny? openings s).bind fun s =>
    match s.dropWhile isNoBrace with
    | '}' :: rest => (after? tail rest).map fun rest => (s.takeWhile isNoBrace, rest)
    | _ => none

theorem length_of_afterAny? {ps : List Text} {s r : Text} (h : afterAny? ps s = some r) :
    r.length ≤ s.length := by
  obtain ⟨p, _, hp⟩ := List.exists_of_findSome?_eq_some h
  have := length_of_after? hp
  omega

theorem length_of_flatGroup? {openings : List Text} {tail s inner rest : Text}
    (h : flatGroup? openings tail s = some (inner, rest)) : rest.length < s.length := by
  unfold flatGroup? at h
  obtain ⟨s, hs, hr⟩ := Option.bind_eq_some_iff.1 h
  have h1 := length_of_afterAny? hs
  have h2 := (List.dropWhile_sublist isNoBrace (l := s)).length_le
  split at hr
  · rename_i heq
    rw [heq, List.length_cons] at h2
    obtain ⟨r, hr, he⟩ := Option.map_eq_some_iff.1 hr
    have h3 := length_of_after? hr
    simp only [Prod.mk.injEq] at he
    rw [← he.2]
    omega
  · simp at hr

/-- Finds flat groups by what they hold. -/
def flatGroup (openings : List Text) (tail : Text) : Scanner Text :=
  ⟨flatGroup? openings tail, length_of_flatGroup?⟩

end Bibliography.Latex
