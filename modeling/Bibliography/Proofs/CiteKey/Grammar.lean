import Bibliography.CiteKey.Pattern
import Bibliography.Proofs.Text.Pieces
import Mathlib.Data.List.TakeWhile

/-! # The grammar of patterns

A grammar of ordered choices reads a pattern from left to right: a directive if one begins here, or
else literal text, and bars between the alternatives. It might stop before the end of a text. That
it never does, and reads the alternatives of `Pattern.ofText`, is `alternatives_eq`.
-/

namespace Bibliography.CiteKey
set_option autoImplicit false
open Text

/-! ## Brackets -/

namespace Directive

theorem takeWhile_body {body : Text} (h : ']' ∉ body) (rest : Text) :
    (body ++ ']' :: rest).takeWhile (· != ']') = body :=
  takeWhile_of_stop (fun _ hc => bne_iff_ne.2 fun heq => h (heq ▸ hc)) (by simp)

theorem dropWhile_body {body : Text} (h : ']' ∉ body) (rest : Text) :
    (body ++ ']' :: rest).dropWhile (· != ']') = ']' :: rest :=
  dropWhile_of_stop (fun _ hc => bne_iff_ne.2 fun heq => h (heq ▸ hc)) (by simp)

theorem test_bracket {body : Text} (h : ']' ∉ body) (rest : Text) :
    test ('[' :: (body ++ ']' :: rest)) =
      if body.isEmpty then none else some (ofText body, rest) := by
  simp only [test, takeWhile_body h, dropWhile_body h]

theorem test_of_notMem {s : Text} (h : ']' ∉ s) : test ('[' :: s) = none := by
  have hnone : s.dropWhile (· != ']') = [] :=
    List.dropWhile_eq_nil_iff.2 fun c hc => bne_iff_ne.2 fun heq => h (heq ▸ hc)
  simp only [test, hnone]

theorem test_of_ne {c : Char} (h : c ≠ '[') (s : Text) : test (c :: s) = none := by
  unfold test
  split
  · next heq => exact absurd (List.cons.inj heq).1 h
  · rfl

/-- A directive begins here if something stands between brackets. -/
theorem test_eq_some_iff {s rest : Text} {d : Directive} :
    test s = some (d, rest) ↔
      ∃ body, s = '[' :: (body ++ ']' :: rest) ∧ ']' ∉ body ∧ body ≠ [] ∧ d = ofText body := by
  constructor
  · intro h
    cases s with
    | nil => simp [test] at h
    | cons c s =>
      by_cases hc : c = '['
      · subst hc
        by_cases hclosed : ']' ∈ s
        · obtain ⟨body, rest', rfl, hbody⟩ := List.eq_append_cons_of_mem hclosed
          rw [test_bracket hbody] at h
          obtain ⟨hne, heq⟩ := Option.ite_none_left_eq_some.1 h
          cases heq
          exact ⟨body, rfl, hbody, by simpa using hne, rfl⟩
        · rw [test_of_notMem hclosed] at h
          simp at h
      · rw [test_of_ne hc] at h
        simp at h
  · rintro ⟨body, rfl, hbody, hne, rfl⟩
    rw [test_bracket hbody, if_neg (by simpa using hne)]

end Directive

namespace Grammar

/-- A character of a directive's name and filters. -/
def isInner (c : Char) : Bool := c != ']' && c != '|'

/-- A character of a literal run. -/
def isLiteral (c : Char) : Bool := c != '[' && c != '|'

/-- A directive: something between brackets. -/
def directive? (s : Text) : Option (Directive × Text) :=
  match s with
  | '[' :: s =>
    match s.dropWhile isInner with
    | ']' :: rest =>
      let body := s.takeWhile isInner
      if body.isEmpty then none else some (.ofText body, rest)
    | _ => none
  | _ => none

/-- Literal text: a run, or else a single bracket. -/
def literal? (s : Text) : Option (Text × Text) :=
  let found := s.takeWhile isLiteral
  if found.isEmpty then
    match s with
    | '[' :: rest => some (['['], rest)
    | _ => none
  else some (found, s.dropWhile isLiteral)

/-- A directive, or else literal text. -/
def segment? (s : Text) : Option (Segment Directive × Text) :=
  ((directive? s).map fun found => (.found found.1, found.2)).or
    ((literal? s).map fun found => (.run found.1, found.2))

/-- A segment before others; literal texts that are neighbours are joined. -/
def join : Segment Directive → Template → Template
  | .run s, .run u :: ps => .run (s ++ u) :: ps
  | p, ps => p :: ps

theorem directive?_eq_some_iff {s rest : Text} {d : Directive} :
    directive? s = some (d, rest) ↔
      ∃ body, s = '[' :: (body ++ ']' :: rest) ∧ (∀ c ∈ body, isInner c = true) ∧ body ≠ [] ∧
        d = .ofText body := by
  constructor
  · intro h
    unfold directive? at h
    split at h
    · next s =>
      split at h
      · next rest' hdrop =>
        obtain ⟨hne, heq⟩ := Option.ite_none_left_eq_some.1 h
        cases heq
        have hs := List.takeWhile_append_dropWhile (p := isInner) (l := s)
        rw [hdrop] at hs
        exact ⟨s.takeWhile isInner, by rw [hs], fun _ => List.mem_takeWhile_imp,
          by simpa using hne, rfl⟩
      · simp at h
    · simp at h
  · rintro ⟨body, rfl, hbody, hne, rfl⟩
    have hstop : ∀ c ∈ (']' :: rest).head?, isInner c = false := by simp [isInner]
    simp [directive?, takeWhile_of_stop hbody hstop, dropWhile_of_stop hbody hstop, hne]

theorem literal?_run {s rest : Text} (hs : ∀ c ∈ s, isLiteral c = true) (hne : s ≠ [])
    (hrest : ∀ c ∈ rest.head?, isLiteral c = false) : literal? (s ++ rest) = some (s, rest) := by
  unfold literal?
  rw [takeWhile_of_stop hs hrest, dropWhile_of_stop hs hrest]
  simp [hne]

theorem literal?_bracket (s : Text) : literal? ('[' :: s) = some (['['], s) := by
  simp [literal?, isLiteral]

/-- A segment takes something of the text, so the repetition of segments never stands still. -/
theorem length_of_segment? {s rest : Text} {p : Segment Directive}
    (h : segment? s = some (p, rest)) : rest.length < s.length := by
  rcases Option.or_eq_some_iff.1 h with h | ⟨-, h⟩
  · obtain ⟨⟨d, rest'⟩, hd, heq⟩ := Option.map_eq_some_iff.1 h
    obtain ⟨body, rfl, -⟩ := directive?_eq_some_iff.1 hd
    cases heq
    simp
    omega
  · obtain ⟨⟨u, rest'⟩, hu, heq⟩ := Option.map_eq_some_iff.1 h
    cases heq
    unfold literal? at hu
    dsimp only at hu
    split at hu
    · split at hu
      · cases hu
        simp
      · simp at hu
    · next hne =>
      cases hu
      have hs := congrArg List.length (List.takeWhile_append_dropWhile (p := isLiteral) (l := s))
      have hpositive : 0 < (s.takeWhile isLiteral).length :=
        List.length_pos_of_ne_nil (by simpa using hne)
      rw [List.length_append] at hs
      show (s.dropWhile isLiteral).length < s.length
      omega

/-- As many segments as there are. -/
def template (s : Text) : Template × Text :=
  match _h : segment? s with
  | none => ([], s)
  | some (p, rest) => (join p (template rest).1, (template rest).2)
termination_by s.length
decreasing_by
  all_goals exact length_of_segment? _h

theorem template_of_none {s : Text} (h : segment? s = none) : template s = ([], s) := by
  rw [template]
  split
  · rfl
  · next heq =>
    rw [h] at heq
    simp at heq

theorem template_of_some {s rest : Text} {p : Segment Directive}
    (h : segment? s = some (p, rest)) :
    template s = (join p (template rest).1, (template rest).2) := by
  rw [template]
  split
  · next heq =>
    rw [h] at heq
    simp at heq
  · next heq =>
    rw [h] at heq
    cases heq
    rfl

theorem length_template_le (s : Text) : (template s).2.length ≤ s.length := by
  fun_induction template s with
  | case1 s _ => exact Nat.le_refl _
  | case2 s p rest h ih => exact ih.trans (length_of_segment? h).le

/-- Alternatives, as long as bars follow. -/
def alternatives (s : Text) : List Template × Text :=
  match _h : (template s).2 with
  | '|' :: rest => ((template s).1 :: (alternatives rest).1, (alternatives rest).2)
  | rest => ([(template s).1], rest)
termination_by s.length
decreasing_by
  all_goals
    have hle := length_template_le s
    rw [_h, List.length_cons] at hle
    omega

theorem alternatives_of_bar {s rest : Text} (h : (template s).2 = '|' :: rest) :
    alternatives s = ((template s).1 :: (alternatives rest).1, (alternatives rest).2) := by
  rw [alternatives]
  split
  · next heq =>
    rw [h] at heq
    cases heq
    rfl
  · next hne => exact absurd h (hne rest)

theorem alternatives_of_end {s : Text} (h : (template s).2 = []) :
    alternatives s = ([(template s).1], []) := by
  rw [alternatives]
  split
  · next heq =>
    rw [h] at heq
    simp at heq
  · rw [h]

/-! ## Reading up to a bar -/

/-- What may follow an alternative: nothing, or a bar. -/
def EndsHere (s : Text) : Prop := ∀ c ∈ s.head?, c = '|'

theorem directive?_append_of_some {s rest : Text} {d : Directive} (hs : '|' ∉ s)
    (h : Directive.test s = some (d, rest)) (tail : Text) :
    directive? (s ++ tail) = some (d, rest ++ tail) := by
  obtain ⟨body, rfl, hbody, hne, rfl⟩ := Directive.test_eq_some_iff.1 h
  refine directive?_eq_some_iff.2 ⟨body, by simp, ?_, hne, rfl⟩
  intro c hc
  have hbracket : c ≠ ']' := fun heq => hbody (heq ▸ hc)
  have hbar : c ≠ '|' := fun heq =>
    hs (List.mem_cons_of_mem _ (List.mem_append_left _ (heq ▸ hc)))
  simp [isInner, hbracket, hbar]

theorem directive?_append_of_none {s tail : Text} (htail : EndsHere tail)
    (h : Directive.test s = none) : directive? (s ++ tail) = none := by
  rw [Option.eq_none_iff_forall_ne_some]
  rintro ⟨d, rest⟩ hd
  obtain ⟨body, heq, hinner, hne, rfl⟩ := directive?_eq_some_iff.1 hd
  have hbody : ']' ∉ body := fun hmem => by simpa [isInner] using hinner ']' hmem
  have hfound : ∀ more, s ≠ '[' :: (body ++ ']' :: more) := fun more hs => by
    rw [Directive.test_eq_some_iff.2 ⟨body, hs, hbody, hne, rfl⟩] at h
    simp at h
  have hbrackets : s ++ tail = ('[' :: body ++ [']']) ++ rest := by simp [heq]
  rcases List.append_eq_append_iff.1 hbrackets with ⟨left, hleft, htailEq⟩ | ⟨more, hs, -⟩
  · cases left with
    | nil => exact hfound [] (by simpa using hleft.symm)
    | cons c left =>
      -- what follows the alternative would begin inside the brackets
      have hbar : c = '|' := htail c (by simp [htailEq])
      have hmem : c ∈ '[' :: body ++ [']'] := hleft ▸ List.mem_append_right _ (by simp)
      simp only [List.cons_append, List.mem_cons, List.mem_append, List.not_mem_nil,
        or_false] at hmem
      rcases hmem with rfl | hmem | rfl
      · simp at hbar
      · have := hinner c hmem
        simp [isInner, hbar] at this
      · simp at hbar
  · exact hfound more (by simpa using hs)

theorem segment?_of_endsHere {s : Text} (h : EndsHere s) : segment? s = none := by
  cases s with
  | nil => rfl
  | cons c s =>
    have hbar : c = '|' := h c rfl
    subst hbar
    rfl

theorem consRun_eq_join (c : Char) (ps : Template) :
    Segment.consRun c ps = join (.run [c]) ps := by
  cases ps with
  | nil => rfl
  | cons p ps =>
    cases p with
    | run u => rfl
    | found d => rfl

theorem consRun_join (c : Char) (s : Text) (ps : Template) :
    Segment.consRun c (join (.run s) ps) = join (.run (c :: s)) ps := by
  cases ps with
  | nil => rfl
  | cons p ps =>
    cases p with
    | run u => rfl
    | found d => rfl

/-- A run of literal text before an alternative is joined to it. -/
theorem ofText_append_of_literal {s rest : Text} (hs : ∀ c ∈ s, isLiteral c = true)
    (hne : s ≠ []) : Template.ofText (s ++ rest) = join (.run s) (Template.ofText rest) := by
  induction s with
  | nil => exact absurd rfl hne
  | cons c s ih =>
    rw [List.forall_mem_cons] at hs
    have hc : c ≠ '[' := by
      rintro rfl
      simp [isLiteral] at hs
    have hstep : Template.ofText (c :: (s ++ rest)) =
        Segment.consRun c (Template.ofText (s ++ rest)) :=
      Scanner.segments_of_none (Directive.test_of_ne hc _)
    rw [List.cons_append, hstep]
    cases s with
    | nil => exact consRun_eq_join c _
    | cons d s => rw [ih hs.2 (List.cons_ne_nil d s), consRun_join]

/-- Literal text other than a bracket is read up to a bracket or the end of the alternative. -/
theorem exists_literal?_append {c : Char} (hbracket : c ≠ '[') (hbar : c ≠ '|') (s : Text)
    {tail : Text} (htail : EndsHere tail) :
    ∃ run rest, c :: s = run ++ rest ∧ (∀ d ∈ run, isLiteral d = true) ∧ run ≠ [] ∧
      literal? (c :: s ++ tail) = some (run, rest ++ tail) := by
  have hc : isLiteral c = true := by simp [isLiteral, hbracket, hbar]
  have hcut := List.takeWhile_append_dropWhile (p := isLiteral) (l := c :: s)
  have hrun : ∀ d ∈ (c :: s).takeWhile isLiteral, isLiteral d = true :=
    fun _ => List.mem_takeWhile_imp
  have hne : (c :: s).takeWhile isLiteral ≠ [] := by
    rw [List.takeWhile_cons_of_pos hc]
    exact List.cons_ne_nil _ _
  have hstop : ∀ d ∈ ((c :: s).dropWhile isLiteral ++ tail).head?, isLiteral d = false := by
    intro d hd
    cases hrest : (c :: s).dropWhile isLiteral with
    | nil =>
      rw [hrest] at hd
      simp [isLiteral, htail d hd]
    | cons e rest =>
      have hhead := List.head?_dropWhile_not isLiteral (c :: s)
      rw [hrest] at hd hhead
      cases hd
      exact hhead
  refine ⟨_, _, hcut.symm, hrun, hne, ?_⟩
  rw [← literal?_run hrun hne hstop, ← List.append_assoc, hcut]

theorem segment?_of_directive? {s rest : Text} {d : Directive}
    (h : directive? s = some (d, rest)) : segment? s = some (.found d, rest) := by
  rw [segment?, h]
  rfl

theorem segment?_of_literal? {s run rest : Text} (hnone : directive? s = none)
    (h : literal? s = some (run, rest)) : segment? s = some (.run run, rest) := by
  rw [segment?, hnone, h]
  rfl

/-- An alternative is read up to what follows it. -/
theorem template_append {s tail : Text} (hs : '|' ∉ s) (htail : EndsHere tail) :
    template (s ++ tail) = (Template.ofText s, tail) := by
  induction hn : s.length using Nat.strongRecOn generalizing s with
  | ind n ih =>
    subst hn
    cases s with
    | nil =>
      have hempty : Template.ofText [] = [] := by simp [Template.ofText, Scanner.segments]
      rw [List.nil_append, template_of_none (segment?_of_endsHere htail), hempty]
    | cons c s =>
      cases htest : Directive.test (c :: s) with
      | some found =>
        obtain ⟨d, rest⟩ := found
        have hread := segment?_of_directive? (directive?_append_of_some hs htest tail)
        obtain ⟨body, hbody, -⟩ := Directive.test_eq_some_iff.1 htest
        have hrest : '|' ∉ rest := fun hmem => hs (by simp [hbody, hmem])
        rw [template_of_some hread, ih rest.length (Directive.length_of_test htest) hrest rfl]
        exact Prod.ext (Scanner.segments_of_test htest).symm rfl
      | none =>
        have hnone := directive?_append_of_none htail htest
        by_cases hc : c = '['
        · subst hc
          have hread := segment?_of_literal? hnone (literal?_bracket (s ++ tail))
          have hrest : '|' ∉ s := fun hmem => hs (List.mem_cons_of_mem _ hmem)
          rw [template_of_some hread, ih s.length (Nat.lt_succ_self _) hrest rfl,
            ← consRun_eq_join]
          exact Prod.ext (Scanner.segments_of_none htest).symm rfl
        · have hbar : c ≠ '|' := fun heq => hs (by simp [heq])
          obtain ⟨run, rest, hcut, hrun, hne, hliteral⟩ := exists_literal?_append hc hbar s htail
          have hread := segment?_of_literal? hnone hliteral
          have hrest : '|' ∉ rest := fun hmem => hs (hcut ▸ List.mem_append_right _ hmem)
          have hshorter : rest.length < (c :: s).length := by
            have hpositive := List.length_pos_of_ne_nil hne
            rw [hcut, List.length_append]
            omega
          rw [template_of_some hread, ih rest.length hshorter hrest rfl, hcut,
            ofText_append_of_literal hrun hne]

/-- The grammar reads every text to its end, and finds the alternatives of the pattern. -/
theorem alternatives_eq (s : Text) : alternatives s = ((Pattern.ofText s).alternatives, []) := by
  induction hn : s.length using Nat.strongRecOn generalizing s with
  | ind n ih =>
    subst hn
    by_cases hbar : '|' ∈ s
    · obtain ⟨piece, rest, rfl, hpiece⟩ := List.eq_append_cons_of_mem hbar
      have htail : EndsHere ('|' :: rest) := by simp [EndsHere]
      have hread := template_append hpiece htail
      have hrest := ih rest.length (by simp; omega) rest rfl
      rw [alternatives_of_bar (by rw [hread]), hread, hrest]
      simp [Pattern.ofText, splitOn_append, splitOn_of_notMem hpiece]
    · have htail : EndsHere [] := by simp [EndsHere]
      have hread := template_append hbar htail
      rw [List.append_nil] at hread
      rw [alternatives_of_end (by rw [hread]), hread]
      simp [Pattern.ofText, splitOn_of_notMem hbar]

end Grammar
end Bibliography.CiteKey
