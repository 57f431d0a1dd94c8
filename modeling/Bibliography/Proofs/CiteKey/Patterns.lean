import Bibliography.Proofs.CiteKey.Grammar

/-! # Reading patterns

Every text is a pattern. Its alternatives are what stands between the bars, each read for itself;
written again they are the text. `Pattern.ofText_exact` puts together what this module shows, and
says which opening brackets begin a directive.
-/

namespace Bibliography.CiteKey
set_option autoImplicit false
open Text

/-! ## Writing what was read -/

theorem Filter.eq_of_parenthesized? {s content : Text} (h : parenthesized? s = some content) :
    s = '(' :: (content ++ [')']) := by
  unfold parenthesized? at h
  split at h
  · next rest =>
    obtain ⟨hlast, heq⟩ := Option.ite_none_right_eq_some.1 h
    cases heq
    rw [List.dropLast_append_getLast? ')' hlast]
  · simp at h

theorem NamedFilter.name_of_ofName? {s : Text} {f : NamedFilter} (h : ofName? s = some f) :
    f.name = s := by
  have hfound := List.find?_some (p := fun f : NamedFilter => f.name == s) h
  exact eq_of_beq hfound

theorem Filter.text_ofText (s : Text) : (ofText s).text = s := by
  unfold ofText
  cases hdefault : parenthesized? s with
  | some content => exact (eq_of_parenthesized? hdefault).symm
  | none =>
    dsimp only
    cases hname : NamedFilter.ofName? s with
    | some f => exact NamedFilter.name_of_ofName? hname
    | none => rfl

namespace Directive

theorem text_ofParts (property : Text) (filters : List Text) :
    (ofParts property filters).text = joinWith ":" (property :: filters) := by
  have hfilters : (filters.map Filter.ofText).map Filter.text = filters := by
    simp [Function.comp_def, Filter.text_ofText]
  have htext : (ofParts property filters).text =
      joinWith ":" (property :: (filters.map Filter.ofText).map Filter.text) := rfl
  rw [htext, hfilters]

theorem text_ofText (s : Text) : (ofText s).text = s := by
  obtain ⟨property, filters, hs⟩ := exists_splitOn_eq_cons ':' s
  have hjoin : joinWith ":" (property :: filters) = s := by
    rw [← hs]
    exact joinWith_splitOn ':' s
  rw [ofText, hs]
  exact (text_ofParts property filters).trans hjoin

/-- How a directive is written. -/
def written (d : Directive) : Text := "[" ++ d.text ++ "]"

theorem eq_of_test {s rest : Text} {d : Directive} (h : test s = some (d, rest)) :
    s = d.written ++ rest := by
  obtain ⟨body, rfl, -, -, rfl⟩ := test_eq_some_iff.1 h
  simp [written, text_ofText]

/-- A bracket begins a directive exactly if a closing bracket follows, but not at once. -/
theorem exists_test_iff {after : Text} {d : Directive} :
    (∃ rest, test ('[' :: after) = some (d, rest)) ↔
      ']' ∈ after ∧ after.head? ≠ some ']' ∧ d = ofText (after.takeWhile (· != ']')) := by
  constructor
  · rintro ⟨rest, htest⟩
    obtain ⟨body, heq, hbody, hne, rfl⟩ := test_eq_some_iff.1 htest
    obtain rfl : after = body ++ ']' :: rest := (List.cons.inj heq).2
    refine ⟨by simp, ?_, by rw [takeWhile_body hbody]⟩
    rw [List.head?_append_of_ne_nil _ hne]
    exact fun hhead => hbody (List.mem_of_head? hhead)
  · rintro ⟨hclosed, hhead, rfl⟩
    obtain ⟨body, rest, rfl, hbody⟩ := List.eq_append_cons_of_mem hclosed
    have hne : body ≠ [] := by
      rintro rfl
      simp at hhead
    exact ⟨rest, test_eq_some_iff.2 ⟨body, rfl, hbody, hne, by rw [takeWhile_body hbody]⟩⟩

end Directive

namespace Template

theorem text_ofText (s : Text) : (ofText s).text = s :=
  Scanner.replace_eq_self Directive.eq_of_test s

/-! ## Places of an alternative -/

/-- The directive begins at the place. -/
def Opens (t : Template) (i : Nat) (d : Directive) : Prop :=
  Segment.segmentAt? Directive.written t i = some (.found d, 0)

/-- The place is in a directive that began before. -/
def Inside (t : Template) (i : Nat) : Prop :=
  ∃ d k, Segment.segmentAt? Directive.written t i = some (.found d, k + 1)

/-- A bracket outside of the directives before it opens one exactly if a closing bracket follows,
but not at once. -/
theorem opens_iff {before after : Text}
    (houtside : ¬(ofText (before ++ '[' :: after)).Inside before.length) {d : Directive} :
    (ofText (before ++ '[' :: after)).Opens before.length d ↔
      ']' ∈ after ∧ after.head? ≠ some ']' ∧ d = .ofText (after.takeWhile (· != ']')) := by
  have hplace : (ofText (before ++ '[' :: after)).Opens before.length d ↔
      ∃ rest, Directive.test ('[' :: after) = some (d, rest) :=
    Scanner.segmentAt?_segments_iff Directive.eq_of_test before fun d k hd => houtside ⟨d, k, hd⟩
  exact hplace.trans Directive.exists_test_iff

end Template

/-! ## Patterns -/

namespace Pattern

theorem alternatives_of_noBar {s : Text} (h : '|' ∉ s) :
    (ofText s).alternatives = [Template.ofText s] := by
  rw [ofText, splitOn_of_notMem h]
  rfl

theorem text_ofText (s : Text) : (ofText s).text = s := by
  have hpieces : ((splitOn '|' s).map Template.ofText).map Template.text = splitOn '|' s := by
    simp [Function.comp_def, Template.text_ofText]
  have htext : (ofText s).text =
      joinWith "|" (((splitOn '|' s).map Template.ofText).map Template.text) := rfl
  rw [htext, hpieces]
  exact joinWith_splitOn '|' s

/-- Reading a pattern is total, lossless and exact. The grammar comes to the end of the text, with
one alternative more than there are bars, each read from its piece alone. Written again they are the
text. No literal is empty or stands beside another one, and outside of the directives before it an
opening bracket begins one exactly if a closing bracket follows, but not at once. -/
theorem ofText_exact (p : Text) :
    Grammar.alternatives p = ((ofText p).alternatives, []) ∧
      (ofText p).alternatives.length = p.count '|' + 1 ∧
      (∀ (i : Nat) (piece : Text), (splitOn '|' p)[i]? = some piece →
        ∃ t, (ofText p).alternatives[i]? = some t ∧ (ofText piece).alternatives = [t]) ∧
      (ofText p).text = p ∧
      (∀ t ∈ (ofText p).alternatives, Segment.Reduced t) ∧
      ∀ piece ∈ splitOn '|' p, ∀ before after, piece = before ++ '[' :: after →
        ¬(Template.ofText piece).Inside before.length →
          ∀ d, (Template.ofText piece).Opens before.length d ↔
            ']' ∈ after ∧ after.head? ≠ some ']' ∧
              d = Directive.ofText (after.takeWhile (· != ']')) := by
  refine ⟨Grammar.alternatives_eq p, ?count, ?pieces, text_ofText p, ?reduced, ?brackets⟩
  case count => rw [ofText, List.length_map, length_splitOn]
  case pieces =>
    intro i piece hpiece
    have hbar := notMem_of_mem_splitOn (List.mem_of_getElem? hpiece)
    refine ⟨Template.ofText piece, ?_, alternatives_of_noBar hbar⟩
    rw [ofText, List.getElem?_map, hpiece]
    rfl
  case reduced =>
    intro t ht
    obtain ⟨piece, -, rfl⟩ := List.mem_map.1 ht
    exact Scanner.reduced_segments _ piece
  case brackets =>
    rintro piece - before after rfl houtside d
    exact Template.opens_iff houtside

/-- Brackets that open nothing, and one that opens a directive with a bracket for its name. -/
def strayBrackets : Text := "[auth|a[[]b]|"

theorem ofText_exact_strayBrackets :
    (ofText strayBrackets).alternatives.length = 3 ∧
      (∃ t, (ofText strayBrackets).alternatives[1]? = some t ∧
        (ofText "a[[]b]").alternatives = [t]) ∧
      (Template.ofText "a[[]b]").Opens 1 (Directive.ofText "[") := by
  obtain ⟨-, hcount, hpieces, -, -, hbrackets⟩ := ofText_exact strayBrackets
  have hplace : Segment.segmentAt? Directive.written (Template.ofText "a[[]b]") 1 =
      some (.found (Directive.ofText "["), 0) := by decide +kernel
  have houtside : ¬(Template.ofText "a[[]b]").Inside 1 := by
    rintro ⟨d, k, hd⟩
    rw [hplace] at hd
    simp at hd
  have hmem : "a[[]b]".toList ∈ splitOn '|' strayBrackets := by decide
  refine ⟨hcount, hpieces 1 _ rfl, ?_⟩
  exact (hbrackets _ hmem ['a'] "[]b]".toList rfl houtside _).2 (by decide)

end Pattern
end Bibliography.CiteKey
