import Bibliography.Dict
import Bibliography.Latex.Escape
import Bibliography.Proofs.Latex.Balance
import Bibliography.Proofs.Unicode.Decomposition

/-! # Escaped text is balanced

Whatever a text holds, its escaped form closes the groups it opens: the spellings of the tables, the
accents around a letter, characters given by number, and groups in math mode. Every spelling but
that of the opening brace itself may also stand in braces.
-/

namespace Bibliography.Latex
set_option autoImplicit false
open Unicode

/-! ## Spellings -/

/-- Every spelling may stand in braces, but for that of the opening brace. -/
theorem enclosable_of_mem_asciiSpelled {p : Char × Spelling} (h : p ∈ asciiSpelled) :
    Enclosable p.2.latex ∨ p = ('{', ⟨['\\', '{'], false⟩) := by
  have htable : (asciiSpelled.all fun p =>
      decide (Enclosable p.2.latex ∨ p = ('{', ⟨['\\', '{'], false⟩))) = true := by
    decide +kernel
  exact of_decide_eq_true (List.all_eq_true.1 htable p h)

theorem mem_asciiSpelled {mode : Mode} {c : Char} {s : Spelling} (h : spelling? mode c = some s) :
    (c, s) ∈ asciiSpelled := by
  cases mode with
  | unicode => exact List.mem_append_left _ (List.mem_append_left _ (mem_of_lookup h))
  | ascii => exact mem_of_lookup h

theorem spelling?_cases {mode : Mode} {c : Char} {s : Spelling} (h : spelling? mode c = some s) :
    Enclosable s.latex ∨ c = '{' ∧ s = ⟨['\\', '{'], false⟩ := by
  rcases enclosable_of_mem_asciiSpelled (mem_asciiSpelled h) with henc | heq
  · exact Or.inl henc
  · exact Or.inr (Prod.mk.inj heq)

theorem enclosable_of_spelling? {mode : Mode} {c : Char} {s : Spelling}
    (h : spelling? mode c = some s) (hc : c ≠ '{') : Enclosable s.latex := by
  rcases spelling?_cases h with henc | ⟨hbrace, -⟩
  · exact henc
  · exact absurd hbrace hc

theorem enclosable_of_math {mode : Mode} {c : Char} {s : Spelling} (h : spelling? mode c = some s)
    (hmath : s.math = true) : Enclosable s.latex := by
  rcases spelling?_cases h with henc | ⟨-, rfl⟩
  · exact henc
  · simp at hmath

theorem joinable_escapedBrace : Joinable ['\\', '{'] := ⟨rfl, by decide, by decide⟩

theorem joinable_of_spelling? {mode : Mode} {c : Char} {s : Spelling}
    (h : spelling? mode c = some s) : Joinable s.latex := by
  rcases spelling?_cases h with henc | ⟨-, rfl⟩
  · exact henc.toJoinable
  · exact joinable_escapedBrace

theorem isPlain_of_spelling?_eq_none {mode : Mode} {c : Char} (h : spelling? mode c = none) :
    isPlain c = true := by
  have hnone : (spelling? mode c).isNone = true := by rw [h]; rfl
  cases mode with
  | unicode =>
    exact isPlain_of_test (p := fun c => (spelling? .unicode c).isNone) hnone (by decide +kernel)
      (by decide +kernel) (by decide +kernel)
  | ascii =>
    exact isPlain_of_test (p := fun c => (spelling? .ascii c).isNone) hnone (by decide +kernel)
      (by decide +kernel) (by decide +kernel)

theorem enclosable_plain {c : Char} (h : isPlain c = true) : Enclosable [c] :=
  Enclosable.of_plain (by simpa using h)

/-! ## Characters by number -/

theorem isPlain_digitChar (d : Nat) :
    isPlain (Nat.digitChar d) = true ∧ isPlain (Nat.digitChar d).toUpper = true :=
  Text.forall_digitChar (p := fun c => isPlain c = true ∧ isPlain c.toUpper = true) (by decide)
    (by decide) d

theorem isPlain_of_mem_capitalHex {width n : Nat} {c : Char} (h : c ∈ Text.capitalHex width n) :
    isPlain c = true := by
  obtain ⟨c, hc, rfl⟩ := List.mem_map.1 h
  obtain ⟨d, rfl⟩ := Text.exists_digitChar_of_mem_hex hc
  exact (isPlain_digitChar d).2

theorem enclosable_byNumber (c : Char) : Enclosable (byNumber c) := by
  have hname : ∀ c ∈ ['h', 'a', 'r', '"'], isPlain c = true := List.all_eq_true.1 (by decide)
  have hnumber : Enclosable
      ('\\' :: 'c' :: (['h', 'a', 'r', '"'] ++ Text.capitalHex 4 c.toNat)) :=
    Enclosable.command (by decide)
      (List.forall_mem_append.2 ⟨hname, fun _ => isPlain_of_mem_capitalHex⟩)
  have hform : byNumber c = '{' ::
      ('\\' :: 'c' :: (['h', 'a', 'r', '"'] ++ Text.capitalHex 4 c.toNat)) ++ ['}'] := rfl
  rw [hform]
  exact hnumber.braced

/-! ## Accents -/

theorem enclosable_accent {mark : Char} {command : Text} (h : accent? mark = some command) :
    Enclosable ('\\' :: command) := by
  have hcommands : (accents.all fun p => decide (Enclosable ('\\' :: p.2))) = true := by
    decide +kernel
  exact of_decide_eq_true (List.all_eq_true.1 hcommands _ (mem_of_lookup h))

theorem enclosable_accented {command letter : Text} (hcommand : Enclosable ('\\' :: command))
    (hletter : Enclosable letter) : Enclosable (accented command letter) := by
  unfold accented
  split
  · have hspaced : Enclosable ('\\' :: command ++ [' '] ++ letter) :=
      (hcommand.append (enclosable_plain (by decide))).append hletter
    simpa using hspaced.braced
  · have hjoined : Enclosable ('\\' :: command ++ letter) := hcommand.append hletter
    simpa using hjoined.braced

theorem enclosable_withMarks {letter : Text} (h : Enclosable letter) (marks : List Char) :
    Enclosable (withMarks letter marks) := by
  unfold withMarks
  induction marks generalizing letter with
  | nil => exact h
  | cons mark marks ih =>
    refine ih ?_
    dsimp only
    cases hmark : accent? mark with
    | none => exact h
    | some command => exact enclosable_accented (enclosable_accent hmark) h

/-! ## Letters without a spelling -/

theorem enclosable_bareLetter {base : Char} (h : base ≠ '{') : Enclosable (bareLetter base) := by
  unfold bareLetter
  cases hspelled : spelling? .ascii base with
  | none =>
    dsimp only
    split
    · exact enclosable_plain (isPlain_of_spelling?_eq_none hspelled)
    · exact enclosable_byNumber base
  | some s =>
    dsimp only
    split
    · exact enclosable_of_spelling? hspelled h
    · exact enclosable_byNumber base

theorem enclosable_baseLetter {base : Char} (h : base ≠ '{') (marks : List Char) :
    Enclosable (baseLetter base marks) := by
  unfold baseLetter
  split
  · next hdot =>
    have hletter : isPlain base = true := by
      simp only [Bool.and_eq_true, Bool.or_eq_true, decide_eq_true_eq] at hdot
      rcases hdot.1 with hi | hj
      · rw [hi]
        decide
      · rw [hj]
        decide
    exact Enclosable.command hletter (by simp)
  · exact enclosable_bareLetter h

/-- Parts without a brace among them are spelled by a text that may stand in braces. -/
theorem enclosable_spellParts {parts : Text} (h : '{' ∉ parts) :
    Enclosable (spellParts parts) := by
  fun_induction spellParts parts with
  | case1 => exact Enclosable.nil
  | case2 base rest marks first ih =>
    have hrest : '{' ∉ rest.dropWhile isMark := fun hm =>
      h (List.mem_cons_of_mem _ ((List.dropWhile_sublist isMark).mem hm))
    have hbase : base ≠ '{' := fun hb => h (hb ▸ List.mem_cons_self ..)
    have hfirst : Enclosable first := by
      simp only [first]
      split
      · exact enclosable_byNumber base
      · exact enclosable_withMarks (enclosable_baseLetter hbase marks) marks
    exact hfirst.append (ih hrest)

theorem spellParts_brace : spellParts ['{'] = ['\\', '{'] := by
  have hmark : isMark '{' = false := by decide +kernel
  have hletter : baseLetter '{' [] = ['\\', '{'] := by decide +kernel
  rw [spellParts]
  simp [hmark, hletter, withMarks, spellParts]

theorem joinable_spellOut (c : Char) : Joinable (spellOut c) := by
  unfold spellOut
  by_cases h : '{' ∈ compatible [c]
  · rw [compatible_eq_brace h, spellParts_brace]
    exact joinable_escapedBrace
  · exact (enclosable_spellParts h).toJoinable

/-! ## Texts -/

theorem enclosable_mathGroup {pending : Text} (h : Enclosable pending) :
    Enclosable (mathGroup pending) := by
  cases pending with
  | nil => exact Enclosable.nil
  | cons c cs =>
    have hname : Enclosable ['\\', 'e', 'n', 's', 'u', 'r', 'e', 'm', 'a', 't', 'h'] :=
      Enclosable.command (by decide) (List.all_eq_true.1 (by decide))
    have hform : mathGroup (c :: cs) =
        ['\\', 'e', 'n', 's', 'u', 'r', 'e', 'm', 'a', 't', 'h'] ++
          ('{' :: (c :: cs) ++ ['}']) := rfl
    rw [hform]
    exact hname.append h.braced

theorem joinable_plainChar {mode : Mode} {c : Char} (h : spelling? mode c = none) :
    Joinable (plainChar mode c) := by
  unfold plainChar
  split
  · exact joinable_spellOut c
  · exact (enclosable_plain (isPlain_of_spelling?_eq_none h)).toJoinable

theorem joinable_escapeFrom (mode : Mode) {pending : Text} (h : Enclosable pending) (s : Text) :
    Joinable (escapeFrom mode pending s) := by
  induction s generalizing pending with
  | nil => exact (enclosable_mathGroup h).toJoinable
  | cons c cs ih =>
    rw [escapeFrom]
    cases hspelled : spelling? mode c with
    | none =>
      exact ((enclosable_mathGroup h).toJoinable.append (joinable_plainChar hspelled)).append
        (ih Enclosable.nil)
    | some s =>
      dsimp only
      split
      · next hmath => exact ih (h.append (enclosable_of_math hspelled hmath))
      · exact ((enclosable_mathGroup h).toJoinable.append (joinable_of_spelling? hspelled)).append
          (ih Enclosable.nil)

/-- Escaped text is balanced, and may stand behind other such text. -/
theorem joinable_escape (mode : Mode) (s : Text) : Joinable (escape mode s) :=
  joinable_escapeFrom mode Enclosable.nil s

end Bibliography.Latex
