import Bibliography.Proofs.Latex.Escape
import Bibliography.Proofs.Unicode.Ascii

/-! # Escaped text is ASCII

In ASCII mode every character comes out in ASCII: by its spelling, as base letters under accents, or
by number. Nothing has to be known of decompositions for that. A part that is neither ASCII nor in
the tables is given by number, whatever character it is the part of.
-/

namespace Bibliography.Latex
set_option autoImplicit false
open Unicode

/-! ## Plain ASCII -/

/-- An ASCII character that LaTeX takes as it is. -/
def isPlainAscii (c : Char) : Bool := isPlain c && decide (c.toNat < 0x80)

theorem isPlainAscii_iff {c : Char} :
    isPlainAscii c = true ↔ isPlain c = true ∧ c.toNat < 0x80 := by
  rw [isPlainAscii, Bool.and_eq_true, decide_eq_true_iff]

theorem all_isPlain_of_isPlainAscii {s : Text} (h : s.all isPlainAscii = true) :
    s.all isPlain = true :=
  List.all_eq_true.2 fun c hc => (isPlainAscii_iff.1 (List.all_eq_true.1 h c hc)).1

theorem isAscii_of_isPlainAscii {s : Text} (h : s.all isPlainAscii = true) : IsAscii s :=
  fun c hc => (isPlainAscii_iff.1 (List.all_eq_true.1 h c hc)).2

/-! ## Tables -/

theorem isAscii_of_mem_asciiSpelled {p : Char × Spelling} (h : p ∈ asciiSpelled) :
    IsAscii p.2.latex := by
  have htable : (asciiSpelled.all fun p => decide (IsAscii p.2.latex)) = true := by
    decide +kernel
  exact of_decide_eq_true (List.all_eq_true.1 htable p h)

theorem isAscii_of_spelling? {mode : Mode} {c : Char} {s : Spelling}
    (h : spelling? mode c = some s) : IsAscii s.latex :=
  isAscii_of_mem_asciiSpelled (mem_asciiSpelled h)

theorem isAscii_of_accent? {mark : Char} {command : Text} (h : accent? mark = some command) :
    IsAscii command := by
  have hcommands : (accents.all fun p => decide (IsAscii p.2)) = true := by decide
  exact of_decide_eq_true (List.all_eq_true.1 hcommands _ (mem_of_lookup h))

/-! ## Numbers -/

theorem isAscii_digitChar (d : Nat) :
    (Nat.digitChar d).toNat < 0x80 ∧ (Nat.digitChar d).toUpper.toNat < 0x80 :=
  Text.forall_digitChar (p := fun c => c.toNat < 0x80 ∧ c.toUpper.toNat < 0x80) (by decide)
    (by decide) d

theorem isAscii_hex (width n : Nat) : IsAscii (Text.hex width n) := by
  intro c hc
  obtain ⟨d, rfl⟩ := Text.exists_digitChar_of_mem_hex hc
  exact (isAscii_digitChar d).1

theorem isAscii_decimal (n : Nat) : IsAscii (Text.decimal n) := by
  intro c hc
  obtain ⟨d, rfl⟩ := Text.exists_digitChar_of_mem_toDigits hc
  exact (isAscii_digitChar d).1

theorem isAscii_signedDecimal (n : Int) : IsAscii (Text.signedDecimal n) := by
  cases n with
  | ofNat n => exact isAscii_decimal n
  | negSucc n => exact isAscii_cons.2 ⟨by decide, isAscii_decimal (n + 1)⟩

theorem isAscii_capitalHex (width n : Nat) : IsAscii (Text.capitalHex width n) := by
  intro c hc
  obtain ⟨digit, hdigit, rfl⟩ := List.mem_map.1 hc
  obtain ⟨d, rfl⟩ := Text.exists_digitChar_of_mem_hex hdigit
  exact (isAscii_digitChar d).2

theorem isAscii_byNumber (c : Char) : IsAscii (byNumber c) := by
  have hopen : IsAscii r#"{\char""#.toList := by decide
  have hclose : IsAscii r"}".toList := by decide
  exact (hopen.append (isAscii_capitalHex 4 c.toNat)).append hclose

/-! ## Letters and their marks -/

theorem isAscii_accented {command letter : Text} (hcommand : IsAscii command)
    (hletter : IsAscii letter) : IsAscii (accented command letter) := by
  have hopen : IsAscii r"{\".toList := by decide
  have hspace : IsAscii " ".toList := by decide
  have hclose : IsAscii r"}".toList := by decide
  unfold accented
  split
  · exact (((hopen.append hcommand).append hspace).append hletter).append hclose
  · exact ((hopen.append hcommand).append hletter).append hclose

theorem isAscii_withMarks {letter : Text} (h : IsAscii letter) (marks : List Char) :
    IsAscii (withMarks letter marks) := by
  unfold withMarks
  induction marks generalizing letter with
  | nil => exact h
  | cons mark marks ih =>
    refine ih ?_
    dsimp only
    cases hmark : accent? mark with
    | none => exact h
    | some command => exact isAscii_accented (isAscii_of_accent? hmark) h

theorem isAscii_bareLetter (base : Char) : IsAscii (bareLetter base) := by
  unfold bareLetter
  cases hspelled : spelling? .ascii base with
  | none =>
    dsimp only
    split
    · next hbase => exact isAscii_cons.2 ⟨hbase, isAscii_nil⟩
    · exact isAscii_byNumber base
  | some s =>
    dsimp only
    split
    · exact isAscii_of_spelling? hspelled
    · -- a symbol of mathematics cannot stand under an accent
      exact isAscii_byNumber base

theorem isAscii_baseLetter (base : Char) (marks : List Char) : IsAscii (baseLetter base marks) := by
  unfold baseLetter
  split
  · next hdot =>
    simp only [Bool.and_eq_true, Bool.or_eq_true, decide_eq_true_eq] at hdot
    rcases hdot.1 with rfl | rfl
    · decide
    · decide
  · exact isAscii_bareLetter base

theorem isAscii_spellParts (parts : Text) : IsAscii (spellParts parts) := by
  fun_induction spellParts parts with
  | case1 => exact isAscii_nil
  | case2 base rest marks first ih =>
    refine IsAscii.append ?_ ih
    simp only [first]
    split
    · exact isAscii_byNumber base
    · exact isAscii_withMarks (isAscii_baseLetter base marks) marks

/-! ## Texts -/

theorem isAscii_mathGroup {pending : Text} (h : IsAscii pending) : IsAscii (mathGroup pending) := by
  have hopen : IsAscii mathOpen := by decide
  have hclose : IsAscii r"}".toList := by decide
  unfold mathGroup
  split
  · exact isAscii_nil
  · exact (hopen.append h).append hclose

theorem isAscii_plainChar (c : Char) : IsAscii (plainChar .ascii c) := by
  unfold plainChar
  split
  · exact isAscii_spellParts _
  · next hascii =>
    have hbound : c.toNat < 0x80 := by simpa using hascii
    exact isAscii_cons.2 ⟨hbound, isAscii_nil⟩

theorem isAscii_escapeFrom {pending : Text} (h : IsAscii pending) (s : Text) :
    IsAscii (escapeFrom .ascii pending s) := by
  induction s generalizing pending with
  | nil => exact isAscii_mathGroup h
  | cons c cs ih =>
    rw [escapeFrom]
    cases hspelled : spelling? .ascii c with
    | none => exact ((isAscii_mathGroup h).append (isAscii_plainChar c)).append (ih isAscii_nil)
    | some s =>
      have hlatex := isAscii_of_spelling? hspelled
      dsimp only
      split
      · exact ih (h.append hlatex)
      · exact ((isAscii_mathGroup h).append hlatex).append (ih isAscii_nil)

theorem isAscii_escape (s : Text) : IsAscii (escape .ascii s) := isAscii_escapeFrom isAscii_nil s

end Bibliography.Latex
