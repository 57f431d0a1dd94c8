import Bibliography.Json.Chars

/-! # Strings read back

A written string is read back as it was, whatever follows its closing quote: every character is
written as one that stands for itself, as an escape by letter, or as one by number.
-/

namespace Bibliography.Json
set_option autoImplicit false
open Text

/-- The three ways in which a character is written. -/
theorem writtenChar_cases (c : Char) :
    (∃ d, writtenChar c = ['\\', d] ∧ letterEscape? d = some c) ∨
      (isControl c = true ∧ writtenChar c = '\\' :: 'u' :: hex 4 c.toNat) ∨
      (c ≠ '"' ∧ c ≠ '\\' ∧ isControl c = false ∧ writtenChar c = [c]) := by
  unfold writtenChar
  split
  · exact .inl ⟨'"', rfl, rfl⟩
  · exact .inl ⟨'\\', rfl, rfl⟩
  · exact .inl ⟨'b', rfl, rfl⟩
  · exact .inl ⟨'f', rfl, rfl⟩
  · exact .inl ⟨'n', rfl, rfl⟩
  · exact .inl ⟨'r', rfl, rfl⟩
  · exact .inl ⟨'t', rfl, rfl⟩
  · rename_i hquote hslash _ _ _ _ _
    by_cases hc : isControl c = true
    · exact .inr (.inl ⟨hc, if_pos hc⟩)
    · exact .inr (.inr ⟨hquote, hslash, by simpa using hc, if_neg hc⟩)

/-! ## Escapes -/

/-- The value of a numeral of four digits, for the numbers of the control characters. -/
theorem hex_control : ∀ n < 0x20, (hex 4 n).length = 4 ∧
    ((hex 4 n).mapM hexDigitValue?).map (fun ds => ds.foldl (fun n d => 16 * n + d) 0) =
      some n := by
  decide

theorem unit_hex {n : Nat} (hn : n < 0x20) (s : Text) : unit (hex 4 n ++ s) = .ok n := by
  obtain ⟨hlen, hvalue⟩ := hex_control n hn
  obtain ⟨ds, hds, hfold⟩ := Option.map_eq_some_iff.1 hvalue
  have htake : (hex 4 n ++ s).take 4 = hex 4 n := List.take_left' hlen
  rw [unit, htake, hds]
  rcases hdigits : hex 4 n with _ | ⟨a, _ | ⟨b, _ | ⟨c, _ | ⟨d, _ | ⟨e, more⟩⟩⟩⟩⟩
  case cons.cons.cons.cons.nil => exact congrArg Except.ok hfold
  all_goals
    rw [hdigits] at hlen
    simp at hlen

theorem escape_letter {c d : Char} (h : letterEscape? d = some c) (s : Text) :
    escape (d :: s) = .ok (c, 1) := by
  have hu : letterEscape? 'u' = none := by decide
  unfold escape
  split
  · rename_i heq
    exact absurd heq (by simp)
  · rename_i heq
    obtain ⟨rfl, -⟩ := List.cons.inj heq
    rw [hu] at h
    cases h
  · rename_i heq
    obtain ⟨rfl, -⟩ := List.cons.inj heq
    simp only [h]

theorem escape_hex {n : Nat} (hn : n < 0x20) (s : Text) :
    escape ('u' :: (hex 4 n ++ s)) = .ok (Char.ofNat n, 5) := by
  have hlow : isLowSurrogate n = false := by
    simp only [isLowSurrogate, Bool.and_eq_false_iff, decide_eq_false_iff_not]
    omega
  have hhigh : isHighSurrogate n = false := by
    simp only [isHighSurrogate, Bool.and_eq_false_iff, decide_eq_false_iff_not]
    omega
  rw [escape, numberEscape, unit_hex hn]
  simp only [bind, Except.bind, hlow, hhigh, Bool.false_eq_true, if_false]

/-! ## Strings -/

theorem readChars_escape {s ds rest : Text} {c : Char} {n : Nat} (h : escape s = .ok (c, n))
    (hrest : readChars (s.drop n) = .ok (ds, rest)) :
    readChars ('\\' :: s) = .ok (c :: ds, rest) := by
  rw [readChars, if_neg (by decide), if_pos rfl]
  simp only [h, hrest, bind, Except.bind]

theorem readChars_writtenChar (c : Char) {s ds rest : Text} (h : readChars s = .ok (ds, rest)) :
    readChars (writtenChar c ++ s) = .ok (c :: ds, rest) := by
  rcases writtenChar_cases c with ⟨d, hw, hd⟩ | ⟨hc, hw⟩ | ⟨hquote, hslash, hc, hw⟩
  · rw [hw]
    exact readChars_escape (escape_letter hd s) h
  · have hn : c.toNat < 0x20 := by simpa [isControl] using hc
    have hescape := escape_hex hn s
    rw [Char.ofNat_toNat] at hescape
    rw [hw, List.cons_append, List.cons_append]
    refine readChars_escape hescape ?_
    rw [List.drop_succ_cons, List.drop_left' (hex_control _ hn).1, h]
  · rw [hw, List.singleton_append, readChars, if_neg hquote, if_neg hslash, hc]
    simp only [h, bind, Except.bind, Bool.false_eq_true, if_false]

theorem readChars_written (s rest : Text) :
    readChars (s.flatMap writtenChar ++ '"' :: rest) = .ok (s, rest) := by
  induction s with
  | nil => rw [List.flatMap_nil, List.nil_append, readChars, if_pos rfl]
  | cons c s ih =>
    rw [List.flatMap_cons, List.append_assoc]
    exact readChars_writtenChar c ih

end Bibliography.Json
