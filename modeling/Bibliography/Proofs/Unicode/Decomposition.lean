import Bibliography.Unicode.Compatibility

/-! # Braces in decompositions

Some brackets of the presentation forms decompose into an opening brace, and into nothing else: no
letter is made of a brace and a mark. The rows of the tables are checked byte by byte, since a brace
is a byte of its own in any text.
-/

namespace Bibliography.Unicode
set_option autoImplicit false

/-! ## Order -/

theorem insertByClass_perm (c : Char) (s : List Char) : (insertByClass c s).Perm (c :: s) := by
  induction s with
  | nil => rfl
  | cons d ds ih =>
    rw [insertByClass]
    split
    · exact (ih.cons d).trans (List.Perm.swap c d ds)
    · rfl

/-- Ordering marks neither adds nor drops any character. -/
theorem orderMarks_perm (s : List Char) : (orderMarks s).Perm s := by
  induction s with
  | nil => rfl
  | cons c cs ih => exact (insertByClass_perm c (orderMarks cs)).trans (ih.cons c)

/-! ## Bytes -/

/-- The bytes of a text. -/
def bytes (s : String) : List UInt8 := s.toByteArray.data.toList

theorem bytes_eq_flatMap (s : String) : bytes s = s.toList.flatMap String.utf8EncodeChar := by
  have h := congrArg (fun b => b.data.toList) (String.utf8Encode_toList (b := s))
  simpa [bytes, List.utf8Encode] using h.symm

/-- The text is an opening brace or holds none, by its bytes. -/
def braceIsSole (s : String) : Bool := (bytes s).all (· != 0x7B) || bytes s == [0x7B]

theorem eq_brace_of_mem {s : String} (h : braceIsSole s = true) (hmem : '{' ∈ s.toList) :
    s.toList = ['{'] := by
  have hbyte : (0x7B : UInt8) ∈ bytes s := by
    rw [bytes_eq_flatMap, List.mem_flatMap]
    exact ⟨'{', hmem, by decide⟩
  rw [braceIsSole, Bool.or_eq_true, List.all_eq_true, beq_iff_eq] at h
  rcases h with h | h
  · exact absurd (h _ hbyte) (by decide)
  · have hs : s = r"{" :=
      String.toByteArray_inj.1 (ByteArray.ext (Array.toList_inj.1 h))
    rw [hs]
    rfl

/-! ## The tables -/

theorem braceIsSole_alphabetic :
    (Decomposition.alphabetic.all fun row => row.2.all braceIsSole) = true := by decide +kernel

theorem braceIsSole_symbolic :
    (Decomposition.symbolic.all fun row => row.2.all braceIsSole) = true := by decide +kernel

theorem braceIsSole_eastAsian :
    (Decomposition.eastAsian.all fun row => row.2.all braceIsSole) = true := by decide +kernel

theorem braceIsSole_presentation :
    (Decomposition.presentation.all fun row => row.2.all braceIsSole) = true := by decide +kernel

theorem braceIsSole_supplementary :
    (Decomposition.supplementary.all fun row => row.2.all braceIsSole) = true := by decide +kernel

theorem braceIsSole_of_mem_row {row : Nat × List String} (hrow : row ∈ decompositionRows)
    {s : String} (hs : s ∈ row.2) : braceIsSole s = true := by
  have hall : (decompositionRows.all fun row => row.2.all braceIsSole) = true := by
    simp only [decompositionRows, List.all_append, Bool.and_eq_true, braceIsSole_alphabetic,
      braceIsSole_symbolic, braceIsSole_eastAsian, braceIsSole_presentation,
      braceIsSole_supplementary, and_self]
  exact List.all_eq_true.1 (List.all_eq_true.1 hall row hrow) s hs

theorem tabulated_eq_brace {n : Nat} {parts : List Char}
    (h : tabulated decompositionRows n = some parts) (hmem : '{' ∈ parts) :
    parts = ['{'] := by
  obtain ⟨row, hrow, hfound⟩ := List.exists_of_findSome?_eq_some h
  split at hfound
  · obtain ⟨s, hs, rfl⟩ := Option.map_eq_some_iff.1 hfound
    exact eq_brace_of_mem (braceIsSole_of_mem_row hrow (List.mem_of_getElem? hs)) hmem
  · simp at hfound

/-! ## Characters -/

theorem notMem_jamo {i : Nat} (h : i < hangulCount) : '{' ∉ jamo i := by
  have hblock : ∀ k < 0x100, '{' ≠ Char.ofNat (0x1100 + k) := by decide +kernel
  have hcount : i < 19 * 588 := h
  have hlead := hblock (i / 588) (by omega)
  have hvowel := hblock (0x61 + i % 588 / 28) (by omega)
  have htail := hblock (0xA7 + i % 28) (by omega)
  rw [← Nat.add_assoc] at hvowel htail
  unfold jamo
  split
  · simp [hlead, hvowel]
  · simp [hlead, hvowel, htail]

theorem decompose_eq_brace {c : Char} (h : '{' ∈ decompose c) : decompose c = ['{'] := by
  have hsame : '{' ∈ [c] → [c] = ['{'] := fun hc => by rw [List.mem_singleton.1 hc]
  unfold decompose at h ⊢
  dsimp only at h ⊢
  split at h
  · next hascii =>
    rw [if_pos hascii]
    exact hsame h
  · next hascii =>
    rw [if_neg hascii]
    split at h
    · next hrange =>
      rw [Bool.and_eq_true, decide_eq_true_eq, decide_eq_true_eq] at hrange
      exact absurd h (notMem_jamo (by omega))
    · next hrange =>
      rw [if_neg hrange]
      cases htable : tabulated decompositionRows c.toNat with
      | none =>
        rw [htable] at h
        exact hsame h
      | some parts =>
        rw [htable] at h
        exact tabulated_eq_brace htable h

/-- A character with a brace among its parts is made of that brace alone. -/
theorem compatible_eq_brace {c : Char} (h : '{' ∈ compatible [c]) :
    compatible [c] = ['{'] := by
  have hmem : '{' ∈ decompose c := by
    simpa [compatible] using (orderMarks_perm _).mem_iff.1 h
  simp [compatible, decompose_eq_brace hmem, orderMarks, insertByClass]

end Bibliography.Unicode
