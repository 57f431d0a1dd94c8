import Bibliography.CiteKey.Function
import Bibliography.Proofs.Text.Pieces
import Bibliography.Proofs.Text.Trim
import Bibliography.Proofs.Unicode.Order

/-! # Cleaning character by character

Normalization works on a whole text, but what it reorders are marks, and those are dropped. So a
text is cleaned one character at a time, wherever it is cut, and nothing is left of a blank. Cut at
its blanks, cleaned word by word and put together again, it is the cleaned text.
-/

namespace Bibliography.CiteKey
set_option autoImplicit false
open Unicode Text

/-! ## Safe characters -/

theorem isSafe_iff {c : Char} :
    isSafe c = true ↔ c.isAlphanum = true ∨ c ∈ "-_!$*+./:;?[]".toList := by
  rw [isSafe, Bool.or_eq_true, List.contains_iff_mem]
  rfl

theorem toNat_of_isSafe {c : Char} (h : isSafe c = true) : c.toNat < 0x80 := by
  have hpunctuation : IsAscii safePunctuation := by decide
  rcases isSafe_iff.1 h with halphanum | hmem
  · exact toNat_of_isAlphanum halphanum
  · exact hpunctuation c hmem

/-- A safe character is no mark and no blank, and stands for itself. -/
theorem intact_of_isSafe {c : Char} (h : isSafe c = true) :
    decompose c = [c] ∧ isMark c = false ∧ spellLetter c = [c] ∧ isBlank c = false := by
  have hcode := toNat_of_isSafe h
  have hrow := of_all_codes (fun c => !isSafe c || (spellLetter c == [c] && !isBlank c)) 0 0x80
    (by decide) (Nat.zero_le _) hcode
  rw [h] at hrow
  obtain ⟨hspelled, hblank⟩ := Bool.and_eq_true_iff.1 hrow
  have hmark : isMark c = false := by
    have hearly : ¬0x300 ≤ c.toNat := by omega
    simp [isMark, hearly]
  exact ⟨if_pos hcode, hmark, eq_of_beq hspelled, by simpa using hblank⟩

/-! ## One character -/

/-- What is left of one character in a key. -/
def cleanChar (c : Char) : Text := ((unmarked (decompose c)).flatMap spellLetter).filter isSafe

theorem cleanChar_of_isSafe {c : Char} (h : isSafe c = true) : cleanChar c = [c] := by
  obtain ⟨hparts, hmark, hspelled, -⟩ := intact_of_isSafe h
  simp [cleanChar, unmarked, hparts, hmark, hspelled, h]

set_option maxRecDepth 8000 in
/-- A blank is unsafe, or decomposes into characters that are. -/
theorem cleanChar_of_isBlank {c : Char} (h : isBlank c = true) : cleanChar c = [] := by
  -- most blanks decompose into the space, and the others stay what they are
  have hblanks : (blanks.ranges.all fun r => (List.range' r.1 (r.2 + 1 - r.1)).all fun n =>
      (cleanChar (Char.ofNat n)).isEmpty) = true := by decide
  obtain ⟨r, hr, hlow, hhigh⟩ := CharSet.contains_iff.1 h
  exact List.isEmpty_iff.1 (of_all_codes (fun c => (cleanChar c).isEmpty) _ _
    (List.all_eq_true.1 hblanks r hr) hlow (by omega))

/-! ## Texts -/

/-- Trimming finds nothing to take off: no safe character is blank. -/
theorem trim_of_isSafe {s : Text} (h : ∀ c ∈ s, isSafe c = true) : trim s = s := by
  have hblank : ∀ c ∈ s, isBlank c = false := fun c hc => (intact_of_isSafe (h c hc)).2.2.2
  exact trim_eq (fun c hc => hblank c (List.mem_of_head? hc))
    (fun c hc => hblank c (List.mem_of_getLast? hc))

theorem clean_eq_flatMap (s : Text) : clean s = s.flatMap cleanChar := by
  have hsafe : ∀ c ∈ (withoutAccents s).filter isSafe, isSafe c = true := fun c hc =>
    (List.mem_filter.1 hc).2
  have hbare : withoutAccents s = (unmarked (compatible s)).flatMap spellLetter := rfl
  rw [clean, trim_of_isSafe hsafe, hbare, unmarked_compatible, List.flatMap_assoc,
    List.filter_flatMap]
  rfl

theorem clean_append (s t : Text) : clean (s ++ t) = clean s ++ clean t := by
  simp only [clean_eq_flatMap, List.flatMap_append]

/-- A text may be cut anywhere before it is cleaned. -/
theorem flatten_map_clean (pieces : List Text) :
    (pieces.map clean).flatten = clean pieces.flatten := by
  induction pieces with
  | nil => rfl
  | cons piece pieces ih =>
    rw [List.map_cons, List.flatten_cons, List.flatten_cons, ih, clean_append]

theorem clean_eq_self {s : Text} (h : ∀ c ∈ s, isSafe c = true) : clean s = s := by
  rw [clean_eq_flatMap]
  induction s with
  | nil => rfl
  | cons c s ih =>
    rw [List.forall_mem_cons] at h
    rw [List.flatMap_cons, cleanChar_of_isSafe h.1, ih h.2]
    rfl

/-! ## Words -/

/-- What is left of a text is left of its characters that are not blank. -/
theorem clean_filter_not_isBlank (s : Text) :
    clean (s.filter fun c => !isBlank c) = clean s := by
  rw [clean_eq_flatMap, clean_eq_flatMap]
  induction s with
  | nil => rfl
  | cons c s ih =>
    cases hc : isBlank c with
    | true => simp [hc, ih, cleanChar_of_isBlank hc]
    | false => simp [hc, ih]

theorem flatten_cleanWords (s : Text) : (cleanWords s).flatten = clean s :=
  calc (cleanWords s).flatten
    _ = ((words s).map clean).flatten := List.flatten_filter_not_isEmpty
    _ = clean (words s).flatten := flatten_map_clean _
    _ = clean (s.filter fun c => !isBlank c) := by rw [flatten_words]
    _ = clean s := clean_filter_not_isBlank s

set_option maxRecDepth 8000 in
-- a word may begin with a mark, and a dieresis on its own is made of a space and a mark
example : cleanWords "Étude \u0301op\u2003\u00a8 10" =
    ["Etude".toList, "op".toList, "10".toList] := by decide

/-- Nothing is lost between the words: cleaned one by one they make up the cleaned text, which is
what the title of a record yields. Cleaning it again changes nothing. -/
theorem cleanWords_lossless (s : Text) :
    (cleanWords s).flatten = clean s ∧ clean (clean s) = clean s ∧
      ∀ (types : TypeTable) (onlyEditors : Bool) (n m : Option Nat) (r : Record),
        Function.title.eval types onlyEditors n m r = clean r.title :=
  ⟨flatten_cleanWords s, clean_eq_self fun _ hc => isSafe_of_mem_clean hc,
    fun _ _ _ _ r => flatten_cleanWords r.title⟩

end Bibliography.CiteKey
