import Bibliography.CiteKey.Suffix
import Bibliography.Proofs.Unicode.Ascii
import Mathlib.Data.List.Induction
import Mathlib.Data.List.Shortlex
import Mathlib.Data.Set.Function

/-! # The number of a suffix

`suffixValue` reads a suffix as a number whose digits run from 1 to 26. It takes a suffix back to
its place in the sequence, so no two suffixes are equal. Every text of small letters has a value,
and is the suffix of that number; so the sequence goes through all of them, and as the values grow
with the texts, it does so in their order.
-/

namespace Bibliography.CiteKey
set_option autoImplicit false
open Unicode

/-- The digit a small letter stands for, from 1 for `a` to 26 for `z`. -/
def letterValue (c : Char) : Nat := c.toNat - 'a'.toNat + 1

/-- The number the letters of a suffix spell, the last letter counting least. -/
def suffixValue (s : Text) : Nat := s.foldl (fun n c => 26 * n + letterValue c) 0

/-! ## Letters -/

theorem smallLetter_toNat (i : Nat) : (smallLetter i).toNat = 'a'.toNat + i % 26 := by
  have h : ∀ k < 26, (Char.ofNat ('a'.toNat + k)).toNat = 'a'.toNat + k := by decide
  exact h (i % 26) (Nat.mod_lt i (by omega))

theorem isLower_smallLetter (i : Nat) : (smallLetter i).isLower = true := by
  have ha : 'a'.toNat = 0x61 := rfl
  rw [isLower_iff, smallLetter_toNat]
  omega

theorem letterValue_smallLetter (i : Nat) : letterValue (smallLetter i) = i % 26 + 1 := by
  rw [letterValue, smallLetter_toNat]
  omega

theorem one_le_letterValue (c : Char) : 1 ≤ letterValue c := Nat.le_add_left 1 _

theorem letterValue_le {c : Char} (h : c.isLower = true) : letterValue c ≤ 26 := by
  have ha : 'a'.toNat = 0x61 := rfl
  rw [isLower_iff] at h
  rw [letterValue]
  omega

theorem letterValue_lt_iff {c d : Char} (hc : c.isLower = true) :
    letterValue c < letterValue d ↔ c < d := by
  have ha : 'a'.toNat = 0x61 := rfl
  have hlt : c < d ↔ c.toNat < d.toNat := Iff.rfl
  rw [isLower_iff] at hc
  rw [letterValue, letterValue, hlt]
  omega

theorem smallLetter_eq {c : Char} (hc : c.isLower = true) {i : Nat}
    (h : i % 26 + 1 = letterValue c) : smallLetter i = c := by
  have ha : 'a'.toNat = 0x61 := rfl
  rw [isLower_iff] at hc
  rw [letterValue] at h
  have hcode : 'a'.toNat + i % 26 = c.toNat := by omega
  rw [smallLetter, hcode, Char.ofNat_toNat]

/-! ## Suffixes and their values -/

theorem suffixValue_concat (s : Text) (c : Char) :
    suffixValue (s ++ [c]) = 26 * suffixValue s + letterValue c := by
  simp only [suffixValue, List.foldl_append, List.foldl_cons, List.foldl_nil]

/-- The suffix number `n` spells the number after `n`. -/
theorem suffixValue_suffix (n : Nat) : suffixValue (suffix n) = n + 1 := by
  induction n using suffix.induct with
  | case1 n h =>
    rw [suffix, if_pos h, suffixValue, List.foldl_cons, List.foldl_nil, letterValue_smallLetter]
    omega
  | case2 n h ih =>
    rw [suffix, if_neg h, suffixValue_concat, ih, letterValue_smallLetter]
    omega

theorem suffix_injective {m n : Nat} (h : suffix m = suffix n) : m = n := by
  have hv := congrArg suffixValue h
  rw [suffixValue_suffix, suffixValue_suffix] at hv
  omega

theorem suffix_ne_nil (n : Nat) : suffix n ≠ [] := by
  rw [suffix]
  split <;> simp

theorem exists_of_mem_suffix {n : Nat} {c : Char} (h : c ∈ suffix n) : ∃ i, c = smallLetter i := by
  induction n using suffix.induct with
  | case1 n hn =>
    rw [suffix, if_pos hn] at h
    exact ⟨n, List.mem_singleton.1 h⟩
  | case2 n hn ih =>
    rw [suffix, if_neg hn] at h
    rcases List.mem_append.1 h with h | h
    · exact ih h
    · exact ⟨n, List.mem_singleton.1 h⟩

/-! ## Texts of small letters -/

/-- All characters of the text are small letters. -/
def IsSmall (s : Text) : Prop := ∀ c ∈ s, c.isLower = true

theorem isSmall_suffix (n : Nat) : IsSmall (suffix n) := by
  intro c hc
  obtain ⟨i, rfl⟩ := exists_of_mem_suffix hc
  exact isLower_smallLetter i

theorem isSmall_concat {s : Text} {c : Char} :
    IsSmall (s ++ [c]) ↔ IsSmall s ∧ c.isLower = true := by
  rw [IsSmall, List.forall_mem_append, List.forall_mem_singleton]
  rfl

theorem suffixValue_pos {s : Text} (h : s ≠ []) : 0 < suffixValue s := by
  obtain rfl | ⟨s, c, rfl⟩ := s.eq_nil_or_concat'
  · exact absurd rfl h
  · have hc := one_le_letterValue c
    rw [suffixValue_concat]
    omega

/-- A text of small letters is the suffix whose number is one below its value. -/
theorem suffix_of_value {s : Text} (hs : IsSmall s) {n : Nat} (h : suffixValue s = n + 1) :
    suffix n = s := by
  induction s using List.reverseRecOn generalizing n with
  | nil => exact absurd h (Nat.succ_ne_zero n).symm
  | append_singleton s c ih =>
    obtain ⟨hs, hc⟩ := isSmall_concat.1 hs
    have hone := one_le_letterValue c
    have hle := letterValue_le hc
    rw [suffixValue_concat] at h
    have hlast : smallLetter n = c := smallLetter_eq hc (by omega)
    by_cases hnil : s = []
    · subst hnil
      have hzero : suffixValue [] = 0 := rfl
      rw [suffix, if_pos (by omega), hlast, List.nil_append]
    · -- the letters before the last one carry their value over into `n / 26`
      have hpos := suffixValue_pos hnil
      have hbefore : suffix (n / 26 - 1) = s := ih hs (by omega)
      rw [suffix, if_neg (by omega), hbefore, hlast]

theorem suffixValue_inj {s t : Text} (hs : IsSmall s) (ht : IsSmall t)
    (h : suffixValue s = suffixValue t) : s = t := by
  by_cases hnil : s = []
  · subst hnil
    by_contra ht
    exact absurd h (Nat.ne_of_lt (suffixValue_pos (Ne.symm ht)))
  · have hpos := suffixValue_pos hnil
    obtain ⟨n, hn⟩ : ∃ n, suffixValue s = n + 1 := ⟨suffixValue s - 1, by omega⟩
    rw [← suffix_of_value hs hn, suffix_of_value ht (h ▸ hn)]

/-! ## The order of suffixes -/

section
variable {α : Type} {r : α → α → Prop}

theorem lex_concat_iff {s t : List α} (h : s.length = t.length) {a b : α} :
    List.Lex r (s ++ [a]) (t ++ [b]) ↔ List.Lex r s t ∨ s = t ∧ r a b := by
  induction s generalizing t with
  | nil =>
    obtain rfl := List.length_eq_zero_iff.1 h.symm
    simp
  | cons x s ih =>
    cases t with
    | nil => cases h
    | cons y t =>
      rw [List.cons_append, List.cons_append, List.cons_lex_cons_iff, List.cons_lex_cons_iff,
        ih (Nat.succ.inj h), List.cons.injEq, and_or_left, or_assoc, and_assoc]

theorem shortlex_concat_iff {s t : List α} {a b : α} :
    List.Shortlex r (s ++ [a]) (t ++ [b]) ↔ List.Shortlex r s t ∨ s = t ∧ r a b := by
  rw [List.shortlex_def, List.shortlex_def, List.length_append, List.length_append,
    List.length_singleton, List.length_singleton, Nat.add_lt_add_iff_right,
    Nat.add_right_cancel_iff]
  by_cases h : s.length = t.length
  · simp [h, lex_concat_iff h]
  · have hne : s ≠ t := fun heq => h (congrArg List.length heq)
    simp [h, hne]

end

/-- A text of small letters spells the greater number if it is the longer one, or if it comes later
among those of its length. -/
theorem suffixValue_lt_iff {s t : Text} (hs : IsSmall s) (ht : IsSmall t) :
    suffixValue s < suffixValue t ↔ List.Shortlex (· < ·) s t := by
  induction s using List.reverseRecOn generalizing t with
  | nil =>
    by_cases hnil : t = []
    · simp [hnil]
    · exact iff_of_true (suffixValue_pos hnil)
        (List.Shortlex.of_length_lt (List.length_pos_iff.2 hnil))
  | append_singleton s c ih =>
    obtain ⟨hs, hc⟩ := isSmall_concat.1 hs
    obtain rfl | ⟨t, d, rfl⟩ := t.eq_nil_or_concat'
    · exact iff_of_false (Nat.not_lt_zero _) List.not_shortlex_nil_right
    · obtain ⟨ht, hd⟩ := isSmall_concat.1 ht
      have hsame : s = t ↔ suffixValue s = suffixValue t :=
        ⟨congrArg suffixValue, suffixValue_inj hs ht⟩
      have hcone := one_le_letterValue c
      have hcle := letterValue_le hc
      have hdone := one_le_letterValue d
      have hdle := letterValue_le hd
      rw [shortlex_concat_iff, ← ih hs ht, hsame, ← letterValue_lt_iff hc, suffixValue_concat,
        suffixValue_concat]
      omega

/-- The suffixes are all texts of small letters but the empty one, each of them once: the shorter
ones first, and those of one length in alphabetical order. -/
theorem suffix_orderIso :
    Set.BijOn suffix Set.univ {s | s ≠ [] ∧ ∀ c ∈ s, c.isLower = true} ∧
      ∀ m n, m < n ↔ (suffix m).length < (suffix n).length ∨
        (suffix m).length = (suffix n).length ∧ suffix m < suffix n := by
  refine ⟨⟨?_, ?_, ?_⟩, ?_⟩
  · exact fun n _ => ⟨suffix_ne_nil n, isSmall_suffix n⟩
  · exact fun m _ n _ h => suffix_injective h
  · rintro s ⟨hne, hsmall⟩
    have hpos := suffixValue_pos hne
    exact ⟨suffixValue s - 1, Set.mem_univ _, suffix_of_value hsmall (by omega)⟩
  · intro m n
    have hvalue := suffixValue_lt_iff (isSmall_suffix m) (isSmall_suffix n)
    rw [suffixValue_suffix, suffixValue_suffix, Nat.add_lt_add_iff_right] at hvalue
    exact hvalue.trans List.shortlex_def

end Bibliography.CiteKey
