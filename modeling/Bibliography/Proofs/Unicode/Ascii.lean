import Bibliography.Unicode.CharSet

/-! # ASCII characters and texts

The classes of ASCII characters are bounds on code points. A text is ASCII if all its characters
are; what is put together of such texts is ASCII again.
-/

namespace Bibliography.Unicode
set_option autoImplicit false
variable {c : Char}

/-- A number that is no code point stands for the character zero. -/
theorem toNat_ofNat_cases (n : Nat) : (Char.ofNat n).toNat = n ∨ (Char.ofNat n).toNat = 0 := by
  by_cases hvalid : n.isValidChar
  · exact .inl (by rw [Char.ofNat, dif_pos hvalid]; rfl)
  · exact .inr (by rw [Char.ofNat, dif_neg hvalid]; rfl)

/-- What is checked of each code point of a stretch holds of the characters in it. -/
theorem of_all_codes (p : Char → Bool) (first count : Nat)
    (h : ((List.range' first count).all fun n => p (Char.ofNat n)) = true)
    (hlow : first ≤ c.toNat) (hhigh : c.toNat < first + count) : p c = true := by
  have hcode := List.all_eq_true.1 h c.toNat (List.mem_range'_1.2 ⟨hlow, hhigh⟩)
  rwa [Char.ofNat_toNat] at hcode

theorem isUpper_iff : c.isUpper = true ↔ 0x41 ≤ c.toNat ∧ c.toNat ≤ 0x5A :=
  decide_eq_true_iff

theorem isLower_iff : c.isLower = true ↔ 0x61 ≤ c.toNat ∧ c.toNat ≤ 0x7A := by
  show (decide ('a'.val ≤ c.val) && decide (c.val ≤ 'z'.val)) = true ↔ _
  rw [Bool.and_eq_true, decide_eq_true_iff, decide_eq_true_iff]
  exact Iff.rfl

theorem isAlpha_iff : c.isAlpha = true ↔ c.isUpper = true ∨ c.isLower = true :=
  Bool.or_eq_true_iff

theorem isAlphanum_iff : c.isAlphanum = true ↔ c.isAlpha = true ∨ c.isDigit = true :=
  Bool.or_eq_true_iff

theorem isAlpha_of_toLower (h : c.toLower.isLower = true) : c.isAlpha = true := by
  rw [isAlpha_iff]
  cases hcapital : c.isUpper with
  | true => exact .inl rfl
  | false =>
    have hsame : c.toLower = c := dif_neg (of_decide_eq_false hcapital)
    rw [hsame] at h
    exact .inr h

theorem toNat_of_isAlphanum (h : c.isAlphanum = true) : c.toNat < 0x80 := by
  rw [isAlphanum_iff, isAlpha_iff, isUpper_iff, isLower_iff, Char.isDigit_iff_toNat] at h
  have hnine : '9'.toNat = 0x39 := rfl
  omega

theorem toNat_of_isAlpha (h : c.isAlpha = true) : c.toNat < 0x80 :=
  toNat_of_isAlphanum (isAlphanum_iff.2 (.inl h))

/-! ## ASCII texts -/

/-- All characters of the text are ASCII. -/
def IsAscii (s : List Char) : Prop := ∀ c ∈ s, c.toNat < 0x80

theorem isAscii_iff_all {s : List Char} :
    IsAscii s ↔ (s.all fun c => decide (c.toNat < 0x80)) = true := by
  rw [List.all_eq_true]
  exact forall₂_congr fun c _ => decide_eq_true_iff.symm

instance (s : List Char) : Decidable (IsAscii s) := decidable_of_iff _ isAscii_iff_all.symm

theorem isAscii_nil : IsAscii [] := by simp [IsAscii]

theorem isAscii_cons {s : List Char} : IsAscii (c :: s) ↔ c.toNat < 0x80 ∧ IsAscii s :=
  List.forall_mem_cons

theorem isAscii_append {s t : List Char} : IsAscii (s ++ t) ↔ IsAscii s ∧ IsAscii t :=
  List.forall_mem_append

theorem IsAscii.append {s t : List Char} (hs : IsAscii s) (ht : IsAscii t) : IsAscii (s ++ t) :=
  isAscii_append.2 ⟨hs, ht⟩

theorem isAscii_flatten {ts : List (List Char)} :
    IsAscii ts.flatten ↔ ∀ t ∈ ts, IsAscii t := by
  simp only [IsAscii, List.mem_flatten, forall_exists_index, and_imp]
  exact ⟨fun h t ht c hc => h c t ht hc, fun h c t ht hc => h t ht c hc⟩

end Bibliography.Unicode
