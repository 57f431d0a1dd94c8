import Bibliography.Proofs.Unicode.Ascii
import Bibliography.Text.Search
import Mathlib.Data.List.DropRight
import Mathlib.Data.List.TakeWhile

/-! # Trimming

What is not blank stays. A text that begins and ends with something else is left as it is, and so
is such a text inside a longer one, whatever blanks stand around the whole.
-/

namespace Bibliography.Text
set_option autoImplicit false
open Unicode

theorem isBlank_of_isAlphanum {c : Char} (h : c.isAlphanum = true) : isBlank c = false := by
  have hcode := of_all_codes (fun c => !c.isAlphanum || !isBlank c) 0 0x80 (by decide)
    (Nat.zero_le _) (toNat_of_isAlphanum h)
  simpa [h] using hcode

theorem mem_dropWhile {p : Char → Bool} {s : Text} {c : Char} (h : c ∈ s) (hc : p c = false) :
    c ∈ s.dropWhile p := by
  rw [← List.takeWhile_append_dropWhile (p := p) (l := s)] at h
  rcases List.mem_append.1 h with htaken | hleft
  · have hp := List.mem_takeWhile_imp htaken
    rw [hc] at hp
    cases hp
  · exact hleft

theorem mem_trim {s : Text} {c : Char} (h : c ∈ s) (hc : isBlank c = false) : c ∈ trim s := by
  have hstart : c ∈ (s.dropWhile isBlank).reverse := List.mem_reverse.2 (mem_dropWhile h hc)
  exact List.mem_reverse.2 (mem_dropWhile hstart hc)

/-! ## The end -/

theorem trimEnd_append_of_blank {s blanks : Text} (h : ∀ c ∈ blanks, isBlank c = true) :
    trimEnd (s ++ blanks) = trimEnd s := by
  have hreverse : ∀ c ∈ blanks.reverse, isBlank c = true := fun c hc => h c (List.mem_reverse.1 hc)
  rw [trimEnd, List.reverse_append, List.dropWhile_append_of_pos hreverse, trimEnd]

/-- Trimming the end stops at a last character that is not blank. -/
theorem trimEnd_append {s rest : Text} (h : ∀ c ∈ s.getLast?, isBlank c = false) :
    trimEnd (s ++ rest) = s ++ trimEnd rest := by
  have hstop : s.reverse.dropWhile isBlank = s.reverse := by
    rw [← List.head?_reverse] at h
    exact dropWhile_of_stop (s := []) (fun c hc => by cases hc) h
  rw [trimEnd, List.reverse_append, List.dropWhile_append, hstop, trimEnd]
  split
  · next hnil =>
    rw [List.isEmpty_iff.1 hnil, List.reverse_reverse, List.reverse_nil, List.append_nil]
  · rw [List.reverse_append, List.reverse_reverse]

/-- What is left of a text begins as the text did. -/
theorem mem_head?_of_trimEnd {s : Text} {c : Char} (h : c ∈ (trimEnd s).head?) : c ∈ s.head? := by
  obtain ⟨rest, hrest⟩ : trimEnd s <+: s := List.rdropWhile_prefix isBlank s
  obtain ⟨tail, htail⟩ := List.head?_eq_some_iff.1 h
  rw [← hrest, htail]
  rfl

/-! ## Both ends -/

/-- Blanks around a text are taken off, and nothing of a beginning that has none at its ends. -/
theorem trim_around {s rest before after : Text} (hne : s ≠ [])
    (hhead : ∀ c ∈ s.head?, isBlank c = false) (hlast : ∀ c ∈ s.getLast?, isBlank c = false)
    (hbefore : ∀ c ∈ before, isBlank c = true) (hafter : ∀ c ∈ after, isBlank c = true) :
    trim (before ++ (s ++ rest) ++ after) = s ++ trimEnd rest := by
  have hstart : ∀ c ∈ (s ++ rest ++ after).head?, isBlank c = false := by
    cases s with
    | nil => exact absurd rfl hne
    | cons c s => exact hhead
  rw [List.append_assoc, trim, dropWhile_of_stop hbefore hstart, trimEnd_append_of_blank hafter,
    trimEnd_append hlast]

theorem trim_eq {s : Text} (hhead : ∀ c ∈ s.head?, isBlank c = false)
    (hlast : ∀ c ∈ s.getLast?, isBlank c = false) : trim s = s := by
  have hstart : s.dropWhile isBlank = s :=
    dropWhile_of_stop (s := []) (fun c hc => by cases hc) hhead
  have hend : trimEnd (s ++ []) = s ++ trimEnd [] := trimEnd_append hlast
  rw [List.append_nil] at hend
  rw [trim, hstart, hend]
  exact List.append_nil s

end Bibliography.Text
