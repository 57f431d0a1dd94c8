import Bibliography.Export.FieldValue
import Bibliography.Proofs.Markup.Balance

/-! # Escaped values are balanced

Links, numbers and rich text, and lists of such: what is escaped closes the groups it opens, if the
preformatted blocks of its texts do.
-/

namespace Bibliography
set_option autoImplicit false
open Text Latex Markup

/-! ## Numbers -/

theorem isPlain_of_mem_decimal {n : Nat} {c : Char} (h : c ∈ decimal n) : isPlain c = true := by
  obtain ⟨d, rfl⟩ := exists_digitChar_of_mem_toDigits h
  exact (isPlain_digitChar d).1

theorem isPlain_of_mem_hex {width n : Nat} {c : Char} (h : c ∈ hex width n) :
    isPlain c = true := by
  obtain ⟨d, rfl⟩ := exists_digitChar_of_mem_hex h
  exact (isPlain_digitChar d).1

theorem isPlain_of_mem_signedDecimal {n : Int} {c : Char} (h : c ∈ signedDecimal n) :
    isPlain c = true := by
  cases n with
  | ofNat n => exact isPlain_of_mem_decimal h
  | negSucc n =>
    rcases List.mem_cons.1 h with rfl | h
    · decide
    · exact isPlain_of_mem_decimal h

/-! ## Links -/

namespace Link

theorem balanced_byNumber (byte : UInt8) : BraceBalanced (byNumber byte) := by
  have hdigits : ∀ c ∈ hex 2 byte.toNat, isPlain c = true := fun _ => isPlain_of_mem_hex
  have hform : byNumber byte = '\\' :: '%' :: hex 2 byte.toNat := rfl
  rw [hform, BraceBalanced, depthAfter?_escape]
  exact depthAfter?_of_plain hdigits 0

theorem balanced_escapeChar (mode : Mode) (c : Char) : BraceBalanced (escapeChar mode c) := by
  unfold escapeChar
  split
  · rfl
  · next hspecial =>
    split
    · have hordinary : (!escaped.contains c) = true := by simpa using hspecial
      have hplain : isPlain c = true :=
        isPlain_of_test (p := fun c => !escaped.contains c) hordinary (by decide) (by decide)
          (by decide)
      exact BraceBalanced.of_plain (by simpa using hplain)
    · refine BraceBalanced.flatten ?_
      intro s hs
      obtain ⟨byte, -, rfl⟩ := List.mem_map.1 hs
      exact balanced_byNumber byte

theorem balanced_escape (mode : Mode) (s : Text) : BraceBalanced (escape mode s) := by
  refine BraceBalanced.flatten ?_
  intro t ht
  obtain ⟨c, -, rfl⟩ := List.mem_map.1 ht
  exact balanced_escapeChar mode c

theorem balanced_toLatex {mode : Mode} {fancy : Bool} {s : Text}
    (h : fancy = true → BalancedBlocks s) : BraceBalanced (toLatex mode fancy s) := by
  cases fancy with
  | false => exact balanced_escape mode s
  | true =>
    have hcommand : BraceBalanced ['\\', 'h', 'r', 'e', 'f'] := by decide
    have hform : toLatex mode true s = ['\\', 'h', 'r', 'e', 'f'] ++
        ('{' :: escape mode s ++ ['}']) ++ ('{' :: Markup.toLatex mode s ++ ['}']) := by
      simp [toLatex]
    rw [hform]
    exact (hcommand.append (balanced_escape mode s).braced).append ((h rfl).toLatex mode).braced

end Link

/-! ## Values -/

namespace Export

theorem balanced_joinWith {separator : Text} (hseparator : BraceBalanced separator) {ts : List Text}
    (h : ∀ t ∈ ts, BraceBalanced t) : BraceBalanced (joinWith separator ts) := by
  induction ts with
  | nil => exact BraceBalanced.nil
  | cons t ts ih =>
    have hfirst := h t (List.mem_cons_self ..)
    have hrest := ih fun u hu => h u (List.mem_cons_of_mem _ hu)
    cases ts with
    | nil => exact hfirst
    | cons u us => exact (hfirst.append hseparator).append hrest

namespace FieldValue

theorem balanced_escapeText {mode : Mode} {braces : Bool} {s latex : Text} (h : BalancedBlocks s)
    (hs : escapeText mode braces s = some latex) : BraceBalanced latex := by
  have hlatex := h.toLatex mode
  unfold escapeText at hs
  split at hs
  · simp at hs
  · split at hs
    · cases hs
      exact hlatex.braced
    · cases hs
      exact hlatex

mutual

/-- The texts of a value that are converted. -/
def texts : FieldValue → List Text
  | .number _ => []
  | .text s => [s]
  | .literal s => [s]
  | .list items => textsOfItems items

/-- The texts of the items that are converted. -/
def textsOfItems : List FieldValue → List Text
  | [] => []
  | v :: vs => texts v ++ textsOfItems vs

end

section
variable {style : EscapeStyle} {config : Config}

mutual

theorem balanced_escape (hseparator : BraceBalanced style.separator) :
    ∀ {v : FieldValue} {latex : Text}, (∀ s ∈ v.texts, BalancedBlocks s) →
      v.escape style config = some latex → BraceBalanced latex
  | .number n, latex, _, hlatex => by
    rw [escape] at hlatex
    cases hlatex
    exact BraceBalanced.of_plain fun c => isPlain_of_mem_signedDecimal
  | .text s, latex, h, hlatex => by
    rw [escape] at hlatex
    exact balanced_escapeText (h s (by simp [texts])) hlatex
  | .literal s, latex, h, hlatex => by
    rw [escape] at hlatex
    exact balanced_escapeText (h s (by simp [texts])) hlatex
  | .list items, latex, h, hlatex => by
    rw [texts] at h
    simp only [escape] at hlatex
    split at hlatex
    · simp at hlatex
    · cases hlatex
      exact balanced_joinWith hseparator (balanced_escapeItems hseparator h)

theorem balanced_escapeItems (hseparator : BraceBalanced style.separator) :
    ∀ {vs : List FieldValue}, (∀ s ∈ textsOfItems vs, BalancedBlocks s) →
      ∀ t ∈ escapeItems style config vs, BraceBalanced t
  | [], _, t, ht => by simp [escapeItems] at ht
  | v :: vs, h, t, ht => by
    rw [textsOfItems] at h
    have hrest : ∀ t ∈ escapeItems style config vs, BraceBalanced t :=
      balanced_escapeItems hseparator fun s hs => h s (List.mem_append_right _ hs)
    rw [escapeItems] at ht
    split at ht
    · next latex hlatex =>
      rcases List.mem_cons.1 ht with rfl | ht
      · exact balanced_escape hseparator (fun s hs => h s (List.mem_append_left _ hs)) hlatex
      · exact hrest t ht
    · exact hrest t ht

end

end
end FieldValue
end Export
end Bibliography
