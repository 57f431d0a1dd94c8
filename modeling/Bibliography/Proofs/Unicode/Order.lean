import Bibliography.Proofs.Unicode.Decomposition
import Bibliography.Unicode.Mark

/-! # Marks and their order

Only marks have a combining class, so putting a text in order moves nothing but marks, and moves
them past nothing but marks. Without its marks a decomposed text is what its characters are without
theirs, one after the other.
-/

namespace Bibliography.Unicode
set_option autoImplicit false

set_option maxRecDepth 8000 in
/-- The intervals of the combining classes lie within intervals of marks. -/
theorem classes_within_marks : (combiningClasses.all fun r =>
    marks.ranges.any fun m => r.2.1.ble m.2 && m.1.ble r.1) = true := by decide

theorem isMark_of_combiningClass {c : Char} (h : 0 < combiningClass c) : isMark c = true := by
  unfold combiningClass at h
  split at h
  · exact absurd h (Nat.lt_irrefl 0)
  · next hearly =>
    cases hfound : combiningClasses.find? fun r => r.1 ≤ c.toNat && c.toNat ≤ r.2.1 with
    | none =>
      rw [hfound] at h
      exact absurd h (Nat.lt_irrefl 0)
    | some r =>
      have hrange := List.find?_some hfound
      rw [Bool.and_eq_true, decide_eq_true_eq, decide_eq_true_eq] at hrange
      have hwithin := List.all_eq_true.1 classes_within_marks r (List.mem_of_find?_eq_some hfound)
      rw [isMark, Bool.and_eq_true, decide_eq_true_eq]
      exact ⟨Nat.le_of_not_lt hearly, CharSet.contains_of_within hwithin hrange.1 hrange.2⟩

/-- The text without its marks. -/
def unmarked (s : List Char) : List Char := s.filter fun c => !isMark c

theorem unmarked_append (s t : List Char) : unmarked (s ++ t) = unmarked s ++ unmarked t :=
  List.filter_append ..

/-- A character is moved only if it is a mark, and only past marks. -/
theorem unmarked_insertByClass (c : Char) (s : List Char) :
    unmarked (insertByClass c s) = unmarked (c :: s) := by
  induction s with
  | nil => rfl
  | cons d s ih =>
    rw [insertByClass]
    split
    · next hmoved =>
      rw [Bool.and_eq_true, decide_eq_true_eq, decide_eq_true_eq] at hmoved
      have hd : isMark d = true := isMark_of_combiningClass hmoved.1
      have hc : isMark c = true := isMark_of_combiningClass (Nat.lt_trans hmoved.1 hmoved.2)
      simp only [unmarked, List.filter_cons, hd, hc] at ih ⊢
      exact ih
    · rfl

theorem unmarked_orderMarks (s : List Char) : unmarked (orderMarks s) = unmarked s := by
  induction s with
  | nil => rfl
  | cons c s ih =>
    have hcons : ∀ t, unmarked (c :: t) = unmarked [c] ++ unmarked t := unmarked_append [c]
    rw [orderMarks, unmarked_insertByClass, hcons, ih, ← hcons]

/-- Without marks, a normalized text is put together character by character. -/
theorem unmarked_compatible (s : List Char) :
    unmarked (compatible s) = s.flatMap fun c => unmarked (decompose c) := by
  rw [compatible, unmarked_orderMarks, unmarked, List.filter_flatMap]
  rfl

end Bibliography.Unicode
