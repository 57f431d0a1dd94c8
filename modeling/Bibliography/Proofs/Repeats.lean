import Bibliography.Text.Basic
import Mathlib.Data.List.Induction

/-! # Members that come again

Pins of a batch and fields of an entry are reported where a label comes again. `repeats` picks, out
of a list, the members whose label one before them has.
-/

namespace Bibliography
set_option autoImplicit false
variable {α β : Type} [BEq β]

/-- The members of a list whose label is also the label of a member before them. -/
def repeats (label : α → β) (xs : List α) : List α :=
  (xs.zipIdx.filter fun p => ((xs.take p.2).map label).contains (label p.1)).map Prod.fst

variable (label : α → β)

/-- One more member is a repeat if its label came before. -/
theorem repeats_concat (xs : List α) (x : α) :
    repeats label (xs ++ [x]) =
      repeats label xs ++ if (xs.map label).contains (label x) then [x] else [] := by
  have hbefore : ∀ p ∈ xs.zipIdx, (xs ++ [x]).take p.2 = xs.take p.2 := by
    intro p hp
    have hlt := List.snd_lt_of_mem_zipIdx hp
    rw [Nat.add_zero] at hlt
    exact List.take_append_of_le_length (Nat.le_of_lt hlt)
  have hold : xs.zipIdx.filter
      (fun p => (((xs ++ [x]).take p.2).map label).contains (label p.1)) =
        xs.zipIdx.filter fun p => ((xs.take p.2).map label).contains (label p.1) :=
    List.filter_congr fun p hp => by rw [hbefore p hp]
  have hnew : (xs ++ [x]).take xs.length = xs := List.take_left
  rw [repeats, List.zipIdx_append, List.filter_append, hold, List.map_append, Nat.zero_add,
    List.zipIdx_singleton, List.filter_cons]
  dsimp only
  rw [hnew]
  split
  · rfl
  · rfl

/-- A member is a repeat of what is picked by its label exactly if it is one of the whole list. -/
theorem repeats_filter [LawfulBEq β] (p : β → Bool) (xs : List α) :
    repeats label (xs.filter fun x => p (label x)) =
      (repeats label xs).filter fun x => p (label x) := by
  induction xs using List.reverseRecOn with
  | nil => rfl
  | append_singleton xs x ih =>
    rw [List.filter_append, repeats_concat, List.filter_append, ← ih]
    cases hx : p (label x) with
    | true =>
      have hpicked : [x].filter (fun x => p (label x)) = [x] := by simp [hx]
      have hlabels : ((xs.filter fun x => p (label x)).map label).contains (label x) =
          (xs.map label).contains (label x) := by
        rw [Bool.eq_iff_iff, List.contains_iff_mem, List.contains_iff_mem, List.mem_map,
          List.mem_map]
        constructor
        · rintro ⟨y, hy, heq⟩
          exact ⟨y, (List.mem_filter.1 hy).1, heq⟩
        · rintro ⟨y, hy, heq⟩
          exact ⟨y, List.mem_filter.2 ⟨hy, by rw [heq]; exact hx⟩, heq⟩
      rw [hpicked, repeats_concat, hlabels]
      split
      · rw [hpicked]
      · rfl
    | false =>
      have hdropped : [x].filter (fun x => p (label x)) = [] := by simp [hx]
      rw [hdropped, List.append_nil]
      split
      · rw [hdropped, List.append_nil]
      · exact (List.append_nil _).symm

end Bibliography
