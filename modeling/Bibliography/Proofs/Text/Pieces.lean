import Bibliography.Text.Scanner
import Mathlib.Data.List.Chain

/-! # The pieces of a text

Cutting at a character gives one piece more than there are such characters, and none of them is left
in a piece. The segments of a scan are reduced, and written one after the other they are the text,
if the scanner can write what it finds. `segmentAt?` tells which of them a place of the text falls
into.
-/

namespace Bibliography.Text
set_option autoImplicit false

/-! ## Cutting at a character -/

theorem splitOn_cons_sep (sep : Char) (s : Text) :
    splitOn sep (sep :: s) = [] :: splitOn sep s := by
  simp [splitOn, splitWhere]

theorem exists_splitOn_eq_cons (sep : Char) (s : Text) :
    ∃ piece pieces, splitOn sep s = piece :: pieces :=
  List.exists_cons_of_ne_nil (splitWhere_ne_nil _ s)

theorem splitOn_cons_of_ne {sep c : Char} (h : c ≠ sep) {s piece : Text} {pieces : List Text}
    (hs : splitOn sep s = piece :: pieces) : splitOn sep (c :: s) = (c :: piece) :: pieces := by
  unfold splitOn at hs ⊢
  rw [splitWhere, hs]
  simp [h]

theorem length_splitOn (sep : Char) (s : Text) : (splitOn sep s).length = s.count sep + 1 := by
  induction s with
  | nil => rfl
  | cons c s ih =>
    by_cases h : c = sep
    · rw [h, splitOn_cons_sep, List.length_cons, ih, List.count_cons_self]
    · obtain ⟨piece, pieces, hs⟩ := exists_splitOn_eq_cons sep s
      rw [splitOn_cons_of_ne h hs, List.count_cons_of_ne h, ← ih, hs]
      rfl

theorem notMem_of_mem_splitOn {sep : Char} {s piece : Text} (h : piece ∈ splitOn sep s) :
    sep ∉ piece := by
  induction s generalizing piece with
  | nil =>
    rw [List.mem_singleton.1 h]
    exact List.not_mem_nil
  | cons c s ih =>
    by_cases hc : c = sep
    · rw [hc, splitOn_cons_sep] at h
      rcases List.mem_cons.1 h with rfl | h
      · exact List.not_mem_nil
      · exact ih h
    · obtain ⟨first, pieces, hs⟩ := exists_splitOn_eq_cons sep s
      rw [splitOn_cons_of_ne hc hs] at h
      rw [hs] at ih
      rcases List.mem_cons.1 h with rfl | h
      · exact List.not_mem_cons_of_ne_of_not_mem (Ne.symm hc) (ih (List.mem_cons_self ..))
      · exact ih (List.mem_cons_of_mem _ h)

/-- A text without the separator stands before the first piece of what follows. -/
theorem splitOn_append_of_notMem {sep : Char} {s t piece : Text} {pieces : List Text}
    (hs : sep ∉ s) (ht : splitOn sep t = piece :: pieces) :
    splitOn sep (s ++ t) = (s ++ piece) :: pieces := by
  induction s with
  | nil => exact ht
  | cons c s ih =>
    have hc : c ≠ sep := (List.ne_of_not_mem_cons hs).symm
    exact splitOn_cons_of_ne hc (ih (List.not_mem_of_not_mem_cons hs))

theorem splitOn_of_notMem {sep : Char} {s : Text} (h : sep ∉ s) : splitOn sep s = [s] := by
  have hs : splitOn sep (s ++ []) = [s ++ []] := splitOn_append_of_notMem h rfl
  rwa [List.append_nil] at hs

/-- A separator cuts, whatever stands before and behind it. -/
theorem splitOn_append (sep : Char) (s t : Text) :
    splitOn sep (s ++ sep :: t) = splitOn sep s ++ splitOn sep t := by
  induction s with
  | nil => exact splitOn_cons_sep sep t
  | cons c s ih =>
    by_cases h : c = sep
    · rw [h, List.cons_append, splitOn_cons_sep, splitOn_cons_sep, ih]
      rfl
    · obtain ⟨piece, pieces, hs⟩ := exists_splitOn_eq_cons sep s
      rw [hs] at ih
      rw [List.cons_append, splitOn_cons_of_ne h ih, splitOn_cons_of_ne h hs]
      rfl

/-- Joining texts without the separator and cutting at it gives them back. -/
theorem splitOn_joinWith {sep : Char} {ts : List Text} (hne : ts ≠ []) (h : ∀ t ∈ ts, sep ∉ t) :
    splitOn sep (joinWith [sep] ts) = ts := by
  induction ts with
  | nil => exact absurd rfl hne
  | cons t ts ih =>
    rw [List.forall_mem_cons] at h
    cases ts with
    | nil => exact splitOn_of_notMem h.1
    | cons u us =>
      rw [joinWith_cons [sep] t (List.cons_ne_nil u us), List.append_assoc, List.singleton_append,
        splitOn_append, splitOn_of_notMem h.1, ih (List.cons_ne_nil u us) h.2,
        List.singleton_append]

theorem mem_of_mem_joinWith {separator : Text} {ts : List Text} {c : Char}
    (h : c ∈ joinWith separator ts) : c ∈ separator ∨ ∃ t ∈ ts, c ∈ t := by
  induction ts with
  | nil => exact absurd h List.not_mem_nil
  | cons t ts ih =>
    cases ts with
    | nil => exact Or.inr ⟨t, List.mem_singleton_self t, h⟩
    | cons u us =>
      rw [joinWith_cons separator t (List.cons_ne_nil u us), List.mem_append, List.mem_append] at h
      rcases h with (hfirst | hseparator) | hrest
      · exact Or.inr ⟨t, List.mem_cons_self .., hfirst⟩
      · exact Or.inl hseparator
      · exact (ih hrest).imp_right fun ⟨v, hv, hc⟩ => ⟨v, List.mem_cons_of_mem _ hv, hc⟩

/-! ## What a cut keeps -/

/-- The pieces of a cut hold all characters but the separators. -/
theorem flatten_splitWhere (p : Char → Bool) (s : Text) :
    (splitWhere p s).flatten = s.filter fun c => !p c := by
  induction s with
  | nil => rfl
  | cons c s ih =>
    rw [splitWhere]
    cases hc : p c with
    | true => simp [hc, ih]
    | false =>
      obtain ⟨piece, pieces, hs⟩ := List.exists_cons_of_ne_nil (splitWhere_ne_nil p s)
      rw [hs] at ih
      simp [hc, hs, ← ih]

theorem flatten_words (s : Text) : (words s).flatten = s.filter fun c => !Unicode.isBlank c := by
  rw [words, List.flatten_filter_not_isEmpty, flatten_splitWhere]

/-! ## Reduced segments -/

namespace Segment
variable {α : Type}

def isRun : Segment α → Bool
  | run _ => true
  | found _ => false

/-- No run is empty, and no two runs are neighbours. -/
structure Reduced (ps : List (Segment α)) : Prop where
  nonempty : ∀ s, run s ∈ ps → s ≠ []
  separated : ps.IsChain fun p q => ¬(p.isRun = true ∧ q.isRun = true)

theorem Reduced.nil : Reduced ([] : List (Segment α)) := ⟨by simp, by simp⟩

theorem Reduced.found_cons {ps : List (Segment α)} (h : Reduced ps) (a : α) :
    Reduced (found a :: ps) where
  nonempty s hs := h.nonempty s (by simpa using hs)
  separated := List.isChain_cons.2 ⟨fun q _ => by simp [isRun], h.separated⟩

theorem Reduced.consRun {ps : List (Segment α)} (h : Reduced ps) (c : Char) :
    Reduced (consRun c ps) := by
  cases ps with
  | nil => exact ⟨by simp [Segment.consRun], by simp [Segment.consRun]⟩
  | cons p ps =>
    cases p with
    | run u =>
      -- the run grows, and what follows it stays
      obtain ⟨hnext, hrest⟩ := List.isChain_cons.1 h.separated
      refine ⟨?_, List.isChain_cons.2 ⟨hnext, hrest⟩⟩
      intro s hs
      rcases List.mem_cons.1 hs with hfirst | hs
      · cases hfirst
        exact List.cons_ne_nil c u
      · exact h.nonempty s (List.mem_cons_of_mem _ hs)
    | found a =>
      refine ⟨?_, List.isChain_cons_cons.2 ⟨by simp [isRun], h.separated⟩⟩
      intro s hs
      rcases List.mem_cons.1 hs with hfirst | hs
      · cases hfirst
        exact List.cons_ne_nil c []
      · exact h.nonempty s hs

/-! ## Places -/

/-- The segment into which a place of the text falls, and how far in it that is. -/
def segmentAt? (write : α → Text) : List (Segment α) → Nat → Option (Segment α × Nat)
  | [], _ => none
  | p :: ps, i =>
    if i < (p.text write).length then some (p, i)
    else segmentAt? write ps (i - (p.text write).length)

section
variable {write : α → Text}

theorem segmentAt?_of_lt {p : Segment α} {i : Nat} (h : i < (p.text write).length)
    (ps : List (Segment α)) : segmentAt? write (p :: ps) i = some (p, i) := if_pos h

theorem segmentAt?_behind (p : Segment α) (ps : List (Segment α)) (i : Nat) :
    segmentAt? write (p :: ps) ((p.text write).length + i) = segmentAt? write ps i := by
  rw [segmentAt?, if_neg (by omega), Nat.add_sub_cancel_left]

theorem segmentAt?_consRun_zero (write : α → Text) (c : Char) (ps : List (Segment α)) :
    ∃ u, segmentAt? write (consRun c ps) 0 = some (run u, 0) := by
  cases ps with
  | nil => exact ⟨[c], rfl⟩
  | cons p ps =>
    cases p with
    | run u => exact ⟨c :: u, rfl⟩
    | found a => exact ⟨[c], rfl⟩

/-- A character before a text moves what is found in it by one. -/
theorem segmentAt?_consRun_succ {c : Char} {ps : List (Segment α)} {i k : Nat} {a : α} :
    segmentAt? write (consRun c ps) (i + 1) = some (found a, k) ↔
      segmentAt? write ps i = some (found a, k) := by
  cases ps with
  | nil => simp [consRun, segmentAt?, text]
  | cons p ps =>
    cases p with
    | run u =>
      by_cases hu : i < u.length
      · simp [consRun, segmentAt?, text, hu]
      · simp [consRun, segmentAt?, text, hu]
    | found b =>
      have hbehind : segmentAt? write (run [c] :: found b :: ps) (1 + i) =
          segmentAt? write (found b :: ps) i := segmentAt?_behind (run [c]) (found b :: ps) i
      have hrun : consRun c (found b :: ps) = run [c] :: found b :: ps := rfl
      rw [hrun, Nat.add_comm i 1, hbehind]

end
end Segment

namespace Scanner
variable {α : Type} {t : Scanner α} {write : α → Text}

theorem Reads.infix_of_run {ps : List (Segment α)} {s u : Text} (h : t.Reads ps s)
    (hu : .run u ∈ ps) : u <:+: s := by
  induction h with
  | nil => cases hu
  | run _ ih =>
    rcases List.mem_cons.1 hu with hfirst | hmem
    · cases hfirst
      exact List.infix_append_left
    · exact List.infix_append_of_infix_right (ih hmem)
  | found _ _ ih =>
    have hmem : Segment.run u ∈ _ := List.mem_of_ne_of_mem (fun heq => by cases heq) hu
    exact List.infix_append_of_infix_right (ih hmem)

theorem reduced_segments (t : Scanner α) (s : Text) : Segment.Reduced (t.segments s) := by
  fun_induction segments t s with
  | case1 => exact Segment.Reduced.nil
  | case2 c s a rest _ ih => exact ih.found_cons a
  | case3 c s _ ih => exact ih.consRun c

section
variable (ht : ∀ {s : Text} {a : α} {rest : Text}, t.test s = some (a, rest) → s = write a ++ rest)
include ht

/-- If the scanner can write what it finds, writing its segments gives back the text. -/
theorem replace_eq_self (s : Text) : t.replace write s = s := by
  fun_induction segments t s with
  | case1 => exact replace_nil t write
  | case2 c s a rest htest ih => rw [replace_of_test write htest, ih, ← ht htest]
  | case3 c s htest ih => rw [replace_of_none write htest, ih]

theorem length_written_pos {s rest : Text} {a : α} (h : t.test s = some (a, rest)) :
    0 < (write a).length := by
  have hshorter := t.shorter h
  have hlength := congrArg List.length (ht h)
  rw [List.length_append] at hlength
  omega

/-- Outside of what was found before, something is found at a place exactly if the test succeeds
there. -/
theorem segmentAt?_segments_iff (before : Text) {after : Text} {c : Char}
    (houtside : ∀ a k, Segment.segmentAt? write (t.segments (before ++ c :: after)) before.length ≠
      some (.found a, k + 1)) {a : α} :
    Segment.segmentAt? write (t.segments (before ++ c :: after)) before.length =
      some (.found a, 0) ↔ ∃ rest, t.test (c :: after) = some (a, rest) := by
  -- a find takes up several characters of what stands before the place, so the induction is strong
  induction hn : before.length using Nat.strongRecOn generalizing before with
  | ind n ih =>
    subst hn
    cases before with
    | nil =>
      rw [List.nil_append, List.length_nil]
      cases htest : t.test (c :: after) with
      | none =>
        obtain ⟨u, hu⟩ := Segment.segmentAt?_consRun_zero write c (t.segments after)
        rw [segments_of_none htest, hu]
        simp
      | some found =>
        obtain ⟨b, rest⟩ := found
        have hpositive := length_written_pos ht htest
        rw [segments_of_test htest, Segment.segmentAt?_of_lt hpositive]
        simp
    | cons d before =>
      rw [List.cons_append] at houtside ⊢
      cases htest : t.test (d :: (before ++ c :: after)) with
      | none =>
        rw [segments_of_none htest] at houtside ⊢
        have hinner := ih before.length (Nat.lt_succ_self _) before
          (fun b k hb => houtside b k (Segment.segmentAt?_consRun_succ.2 hb)) rfl
        rw [List.length_cons, Segment.segmentAt?_consRun_succ, hinner]
      | some found =>
        obtain ⟨b, rest⟩ := found
        rw [segments_of_test htest] at houtside ⊢
        by_cases hinside : (d :: before).length < (write b).length
        · exact absurd (Segment.segmentAt?_of_lt hinside _) (houtside b before.length)
        · -- the place is behind what is found here, in the rest
          have hwhole : write b ++ rest = (d :: before) ++ c :: after := (ht htest).symm
          obtain ⟨behind, hbehind⟩ := List.prefix_of_prefix_length_le (List.prefix_append _ rest)
            (hwhole ▸ List.prefix_append _ _) (Nat.le_of_not_lt hinside)
          rw [← hbehind, List.append_assoc] at hwhole
          rw [List.append_cancel_left hwhole, ← hbehind, List.length_append] at houtside ⊢
          have hpositive := length_written_pos ht htest
          have hshorter : behind.length < (d :: before).length := by
            rw [← hbehind, List.length_append]
            omega
          have hplace : Segment.segmentAt? write (.found b :: t.segments (behind ++ c :: after))
              ((write b).length + behind.length) =
                Segment.segmentAt? write (t.segments (behind ++ c :: after)) behind.length :=
            Segment.segmentAt?_behind (.found b) _ _
          rw [hplace] at houtside ⊢
          exact ih behind.length hshorter behind houtside rfl

end
end Scanner

end Bibliography.Text
