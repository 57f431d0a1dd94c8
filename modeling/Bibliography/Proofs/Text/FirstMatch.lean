import Bibliography.Text.Search

/-! # The first match of a form

A form says how something may stand in a text: the stretch it takes up, what is read from it, and
what may follow. A test that recognizes a form at the beginning of a text, carried along the text,
finds the match that begins furthest to the left.
-/

namespace Bibliography.Text
set_option autoImplicit false

/-! ## Where a test first succeeds -/

section
variable {α : Type} {test : Text → Option α} {s before : Text} {a : α}

theorem leftmost_eq_none_iff :
    leftmost test s = none ↔ ∀ before rest, s = before ++ rest → test rest = none := by
  rw [← Option.not_isSome_iff_eq_none, leftmost_isSome_iff]
  simp only [not_exists, not_and, Option.not_isSome_iff_eq_none]

theorem length_le_of_leftmost (h : leftmost test s = some (before, a)) {before' rest : Text}
    (hs : s = before' ++ rest) (htest : (test rest).isSome = true) :
    before.length ≤ before'.length := by
  induction s generalizing before before' with
  | nil =>
    obtain ⟨rest', hcut, -⟩ := leftmost_eq_some h
    rw [(List.append_eq_nil_iff.1 hcut.symm).1]
    exact Nat.zero_le _
  | cons c s ih =>
    rw [leftmost] at h
    split at h
    · cases h
      exact Nat.zero_le _
    · next hnone =>
      obtain ⟨⟨inner, b⟩, hinner, hfound⟩ := Option.map_eq_some_iff.1 h
      cases hfound
      cases before' with
      | nil =>
        rw [← show c :: s = rest from hs, hnone] at htest
        simp at htest
      | cons c' before' => exact Nat.succ_le_succ (ih hinner (List.cons.inj hs).2)

theorem leftmost_eq_some_of_forall {rest : Text} (hs : s = before ++ rest)
    (htest : test rest = some a)
    (hleft : ∀ before' rest', s = before' ++ rest' → (test rest').isSome = true →
      before.length ≤ before'.length) : leftmost test s = some (before, a) := by
  have hsome : (leftmost test s).isSome = true :=
    leftmost_isSome_iff.2 ⟨before, rest, hs, by rw [htest]; rfl⟩
  obtain ⟨⟨first, b⟩, hfirst⟩ := Option.isSome_iff_exists.1 hsome
  obtain ⟨rest', hcut, hb⟩ := leftmost_eq_some hfirst
  have hle := length_le_of_leftmost hfirst hs (by rw [htest]; rfl)
  have hge := hleft first rest' hcut (by rw [hb]; rfl)
  -- both cut the text at one place
  obtain ⟨hbefore, hrest⟩ := List.append_inj (hcut.symm.trans hs) (Nat.le_antisymm hle hge)
  rw [hrest, htest] at hb
  rw [hfirst, hbefore, Option.some.inj hb]

end

/-! ## Where a text first occurs -/

theorem occursIn_eq_true_iff {p s : Text} : occursIn p s = true ↔ p <:+: s := by
  rw [occursIn, leftmost_isSome_iff]
  constructor
  · rintro ⟨before, rest, rfl, htest⟩
    obtain ⟨after, hafter⟩ := Option.isSome_iff_exists.1 htest
    exact ⟨before, after, by rw [after?_eq_some_iff.1 hafter, List.append_assoc]⟩
  · rintro ⟨before, after, rfl⟩
    refine ⟨before, p ++ after, List.append_assoc .., ?_⟩
    rw [after?_eq_some_iff.2 rfl]
    rfl

theorem takeWhile_of_notMem {s : Text} {c : Char} (h : c ∉ s) (rest : Text) :
    (s ++ c :: rest).takeWhile (· != c) = s :=
  takeWhile_of_stop (fun d hd => bne_iff_ne.2 fun heq => h (heq ▸ hd)) (by simp)

theorem dropWhile_of_notMem {s : Text} {c : Char} (h : c ∉ s) (rest : Text) :
    (s ++ c :: rest).dropWhile (· != c) = c :: rest :=
  dropWhile_of_stop (fun d hd => bne_iff_ne.2 fun heq => h (heq ▸ hd)) (by simp)

theorem eq_of_append_cons {s t s' t' : Text} {c : Char} (hs : c ∉ s) (ht : c ∉ t)
    (h : s ++ c :: s' = t ++ c :: t') : s = t := by
  rw [← takeWhile_of_notMem hs s', h, takeWhile_of_notMem ht]

/-- A text whose last character stands nowhere else in it does not overlap itself: if it occurs
further to the left, it occurs before. -/
theorem infix_of_length_lt {front before before' rest rest' : Text} {c : Char} (hc : c ∉ front)
    (h : before ++ (front ++ c :: rest) = before' ++ (front ++ c :: rest'))
    (hlt : before'.length < before.length) : front ++ [c] <:+: before := by
  rcases List.append_eq_append_iff.1 h with ⟨mid, rfl, -⟩ | ⟨mid, rfl, hmid⟩
  · rw [List.length_append] at hlt
    omega
  · -- the first `c` behind the place stands in `mid`, so what occurs there ends in it
    have hmem : c ∈ mid := by
      refine Decidable.byContradiction fun hnotMem => ?_
      have hfront : c ∉ mid ++ front := fun hm =>
        (List.mem_append.1 hm).elim hnotMem hc
      rw [← List.append_assoc] at hmid
      have hsame := eq_of_append_cons hc hfront hmid
      have hlength := congrArg List.length hsame
      rw [List.length_append] at hlt hlength
      omega
    obtain ⟨first, behind, rfl, hfirst⟩ := List.eq_append_cons_of_mem hmem
    rw [List.append_assoc, List.cons_append] at hmid
    obtain rfl := eq_of_append_cons hc hfirst hmid
    exact ⟨before', behind, by simp⟩

/-! ## Forms -/

/-- How something may stand in a text: the stretch it takes up, what is read from it, and what
follows. -/
abbrev Form := Text → Text → Text → Prop

/-- The test finds the form at the beginning of a text, and reads it as the form does. -/
def Recognizes (test : Text → Option (Text × Text)) (form : Form) : Prop :=
  ∀ s key after, test s = some (key, after) ↔ ∃ source, s = source ++ after ∧ form source key after

/-- The form stands nowhere in the text. -/
def NoMatch (form : Form) (s : Text) : Prop :=
  ∀ before source key after, s = before ++ source ++ after → ¬form source key after

/-- The text is cut at the match of the form that begins furthest to the left. -/
structure FirstMatch (form : Form) (s before source key after : Text) : Prop where
  text : s = before ++ source ++ after
  holds : form source key after
  leftmost : ∀ before' source' key' after', s = before' ++ source' ++ after' →
    form source' key' after' → before.length ≤ before'.length

section
variable {test : Text → Option (Text × Text)} {form : Form} (htest : Recognizes test form)
include htest

theorem Recognizes.isSome_iff {s : Text} :
    (test s).isSome = true ↔ ∃ source key after, s = source ++ after ∧ form source key after := by
  rw [Option.isSome_iff_exists]
  constructor
  · rintro ⟨⟨key, after⟩, h⟩
    obtain ⟨source, hs, hform⟩ := (htest s key after).1 h
    exact ⟨source, key, after, hs, hform⟩
  · rintro ⟨source, key, after, hs, hform⟩
    exact ⟨(key, after), (htest s key after).2 ⟨source, hs, hform⟩⟩

theorem leftmost_eq_none_iff_noMatch {s : Text} : leftmost test s = none ↔ NoMatch form s := by
  rw [leftmost_eq_none_iff]
  constructor
  · intro h before source key after hs hform
    have hnone := h before (source ++ after) (by rw [hs, List.append_assoc])
    rw [(htest _ key after).2 ⟨source, rfl, hform⟩] at hnone
    simp at hnone
  · intro h before rest hs
    rw [← Option.not_isSome_iff_eq_none, htest.isSome_iff]
    rintro ⟨source, key, after, rfl, hform⟩
    exact h before source key after (by rw [hs, List.append_assoc]) hform

/-- Carried along a text, the test finds the first match of the form and nothing else. -/
theorem leftmost_eq_some_iff_firstMatch {s before key after : Text} :
    leftmost test s = some (before, key, after) ↔
      ∃ source, FirstMatch form s before source key after := by
  constructor
  · intro h
    obtain ⟨rest, hs, hrest⟩ := leftmost_eq_some h
    obtain ⟨source, rfl, hform⟩ := (htest rest key after).1 hrest
    refine ⟨source, by rw [hs, List.append_assoc], hform, ?_⟩
    intro before' source' key' after' hs' hform'
    rw [List.append_assoc] at hs'
    exact length_le_of_leftmost h hs'
      (htest.isSome_iff.2 ⟨source', key', after', rfl, hform'⟩)
  · rintro ⟨source, hs, hform, hleft⟩
    rw [List.append_assoc] at hs
    refine leftmost_eq_some_of_forall hs ((htest _ key after).2 ⟨source, rfl, hform⟩) ?_
    intro before' rest' hs' hrest'
    obtain ⟨source', key', after', rfl, hform'⟩ := htest.isSome_iff.1 hrest'
    exact hleft before' source' key' after' (by rw [hs', List.append_assoc]) hform'

end

end Bibliography.Text
