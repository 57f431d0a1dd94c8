import Bibliography.Latex.Group

/-! # Balanced braces

`depthAfter?` reads a LaTeX text from left to right and counts the groups that are open. A backslash
hides the character after it. There is no depth behind a text that closes a group it did not open,
or that ends in the middle of an escape.

* `BraceBalanced`: the text closes every group it opens, and no other.
* `Joinable`: besides, it leaves no escaped opening brace directly before a closing one, also when
  it is put behind another such text. Collapsing empty groups keeps the depth of such a text.
* `Enclosable`: it may also be put into braces.
-/

namespace Bibliography.Latex
set_option autoImplicit false
open Text

/-- The depth of the groups behind a text that begins at the given depth. -/
def depthAfter? (d : Nat) : Text → Option Nat
  | [] => some d
  | c :: s =>
    if c = '\\' then
      match s with
      | [] => none
      | _ :: s => depthAfter? d s
    else if c = '{' then depthAfter? (d + 1) s
    else if c = '}' then
      match d with
      | 0 => none
      | d + 1 => depthAfter? d s
    else depthAfter? d s

/-- Every group that is opened is closed, and no other. -/
def BraceBalanced (s : Text) : Prop := depthAfter? 0 s = some 0

instance (s : Text) : Decidable (BraceBalanced s) := inferInstanceAs (Decidable (_ = _))

/-- Neither a brace nor a backslash. -/
def isPlain (c : Char) : Bool := isNoBrace c && c != '\\'

theorem isPlain_iff {c : Char} :
    isPlain c = true ↔ c ≠ '\\' ∧ c ≠ '{' ∧ c ≠ '}' := by
  simp only [isPlain, isNoBrace, Bool.and_eq_true, bne_iff_ne, and_comm]

/-- Characters that pass a test which the braces and the backslash fail are plain. -/
theorem isPlain_of_test {p : Char → Bool} {c : Char} (h : p c = true) (hslash : p '\\' = false)
    (hopen : p '{' = false) (hclose : p '}' = false) : isPlain c = true := by
  have hne : ∀ d, p d = false → c ≠ d := by
    rintro d hd rfl
    rw [hd] at h
    simp at h
  exact isPlain_iff.2 ⟨hne _ hslash, hne _ hopen, hne _ hclose⟩

theorem isPlain_of_isBlank {c : Char} (h : Unicode.isBlank c = true) : isPlain c = true :=
  isPlain_of_test h (by decide) (by decide) (by decide)

/-! ## The depth of a text -/

@[simp] theorem depthAfter?_escape (d : Nat) (c : Char) (s : Text) :
    depthAfter? d ('\\' :: c :: s) = depthAfter? d s := rfl

@[simp] theorem depthAfter?_open (d : Nat) (s : Text) :
    depthAfter? d ('{' :: s) = depthAfter? (d + 1) s := by
  simp [depthAfter?.eq_def d]

@[simp] theorem depthAfter?_close (d : Nat) (s : Text) :
    depthAfter? (d + 1) ('}' :: s) = depthAfter? d s := by
  simp [depthAfter?.eq_def (d + 1)]

theorem depthAfter?_plain {c : Char} (h : isPlain c = true) (d : Nat) (s : Text) :
    depthAfter? d (c :: s) = depthAfter? d s := by
  obtain ⟨hslash, hopen, hclose⟩ := isPlain_iff.1 h
  rw [depthAfter?.eq_def]
  simp only [hslash, hopen, hclose, if_false]

/-- What follows a text is read at the depth the text leaves. -/
theorem depthAfter?_append {d e : Nat} {s : Text} (h : depthAfter? d s = some e) (t : Text) :
    depthAfter? d (s ++ t) = depthAfter? e t := by
  fun_induction depthAfter? d s with
  | case1 d => cases h; rfl
  | case2 d => simp at h
  | case3 d c s ih => exact ih h
  | case4 d s _ ih => exact (depthAfter?_open d (s ++ t)).trans (ih h)
  | case5 s => simp at h
  | case6 s d _ _ ih => exact (depthAfter?_close d (s ++ t)).trans (ih h)
  | case7 d c s hslash hopen hclose ih =>
    exact (depthAfter?_plain (isPlain_iff.2 ⟨hslash, hopen, hclose⟩) d (s ++ t)).trans (ih h)

theorem getLast?_cons_of_eq {c x : Char} {s : Text} (h : s.getLast? = some x) :
    (c :: s).getLast? = some x := by
  rw [List.getLast?_cons, h, Option.getD_some]

/-- Balanced or not, what follows a text is read at the depth the text leaves, unless the text ends
with the backslash of an escape. -/
theorem depthAfter?_append_of_getLast {s : Text} (h : s.getLast? ≠ some '\\') (d : Nat) (t : Text) :
    depthAfter? d (s ++ t) = (depthAfter? d s).bind fun e => depthAfter? e t := by
  fun_induction depthAfter? d s with
  | case1 d => rfl
  | case2 d => exact absurd rfl h
  | case3 d c s ih =>
    exact ih fun hlast => h (getLast?_cons_of_eq (getLast?_cons_of_eq hlast))
  | case4 d s _ ih =>
    rw [List.cons_append, depthAfter?_open]
    exact ih fun hlast => h (getLast?_cons_of_eq hlast)
  | case5 s => simp [depthAfter?.eq_def 0]
  | case6 s d _ _ ih =>
    rw [List.cons_append, depthAfter?_close]
    exact ih fun hlast => h (getLast?_cons_of_eq hlast)
  | case7 d c s hslash hopen hclose ih =>
    rw [List.cons_append, depthAfter?_plain (isPlain_iff.2 ⟨hslash, hopen, hclose⟩)]
    exact ih fun hlast => h (getLast?_cons_of_eq hlast)

/-- A text does the same deeper inside. -/
theorem depthAfter?_add {d e : Nat} {s : Text} (h : depthAfter? d s = some e) (k : Nat) :
    depthAfter? (d + k) s = some (e + k) := by
  fun_induction depthAfter? d s with
  | case1 d => cases h; rfl
  | case2 d => simp at h
  | case3 d c s ih => exact ih h
  | case4 d s _ ih =>
    have hdeeper := ih h
    rw [Nat.add_right_comm] at hdeeper
    rw [depthAfter?_open, hdeeper]
  | case5 s => simp at h
  | case6 s d _ _ ih =>
    rw [Nat.succ_add, depthAfter?_close, ih h]
  | case7 d c s hslash hopen hclose ih =>
    rw [depthAfter?_plain (isPlain_iff.2 ⟨hslash, hopen, hclose⟩), ih h]

theorem depthAfter?_of_plain {s : Text} (h : ∀ c ∈ s, isPlain c = true) (d : Nat) :
    depthAfter? d s = some d := by
  induction s with
  | nil => rfl
  | cons c cs ih =>
    rw [depthAfter?_plain (h c (List.mem_cons_self ..)),
      ih fun c hc => h c (List.mem_cons_of_mem _ hc)]

/-! ## Balanced texts -/

namespace BraceBalanced

theorem nil : BraceBalanced [] := rfl

theorem depth {s : Text} (h : BraceBalanced s) (d : Nat) : depthAfter? d s = some d := by
  have hdeeper := depthAfter?_add h d
  rwa [Nat.zero_add] at hdeeper

theorem append {s t : Text} (hs : BraceBalanced s) (ht : BraceBalanced t) :
    BraceBalanced (s ++ t) :=
  (depthAfter?_append hs t).trans ht

theorem flatten {ts : List Text} (h : ∀ t ∈ ts, BraceBalanced t) : BraceBalanced ts.flatten := by
  induction ts with
  | nil => exact nil
  | cons t ts ih =>
    exact (h t (List.mem_cons_self ..)).append (ih fun u hu => h u (List.mem_cons_of_mem _ hu))

theorem of_plain {s : Text} (h : ∀ c ∈ s, isPlain c = true) : BraceBalanced s :=
  depthAfter?_of_plain h 0

/-- A text in braces. -/
theorem braced {s : Text} (h : BraceBalanced s) : BraceBalanced ('{' :: s ++ ['}']) := by
  have hinside : depthAfter? 0 ('{' :: s) = some 1 := by rw [depthAfter?_open, h.depth]
  rw [BraceBalanced, depthAfter?_append hinside, depthAfter?_close, depthAfter?]

end BraceBalanced

/-! ## Escaped braces -/

/-- No escaped opening brace stands directly before a closing brace. -/
def isTidy : Text → Bool
  | [] => true
  | c :: s =>
    if c = '\\' then
      match s with
      | [] => true
      | c :: s => !(c == '{' && s.head? == some '}') && isTidy s
    else isTidy s

theorem isTidy_cons {c : Char} (h : c ≠ '\\') (s : Text) : isTidy (c :: s) = isTidy s := by
  rw [isTidy.eq_def]
  simp only [h, if_false]

theorem isTidy_escape (c : Char) (s : Text) :
    isTidy ('\\' :: c :: s) = (!(c == '{' && s.head? == some '}') && isTidy s) := rfl

/-- Tidy texts make a tidy text if their seam is: the second does not close where the first ends
with an opening brace. The first must not end within an escape, hence its depth. -/
theorem isTidy_append {d e : Nat} {s t : Text} (hdepth : depthAfter? d s = some e)
    (hs : isTidy s = true) (ht : isTidy t = true)
    (hseam : t.head? = some '}' → s.getLast? ≠ some '{') : isTidy (s ++ t) = true := by
  fun_induction depthAfter? d s with
  | case1 d => exact ht
  | case2 d => simp at hdepth
  | case3 d c s ih =>
    rw [isTidy_escape, Bool.and_eq_true] at hs
    have hinner : t.head? = some '}' → s.getLast? ≠ some '{' := fun hb hlast =>
      hseam hb (getLast?_cons_of_eq (getLast?_cons_of_eq hlast))
    rw [List.cons_append, List.cons_append, isTidy_escape, Bool.and_eq_true]
    refine ⟨?_, ih hdepth hs.2 hinner⟩
    cases s with
    | cons c' s => exact hs.1
    | nil =>
      by_cases hb : t.head? = some '}'
      · have hc : c ≠ '{' := fun hc => hseam hb (by rw [hc]; rfl)
        simp [hc]
      · simp [hb]
  | case4 d s hslash ih =>
    rw [isTidy_cons hslash] at hs
    rw [List.cons_append, isTidy_cons hslash]
    exact ih hdepth hs fun hb hlast => hseam hb (getLast?_cons_of_eq hlast)
  | case5 s => simp at hdepth
  | case6 s d hslash _ ih =>
    rw [isTidy_cons hslash] at hs
    rw [List.cons_append, isTidy_cons hslash]
    exact ih hdepth hs fun hb hlast => hseam hb (getLast?_cons_of_eq hlast)
  | case7 d c s hslash _ _ ih =>
    rw [isTidy_cons hslash] at hs
    rw [List.cons_append, isTidy_cons hslash]
    exact ih hdepth hs fun hb hlast => hseam hb (getLast?_cons_of_eq hlast)

theorem isTidy_of_plain {s : Text} (h : ∀ c ∈ s, isPlain c = true) : isTidy s = true := by
  induction s with
  | nil => rfl
  | cons c cs ih =>
    rw [isTidy_cons (isPlain_iff.1 (h c (List.mem_cons_self ..))).1]
    exact ih fun c hc => h c (List.mem_cons_of_mem _ hc)

/-! ## Texts to be joined and enclosed -/

/-- A balanced text that may stand behind any other. -/
structure Joinable (s : Text) : Prop where
  balanced : BraceBalanced s
  tidy : isTidy s = true
  front : s.head? ≠ some '}'

/-- A balanced text that may also stand in braces. -/
structure Enclosable (s : Text) : Prop extends Joinable s where
  back : s.getLast? ≠ some '{'

instance (s : Text) : Decidable (Enclosable s) :=
  decidable_of_iff
    ((BraceBalanced s ∧ isTidy s = true ∧ s.head? ≠ some '}') ∧ s.getLast? ≠ some '{')
    ⟨fun h => ⟨⟨h.1.1, h.1.2.1, h.1.2.2⟩, h.2⟩,
      fun h => ⟨⟨h.balanced, h.tidy, h.front⟩, h.back⟩⟩

theorem Joinable.nil : Joinable [] := ⟨BraceBalanced.nil, rfl, by simp⟩

theorem Joinable.append {s t : Text} (hs : Joinable s) (ht : Joinable t) : Joinable (s ++ t) where
  balanced := hs.balanced.append ht.balanced
  tidy := isTidy_append hs.balanced hs.tidy ht.tidy fun hb => absurd hb ht.front
  front := by
    cases s with
    | nil => exact ht.front
    | cons c s => exact hs.front

namespace Enclosable

theorem nil : Enclosable [] := ⟨Joinable.nil, by simp⟩

theorem append {s t : Text} (hs : Enclosable s) (ht : Enclosable t) : Enclosable (s ++ t) where
  toJoinable := hs.toJoinable.append ht.toJoinable
  back := by
    rw [List.getLast?_append]
    intro hb
    rcases Option.or_eq_some_iff.1 hb with hlast | ⟨-, hlast⟩
    · exact ht.back hlast
    · exact hs.back hlast

theorem of_plain {s : Text} (h : ∀ c ∈ s, isPlain c = true) : Enclosable s where
  balanced := BraceBalanced.of_plain h
  tidy := isTidy_of_plain h
  front := fun hb => (isPlain_iff.1 (h _ (List.mem_of_head? hb))).2.2 rfl
  back := fun hb => (isPlain_iff.1 (h _ (List.mem_of_getLast? hb))).2.1 rfl

theorem command {c : Char} {s : Text} (hc : isPlain c = true) (h : ∀ c ∈ s, isPlain c = true) :
    Enclosable ('\\' :: c :: s) := by
  have hname : Enclosable (c :: s) := of_plain (List.forall_mem_cons.2 ⟨hc, h⟩)
  refine ⟨⟨(BraceBalanced.of_plain h).depth 0, ?_, by simp⟩, ?_⟩
  · rw [isTidy_escape, isTidy_of_plain h]
    simp [(isPlain_iff.1 hc).2.1]
  · rw [List.getLast?_cons_cons]
    exact hname.back

/-- A text in braces may be put into braces again. -/
theorem braced {s : Text} (h : Enclosable s) : Enclosable ('{' :: s ++ ['}']) where
  balanced := h.balanced.braced
  tidy := by
    cases s with
    | nil => rfl
    | cons c s =>
      have hinside : depthAfter? 0 ('{' :: c :: s) = some 1 := by
        rw [depthAfter?_open, h.balanced.depth]
      refine isTidy_append hinside ?_ rfl fun _ hlast => h.back ?_
      · rw [isTidy_cons (by decide), h.tidy]
      · rwa [List.getLast?_cons_cons] at hlast
  front := by simp
  back := by
    rw [List.getLast?_append]
    simp

end Enclosable

end Bibliography.Latex
