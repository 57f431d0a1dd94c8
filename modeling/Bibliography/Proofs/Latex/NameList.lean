import Bibliography.Proofs.Latex.Balance
import Bibliography.Text.Search

/-! # Lists of names

Whoever reads a list of names cuts it at each separator that stands outside braces, from left to
right. If the names are balanced, joining them and cutting gives them back exactly if none of them
is cut itself. A name that others follow is judged with the blank that the separator begins with,
since that may end a separator begun in the name.
-/

namespace Bibliography.Latex
set_option autoImplicit false
open Text

/-! ## Cutting -/

/-- What stands between two names. -/
def nameSeparator : Text := " and "

/-- What follows the separator at the beginning of a text, unless it stands in braces. -/
def afterSeparator? (d : Nat) (s : Text) : Option Text :=
  if d = 0 then after? nameSeparator s else none

/-- A cut that is found behind a text. -/
def cutBehind (front : Text) (found : Text × Text) : Text × Text := (front ++ found.1, found.2)

/-- The first separator outside braces: the text before it, and the text behind it. A backslash
hides the character after it, so that an escaped brace is none. -/
def firstCut? (d : Nat) : Text → Option (Text × Text)
  | [] => none
  | c :: s =>
    match afterSeparator? d (c :: s) with
    | some rest => some ([], rest)
    | none =>
      if c = '\\' then
        match s with
        | [] => none
        | e :: s => (firstCut? d s).map (cutBehind [c, e])
      else if c = '{' then (firstCut? (d + 1) s).map (cutBehind [c])
      else if c = '}' then (firstCut? (d - 1) s).map (cutBehind [c])
      else (firstCut? d s).map (cutBehind [c])

theorem afterSeparator?_of_ne {c : Char} (h : c ≠ ' ') (d : Nat) (s : Text) :
    afterSeparator? d (c :: s) = none := by
  unfold afterSeparator?
  split
  · rw [after?_eq_none_iff]
    exact fun hprefix => h (List.cons_prefix_cons.1 hprefix).1.symm
  · rfl

theorem afterSeparator?_eq_some_iff {d : Nat} {s rest : Text} :
    afterSeparator? d s = some rest ↔ d = 0 ∧ s = nameSeparator ++ rest := by
  rw [afterSeparator?, Option.ite_none_right_eq_some, after?_eq_some_iff]

theorem firstCut?_of_separator {d : Nat} {s rest : Text} (h : afterSeparator? d s = some rest) :
    firstCut? d s = some ([], rest) := by
  cases s with
  | nil =>
    have hnil : [] = ' ' :: ("and " ++ rest) := (afterSeparator?_eq_some_iff.1 h).2
    cases hnil
  | cons c s =>
    rw [firstCut?.eq_def]
    simp only [h]

theorem firstCut?_escape (d : Nat) (c : Char) (s : Text) :
    firstCut? d ('\\' :: c :: s) = (firstCut? d s).map (cutBehind ['\\', c]) := by
  rw [firstCut?.eq_def]
  simp only [afterSeparator?_of_ne (show '\\' ≠ ' ' by decide), if_true]

theorem firstCut?_open (d : Nat) (s : Text) :
    firstCut? d ('{' :: s) = (firstCut? (d + 1) s).map (cutBehind ['{']) := by
  rw [firstCut?.eq_def]
  simp [afterSeparator?_of_ne (show '{' ≠ ' ' by decide)]

theorem firstCut?_close (d : Nat) (s : Text) :
    firstCut? (d + 1) ('}' :: s) = (firstCut? d s).map (cutBehind ['}']) := by
  rw [firstCut?.eq_def]
  simp [afterSeparator?_of_ne (show '}' ≠ ' ' by decide)]

theorem firstCut?_plain {c : Char} (h : isPlain c = true) {d : Nat} {s : Text}
    (hs : afterSeparator? d (c :: s) = none) :
    firstCut? d (c :: s) = (firstCut? d s).map (cutBehind [c]) := by
  obtain ⟨hslash, hopen, hclose⟩ := isPlain_iff.1 h
  rw [firstCut?.eq_def]
  simp only [hs, hslash, hopen, hclose, if_false]

/-- What a cut takes out of a text behind another, it takes out of the whole. -/
theorem eq_of_map_cutBehind {found : Option (Text × Text)} {front s before behind : Text}
    (hs : ∀ before, found = some (before, behind) → s = before ++ nameSeparator ++ behind)
    (h : found.map (cutBehind front) = some (before, behind)) :
    front ++ s = before ++ nameSeparator ++ behind := by
  obtain ⟨⟨first, rest⟩, hfound, hbehind⟩ := Option.map_eq_some_iff.1 h
  obtain ⟨rfl, rfl⟩ := Prod.mk.inj hbehind
  rw [hs first hfound, List.append_assoc, List.append_assoc, List.append_assoc]

/-- A cut takes the separator out of the text and loses nothing else. -/
theorem eq_of_firstCut? {d : Nat} {s before behind : Text}
    (h : firstCut? d s = some (before, behind)) : s = before ++ nameSeparator ++ behind := by
  fun_induction firstCut? d s generalizing before with
  | case1 d => simp at h
  | case2 d c s rest hafter =>
    cases h
    exact (afterSeparator?_eq_some_iff.1 hafter).2
  | case3 d _ => simp at h
  | case4 d c s _ ih => exact eq_of_map_cutBehind (fun _ => ih) h
  | case5 d s _ _ ih => exact eq_of_map_cutBehind (fun _ => ih) h
  | case6 d s _ _ _ ih => exact eq_of_map_cutBehind (fun _ => ih) h
  | case7 d c s _ _ _ _ ih => exact eq_of_map_cutBehind (fun _ => ih) h

theorem map_cutBehind_cutBehind (front s : Text) (found : Option (Text × Text)) :
    (found.map (cutBehind s)).map (cutBehind front) = found.map (cutBehind (front ++ s)) := by
  rw [Option.map_map]
  refine congrArg (Option.map · found) (funext fun cut => ?_)
  simp [cutBehind]

/-- Nothing is cut within a group. -/
theorem firstCut?_inside {d e k : Nat} {s : Text} (h : depthAfter? d s = some e) (hk : 0 < k)
    (t : Text) : firstCut? (d + k) (s ++ t) = (firstCut? (e + k) t).map (cutBehind s) := by
  have hdeep : ∀ d s, afterSeparator? (d + k) s = none := fun d s => if_neg (by omega)
  fun_induction depthAfter? d s with
  | case1 d =>
    cases h
    exact Option.map_id'.symm
  | case2 d => simp at h
  | case3 d c s ih =>
    rw [List.cons_append, List.cons_append, firstCut?_escape, ih h, map_cutBehind_cutBehind]
    rfl
  | case4 d s _ ih =>
    rw [List.cons_append, firstCut?_open, Nat.add_right_comm, ih h, map_cutBehind_cutBehind]
    rfl
  | case5 s => simp at h
  | case6 s d _ _ ih =>
    rw [List.cons_append, Nat.succ_add, firstCut?_close, ih h, map_cutBehind_cutBehind]
    rfl
  | case7 d c s hslash hopen hclose ih =>
    rw [List.cons_append, firstCut?_plain (isPlain_iff.2 ⟨hslash, hopen, hclose⟩) (hdeep _ _), ih h,
      map_cutBehind_cutBehind]
    rfl

/-! ## A name before a separator -/

/-- A separator that begins within a text ends in it, or with the blank behind it. -/
theorem prefix_of_overlap {s : Text} (hs : s ≠ []) {t : Text}
    (h : nameSeparator <+: s ++ (nameSeparator ++ t)) : nameSeparator <+: s ++ [' '] := by
  have hblank : s ++ [' '] <+: s ++ (nameSeparator ++ t) :=
    (List.prefix_append_right_inj s).2 ⟨"and " ++ t, rfl⟩
  rcases List.prefix_or_prefix_of_prefix h hblank with hends | ⟨rest, hrest⟩
  · exact hends
  · rcases List.eq_nil_or_concat rest with rfl | ⟨inner, d, rfl⟩
    · rw [List.append_nil] at hrest
      exact hrest ▸ List.prefix_refl _
    · -- the blank is not the first character of the separator, and then it is the last one
      obtain ⟨c, s, rfl⟩ := List.exists_cons_of_ne_nil hs
      have hseparator : nameSeparator = ' ' :: (['a', 'n', 'd'] ++ [' ']) := rfl
      rw [hseparator, List.concat_eq_append, ← List.append_assoc] at hrest
      have hletters : s ++ [' '] ++ inner ++ [d] = ['a', 'n', 'd'] ++ [' '] :=
        (List.cons.inj hrest).2
      have hmem : ' ' ∈ ['a', 'n', 'd'] := by
        rw [← List.append_inj_left' hletters rfl]
        simp
      exact absurd hmem (by decide)

/-- The first cut of a text with the separator and another one behind it, from the first cut of the
text with a blank behind it. -/
def cutBefore (s t : Text) (found : Option (Text × Text)) : Text × Text :=
  found.elim (s, t) fun found => (found.1, found.2 ++ ("and " ++ t))

theorem cutBehind_cutBefore (front s t : Text) (found : Option (Text × Text)) :
    cutBehind front (cutBefore s t found) =
      cutBefore (front ++ s) t (found.map (cutBehind front)) := by
  cases found with
  | none => rfl
  | some found => rfl

/-- What holds of a text holds with something before it that is stepped over either way. -/
theorem firstCut?_append_of_step {d e : Nat} (front : Text) {s t : Text}
    (hseparator : firstCut? d (front ++ (s ++ (nameSeparator ++ t))) =
      (firstCut? e (s ++ (nameSeparator ++ t))).map (cutBehind front))
    (hblank : firstCut? d (front ++ (s ++ [' '])) =
      (firstCut? e (s ++ [' '])).map (cutBehind front))
    (hs : firstCut? e (s ++ (nameSeparator ++ t)) =
      some (cutBefore s t (firstCut? e (s ++ [' '])))) :
    firstCut? d (front ++ s ++ (nameSeparator ++ t)) =
      some (cutBefore (front ++ s) t (firstCut? d (front ++ s ++ [' ']))) := by
  rw [List.append_assoc, List.append_assoc, hseparator, hs, hblank, Option.map_some,
    cutBehind_cutBefore]

/-- Before a separator a name is cut where it is cut before a blank, and if it is not cut there, it
is the first piece. -/
theorem firstCut?_append_separator {d : Nat} {s : Text} (h : depthAfter? d s = some 0) (t : Text) :
    firstCut? d (s ++ (nameSeparator ++ t)) = some (cutBefore s t (firstCut? d (s ++ [' ']))) := by
  fun_induction depthAfter? d s with
  | case1 d =>
    cases h
    exact firstCut?_of_separator (afterSeparator?_eq_some_iff.2 ⟨rfl, rfl⟩)
  | case2 d => simp at h
  | case3 d c s ih =>
    exact firstCut?_append_of_step ['\\', c] (firstCut?_escape d c _)
      (firstCut?_escape d c _) (ih h)
  | case4 d s _ ih =>
    exact firstCut?_append_of_step ['{'] (firstCut?_open d _) (firstCut?_open d _)
      (ih h)
  | case5 s => simp at h
  | case6 s d _ _ ih =>
    exact firstCut?_append_of_step ['}'] (firstCut?_close d _) (firstCut?_close d _)
      (ih h)
  | case7 d c s hslash hopen hclose ih =>
    have hplain : isPlain c = true := isPlain_iff.2 ⟨hslash, hopen, hclose⟩
    cases hafter : afterSeparator? d (c :: s ++ [' ']) with
    | some rest =>
      -- the separator that ends with the blank ends with the one of the other separator
      obtain ⟨rfl, hrest⟩ := afterSeparator?_eq_some_iff.1 hafter
      have hlonger : c :: s ++ (nameSeparator ++ t) = nameSeparator ++ (rest ++ ("and " ++ t)) := by
        have hblank : nameSeparator ++ t = [' '] ++ ("and " ++ t) := rfl
        rw [hblank, ← List.append_assoc, hrest, List.append_assoc]
      rw [firstCut?_of_separator hafter, hlonger,
        firstCut?_of_separator (afterSeparator?_eq_some_iff.2 ⟨rfl, rfl⟩)]
      rfl
    | none =>
      have hlonger : afterSeparator? d (c :: s ++ (nameSeparator ++ t)) = none := by
        rw [Option.eq_none_iff_forall_ne_some] at hafter ⊢
        intro rest hrest
        obtain ⟨hd, hprefix⟩ := afterSeparator?_eq_some_iff.1 hrest
        obtain ⟨behind, hbehind⟩ := prefix_of_overlap (List.cons_ne_nil c s) ⟨rest, hprefix.symm⟩
        exact hafter behind (afterSeparator?_eq_some_iff.2 ⟨hd, hbehind.symm⟩)
      exact firstCut?_append_of_step [c] (firstCut?_plain hplain hlonger)
        (firstCut?_plain hplain hafter) (ih h)

/-! ## Lists -/

theorem length_of_firstCut? {d : Nat} {s : Text} {found : Text × Text}
    (h : firstCut? d s = some found) : s.length = found.1.length + 5 + found.2.length := by
  have hlength := congrArg List.length (eq_of_firstCut? h)
  rw [List.length_append, List.length_append] at hlength
  exact hlength

/-- The names of a list. -/
def nameList (s : Text) : List Text :=
  match _h : firstCut? 0 s with
  | none => [s]
  | some found => found.1 :: nameList found.2
termination_by s.length
decreasing_by
  have hlength := length_of_firstCut? _h
  omega

theorem nameList_of_none {s : Text} (h : firstCut? 0 s = none) : nameList s = [s] := by
  rw [nameList]
  split
  · rfl
  · next hfound =>
    rw [h] at hfound
    cases hfound

theorem nameList_of_some {s : Text} {found : Text × Text} (h : firstCut? 0 s = some found) :
    nameList s = found.1 :: nameList found.2 := by
  rw [nameList]
  split
  · next hnone =>
    rw [h] at hnone
    cases hnone
  · next hfound =>
    rw [h] at hfound
    cases hfound
    rfl

theorem nameList_ne_nil (s : Text) : nameList s ≠ [] := by
  cases h : firstCut? 0 s with
  | none => simp [nameList_of_none h]
  | some found => simp [nameList_of_some h]

/-- A name as it stands in a list, with the blank of the separator if others follow. -/
def beforeNext {α : Type} (name : Text) (later : List α) : Text :=
  if later.isEmpty then name else name ++ [' ']

/-- No name of the list is cut where it stands. -/
def Uncut : List Text → Prop
  | [] => True
  | name :: later => firstCut? 0 (beforeNext name later) = none ∧ Uncut later

/-- A name that is cut before a separator is not the first piece. -/
theorem ne_of_firstCut? {name : Text} {found : Text × Text}
    (h : firstCut? 0 (name ++ [' ']) = some found) : found.1 ≠ name := by
  rintro rfl
  have hlength := length_of_firstCut? h
  rw [List.length_append, List.length_singleton] at hlength
  omega

/-- The names of a list are those that were joined exactly if none of them is cut. -/
theorem nameList_joinWith_iff {names : List Text} (hne : names ≠ [])
    (h : ∀ name ∈ names, BraceBalanced name) :
    nameList (joinWith nameSeparator names) = names ↔ Uncut names := by
  induction names with
  | nil => exact absurd rfl hne
  | cons name later ih =>
    rw [List.forall_mem_cons] at h
    cases later with
    | nil =>
      have huncut : Uncut [name] ↔ firstCut? 0 name = none := and_iff_left trivial
      rw [huncut, joinWith]
      cases hcut : firstCut? 0 name with
      | none => simp [nameList_of_none hcut]
      | some found => simp [nameList_of_some hcut, nameList_ne_nil]
    | cons next later =>
      have huncut : Uncut (name :: next :: later) ↔
          firstCut? 0 (name ++ [' ']) = none ∧ Uncut (next :: later) := Iff.rfl
      rw [huncut, ← ih (List.cons_ne_nil _ _) h.2, joinWith_cons _ _ (List.cons_ne_nil _ _),
        List.append_assoc, nameList_of_some (firstCut?_append_separator h.1 _)]
      cases hcut : firstCut? 0 (name ++ [' ']) with
      | none => simp [cutBefore]
      | some found =>
        have hne := ne_of_firstCut? hcut
        simp [cutBefore, hne]

end Bibliography.Latex
