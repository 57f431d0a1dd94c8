import Bibliography.Proofs.Latex.Balance

/-! # Cutting a text into its entries

`entriesOf` cuts a text behind each brace that leads back to depth zero. It knows nothing of how
entries are made; `entriesOf_cons` says that it finds the text of an entry, a name and a group,
whatever blanks stand around it.
-/

namespace Bibliography.Export
set_option autoImplicit false
open Text Latex Unicode

/-- A text before the first of several pieces. -/
def prepend (s : Text) : List Text → List Text
  | [] => [s]
  | t :: ts => (s ++ t) :: ts

/-- The pieces of a text that begins at the given depth: it is cut behind each brace that leads back
to depth zero. -/
def cut (d : Nat) : Text → List Text
  | [] => [[]]
  | c :: s =>
    if c = '\\' then
      match s with
      | [] => [[c]]
      | e :: s => prepend [c, e] (cut d s)
    else if c = '{' then prepend [c] (cut (d + 1) s)
    else if c = '}' then
      if d = 1 then [c] :: cut 0 s else prepend [c] (cut (d - 1) s)
    else prepend [c] (cut d s)

/-- The pieces of a text that hold more than blanks. -/
def entriesOf (s : Text) : List Text := ((cut 0 s).map trim).filter fun t => !t.isEmpty

/-! ## Pieces -/

theorem prepend_prepend (s t : Text) (ts : List Text) :
    prepend s (prepend t ts) = prepend (s ++ t) ts := by
  cases ts with
  | nil => rfl
  | cons u us => simp only [prepend, List.append_assoc]

theorem cut_escape (d : Nat) (c : Char) (s : Text) :
    cut d ('\\' :: c :: s) = prepend ['\\', c] (cut d s) := rfl

theorem cut_open (d : Nat) (s : Text) : cut d ('{' :: s) = prepend ['{'] (cut (d + 1) s) := by
  simp [cut.eq_def d]

theorem cut_close {d : Nat} (h : 0 < d) (s : Text) :
    cut (d + 1) ('}' :: s) = prepend ['}'] (cut d s) := by
  have hne : d ≠ 0 := by omega
  simp [cut.eq_def (d + 1), hne]

theorem cut_closeLast (s : Text) : cut 1 ('}' :: s) = ['}'] :: cut 0 s := by
  simp [cut.eq_def 1]

theorem cut_plain {c : Char} (h : isPlain c = true) (d : Nat) (s : Text) :
    cut d (c :: s) = prepend [c] (cut d s) := by
  obtain ⟨hslash, hopen, hclose⟩ := isPlain_iff.1 h
  rw [cut.eq_def]
  simp only [hslash, hopen, hclose, if_false]

theorem prepend_nil_cut (d : Nat) (s : Text) : prepend [] (cut d s) = cut d s := by
  have hpieces : ∃ t ts, cut d s = t :: ts := by
    fun_cases cut d s with
    | case1 => exact ⟨_, _, rfl⟩
    | case2 => exact ⟨_, _, rfl⟩
    | case5 => exact ⟨_, _, rfl⟩
    | _ => unfold prepend; split <;> exact ⟨_, _, rfl⟩
  obtain ⟨t, ts, hcut⟩ := hpieces
  rw [hcut]
  rfl

theorem cut_of_plain {s : Text} (h : ∀ c ∈ s, isPlain c = true) (d : Nat) (t : Text) :
    cut d (s ++ t) = prepend s (cut d t) := by
  induction s with
  | nil => exact (prepend_nil_cut d t).symm
  | cons c s ih =>
    rw [List.cons_append, cut_plain (h c (List.mem_cons_self ..)),
      ih fun c hc => h c (List.mem_cons_of_mem _ hc), prepend_prepend, List.singleton_append]

/-- A text inside a group is no place to cut. -/
theorem cut_inside {d e k : Nat} {s : Text} (h : depthAfter? d s = some e) (hk : 0 < k) (t : Text) :
    cut (d + k) (s ++ t) = prepend s (cut (e + k) t) := by
  fun_induction depthAfter? d s with
  | case1 d =>
    cases h
    exact (prepend_nil_cut _ t).symm
  | case2 d => simp at h
  | case3 d c s ih =>
    rw [List.cons_append, List.cons_append, cut_escape, ih h, prepend_prepend]
    rfl
  | case4 d s _ ih =>
    rw [List.cons_append, cut_open, Nat.add_right_comm, ih h, prepend_prepend]
    rfl
  | case5 s => simp at h
  | case6 s d _ _ ih =>
    rw [List.cons_append, Nat.succ_add, cut_close (by omega), ih h, prepend_prepend]
    rfl
  | case7 d c s hslash hopen hclose ih =>
    rw [List.cons_append, cut_plain (isPlain_iff.2 ⟨hslash, hopen, hclose⟩), ih h, prepend_prepend]
    rfl

/-! ## Entries -/

/-- The text of an entry: a mark and a name, and a group. -/
def groupText (name body : Text) : Text := '@' :: name ++ '{' :: body ++ ['}']

theorem balanced_groupText {name body : Text} (hname : ∀ c ∈ name, isPlain c = true)
    (hbody : BraceBalanced body) : BraceBalanced (groupText name body) := by
  have hfront : BraceBalanced ('@' :: name) :=
    BraceBalanced.of_plain (List.forall_mem_cons.2 ⟨by decide, hname⟩)
  rw [groupText, List.append_assoc]
  exact hfront.append hbody.braced

/-- An entry is one piece, with the plain text before it. -/
theorem cut_groupText {lead name body : Text} (hlead : ∀ c ∈ lead, isPlain c = true)
    (hname : ∀ c ∈ name, isPlain c = true) (hbody : BraceBalanced body) (t : Text) :
    cut 0 (lead ++ groupText name body ++ t) = (lead ++ groupText name body) :: cut 0 t := by
  have hfront : ∀ c ∈ lead ++ '@' :: name, isPlain c = true :=
    List.forall_mem_append.2 ⟨hlead, List.forall_mem_cons.2 ⟨by decide, hname⟩⟩
  have hinside := cut_inside hbody Nat.zero_lt_one ('}' :: t)
  rw [Nat.zero_add] at hinside
  have hform : lead ++ groupText name body ++ t =
      (lead ++ '@' :: name) ++ ('{' :: (body ++ '}' :: t)) := by
    simp [groupText]
  rw [hform, cut_of_plain hfront, cut_open, hinside, cut_closeLast]
  simp [prepend, groupText]

theorem dropBlanks_append {lead s : Text} (h : ∀ c ∈ lead, isBlank c = true) :
    (lead ++ s).dropWhile isBlank = s.dropWhile isBlank :=
  List.dropWhile_append_of_pos h

theorem trim_groupText {lead : Text} (h : ∀ c ∈ lead, isBlank c = true) (name body : Text) :
    trim (lead ++ groupText name body) = groupText name body := by
  have hfront : (groupText name body).dropWhile isBlank = groupText name body :=
    List.dropWhile_cons_of_neg (by decide)
  have hback : (groupText name body).reverse.dropWhile isBlank = (groupText name body).reverse := by
    rw [groupText, List.reverse_append]
    exact List.dropWhile_cons_of_neg (by decide)
  rw [trim, trimEnd, dropBlanks_append h, hfront, hback, List.reverse_reverse]

/-- The text of an entry is found, behind blanks and before what follows it. -/
theorem entriesOf_cons {lead name body : Text} (hlead : ∀ c ∈ lead, isBlank c = true)
    (hname : ∀ c ∈ name, isPlain c = true) (hbody : BraceBalanced body) (t : Text) :
    entriesOf (lead ++ groupText name body ++ t) = groupText name body :: entriesOf t := by
  have hplain : ∀ c ∈ lead, isPlain c = true := fun c hc => isPlain_of_isBlank (hlead c hc)
  rw [entriesOf, cut_groupText hplain hname hbody, List.map_cons, trim_groupText hlead]
  exact List.filter_cons_of_pos rfl

theorem entriesOf_blank {s : Text} (h : ∀ c ∈ s, isBlank c = true) : entriesOf s = [] := by
  have hcut := cut_of_plain (fun c hc => isPlain_of_isBlank (h c hc)) 0 []
  have hdrop := dropBlanks_append (s := []) h
  rw [List.append_nil] at hcut hdrop
  have htrim : trim s = [] := by
    rw [trim, hdrop]
    rfl
  rw [entriesOf, hcut]
  simp [cut, prepend, htrim]

end Bibliography.Export
