import Bibliography.CiteKey.Directive
import Bibliography.Proofs.Text.Pieces
import Mathlib.Algebra.Group.Nat.Defs
import Mathlib.Data.List.TakeWhile

/-! # Names of directives

`EndsInNumbers` tells which names end in numbers, and what is read off them: a stem without digits,
a limit, and perhaps an index behind a low line. Every other name comes to itself. `splitNumbers`
decodes names so, and in no other way (`splitNumbers_eq_iff`). The numbers are gone before the stem
is looked at for editors, so that `edtr` and `editors` stand for `auth` and `authors` whatever is
written behind them.
-/

namespace Bibliography.CiteKey.Directive
set_option autoImplicit false
open Text

/-! ## Forms of names -/

/-- A name without ASCII digits. -/
structure IsStem (s : Text) : Prop where
  ne_nil : s ≠ []
  noDigit : ∀ c ∈ s, c.isDigit = false

/-- A run of ASCII digits. -/
structure IsNumber (s : Text) : Prop where
  ne_nil : s ≠ []
  isDigit : ∀ c ∈ s, c.isDigit = true

/-- The number that a run of digits comes to, if a word of 64 bits can hold it. -/
def wordValue? (digits : Text) : Option Nat :=
  if Nat.ofDigitChars 10 digits 0 < 2 ^ 64 then some (Nat.ofDigitChars 10 digits 0) else none

/-- The stem, the limit and the index of a name that ends in numbers. -/
inductive EndsInNumbers : Text → Text × Option Nat × Option Nat → Prop
  | index {stem n m : Text} (hstem : IsStem stem) (hn : IsNumber n) (hm : IsNumber m) :
      EndsInNumbers (stem ++ n ++ "_" ++ m) (stem, wordValue? n, wordValue? m)
  | limit {stem n : Text} (hstem : IsStem stem) (hn : IsNumber n) :
      EndsInNumbers (stem ++ n) (stem, wordValue? n, none)

/-- What a name comes to. One that does not end in numbers comes to itself. -/
def Numbered (s : Text) (r : Text × Option Nat × Option Nat) : Prop :=
  EndsInNumbers s r ∨ (∀ r, ¬EndsInNumbers s r) ∧ r = (s, none, none)

theorem isNumeral_iff {s : Text} : isNumeral s = true ↔ IsNumber s := by
  rw [isNumeral, Bool.and_eq_true, Bool.not_eq_true', List.isEmpty_eq_false_iff, List.all_eq_true]
  exact ⟨fun h => ⟨h.1, h.2⟩, fun h => ⟨h.ne_nil, h.isDigit⟩⟩

instance (s : Text) : Decidable (IsNumber s) := decidable_of_iff _ isNumeral_iff

theorem isStem_iff_all {s : Text} :
    IsStem s ↔ s ≠ [] ∧ (s.all fun c => !c.isDigit) = true := by
  simp only [List.all_eq_true, Bool.not_eq_true']
  exact ⟨fun h => ⟨h.ne_nil, h.noDigit⟩, fun h => ⟨h.1, h.2⟩⟩

instance (s : Text) : Decidable (IsStem s) := decidable_of_iff _ isStem_iff_all.symm

theorem IsNumber.number?_eq {n : Text} (h : IsNumber n) : number? n = wordValue? n := by
  have hfits : Nat.ofDigitChars 10 n 0 ≤ largestNumber ↔ Nat.ofDigitChars 10 n 0 < 2 ^ 64 :=
    Nat.lt_succ_iff.symm
  rw [number?, value?_of_isDigit h.ne_nil h.isDigit, Option.filter_some, wordValue?]
  exact if_congr (decide_eq_true_iff.trans hfits) rfl rfl

/-! ## The first number of a name -/

/-- A text has no digits, or it is cut before and behind the first run of them. -/
theorem exists_firstNumber (s : Text) :
    (∀ c ∈ s, c.isDigit = false) ∨
      ∃ before n rest, s = before ++ (n ++ rest) ∧ (∀ c ∈ before, c.isDigit = false) ∧
        IsNumber n ∧ ∀ c ∈ rest.head?, c.isDigit = false := by
  induction s with
  | nil => exact .inl (List.forall_mem_nil _)
  | cons c s ih =>
    cases hc : c.isDigit with
    | true =>
      -- the run begins with the text
      refine .inr ⟨[], (c :: s).takeWhile Char.isDigit, (c :: s).dropWhile Char.isDigit, ?cut,
        List.forall_mem_nil _, ⟨?nonempty, fun d hd => List.mem_takeWhile_imp hd⟩, ?stop⟩
      case cut => rw [List.takeWhile_append_dropWhile, List.nil_append]
      case nonempty =>
        rw [List.takeWhile_cons_of_pos hc]
        exact List.cons_ne_nil c _
      case stop =>
        intro d hd
        simpa [Option.mem_def.1 hd] using List.head?_dropWhile_not Char.isDigit (c :: s)
    | false =>
      rcases ih with hnone | ⟨before, n, rest, rfl, hbefore, hn, hrest⟩
      · exact .inl (List.forall_mem_cons.2 ⟨hc, hnone⟩)
      · exact .inr ⟨c :: before, n, rest, rfl, List.forall_mem_cons.2 ⟨hc, hbefore⟩, hn, hrest⟩

section
variable {stem n rest : Text}

/-- No stem goes on where a number begins. -/
theorem IsNumber.stops_stem (hn : IsNumber n) (rest : Text) :
    ∀ c ∈ (n ++ rest).head?, (!c.isDigit) = false := by
  intro c hc
  rw [List.head?_append_of_ne_nil _ hn.ne_nil] at hc
  rw [hn.isDigit c (List.mem_of_head? hc)]
  rfl

theorem takeWhile_stem (hstem : ∀ c ∈ stem, c.isDigit = false) (hn : IsNumber n) (rest : Text) :
    (stem ++ (n ++ rest)).takeWhile (fun c => !c.isDigit) = stem :=
  takeWhile_of_stop (fun c hc => by rw [hstem c hc]; rfl) (hn.stops_stem rest)

theorem dropWhile_stem (hstem : ∀ c ∈ stem, c.isDigit = false) (hn : IsNumber n) (rest : Text) :
    (stem ++ (n ++ rest)).dropWhile (fun c => !c.isDigit) = n ++ rest :=
  dropWhile_of_stop (fun c hc => by rw [hstem c hc]; rfl) (hn.stops_stem rest)

/-- A stem and a number are read, and what stands behind them says what they come to. -/
theorem splitNumbers_append (hstem : IsStem stem) (hn : IsNumber n)
    (hrest : ∀ c ∈ rest.head?, c.isDigit = false) :
    splitNumbers (stem ++ (n ++ rest)) =
      if rest = [] then (stem, wordValue? n, none)
      else if rest.head? = some '_' ∧ IsNumber rest.tail then
        (stem, wordValue? n, wordValue? rest.tail)
      else (stem ++ (n ++ rest), none, none) := by
  simp only [splitNumbers, takeWhile_stem hstem.noDigit hn, dropWhile_stem hstem.noDigit hn,
    takeWhile_of_stop hn.isDigit hrest, dropWhile_of_stop hn.isDigit hrest,
    List.isEmpty_eq_false_iff.2 hstem.ne_nil, List.isEmpty_eq_false_iff.2 hn.ne_nil, hn.number?_eq]
  cases rest with
  | nil => rfl
  | cons c m =>
    by_cases hm : IsNumber m
    · simp [isNumeral_iff.2 hm, hm, hm.number?_eq]
    · have hnot : isNumeral m = false := by rwa [← Bool.not_eq_true, isNumeral_iff]
      simp [hnot, hm]

theorem splitNumbers_of_noDigit {s : Text} (h : ∀ c ∈ s, c.isDigit = false) :
    splitNumbers s = (s, none, none) := by
  have hdrop : s.dropWhile (fun c => !c.isDigit) = [] :=
    List.dropWhile_eq_nil_iff.2 fun c hc => by rw [h c hc]; rfl
  simp [splitNumbers, hdrop]

theorem splitNumbers_of_isNumber (hn : IsNumber n) (rest : Text) :
    splitNumbers (n ++ rest) = (n ++ rest, none, none) := by
  have htake : (n ++ rest).takeWhile (fun c => !c.isDigit) = [] :=
    takeWhile_stem (List.forall_mem_nil _) hn rest
  simp [splitNumbers, htake]

end

/-! ## Decoding a name -/

theorem append_index (stem n m : Text) : stem ++ n ++ "_" ++ m = stem ++ (n ++ '_' :: m) := by
  simp

theorem EndsInNumbers.splitNumbers_eq {s : Text} {r : Text × Option Nat × Option Nat}
    (h : EndsInNumbers s r) : splitNumbers s = r := by
  cases h with
  | @index stem n m hstem hn hm =>
    have hbehind : ∀ c ∈ ('_' :: m).head?, c.isDigit = false := by
      intro c hc
      cases hc
      decide
    rw [append_index, splitNumbers_append hstem hn hbehind, if_neg (List.cons_ne_nil _ _),
      if_pos ⟨rfl, hm⟩, List.tail_cons]
  | @limit stem n hstem hn =>
    have hbehind : ∀ c ∈ ([] : Text).head?, c.isDigit = false := fun c hc => by cases hc
    have hname : stem ++ n = stem ++ (n ++ []) := by rw [List.append_nil]
    rw [hname, splitNumbers_append hstem hn hbehind, if_pos rfl]

theorem splitNumbers_eq_self {s : Text} (h : ∀ r, ¬EndsInNumbers s r) :
    splitNumbers s = (s, none, none) := by
  rcases exists_firstNumber s with hnone | ⟨stem, n, rest, rfl, hnoDigit, hn, hrest⟩
  · exact splitNumbers_of_noDigit hnone
  · by_cases hnil : stem = []
    · rw [hnil]
      exact splitNumbers_of_isNumber hn rest
    · have hstem : IsStem stem := ⟨hnil, hnoDigit⟩
      rw [splitNumbers_append hstem hn hrest]
      -- where something would be read off, the name ends in numbers
      split
      · next hend =>
        rw [hend, List.append_nil] at h
        exact absurd (.limit hstem hn) (h _)
      · split
        · next hbehind =>
          obtain ⟨hhead, hm⟩ := hbehind
          obtain ⟨m, rfl⟩ := List.head?_eq_some_iff.1 hhead
          rw [← append_index] at h
          exact absurd (.index hstem hn hm) (h _)
        · rfl

theorem splitNumbers_eq_iff {s : Text} {r : Text × Option Nat × Option Nat} :
    splitNumbers s = r ↔ Numbered s r := by
  constructor
  · rintro rfl
    by_cases hends : ∃ r, EndsInNumbers s r
    · obtain ⟨r, hr⟩ := hends
      rw [hr.splitNumbers_eq]
      exact .inl hr
    · have hnone : ∀ r, ¬EndsInNumbers s r := not_exists.1 hends
      exact .inr ⟨hnone, splitNumbers_eq_self hnone⟩
  · rintro (hr | ⟨hnone, rfl⟩)
    · exact hr.splitNumbers_eq
    · exact splitNumbers_eq_self hnone

/-! ## Editors -/

/-- What is read behind a stem does not depend on the stem. -/
theorem exists_splitNumbers_append (s : Text) :
    ∃ kept limit index, ∀ stem, IsStem stem →
      splitNumbers (stem ++ s) = (stem ++ kept, limit, index) := by
  rcases exists_firstNumber s with hnone | ⟨before, n, rest, rfl, hbefore, hn, hrest⟩
  · refine ⟨s, none, none, fun stem hstem => splitNumbers_of_noDigit ?_⟩
    exact List.forall_mem_append.2 ⟨hstem.noDigit, hnone⟩
  · have hread : ∀ stem, IsStem stem → splitNumbers (stem ++ (before ++ (n ++ rest))) =
        if rest = [] then (stem ++ before, wordValue? n, none)
        else if rest.head? = some '_' ∧ IsNumber rest.tail then
          (stem ++ before, wordValue? n, wordValue? rest.tail)
        else (stem ++ (before ++ (n ++ rest)), none, none) := by
      intro stem hstem
      -- what stands before the first digit belongs to the stem
      have hlonger : IsStem (stem ++ before) :=
        ⟨List.append_ne_nil_of_left_ne_nil hstem.ne_nil before,
          List.forall_mem_append.2 ⟨hstem.noDigit, hbefore⟩⟩
      rw [← List.append_assoc, splitNumbers_append hlonger hn hrest]
    by_cases hend : rest = []
    · exact ⟨before, wordValue? n, none, fun stem hstem => (hread stem hstem).trans (if_pos hend)⟩
    · by_cases hbehind : rest.head? = some '_' ∧ IsNumber rest.tail
      · refine ⟨before, wordValue? n, wordValue? rest.tail, fun stem hstem => ?_⟩
        rw [hread stem hstem, if_neg hend, if_pos hbehind]
      · refine ⟨before ++ (n ++ rest), none, none, fun stem hstem => ?_⟩
        rw [hread stem hstem, if_neg hend, if_neg hbehind]

/-- Names that begin so name functions that begin so, asked of the editors only or of everybody. -/
structure Resolves (start name : Text) (onlyEditors : Bool) : Prop where
  isStem : IsStem start
  noColon : ':' ∉ start
  resolve : ∀ rest, resolveEditors (start ++ rest) = (name ++ rest, onlyEditors)

theorem resolves_edtr : Resolves "edtr" "auth" true := ⟨by decide, by decide, fun _ => rfl⟩

theorem resolves_auth : Resolves "auth" "auth" false := ⟨by decide, by decide, fun _ => rfl⟩

theorem resolves_editors : Resolves "editors" "authors" true := ⟨by decide, by decide, fun _ => rfl⟩

theorem resolves_authors : Resolves "authors" "authors" false :=
  ⟨by decide, by decide, fun _ => rfl⟩

theorem Resolves.ofText_append {start name : Text} {onlyEditors : Bool}
    (h : Resolves start name onlyEditors) {x property kept : Text} {filters : List Text}
    {limit index : Option Nat} (hx : splitOn ':' x = property :: filters)
    (hread : splitNumbers (start ++ property) = (start ++ kept, limit, index)) :
    ofText (start ++ x) =
      { name := name ++ kept, property := start ++ property, function := .ofName (name ++ kept),
        limit, index, onlyEditors, filters := filters.map Filter.ofText } := by
  rw [ofText, splitOn_append_of_notMem h.noColon hx]
  simp only [ofParts, hread, h.resolve]

/-- One directive asks for editors where the other asks for authors; they are alike otherwise. -/
structure AsksEditors (d e : Directive) : Prop where
  name : d.name = e.name
  function : d.function = e.function
  limit : d.limit = e.limit
  index : d.index = e.index
  filters : d.filters = e.filters
  property : d.property ≠ e.property
  onlyEditors : d.onlyEditors = true
  everybody : e.onlyEditors = false

theorem asksEditors_of_resolves {word name : Text} (hword : Resolves word name true)
    (hname : Resolves name name false) (x : Text) :
    AsksEditors (ofText (word ++ x)) (ofText (name ++ x)) := by
  obtain ⟨property, filters, hx⟩ := exists_splitOn_eq_cons ':' x
  obtain ⟨kept, limit, index, hread⟩ := exists_splitNumbers_append property
  have hne : word ≠ name := by
    rintro rfl
    have hboth := (hword.resolve []).symm.trans (hname.resolve [])
    cases hboth
  rw [hword.ofText_append hx (hread word hword.isStem),
    hname.ofText_append hx (hread name hname.isStem)]
  exact ⟨rfl, rfl, rfl, rfl, rfl, fun heq => hne (List.append_cancel_right heq), rfl, rfl⟩

/-- Every name is decoded to the one stem, limit and index that it comes to. Whatever is written
behind them, `edtr` is `auth` and `editors` is `authors`, asked of the editors only. -/
theorem name_decoded :
    (∀ (s : Text) (r : Text × Option Nat × Option Nat), splitNumbers s = r ↔ Numbered s r) ∧
      ∀ x : Text, AsksEditors (ofText ("edtr" ++ x)) (ofText ("auth" ++ x)) ∧
        AsksEditors (ofText ("editors" ++ x)) (ofText ("authors" ++ x)) := by
  refine ⟨fun s r => splitNumbers_eq_iff, fun x => ⟨?_, ?_⟩⟩
  · exact asksEditors_of_resolves resolves_edtr resolves_auth x
  · exact asksEditors_of_resolves resolves_editors resolves_authors x

example : splitNumbers "auth18446744073709551616_07" = ("auth".toList, none, some 7) := by decide

end Bibliography.CiteKey.Directive
