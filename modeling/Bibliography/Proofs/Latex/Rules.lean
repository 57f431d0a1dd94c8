import Bibliography.Latex.Decode
import Bibliography.Proofs.Latex.Escape

/-! # The replacements of decoding

Longer spellings are replaced first, and of two rules with one spelling the first in the tables
counts; only the micro sign loses its spelling in this way. The spellings of the tables have few
shapes.
-/

namespace Bibliography.Latex
set_option autoImplicit false
open Text

/-! ## Their order -/

section
variable {rules : List (Text × Char)}

variable (rules) in
theorem le_foldl_max (n : Nat) :
    n ≤ rules.foldl (fun n p => max n p.1.length) n ∧
      ∀ p ∈ rules, p.1.length ≤ rules.foldl (fun n p => max n p.1.length) n := by
  induction rules generalizing n with
  | nil => exact ⟨Nat.le_refl n, fun p hp => by cases hp⟩
  | cons q rules ih =>
    obtain ⟨hstart, hrules⟩ := ih (max n q.1.length)
    rw [List.foldl_cons, List.forall_mem_cons]
    exact ⟨by omega, by omega, hrules⟩

theorem pairwise_longestFirst :
    (longestFirst rules).Pairwise fun p q => q.1.length ≤ p.1.length := by
  rw [longestFirst, List.pairwise_flatMap]
  constructor
  · intro n _
    rw [List.pairwise_filter]
    refine List.pairwise_of_forall fun p q hp hq => ?_
    rw [beq_iff_eq] at hp hq
    omega
  · rw [List.pairwise_reverse]
    refine List.pairwise_lt_range.imp fun {m n} hlt p hp q hq => ?_
    simp only [List.mem_filter, beq_iff_eq] at hp hq
    omega

theorem mem_longestFirst {p : Text × Char} (h : p ∈ longestFirst rules) : p ∈ rules := by
  obtain ⟨n, -, hp⟩ := List.mem_flatMap.1 h
  exact (List.mem_filter.1 hp).1

/-- Rules with the same spelling stay in their order. -/
theorem find?_longestFirst {p : Text × Char}
    (h : rules.find? (fun q => q.1 == p.1) = some p) :
    (longestFirst rules).find? (fun q => q.1 == p.1) = some p := by
  have hsame : (rules.filter fun q => q.1.length == p.1.length).find? (fun q => q.1 == p.1) =
      some p := by
    rw [List.find?_filter, ← h]
    congr 1
    funext q
    by_cases hq : q.1 = p.1
    · simp [hq]
    · simp [hq]
  have hother : ∀ n ≠ p.1.length,
      (rules.filter fun q => q.1.length == n).find? (fun q => q.1 == p.1) = none := by
    intro n hn
    rw [List.find?_eq_none]
    intro q hq heq
    rw [beq_iff_eq] at heq
    have hlength := (List.mem_filter.1 hq).2
    rw [heq, beq_iff_eq] at hlength
    exact hn hlength.symm
  have hlengths : ∀ {ns : List Nat}, p.1.length ∈ ns →
      (ns.flatMap fun n => rules.filter fun q => q.1.length == n).find? (fun q => q.1 == p.1) =
        some p := by
    intro ns hns
    induction ns with
    | nil => cases hns
    | cons n ns ih =>
      rw [List.flatMap_cons, List.find?_append]
      by_cases hn : n = p.1.length
      · rw [hn, hsame]
        rfl
      · rw [hother n hn, Option.none_or]
        exact ih ((List.mem_cons.1 hns).resolve_left (Ne.symm hn))
  have hle := (le_foldl_max rules 0).2 p (List.mem_of_find?_eq_some h)
  refine hlengths ?_
  rw [List.mem_reverse, List.mem_range]
  omega

theorem firstOfEach_sublist : (firstOfEach rules).Sublist rules := by
  induction rules with
  | nil => exact .slnil
  | cons p rules ih => exact (List.filter_sublist.trans ih).cons_cons p

theorem pairwise_firstOfEach : (firstOfEach rules).Pairwise fun p q => q.1 ≠ p.1 := by
  induction rules with
  | nil => exact .nil
  | cons p rules ih =>
    refine List.pairwise_cons.2 ⟨fun q hq => ?_, ih.filter _⟩
    simpa using (List.mem_filter.1 hq).2

/-- The first rule with a spelling is kept. -/
theorem mem_firstOfEach {p : Text × Char} (h : rules.find? (fun q => q.1 == p.1) = some p) :
    p ∈ firstOfEach rules := by
  induction rules with
  | nil => cases h
  | cons q rules ih =>
    rw [firstOfEach]
    rw [List.find?_cons] at h
    split at h
    · cases h
      exact List.mem_cons_self ..
    · next hne =>
      refine List.mem_cons_of_mem _ (List.mem_filter.2 ⟨ih h, ?_⟩)
      rw [bne_iff_ne]
      rintro hsame
      simp [hsame] at hne

end

theorem decodingRules_pairwise :
    decodingRules.Pairwise fun p q => q.1.length ≤ p.1.length ∧ q.1 ≠ p.1 :=
  (pairwise_longestFirst.sublist firstOfEach_sublist).and pairwise_firstOfEach

theorem mem_decodable {p : Text × Char} (h : p ∈ decodingRules) : p ∈ decodable :=
  mem_longestFirst (firstOfEach_sublist.mem h)

/-! ## Shapes -/

/-- The characters that are spelled with a backslash before them. -/
def escapable : Text := "{}#$%&_"

/-- The spellings of the tables: a letter with its accent, or by its name, in a group; a backslash
before a character; the name of a sign before an empty group; a command of mathematics; and signs
that stand for others. -/
inductive Shape : Spelling → Prop
  | group {c : Char} {name : Text} : isNoBrace c = true → c ∉ escapable →
      (∀ d ∈ name, isNoBrace d = true) →
      (c.isAlpha = true → (∀ d ∈ name, d.isAlpha = true ∨ d = ' ') ∧
        ∀ p ∈ asciiSpelled, p.2 ≠ ⟨'\\' :: c :: name, true⟩) →
        Shape ⟨'{' :: '\\' :: c :: (name ++ ['}']), false⟩
  | escaped {c : Char} : c ∈ escapable → Shape ⟨['\\', c], false⟩
  | sign {c : Char} {name : Text} : c.isAlpha = true → (∀ d ∈ name, d.isAlpha = true) →
      Shape ⟨'\\' :: c :: (name ++ ['{', '}']), false⟩
  | command {c : Char} {name : Text} : c.isAlpha = true → (∀ d ∈ name, d.isAlpha = true) →
      Shape ⟨'\\' :: c :: name, true⟩
  | mark {c : Char} : c ∈ "`'~".toList → Shape ⟨[c], false⟩
  | marks {s : Text} : (∀ c ∈ s, c ∈ "-`'?!".toList) → Shape ⟨s, false⟩

/-- Texts that differ in this number are different. -/
def code (s : Text) : Nat := s.foldr (fun c n => c.toNat + 128 * n) 0

def agree (s t : Text) : Bool := (code s).beq (code t)

theorem agree_refl (s : Text) : agree s s = true := Nat.beq_refl _

def isGroup : Text → Bool
  | [] => false
  | c :: name =>
    isNoBrace c && !escapable.contains c && name.all isNoBrace && (!c.isAlpha ||
      name.all (fun d => d.isAlpha || d == ' ') &&
        (greekLetters ++ symbols).all fun p => !agree p.2.toList ('\\' :: c :: name))

def isCommand (math : Bool) (c : Char) (rest : Text) : Bool :=
  if escapable.contains c then !math && rest.isEmpty
  else c.isAlpha && if math then rest.all Char.isAlpha
    else rest.dropWhile Char.isAlpha == ['{', '}']

def isShaped : Spelling → Bool
  | ⟨[], _⟩ => false
  | ⟨[c], math⟩ => !math && "`'~".toList.contains c
  | ⟨b :: c :: rest, math⟩ =>
    if b = '\\' then isCommand math c rest
    else if b = '{' ∧ c = '\\' then
      !math && rest.getLast? == some '}' && isGroup rest.dropLast
    else !math && (b :: c :: rest).all "-`'?!".toList.contains

/-- The spelling is the first one of its kind. -/
def isFirst (p : Char × Spelling) : Bool :=
  (asciiSpelled.find? fun q => agree q.2.latex p.2.latex) == some p

/-- The spelling does not begin like a group in math mode. -/
def isApart (latex : Text) : Bool :=
  !agree (latex.take mathOpen.length) (mathOpen.take latex.length)

/-- Only the micro sign is spelled like another character. -/
theorem tables_checked :
    (asciiSpelled.all fun p => isShaped p.2 && isApart p.2.latex &&
      (p.1 == 'µ' || p.2.latex.length == 1 || isFirst p)) = true := by
  decide +kernel

theorem math_of_spelled {math : Bool} {table : List (Char × String)} {p : Char × Spelling}
    (h : p ∈ spelled math table) : p.2.math = math := by
  obtain ⟨q, -, rfl⟩ := List.mem_map.1 h
  rfl

/-- No command of mathematics is the name of a letter in a group. -/
theorem ne_command {c : Char} {name : Text}
    (h : ((greekLetters ++ symbols).all fun p => !agree p.2.toList ('\\' :: c :: name)) = true) :
    ∀ p ∈ asciiSpelled, p.2 ≠ ⟨'\\' :: c :: name, true⟩ := by
  intro p hp heq
  have htables : p ∈ spelled true (greekLetters ++ symbols) := by
    rw [asciiSpelled, alwaysSpelled, List.mem_append, List.mem_append] at hp
    refine hp.resolve_left fun htext => ?_
    have hmath : p.2.math = false := htext.elim math_of_spelled math_of_spelled
    rw [heq] at hmath
    cases hmath
  obtain ⟨q, hq, rfl⟩ := List.mem_map.1 htables
  have hdiffer := List.all_eq_true.1 h q hq
  rw [(Spelling.mk.inj heq).1, agree_refl] at hdiffer
  cases hdiffer

theorem shape_of_isGroup {inside : Text} (h : isGroup inside = true) :
    Shape ⟨'{' :: '\\' :: (inside ++ ['}']), false⟩ := by
  cases inside with
  | nil => cases h
  | cons c name =>
    simp only [isGroup, Bool.and_eq_true, Bool.not_eq_true', Bool.or_eq_true] at h
    obtain ⟨⟨⟨hc, hescapable⟩, hname⟩, hletter⟩ := h
    refine .group hc ?_ (List.all_eq_true.1 hname) fun halpha => ?_
    · rwa [← List.contains_iff_mem, Bool.not_eq_true]
    · obtain ⟨hname, hcommand⟩ := hletter.resolve_left (by simp [halpha])
      refine ⟨fun d hd => ?_, ne_command hcommand⟩
      simpa using List.all_eq_true.1 hname d hd

theorem shape_of_isCommand {math : Bool} {c : Char} {rest : Text}
    (h : isCommand math c rest = true) : Shape ⟨'\\' :: c :: rest, math⟩ := by
  rw [isCommand] at h
  split at h
  · next hescapable =>
    rw [Bool.and_eq_true, Bool.not_eq_true', List.isEmpty_iff] at h
    obtain ⟨rfl, rfl⟩ := h
    exact .escaped (List.contains_iff_mem.1 hescapable)
  · rw [Bool.and_eq_true] at h
    cases math with
    | true => exact .command h.1 (List.all_eq_true.1 h.2)
    | false =>
      have hrest := List.takeWhile_append_dropWhile (p := Char.isAlpha) (l := rest)
      rw [beq_iff_eq.1 h.2] at hrest
      rw [← hrest]
      exact .sign h.1 (List.all_eq_true.1 List.all_takeWhile)

theorem shape_of_isShaped {s : Spelling} (h : isShaped s = true) : Shape s := by
  obtain ⟨latex, math⟩ := s
  cases latex with
  | nil => cases h
  | cons b latex =>
    cases latex with
    | nil =>
      rw [isShaped, Bool.and_eq_true, Bool.not_eq_true', List.contains_iff_mem] at h
      obtain ⟨rfl, hmark⟩ := h
      exact .mark hmark
    | cons c rest =>
      rw [isShaped] at h
      split at h
      · next hslash =>
        rw [hslash]
        exact shape_of_isCommand h
      · split at h
        · next hopen =>
          rw [Bool.and_eq_true, Bool.and_eq_true, Bool.not_eq_true', beq_iff_eq,
            List.getLast?_eq_some_iff] at h
          obtain ⟨⟨rfl, inside, rfl⟩, hgroup⟩ := h
          rw [List.dropLast_concat] at hgroup
          rw [hopen.1, hopen.2]
          exact shape_of_isGroup hgroup
        · rw [Bool.and_eq_true, Bool.not_eq_true'] at h
          obtain ⟨rfl, hmarks⟩ := h
          exact .marks fun d hd => List.contains_iff_mem.1 (List.all_eq_true.1 hmarks d hd)

theorem shape_of_mem {p : Char × Spelling} (h : p ∈ asciiSpelled) : Shape p.2 := by
  have hchecked := List.all_eq_true.1 tables_checked p h
  rw [Bool.and_eq_true, Bool.and_eq_true] at hchecked
  exact shape_of_isShaped hchecked.1.1

theorem isApart_of_mem {p : Char × Spelling} (h : p ∈ asciiSpelled) :
    isApart p.2.latex = true := by
  have hchecked := List.all_eq_true.1 tables_checked p h
  rw [Bool.and_eq_true, Bool.and_eq_true] at hchecked
  exact hchecked.1.2

theorem decodable_eq :
    decodable = (asciiSpelled.map fun p => (p.2.latex, p.1)).filter fun p => 1 < p.1.length := by
  simp only [decodable, asciiSpelled, alwaysSpelled, spelled, List.map_append, List.map_map,
    List.append_assoc]
  rfl

theorem exists_spelling {p : Text × Char} (h : p ∈ decodable) :
    1 < p.1.length ∧ ∃ s, (p.2, s) ∈ asciiSpelled ∧ s.latex = p.1 := by
  rw [decodable_eq, List.mem_filter, decide_eq_true_eq] at h
  obtain ⟨hmem, hlength⟩ := h
  obtain ⟨q, hq, rfl⟩ := List.mem_map.1 hmem
  exact ⟨hlength, q.2, hq, rfl⟩

/-- What is spelled is decoded, but for the micro sign and for signs that are spelled by others. -/
theorem mem_decodingRules {c : Char} {s : Spelling} (h : (c, s) ∈ asciiSpelled)
    (hlength : 1 < s.latex.length) (hmicro : c ≠ 'µ') : (s.latex, c) ∈ decodingRules := by
  have hchecked := List.all_eq_true.1 tables_checked (c, s) h
  rw [Bool.and_eq_true, Bool.or_eq_true, Bool.or_eq_true, beq_iff_eq, beq_iff_eq] at hchecked
  have hfirst : isFirst (c, s) = true :=
    hchecked.2.resolve_left (not_or_intro hmicro (Nat.ne_of_gt hlength))
  refine mem_firstOfEach (find?_longestFirst ?_)
  obtain ⟨-, before, after, hsplit, hbefore⟩ :=
    List.find?_eq_some_iff_append.1 (beq_iff_eq.1 hfirst)
  rw [decodable_eq, List.find?_filter, List.find?_map, Option.map_eq_some_iff]
  refine ⟨(c, s), List.find?_eq_some_iff_append.2 ⟨by simpa using hlength, before, after, hsplit,
    fun q hq => ?_⟩, rfl⟩
  have hdiffer := hbefore q hq
  have hne : q.2.latex ≠ s.latex := by
    intro heq
    rw [heq, agree_refl] at hdiffer
    cases hdiffer
  simp [hne]

theorem ne_nil_of_math {mode : Mode} {c : Char} {s : Spelling} (h : spelling? mode c = some s)
    (hmath : s.math = true) : s.latex ≠ [] := by
  have hshape := shape_of_mem (mem_asciiSpelled h)
  cases hshape with
  | command => exact List.cons_ne_nil _ _
  | _ => cases hmath

end Bibliography.Latex
