import Bibliography.Proofs.Latex.Grouped
import Bibliography.Proofs.Latex.Overlap
import Bibliography.Proofs.Text.Trim

/-! # Decoding undoes escaping

A text is decoded rule by rule. Behind each replacement the text is what the characters are spelled
as whose rules are still to come, and for the others the characters themselves. A rule finds the
characters that are spelled by it and nothing else. When all rules are through, only the groups of
mathematics are left, and they are opened.
-/

namespace Bibliography.Latex
set_option autoImplicit false
open Text Unicode

/-! ## Characters -/

/-- A letter or a digit, a space, or a character that is spelled as a command or a group; but
neither the backslash nor the micro sign, which is spelled like a letter. -/
def Recoverable (c : Char) : Prop :=
  c.isAlphanum = true ∨ c = ' ' ∨
    c ≠ '\\' ∧ c ≠ 'µ' ∧ ∃ s, spelling? .ascii c = some s ∧ Begins s.latex

def isRecoverable (c : Char) : Bool :=
  c.isAlphanum || c == ' ' ||
    c != '\\' && c != 'µ' && (spelling? .ascii c).any fun s => decide (Begins s.latex)

theorem isRecoverable_iff {c : Char} : isRecoverable c = true ↔ Recoverable c := by
  simp [isRecoverable, Recoverable, Option.any_eq_true, or_assoc, and_assoc]

/-- What the tables spell is no plain text, and mathematics is neither a letter nor a brace. -/
theorem keys_checked :
    (asciiSpelled.all fun p => !p.1.isAlphanum && !" -`'?!".toList.contains p.1 &&
      (!isBlank p.1 || p.1 == '\u00a0') && (!p.2.math || p.1 != '\\' && isNoBrace p.1)) = true := by
  decide +kernel

theorem spelling?_ascii {mode : Mode} {c : Char} {s : Spelling} (h : spelling? mode c = some s) :
    spelling? .ascii c = some s := by
  cases mode with
  | ascii => exact h
  | unicode =>
    have halways : alwaysSpelled.lookup c = some s := h
    rw [spelling?, asciiSpelled, List.append_assoc, List.lookup_append, halways]
    rfl

theorem key_of_mem {c : Char} {s : Spelling} (h : (c, s) ∈ asciiSpelled) :
    c.isAlphanum = false ∧ c ∉ " -`'?!".toList ∧ (isBlank c = true → c = '\u00a0') ∧
      (s.math = true → c ≠ '\\' ∧ isNoBrace c = true) := by
  have hchecked := List.all_eq_true.1 keys_checked (c, s) h
  simp only [Bool.and_eq_true, Bool.or_eq_true, Bool.not_eq_true', beq_iff_eq, bne_iff_ne]
    at hchecked
  obtain ⟨⟨⟨halphanum, hmark⟩, hblank⟩, hmath⟩ := hchecked
  refine ⟨halphanum, by simpa using hmark, fun h => ?_, fun h => ?_⟩
  · exact hblank.resolve_left (by simp [h])
  · exact hmath.resolve_left (by simp [h])

theorem Shape.one_lt_length {s : Spelling} (h : Shape s) (hbegin : Begins s.latex) :
    1 < s.latex.length := by
  cases h with
  | group => simp
  | escaped => simp
  | sign => simp
  | command => simp
  | mark hc => exact absurd hbegin (not_begins_mark hc)
  | marks hs => exact absurd hbegin (not_begins_marks hs)

namespace Recoverable
variable {mode : Mode} {c : Char} {s : Spelling}

theorem spelled (hc : Recoverable c) (h : spelling? mode c = some s) :
    c ≠ '\\' ∧ Begins s.latex ∧ (s.latex, c) ∈ decodingRules := by
  have hmem := mem_asciiSpelled h
  obtain ⟨halphanum, hmark, -⟩ := key_of_mem hmem
  obtain ⟨hslash, hmicro, s', hs', hbegin⟩ :
      c ≠ '\\' ∧ c ≠ 'µ' ∧ ∃ s, spelling? .ascii c = some s ∧ Begins s.latex := by
    rcases hc with hplain | rfl | hspelled
    · rw [halphanum] at hplain
      cases hplain
    · exact absurd (List.mem_cons_self ..) hmark
    · exact hspelled
  obtain rfl : s = s' := Option.some.inj ((spelling?_ascii h).symm.trans hs')
  exact ⟨hslash, hbegin, mem_decodingRules hmem ((shape_of_mem hmem).one_lt_length hbegin) hmicro⟩

theorem plainChar_eq (hc : Recoverable c) (h : spelling? mode c = none) :
    plainChar mode c = [c] := by
  rw [plainChar, if_neg]
  rintro ⟨rfl, hcode⟩
  rcases hc with hplain | rfl | ⟨-, -, s, hs, -⟩
  · have hascii := toNat_of_isAlphanum hplain
    omega
  · exact absurd hcode (by decide)
  · rw [h] at hs
    cases hs

/-- Of what a spelling begins with only the brace may be there to be spelled. -/
theorem eq_brace (hc : Recoverable c) (hopen : c ∈ openers) : c = '{' := by
  rcases hc with hplain | rfl | ⟨hslash, -, s, hs, -⟩
  · have hnone : (openers.all fun c => !c.isAlphanum) = true := by decide
    have hc := List.all_eq_true.1 hnone c hopen
    rw [hplain] at hc
    cases hc
  · exact absurd hopen (by decide)
  · have hmark := (key_of_mem (mem_asciiSpelled hs)).2.1
    rcases List.mem_cons.1 hopen with hbrace | hopen
    · exact hbrace
    · rcases List.mem_cons.1 hopen with heq | hopen
      · exact absurd heq hslash
      · exact absurd (List.mem_cons_of_mem _ hopen) hmark

theorem ne_slash (hc : Recoverable c) : c ≠ '\\' := by
  rintro rfl
  have hbrace := hc.eq_brace (by decide)
  cases hbrace

theorem eq_of_isBlank (hc : Recoverable c) (hblank : isBlank c = true) : c = ' ' := by
  rcases hc with hplain | rfl | ⟨-, -, s, hs, hbegin⟩
  · rw [isBlank_of_isAlphanum hplain] at hblank
    cases hblank
  · rfl
  · -- the blank that is spelled is spelled as a tilde
    obtain rfl := (key_of_mem (mem_asciiSpelled hs)).2.2.1 hblank
    have hspelling : spelling? .ascii '\u00a0' = some ⟨['~'], false⟩ := by decide
    obtain rfl := Option.some.inj (hs.symm.trans hspelling)
    exact absurd hbegin (by decide)

end Recoverable

/-! ## The text between two replacements -/

/-- A character while the given rules are still to come. -/
def spellWith (mode : Mode) (rules : List (Text × Char)) (c : Char) : Text :=
  match spelling? mode c with
  | some s => if rules.contains (s.latex, c) then s.latex else [c]
  | none => [c]

/-- The text when the given rules are still to come. -/
def pending (mode : Mode) (rules : List (Text × Char)) (inMath : Bool) (s : Text) : Text :=
  grouped (isMath mode) (spellWith mode rules) inMath s

theorem spellWith_cases {mode : Mode} {c : Char} (hc : Recoverable c) (rules : List (Text × Char)) :
    spellWith mode rules c = [c] ∨ ∃ s, spelling? mode c = some s ∧
      (s.latex, c) ∈ rules ∧ Begins s.latex ∧ spellWith mode rules c = s.latex := by
  rw [spellWith]
  cases hspelling : spelling? mode c with
  | none => exact .inl rfl
  | some s =>
    dsimp only
    split
    · next hmem =>
      exact .inr ⟨s, rfl, List.contains_iff_mem.1 hmem, (hc.spelled hspelling).2.1, rfl⟩
    · exact .inl rfl

theorem escape_eq_pending (mode : Mode) {s : Text} (hs : ∀ c ∈ s, Recoverable c) :
    escape mode s = pending mode decodingRules false s := by
  rw [escape_eq_grouped, pending]
  refine grouped_congr (fun c hc => ?_) false
  rw [spell, spellWith]
  cases hspelling : spelling? mode c with
  | none => exact (hs c hc).plainChar_eq hspelling
  | some s =>
    dsimp only
    rw [if_pos (List.contains_iff_mem.2 ((hs c hc).spelled hspelling).2.2)]

section
variable {mode : Mode} {rules : List (Text × Char)} {s : Text}

theorem endsName_pending (hs : ∀ c ∈ s, Recoverable c) : EndsName (pending mode rules true s) := by
  cases s with
  | nil => exact ⟨'}', [], rfl, by decide, by decide, by decide⟩
  | cons c s =>
    rw [List.forall_mem_cons] at hs
    rw [pending, grouped]
    cases hmath : isMath mode c with
    | false => exact ⟨'}', _, rfl, by decide, by decide, by decide⟩
    | true =>
      obtain ⟨sp, hspelling, hsp⟩ := (Option.any_eq_true _ _).1 hmath
      have hmem := mem_asciiSpelled hspelling
      have hshape := shape_of_mem hmem
      rcases spellWith_cases hs.1 rules with hplain | ⟨sp', hspelling', -, -, hspelled⟩
      · rw [hplain]
        obtain ⟨halphanum, hmark, -, hkey⟩ := key_of_mem hmem
        have halpha : c.isAlpha = false := by
          rw [Char.isAlphanum, Bool.or_eq_false_iff] at halphanum
          exact halphanum.1
        refine ⟨c, _, rfl, halpha, ?_, fun hblank => hmark (hblank ▸ List.mem_cons_self ..)⟩
        rintro rfl
        cases (hkey hsp).2
      · obtain rfl := Option.some.inj (hspelling.symm.trans hspelling')
        rw [hspelled]
        cases hshape with
        | command => exact ⟨'\\', _, rfl, by decide, by decide, by decide⟩
        | _ => cases hsp

/-- What a group goes on with does not stand anywhere. -/
theorem not_prefix_pending {pattern : Spelling} (h : Shape pattern) {r : Text}
    (hpattern : pattern.latex = '{' :: r) (hs : ∀ c ∈ s, Recoverable c) (inMath : Bool) :
    ¬r <+: pending mode rules inMath s := by
  obtain ⟨d, name, hr, -⟩ := h.exists_group hpattern
  have hclose : ∀ u, ¬r <+: '}' :: u := by
    intro u hpre
    rw [hr, List.cons_prefix_cons] at hpre
    exact absurd hpre.1 (by decide)
  cases s with
  | nil =>
    cases inMath with
    | true => exact hclose []
    | false =>
      intro hpre
      rw [hr] at hpre
      cases List.prefix_nil.1 hpre
  | cons c s =>
    rw [List.forall_mem_cons] at hs
    have hchar : ¬r <+: spellWith mode rules c ++ pending mode rules (isMath mode c) s := by
      rcases spellWith_cases hs.1 rules with hplain | ⟨sp, hspelling, -, hbegin, hspelled⟩
      · rw [hplain, hr, List.singleton_append, List.cons_prefix_cons]
        exact fun hpre => hs.1.ne_slash hpre.1.symm
      · rw [hspelled]
        refine h.not_prefix_of_spelling hpattern (mem_asciiSpelled hspelling) hbegin fun hsp => ?_
        have hmath : isMath mode c = true := by rw [isMath, hspelling, Option.any_some, hsp]
        rw [hmath]
        exact endsName_pending hs.2
    rw [pending, grouped]
    cases inMath with
    | true =>
      cases hmath : isMath mode c with
      | true => rwa [hmath] at hchar
      | false => exact hclose _
    | false =>
      cases hmath : isMath mode c with
      | true =>
        have hopen : '{' ∈ mathOpen := by decide
        have hclose : '}' ∉ mathOpen := by decide
        refine h.not_prefix_of_brace hpattern hopen (fun t z hsplit _ hmem => hclose ?_) _
        rw [hsplit]
        exact List.mem_append_left z hmem
      | false => rwa [hmath] at hchar

end

/-! ## One replacement -/

section
variable {mode : Mode} {done rest : List (Text × Char)} {p : Text × Char} {s : Text}

theorem length_le_of_split (h : decodingRules = done ++ p :: rest) {q : Text × Char}
    (hq : q ∈ rest) : q.1.length ≤ p.1.length ∧ q.1 ≠ p.1 := by
  have hsorted := decodingRules_pairwise
  rw [h, List.pairwise_append, List.pairwise_cons] at hsorted
  exact hsorted.2.1.1 q hq

theorem le_length_of_split (h : decodingRules = done ++ p :: rest) {q : Text × Char}
    (hq : q ∈ done) : p.1.length ≤ q.1.length := by
  have hsorted := decodingRules_pairwise
  rw [h, List.pairwise_append] at hsorted
  exact (hsorted.2.2 q hq p (List.mem_cons_self ..)).1

theorem exists_pattern (h : decodingRules = done ++ p :: rest) :
    1 < p.1.length ∧ ∃ pattern, Shape pattern ∧ pattern.latex = p.1 ∧ isApart p.1 = true := by
  have hmem : p ∈ decodingRules := h ▸ List.mem_append_right _ (List.mem_cons_self ..)
  obtain ⟨hlength, pattern, hpattern, hlatex⟩ := exists_spelling (mem_decodable hmem)
  exact ⟨hlength, pattern, shape_of_mem hpattern, hlatex, hlatex ▸ isApart_of_mem hpattern⟩

theorem not_prefix_char {pattern : Spelling} (hshape : Shape pattern)
    (hlength : 1 < pattern.latex.length) {c : Char} (hc : c ∈ openers → c = '{')
    (hbrace : c = '{' → pattern.latex.length ≤ 2) (u : Text) : ¬pattern.latex <+: c :: u := by
  obtain ⟨d, r, hr, hd⟩ := hshape.exists_cons hlength
  intro hpre
  rw [hr, List.cons_prefix_cons] at hpre
  obtain ⟨rfl, -⟩ := hpre
  have hopen := hc hd
  have hshort := hbrace hopen
  rw [hopen] at hr
  obtain ⟨e, name, rfl, -⟩ := hshape.exists_group hr
  rw [hr] at hshort
  simp at hshort

theorem replaceAll_boundary {pattern : Spelling} (hshape : Shape pattern)
    (hlength : 1 < pattern.latex.length) (hapart : isApart pattern.latex = true) (new : Text)
    {inMath next : Bool} {u : Text}
    (hu : next = true → ∀ r, pattern.latex = '{' :: r → ¬r <+: u) :
    replaceAll pattern.latex new (boundary inMath next ++ u) =
      boundary inMath next ++ replaceAll pattern.latex new u := by
  have hclose : '}' ∈ openers → '}' = '{' := fun h => absurd h (by decide)
  refine replaceAll_append fun t ht hsuffix => ?_
  cases inMath with
  | true =>
    cases next with
    | true => exact absurd (List.suffix_nil.1 hsuffix) ht
    | false =>
      rcases List.suffix_cons_iff.1 hsuffix with rfl | hnil
      · exact not_prefix_char hshape hlength hclose (fun h => by cases h) u
      · exact absurd (List.suffix_nil.1 hnil) ht
  | false =>
    cases next with
    | false => exact absurd (List.suffix_nil.1 hsuffix) ht
    | true => exact hshape.not_prefix_mathOpen hlength hapart ht hsuffix (hu rfl)

variable (mode) in
/-- A character is replaced if the rule is its own, and otherwise left as it is. -/
theorem replaceAll_char (h : decodingRules = done ++ p :: rest) {c : Char} (hc : Recoverable c)
    (hs : ∀ c ∈ s, Recoverable c) :
    replaceAll p.1 [p.2]
        (spellWith mode (p :: rest) c ++ pending mode (p :: rest) (isMath mode c) s) =
      spellWith mode rest c ++
        replaceAll p.1 [p.2] (pending mode (p :: rest) (isMath mode c) s) := by
  obtain ⟨hlength, pattern, hshape, hlatex, -⟩ := exists_pattern h
  rw [← hlatex] at hlength ⊢
  have hcopy : ∀ {u : Text}, (c = '{' → pattern.latex.length ≤ 2) →
      replaceAll pattern.latex [p.2] ([c] ++ u) = [c] ++ replaceAll pattern.latex [p.2] u := by
    intro u hbrace
    refine replaceAll_append fun t ht hsuffix => ?_
    rcases List.suffix_cons_iff.1 hsuffix with rfl | hnil
    · exact not_prefix_char hshape hlength hc.eq_brace hbrace u
    · exact absurd (List.suffix_nil.1 hnil) ht
  rw [spellWith, spellWith]
  cases hspelling : spelling? mode c with
  | none =>
    refine hcopy fun hopen => ?_
    rw [hopen] at hspelling
    cases mode <;> exact absurd hspelling (by decide)
  | some sp =>
    obtain ⟨-, hbegin, hrule⟩ := hc.spelled hspelling
    dsimp only
    simp only [List.contains_iff_mem]
    rw [h, List.mem_append] at hrule
    by_cases hown : (sp.latex, c) = p
    · subst hown
      have hpast : (sp.latex, c) ∉ rest := fun hmem => (length_le_of_split h hmem).2 rfl
      have hne : pattern.latex ≠ [] := List.ne_nil_of_length_pos (by omega)
      rw [if_pos (List.mem_cons_self ..), if_neg hpast]
      rw [← show pattern.latex = sp.latex from hlatex]
      exact replaceAll_found _ _ hne
    · by_cases hmem : (sp.latex, c) ∈ rest
      · obtain ⟨hlonger, hne⟩ := length_le_of_split h hmem
        rw [← hlatex] at hlonger hne
        rw [if_pos (List.mem_cons_of_mem _ hmem), if_pos hmem]
        refine replaceAll_append fun t ht hsuffix => ?_
        have hspelled := shape_of_mem (mem_asciiSpelled hspelling)
        refine hshape.not_prefix_of_suffix hlength hspelled hbegin hlonger hne ht hsuffix
          (fun r hr => not_prefix_pending hshape hr hs _) fun hsp => ?_
        rw [isMath, hspelling, Option.any_some, hsp]
        exact endsName_pending hs
      · have hpast : (sp.latex, c) ∉ p :: rest := fun hrest =>
          (List.mem_cons.1 hrest).elim hown hmem
        have hdone := hrule.resolve_right hpast
        rw [if_neg hpast, if_neg hmem]
        refine hcopy fun hopen => ?_
        have hbrace : spelling? mode '{' = some ⟨['\\', '{'], false⟩ := by
          cases mode <;> decide
        rw [hopen, hbrace] at hspelling
        rw [← Option.some.inj hspelling] at hdone
        rw [hlatex]
        exact le_length_of_split h hdone

/-- A replacement decodes its own character, and changes nothing else. -/
theorem replaceAll_pending (h : decodingRules = done ++ p :: rest) (hs : ∀ c ∈ s, Recoverable c)
    (inMath : Bool) :
    replaceAll p.1 [p.2] (pending mode (p :: rest) inMath s) = pending mode rest inMath s := by
  obtain ⟨hlength, pattern, hshape, hlatex, hapart⟩ := exists_pattern h
  have hboundary : ∀ {inMath next : Bool} {u : Text},
      (next = true → ∀ r, pattern.latex = '{' :: r → ¬r <+: u) →
        replaceAll p.1 [p.2] (boundary inMath next ++ u) =
          boundary inMath next ++ replaceAll p.1 [p.2] u := by
    rw [← hlatex] at hlength hapart ⊢
    exact replaceAll_boundary hshape hlength hapart [p.2]
  induction s generalizing inMath with
  | nil =>
    have hend : replaceAll p.1 [p.2] (boundary inMath false ++ []) =
        boundary inMath false ++ replaceAll p.1 [p.2] [] := hboundary fun hnext => by cases hnext
    rw [List.append_nil, replaceAll_nil, List.append_nil] at hend
    exact hend
  | cons c s ih =>
    have hinside : ∀ r, pattern.latex = '{' :: r →
        ¬r <+: pending mode (p :: rest) true (c :: s) := fun r hr =>
      not_prefix_pending hshape hr hs true
    rw [List.forall_mem_cons] at hs
    have hchar := replaceAll_char mode h hs.1 hs.2
    rw [ih hs.2] at hchar
    rw [pending, grouped, hboundary]
    · exact congrArg (boundary inMath (isMath mode c) ++ ·) hchar
    · intro hnext r hr
      have hinside := hinside r hr
      rw [pending, grouped, hnext] at hinside
      rwa [hnext]

end

/-! ## All replacements -/

theorem foldl_pending {mode : Mode} {done rules : List (Text × Char)} {s : Text}
    (h : decodingRules = done ++ rules) (hs : ∀ c ∈ s, Recoverable c) :
    rules.foldl (fun s p => replaceAll p.1 [p.2] s) (pending mode rules false s) =
      pending mode [] false s := by
  induction rules generalizing done with
  | nil => rfl
  | cons p rules ih =>
    have hnext : decodingRules = done ++ [p] ++ rules := by rw [h, List.append_assoc]; rfl
    rw [List.foldl_cons, replaceAll_pending h hs, ih hnext]

/-- The spellings are decoded; the groups of mathematics remain. -/
theorem decodeSpellings_escape (mode : Mode) {s : Text} (hs : ∀ c ∈ s, Recoverable c) :
    decodeSpellings (escape mode s) = grouped (isMath mode) (fun c => [c]) false s := by
  have hdone : decodingRules = [] ++ decodingRules := (List.nil_append _).symm
  rw [escape_eq_pending mode hs, decodeSpellings, foldl_pending hdone hs, pending]
  refine grouped_congr (fun c _ => ?_) false
  rw [spellWith]
  split
  · rfl
  · rfl

/-! ## Groups of mathematics -/

/-- A run of mathematics ends with its group. -/
theorem grouped_inMath (isMath : Char → Bool) (s : Text) :
    grouped isMath (fun c => [c]) true s =
      s.takeWhile isMath ++ '}' :: grouped isMath (fun c => [c]) false (s.dropWhile isMath) := by
  induction s with
  | nil => rfl
  | cons c s ih =>
    rw [grouped]
    cases hmath : isMath c with
    | true =>
      rw [ih, List.takeWhile_cons_of_pos hmath, List.dropWhile_cons_of_pos hmath]
      rfl
    | false =>
      have hneg : ¬isMath c = true := by simp [hmath]
      rw [List.takeWhile_cons_of_neg hneg, List.dropWhile_cons_of_neg hneg, grouped, hmath]
      rfl

theorem test_mathGroup {x z : Text} (hx : ∀ c ∈ x, isNoBrace c = true) :
    (flatGroup [mathOpen] []).test (mathOpen ++ (x ++ '}' :: z)) = some (x, z) := by
  have hstop : ∀ c ∈ ('}' :: z).head?, isNoBrace c = false := by
    intro c hc
    obtain rfl : '}' = c := Option.some.inj hc
    decide
  have hopen : after? mathOpen (mathOpen ++ (x ++ '}' :: z)) = some (x ++ '}' :: z) :=
    after?_eq_some_iff.2 rfl
  show flatGroup? [mathOpen] [] (mathOpen ++ (x ++ '}' :: z)) = some (x, z)
  rw [flatGroup?, afterAny?_singleton, hopen, Option.bind_some, dropWhile_of_stop hx hstop,
    takeWhile_of_stop hx hstop]
  rfl

theorem test_char {c : Char} (hc : c ≠ '\\') (u : Text) :
    (flatGroup [mathOpen] []).test (c :: u) = none := by
  have hnone : after? mathOpen (c :: u) = none := if_neg hc.symm
  show flatGroup? [mathOpen] [] (c :: u) = none
  rw [flatGroup?, afterAny?_singleton, hnone]
  rfl

theorem openMathGroups_grouped {isMath : Char → Bool} {s : Text} (hslash : ∀ c ∈ s, c ≠ '\\')
    (hbrace : ∀ c ∈ s, isMath c = true → isNoBrace c = true) :
    openMathGroups (grouped isMath (fun c => [c]) false s) = s := by
  induction hn : s.length using Nat.strongRecOn generalizing s with
  | ind n ih =>
    cases s with
    | nil => exact Scanner.replace_nil _ _
    | cons c s =>
      cases hmath : isMath c with
      | false =>
        rw [List.forall_mem_cons] at hslash hbrace
        have hrest := ih s.length (by simp [← hn]) hslash.2 hbrace.2 rfl
        rw [grouped, hmath]
        exact (Scanner.replace_of_none id (test_char hslash.1 _)).trans (congrArg (c :: ·) hrest)
      | true =>
        have hgroup : grouped isMath (fun c => [c]) false (c :: s) =
            mathOpen ++ grouped isMath (fun c => [c]) true (c :: s) := by
          rw [grouped, grouped, hmath]
          rfl
        have hinside : ∀ d ∈ (c :: s).takeWhile isMath, isNoBrace d = true := fun d hd =>
          hbrace d (List.takeWhile_subset _ hd) (List.all_eq_true.1 List.all_takeWhile d hd)
        have hbehind : (c :: s).dropWhile isMath ⊆ c :: s := List.dropWhile_subset _
        have hshorter : ((c :: s).dropWhile isMath).length < n := by
          have hle := (List.dropWhile_sublist isMath (l := s)).length_le
          rw [List.dropWhile_cons_of_pos hmath, ← hn, List.length_cons]
          omega
        have hrest := ih _ hshorter (fun d hd => hslash d (hbehind hd))
          (fun d hd => hbrace d (hbehind hd)) rfl
        have hfound := test_mathGroup hinside
          (z := grouped isMath (fun c => [c]) false ((c :: s).dropWhile isMath))
        rw [hgroup, grouped_inMath]
        refine (Scanner.replace_of_test id hfound).trans ?_
        rw [openMathGroups] at hrest
        rw [hrest]
        exact List.takeWhile_append_dropWhile

/-! ## Blanks -/

theorem collapseFrom_eq {inRun : Bool} {s : Text}
    (hblank : ∀ c ∈ s, isSourceBlank c = true → c = ' ') (hdouble : ¬[' ', ' '] <:+: s)
    (hrun : inRun = true → s.head? ≠ some ' ') : collapseFrom inRun s = s := by
  induction s generalizing inRun with
  | nil => rfl
  | cons c s ih =>
    rw [List.forall_mem_cons] at hblank
    have hrest : ¬[' ', ' '] <:+: s := fun h => hdouble (h.trans (List.suffix_cons c s).isInfix)
    rw [collapseFrom]
    by_cases hc : isSourceBlank c = true
    · obtain rfl := hblank.1 hc
      have hstart : inRun = false := by
        cases inRun with
        | false => rfl
        | true => exact absurd rfl (hrun rfl)
      have hnext : s.head? ≠ some ' ' := by
        intro hspace
        obtain ⟨t, rfl⟩ := List.head?_eq_some_iff.1 hspace
        exact hdouble ⟨[], t, rfl⟩
      rw [if_pos hc, hstart, if_neg Bool.false_ne_true, ih hblank.2 hrest fun _ => hnext]
    · rw [if_neg hc, ih hblank.2 hrest fun h => by cases h]

/-- Decoding gives back what was escaped, if there is nothing in it that is lost in a source text:
no blanks at the ends and none that stand together. -/
theorem decode_escape (mode : Mode) {s : Text} (hs : ∀ c ∈ s, Recoverable c)
    (hhead : s.head? ≠ some ' ') (hlast : s.getLast? ≠ some ' ') (hdouble : ¬[' ', ' '] <:+: s) :
    decode (escape mode s) = s := by
  have hslash : ∀ c ∈ s, c ≠ '\\' := fun c hc => (hs c hc).ne_slash
  have hbrace : ∀ c ∈ s, isMath mode c = true → isNoBrace c = true := by
    intro c hc hmath
    obtain ⟨sp, hspelling, hsp⟩ := (Option.any_eq_true _ _).1 hmath
    exact ((key_of_mem (mem_asciiSpelled hspelling)).2.2.2 hsp).2
  have hsource : ∀ c ∈ s, isSourceBlank c = true → c = ' ' := by
    intro c hc hblank
    refine (hs c hc).eq_of_isBlank ?_
    simp only [isSourceBlank, Bool.or_eq_true, beq_iff_eq] at hblank
    rcases hblank with ((rfl | rfl) | rfl) | rfl
    all_goals decide
  have hend : ∀ c ∈ s, some c ≠ some ' ' → isBlank c = false := by
    intro c hc hspace
    rw [← Bool.not_eq_true]
    exact fun hblank => hspace (congrArg some ((hs c hc).eq_of_isBlank hblank))
  have hfirst : ∀ c ∈ s.head?, isBlank c = false := fun c hc =>
    hend c (List.mem_of_head? hc) (Option.mem_def.1 hc ▸ hhead)
  have hfinal : ∀ c ∈ s.getLast?, isBlank c = false := fun c hc =>
    hend c (List.mem_of_getLast? hc) (Option.mem_def.1 hc ▸ hlast)
  rw [decode, decodeSpellings_escape mode hs, openMathGroups_grouped hslash hbrace, collapseBlanks,
    collapseFrom_eq hsource hdouble (fun h => by cases h), trim_eq hfirst hfinal]

/-- Braces before a letter in a group, and commands that begin longer ones. -/
def mixedText : Text := r"{{à ∈∞⊂⊆ x}"

theorem decode_escape_mixedText :
    (∀ c ∈ mixedText, Recoverable c) ∧ mixedText.head? ≠ some ' ' ∧
      mixedText.getLast? ≠ some ' ' ∧ ¬[' ', ' '] <:+: mixedText ∧
        decode (escape .ascii mixedText) = mixedText := by
  obtain ⟨hall, hhead, hlast, hdouble⟩ : mixedText.all isRecoverable = true ∧
      mixedText.head? ≠ some ' ' ∧ mixedText.getLast? ≠ some ' ' ∧
        ¬[' ', ' '] <:+: mixedText := by decide +kernel
  have hs : ∀ c ∈ mixedText, Recoverable c := fun c hc =>
    isRecoverable_iff.1 (List.all_eq_true.1 hall c hc)
  exact ⟨hs, hhead, hlast, hdouble, decode_escape .ascii hs hhead hlast hdouble⟩

end Bibliography.Latex
