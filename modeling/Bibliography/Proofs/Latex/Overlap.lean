import Bibliography.Proofs.Latex.Rules

/-! # Where spellings meet

A spelling that is looked for may begin inside another one only in two ways: at a brace that is
spelled out, since groups begin with one; and at a command of mathematics, which may be the
beginning of a longer one. What follows decides: a command is followed by no letter, and a brace by
nothing that a group goes on with.
-/

namespace Bibliography.Latex
set_option autoImplicit false
open Text

/-- A name that stands before the text ends there. -/
def EndsName (u : Text) : Prop :=
  ∃ d rest, u = d :: rest ∧ d.isAlpha = false ∧ d ≠ '{' ∧ d ≠ ' '

/-- What the spellings that are looked for begin with. -/
def openers : Text := r"{\-`'?!"

/-- The spelling looks like a command or a group, not like plain text. -/
def Begins (latex : Text) : Prop := latex.head? = some '\\' ∨ latex.head? = some '{'

instance (latex : Text) : Decidable (Begins latex) :=
  inferInstanceAs (Decidable (latex.head? = some '\\' ∨ latex.head? = some '{'))

theorem not_begins_mark {c : Char} (hc : c ∈ "`'~".toList) : ¬Begins [c] := by
  rintro (hslash | hbrace)
  · obtain rfl := Option.some.inj hslash
    exact absurd hc (by decide)
  · obtain rfl := Option.some.inj hbrace
    exact absurd hc (by decide)

theorem not_begins_marks {s : Text} (hs : ∀ c ∈ s, c ∈ "-`'?!".toList) : ¬Begins s := by
  rintro (hslash | hbrace)
  · exact absurd (hs _ (List.mem_of_head? hslash)) (by decide)
  · exact absurd (hs _ (List.mem_of_head? hbrace)) (by decide)

theorem mem_of_suffix_concat {d : Char} {s t : Text} (ht : t ≠ []) (h : t <:+ s ++ [d]) :
    d ∈ t := by
  rcases List.suffix_concat_iff.1 h with rfl | ⟨t, rfl, -⟩
  · exact absurd rfl ht
  · simp

theorem ne_of_isAlpha {c d : Char} (hc : c.isAlpha = true) (hd : d.isAlpha = false) : c ≠ d := by
  rintro rfl
  rw [hc] at hd
  cases hd

namespace Shape
variable {s pattern : Spelling}

/-- No spelling goes on behind a closing brace. -/
theorem brace_notMem (h : Shape s) {t r : Text} (hs : s.latex = t ++ r) (hr : r ≠ []) :
    '}' ∉ t := by
  have hletters : ∀ {name : Text}, (∀ d ∈ name, d.isAlpha = true) → '}' ∉ name :=
    fun hname hmem => by cases hname _ hmem
  have hletter : ∀ {c : Char}, c.isAlpha = true → '}' ≠ c := fun hc =>
    (ne_of_isAlpha hc (by decide)).symm
  have hlast : s.latex.dropLast = t ++ r.dropLast := by
    rw [hs, List.dropLast_append_of_ne_nil hr]
  suffices hnone : '}' ∉ s.latex.dropLast by
    rw [hlast, List.mem_append, not_or] at hnone
    exact hnone.1
  cases h with
  | @group c name hc _ hname _ =>
    have hgroup : ('{' :: '\\' :: c :: (name ++ ['}'])).dropLast =
        '{' :: '\\' :: c :: name := by
      rw [← List.cons_append, ← List.cons_append, ← List.cons_append, List.dropLast_concat]
    have hfirst : '}' ≠ c := by
      rintro rfl
      cases hc
    have hothers : '}' ∉ name := fun hmem => by cases hname _ hmem
    rw [hgroup]
    simp [hfirst, hothers]
  | escaped => simp
  | @sign c name hc hname =>
    have hsign : ('\\' :: c :: (name ++ ['{', '}'])).dropLast =
        '\\' :: c :: (name ++ ['{']) := by
      have hsplit : '\\' :: c :: (name ++ ['{', '}']) =
          '\\' :: c :: (name ++ ['{']) ++ ['}'] := by simp
      rw [hsplit, List.dropLast_concat]
    rw [hsign]
    simp [hletter hc, hletters hname]
  | @command c name hc hname =>
    intro hmem
    have hmem := List.dropLast_subset _ hmem
    simp [hletter hc, hletters hname] at hmem
  | mark => simp
  | @marks s hmarks =>
    intro hmem
    exact absurd (hmarks '}' (List.dropLast_subset _ hmem)) (by decide)

theorem exists_cons (h : Shape pattern) (hlength : 1 < pattern.latex.length) :
    ∃ c rest, pattern.latex = c :: rest ∧ c ∈ openers := by
  cases h with
  | group => exact ⟨_, _, rfl, by decide⟩
  | escaped => exact ⟨_, _, rfl, by decide⟩
  | sign => exact ⟨_, _, rfl, by decide⟩
  | command => exact ⟨_, _, rfl, by decide⟩
  | mark => cases Nat.lt_irrefl _ hlength
  | @marks s hmarks =>
    cases s with
    | nil => cases hlength
    | cons c s =>
      have hfirst := hmarks c (List.mem_cons_self ..)
      exact ⟨c, s, rfl, List.mem_cons_of_mem _ (List.mem_cons_of_mem _ hfirst)⟩

/-- What goes on where a command of mathematics ends would go on with its name. -/
theorem not_endsName (h : Shape pattern) {c : Char} {name r : Text}
    (hname : ∀ d ∈ name, d.isAlpha = true)
    (hpattern : pattern.latex = '\\' :: c :: (name ++ r)) (hr : r ≠ []) : ¬EndsName r := by
  rintro ⟨d, rest, rfl, hd, hbrace, -⟩
  cases h with
  | group => cases hpattern
  | escaped => simp at hpattern
  | @sign e word _ hword =>
    have hsame : word ++ ['{', '}'] = name ++ d :: rest :=
      (List.cons.inj (List.cons.inj hpattern).2).2
    rcases List.append_eq_append_iff.1 hsame with ⟨as, hsplit, hrest⟩ | ⟨bs, hsplit, hrest⟩
    · cases as with
      | nil => exact hbrace (List.cons.inj hrest).1.symm
      | cons e as =>
        obtain rfl := (List.cons.inj hrest).1
        have hopen := hname '{' (by simp [hsplit])
        cases hopen
    · cases bs with
      | nil => exact hbrace (List.cons.inj hrest).1
      | cons e bs =>
        obtain rfl := (List.cons.inj hrest).1
        rw [hword d (by simp [hsplit])] at hd
        cases hd
  | @command e word _ hword =>
    have hsame : word = name ++ d :: rest := (List.cons.inj (List.cons.inj hpattern).2).2
    rw [hword d (by simp [hsame])] at hd
    cases hd
  | mark => cases (List.cons.inj hpattern).2
  | @marks s hmarks =>
    have hfirst := hmarks '\\' (by rw [show s = _ from hpattern]; exact List.mem_cons_self ..)
    exact absurd hfirst (by decide)

theorem not_escaped_append (h : Shape pattern) {c : Char} {r : Text} (hc : c ∈ escapable)
    (hr : r ≠ []) : pattern.latex ≠ '\\' :: c :: r := by
  intro hpattern
  have hletter : ∀ e ∈ escapable, e.isAlpha = false := by
    have hall : (escapable.all fun e => !e.isAlpha) = true := by decide
    simpa using hall
  cases h with
  | group => cases hpattern
  | escaped => exact hr (by simpa using (List.cons.inj (List.cons.inj hpattern).2).2.symm)
  | @sign e name he =>
    exact ne_of_isAlpha he (hletter c hc) (List.cons.inj (List.cons.inj hpattern).2).1
  | @command e name he =>
    exact ne_of_isAlpha he (hletter c hc) (List.cons.inj (List.cons.inj hpattern).2).1
  | mark => cases (List.cons.inj hpattern).2
  | @marks s hmarks =>
    have hs : s = '\\' :: c :: r := hpattern
    exact absurd (hmarks '\\' (hs ▸ List.mem_cons_self ..)) (by decide)

/-- Where a longer spelling begins inside another one. -/
theorem overlap (h : Shape pattern) (hlength : 1 < pattern.latex.length) (hs : Shape s)
    (hbegin : Begins s.latex) {t r : Text} (ht : t ≠ [])
    (hsuffix : t <:+ s.latex) (hpattern : pattern.latex = t ++ r) (hr : r ≠ []) :
    t = ['{'] ∨ s.math = true ∧ ¬EndsName r := by
  have hbrace := h.brace_notMem hpattern hr
  obtain ⟨d, rest, hfirst, hd⟩ := h.exists_cons hlength
  -- only what a spelling begins with can be met inside
  have hinside : ∀ {e : Char} {u : Text}, t = e :: u → e ∈ openers := by
    intro e u htail
    rw [hfirst, htail, List.cons_append] at hpattern
    exact (List.cons.inj hpattern).1 ▸ hd
  cases hs with
  | @group c name =>
    have hlast : t <:+ '{' :: '\\' :: c :: name ++ ['}'] := hsuffix
    exact absurd (mem_of_suffix_concat ht hlast) hbrace
  | @sign c name =>
    have hlast : t <:+ '\\' :: c :: (name ++ ['{']) ++ ['}'] := by simpa using hsuffix
    exact absurd (mem_of_suffix_concat ht hlast) hbrace
  | @escaped c hc =>
    rcases List.suffix_cons_iff.1 hsuffix with hwhole | hsuffix
    · rw [hwhole] at hpattern
      exact absurd hpattern (h.not_escaped_append hc hr)
    · rcases List.suffix_cons_iff.1 hsuffix with hlast | hnil
      · have hopen : (openers.all fun e => !escapable.contains e || e == '{') = true := by decide
        have hc' := List.all_eq_true.1 hopen c (hinside hlast)
        have hbrace : c = '{' := by simpa [hc] using hc'
        rw [hlast, hbrace]
        exact .inl rfl
      · exact absurd (List.suffix_nil.1 hnil) ht
  | @command c name hc hname =>
    rcases List.suffix_cons_iff.1 hsuffix with hwhole | hsuffix
    · rw [hwhole] at hpattern
      exact .inr ⟨rfl, h.not_endsName hname hpattern hr⟩
    · obtain ⟨e, u, rfl⟩ := List.exists_cons_of_ne_nil ht
      have hletter : e.isAlpha = true := by
        rcases List.mem_cons.1 (hsuffix.mem (List.mem_cons_self ..)) with rfl | hmem
        · exact hc
        · exact hname e hmem
      have hnone : (openers.all fun e => !e.isAlpha) = true := by decide
      have he := List.all_eq_true.1 hnone e (hinside rfl)
      rw [hletter] at he
      cases he
  | mark hc => exact absurd hbegin (not_begins_mark hc)
  | marks hmarks => exact absurd hbegin (not_begins_marks hmarks)

/-- A spelling is not found inside a shorter one, whatever follows that. -/
theorem not_prefix_of_suffix (h : Shape pattern) (hlength : 1 < pattern.latex.length) (hs : Shape s)
    (hbegin : Begins s.latex)
    (hlonger : s.latex.length ≤ pattern.latex.length) (hne : s.latex ≠ pattern.latex) {t u : Text}
    (ht : t ≠ []) (hsuffix : t <:+ s.latex)
    (hbrace : ∀ r, pattern.latex = '{' :: r → ¬r <+: u) (hname : s.math = true → EndsName u) :
    ¬pattern.latex <+: t ++ u := by
  intro hpre
  have hinside := hsuffix.length_le
  rcases List.prefix_or_prefix_of_prefix hpre (List.prefix_append t u) with hshort | ⟨r, hr⟩
  · have hpattern := hshort.eq_of_length (Nat.le_antisymm hshort.length_le (by omega))
    exact hne (hsuffix.eq_of_length (Nat.le_antisymm hinside (hpattern ▸ hlonger)) ▸ hpattern.symm)
  · by_cases hrest : r = []
    · rw [hrest, List.append_nil] at hr
      exact hne (hsuffix.eq_of_length (Nat.le_antisymm hinside (hr ▸ hlonger)) ▸ hr)
    · rw [← hr, List.prefix_append_right_inj] at hpre
      rcases h.overlap hlength hs hbegin ht hsuffix hr.symm hrest with rfl | ⟨hmath, hends⟩
      · exact hbrace r hr.symm hpre
      · obtain ⟨d, rest, rfl, hd⟩ := hname hmath
        obtain ⟨e, r, rfl⟩ := List.exists_cons_of_ne_nil hrest
        obtain rfl := (List.cons_prefix_cons.1 hpre).1
        exact hends ⟨e, r, rfl, hd⟩

/-! ## What a group goes on with -/

theorem exists_group (h : Shape pattern) {r : Text} (hpattern : pattern.latex = '{' :: r) :
    ∃ c name, r = '\\' :: c :: (name ++ ['}']) ∧ isNoBrace c = true ∧ c ∉ escapable ∧
      (∀ d ∈ name, isNoBrace d = true) ∧
        (c.isAlpha = true → (∀ d ∈ name, d.isAlpha = true ∨ d = ' ') ∧
          ∀ p ∈ asciiSpelled, p.2 ≠ ⟨'\\' :: c :: name, true⟩) := by
  cases h with
  | @group c name hc hescapable hname hletter =>
    exact ⟨c, name, (List.cons.inj hpattern).2.symm, hc, hescapable, hname, hletter⟩
  | escaped => cases hpattern
  | sign => cases hpattern
  | command => cases hpattern
  | @mark c hc =>
    obtain rfl : c = '{' := (List.cons.inj hpattern).1
    exact absurd hc (by decide)
  | @marks s hmarks =>
    have hs : s = '{' :: r := hpattern
    exact absurd (hmarks '{' (hs ▸ List.mem_cons_self ..)) (by decide)

/-- A group does not go on with a text that opens a brace and goes on with nothing behind a closing
one. -/
theorem not_prefix_of_brace (h : Shape pattern) {r v : Text}
    (hpattern : pattern.latex = '{' :: r) (hv : '{' ∈ v)
    (hend : ∀ t z, v = t ++ z → z ≠ [] → '}' ∉ t) (u : Text) : ¬r <+: v ++ u := by
  obtain ⟨c, name, rfl, hc, -, hname, -⟩ := h.exists_group hpattern
  have hopen : '{' ∉ '\\' :: c :: (name ++ ['}']) := by
    have hfirst : '{' ≠ c := by
      rintro rfl
      cases hc
    have hothers : '{' ∉ name := fun hmem => by cases hname _ hmem
    simp [hfirst, hothers]
  intro hpre
  rcases List.prefix_or_prefix_of_prefix hpre (List.prefix_append v u) with ⟨z, hz⟩ | hshort
  · by_cases hnil : z = []
    · rw [hnil, List.append_nil] at hz
      exact hopen (hz ▸ hv)
    · exact hend _ z hz.symm hnil (by simp)
  · exact hopen (hshort.mem hv)

/-- A group does not go on with a spelling. -/
theorem not_prefix_of_spelling (h : Shape pattern) {r : Text}
    (hpattern : pattern.latex = '{' :: r) {d : Char} (hmem : (d, s) ∈ asciiSpelled)
    (hbegin : Begins s.latex) {u : Text}
    (hname : s.math = true → EndsName u) : ¬r <+: s.latex ++ u := by
  obtain ⟨c, name, rfl, -, hescapable, -, hletter⟩ := h.exists_group hpattern
  have hs := shape_of_mem hmem
  have hbrace : '{' ∈ s.latex → ¬ '\\' :: c :: (name ++ ['}']) <+: s.latex ++ u :=
    fun hopen => h.not_prefix_of_brace hpattern hopen (fun t z hz hne => hs.brace_notMem hz hne) u
  cases hs with
  | group => exact hbrace (List.mem_cons_self ..)
  | sign => exact hbrace (by simp)
  | @escaped e he =>
    intro hpre
    simp only [List.cons_append, List.cons_prefix_cons] at hpre
    exact hescapable (hpre.2.1 ▸ he)
  | @command e word he hword =>
    intro hpre
    simp only [List.cons_append, List.cons_prefix_cons] at hpre
    obtain ⟨-, rfl, hpre⟩ := hpre
    obtain ⟨hletters, hcommand⟩ := hletter he
    obtain ⟨f, rest, rfl, hf, -, hblank⟩ := hname rfl
    rcases List.prefix_or_prefix_of_prefix hpre (List.prefix_append word _) with hlong | ⟨z, hz⟩
    · have hclose := hword '}' (hlong.mem (by simp))
      cases hclose
    · rw [← hz, List.prefix_append_right_inj] at hpre
      cases z with
      | nil =>
        rw [List.append_nil] at hz
        have hclose := hword '}' (by simp [hz])
        cases hclose
      | cons g z =>
        obtain rfl := (List.cons_prefix_cons.1 hpre).1
        -- the name of the group is that of the command, or it goes on
        rcases List.eq_nil_or_concat z with rfl | ⟨z, e, rfl⟩
        · have hsame := (List.append_inj' hz rfl).1
          exact hcommand (d, _) hmem (by rw [hsame])
        · have hsplit : word ++ g :: z ++ [e] = name ++ ['}'] := by simpa using hz
          have hmem : g ∈ name := by
            rw [← (List.append_inj' hsplit rfl).1]
            simp
          rcases hletters g hmem with hg | hg
          · rw [hg] at hf
            cases hf
          · exact hblank hg
  | mark hc => exact absurd hbegin (not_begins_mark hc)
  | marks hmarks => exact absurd hbegin (not_begins_marks hmarks)

/-- A spelling is not found where a group in math mode opens. -/
theorem not_prefix_mathOpen (h : Shape pattern) (hlength : 1 < pattern.latex.length)
    (hapart : isApart pattern.latex = true) {t u : Text} (ht : t ≠ []) (hsuffix : t <:+ mathOpen)
    (hbrace : ∀ r, pattern.latex = '{' :: r → ¬r <+: u) : ¬pattern.latex <+: t ++ u := by
  intro hpre
  rcases List.suffix_cons_iff.1 hsuffix with rfl | hsuffix
  · -- both would begin alike
    have hbegin : pattern.latex = (mathOpen ++ u).take pattern.latex.length :=
      List.prefix_iff_eq_take.1 hpre
    have hsame : pattern.latex.take mathOpen.length = mathOpen.take pattern.latex.length := by
      calc pattern.latex.take mathOpen.length
          = ((mathOpen ++ u).take pattern.latex.length).take mathOpen.length := by rw [← hbegin]
        _ = ((mathOpen ++ u).take mathOpen.length).take pattern.latex.length := by
            rw [List.take_take, List.take_take, Nat.min_comm]
        _ = mathOpen.take pattern.latex.length := by rw [List.take_left]
    rw [isApart, hsame, agree_refl] at hapart
    cases hapart
  · have hname : t <:+ "ensuremath".toList ++ ['{'] := hsuffix
    obtain ⟨d, rest, hfirst, hd⟩ := h.exists_cons hlength
    rw [hfirst] at hpre
    rcases List.suffix_concat_iff.1 hname with rfl | ⟨t, rfl, ht'⟩
    · exact ht rfl
    · cases t with
      | nil =>
        obtain ⟨rfl, hrest⟩ := List.cons_prefix_cons.1 hpre
        exact hbrace rest hfirst hrest
      | cons e t =>
        obtain ⟨rfl, -⟩ := List.cons_prefix_cons.1 hpre
        have hnone : (openers.all fun e => !"ensuremath".toList.contains e) = true := by decide
        have hd' := List.all_eq_true.1 hnone d hd
        rw [Bool.not_eq_true', ← Bool.not_eq_true, List.contains_iff_mem] at hd'
        exact hd' (ht'.mem (List.mem_cons_self ..))

end Shape

end Bibliography.Latex
