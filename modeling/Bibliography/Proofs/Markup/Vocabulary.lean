import Bibliography.Proofs.Markup.Reading

/-! # The vocabulary of the tags

Two notions of letter case meet in a tag. What is found as a tag may be written with a long s; what
has a meaning may not. So a name with a meaning is always found, and what is found without a meaning
has a long s in its name. A tag ends at its first closing bracket, before any other tag begins;
hence a text is cut at one of its tags into parts that are read on their own.
-/

namespace Bibliography.Markup
set_option autoImplicit false
open Text Unicode

/-! ## Letter case -/

/-- Of the shifts only that of the kelvin sign leads to ASCII. -/
theorem lowerShifts_stay : (lowerShifts.all fun s =>
    decide (0x80 ≤ s.first + s.offset) || s.first == 0x212A && s.last == 0x212A) = true := by
  decide

theorem eq_kelvin_of_isLower {c : Char} {s : Shift} (hmem : s ∈ lowerShifts)
    (hcovers : s.covers c.toNat = true)
    (h : (Char.ofNat (c.toNat + s.offset).toNat).isLower = true) : c = '\u212a' := by
  have hstay := List.all_eq_true.1 lowerShifts_stay s hmem
  simp only [Shift.covers, Bool.and_eq_true, decide_eq_true_eq] at hcovers
  obtain ⟨⟨hfirst, hlast⟩, -⟩ := hcovers
  rw [isLower_iff] at h
  rw [Bool.or_eq_true, decide_eq_true_eq, Bool.and_eq_true, beq_iff_eq, beq_iff_eq] at hstay
  rcases hstay with hstay | ⟨hkelvin, hkelvin'⟩
  · have hstays : 0x80 ≤ (c.toNat + s.offset).toNat := by omega
    rcases toNat_ofNat_cases (c.toNat + s.offset).toNat with hsame | hzero
    · omega
    · omega
  · have hcode : c.toNat = 0x212A := by omega
    exact Char.toNat_inj.1 hcode

/-- A character whose lower case is a small ASCII letter is found as that letter. -/
theorem lowerChar_eq_of_isLower {c : Char} (h : ∀ d ∈ lowerChar c, d.isLower = true) :
    lowerChar c = [foldLetter c] := by
  rw [lowerChar] at h ⊢
  split
  · next hascii =>
    rw [if_pos hascii, List.forall_mem_singleton] at h
    rw [foldLetter_of_isAlpha (isAlpha_of_toLower h)]
  · next hascii =>
    rw [if_neg hascii] at h
    rcases caseImage_cases lowerSpecials lowerShifts c with
      ⟨p, hmem, himage⟩ | ⟨s, hmem, hcovers, himage⟩ | himage
    · -- only a capital with a dot is listed, and its dot is no letter
      rw [himage, List.mem_singleton.1 hmem] at h
      exact absurd (h '\u0307' (by decide)) (by decide)
    · rw [himage, List.forall_mem_singleton] at h
      obtain rfl := eq_kelvin_of_isLower hmem hcovers h
      decide
    · rw [himage, List.forall_mem_singleton, isLower_iff] at h
      omega

theorem map_foldLetter_of_lowerAfter {s letters : Text} {before : Text}
    (hletters : ∀ c ∈ letters, c.isLower = true) (h : lowerAfter before s = letters) :
    s.map foldLetter = letters := by
  induction s generalizing before letters with
  | nil => exact h
  | cons c s ih =>
    rw [lowerAfter] at h
    split at h
    · -- neither small sigma is an ASCII letter
      have hsigma := hletters (lowerSigma before s) (h ▸ List.mem_cons_self ..)
      rw [lowerSigma] at hsigma
      split at hsigma
      · exact absurd hsigma (by decide)
      · exact absurd hsigma (by decide)
    · rw [← h, List.forall_mem_append] at hletters
      rw [lowerChar_eq_of_isLower hletters.1, List.singleton_append] at h
      rw [List.map_cons, ih hletters.2 rfl, h]

/-- The name is found as the name of a tag. -/
def Found (name : Text) : Prop := ∃ t : Tag, name.map foldLetter = t.name

theorem found_iff {name : Text} :
    (Tag.all.any fun t => sameLetters t.name name) = true ↔ Found name := by
  rw [List.any_eq_true]
  constructor
  · rintro ⟨t, -, ht⟩
    exact ⟨t, sameLetters_iff.1 ht⟩
  · rintro ⟨t, ht⟩
    exact ⟨t, t.mem_all, sameLetters_iff.2 ht⟩

theorem Found.isWord {name : Text} (h : Found name) : ∀ c ∈ name, isWord c = true := by
  obtain ⟨t, ht⟩ := h
  intro c hc
  have hmem : foldLetter c ∈ t.name := ht ▸ List.mem_map_of_mem hc
  exact isWord_of_foldLetter (t.isLower_name _ hmem)

theorem Found.ne_nil {name : Text} (h : Found name) : name ≠ [] := by
  obtain ⟨t, ht⟩ := h
  rintro rfl
  cases t <;> exact absurd ht (by decide)

/-- A name with a meaning is found. -/
theorem found_of_ofName? {name : Text} {t : Tag} (h : Tag.ofName? name = some t) : Found name := by
  have hname : t.name = lower name := by simpa using List.find?_some h
  exact ⟨t, map_foldLetter_of_lowerAfter t.isLower_name hname.symm⟩

/-! ## Tags as texts -/

/-- The text is a tag with the given name. What follows the name does not go on with it, and holds
no angle bracket. -/
inductive TagOf (name : Text) : Text → Prop
  | opening {body : Text} : atBoundary body = true → '<' ∉ body → '>' ∉ body →
      TagOf name ('<' :: (name ++ (body ++ ['>'])))
  | closing {body : Text} : atBoundary body = true → '<' ∉ body → '>' ∉ body →
      TagOf name ('<' :: '/' :: (name ++ (body ++ ['>'])))

theorem attributes?_eq_some {s attributes rest : Text} {selfClosing : Bool}
    (h : attributes? s = some (attributes, selfClosing, rest)) :
    ∃ body, s = body ++ '>' :: rest ∧ '<' ∉ body ∧ '>' ∉ body := by
  have hbody : ∀ c ∈ s.takeWhile fun c => c != '<' && c != '>', (c != '<' && c != '>') = true :=
    List.all_eq_true.1 List.all_takeWhile
  have hs := List.takeWhile_append_dropWhile (p := fun c => c != '<' && c != '>') (l := s)
  unfold attributes? at h
  dsimp only at h
  split at h
  · next rest' hrest =>
    have hsame : rest' = rest := by
      split at h
      · exact (Prod.mk.inj (Prod.mk.inj (Option.some.inj h)).2).2
      · exact (Prod.mk.inj (Prod.mk.inj (Option.some.inj h)).2).2
    rw [hrest, hsame] at hs
    exact ⟨_, hs.symm, fun hmem => by simpa using hbody '<' hmem,
      fun hmem => by simpa using hbody '>' hmem⟩
  · cases h

theorem exists_attributes? {body : Text} (hopen : '<' ∉ body) (hclose : '>' ∉ body) :
    ∃ attributes selfClosing, ∀ rest,
      attributes? (body ++ '>' :: rest) = some (attributes, selfClosing, rest) := by
  have hinside : ∀ c ∈ body, (c != '<' && c != '>') = true := by
    intro c hc
    have hne : c ≠ '<' := fun heq => hopen (heq ▸ hc)
    have hne' : c ≠ '>' := fun heq => hclose (heq ▸ hc)
    simp [hne, hne']
  have hstop : ∀ rest : Text, ∀ c ∈ ('>' :: rest).head?, (c != '<' && c != '>') = false := by
    intro rest c hc
    obtain rfl : '>' = c := Option.some.inj hc
    decide
  by_cases hslash : body.getLast? = some '/'
  · refine ⟨body.dropLast, true, fun rest => ?_⟩
    rw [attributes?, takeWhile_of_stop hinside (hstop rest), dropWhile_of_stop hinside (hstop rest)]
    simp [hslash]
  · refine ⟨body, false, fun rest => ?_⟩
    rw [attributes?, takeWhile_of_stop hinside (hstop rest), dropWhile_of_stop hinside (hstop rest)]
    simp [hslash]

/-- What follows a name of word characters begins elsewhere. -/
theorem namedTag?_of_boundary {name body : Text} (hname : Found name)
    (hbody : atBoundary body = true) (hopen : '<' ∉ body) (hclose : '>' ∉ body)
    (isClosing : Bool) :
    ∃ tok, (∀ rest, namedTag? isClosing (name ++ (body ++ '>' :: rest)) = some (tok, rest)) ∧
      (tok = .ignored ↔ Tag.ofName? name = none) := by
  obtain ⟨attributes, selfClosing, hattributes⟩ := exists_attributes? hopen hclose
  have hstop : ∀ rest : Text, ∀ c ∈ (body ++ '>' :: rest).head?, isWord c = false := fun rest =>
    atBoundary_iff.1 (atBoundary_append hbody (atBoundary_tagEnd false rest))
  have htake := fun rest => takeWhile_of_stop hname.isWord (hstop rest)
  have hdrop := fun rest => dropWhile_of_stop hname.isWord (hstop rest)
  cases hmeaning : Tag.ofName? name with
  | none =>
    refine ⟨.ignored, fun rest => ?_, by simp⟩
    rw [namedTag?, htake, hdrop, if_pos (found_iff.2 hname), hattributes, Option.map_some, hmeaning]
  | some tag =>
    refine ⟨if isClosing then .closing tag else .opening tag attributes selfClosing,
      fun rest => ?_, ?_⟩
    · rw [namedTag?, htake, hdrop, if_pos (found_iff.2 hname), hattributes, Option.map_some,
        hmeaning]
    · cases isClosing with
      | true => simp
      | false => simp

/-- A tag whose name is found is read, whatever follows it. -/
theorem TagOf.token? {name source : Text} (h : TagOf name source) (hname : Found name) :
    ∃ tok, (∀ rest, Markup.token? (source ++ rest) = some (tok, rest)) ∧
      (tok = .ignored ↔ Tag.ofName? name = none) := by
  cases h with
  | @opening body hbody hopen hclose =>
    obtain ⟨tok, hread, hmeaning⟩ := namedTag?_of_boundary hname hbody hopen hclose false
    refine ⟨tok, fun rest => ?_, hmeaning⟩
    obtain ⟨c, cs, rfl⟩ := List.exists_cons_of_ne_nil hname.ne_nil
    have hslash : c ≠ '/' := by
      rintro rfl
      exact absurd (hname.isWord '/' (List.mem_cons_self ..)) (by decide)
    have hrest := hread rest
    simp only [List.cons_append, List.append_assoc, List.nil_append] at hrest ⊢
    rw [Markup.token?]
    · exact hrest
    · intro s hs
      exact hslash (List.cons.inj hs).1
  | @closing body hbody hopen hclose =>
    obtain ⟨tok, hread, hmeaning⟩ := namedTag?_of_boundary hname hbody hopen hclose true
    refine ⟨tok, fun rest => ?_, hmeaning⟩
    have hrest := hread rest
    simp only [List.cons_append, List.append_assoc, List.nil_append]
    exact hrest

theorem namedTag?_eq_some {s rest : Text} {isClosing : Bool} {tok : Token}
    (h : namedTag? isClosing s = some (tok, rest)) :
    ∃ name body, s = name ++ (body ++ '>' :: rest) ∧ Found name ∧ atBoundary body = true ∧
      '<' ∉ body ∧ '>' ∉ body := by
  have hs := List.takeWhile_append_dropWhile (p := isWord) (l := s)
  have hstop := List.head?_dropWhile_not isWord s
  unfold namedTag? at h
  dsimp only at h
  split at h
  · next hfound =>
    obtain ⟨⟨attributes, selfClosing, rest'⟩, hattributes, heq⟩ := Option.map_eq_some_iff.1 h
    have hrest : rest' = rest := by
      split at heq
      · exact (Prod.mk.inj heq).2
      · exact (Prod.mk.inj heq).2
    obtain ⟨body, hbody, hopen, hclose⟩ := attributes?_eq_some hattributes
    rw [hrest] at hbody
    rw [hbody] at hs hstop
    refine ⟨s.takeWhile isWord, body, hs.symm, found_iff.1 hfound, ?_, hopen, hclose⟩
    cases body with
    | nil => rfl
    | cons c body =>
      rw [List.cons_append, List.head?_cons] at hstop
      simpa [atBoundary] using hstop
  · cases h

/-- What is read as a tag is one, and its name is found. -/
theorem exists_tagOf {s rest : Text} {tok : Token} (h : token? s = some (tok, rest)) :
    ∃ name source, Found name ∧ TagOf name source ∧ s = source ++ rest := by
  unfold token? at h
  split at h
  · next s =>
    obtain ⟨name, body, rfl, hname, hbody, hopen, hclose⟩ := namedTag?_eq_some h
    exact ⟨name, _, hname, .closing hbody hopen hclose, by simp⟩
  · next s _ =>
    obtain ⟨name, body, rfl, hname, hbody, hopen, hclose⟩ := namedTag?_eq_some h
    exact ⟨name, _, hname, .opening hbody hopen hclose, by simp⟩
  · cases h

theorem suffix_of_token? {s rest : Text} {tok : Token} (h : token.test s = some (tok, rest)) :
    rest <:+ s := by
  obtain ⟨name, source, -, -, rfl⟩ := exists_tagOf h
  exact List.suffix_append ..

/-! ## Cutting at a tag -/

/-- The second angle bracket of a tag ends it. -/
theorem TagOf.angle_notMem {name source : Text} (h : TagOf name source) (hname : Found name) :
    ∃ inner, source = '<' :: inner ∧ '<' ∉ inner := by
  have hangle : '<' ∉ name := fun hmem => absurd (hname.isWord '<' hmem) (by decide)
  cases h with
  | opening hbody hopen hclose => exact ⟨_, rfl, by simp [hangle, hopen]⟩
  | closing hbody hopen hclose => exact ⟨_, rfl, by simp [hangle, hopen]⟩

/-- Whether a text begins with a tag is settled before the next angle bracket opens. -/
theorem token?_append (c : Char) (v w : Text) :
    token? (c :: v ++ '<' :: w) = (token? (c :: v)).map fun r => (r.1, r.2 ++ '<' :: w) := by
  cases hwhole : token? (c :: v ++ '<' :: w) with
  | none =>
    cases hfirst : token? (c :: v) with
    | none => rfl
    | some r =>
      obtain ⟨tok, rest⟩ := r
      obtain ⟨name, source, hname, htag, hsource⟩ := exists_tagOf hfirst
      obtain ⟨tok', hread, -⟩ := htag.token? hname
      rw [hsource, List.append_assoc, hread] at hwhole
      cases hwhole
  | some r =>
    obtain ⟨tok, rest⟩ := r
    obtain ⟨name, source, hname, htag, hsource⟩ := exists_tagOf hwhole
    obtain ⟨tok', hread, -⟩ := htag.token? hname
    obtain ⟨inner, rfl, hinner⟩ := htag.angle_notMem hname
    -- the tag ends within the first text, or the second angle bracket would be inside it
    rcases List.append_eq_append_iff.1 hsource with ⟨beyond, hbeyond, hw⟩ | ⟨left, hleft, hrest⟩
    · cases beyond with
      | nil =>
        rw [List.append_nil] at hbeyond
        rw [List.nil_append] at hw
        have hfirst := hread []
        rw [List.append_nil, hbeyond] at hfirst
        rw [hsource, hread] at hwhole
        cases hwhole
        rw [hfirst, ← hw]
        rfl
      | cons d beyond =>
        obtain ⟨rfl, -⟩ := List.cons.inj hw
        rw [List.cons_append] at hbeyond
        exact absurd ((List.cons.inj hbeyond).2 ▸ List.mem_append_right v (List.mem_cons_self ..))
          hinner
    · rw [hleft, hread]
      rw [hsource, hread] at hwhole
      cases hwhole
      rw [hrest]
      rfl

/-- A text is cut at each of its tags: what stands before the tag is read as if it stood alone. -/
theorem segments_append_tag (before : Text) {w rest : Text} {tok : Token}
    (h : token? ('<' :: w) = some (tok, rest)) :
    pieces (before ++ '<' :: w) = pieces before ++ .found tok :: pieces rest := by
  induction hn : before.length using Nat.strongRecOn generalizing before with
  | ind n ih =>
    cases before with
    | nil =>
      have hnil : pieces [] = [] := by rw [pieces, Scanner.segments]
      rw [hnil]
      exact Scanner.segments_of_test h
    | cons c before =>
      have happend := token?_append c before w
      cases hfirst : token? (c :: before) with
      | none =>
        rw [hfirst] at happend
        have hwhole : pieces (c :: (before ++ '<' :: w)) =
            Segment.consRun c (pieces (before ++ '<' :: w)) := Scanner.segments_of_none happend
        have hpart : pieces (c :: before) = Segment.consRun c (pieces before) :=
          Scanner.segments_of_none hfirst
        rw [List.cons_append, hwhole, hpart, ih before.length (by simp [← hn]) before rfl,
          Segment.consRun_append_found]
      | some r =>
        obtain ⟨tok', rest'⟩ := r
        rw [hfirst] at happend
        have hshorter : rest'.length < (c :: before).length := length_of_token? hfirst
        have hwhole : pieces (c :: (before ++ '<' :: w)) =
            .found tok' :: pieces (rest' ++ '<' :: w) := Scanner.segments_of_test happend
        have hpart : pieces (c :: before) = .found tok' :: pieces rest' :=
          Scanner.segments_of_test hfirst
        rw [List.cons_append, hwhole, hpart, ih rest'.length (by omega) rest' rfl,
          List.cons_append]

end Bibliography.Markup
