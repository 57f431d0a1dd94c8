import Bibliography.Calendar.Date
import Bibliography.Proofs.Text.Trim
import Bibliography.Proofs.Text.Words

/-! # One date in five notations

`Written` says how a day of a year can be written, and which characters may stand behind it. However
it is written, `ofText` finds the same year, month and day (`ofText_written`): no notation is taken
for one that is tried before it, and nothing behind the parts that are written is looked at.
-/

namespace Bibliography.Date
set_option autoImplicit false
open Text Unicode

/-! ## Notations -/

/-- ASCII digits, and the number they come to; zeros in front are allowed. -/
structure Numeral (n : Nat) (s : Text) : Prop where
  isDigit : ∀ c ∈ s, c.isDigit = true
  value : Nat.ofDigitChars 10 s 0 = n

/-- A year has four digits. -/
structure YearNumeral (n : Nat) (s : Text) : Prop extends Numeral n s where
  length : s.length = 4

/-- A month or a day has one digit or two. -/
structure ShortNumeral (n : Nat) (s : Text) : Prop extends Numeral n s where
  length : s.length = 1 ∨ s.length = 2

/-- A word of ASCII letters that begins, in any case, like the name of the month. -/
structure MonthWord (month : Nat) (word : Text) : Prop where
  isAlpha : ∀ c ∈ word, c.isAlpha = true
  begins : monthNames[month - 1]? = some ((word.take 3).map Char.toLower)

/-- A dashed date ends before `T` and before a blank. -/
def endsDashed (c : Char) : Bool := c == 'T' || isBlank c

/-- The other notations end where a word does. -/
def endsWord (c : Char) : Bool := !isWord c

/-- A day as it is written, and the characters that may stand right behind it. -/
inductive Written (year month day : Nat) : (Char → Bool) → Text → Prop
  | dashed {y m d : Text} (hy : YearNumeral year y) (hm : ShortNumeral month m)
      (hd : ShortNumeral day d) : Written year month day endsDashed (y ++ "-" ++ m ++ "-" ++ d)
  | slashed {y m d : Text} (hy : YearNumeral year y) (hm : ShortNumeral month m)
      (hd : ShortNumeral day d) : Written year month day endsWord (m ++ "/" ++ d ++ "/" ++ y)
  | dotted {y m d : Text} (hy : YearNumeral year y) (hm : ShortNumeral month m)
      (hd : ShortNumeral day d) : Written year month day endsWord (d ++ "." ++ m ++ "." ++ y)
  | dayFirst {y word d : Text} (hy : YearNumeral year y) (hword : MonthWord month word)
      (hd : ShortNumeral day d) : Written year month day endsWord (d ++ " " ++ word ++ " " ++ y)
  | monthFirst {y word d : Text} (hy : YearNumeral year y) (hword : MonthWord month word)
      (hd : ShortNumeral day d) : Written year month day endsWord (word ++ " " ++ d ++ ", " ++ y)

/-! ## Numerals -/

theorem Numeral.value?_eq {n : Nat} {s : Text} (h : Numeral n s) (hne : s ≠ []) :
    value? s = some n := by
  rw [value?_of_isDigit hne h.isDigit, h.value]

theorem Numeral.isAlphanum {n : Nat} {s : Text} (h : Numeral n s) :
    ∀ c ∈ s, c.isAlphanum = true :=
  fun c hc => isAlphanum_iff.2 (.inr (h.isDigit c hc))

theorem Numeral.isWord {n : Nat} {s : Text} (h : Numeral n s) : ∀ c ∈ s, isWord c = true :=
  fun c hc => isWord_of_isAlphanum (h.isAlphanum c hc)

/-- A numeral is read up to a character that is no digit. -/
theorem Numeral.digitRun_cons {n : Nat} {s rest : Text} {c : Char} (h : Numeral n s)
    (hc : Unicode.isDigit c = false) : digitRun (s ++ c :: rest) = (s, c :: rest) :=
  digitRun_append h.isDigit fun _ hd => Option.some.inj hd ▸ hc

/-- A numeral that ends a word is read to its end. -/
theorem Numeral.digitRun_boundary {n : Nat} {s tail : Text} (h : Numeral n s)
    (htail : atBoundary tail = true) : digitRun (s ++ tail) = (s, tail) :=
  digitRun_append h.isDigit (isDigit_head_of_atBoundary htail)

namespace YearNumeral
variable {n : Nat} {s : Text}

theorem ne_nil (h : YearNumeral n s) : s ≠ [] :=
  List.ne_nil_of_length_pos (by rw [h.length]; decide)

theorem value?_eq (h : YearNumeral n s) : value? s = some n := h.toNumeral.value?_eq h.ne_nil

end YearNumeral

namespace ShortNumeral
variable {n : Nat} {s : Text}

theorem isShort_eq (h : ShortNumeral n s) : isShort s = true := by
  rw [isShort, Bool.or_eq_true, beq_iff_eq, beq_iff_eq]
  exact h.length

theorem ne_nil (h : ShortNumeral n s) : s ≠ [] := by
  rintro rfl
  rcases h.length with hlength | hlength
  · cases hlength
  · cases hlength

theorem length_ne (h : ShortNumeral n s) : s.length ≠ 4 := by
  have hlength := h.length
  omega

theorem monthIndex?_eq (h : ShortNumeral n s) (hn : 1 ≤ n ∧ n ≤ 12) :
    monthIndex? s = some (n - 1) := by
  simp [monthIndex?, h.toNumeral.value?_eq h.ne_nil, hn]

theorem dayNumber?_eq (h : ShortNumeral n s) (hn : 1 ≤ n ∧ n ≤ 31) :
    dayNumber? s = some n := by
  simp [dayNumber?, h.toNumeral.value?_eq h.ne_nil, hn]

end ShortNumeral

/-! ## Names of months -/

namespace MonthWord
variable {month : Nat} {word : Text}

theorem name_mem (h : MonthWord month word) : (word.take 3).map Char.toLower ∈ monthNames :=
  List.mem_of_getElem? h.begins

theorem length_take (h : MonthWord month word) : (word.take 3).length = 3 := by
  have hnames : ∀ name ∈ monthNames, name.length = 3 := by decide
  have hlength := hnames _ h.name_mem
  rw [List.length_map] at hlength
  exact hlength

theorem ne_nil (h : MonthWord month word) : word ≠ [] := by
  rintro rfl
  exact absurd h.length_take (by decide)

theorem isWord (h : MonthWord month word) : ∀ c ∈ word, isWord c = true := fun c hc =>
  isWord_of_isAlpha (h.isAlpha c hc)

theorem exists_cons (h : MonthWord month word) :
    ∃ c letters, word = c :: letters ∧ c.isAlpha = true := by
  obtain ⟨c, letters, rfl⟩ := List.exists_cons_of_ne_nil h.ne_nil
  exact ⟨c, letters, rfl, h.isAlpha c List.mem_cons_self⟩

theorem isDigit_head (h : MonthWord month word) (rest : Text) :
    ∀ c ∈ (word ++ rest).head?, isDigit c = false := by
  obtain ⟨c, letters, rfl, hc⟩ := h.exists_cons
  rintro c ⟨⟩
  exact isDigit_of_isAlpha hc

theorem isAlpha_take (h : MonthWord month word) : ∀ c ∈ word.take 3, c.isAlpha = true :=
  fun c hc => h.isAlpha c (List.mem_of_mem_take hc)

/-- The word is found by its three letters, whatever follows. -/
theorem monthWord?_eq (h : MonthWord month word) (rest : Text) :
    monthWord? (word ++ rest) = some (word.take 3) := by
  have hfolded : (word.take 3).map foldLetter = (word.take 3).map Char.toLower :=
    List.map_congr_left fun c hc => foldLetter_of_isAlpha (h.isAlpha_take c hc)
  have hform : word ++ rest = word.take 3 ++ (word.drop 3 ++ rest) := by
    rw [← List.append_assoc, List.take_append_drop]
  have hafter : afterLetters? ((word.take 3).map Char.toLower) (word ++ rest) =
      some (word.drop 3 ++ rest) :=
    afterLetters?_eq_some_iff.2 ⟨word.take 3, hform, hfolded⟩
  have hknown : (monthNames.any fun name => (afterLetters? name (word ++ rest)).isSome) = true :=
    List.any_eq_true.2 ⟨_, h.name_mem, by rw [hafter]; rfl⟩
  have hletters : (word ++ rest).take 3 = word.take 3 := by
    rw [hform, List.take_left' h.length_take]
  rw [monthWord?, if_pos hknown, hletters]

theorem namedMonth?_eq (h : MonthWord month word) :
    namedMonth? (word.take 3) = some (month - 1) := by
  have hrows : ∀ i < monthNames.length, monthNames.findIdx? (· == (monthNames[i]?).getD []) =
      some i := by decide
  have hlower : lower (word.take 3) = (word.take 3).map Char.toLower :=
    lowerAfter_of_isAlpha h.isAlpha_take []
  obtain ⟨hlt, -⟩ := List.getElem?_eq_some_iff.1 h.begins
  have hrow := hrows (month - 1) hlt
  rw [h.begins] at hrow
  rw [namedMonth?, hlower]
  exact hrow

end MonthWord

/-! ## Notations that begin the text -/

theorem stopsDashed_iff {s : Text} : stopsDashed s = true ↔ ∀ c ∈ s.head?, endsDashed c = true := by
  cases s with
  | nil => simp [stopsDashed]
  | cons c s => simp [stopsDashed, endsDashed]

theorem atBoundary_iff_endsWord {s : Text} :
    atBoundary s = true ↔ ∀ c ∈ s.head?, endsWord c = true := by
  rw [atBoundary_iff]
  exact forall₂_congr fun c _ => (Bool.not_eq_true' (isWord c) ▸ Iff.rfl)

/-- What ends a dashed date is no digit. -/
theorem isDigit_of_endsDashed {c : Char} (h : endsDashed c = true) : isDigit c = false := by
  rcases Bool.or_eq_true_iff.1 h with hmark | hblank
  · rw [beq_iff_eq.1 hmark]
    decide
  · have hapart : ∀ r ∈ blanks.ranges, ∀ d ∈ decimalDigits.ranges, r.2 < d.1 ∨ d.2 < r.1 := by
      decide
    obtain ⟨r, hr, hlow, hhigh⟩ := CharSet.contains_iff.1 hblank
    rw [← Bool.not_eq_true]
    intro hdigit
    obtain ⟨d, hd, hfrom, hto⟩ := CharSet.contains_iff.1 hdigit
    have hrow := hapart r hr d hd
    omega

section
variable {year month day : Nat} {y m d tail : Text}

/-- The parts a day is read from are those it is written with. -/
theorem parts_eq (hmonth : 1 ≤ month ∧ month ≤ 12) (hday : 1 ≤ day ∧ day ≤ 31)
    (hy : YearNumeral year y) (hm : ShortNumeral month m) (hd : ShortNumeral day d) :
    (⟨value? y, monthIndex? m, dayNumber? d⟩ : Date) =
      ⟨some year, some (month - 1), some day⟩ := by
  rw [hy.value?_eq, hm.monthIndex?_eq hmonth, hd.dayNumber?_eq hday]

theorem dashed?_eq (hy : YearNumeral year y) (hm : ShortNumeral month m) (hd : ShortNumeral day d)
    (htail : stopsDashed tail = true) :
    dashed? (y ++ '-' :: (m ++ '-' :: (d ++ tail))) =
      some ⟨value? y, monthIndex? m, dayNumber? d⟩ := by
  have hend : digitRun (d ++ tail) = (d, tail) := digitRun_append hd.isDigit fun c hc =>
    isDigit_of_endsDashed (stopsDashed_iff.1 htail c hc)
  have hdash : ∀ s : Text, stopsDashed ('-' :: s) = false := fun s => by
    show endsDashed '-' = false
    decide
  have hday : dashedDay? y m (d ++ tail) = some ⟨value? y, monthIndex? m, dayNumber? d⟩ := by
    simp [dashedDay?, hend, hd.isShort_eq, htail]
  have hmonth : dashedMonth? y (m ++ '-' :: (d ++ tail)) =
      some ⟨value? y, monthIndex? m, dayNumber? d⟩ := by
    simp [dashedMonth?, hm.toNumeral.digitRun_cons, isDigit_of_ascii, hm.isShort_eq, hdash, hday]
  simp [dashed?, hy.toNumeral.digitRun_cons, isDigit_of_ascii, hy.length, hdash, hmonth]

/-- A dashed date begins with four digits. -/
theorem dashed?_of_length {s : Text} (h : (digitRun s).1.length ≠ 4) : dashed? s = none := by
  rw [dashed?]
  exact if_pos h

theorem dashed?_of_short (hd : ShortNumeral day d) {c : Char} (hc : isDigit c = false)
    (rest : Text) : dashed? (d ++ c :: rest) = none := by
  refine dashed?_of_length ?_
  rw [hd.toNumeral.digitRun_cons hc]
  exact hd.length_ne

theorem triple?_eq {sep : Char} (hsep : isDigit sep = false) (hm : ShortNumeral month m)
    (hd : ShortNumeral day d) (hy : YearNumeral year y) (htail : atBoundary tail = true) :
    triple? sep (m ++ sep :: (d ++ sep :: (y ++ tail))) = some (m, d, y) := by
  simp [triple?, hm.toNumeral.digitRun_cons hsep, hd.toNumeral.digitRun_cons hsep,
    hy.toNumeral.digitRun_boundary htail, hm.isShort_eq, hd.isShort_eq, hy.length, htail]

theorem slashed?_eq (hy : YearNumeral year y) (hm : ShortNumeral month m) (hd : ShortNumeral day d)
    (htail : atBoundary tail = true) :
    slashed? (m ++ '/' :: (d ++ '/' :: (y ++ tail))) =
      some ⟨value? y, monthIndex? m, dayNumber? d⟩ := by
  rw [slashed?, triple?_eq (by decide) hm hd hy htail]
  rfl

theorem dotted?_eq (hy : YearNumeral year y) (hm : ShortNumeral month m) (hd : ShortNumeral day d)
    (htail : atBoundary tail = true) :
    dotted? (d ++ '.' :: (m ++ '.' :: (y ++ tail))) =
      some ⟨value? y, monthIndex? m, dayNumber? d⟩ := by
  rw [dotted?, triple?_eq (by decide) hd hm hy htail]
  rfl

/-- Behind its first numeral a date has the separator. -/
theorem triple?_of_ne {sep c : Char} {s rest : Text} (hs : ∀ c ∈ s, c.isDigit = true)
    (hc : isDigit c = false) (hne : c ≠ sep) : triple? sep (s ++ c :: rest) = none := by
  have hrun : digitRun (s ++ c :: rest) = (s, c :: rest) :=
    digitRun_append hs fun _ hd => Option.some.inj hd ▸ hc
  simp [triple?, hrun, hne]

theorem slashed?_of_triple {s : Text} (h : triple? '/' s = none) : slashed? s = none := by
  rw [slashed?, h, Option.map_none]

theorem dotted?_of_triple {s : Text} (h : triple? '.' s = none) : dotted? s = none := by
  rw [dotted?, h, Option.map_none]

end

/-! ## Notations with the name of the month -/

section
variable {year month day : Nat} {y word d tail : Text}

theorem yearWord?_eq (hy : YearNumeral year y) (htail : atBoundary tail = true) :
    yearWord? (y ++ tail) = some y := by
  simp [yearWord?, hy.toNumeral.digitRun_boundary htail, hy.length, htail]

/-- A text without digits in front has neither a year nor a day there. -/
theorem digitRun_of_head {s : Text} (h : ∀ c ∈ s.head?, isDigit c = false) :
    digitRun s = ([], s) :=
  digitRun_append (s := []) (fun c hc => by cases hc) h

theorem yearWord?_of_head {s : Text} (h : ∀ c ∈ s.head?, isDigit c = false) :
    yearWord? s = none := by
  simp [yearWord?, digitRun_of_head h]

theorem dayWord?_of_head {s : Text} (h : ∀ c ∈ s.head?, isDigit c = false) :
    dayWord? s = none := by
  simp [dayWord?, digitRun_of_head h, isShort]

/-- A day is too short for a year. -/
theorem yearWord?_of_short (hd : ShortNumeral day d) {c : Char} (hc : isDigit c = false)
    (rest : Text) : yearWord? (d ++ c :: rest) = none := by
  simp [yearWord?, hd.toNumeral.digitRun_cons hc, hd.length_ne]

theorem dayWord?_eq (hd : ShortNumeral day d) (hday : 1 ≤ day ∧ day ≤ 31) {c : Char}
    (hc : isWord c = false) (rest : Text) : dayWord? (d ++ c :: rest) = some day := by
  have hend : atBoundary (c :: rest) = true := by simp [atBoundary, hc]
  simp [dayWord?, hd.toNumeral.digitRun_boundary hend, hd.isShort_eq, endsNumber, hend,
    hd.dayNumber?_eq hday]

/-- A day is no month: the names begin with letters. -/
theorem monthWord?_of_numeral (hd : ShortNumeral day d) : monthWord? (d ++ tail) = none := by
  have hnames : ∀ name ∈ monthNames, name ≠ [] ∧ name.all Char.isLower = true := by decide
  have hnone : ∀ name ∈ monthNames, afterLetters? name (d ++ tail) = none := by
    intro name hname
    obtain ⟨hne, hlower⟩ := hnames name hname
    obtain ⟨c, digits, rfl⟩ := List.exists_cons_of_ne_nil hd.ne_nil
    exact afterLetters?_of_isDigit hne (List.all_eq_true.1 hlower)
      (isDigit_of_isDigit (hd.isDigit c List.mem_cons_self))
  have hany : ¬(monthNames.any fun name => (afterLetters? name (d ++ tail)).isSome) = true := by
    rw [List.any_eq_true]
    rintro ⟨name, hname, hsome⟩
    rw [hnone name hname] at hsome
    cases hsome
  rw [monthWord?, if_neg hany]

theorem scattered_eq {s : Text} (hy : YearNumeral year y) (hword : MonthWord month word)
    (hyear : atWordStarts yearWord? false s = some y)
    (hmonth : atWordStarts monthWord? false s = some (word.take 3))
    (hday : atWordStarts dayWord? false s = some day) :
    scattered s = ⟨some year, some (month - 1), some day⟩ := by
  rw [scattered, hyear, hmonth, Option.bind_some, Option.bind_some, hy.value?_eq,
    hword.namedMonth?_eq, hday]
  rfl

theorem isWord_blank : isWord ' ' = false := by decide

theorem scattered_dayFirst (hy : YearNumeral year y) (hword : MonthWord month word)
    (hd : ShortNumeral day d) (hday : 1 ≤ day ∧ day ≤ 31) (htail : atBoundary tail = true) :
    scattered (d ++ ' ' :: (word ++ ' ' :: (y ++ tail))) =
      ⟨some year, some (month - 1), some day⟩ := by
  refine scattered_eq hy hword ?year ?month ?day
  case year =>
    rw [atWordStarts_word hd.ne_nil hd.isWord isWord_blank (yearWord?_of_short hd (by decide) _),
      atWordStarts_word hword.ne_nil hword.isWord isWord_blank
        (yearWord?_of_head (hword.isDigit_head _))]
    exact atWordStarts_of_test (List.append_ne_nil_of_left_ne_nil hy.ne_nil _)
      (yearWord?_eq hy htail)
  case month =>
    rw [atWordStarts_word hd.ne_nil hd.isWord isWord_blank (monthWord?_of_numeral hd)]
    exact atWordStarts_of_test (List.append_ne_nil_of_left_ne_nil hword.ne_nil _)
      (hword.monthWord?_eq _)
  case day =>
    exact atWordStarts_of_test (List.append_ne_nil_of_left_ne_nil hd.ne_nil _)
      (dayWord?_eq hd hday isWord_blank _)

theorem scattered_monthFirst (hy : YearNumeral year y) (hword : MonthWord month word)
    (hd : ShortNumeral day d) (hday : 1 ≤ day ∧ day ≤ 31) (htail : atBoundary tail = true) :
    scattered (word ++ ' ' :: (d ++ ',' :: ' ' :: (y ++ tail))) =
      ⟨some year, some (month - 1), some day⟩ := by
  have hcomma : isWord ',' = false := by decide
  -- the blank behind the comma is tried too, since it follows no word
  have hgap : ∀ c ∈ (' ' :: (y ++ tail)).head?, isDigit c = false := by
    rintro c ⟨⟩
    decide
  refine scattered_eq hy hword ?year ?month ?day
  case year =>
    rw [atWordStarts_word hword.ne_nil hword.isWord isWord_blank
        (yearWord?_of_head (hword.isDigit_head _)),
      atWordStarts_word hd.ne_nil hd.isWord hcomma (yearWord?_of_short hd (by decide) _),
      atWordStarts_cons fun _ => yearWord?_of_head hgap, isWord_blank]
    exact atWordStarts_of_test (List.append_ne_nil_of_left_ne_nil hy.ne_nil _)
      (yearWord?_eq hy htail)
  case month =>
    exact atWordStarts_of_test (List.append_ne_nil_of_left_ne_nil hword.ne_nil _)
      (hword.monthWord?_eq _)
  case day =>
    rw [atWordStarts_word hword.ne_nil hword.isWord isWord_blank
      (dayWord?_of_head (hword.isDigit_head _))]
    exact atWordStarts_of_test (List.append_ne_nil_of_left_ne_nil hd.ne_nil _)
      (dayWord?_eq hd hday hcomma _)

end

/-! ## Reading -/

namespace Written
variable {year month day : Nat} {stops : Char → Bool} {s tail : Text}

/-- What is written begins and ends with letters or digits. -/
theorem exists_ends (h : Written year month day stops s) :
    ∃ first middle last, s = first ++ middle ++ last ∧ first ≠ [] ∧ last ≠ [] ∧
      (∀ c ∈ first, c.isAlphanum = true) ∧ ∀ c ∈ last, c.isAlphanum = true := by
  cases h with
  | @dashed y m d hy hm hd =>
    exact ⟨y, "-" ++ m ++ "-", d, by simp, hy.ne_nil, hd.ne_nil, hy.isAlphanum,
      hd.isAlphanum⟩
  | @slashed y m d hy hm hd =>
    exact ⟨m, "/" ++ d ++ "/", y, by simp, hm.ne_nil, hy.ne_nil, hm.isAlphanum,
      hy.isAlphanum⟩
  | @dotted y m d hy hm hd =>
    exact ⟨d, "." ++ m ++ ".", y, by simp, hd.ne_nil, hy.ne_nil, hd.isAlphanum,
      hy.isAlphanum⟩
  | @dayFirst y word d hy hword hd =>
    exact ⟨d, " " ++ word ++ " ", y, by simp, hd.ne_nil, hy.ne_nil, hd.isAlphanum,
      hy.isAlphanum⟩
  | @monthFirst y word d hy hword hd =>
    exact ⟨word, " " ++ d ++ ", ", y, by simp, hword.ne_nil, hy.ne_nil,
      fun c hc => isAlphanum_iff.2 (.inl (hword.isAlpha c hc)), hy.isAlphanum⟩

theorem trim_around (h : Written year month day stops s) {before after : Text}
    (hbefore : ∀ c ∈ before, isBlank c = true) (hafter : ∀ c ∈ after, isBlank c = true) :
    trim (before ++ (s ++ tail) ++ after) = s ++ trimEnd tail := by
  obtain ⟨first, middle, last, rfl, hfirst, hlast, hfirstBare, hlastBare⟩ := h.exists_ends
  refine Text.trim_around ?ne ?head ?last hbefore hafter
  case ne => exact List.append_ne_nil_of_right_ne_nil _ hlast
  case head =>
    cases first with
    | nil => exact absurd rfl hfirst
    | cons c first =>
      rintro c ⟨⟩
      exact isBlank_of_isAlphanum (hfirstBare c List.mem_cons_self)
  case last =>
    intro c hc
    rw [List.getLast?_append_of_ne_nil _ hlast] at hc
    exact isBlank_of_isAlphanum (hlastBare c (List.mem_of_getLast? hc))

/-- The notation a day is written in is the first one that reads it. -/
theorem found (hmonth : 1 ≤ month ∧ month ≤ 12) (hday : 1 ≤ day ∧ day ≤ 31)
    (h : Written year month day stops s) (htail : ∀ c ∈ tail.head?, stops c = true) :
    ((dashed? (s ++ tail)).orElse fun _ => (slashed? (s ++ tail)).orElse fun _ =>
      dotted? (s ++ tail)).getD (scattered (s ++ tail)) =
        ⟨some year, some (month - 1), some day⟩ := by
  have hblank : isDigit ' ' = false := by decide
  cases h with
  | @dashed y m d hy hm hd =>
    have hform : y ++ "-" ++ m ++ "-" ++ d ++ tail = y ++ '-' :: (m ++ '-' :: (d ++ tail)) := by
      simp
    rw [hform, dashed?_eq hy hm hd (stopsDashed_iff.2 htail), parts_eq hmonth hday hy hm hd]
    rfl
  | @slashed y m d hy hm hd =>
    have hform : m ++ "/" ++ d ++ "/" ++ y ++ tail = m ++ '/' :: (d ++ '/' :: (y ++ tail)) := by
      simp
    rw [hform, dashed?_of_short hm (by decide),
      slashed?_eq hy hm hd (atBoundary_iff_endsWord.2 htail), parts_eq hmonth hday hy hm hd]
    rfl
  | @dotted y m d hy hm hd =>
    have hform : d ++ "." ++ m ++ "." ++ y ++ tail = d ++ '.' :: (m ++ '.' :: (y ++ tail)) := by
      simp
    have hdot : isDigit '.' = false := by decide
    rw [hform, dashed?_of_short hd hdot,
      slashed?_of_triple (triple?_of_ne hd.isDigit hdot (by decide)),
      dotted?_eq hy hm hd (atBoundary_iff_endsWord.2 htail), parts_eq hmonth hday hy hm hd]
    rfl
  | @dayFirst y word d hy hword hd =>
    have hform : d ++ " " ++ word ++ " " ++ y ++ tail =
        d ++ ' ' :: (word ++ ' ' :: (y ++ tail)) := by simp
    rw [hform, dashed?_of_short hd hblank,
      slashed?_of_triple (triple?_of_ne hd.isDigit hblank (by decide)),
      dotted?_of_triple (triple?_of_ne hd.isDigit hblank (by decide)),
      scattered_dayFirst hy hword hd hday (atBoundary_iff_endsWord.2 htail)]
    rfl
  | @monthFirst y word d hy hword hd =>
    have hform : word ++ " " ++ d ++ ", " ++ y ++ tail =
        word ++ ' ' :: (d ++ ',' :: ' ' :: (y ++ tail)) := by simp
    have hnone : ∀ sep : Char, sep.isAlpha = false →
        triple? sep (word ++ ' ' :: (d ++ ',' :: ' ' :: (y ++ tail))) = none := by
      intro sep hsep
      obtain ⟨c, letters, rfl, hc⟩ := hword.exists_cons
      refine triple?_of_ne (s := []) (fun c hc => by cases hc) (isDigit_of_isAlpha hc) ?_
      rintro rfl
      rw [hsep] at hc
      cases hc
    have hshort : dashed? (word ++ ' ' :: (d ++ ',' :: ' ' :: (y ++ tail))) = none := by
      refine dashed?_of_length ?_
      rw [digitRun_of_head (hword.isDigit_head _)]
      exact Nat.zero_ne_add_one 3
    rw [hform, hshort, slashed?_of_triple (hnone '/' rfl), dotted?_of_triple (hnone '.' rfl),
      scattered_monthFirst hy hword hd hday (atBoundary_iff_endsWord.2 htail)]
    rfl

end Written

/-- However a day is written, its year, its month and its day are found, whatever stands behind
them and whatever blanks stand around. -/
theorem ofText_written {year month day : Nat} (hmonth : 1 ≤ month ∧ month ≤ 12)
    (hday : 1 ≤ day ∧ day ≤ 31) {stops : Char → Bool} {s : Text}
    (h : Written year month day stops s) {tail : Text} (htail : ∀ c ∈ tail.head?, stops c = true)
    {before after : Text} (hbefore : ∀ c ∈ before, isBlank c = true)
    (hafter : ∀ c ∈ after, isBlank c = true) :
    ofText (before ++ (s ++ tail) ++ after) = ⟨some year, some (month - 1), some day⟩ := by
  rw [ofText, h.trim_around hbefore hafter]
  exact h.found hmonth hday fun c hc => htail c (mem_head?_of_trimEnd hc)

/-- Neither the letter case nor the numbers and names behind the year matter. -/
theorem ofText_september :
    (1 ≤ 9 ∧ 9 ≤ 12) ∧ (1 ≤ 9 ∧ 9 ≤ 31) ∧ Written 1999 9 9 endsWord "sEPTEMBer 09, 1999" ∧
      endsWord '/' = true ∧ isBlank '\u00a0' = true ∧ isBlank '\n' = true ∧
        ofText ("\u00a0" ++ ("sEPTEMBer 09, 1999" ++ "/2000-01-02 3 May") ++ "\n") =
          ⟨some 1999, some 8, some 9⟩ := by
  have hy : YearNumeral 1999 "1999" := ⟨⟨List.all_eq_true.1 (by decide), by decide⟩, by decide⟩
  have hd : ShortNumeral 9 "09" := ⟨⟨List.all_eq_true.1 (by decide), by decide⟩, by decide⟩
  have hword : MonthWord 9 "sEPTEMBer" := ⟨List.all_eq_true.1 (by decide), by decide⟩
  have hform : "sEPTEMBer" ++ " " ++ "09" ++ ", " ++ "1999" = "sEPTEMBer 09, 1999".toList := by
    decide
  have h : Written 1999 9 9 endsWord "sEPTEMBer 09, 1999" := hform ▸ .monthFirst hy hword hd
  have hslash : endsWord '/' = true := by decide
  have hspace : isBlank '\u00a0' = true := by decide
  have hline : isBlank '\n' = true := by decide
  exact ⟨by decide, by decide, h, hslash, hspace, hline,
    ofText_written (by decide) (by decide) h (by rintro c ⟨⟩; exact hslash)
      (List.forall_mem_singleton.2 hspace) (List.forall_mem_singleton.2 hline)⟩

end Bibliography.Date
