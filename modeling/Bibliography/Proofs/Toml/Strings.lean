import Bibliography.Toml.Chars

/-! # Strings in TOML read back

Whichever form `writtenString` chooses, the string is read back as it was. Between single quotes
every character stands for itself. Between double quotes one stands for itself or is an escape
(`writtenChar_cases`). On several lines, the end is found by counting quotes: as long as no three in
a row are written, the three closing ones are the first place that closes, and up to two quotes
before them still belong to the string.
-/

namespace Bibliography.Toml
set_option autoImplicit false
open Text

/-! ## Escapes -/

/-- Behind a backslash, the text stands for the character, and for no end of line. -/
def Escapes (e : Text) (c : Char) : Prop :=
  ∀ s, escape? (e ++ s) = some (c, e.length) ∧ escapedNewline? (e ++ s) = none

theorem escapedNewline?_cons {c : Char} (h : isSpace c = false ∧ c ≠ '\n' ∧ c ≠ '\r') (s : Text) :
    escapedNewline? (c :: s) = none := by
  obtain ⟨hspace, hnewline, hreturn⟩ := h
  have hdrop : (c :: s).dropWhile isSpace = c :: s := List.dropWhile_cons_of_neg (by simp [hspace])
  rw [escapedNewline?, hdrop]
  simp [afterNewline?, hnewline, hreturn]

theorem escapes_letter {d c : Char} (h : ∀ s, escape? (d :: s) = some (c, 1))
    (hd : isSpace d = false ∧ d ≠ '\n' ∧ d ≠ '\r') : Escapes [d] c := by
  intro s
  exact ⟨h s, escapedNewline?_cons hd s⟩

/-- The value of a numeral of four digits, for the numbers of the control characters. -/
theorem capitalHex_control : ∀ n < 0x80, (capitalHex 4 n).length = 4 ∧
    ((capitalHex 4 n).mapM hexDigitValue?).map (fun ds => ds.foldl (fun n d => 16 * n + d) 0) =
      some n := by
  decide

theorem scalar?_capitalHex {c : Char} (hc : c.toNat < 0x80) (s : Text) :
    scalar? 4 (capitalHex 4 c.toNat ++ s) = some c := by
  obtain ⟨hlen, hvalue⟩ := capitalHex_control _ hc
  obtain ⟨ds, hds, hfold⟩ := Option.map_eq_some_iff.1 hvalue
  have htake : (capitalHex 4 c.toNat ++ s).take 4 = capitalHex 4 c.toNat := List.take_left' hlen
  have hvalid : c.toNat.isValidChar := c.valid
  rw [scalar?, htake, if_pos hlen, hds]
  simp only [Option.bind_some, hfold, if_pos hvalid, Char.ofNat_toNat]

theorem escapes_number {c : Char} (hc : c.toNat < 0x80) :
    Escapes ('u' :: capitalHex 4 c.toNat) c := by
  intro s
  have hlen := (capitalHex_control _ hc).1
  refine ⟨?_, escapedNewline?_cons (by decide) _⟩
  rw [List.cons_append, escape?, scalar?_capitalHex hc, List.length_cons, hlen]
  rfl

theorem toNat_lt_of_isControl {c : Char} (h : isControl c = true) : c.toNat < 0x80 := by
  rcases Bool.or_eq_true_iff.1 h with h | h
  · have hlow := of_decide_eq_true (Bool.and_eq_true_iff.1 h).1
    omega
  · have hdelete : c.toNat = 0x7F := eq_of_beq h
    omega

/-- Between double quotes a character is an escape, or it stands for itself. -/
theorem writtenChar_cases (c : Char) :
    (∃ e, writtenChar c = '\\' :: e ∧ Escapes e c) ∨
      (c ≠ '"' ∧ c ≠ '\\' ∧ isControl c = false ∧ writtenChar c = [c]) := by
  unfold writtenChar
  split
  · exact .inl ⟨['b'], rfl, escapes_letter (fun _ => rfl) (by decide)⟩
  · exact .inl ⟨['t'], rfl, escapes_letter (fun _ => rfl) (by decide)⟩
  · exact .inl ⟨['n'], rfl, escapes_letter (fun _ => rfl) (by decide)⟩
  · exact .inl ⟨['f'], rfl, escapes_letter (fun _ => rfl) (by decide)⟩
  · exact .inl ⟨['r'], rfl, escapes_letter (fun _ => rfl) (by decide)⟩
  · exact .inl ⟨['"'], rfl, escapes_letter (fun _ => rfl) (by decide)⟩
  · exact .inl ⟨['\\'], rfl, escapes_letter (fun _ => rfl) (by decide)⟩
  · rename_i hquote hslash
    by_cases hc : isControl c = true
    · exact .inl ⟨_, if_pos hc, escapes_number (toNat_lt_of_isControl hc)⟩
    · exact .inr ⟨hquote, hslash, by simpa using hc, if_neg hc⟩

/-! ## Strings on one line -/

theorem basicChars_escape {e : Text} {c : Char} (h : Escapes e c) (s : Text) :
    basicChars ('\\' :: (e ++ s)) = (basicChars s).map fun r => (c :: r.1, r.2) := by
  rw [basicChars, if_neg (by decide), if_pos rfl, (h s).1]
  simp only [Option.bind_some, List.drop_left]

theorem basicChars_written (s rest : Text) :
    basicChars (s.flatMap writtenChar ++ '"' :: rest) = some (s, rest) := by
  induction s with
  | nil => rw [List.flatMap_nil, List.nil_append, basicChars, if_pos rfl]
  | cons c s ih =>
    rw [List.flatMap_cons, List.append_assoc]
    rcases writtenChar_cases c with ⟨e, hw, he⟩ | ⟨hquote, hslash, hc, hw⟩
    · rw [hw, List.cons_append, basicChars_escape he, ih]
      rfl
    · rw [hw, List.singleton_append, basicChars, if_neg hquote, if_neg hslash, hc, ih]
      rfl

theorem literalChars_written {s : Text} (h : ∀ c ∈ s, c ≠ '\'' ∧ isControl c = false)
    (rest : Text) : literalChars (s ++ '\'' :: rest) = some (s, rest) := by
  induction s with
  | nil => rw [List.nil_append, literalChars, if_pos rfl]
  | cons c s ih =>
    obtain ⟨⟨hquote, hc⟩, hs⟩ := List.forall_mem_cons.1 h
    rw [List.cons_append, literalChars, if_neg hquote, hc, ih hs]
    rfl

/-! ## Closing quotes -/

/-- How many quotes the text begins with. -/
def quotesAhead (quote : Char) (s : Text) : Nat := (s.takeWhile (· == quote)).length

theorem quotesAhead_cons_of_ne {quote c : Char} (h : c ≠ quote) (s : Text) :
    quotesAhead quote (c :: s) = 0 := by
  rw [quotesAhead, List.takeWhile_cons_of_neg (by simpa using h), List.length_nil]

theorem quotesAhead_cons_self (quote : Char) (s : Text) :
    quotesAhead quote (quote :: s) = quotesAhead quote s + 1 := by
  rw [quotesAhead, List.takeWhile_cons, if_pos (beq_self_eq_true quote), List.length_cons,
    quotesAhead]

theorem closingQuotes?_of_lt {quote : Char} {s : Text} (h : quotesAhead quote s < 3) :
    closingQuotes? quote s = none := if_pos h

/-- What stands behind a string does not add to its quotes. -/
def Unquoted (quote : Char) (s : Text) : Prop := ∀ c ∈ s.head?, c ≠ quote

theorem quotesAhead_of_unquoted {quote : Char} {s : Text} (h : Unquoted quote s) :
    quotesAhead quote s = 0 := by
  cases s with
  | nil => rfl
  | cons c s => exact quotesAhead_cons_of_ne (h c rfl) s

theorem after?_replicate_of_lt {quote : Char} {n : Nat} {s : Text} (h : quotesAhead quote s < n) :
    after? (List.replicate n quote) s = none := by
  refine after?_eq_none_iff.2 ?_
  rintro ⟨t, rfl⟩
  have hahead : n ≤ quotesAhead quote (List.replicate n quote ++ t) := by
    rw [quotesAhead, List.takeWhile_append_of_pos (by simp), List.length_append,
      List.length_replicate]
    exact Nat.le_add_right ..
  omega

/-- Up to two quotes before the closing ones belong to the string. -/
theorem closingQuotes?_replicate (quote : Char) {n : Nat} (hn : n ≤ 2) {rest : Text}
    (hrest : Unquoted quote rest) :
    closingQuotes? quote (List.replicate n quote ++ (List.replicate 3 quote ++ rest)) =
      some (List.replicate n quote, rest) := by
  have hrun : List.replicate n quote ++ (List.replicate 3 quote ++ rest) =
      List.replicate (n + 3) quote ++ rest := by
    rw [← List.append_assoc, List.replicate_append_replicate]
  have htake : (List.replicate (n + 3) quote ++ rest).takeWhile (· == quote) =
      List.replicate (n + 3) quote := by
    refine takeWhile_of_stop (fun c hc => ?_) (fun c hc => beq_eq_false_iff_ne.2 (hrest c hc))
    rw [(List.mem_replicate.1 hc).2, beq_self_eq_true]
  have hmin : min (n + 3) 5 = n + 3 := by omega
  rw [hrun, closingQuotes?, htake, List.length_replicate, hmin]
  simp

theorem closingQuotes?_of_forall {quote : Char} {s : Text} (hrun : quotesAhead quote s ≤ 2)
    (hs : ∀ c ∈ s, c = quote) {rest : Text} (hrest : Unquoted quote rest) :
    closingQuotes? quote (s ++ (List.replicate 3 quote ++ rest)) = some (s, rest) := by
  obtain ⟨n, rfl⟩ : ∃ n, s = List.replicate n quote := ⟨_, List.eq_replicate_of_mem hs⟩
  have hn : quotesAhead quote (List.replicate n quote) = n := by simp [quotesAhead]
  exact closingQuotes?_replicate quote (hn ▸ hrun) hrest

/-- A string whose quotes are not the last thing in it does not close with them. -/
theorem closingQuotes?_of_exists {quote : Char} {s : Text} (hrun : quotesAhead quote s ≤ 2)
    (hs : ¬∀ c ∈ s, c = quote) (t : Text) : closingQuotes? quote (s ++ t) = none := by
  have hlength : (s.takeWhile (· == quote)).length ≠ s.length := by
    intro hlength
    have hall := List.all_takeWhile (p := (· == quote)) (l := s)
    rw [(List.takeWhile_sublist _).eq_of_length hlength, List.all_eq_true] at hall
    exact hs fun c hc => eq_of_beq (hall c hc)
  refine closingQuotes?_of_lt ?_
  rw [quotesAhead, List.takeWhile_append, if_neg hlength]
  exact Nat.lt_succ_of_le hrun

/-! ## Strings on several lines -/

theorem basicLines_closing {s : Text} {r : Text × Text} (h : closingQuotes? '"' s = some r) :
    basicLines s = some r := by
  cases s with
  | nil => cases h
  | cons c s => rw [basicLines, h]

theorem basicLines_escape {e : Text} {c : Char} (h : Escapes e c) (s : Text) :
    basicLines ('\\' :: (e ++ s)) = (basicLines s).map fun r => (c :: r.1, r.2) := by
  have hopen : closingQuotes? '"' ('\\' :: (e ++ s)) = none :=
    closingQuotes?_of_lt (by rw [quotesAhead_cons_of_ne (by decide)]; decide)
  rw [basicLines, hopen]
  simp only [if_true, (h s).1, (h s).2, Option.bind_some, List.drop_left]

/-- A character that a string on several lines may hold as it is. -/
def IsLiteral (c : Char) : Prop := c = '\n' ∨ isControl c = false

theorem IsLiteral.ne_return {c : Char} (h : IsLiteral c) : c ≠ '\r' := by
  rintro rfl
  rcases h with h | h
  · exact absurd h (by decide)
  · exact absurd h (by decide)

theorem basicLines_plain {c : Char} {s : Text} (hopen : closingQuotes? '"' (c :: s) = none)
    (hslash : c ≠ '\\') (hc : IsLiteral c) :
    basicLines (c :: s) = (basicLines s).map fun r => (c :: r.1, r.2) := by
  have hreturn := hc.ne_return
  rw [basicLines, hopen]
  rcases hc with rfl | hc
  · simp
  · by_cases hnewline : c = '\n'
    · simp [hnewline]
    · simp [hslash, hnewline, hreturn, hc]

theorem literalLines_closing {s : Text} {r : Text × Text} (h : closingQuotes? '\'' s = some r) :
    literalLines s = some r := by
  cases s with
  | nil => cases h
  | cons c s => rw [literalLines, h]

theorem literalLines_plain {c : Char} {s : Text} (hopen : closingQuotes? '\'' (c :: s) = none)
    (hc : IsLiteral c) :
    literalLines (c :: s) = (literalLines s).map fun r => (c :: r.1, r.2) := by
  have hreturn := hc.ne_return
  rw [literalLines, hopen]
  by_cases hnewline : c = '\n'
  · simp [hnewline]
  · simp [hnewline, hreturn, hc.resolve_left hnewline]

/-- On several lines a character is an escape, a quote that is not the third in a row, or it stands
for itself. -/
theorem writtenLines_cons (q : Nat) (c : Char) (s : Text) :
    (∃ e, writtenLines q (c :: s) = '\\' :: (e ++ writtenLines 0 s) ∧ Escapes e c) ∨
      (c = '"' ∧ q < 2 ∧ writtenLines q (c :: s) = c :: writtenLines (q + 1) s) ∨
        (c ≠ '"' ∧ c ≠ '\\' ∧ IsLiteral c ∧ writtenLines q (c :: s) = c :: writtenLines 0 s) := by
  rw [writtenLines]
  by_cases hquote : c = '"'
  · by_cases hq : q < 2
    · rw [if_pos hquote, if_pos hq]
      exact .inr (.inl ⟨hquote, hq, rfl⟩)
    · rw [if_pos hquote, if_neg hq, hquote]
      exact .inl ⟨['"'], rfl, escapes_letter (fun _ => rfl) (by decide)⟩
  · rw [if_neg hquote]
    by_cases hnewline : c = '\n'
    · rw [if_pos hnewline]
      exact .inr (.inr ⟨hquote, hnewline ▸ (by decide), .inl hnewline, rfl⟩)
    · rw [if_neg hnewline]
      rcases writtenChar_cases c with ⟨e, hw, he⟩ | ⟨-, hslash, hc, hw⟩
      · exact .inl ⟨e, by rw [hw, List.cons_append], he⟩
      · exact .inr (.inr ⟨hquote, hslash, .inr hc, by rw [hw, List.singleton_append]⟩)

/-- With `q` quotes just written, no more follow than make three in a row. -/
theorem quotesAhead_writtenLines {q : Nat} (hq : q ≤ 2) (s : Text) :
    q + quotesAhead '"' (writtenLines q s) ≤ 2 := by
  induction s generalizing q with
  | nil => exact hq
  | cons c s ih =>
    rcases writtenLines_cons q c s with ⟨e, hw, -⟩ | ⟨hquote, hlt, hw⟩ | ⟨hquote, -, -, hw⟩
    · rw [hw, quotesAhead_cons_of_ne (by decide)]
      exact hq
    · have hmore : q + 1 + quotesAhead '"' (writtenLines (q + 1) s) ≤ 2 := ih hlt
      rw [hw, hquote, quotesAhead_cons_self]
      omega
    · rw [hw, quotesAhead_cons_of_ne hquote]
      exact hq

theorem writtenLines_eq_self {q : Nat} {s : Text} (h : ∀ c ∈ writtenLines q s, c = '"') :
    writtenLines q s = s := by
  induction s generalizing q with
  | nil => rfl
  | cons c s ih =>
    rcases writtenLines_cons q c s with ⟨e, hw, -⟩ | ⟨-, -, hw⟩ | ⟨hquote, -, -, hw⟩
    · rw [hw] at h
      exact absurd (h _ (List.mem_cons_self ..)) (by decide)
    · rw [hw] at h ⊢
      rw [ih fun d hd => h d (List.mem_cons_of_mem _ hd)]
    · rw [hw] at h
      exact absurd (h _ (List.mem_cons_self ..)) hquote

theorem basicLines_written {q : Nat} (hq : q ≤ 2) (s : Text) {rest : Text}
    (hrest : Unquoted '"' rest) :
    basicLines (writtenLines q s ++ (List.replicate 3 '"' ++ rest)) = some (s, rest) := by
  induction s generalizing q with
  | nil =>
    have hclosed := closingQuotes?_replicate '"' (Nat.zero_le 2) hrest
    exact basicLines_closing hclosed
  | cons c s ih =>
    have hrun : quotesAhead '"' (writtenLines q (c :: s)) ≤ 2 :=
      Nat.le_trans (Nat.le_add_left ..) (quotesAhead_writtenLines hq (c :: s))
    -- Quotes alone belong to the string together with the closing ones; any others do not close it.
    by_cases hall : ∀ d ∈ writtenLines q (c :: s), d = '"'
    · have hclosed := closingQuotes?_of_forall hrun hall hrest
      rw [writtenLines_eq_self hall] at hclosed ⊢
      exact basicLines_closing hclosed
    · have hopen := closingQuotes?_of_exists hrun hall (List.replicate 3 '"' ++ rest)
      rcases writtenLines_cons q c s with ⟨e, hw, he⟩ | ⟨hc, hlt, hw⟩ | ⟨-, hslash, hc, hw⟩
      · rw [hw, List.cons_append, List.append_assoc, basicLines_escape he, ih (Nat.zero_le 2)]
        rfl
      · rw [hw, List.cons_append] at hopen ⊢
        rw [basicLines_plain hopen (hc ▸ (by decide)) (.inr (hc ▸ (by decide))), ih hlt]
        rfl
      · rw [hw, List.cons_append] at hopen ⊢
        rw [basicLines_plain hopen hslash hc, ih (Nat.zero_le 2)]
        rfl

/-! ## Runs -/

theorem longestRun_mono (c : Char) {m n : Nat} (h : m ≤ n) (s : Text) :
    longestRun c m s ≤ longestRun c n s := by
  induction s generalizing m n with
  | nil => exact h
  | cons d s ih =>
    rw [longestRun, longestRun]
    split
    · exact ih (Nat.succ_le_succ h)
    · omega

theorem longestRun_tail (c d : Char) (s : Text) : longestRun c 0 s ≤ longestRun c 0 (d :: s) := by
  rw [longestRun]
  split
  · exact longestRun_mono c (Nat.zero_le 1) s
  · exact Nat.le_max_right ..

theorem quotesAhead_le_longestRun (c : Char) (run : Nat) (s : Text) :
    run + quotesAhead c s ≤ longestRun c run s := by
  induction s generalizing run with
  | nil => exact Nat.le_refl run
  | cons d s ih =>
    rw [longestRun]
    by_cases hd : d = c
    · have hmore := ih (run + 1)
      rw [if_pos hd, hd, quotesAhead_cons_self]
      omega
    · rw [if_neg hd, quotesAhead_cons_of_ne hd]
      exact Nat.le_max_left ..

theorem notMem_of_longestRun {c : Char} {s : Text} (h : longestRun c 0 s = 0) : c ∉ s := by
  induction s with
  | nil => exact List.not_mem_nil
  | cons d s ih =>
    have hahead := quotesAhead_le_longestRun c 0 (d :: s)
    have htail := longestRun_tail c d s
    intro hmem
    rcases List.mem_cons.1 hmem with rfl | hmem
    · rw [quotesAhead_cons_self] at hahead
      omega
    · exact ih (by omega) hmem

theorem literalLines_written {s : Text} (hrun : longestRun '\'' 0 s ≤ 2)
    (hs : ∀ c ∈ s, IsLiteral c) {rest : Text} (hrest : Unquoted '\'' rest) :
    literalLines (s ++ (List.replicate 3 '\'' ++ rest)) = some (s, rest) := by
  induction s with
  | nil =>
    have hclosed := closingQuotes?_replicate '\'' (Nat.zero_le 2) hrest
    exact literalLines_closing hclosed
  | cons c s ih =>
    obtain ⟨hc, hmore⟩ := List.forall_mem_cons.1 hs
    have hahead : quotesAhead '\'' (c :: s) ≤ 2 := by
      have hle := quotesAhead_le_longestRun '\'' 0 (c :: s)
      omega
    by_cases hall : ∀ d ∈ c :: s, d = '\''
    · exact literalLines_closing (closingQuotes?_of_forall hahead hall hrest)
    · have hopen := closingQuotes?_of_exists hahead hall (List.replicate 3 '\'' ++ rest)
      rw [List.cons_append] at hopen ⊢
      rw [literalLines_plain hopen hc, ih (Nat.le_trans (longestRun_tail ..) hrun) hmore]
      rfl

/-! ## Strings of any form -/

/-- The end of line behind the opening quotes of a string that has ends of lines itself. -/
def opening (s : Text) : Text := if s.contains '\n' then "\n" else []

/-- The forms in which a string may be written. -/
inductive IsForm (s : Text) : Text → Prop
  | basic : IsForm s ('"' :: (s.flatMap writtenChar ++ ['"']))
  | literal : (∀ c ∈ s, c ≠ '\'' ∧ isControl c = false) → IsForm s ('\'' :: (s ++ ['\'']))
  | basicLines :
      IsForm s (List.replicate 3 '"' ++ (opening s ++ (writtenLines 0 s ++ List.replicate 3 '"')))
  | literalLines : longestRun '\'' 0 s ≤ 2 → (∀ c ∈ s, IsLiteral c) →
      IsForm s (List.replicate 3 '\'' ++ (opening s ++ (s ++ List.replicate 3 '\'')))

theorem IsForm.exists_cons {s t : Text} (h : IsForm s t) :
    ∃ c u, t = c :: u ∧ (c = '"' ∨ c = '\'') := by
  cases h with
  | basic => exact ⟨_, _, rfl, .inl rfl⟩
  | literal _ => exact ⟨_, _, rfl, .inr rfl⟩
  | basicLines => exact ⟨_, _, rfl, .inl rfl⟩
  | literalLines _ _ => exact ⟨_, _, rfl, .inr rfl⟩

theorem isForm_writtenString (s : Text) : IsForm s (writtenString s) := by
  have hplain (h : (s.any fun c => isControl c && c != '\n') = false) :
      ∀ c ∈ s, IsLiteral c := by
    intro c hc
    have hany := List.any_eq_false.1 h c hc
    by_cases hnewline : c = '\n'
    · exact .inl hnewline
    · exact .inr (by simpa [hnewline] using hany)
  have hbasic : IsForm s ("\"" ++ s.flatMap writtenChar ++ "\"") := .basic
  have hbasicLines : IsForm s ("\"\"\"" ++ opening s ++ writtenLines 0 s ++ "\"\"\"") := by
    simpa using IsForm.basicLines (s := s)
  have hliteralLines (h : longestRun '\'' 0 s ≤ 2) (hs : ∀ c ∈ s, IsLiteral c) :
      IsForm s ("'''" ++ opening s ++ s ++ "'''") := by
    simpa using IsForm.literalLines h hs
  unfold writtenString
  extract_lets controls escapes lines doubles singles start
  split
  · exact hbasic
  split
  · rename_i h
    simp only [Bool.and_eq_true, Bool.not_eq_true', beq_iff_eq] at h
    obtain ⟨⟨hcontrols, hsingles⟩, hlines⟩ := h
    refine .literal fun c hc => ⟨fun hquote => ?_, (hplain hcontrols c hc).resolve_left ?_⟩
    · exact notMem_of_longestRun hsingles (hquote ▸ hc)
    · rintro rfl
      have hcontains : lines = true := List.contains_iff_mem.2 hc
      exact Bool.false_ne_true (hlines.symm.trans hcontains)
  split
  · exact hbasicLines
  split
  · rename_i h
    simp only [Bool.and_eq_true, Bool.not_eq_true', decide_eq_true_eq] at h
    exact hliteralLines h.2 (hplain h.1)
  split
  · exact hbasicLines
  · exact hbasic

theorem skipNewline_opening {s t : Text}
    (ht : '\n' ∉ s → ∀ c ∈ t.head?, c ≠ '\n' ∧ c ≠ '\r') : skipNewline (opening s ++ t) = t := by
  by_cases hs : '\n' ∈ s
  · rw [opening, if_pos (List.contains_iff_mem.2 hs)]
    rfl
  · rw [opening, if_neg (mt List.contains_iff_mem.1 hs), List.nil_append]
    cases t with
    | nil => rfl
    | cons c t =>
      obtain ⟨hnewline, hreturn⟩ := ht hs c rfl
      simp [skipNewline, afterNewline?, hnewline, hreturn]

theorem skipNewline_writtenLines (s t : Text) :
    skipNewline (opening s ++ (writtenLines 0 s ++ (List.replicate 3 '"' ++ t))) =
      writtenLines 0 s ++ (List.replicate 3 '"' ++ t) := by
  refine skipNewline_opening fun hs => ?_
  cases s with
  | nil => simp [writtenLines]
  | cons c s =>
    have hnewline : c ≠ '\n' := fun hc => hs (hc ▸ List.mem_cons_self ..)
    rcases writtenLines_cons 0 c s with ⟨e, hw, -⟩ | ⟨hquote, -, hw⟩ | ⟨-, -, hc, hw⟩
    · simp [hw]
    · rw [hw, hquote]
      simp
    · simp [hw, hnewline, hc.ne_return]

theorem skipNewline_literalLines {s : Text} (hs : ∀ c ∈ s, IsLiteral c)
    (t : Text) :
    skipNewline (opening s ++ (s ++ (List.replicate 3 '\'' ++ t))) =
      s ++ (List.replicate 3 '\'' ++ t) := by
  refine skipNewline_opening fun hnewlines => ?_
  cases s with
  | nil => simp
  | cons c s =>
    have hnewline : c ≠ '\n' := fun hc => hnewlines (hc ▸ List.mem_cons_self ..)
    simp [hnewline, (hs c (List.mem_cons_self ..)).ne_return]

/-- A string on one line does not begin with three quotes. -/
theorem quotesAhead_line {quote : Char} {s rest : Text} (hs : Unquoted quote s)
    (hrest : Unquoted quote rest) : quotesAhead quote (quote :: (s ++ quote :: rest)) < 3 := by
  cases s with
  | nil =>
    rw [List.nil_append, quotesAhead_cons_self, quotesAhead_cons_self,
      quotesAhead_of_unquoted hrest]
    decide
  | cons c s =>
    rw [quotesAhead_cons_self, List.cons_append, quotesAhead_cons_of_ne (hs c rfl)]
    decide

theorem unquoted_flatMap_writtenChar (s : Text) : Unquoted '"' (s.flatMap writtenChar) := by
  cases s with
  | nil => simp [Unquoted]
  | cons c s =>
    rcases writtenChar_cases c with ⟨e, hw, -⟩ | ⟨hquote, -, -, hw⟩
    · simp [Unquoted, hw]
    · simp [Unquoted, hw, hquote]

/-- Every form of a string is read back as the string, if no quote follows it. -/
theorem string_of_isForm {s t rest : Text} (h : IsForm s t) (hdouble : Unquoted '"' rest)
    (hsingle : Unquoted '\'' rest) : string (t ++ rest) = some (s, rest) := by
  cases h with
  | basic =>
    have hlt := quotesAhead_line (unquoted_flatMap_writtenChar s) hdouble
    have hbasic : after? "\"\"\"" ('"' :: (s.flatMap writtenChar ++ '"' :: rest)) = none :=
      after?_replicate_of_lt (n := 3) hlt
    have hliteral : after? "'''" ('"' :: (s.flatMap writtenChar ++ '"' :: rest)) = none := rfl
    rw [List.cons_append, List.append_assoc, List.singleton_append, string, hbasic, hliteral]
    exact basicChars_written s rest
  | literal hs =>
    have hlt : quotesAhead '\'' ('\'' :: (s ++ '\'' :: rest)) < 3 :=
      quotesAhead_line (fun c hc => (hs c (List.mem_of_mem_head? hc)).1) hsingle
    have hbasic : after? "\"\"\"" ('\'' :: (s ++ '\'' :: rest)) = none := rfl
    have hliteral : after? "'''" ('\'' :: (s ++ '\'' :: rest)) = none :=
      after?_replicate_of_lt (n := 3) hlt
    rw [List.cons_append, List.append_assoc, List.singleton_append, string, hbasic, hliteral]
    exact literalChars_written hs rest
  | basicLines =>
    have hbasic : ∀ u : Text, after? "\"\"\"" (List.replicate 3 '"' ++ u) = some u :=
      fun u => after?_eq_some_iff.2 rfl
    simp only [List.append_assoc]
    rw [string, hbasic]
    simp only [skipNewline_writtenLines]
    exact basicLines_written (Nat.zero_le 2) s hdouble
  | literalLines hrun hs =>
    have hbasic : ∀ u : Text, after? "\"\"\"" (List.replicate 3 '\'' ++ u) = none := fun u => rfl
    have hliteral : ∀ u : Text, after? "'''" (List.replicate 3 '\'' ++ u) = some u :=
      fun u => after?_eq_some_iff.2 rfl
    simp only [List.append_assoc]
    rw [string, hbasic, hliteral]
    simp only [skipNewline_literalLines hs]
    exact literalLines_written hrun hs hsingle

theorem string_writtenString {s rest : Text} (hdouble : Unquoted '"' rest)
    (hsingle : Unquoted '\'' rest) : string (writtenString s ++ rest) = some (s, rest) :=
  string_of_isForm (isForm_writtenString s) hdouble hsingle

end Bibliography.Toml
