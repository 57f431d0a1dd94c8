import Bibliography.Proofs.Toml.Strings
import Bibliography.Toml.Document
import Mathlib.Data.List.Forall2

/-! # Documents in TOML read back

A document of one line for each name is read as the table of its names, in their order. A line holds
a string, a truth value, or an array of such values, each of which is read whatever stands behind it
(`IsValue`). Fuel is never short: every item and every line takes more characters than fuel.
-/

namespace Bibliography.Toml
set_option autoImplicit false
open Text

/-! ## Values -/

/-- A character that is not skipped between the values of an array. -/
def BeginsToken (c : Char) : Prop := isSpace c = false ∧ c ≠ '\n' ∧ c ≠ '\r' ∧ c ≠ '#'

instance (c : Char) : Decidable (BeginsToken c) :=
  inferInstanceAs (Decidable (isSpace c = false ∧ c ≠ '\n' ∧ c ≠ '\r' ∧ c ≠ '#'))

/-- Inside `depth` brackets, the text is read as the value, unless a quote stands behind it. -/
structure IsValue (depth : Nat) (t : Text) (v : Node) : Prop where
  begins : ∃ c u, t = c :: u ∧ BeginsToken c ∧ c ≠ ']'
  read : ∀ fuel rest, t.length < fuel → Unquoted '"' rest → Unquoted '\'' rest →
    value depth fuel (t ++ rest) = some (v, rest)

theorem isValue_writtenString (depth : Nat) (s : Text) :
    IsValue depth (writtenString s) (.text s) := by
  obtain ⟨c, u, hu, hc⟩ := (isForm_writtenString s).exists_cons
  refine ⟨⟨c, u, hu, ?_⟩, fun fuel rest hfuel hdouble hsingle => ?_⟩
  · rcases hc with rfl | rfl
    · decide
    · decide
  · obtain ⟨fuel, rfl⟩ := Nat.exists_eq_add_one_of_ne_zero (Nat.ne_zero_of_lt hfuel)
    have hread := string_writtenString (s := s) hdouble hsingle
    rw [hu, List.cons_append] at hread ⊢
    rw [value, if_pos (by simpa using hc), hread]
    rfl

theorem isValue_true (depth : Nat) : IsValue depth "true" (.flag true) := by
  refine ⟨⟨'t', "rue", rfl, by decide⟩, fun fuel rest hfuel _ _ => ?_⟩
  obtain ⟨fuel, rfl⟩ := Nat.exists_eq_add_one_of_ne_zero (Nat.ne_zero_of_lt hfuel)
  rfl

theorem isValue_false (depth : Nat) : IsValue depth "false" (.flag false) := by
  refine ⟨⟨'f', "alse", rfl, by decide⟩, fun fuel rest hfuel _ _ => ?_⟩
  obtain ⟨fuel, rfl⟩ := Nat.exists_eq_add_one_of_ne_zero (Nat.ne_zero_of_lt hfuel)
  rfl

/-! ## Arrays -/

/-- Nothing but blanks and ends of lines. -/
def Vacant (s : Text) : Prop := ∀ c ∈ s, isSpace c = true ∨ c = '\n'

theorem vacant_nil : Vacant [] := fun _ hc => absurd hc List.not_mem_nil

theorem skipLines_token {b : Text} (hb : Vacant b) {c : Char} (hc : BeginsToken c) (s : Text) :
    skipLines (b ++ c :: s) = c :: s := by
  obtain ⟨hspace, hnewline, hreturn, hcomment⟩ := hc
  induction b with
  | nil =>
    rw [List.nil_append, skipLines, if_neg (by simp [hspace, hnewline, hreturn]),
      if_neg hcomment]
  | cons d b ih =>
    obtain ⟨hd, hb⟩ := List.forall_mem_cons.1 hb
    rw [List.cons_append, skipLines, if_pos (by rcases hd with hd | hd <;> simp [hd]), ih hb]

theorem items_closing (depth fuel : Nat) {b : Text} (hb : Vacant b) (rest : Text) :
    items depth (fuel + 1) (b ++ ']' :: rest) = some ([], rest) := by
  rw [items, skipLines_token hb (by decide)]
  rfl

/-- The item before a comma, and those behind it. -/
theorem items_comma {depth fuel : Nat} {b t s : Text} {v : Node} {r : List Node × Text}
    (hb : Vacant b) (h : IsValue depth t v) (hfuel : t.length < fuel)
    (hmore : items depth fuel s = some r) :
    items depth (fuel + 1) (b ++ (t ++ ',' :: s)) = some (v :: r.1, r.2) := by
  obtain ⟨c, u, rfl, hc, hclosing⟩ := h.begins
  have hread := h.read fuel (',' :: s) hfuel (by simp [Unquoted]) (by simp [Unquoted])
  have hcomma : skipLines (',' :: s) = ',' :: s := skipLines_token vacant_nil (by decide) s
  rw [List.cons_append] at hread ⊢
  rw [items, skipLines_token hb hc]
  split
  · rename_i heq
    exact absurd (List.cons.inj heq).1 hclosing
  · simp only [hread, hcomma, hmore, bind, Option.bind, pure]

/-- The last item, without a comma. -/
theorem items_last {depth fuel : Nat} {t : Text} {v : Node} (h : IsValue depth t v)
    (hfuel : t.length < fuel) (rest : Text) :
    items depth (fuel + 1) (t ++ ']' :: rest) = some ([v], rest) := by
  obtain ⟨c, u, rfl, hc, hclosing⟩ := h.begins
  have hread := h.read fuel (']' :: rest) hfuel (by simp [Unquoted]) (by simp [Unquoted])
  have hend : skipLines (']' :: rest) = ']' :: rest := skipLines_token vacant_nil (by decide) rest
  rw [List.cons_append] at hread ⊢
  rw [items, ← List.nil_append (c :: _), skipLines_token vacant_nil hc]
  split
  · rename_i heq
    exact absurd (List.cons.inj heq).1 hclosing
  · simp only [hread, hend, bind, Option.bind, pure]

/-- An item on a line of its own. -/
def itemLine (t : Text) : Text := "    " ++ t ++ ",\n"

theorem itemLine_append (t rest : Text) :
    itemLine t ++ rest = "    " ++ (t ++ ',' :: '\n' :: rest) := by
  simp [itemLine]

theorem items_lines {depth : Nat} {ts : List Text} {vs : List Node}
    (h : List.Forall₂ (IsValue depth) ts vs) {b : Text} (hb : Vacant b) {fuel : Nat}
    (hfuel : (ts.flatMap itemLine).length < fuel) (rest : Text) :
    items depth fuel (b ++ (ts.flatMap itemLine ++ ']' :: rest)) = some (vs, rest) := by
  induction h generalizing b fuel with
  | nil =>
    obtain ⟨fuel, rfl⟩ := Nat.exists_eq_add_one_of_ne_zero (Nat.ne_zero_of_lt hfuel)
    exact items_closing depth fuel hb rest
  | @cons t v ts vs ht _ ih =>
    obtain ⟨fuel, rfl⟩ := Nat.exists_eq_add_one_of_ne_zero (Nat.ne_zero_of_lt hfuel)
    have hlength : (itemLine t).length = t.length + 6 := by simp [itemLine]
    rw [List.flatMap_cons, List.length_append, hlength] at hfuel
    -- The end of this line stands before the next item, so the blanks `b` change along the way.
    have hstart : Vacant (b ++ "    ") := by
      refine List.forall_mem_append.2 ⟨hb, ?_⟩
      simp [isSpace]
    have hmore : items depth fuel (['\n'] ++ (ts.flatMap itemLine ++ ']' :: rest)) =
        some (vs, rest) := ih (by simp [Vacant]) (by omega)
    rw [List.flatMap_cons, List.append_assoc, itemLine_append, ← List.append_assoc b]
    exact items_comma hstart ht (by omega) hmore

/-- An array behind its opening bracket. -/
theorem isValue_bracket {depth : Nat} (hdepth : depth + 1 < maxDepth) {s : Text} {vs : List Node}
    (h : ∀ fuel rest, s.length < fuel → items (depth + 1) fuel (s ++ rest) = some (vs, rest)) :
    IsValue depth ('[' :: s) (.array vs) := by
  refine ⟨⟨'[', s, rfl, by decide⟩, fun fuel rest hfuel _ _ => ?_⟩
  obtain ⟨fuel, rfl⟩ := Nat.exists_eq_add_one_of_ne_zero (Nat.ne_zero_of_lt hfuel)
  rw [List.cons_append, value, if_neg (by decide), if_pos rfl, if_neg (Nat.not_le_of_lt hdepth),
    h fuel rest (Nat.lt_of_succ_lt_succ hfuel)]
  rfl

theorem isValue_empty {depth : Nat} (hdepth : depth + 1 < maxDepth) :
    IsValue depth "[]" (.array []) := by
  refine isValue_bracket (s := "]") hdepth fun fuel rest hfuel => ?_
  obtain ⟨fuel, rfl⟩ := Nat.exists_eq_add_one_of_ne_zero (Nat.ne_zero_of_lt hfuel)
  exact items_closing (depth + 1) fuel vacant_nil rest

theorem isValue_singleton {depth : Nat} (hdepth : depth + 1 < maxDepth) {t : Text} {v : Node}
    (h : IsValue (depth + 1) t v) : IsValue depth ("[" ++ t ++ "]") (.array [v]) := by
  refine isValue_bracket (s := t ++ "]") hdepth fun fuel rest hfuel => ?_
  obtain ⟨fuel, rfl⟩ := Nat.exists_eq_add_one_of_ne_zero (Nat.ne_zero_of_lt hfuel)
  rw [List.length_append] at hfuel
  rw [List.append_assoc]
  exact items_last h (Nat.lt_of_succ_lt_succ hfuel) rest

theorem isValue_lines {depth : Nat} (hdepth : depth + 1 < maxDepth) {ts : List Text}
    {vs : List Node} (h : List.Forall₂ (IsValue (depth + 1)) ts vs) :
    IsValue depth ("[\n" ++ ts.flatMap itemLine ++ "]") (.array vs) := by
  refine isValue_bracket (s := "\n" ++ ts.flatMap itemLine ++ "]") hdepth fun fuel rest hfuel => ?_
  simp only [List.length_append] at hfuel
  rw [List.append_assoc, List.append_assoc]
  exact items_lines h (b := "\n") (by simp [Vacant]) (by omega) rest

/-! ## Lines -/

/-- A name that is written without quotes. -/
def IsBareName (k : Text) : Prop := k ≠ [] ∧ ∀ c ∈ k, isNameChar c = true

theorem IsBareName.exists_cons {k : Text} (h : IsBareName k) :
    ∃ c u, k = c :: u ∧ isNameChar c = true := by
  obtain ⟨hne, hchars⟩ := h
  cases k with
  | nil => exact absurd rfl hne
  | cons c u => exact ⟨c, u, rfl, hchars c (List.mem_cons_self ..)⟩

theorem ne_of_isNameChar {c d : Char} (h : isNameChar c = true) (hd : isNameChar d = false) :
    c ≠ d := by
  rintro rfl
  exact Bool.false_ne_true (hd.symm.trans h)

theorem skipSpace_nameChar {c : Char} (h : isNameChar c = true) (s : Text) :
    skipSpace (c :: s) = c :: s := by
  refine List.dropWhile_cons_of_neg ?_
  have hspace := ne_of_isNameChar h (d := ' ') (by decide)
  have htab := ne_of_isNameChar h (d := '\t') (by decide)
  simp [isSpace, hspace, htab]

theorem namePart_bare {k : Text} (h : IsBareName k) (rest : Text)
    (hrest : ∀ c ∈ rest.head?, isNameChar c = false) : namePart (k ++ rest) = some (k, rest) := by
  have htake := takeWhile_of_stop h.2 hrest
  have hdrop := dropWhile_of_stop h.2 hrest
  obtain ⟨c, u, rfl, hc⟩ := h.exists_cons
  unfold namePart
  split
  · rename_i heq
    exact absurd (List.cons.inj heq).1 (ne_of_isNameChar hc (by decide))
  · rename_i heq
    exact absurd (List.cons.inj heq).1 (ne_of_isNameChar hc (by decide))
  · simp only [htake, hdrop]
    rfl

/-- The name before an equals sign. -/
theorem name_bare {k : Text} (h : IsBareName k) (rest : Text) :
    name (k ++ ' ' :: '=' :: rest) = some ([], k, '=' :: rest) := by
  have hpart := namePart_bare h (' ' :: '=' :: rest) (by simp [isNameChar])
  have hspace : skipSpace (' ' :: '=' :: rest) = '=' :: rest := rfl
  obtain ⟨c, u, rfl, hc⟩ := h.exists_cons
  have hparts : nameParts (78 + 1) (c :: u ++ ' ' :: '=' :: rest) =
      some ([c :: u], '=' :: rest) := by
    rw [List.cons_append] at hpart ⊢
    rw [nameParts, skipSpace_nameChar hc, hpart]
    simp only [bind, Option.bind, hspace]
    rfl
  have hfuel : maxDepth - 1 = 78 + 1 := rfl
  rw [name, hfuel, hparts]
  rfl

/-- How a name and the text of its value stand in a document. -/
def line (k t : Text) : Text := k ++ " = " ++ t ++ "\n"

theorem line_append (k t rest : Text) :
    line k t ++ rest = k ++ ' ' :: '=' :: ' ' :: (t ++ '\n' :: rest) := by
  simp [line]

theorem length_line (k t : Text) : (line k t).length = k.length + t.length + 4 := by
  simp [line]
  omega

theorem definition_line {k t : Text} {v : Node} (hk : IsBareName k) (ht : IsValue 0 t v)
    {root : Members} (hnew : root.lookup k = none) (rest : Text) :
    definition [] root (line k t ++ rest) = some (root ++ [(k, v)], rest) := by
  have hequals : after? "=" ('=' :: ' ' :: (t ++ '\n' :: rest)) =
      some (' ' :: (t ++ '\n' :: rest)) :=
    after?_eq_some_iff.2 rfl
  have hspace : skipSpace (' ' :: (t ++ '\n' :: rest)) = t ++ '\n' :: rest := by
    obtain ⟨c, u, rfl, hc, -⟩ := ht.begins
    have hdrop : skipSpace (c :: (u ++ '\n' :: rest)) = c :: (u ++ '\n' :: rest) :=
      List.dropWhile_cons_of_neg (by simp [hc.1])
    exact hdrop
  have hfuel : t.length < 2 * (' ' :: (t ++ '\n' :: rest)).length + 2 := by
    simp only [List.length_cons, List.length_append]
    omega
  have hvalue := ht.read _ ('\n' :: rest) hfuel (by simp [Unquoted]) (by simp [Unquoted])
  have hline : afterLine? ('\n' :: rest) = some rest := rfl
  have hdefine : root.descend [] (Members.defineDotted [] k v) = some (root ++ [(k, v)]) := by
    simp [Members.descend, Members.defineDotted, Members.define, hnew]
  rw [line_append, definition, name_bare hk]
  simp only [bind, Option.bind, hequals, hspace, hvalue, hline, hdefine]
  rfl

theorem lines_definition {k t : Text} {v : Node} (hk : IsBareName k) (ht : IsValue 0 t v)
    {root : Members} (hnew : root.lookup k = none) (fuel : Nat) (rest : Text) :
    lines [] root (fuel + 1) (line k t ++ rest) = lines [] (root ++ [(k, v)]) fuel rest := by
  have hdefinition := definition_line hk ht hnew rest
  obtain ⟨c, u, rfl, hc⟩ := hk.exists_cons
  have hcons : line (c :: u) t ++ rest = c :: (u ++ ' ' :: '=' :: ' ' :: (t ++ '\n' :: rest)) :=
    line_append (c :: u) t rest
  rw [hcons] at hdefinition ⊢
  rw [lines, skipSpace_nameChar hc]
  -- A line that begins with a character of a name is none of the other kinds of lines.
  split
  case h_1 heq => cases heq
  case h_7 => simp only [hdefinition, bind, Option.bind]
  all_goals
    rename_i heq
    obtain rfl := (List.cons.inj heq).1
    exact absurd hc (by decide)

/-- The lines of names and their values, one after the other. -/
theorem lines_definitions {α : Type} {write : α → Text} {node : α → Node} {ps : List (Text × α)}
    (h : ∀ p ∈ ps, IsBareName p.1 ∧ IsValue 0 (write p.2) (node p.2)) (root : Members)
    (hnew : (root.map Prod.fst ++ ps.map Prod.fst).Nodup) {fuel : Nat} (hfuel : ps.length < fuel) :
    lines [] root fuel (ps.flatMap fun p => line p.1 (write p.2)) =
      some (root ++ ps.map fun p => (p.1, node p.2)) := by
  induction ps generalizing root fuel with
  | nil =>
    obtain ⟨fuel, rfl⟩ := Nat.exists_eq_add_one_of_ne_zero (Nat.ne_zero_of_lt hfuel)
    rw [List.map_nil, List.append_nil]
    rfl
  | cons p ps ih =>
    obtain ⟨fuel, rfl⟩ := Nat.exists_eq_add_one_of_ne_zero (Nat.ne_zero_of_lt hfuel)
    obtain ⟨⟨hname, hvalue⟩, hps⟩ := List.forall_mem_cons.1 h
    have hlookup : root.lookup p.1 = none := by
      refine List.lookup_eq_none_iff.2 fun q hq => bne_iff_ne.2 fun heq => ?_
      rw [List.map_cons] at hnew
      exact (List.nodup_append.1 hnew).2.2 q.1 (List.mem_map_of_mem hq) p.1
        (List.mem_cons_self ..) heq.symm
    have hmore : ((root ++ [(p.1, node p.2)]).map Prod.fst ++ ps.map Prod.fst).Nodup := by
      simpa using hnew
    rw [List.flatMap_cons, lines_definition hname hvalue hlookup,
      ih hps _ hmore (Nat.lt_of_succ_lt_succ hfuel), List.append_assoc, List.map_cons,
      List.singleton_append]

theorem length_le_lines {α : Type} (write : α → Text) (ps : List (Text × α)) :
    ps.length ≤ (ps.flatMap fun p => line p.1 (write p.2)).length := by
  induction ps with
  | nil => exact Nat.zero_le _
  | cons p ps ih =>
    have hline := length_line p.1 (write p.2)
    rw [List.flatMap_cons, List.length_append, List.length_cons]
    omega

/-- A document that has a line for each of its names. -/
theorem document_definitions {α : Type} {write : α → Text} {node : α → Node}
    {ps : List (Text × α)} (h : ∀ p ∈ ps, IsBareName p.1 ∧ IsValue 0 (write p.2) (node p.2))
    (hnew : (ps.map Prod.fst).Nodup) :
    document (ps.flatMap fun p => line p.1 (write p.2)) =
      some (ps.map fun p => (p.1, node p.2)) := by
  have hmark : after? ['\ufeff'] (ps.flatMap fun p => line p.1 (write p.2)) = none := by
    cases ps with
    | nil => rfl
    | cons p ps =>
      obtain ⟨c, u, hname, hc⟩ := (h p (List.mem_cons_self ..)).1.exists_cons
      rw [List.flatMap_cons, line_append, hname, List.cons_append, after?,
        if_neg (ne_of_isNameChar hc (by decide)).symm]
  rw [document, hmark]
  exact lines_definitions h [] hnew (Nat.lt_succ_of_le (length_le_lines write ps))

end Bibliography.Toml
