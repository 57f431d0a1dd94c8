import Bibliography.Proofs.Latex.Grouped

/-! # Runs of mathematics

Escaping goes along with putting texts together, except where mathematics meets mathematics: there
the group that one text ends with and the group that the other begins with are joined. So a run of
mathematical characters has one group, with the commands of all of them.
-/

namespace Bibliography.Latex
set_option autoImplicit false

/-! ## Mathematical characters -/

/-- The characters that have to stand in math mode, each with its command. -/
def mathTable : List (Char × String) := greekLetters ++ symbols

def isMathChar (c : Char) : Bool := mathTable.any fun p => p.1 == c

/-- No character stands in the tables before its row of mathematics. -/
theorem mathTable_first : (mathTable.all fun p =>
    (asciiSpelled.find? fun q => Nat.beq q.1.toNat p.1.toNat) ==
      some (p.1, ⟨p.2.toList, true⟩)) = true := by
  decide +kernel

theorem spelling?_of_mathTable {p : Char × String} (h : p ∈ mathTable) :
    spelling? .ascii p.1 = some ⟨p.2.toList, true⟩ := by
  have hfirst := eq_of_beq (List.all_eq_true.1 mathTable_first p h)
  obtain ⟨-, before, after, hsplit, hbefore⟩ := List.find?_eq_some_iff_append.1 hfirst
  refine List.lookup_eq_some_iff.2 ⟨before, after, hsplit, fun q hq => ?_⟩
  have hcode := hbefore q hq
  have hne : p.1 ≠ q.1 := by
    intro heq
    simp [heq] at hcode
  simpa using hne

theorem isMath_unicode (c : Char) : isMath .unicode c = false := by
  rw [isMath]
  cases h : spelling? .unicode c with
  | none => rfl
  | some s => exact math_of_spelled (mem_of_lookup h)

theorem isMath_ascii (c : Char) : isMath .ascii c = isMathChar c := by
  rw [Bool.eq_iff_iff, isMath, Option.any_eq_true, isMathChar, List.any_eq_true]
  constructor
  · rintro ⟨s, hs, hmath⟩
    have hmem := mem_asciiSpelled hs
    rw [asciiSpelled, alwaysSpelled, List.mem_append, List.mem_append] at hmem
    rcases hmem with (hspecial | htext) | hsymbol
    · rw [math_of_spelled hspecial] at hmath
      cases hmath
    · rw [math_of_spelled htext] at hmath
      cases hmath
    · obtain ⟨p, hp, heq⟩ := List.mem_map.1 hsymbol
      exact ⟨p, hp, beq_iff_eq.2 (Prod.mk.inj heq).1⟩
  · rintro ⟨p, hp, heq⟩
    obtain rfl := beq_iff_eq.1 heq
    exact ⟨_, spelling?_of_mathTable hp, rfl⟩

/-! ## Where two texts meet -/

def endsInMath (s : Text) : Bool := s.getLast?.any isMathChar

def beginsInMath (s : Text) : Bool := s.head?.any isMathChar

section
variable (isMath : Char → Bool) (write : Char → Text)

/-- What stands before a text decides only whether the text has to open a group, or close one. -/
theorem exists_grouped_eq (s : Text) :
    ∃ rest, ∀ inMath,
      grouped isMath write inMath s = boundary inMath (s.head?.any isMath) ++ rest := by
  cases s with
  | nil => exact ⟨[], fun inMath => (List.append_nil _).symm⟩
  | cons c s => exact ⟨_, fun inMath => rfl⟩

/-- A text passes on to the one behind it only whether it ends in mathematics. -/
theorem exists_grouped_append (inMath : Bool) (s : Text) :
    ∃ before, ∀ t, grouped isMath write inMath (s ++ t) =
      before ++ grouped isMath write ((s.getLast?.map isMath).getD inMath) t := by
  induction s generalizing inMath with
  | nil => exact ⟨[], fun t => rfl⟩
  | cons c s ih =>
    obtain ⟨before, hbefore⟩ := ih (isMath c)
    refine ⟨boundary inMath (isMath c) ++ (write c ++ before), fun t => ?_⟩
    have hlast : (((c :: s).getLast?).map isMath).getD inMath =
        (s.getLast?.map isMath).getD (isMath c) := by
      rw [List.getLast?_cons]
      cases s.getLast? with
      | none => rfl
      | some d => rfl
    rw [List.cons_append, grouped, hbefore, hlast, List.append_assoc, List.append_assoc]

end

/-- Two texts, escaped, and what is written between them when they are put together. -/
theorem exists_escape_append (mode : Mode) (a b : Text) :
    ∃ before after,
      escape mode a = before ++ boundary (a.getLast?.any (isMath mode)) false ∧
      escape mode b = boundary false (b.head?.any (isMath mode)) ++ after ∧
      escape mode (a ++ b) =
        before ++ boundary (a.getLast?.any (isMath mode)) (b.head?.any (isMath mode)) ++ after := by
  obtain ⟨before, hbefore⟩ := exists_grouped_append (isMath mode) (spell mode) false a
  obtain ⟨after, hafter⟩ := exists_grouped_eq (isMath mode) (spell mode) b
  have hends : (a.getLast?.map (isMath mode)).getD false = a.getLast?.any (isMath mode) := by
    cases a.getLast? with
    | none => rfl
    | some c => rfl
  rw [hends] at hbefore
  have ha := hbefore []
  rw [List.append_nil, grouped] at ha
  refine ⟨before, after, ?_, ?_, ?_⟩
  · rw [escape_eq_grouped, ha]
  · rw [escape_eq_grouped, hafter]
  · rw [escape_eq_grouped, hbefore, hafter, List.append_assoc]

theorem boundary_eq_append {ends begins : Bool} (h : ¬(ends = true ∧ begins = true)) :
    boundary ends begins = boundary ends false ++ boundary false begins := by
  cases ends with
  | false => rfl
  | true =>
    cases begins with
    | false => rfl
    | true => exact absurd ⟨rfl, rfl⟩ h

theorem any_isMath (mode : Mode) (c? : Option Char) :
    c?.any (isMath mode) = (decide (mode = .ascii) && c?.any isMathChar) := by
  cases c? with
  | none => simp
  | some c =>
    cases mode with
    | unicode => simp [isMath_unicode]
    | ascii => simp [isMath_ascii]

theorem escape_append_of_apart {mode : Mode} {a b : Text}
    (h : ¬(mode = .ascii ∧ endsInMath a = true ∧ beginsInMath b = true)) :
    escape mode (a ++ b) = escape mode a ++ escape mode b := by
  obtain ⟨before, after, ha, hb, hab⟩ := exists_escape_append mode a b
  have hapart : ¬(a.getLast?.any (isMath mode) = true ∧ b.head?.any (isMath mode) = true) := by
    rw [any_isMath, any_isMath, Bool.and_eq_true, Bool.and_eq_true, decide_eq_true_eq]
    exact fun ⟨⟨hmode, hends⟩, _, hbegins⟩ => h ⟨hmode, hends, hbegins⟩
  rw [hab, ha, hb, boundary_eq_append hapart]
  simp only [List.append_assoc]

theorem exists_escape_append_of_meet {a b : Text} (ha : endsInMath a = true)
    (hb : beginsInMath b = true) :
    ∃ before after, escape .ascii a = before ++ ['}'] ∧ escape .ascii b = mathOpen ++ after ∧
      escape .ascii (a ++ b) = before ++ after := by
  have hends : a.getLast?.any (isMath .ascii) = true := by rw [any_isMath]; exact ha
  have hbegins : b.head?.any (isMath .ascii) = true := by rw [any_isMath]; exact hb
  obtain ⟨before, after, hleft, hright, hwhole⟩ := exists_escape_append .ascii a b
  rw [hends] at hleft hwhole
  rw [hbegins] at hright hwhole
  refine ⟨before, after, hleft, hright, ?_⟩
  rw [hwhole]
  show before ++ [] ++ after = before ++ after
  rw [List.append_nil]

/-! ## Runs -/

def commands (run : List (Char × String)) : Text := run.flatMap fun p => p.2.toList

theorem escapeFrom_run {run : List (Char × String)} (h : ∀ p ∈ run, p ∈ mathTable)
    (pending : Text) :
    escapeFrom .ascii pending (run.map Prod.fst) = mathGroup (pending ++ commands run) := by
  -- all through the run nothing is written: its commands gather behind those held back before
  induction run generalizing pending with
  | nil =>
    rw [commands, List.flatMap_nil, List.append_nil]
    rfl
  | cons p run ih =>
    rw [List.forall_mem_cons] at h
    rw [List.map_cons, escapeFrom, spelling?_of_mathTable h.1]
    show escapeFrom .ascii (pending ++ p.2.toList) _ = _
    rw [ih h.2, commands, commands, List.flatMap_cons, List.append_assoc]

theorem escape_run {run : List (Char × String)} (hne : run ≠ []) (h : ∀ p ∈ run, p ∈ mathTable) :
    escape .ascii (run.map Prod.fst) = mathOpen ++ commands run ++ ['}'] := by
  obtain ⟨p, rest, rfl⟩ := List.exists_cons_of_ne_nil hne
  have hspelled := spelling?_of_mathTable (h p (List.mem_cons_self ..))
  have hcommand : p.2.toList ≠ [] := ne_nil_of_math hspelled rfl
  have hcommands : commands (p :: rest) ≠ [] := List.append_ne_nil_of_left_ne_nil hcommand _
  rw [escape, escapeFrom_run h, List.nil_append, mathGroup, List.isEmpty_eq_false_iff.2 hcommands]
  rfl

/-- Escaping two texts put together gives what it gives for each of them, one after the other. Only
if mathematics meets mathematics in ASCII mode, the brace that closes the last group of the one and
what opens the first group of the other are left out. So mathematical characters that stand between
others have one group, with their commands in order. -/
theorem escape_append (a b : Text) :
    (∀ mode, ¬(mode = .ascii ∧ endsInMath a = true ∧ beginsInMath b = true) →
      escape mode (a ++ b) = escape mode a ++ escape mode b) ∧
    (endsInMath a = true ∧ beginsInMath b = true →
      ∃ before after, escape .ascii a = before ++ ['}'] ∧ escape .ascii b = mathOpen ++ after ∧
        escape .ascii (a ++ b) = before ++ after) ∧
    ∀ run, run ≠ [] → (∀ p ∈ run, p ∈ mathTable) →
      endsInMath a = false → beginsInMath b = false →
      escape .ascii (a ++ run.map Prod.fst ++ b) =
        escape .ascii a ++ (mathOpen ++ commands run ++ ['}']) ++ escape .ascii b := by
  refine ⟨fun mode => escape_append_of_apart, fun h => exists_escape_append_of_meet h.1 h.2, ?_⟩
  intro run hne hrun ha hb
  have hbehind : escape .ascii (a ++ run.map Prod.fst ++ b) =
      escape .ascii (a ++ run.map Prod.fst) ++ escape .ascii b :=
    escape_append_of_apart (by simp [hb])
  have hbefore : escape .ascii (a ++ run.map Prod.fst) =
      escape .ascii a ++ escape .ascii (run.map Prod.fst) :=
    escape_append_of_apart (by simp [ha])
  rw [hbehind, hbefore, escape_run hne hrun]

/-- Greek letters cut off from what is behind them, cut in two, and between other letters. -/
theorem escape_append_greek :
    (¬(Mode.ascii = .ascii ∧ endsInMath "αβ" = true ∧ beginsInMath " decay" = true) ∧
      escape .ascii ("αβ".toList ++ " decay".toList) =
        escape .ascii "αβ" ++ escape .ascii " decay") ∧
    ((endsInMath "α" = true ∧ beginsInMath "β decay" = true) ∧
      ∃ before after, escape .ascii "α" = before ++ ['}'] ∧
        escape .ascii "β decay" = mathOpen ++ after ∧
        escape .ascii ("α".toList ++ "β decay".toList) = before ++ after) ∧
    ((∀ p ∈ [('α', r"\alpha"), ('β', r"\beta")], p ∈ mathTable) ∧
      endsInMath "the " = false ∧ beginsInMath " decay" = false ∧
      escape .ascii ("the ".toList ++ ['α', 'β'] ++ " decay".toList) =
        escape .ascii "the " ++ r"\ensuremath{\alpha\beta}".toList ++
          escape .ascii " decay") := by
  have hapart : ¬(Mode.ascii = .ascii ∧ endsInMath "αβ" = true ∧ beginsInMath " decay" = true) := by
    decide
  have hmeet : endsInMath "α" = true ∧ beginsInMath "β decay" = true := by decide
  have hrun : ∀ p ∈ [('α', r"\alpha"), ('β', r"\beta")], p ∈ mathTable := by
    simp [mathTable, greekLetters]
  have hgroup : mathOpen ++ commands [('α', r"\alpha"), ('β', r"\beta")] ++ ['}'] =
      r"\ensuremath{\alpha\beta}".toList := by decide
  have happly := (escape_append "the ".toList " decay".toList).2.2
    [('α', r"\alpha"), ('β', r"\beta")] (List.cons_ne_nil _ _) hrun (by decide) (by decide)
  rw [hgroup] at happly
  exact ⟨⟨hapart, (escape_append "αβ".toList " decay".toList).1 .ascii hapart⟩,
    ⟨hmeet, (escape_append "α".toList "β decay".toList).2.1 hmeet⟩,
    hrun, by decide, by decide, happly⟩

end Bibliography.Latex
