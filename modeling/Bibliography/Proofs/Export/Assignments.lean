import Bibliography.Proofs.CiteKey.Directives
import Bibliography.Proofs.CiteKey.Safe
import Bibliography.Proofs.Export.Writes
import Bibliography.Proofs.Text.Pieces

/-! # Assignments in an extra field

A data directive that is spelled out, name by name and value by value, is read as the assignments it
was spelled from. They are written one after the other, and then what stands around the directive.
-/

namespace Bibliography.Export
set_option autoImplicit false
open Text CiteKey

/-! ## Spelling -/

/-- The name of the directive. -/
def dataName : Text := "biblatexdata"

/-- A name and a value with an equals sign between them. -/
def assignment (p : Text × Text) : Text := p.1 ++ "=" ++ p.2

/-- A directive with semicolons between its assignments. -/
def dataDirective (pairs : List (Text × Text)) : Text :=
  dataName ++ "[" ++ joinWith ";" (pairs.map assignment) ++ "]"

/-- A name that is not blank, and a value, without the characters that would end them. -/
structure Assignable (p : Text × Text) : Prop where
  named : ∃ c ∈ p.1, Unicode.isBlank c = false
  undivided : '=' ∉ p.1
  name : ';' ∉ p.1 ∧ ']' ∉ p.1
  value : ';' ∉ p.2 ∧ ']' ∉ p.2

/-! ## Reading -/

theorem dataDirective?_eq_some_iff {extra : Text} {p : Pin} :
    EntryDraft.dataDirective? extra = some p ↔
      ∃ source, FirstMatch (Bracketed dataName) extra p.before source p.key p.after :=
  locate_eq_some_iff (recognizes_bracketed? dataName)

section
variable {p : Text × Text} (h : Assignable p)
include h

/-- The value begins behind the first equals sign; there may be others in it. -/
theorem assignment?_assignment :
    EntryDraft.assignment? (assignment p) = some (trim p.1, trim p.2) := by
  obtain ⟨c, hc, hblank⟩ := h.named
  have hname : (trim p.1).isEmpty = false :=
    List.isEmpty_eq_false_iff.2 (List.ne_nil_of_mem (mem_trim hc hblank))
  have htext : assignment p = p.1 ++ '=' :: p.2 := List.append_assoc p.1 ['='] p.2
  rw [htext, EntryDraft.assignment?, takeWhile_of_notMem h.undivided,
    dropWhile_of_notMem h.undivided]
  dsimp only
  rw [hname, if_neg Bool.false_ne_true]

theorem semicolon_notMem_assignment : ';' ∉ assignment p := by
  simp [assignment, h.name.1, h.value.1]

theorem bracket_notMem_assignment : ']' ∉ assignment p := by
  simp [assignment, h.name.2, h.value.2]

end

theorem joinWith_assignment_ne_nil {pairs : List (Text × Text)} (hne : pairs ≠ []) :
    joinWith ";" (pairs.map assignment) ≠ [] := by
  obtain ⟨p, pairs, rfl⟩ := List.exists_cons_of_ne_nil hne
  have hfirst : assignment p ≠ [] := by simp [assignment]
  cases pairs with
  | nil => exact hfirst
  | cons q pairs =>
    have hseparated : assignment p ++ [';'] ≠ [] := by simp
    exact List.append_ne_nil_of_left_ne_nil hseparated _

section
variable {pairs : List (Text × Text)} (h : ∀ p ∈ pairs, Assignable p)
include h

/-- What was joined with semicolons is cut at them, and each piece is an assignment. -/
theorem assignments_joinWith (hne : pairs ≠ []) :
    EntryDraft.assignments (joinWith ";" (pairs.map assignment)) =
      pairs.map fun p => (trim p.1, trim p.2) := by
  have hpieces : splitOn ';' (joinWith ";" (pairs.map assignment)) = pairs.map assignment := by
    refine splitOn_joinWith (by simpa using hne) ?_
    intro t ht
    obtain ⟨p, hp, rfl⟩ := List.mem_map.1 ht
    exact semicolon_notMem_assignment (h p hp)
  have hread : ∀ p ∈ pairs,
      (EntryDraft.assignment? ∘ assignment) p = some (trim p.1, trim p.2) := fun p hp =>
    assignment?_assignment (h p hp)
  rw [EntryDraft.assignments, hpieces, List.filterMap_map, List.filterMap_congr hread,
    List.filterMap_eq_map']

theorem bracket_notMem_joinWith : ']' ∉ joinWith ";" (pairs.map assignment) := by
  intro hmem
  rcases mem_of_mem_joinWith hmem with hseparator | ⟨t, ht, hc⟩
  · exact absurd hseparator (by decide)
  · obtain ⟨p, hp, rfl⟩ := List.mem_map.1 ht
    exact bracket_notMem_assignment (h p hp) hc

/-- A directive that is spelled out is the first one if its name does not stand before a bracket
further to the left. -/
theorem dataDirective?_dataDirective (hne : pairs ≠ []) {before : Text}
    (hbefore : ¬dataName ++ ['['] <:+: before) (after : Text) :
    EntryDraft.dataDirective? (before ++ dataDirective pairs ++ after) =
      some ⟨before, joinWith ";" (pairs.map assignment), after⟩ :=
  dataDirective?_eq_some_iff.2 ⟨dataDirective pairs, firstMatch_bracketed (by decide) hbefore
    (joinWith_assignment_ne_nil hne) (bracket_notMem_joinWith h) after⟩

end

/-! ## Writing -/

/-- Writing an extra field with a directive is writing its assignments in order, and then the text
around it. -/
theorem extra_dataDirective (config : Config) (name : Text) {pairs : List (Text × Text)}
    (hne : pairs ≠ []) (h : ∀ p ∈ pairs, Assignable p) (before after : Text)
    (hbefore : ¬"biblatexdata[".toList <:+: before) (w : EntryDraft) :
    w.extra config name (before ++ dataDirective pairs ++ after) =
      (pairs.foldl (fun w p => w.plain config (trim p.1) (trim p.2)) w).plain config name
        (trim (before ++ after)) := by
  rw [EntryDraft.extra, dataDirective?_dataDirective h hne hbefore after]
  dsimp only
  rw [assignments_joinWith h hne, List.foldl_map]
  rfl

/-- An assignment with blanks and a second equals sign, and one of nothing. -/
def eprintPairs : List (Text × Text) := [(" eprint ", " a=b "), ("x", "")]

theorem extra_eprintPairs :
    dataDirective eprintPairs = "biblatexdata[ eprint = a=b ;x=]".toList ∧
      EntryDraft.empty.extra .standard "note"
          ("biblatexdata [" ++ dataDirective eprintPairs ++ " biblatexdata[y=1]") =
        ((EntryDraft.empty.plain .standard "eprint" "a=b").plain .standard "x" "").plain .standard
          "note" "biblatexdata [ biblatexdata[y=1]" := by
  have hpairs : ∀ p ∈ eprintPairs, Assignable p := by
    refine List.forall_mem_cons.2 ⟨⟨⟨'e', ?_⟩, ?_, ?_, ?_⟩,
      List.forall_mem_singleton.2 ⟨⟨'x', ?_⟩, ?_, ?_, ?_⟩⟩
    all_goals decide
  have hbefore : ¬"biblatexdata[".toList <:+: "biblatexdata [".toList :=
    occursIn_eq_true_iff.not.1 (by decide)
  have htrimmed : eprintPairs.map (fun p => (trim p.1, trim p.2)) =
      [("eprint".toList, "a=b".toList), ("x".toList, [])] := by decide
  have hrest : trim ("biblatexdata [" ++ " biblatexdata[y=1]") =
      "biblatexdata [ biblatexdata[y=1]".toList := by decide
  have hwritten : eprintPairs.foldl (fun w p => w.plain .standard (trim p.1) (trim p.2)) .empty =
      (eprintPairs.map fun p => (trim p.1, trim p.2)).foldl (fun w p => w.plain .standard p.1 p.2)
        EntryDraft.empty := by rw [List.foldl_map]
  have hne : eprintPairs ≠ [] := List.cons_ne_nil _ _
  have hextra := extra_dataDirective .standard "note" hne hpairs
    "biblatexdata [" " biblatexdata[y=1]" hbefore .empty
  rw [hrest, hwritten, htrimmed] at hextra
  exact ⟨by decide, hextra⟩

end Bibliography.Export
