import Bibliography.Proofs.EntryTypes.Owners
import Bibliography.Proofs.Unicode.Lowercase
import Bibliography.Record.Json

/-! # Names that lead back

A name is kept as it is listed, but looked up in lower case. So it leads back to a kind, in whatever
case its ASCII letters are asked for, exactly if its lower case is listed somewhere; a name that is
listed with a capital letter and in no other way belongs to a kind that nobody finds.
-/

namespace Bibliography
set_option autoImplicit false

namespace TypeTable

/-- Asked for in any case of its ASCII letters, the name leads back to a kind. -/
def LeadsBack (t : TypeTable) (name : Text) : Prop :=
  ∀ asked : Text, asked.map Char.toLower = name.map Char.toLower →
    (t.source? asked).isSome = true

theorem Call.lists_of_takes {call : Call} {name : Text} (h : call.takes name = true) :
    call.lists name = true := by
  obtain ⟨l, hl, hboth⟩ := List.any_eq_true.1 h
  exact List.any_eq_true.2 ⟨l, hl, (Bool.and_eq_true_iff.1 hboth).2⟩

/-- A name belongs to somebody just if somebody lists it. -/
theorem owner?_isSome_iff {calls : List Call} {name : Text} :
    (owner? calls name).isSome = true ↔ ∃ call ∈ calls, call.lists name = true := by
  rw [owner?, Option.isSome_map, Option.isSome_or, Bool.or_eq_true, List.find?_isSome]
  refine or_iff_right_of_imp fun hlast => ?_
  obtain ⟨call, hcall⟩ := Option.isSome_iff_exists.1 hlast
  obtain ⟨hmem, htakes⟩ := List.mem_filter.1 (List.mem_of_getLast? hcall)
  exact ⟨call, hmem, Call.lists_of_takes htakes⟩

theorem source?_after_isSome_iff {calls : List Call} {asked : Text} :
    ((after calls).source? asked).isSome = true ↔
      ∃ call ∈ calls, call.lists (Unicode.lower asked) = true := by
  rw [source?, get?_sources_after, owner?_isSome_iff]

theorem leadsBack_after_iff {calls : List Call} {name : Text} :
    LeadsBack (after calls) name ↔ ∃ call ∈ calls, call.lists (Unicode.lower name) = true := by
  constructor
  · intro h
    exact source?_after_isSome_iff.1 (h name rfl)
  · intro h asked hasked
    rwa [source?_after_isSome_iff, Unicode.lower_eq_of_map_toLower hasked]

/-- Calls about a kind that list nothing leave it written as before. -/
theorem namesFor_of_forall {calls : List Call} {r : Record}
    (h : ∀ call ∈ calls, call.source = r.itemType → call = .insert r.itemType []) :
    namesFor calls r = [] := by
  refine List.filterMap_eq_nil_iff.2 fun call hcall => ?_
  split
  · next hkind =>
    rw [h call hcall hkind]
    rfl
  · rfl

theorem output_after_of_last {before later : List Call} {first : Text} {others : List Text}
    {r : Record} (hfirst : bareName first ≠ [])
    (hlater : ∀ call ∈ later, call.source = r.itemType → call = .insert r.itemType []) :
    (after (before ++ .insert r.itemType (first :: others) :: later)).output r =
      bareName first := by
  have hnames : namesFor (before ++ .insert r.itemType (first :: others) :: later) r =
      namesFor before r ++ [bareName first] := by
    rw [← List.singleton_append, ← List.append_assoc, namesFor, List.filterMap_append, ← namesFor,
      ← namesFor, namesFor_of_forall hlater, List.append_nil, namesFor_concat]
    simp [Call.source, Call.name?]
  have hkept : (bareName first).isEmpty = false := List.isEmpty_eq_false_iff.2 hfirst
  rw [output_eq, written?_after, hnames, List.getLast?_concat, Option.filter_some, hkept]
  rfl

/-- A name leads back exactly if its lower case is listed, and so does what a record is written as
whose kind was given names last. -/
theorem leadsBack_iff (calls : List Call) :
    (∀ name, LeadsBack (after calls) name ↔
      ∃ call ∈ calls, call.lists (Unicode.lower name) = true) ∧
      ∀ (r : Record) (before later : List Call) (first : Text) (others : List Text),
        calls = before ++ .insert r.itemType (first :: others) :: later →
        (∀ call ∈ later, call.source = r.itemType → call = .insert r.itemType []) →
        bareName first ≠ [] →
        (((after calls).source? ((after calls).output r)).isSome = true ↔
          ∃ call ∈ calls, call.lists (Unicode.lower (bareName first)) = true) := by
  refine ⟨fun name => leadsBack_after_iff, ?_⟩
  rintro r before later first others rfl hlater hfirst
  rw [output_after_of_last hfirst hlater, source?_after_isSome_iff]

/-- A book is written with capitals, last of all, and another kind lists its type without. -/
def capitalCalls : List Call := [
  .insert "book" ["Monograph", "book"],
  .insertRule "book" Record.title,
  .insert "book" [":BookLet"],
  .insert "book" [],
  .insert "manuscript" ["unpublished", "booklet"]]

theorem leadsBack_capitalCalls :
    bareName ":BookLet" ≠ [] ∧
      (((after capitalCalls).source? ((after capitalCalls).output
          { Record.blank with itemType := "book" })).isSome = true ↔
        ∃ call ∈ capitalCalls, call.lists (Unicode.lower (bareName ":BookLet")) = true) := by
  have hfirst : bareName ":BookLet" ≠ [] := by decide
  have hlater : ∀ call ∈ [.insert "book" [], Call.insert "manuscript" ["unpublished", "booklet"]],
      call.source = "book".toList → call = .insert "book" [] := by
    simp [Call.source]
  exact ⟨hfirst, (leadsBack_iff capitalCalls).2 { Record.blank with itemType := "book" }
    [.insert "book" ["Monograph", "book"], .insertRule "book" Record.title] _ ":BookLet" [] rfl
    hlater hfirst⟩

/-- A name that is listed with a capital letter only is found in no letter case. -/
theorem not_leadsBack_capital :
    ¬∀ calls : List Call, ∀ call ∈ calls, ∀ l ∈ call.listed, bareName l ≠ [] →
      LeadsBack (after calls) (bareName l) := by
  intro h
  have hback : LeadsBack (after [.insert "book" ["Book"]]) "Book" :=
    h [.insert "book" ["Book"]] _ (List.mem_singleton_self _) "Book" (List.mem_singleton_self _)
      (by decide)
  exact absurd (hback "Book" rfl) (by decide)

end TypeTable
end Bibliography
