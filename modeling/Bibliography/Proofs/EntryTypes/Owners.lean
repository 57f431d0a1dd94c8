import Bibliography.EntryType
import Mathlib.Data.List.Induction

/-! # Whose an entry type is

A table is filled by calls, each of which lists names under a kind of item or gives the kind a rule.
Whatever calls there were, a name belongs to the last kind that took it over, or else to the first
that listed it; and a record is written as the last call says that says anything about its kind.
`source?_output_after` is about both directions at once.
-/

namespace Bibliography
set_option autoImplicit false

namespace TypeTable

/-- A call that fills a table. -/
inductive Call
  /-- Lists entry types under a kind of item. -/
  | insert (source : Text) (listed : List Text)
  /-- Gives a kind of item a rule. -/
  | insertRule (source : Text) (choose : Record → Text)

namespace Call

/-- The kind of item a call is about. -/
def source : Call → Text
  | insert source _ => source
  | insertRule source _ => source

/-- What a call lists, colons and all. -/
def listed : Call → List Text
  | insert _ listed => listed
  | insertRule _ _ => []

/-- The call lists the name, with or without colons in front. -/
def lists (name : Text) (call : Call) : Bool := call.listed.any fun l => bareName l == name

/-- The call lists the name with a colon in front. -/
def takes (name : Text) (call : Call) : Bool :=
  call.listed.any fun l => takesOver l && bareName l == name

/-- What the call has a record of its kind written as: the first name it lists, or what its rule
chooses. -/
def name? (r : Record) : Call → Option Text
  | insert _ listed => listed.head?.map bareName
  | insertRule _ choose => some (choose r)

/-- The table after a call. -/
def perform (t : TypeTable) : Call → TypeTable
  | insert source listed => t.insert source listed
  | insertRule source choose => t.insertRule source choose

end Call

/-- The table that calls fill, made one after the other. -/
def after (calls : List Call) : TypeTable := calls.foldl Call.perform empty

/-- The kind a name belongs to: the last that took it over, or else the first that listed it. -/
def owner? (calls : List Call) (name : Text) : Option Text :=
  ((calls.filter (Call.takes name)).getLast?.or (calls.find? (Call.lists name))).map Call.source

/-- What calls about the kind of a record have it written as, in order. -/
def namesFor (calls : List Call) (r : Record) : List Text :=
  calls.filterMap fun call => if call.source = r.itemType then call.name? r else none

theorem after_concat (calls : List Call) (call : Call) :
    after (calls ++ [call]) = call.perform (after calls) := by
  rw [after, List.foldl_append]
  rfl

/-! ## From names to kinds -/

section
variable {t : TypeTable} {source name : Text} {listed : List Text}

theorem get?_sources_insertName (l : Text) :
    (insertName source t l).sources.get? name =
      if bareName l = name then
        if takesOver l then some source else (t.sources.get? name).or (some source)
      else t.sources.get? name := by
  have hput : (t.sources.put (bareName l) source).get? name =
      if bareName l = name then some source else t.sources.get? name := by
    rw [Dict.get?_put]
    exact if_congr eq_comm rfl rfl
  by_cases hname : bareName l = name
  · subst hname
    unfold insertName
    dsimp only
    cases htakes : takesOver l with
    | true => simp [hput]
    | false =>
      cases hold : t.sources.get? (bareName l) with
      | none => simp [Dict.has, hold, hput]
      | some old => simp [Dict.has, hold]
  · unfold insertName
    dsimp only
    rw [if_neg hname]
    split
    · rw [hput, if_neg hname]
    · rfl

/-- A name goes to the source that takes it over, and to one that lists it if nobody has it. -/
theorem get?_sources_foldl_insertName :
    (listed.foldl (insertName source) t).sources.get? name =
      if (Call.insert source listed).takes name then some source
      else (t.sources.get? name).or
        (if (Call.insert source listed).lists name then some source else none) := by
  simp only [Call.takes, Call.lists, Call.listed]
  -- over the names of the call, for any table: an earlier one may have taken the name already
  induction listed generalizing t with
  | nil => simp
  | cons l listed ih =>
    rw [List.foldl_cons, ih, get?_sources_insertName]
    by_cases hname : bareName l = name
    · cases htakes : takesOver l with
      | true => simp [hname, htakes]
      | false => simp [hname, htakes]
    · simp [hname]

theorem sources_insert :
    (t.insert source listed).sources = (listed.foldl (insertName source) t).sources := by
  cases listed <;> rfl

end

/-- What one call does to the owner of a name. -/
theorem get?_sources_perform (t : TypeTable) (call : Call) (name : Text) :
    (call.perform t).sources.get? name =
      if call.takes name then some call.source
      else (t.sources.get? name).or (if call.lists name then some call.source else none) := by
  cases call with
  | insert source listed =>
    rw [Call.perform, sources_insert, get?_sources_foldl_insertName]
    rfl
  | insertRule source choose => simp [Call.perform, insertRule, Call.takes, Call.lists, Call.listed]

theorem owner?_concat (calls : List Call) (call : Call) (name : Text) :
    owner? (calls ++ [call]) name =
      if call.takes name then some call.source
      else (owner? calls name).or (if call.lists name then some call.source else none) := by
  unfold owner?
  rw [List.filter_append, List.find?_append]
  cases htakes : call.takes name with
  | true => simp [htakes]
  | false =>
    cases hlists : call.lists name with
    | true => simp [htakes, hlists]
    | false => simp [htakes, hlists]

theorem get?_sources_after (calls : List Call) (name : Text) :
    (after calls).sources.get? name = owner? calls name := by
  induction calls using List.reverseRecOn with
  | nil => rfl
  | append_singleton calls call ih => rw [after_concat, get?_sources_perform, ih, owner?_concat]

/-! ## From kinds to names -/

theorem outputs_foldl_insertName (source : Text) (t : TypeTable) (listed : List Text) :
    (listed.foldl (insertName source) t).outputs = t.outputs := by
  induction listed generalizing t with
  | nil => rfl
  | cons name listed ih =>
    have hstep : (insertName source t name).outputs = t.outputs := by
      unfold insertName
      dsimp only
      split
      · rfl
      · rfl
    rw [List.foldl_cons, ih, hstep]

theorem outputs_insert_cons (t : TypeTable) (source first : Text) (others : List Text) :
    (t.insert source (first :: others)).outputs =
      t.outputs.put source (.literal (bareName first)) := by
  have houtputs := outputs_foldl_insertName source t (first :: others)
  simp only [insert, houtputs]

/-- What an entry type writes a record as. -/
def nameOf (r : Record) : EntryType → Text
  | .literal name => name
  | .rule choose => choose r

/-- What the table has a record written as, if it knows its kind. -/
def written? (t : TypeTable) (r : Record) : Option Text :=
  (t.outputs.get? r.itemType).map (nameOf r)

theorem output_eq (t : TypeTable) (r : Record) :
    t.output r = ((t.written? r).filter fun name => !name.isEmpty).getD fallback := by
  have hchosen : ∀ chosen : Text, (if chosen.isEmpty then fallback else chosen) =
      ((some chosen).filter fun name => !name.isEmpty).getD fallback := by
    intro chosen
    cases chosen <;> rfl
  unfold output written?
  cases t.outputs.get? r.itemType with
  | none => rfl
  | some e => cases e <;> exact hchosen _

/-- What one call does to what a record is written as. -/
theorem written?_perform (t : TypeTable) (call : Call) (r : Record) :
    (call.perform t).written? r =
      (if call.source = r.itemType then call.name? r else none).or (t.written? r) := by
  have hput : ∀ (source : Text) (e : EntryType),
      ((t.outputs.put source e).get? r.itemType).map (nameOf r) =
        (if source = r.itemType then some (nameOf r e) else none).or (t.written? r) := by
    intro source e
    rw [Dict.get?_put]
    by_cases hkind : source = r.itemType
    · simp [hkind]
    · simp [hkind, Ne.symm hkind, written?]
  cases call with
  | insert source listed =>
    cases listed with
    | nil => simp [Call.perform, Call.name?, insert]
    | cons first others =>
      rw [Call.perform, written?, outputs_insert_cons, hput]
      rfl
  | insertRule source choose => exact hput source (.rule choose)

theorem namesFor_concat (calls : List Call) (call : Call) (r : Record) :
    namesFor (calls ++ [call]) r =
      namesFor calls r ++ (if call.source = r.itemType then call.name? r else none).toList := by
  rw [namesFor, List.filterMap_append, ← namesFor, List.filterMap_cons]
  cases (if call.source = r.itemType then call.name? r else none) <;> rfl

theorem written?_after (calls : List Call) (r : Record) :
    (after calls).written? r = (namesFor calls r).getLast? := by
  induction calls using List.reverseRecOn with
  | nil => rfl
  | append_singleton calls call ih =>
    rw [after_concat, written?_perform, ih, namesFor_concat, List.getLast?_append]
    cases (if call.source = r.itemType then call.name? r else none) <;> rfl

/-- A name in lower case is looked up as whoever took it over last, or else whoever listed it first,
and as nobody if nobody did. A record is written as the last call about its kind says that lists a
name or gives a rule, and as `misc` if there is none or it says nothing. -/
theorem source?_output_after (calls : List Call) :
    (∀ name, Unicode.lower name = name → (after calls).source? name =
      ((calls.filter (Call.takes name)).getLast?.or
        (calls.find? (Call.lists name))).map Call.source) ∧
      ∀ r, (after calls).output r =
        ((namesFor calls r).getLast?.filter fun name => !name.isEmpty).getD "misc".toList := by
  constructor
  · intro name hname
    rw [source?, hname, get?_sources_after, owner?]
  · intro r
    rw [output_eq, written?_after]
    rfl

/-- Conference papers list a type, presentations take it over, conference papers take it back, and
reports come too late. -/
def conferenceCalls : List Call := [
  .insert "conferencePaper" ["inproceedings", "conference"],
  .insert "presentation" ["::inproceedings", "misc", "inproceedings"],
  .insertRule "presentation" Record.title,
  .insert "conferencePaper" [":inproceedings"],
  .insert "presentation" [],
  .insert "report" ["inproceedings", "conference"]]

theorem source?_output_conferenceCalls :
    Unicode.lower "inproceedings" = "inproceedings" ∧
      (after conferenceCalls).source? "inproceedings" =
        ((conferenceCalls.filter (Call.takes "inproceedings")).getLast?.or
          (conferenceCalls.find? (Call.lists "inproceedings"))).map Call.source ∧
      (after conferenceCalls).source? "inproceedings" = some "conferencePaper".toList := by
  have hlower : Unicode.lower "inproceedings" = "inproceedings" := by decide
  exact ⟨hlower, (source?_output_after conferenceCalls).1 _ hlower, by decide⟩

end TypeTable
end Bibliography
