import Bibliography.Proofs.Export.Structure
import Bibliography.Proofs.Export.Fragments
import Mathlib.Data.Finset.Card

/-! # Drafts under any operations

A draft is asked to write fields, links, mapped fields and so on, in any order and any number.
`madeBy` lists the writes that operations come to, without a draft: only whether something is
written already matters to them, for the type of an entry without fields. `perform_eq` and
`performAll_eq` say that carrying out operations is carrying out these writes, and
`performAll_ledger` reads off what the draft then holds, counts and has noted.
-/

namespace Bibliography.Export
set_option autoImplicit false
open Text FieldWrite

/-- A fragment as it reads. -/
def Fragment.text (f : Fragment) : Text :=
  ",\n  " ++ f.name ++ " = " ++ if f.bare then f.value else r"{" ++ f.value ++ r"}"

theorem Fragment.flatten_pieces (f : Fragment) : f.pieces.flatten = f.text := by
  obtain ⟨name, value, bare⟩ := f
  cases bare with
  | true =>
    show ",\n  ".toList ++ (name ++ (" = ".toList ++ (value ++ []))) =
      ",\n  ".toList ++ name ++ " = ".toList ++ value
    simp only [List.append_assoc, List.append_nil]
  | false =>
    show ",\n  ".toList ++ (name ++ (r" = {".toList ++ (value ++ (r"}".toList ++ [])))) =
      ",\n  ".toList ++ name ++ " = ".toList ++ (r"{".toList ++ value ++ r"}".toList)
    simp only [List.append_assoc, List.append_nil]
    rfl

theorem Fragment.flatten_flatMap_pieces (fs : List Fragment) :
    (fs.flatMap pieces).flatten = fs.flatMap text := by
  induction fs with
  | nil => rfl
  | cons f fs ih =>
    rw [List.flatMap_cons, List.flatten_append, flatten_pieces, ih, List.flatMap_cons]

/-- A fragment has the name of a field that is written, and a value. -/
theorem Fragment.of_ofField? {config : Config} {name : Text} {value : Option Text} {bare : Bool}
    {f : Fragment} (h : Fragment.ofField? config name value bare = some f) :
    f.name ∉ config.skipFields ∧ f.value ≠ [] := by
  obtain ⟨s, hs, rfl⟩ := Option.map_eq_some_iff.1 h
  have hkept := (Option.filter_eq_some_iff.1 hs).2
  rw [Bool.not_eq_true', Bool.or_eq_false_iff] at hkept
  obtain ⟨hskips, hempty⟩ := hkept
  refine ⟨fun hmem => ?_, fun hnil => ?_⟩
  · rw [Config.skips, List.contains_iff_mem.2 hmem] at hskips
    cases hskips
  · rw [List.isEmpty_iff.2 hnil] at hempty
    cases hempty

namespace EntryDraft

/-! ## Names -/

theorem nodup_names_add {w : EntryDraft} (h : w.names.Nodup) (f : Fragment) :
    (w.add f).names.Nodup := by
  unfold add
  dsimp only
  split
  · exact h
  · next hnew =>
    have hnotMem : f.name ∉ w.names := fun hmem => hnew (List.contains_iff_mem.2 hmem)
    exact List.nodup_append.2 ⟨h, List.nodup_singleton _, fun a ha b hb hab =>
      hnotMem (List.mem_singleton.1 hb ▸ hab ▸ ha)⟩

theorem nodup_names_apply {w : EntryDraft} (h : w.names.Nodup) (config : Config) (x : FieldWrite) :
    (x.apply config w).names.Nodup := by
  have happly : x.apply config w = (x.fragment? config).elim w w.add := field_eq ..
  rw [happly]
  cases x.fragment? config with
  | none => exact h
  | some f => exact nodup_names_add h f

theorem nodup_names_applyAll {w : EntryDraft} (h : w.names.Nodup) (config : Config)
    (xs : List FieldWrite) : (applyAll config xs w).names.Nodup := by
  induction xs generalizing w with
  | nil => exact h
  | cons x xs ih => exact ih (nodup_names_apply h config x)

/-- A draft counts the distinct names of its fragments. -/
theorem Holds.fieldCount_eq {w : EntryDraft} {fs : List Fragment} (h : w.Holds fs)
    (hnodup : w.names.Nodup) : w.fieldCount = (fs.map Fragment.name).toFinset.card := by
  have hsame : w.names.toFinset = (fs.map Fragment.name).toFinset := by
    ext name
    rw [List.mem_toFinset, List.mem_toFinset, h.names]
  rw [fieldCount, ← List.toFinset_card_of_nodup hnodup, hsame]

/-! ## Operations -/

/-- What a draft is asked to do. -/
inductive Operation
  | field (name : Text) (value : Option Text) (bare : Bool)
  | escaped (name : Text) (value : FieldValue) (style : EscapeStyle)
  | link (name url : Text)
  | verbatim (name value : Text)
  | extra (name value : Text)
  | fields (table : FieldTable) (r : Record)
  | flush (entryType : Text)

namespace Operation

/-- The draft after an operation. -/
def perform (config : Config) (w : EntryDraft) : Operation → EntryDraft
  | field name value bare => w.field config name value bare
  | escaped name value style => w.escaped config name value style
  | link name url => w.link config name url
  | verbatim name value => w.verbatim config name value
  | extra name value => w.extra config name value
  | fields table r => w.fields config table r
  | flush entryType => w.flush config entryType

/-- The writes of an operation, where nothing, or something, is written before it. -/
def writes (nothing : Bool) : Operation → List FieldWrite
  | field name value bare => (value.map fun s => ⟨name, .latex s bare⟩).toList
  | escaped name value style => [⟨name, .value value style⟩]
  | link name url => [⟨name, .link url⟩]
  | verbatim name value => [⟨name, .verbatim value⟩]
  | extra name value => extraWrites name value
  | fields table r => table.filterMap (ruleWrite? r)
  | flush entryType => if nothing then [FieldWrite.plain "type" entryType] else []

/-- An operation carries out its writes. -/
theorem perform_eq (config : Config) (w : EntryDraft) (op : Operation) :
    op.perform config w = applyAll config (op.writes w.names.isEmpty) w := by
  cases op with
  | field name value bare =>
    cases value with
    | none => rfl
    | some s => rfl
  | escaped name value style => rfl
  | link name url => exact link_eq_apply config w name url
  | verbatim name value => exact verbatim_eq_apply config w name value
  | extra name value => exact extra_eq config w name value
  | fields table r => exact fields_eq config r w table
  | flush entryType =>
    unfold perform EntryDraft.flush writes
    cases w.names.isEmpty with
    | true => rfl
    | false => rfl

end Operation

/-- The draft after operations carried out one after the other, with nothing written before. -/
def performAll (config : Config) (ops : List Operation) : EntryDraft :=
  ops.foldl (Operation.perform config) empty

/-- The fragments that writes come to. -/
def fragmentsOf (config : Config) (xs : List FieldWrite) : List Fragment :=
  xs.filterMap (FieldWrite.fragment? config)

/-- The writes of operations, in order. -/
def madeBy (config : Config) (ops : List Operation) : List FieldWrite :=
  ops.foldl (fun xs op => xs ++ op.writes (fragmentsOf config xs).isEmpty) []

theorem holds_applyAll (config : Config) (xs : List FieldWrite) :
    (applyAll config xs empty).Holds (fragmentsOf config xs) :=
  holds_empty.applyAll xs

/-- Carrying out operations is carrying out their writes. -/
theorem performAll_eq (config : Config) (ops : List Operation) :
    performAll config ops = applyAll config (madeBy config ops) empty := by
  -- the operations before the last one decide whether it finds an empty draft
  induction ops using List.reverseRecOn with
  | nil => rfl
  | append_singleton ops op ih =>
    have hdraft : performAll config (ops ++ [op]) = op.perform config (performAll config ops) :=
      List.foldl_concat _ _ _ _
    have hmade : madeBy config (ops ++ [op]) = madeBy config ops ++
        op.writes (fragmentsOf config (madeBy config ops)).isEmpty :=
      List.foldl_concat _ _ _ _
    rw [hdraft, hmade, ih, Operation.perform_eq, applyAll_append,
      (holds_applyAll config (madeBy config ops)).isEmpty_names]

/-- After any operations, a sink that never fails has taken in the fragments of their writes, one
after the other, and nothing else. No fragment is of a skipped field or has an empty value; the
draft counts the distinct names, and has noted the name of each fragment whose name another one
before it has. -/
theorem performAll_ledger (config : Config) (ops : List Operation) :
    (Sink.new .unlimited).writeAll (performAll config ops).pieces =
        (⟨(fragmentsOf config (madeBy config ops)).flatMap Fragment.text, .unlimited⟩, true) ∧
      (∀ f ∈ fragmentsOf config (madeBy config ops),
        f.name ∉ config.skipFields ∧ f.value ≠ []) ∧
      (performAll config ops).fieldCount =
        ((fragmentsOf config (madeBy config ops)).map Fragment.name).toFinset.card ∧
      (performAll config ops).repeated =
        (repeats Fragment.name (fragmentsOf config (madeBy config ops))).map Fragment.name := by
  have holds : (performAll config ops).Holds (fragmentsOf config (madeBy config ops)) :=
    performAll_eq config ops ▸ holds_applyAll config _
  have hnodup : (performAll config ops).names.Nodup :=
    performAll_eq config ops ▸ nodup_names_applyAll List.nodup_nil config _
  refine ⟨?taken, ?kept, holds.fieldCount_eq hnodup, holds.repeated⟩
  case taken =>
    rw [Sink.new, writeAll_unlimited, holds.pieces, Fragment.flatten_flatMap_pieces]
    rfl
  case kept =>
    intro f hf
    obtain ⟨x, _, hx⟩ := List.mem_filterMap.1 hf
    exact Fragment.of_ofField? hx

example : (performAll .standard
    [.field "note" (some "one") false, .flush "misc", .field "note" (some "two") true]).repeated =
      ["note".toList] := by decide

end EntryDraft
end Bibliography.Export
