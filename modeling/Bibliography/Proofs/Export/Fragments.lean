import Bibliography.Proofs.Export.Writes
import Bibliography.Proofs.Repeats

/-! # The fields of an entry as they are written

An entry is a header, fragments of a name and a value each, and an ending. `Entry.fragments` reads
the fragments back from the pieces of an entry; a draft holds, at every moment, the fragments of the
writes carried out so far (`EntryDraft.Holds`), and has noted those whose name came before.
-/

namespace Bibliography.Export
set_option autoImplicit false
open Text

/-! ## Fragments -/

/-- A field as it is written. -/
structure Fragment where
  name : Text
  value : Text
  /-- The value stands without braces. -/
  bare : Bool
deriving DecidableEq, Repr

namespace Fragment

/-- The pieces of text of a fragment. -/
def pieces (f : Fragment) : List Text := EntryDraft.fragment f.name f.value f.bare

/-- The fragments at the beginning of some pieces. Behind a bare value there is no brace to take
off. -/
def readAll : List Text → List Fragment
  | _ :: name :: sign :: value :: rest =>
    if sign == " = ".toList then ⟨name, value, true⟩ :: readAll rest
    else
      match rest with
      | [] => []
      | _ :: rest => ⟨name, value, false⟩ :: readAll rest
  | _ => []

theorem readAll_pieces (f : Fragment) (rest : List Text) :
    readAll (f.pieces ++ rest) = f :: readAll rest := by
  obtain ⟨name, value, bare⟩ := f
  cases bare with
  | true =>
    rw [readAll.eq_def]
    simp [pieces, EntryDraft.fragment]
  | false => simp [pieces, EntryDraft.fragment, readAll]

/-- Reading gives back the fragments that were written, up to a last piece. -/
theorem readAll_flatMap_pieces (fs : List Fragment) (last : Text) :
    readAll (fs.flatMap pieces ++ [last]) = fs := by
  induction fs with
  | nil => rfl
  | cons f fs ih => rw [List.flatMap_cons, List.append_assoc, readAll_pieces, ih]

/-- The fragment a field comes to: none if the field is skipped or there is nothing in it. -/
def ofField? (config : Config) (name : Text) (value : Option Text) (bare : Bool) :
    Option Fragment :=
  (value.filter fun s => !(config.skips name || s.isEmpty)).map fun s => ⟨name, s, bare⟩

end Fragment

/-! ## Drafts -/

namespace EntryDraft

/-- The draft with one more fragment. -/
def add (w : EntryDraft) (f : Fragment) : EntryDraft where
  pieces := w.pieces ++ f.pieces
  names := if w.names.contains f.name then w.names else w.names ++ [f.name]
  repeated := if w.names.contains f.name then w.repeated ++ [f.name] else w.repeated

/-- Writing a field adds its fragment, if it comes to one. -/
theorem field_eq (config : Config) (name : Text) (value : Option Text) (bare : Bool)
    (w : EntryDraft) :
    w.field config name value bare = (Fragment.ofField? config name value bare).elim w w.add := by
  unfold field Fragment.ofField?
  cases value with
  | none => rfl
  | some s =>
    rw [Option.filter_some]
    cases hskipped : config.skips name || s.isEmpty with
    | true => simp [hskipped]
    | false =>
      simp only [hskipped]
      rfl

/-- The draft consists of the given fragments; it knows their names, and which of them came
again. -/
structure Holds (w : EntryDraft) (fs : List Fragment) : Prop where
  pieces : w.pieces = fs.flatMap Fragment.pieces
  names : ∀ name, name ∈ w.names ↔ name ∈ fs.map Fragment.name
  repeated : w.repeated = (repeats Fragment.name fs).map Fragment.name

variable {config : Config} {w : EntryDraft} {fs : List Fragment}

theorem holds_empty : empty.Holds [] := ⟨rfl, fun _ => Iff.rfl, rfl⟩

theorem Holds.isEmpty_names (h : w.Holds fs) : w.names.isEmpty = fs.isEmpty := by
  rw [Bool.eq_iff_iff, List.isEmpty_iff, List.isEmpty_iff,
    ← List.map_eq_nil_iff (f := Fragment.name), List.eq_nil_iff_forall_not_mem,
    List.eq_nil_iff_forall_not_mem]
  simp only [h.names]

theorem Holds.add (h : w.Holds fs) (f : Fragment) : (w.add f).Holds (fs ++ [f]) := by
  have hseen : w.names.contains f.name = (fs.map Fragment.name).contains f.name := by
    rw [Bool.eq_iff_iff, List.contains_iff_mem, List.contains_iff_mem, h.names]
  refine ⟨?pieces, ?names, ?repeated⟩
  case pieces => simp [EntryDraft.add, h.pieces]
  case names =>
    intro name
    rw [EntryDraft.add, List.map_append, List.mem_append, ← h.names]
    dsimp only
    split
    · next hmem =>
      refine (or_iff_left_of_imp fun hname => ?_).symm
      rw [List.mem_singleton.1 hname]
      exact List.contains_iff_mem.1 hmem
    · exact List.mem_append
  case repeated =>
    rw [EntryDraft.add, repeats_concat, List.map_append, ← h.repeated, hseen]
    dsimp only
    split
    · rfl
    · exact (List.append_nil _).symm

theorem Holds.field (h : w.Holds fs) (name : Text) (value : Option Text) (bare : Bool) :
    (w.field config name value bare).Holds
      (fs ++ (Fragment.ofField? config name value bare).toList) := by
  rw [field_eq]
  cases Fragment.ofField? config name value bare with
  | none => exact (List.append_nil fs).symm ▸ h
  | some f => exact h.add f

end EntryDraft

/-! ## Writes -/

/-- The fragment a write comes to, if any. -/
def FieldWrite.fragment? (config : Config) (x : FieldWrite) : Option Fragment :=
  Fragment.ofField? config x.name (x.content.latex? config) x.content.bare

theorem EntryDraft.Holds.applyAll {config : Config} {w : EntryDraft} {fs : List Fragment}
    (h : w.Holds fs) (xs : List FieldWrite) :
    (FieldWrite.applyAll config xs w).Holds
      (fs ++ xs.filterMap (FieldWrite.fragment? config)) := by
  induction xs generalizing w fs with
  | nil => exact (List.append_nil fs).symm ▸ h
  | cons x xs ih =>
    have hstep : (x.apply config w).Holds (fs ++ (x.fragment? config).toList) :=
      h.field x.name (x.content.latex? config) x.content.bare
    have hrest := ih hstep
    rw [FieldWrite.applyAll_cons, List.filterMap_cons]
    cases hx : x.fragment? config with
    | none =>
      rw [hx, Option.toList_none, List.append_nil] at hrest
      exact hrest
    | some f =>
      rw [hx, Option.toList_some, List.append_assoc] at hrest
      exact hrest

/-! ## Entries -/

/-- The fragments of a record's fields. -/
def recordFragments (config : Config) (map : FieldTable) (r : Record) : List Fragment :=
  (writes config map r).filterMap (FieldWrite.fragment? config)

/-- The fragments of a record's entry: if none of its fields is written, its type is, unless that is
skipped. -/
def entryFragments (config : Config) (map : FieldTable) (entryType : Text) (r : Record) :
    List Fragment :=
  let fs := recordFragments config map r
  if fs.isEmpty then ((FieldWrite.plain "type" entryType).fragment? config).toList else fs

namespace Entry

/-- The fragments of an entry, read back from its pieces behind the four of its header. -/
def fragments (x : Entry) : List Fragment := Fragment.readAll (x.pieces.drop 4)

/-- The entry consists of a header with its type and its key, of the given fragments, and of an
ending, and it has noted the names that came again. -/
structure Holds (x : Entry) (entryType : Text) (fs : List Fragment) : Prop where
  pieces : x.pieces = [['@'], entryType, ['{'], x.key] ++ fs.flatMap Fragment.pieces ++
    [['\n', '}', '\n', '\n']]
  repeated : x.repeated = (repeats Fragment.name fs).map Fragment.name

theorem Holds.fragments {x : Entry} {entryType : Text} {fs : List Fragment}
    (h : x.Holds entryType fs) : x.fragments = fs := by
  rw [Entry.fragments, h.pieces, List.append_assoc]
  exact Fragment.readAll_flatMap_pieces fs _

/-- What an entry consists of is read back from it. -/
theorem Holds.self {x : Entry} {entryType : Text} {fs : List Fragment}
    (h : x.Holds entryType fs) : x.Holds entryType x.fragments := by
  rw [h.fragments]
  exact h

theorem holds_ofRecord (config : Config) (map : FieldTable) (entryType key : Text) (r : Record) :
    (ofRecord config map entryType key r).Holds entryType
      (entryFragments config map entryType r) := by
  have hfields : (writeFields config map r .empty).Holds (recordFragments config map r) := by
    rw [writeFields_eq]
    exact EntryDraft.holds_empty.applyAll _
  have hflushed : ((writeFields config map r .empty).flush config entryType).Holds
      (entryFragments config map entryType r) := by
    unfold EntryDraft.flush entryFragments
    rw [hfields.isEmpty_names]
    dsimp only
    split
    · next hempty =>
      rw [List.isEmpty_iff.1 hempty] at hfields
      exact hfields.field _ _ _
    · exact hfields
  refine ⟨?_, hflushed.repeated⟩
  rw [← hflushed.pieces]
  rfl

end Entry
end Bibliography.Export
