import Bibliography.Proofs.CiteKey.RepeatedPins
import Bibliography.Proofs.Export.Fragments
import Bibliography.Proofs.Export.Structure

/-! # The report of an export

A report can be read off the batch and off what is written: it counts the records that are entries,
and warns of pins that came before in the batch and of names that came before in their entry.
-/

namespace Bibliography.Export
set_option autoImplicit false
open Text CiteKey

/-- The entry stands for a record: it has its key and its type, and is made up of its fragments. -/
structure Entry.IsOf (keys : Registry) (r : Record) (x : Entry) : Prop where
  key : keys.keyOf? r.itemId = some x.key
  holds : x.Holds (keys.formatter.types.output (Registry.withoutPin r)) x.fragments

/-- The warnings about the fragments of an entry whose name an earlier one has. -/
def Entry.fieldWarnings (x : Entry) : List Warning :=
  (repeats Fragment.name x.fragments).map fun f => .repeatedField x.key f.name

theorem Entry.Holds.warnings {x : Entry} {entryType : Text} {fs : List Fragment}
    (h : x.Holds entryType fs) : x.warnings = x.fieldWarnings := by
  rw [Entry.warnings, h.repeated, List.map_map, Entry.fieldWarnings, h.fragments]
  rfl

theorem holds_entryOf (config : Config) (map : FieldTable) (keys : Registry) (r : Record) :
    (entryOf config map keys r).Holds (keys.formatter.types.output (Registry.withoutPin r))
      (entryFragments config map (keys.formatter.types.output (Registry.withoutPin r))
        (Registry.withoutPin r)) :=
  Entry.holds_ofRecord config map _ _ _

theorem isOf_entryOf (e : Exporter) {records : List Record} {r : Record} (hr : r ∈ records)
    (he : r.isExportable = true) :
    Entry.IsOf (e.load records).1.registry r
      (entryOf e.config e.map (e.load records).1.registry r) := by
  obtain ⟨key, hkey, -⟩ := exists_entry?_load e hr he
  have hentryKey : (entryOf e.config e.map (e.load records).1.registry r).key = key := by
    rw [entryOf, hkey]
    rfl
  exact ⟨hentryKey.symm ▸ hkey, (holds_entryOf ..).self⟩

/-- The entries of a run stand for the records of the batch that are entries. -/
theorem forall₂_isOf (e : Exporter) (records : List Record) :
    List.Forall₂ (Entry.IsOf (e.load records).1.registry) (records.filter Record.isExportable)
      (e.run records).2.1 := by
  rw [entries_run, List.forall₂_map_right_iff, List.forall₂_same]
  intro r hr
  obtain ⟨hmem, he⟩ := List.mem_filter.1 hr
  exact isOf_entryOf e hmem he

theorem flatMap_warnings {keys : Registry} {rs : List Record} {xs : List Entry}
    (h : List.Forall₂ (Entry.IsOf keys) rs xs) :
    xs.flatMap Entry.warnings = xs.flatMap Entry.fieldWarnings := by
  induction h with
  | nil => rfl
  | cons hfirst _ ih => rw [List.flatMap_cons, List.flatMap_cons, hfirst.holds.warnings, ih]

/-- Into a sink that takes everything, an export writes an entry for each record that is one, and
reports their number. It warns, in the order of the batch, of the entries that pin a key which an
entry before them pins, and then, entry by entry, of the fragments whose name an earlier one has;
and of nothing else. -/
theorem write_report (e : Exporter) (records : List Record) :
    ∃ after sink report, e.write records (.new .unlimited) = (after, sink, some report) ∧
      sink.text = ((e.run records).2.1.flatMap Entry.pieces).flatten ∧
      List.Forall₂ (Entry.IsOf after.registry) (records.filter Record.isExportable)
        (e.run records).2.1 ∧
      report.entries = (records.filter Record.isExportable).length ∧
      report.warnings = (repeatedPins records).map .repeatedPin ++
        (e.run records).2.1.flatMap Entry.fieldWarnings := by
  have hentries := forall₂_isOf e records
  refine ⟨_, _, _, write_unlimited e records, rfl, hentries, hentries.length_eq.symm, ?_⟩
  rw [← flatMap_warnings hentries, ← Registry.warnings_assign e.registry.formatter]
  rfl

end Bibliography.Export
