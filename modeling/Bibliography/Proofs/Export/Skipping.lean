import Bibliography.Proofs.Export.Report
import Bibliography.Proofs.Markup.Kept

/-! # Skipped fields

Two exports of one batch that differ only in the fields they skip are compared fragment by fragment.
Skipping a name takes its fragments out of every entry, with the warnings about them, and changes
nothing else; only an entry of which nothing is left gets its type, as an empty one does.
-/

namespace Bibliography
set_option autoImplicit false
open Text Unicode CiteKey

namespace Export

/-- The configuration with other fields to skip. -/
def Config.skipping (config : Config) (skipped : List Text) : Config :=
  { config with skipFields := skipped }

section
variable (config : Config) (skipped : List Text)

/-! ## What is written does not depend on what is skipped -/

namespace FieldValue
variable (style : EscapeStyle)

mutual

theorem escape_skipping :
    ∀ v : FieldValue, v.escape style (config.skipping skipped) = v.escape style config
  | .number n => by rw [escape, escape]
  | .text s => by
    rw [escape, escape]
    rfl
  | .literal s => by
    rw [escape, escape]
    rfl
  | .list items => by
    rw [escape, escape, escapeItems_skipping items]

theorem escapeItems_skipping : ∀ vs : List FieldValue,
    escapeItems style (config.skipping skipped) vs = escapeItems style config vs
  | [] => by rw [escapeItems, escapeItems]
  | v :: vs => by
    rw [escapeItems, escapeItems, escape_skipping v, escapeItems_skipping vs]

end

end FieldValue

theorem latex?_skipping (x : FieldContent) :
    x.latex? (config.skipping skipped) = x.latex? config := by
  cases x with
  | value v style => exact v.escape_skipping config skipped style
  | link url => rfl
  | verbatim s => rfl
  | latex s bare => rfl

/-! ## Fragments -/

/-- The fragments whose names are not skipped. -/
def remaining (fs : List Fragment) : List Fragment := fs.filter fun f => !skipped.contains f.name

/-- What skipping makes of the fragments of an entry: if none remains, there is the type, unless
that is skipped too. -/
def leaveOut (entryType : Text) (fs : List Fragment) : List Fragment :=
  if (remaining skipped fs).isEmpty && !skipped.contains "type".toList then
    [⟨"type", entryType, false⟩]
  else remaining skipped fs

theorem fragment?_skipping (x : FieldWrite) :
    x.fragment? (config.skipping skipped) =
      (x.fragment? (config.skipping [])).filter fun f => !skipped.contains f.name := by
  have hskips : (config.skipping skipped).skips x.name = skipped.contains x.name := rfl
  have hnone : (config.skipping []).skips x.name = false := rfl
  unfold FieldWrite.fragment? Fragment.ofField?
  rw [latex?_skipping, latex?_skipping, hskips, hnone]
  cases x.content.latex? config with
  | none => rfl
  | some s =>
    rw [Option.filter_some, Option.filter_some]
    cases s.isEmpty with
    | true => rw [Bool.or_true]; rfl
    | false =>
      rw [Bool.or_false, Bool.or_false, Bool.not_false, if_pos rfl, Option.map_some,
        Option.filter_some]
      cases skipped.contains x.name with
      | true => rfl
      | false => rfl

theorem recordFragments_skipping (map : FieldTable) (r : Record) :
    recordFragments (config.skipping skipped) map r =
      remaining skipped (recordFragments (config.skipping []) map r) := by
  have hwrites : ∀ skipped, writes (config.skipping skipped) map r = writes config map r :=
    fun _ => rfl
  rw [recordFragments, recordFragments, hwrites, hwrites, remaining, List.filter_filterMap]
  exact List.filterMap_congr fun x _ => fragment?_skipping config skipped x

/-- The type as a field of an entry of a standard type. -/
theorem fragment?_type {entryType : Text} (h : entryType ∈ standardNames) :
    (FieldWrite.plain "type" entryType).fragment? (config.skipping skipped) =
      if skipped.contains "type".toList then none else some ⟨"type", entryType, false⟩ := by
  have hletters : ∀ name ∈ standardNames, name ≠ [] ∧ name.all Char.isAlphanum = true := by decide
  obtain ⟨hne, hletter⟩ := hletters entryType h
  have hempty : entryType.isEmpty = false := by simpa using hne
  have hlatex : (FieldWrite.plain "type" entryType).content.latex? (config.skipping skipped) =
      some entryType := by
    have hconvert : Markup.toLatex config.mode entryType = entryType :=
      Markup.toLatex_eq_self fun c hc => Latex.kept_of_isAlphanum (List.all_eq_true.1 hletter c hc)
    rw [latex?_skipping]
    simp [FieldWrite.plain, FieldContent.latex?, FieldValue.escape, FieldValue.escapeText, hempty,
      EscapeStyle.standard, hconvert]
  have hskips : (config.skipping skipped).skips "type" = skipped.contains "type".toList := rfl
  have hname : (FieldWrite.plain "type" entryType).name = "type".toList := rfl
  rw [FieldWrite.fragment?, Fragment.ofField?, hlatex, hname, hskips, Option.filter_some, hempty,
    Bool.or_false]
  cases skipped.contains "type".toList with
  | true => rfl
  | false => rfl

theorem entryFragments_skipping (map : FieldTable) {entryType : Text}
    (h : entryType ∈ standardNames) (r : Record) :
    entryFragments (config.skipping skipped) map entryType r =
      leaveOut skipped entryType (entryFragments (config.skipping []) map entryType r) := by
  have hflushed : entryFragments (config.skipping []) map entryType r =
      if (recordFragments (config.skipping []) map r).isEmpty then [⟨"type", entryType, false⟩]
      else recordFragments (config.skipping []) map r := by
    rw [entryFragments, fragment?_type config [] h]
    rfl
  rw [hflushed, entryFragments, fragment?_type config skipped h, recordFragments_skipping, leaveOut]
  generalize "type".toList = name
  cases recordFragments (config.skipping []) map r with
  | nil =>
    cases hname : skipped.contains name with
    | true => simp_all [remaining]
    | false => simp_all [remaining]
  | cons f fs =>
    rw [List.isEmpty_cons, if_neg Bool.false_ne_true]
    cases skipped.contains name with
    | true => simp
    | false => simp

end

/-! ## Two exports -/

/-- The second entry has the type and the key of the first, and its fragments without what is
skipped. -/
def Entry.LeavesOut (skipped : List Text) (x y : Entry) : Prop :=
  ∃ entryType, x.Holds entryType x.fragments ∧ y.Holds entryType y.fragments ∧ y.key = x.key ∧
    y.fragments = leaveOut skipped entryType x.fragments

/-- The warning is not about a field that is skipped. -/
def Warning.remains (skipped : List Text) : Warning → Bool
  | .repeatedPin _ => true
  | .repeatedField _ field => !skipped.contains field

theorem repeats_leaveOut (skipped : List Text) (entryType : Text) (fs : List Fragment) :
    repeats Fragment.name (leaveOut skipped entryType fs) =
      (repeats Fragment.name fs).filter fun f => !skipped.contains f.name := by
  rw [← repeats_filter Fragment.name fun name => !skipped.contains name]
  change _ = repeats Fragment.name (remaining skipped fs)
  unfold leaveOut
  split
  · next h =>
    have hnone : remaining skipped fs = [] := List.isEmpty_iff.1 (Bool.and_eq_true_iff.1 h).1
    rw [hnone]
    rfl
  · rfl

theorem Entry.LeavesOut.warnings {skipped : List Text} {x y : Entry} (h : x.LeavesOut skipped y) :
    y.warnings = x.warnings.filter (Warning.remains skipped) := by
  obtain ⟨entryType, hx, hy, hkey, hfragments⟩ := h
  rw [hy.warnings, hx.warnings, Entry.fieldWarnings, Entry.fieldWarnings, hkey, hfragments,
    repeats_leaveOut, List.filter_map]
  rfl

theorem flatMap_warnings_leavesOut {skipped : List Text} {xs ys : List Entry}
    (h : List.Forall₂ (Entry.LeavesOut skipped) xs ys) :
    ys.flatMap Entry.warnings = (xs.flatMap Entry.warnings).filter (Warning.remains skipped) := by
  induction h with
  | nil => rfl
  | cons hfirst _ ih =>
    rw [List.flatMap_cons, List.flatMap_cons, List.filter_append, hfirst.warnings, ih]

theorem leavesOut_entryOf (config : Config) (skipped : List Text) (map : FieldTable)
    {keys : Registry} (types : keys.formatter.types = .standard) (r : Record) :
    (entryOf (config.skipping []) map keys r).LeavesOut skipped
      (entryOf (config.skipping skipped) map keys r) := by
  have hall := holds_entryOf (config.skipping []) map keys r
  have hkept := holds_entryOf (config.skipping skipped) map keys r
  have hstandard := output_standard_mem (Registry.withoutPin r)
  rw [← types] at hstandard
  refine ⟨_, hall.self, hkept.self, rfl, ?_⟩
  rw [hall.fragments, hkept.fragments]
  exact entryFragments_skipping config skipped map hstandard (Registry.withoutPin r)

/-- The entries of a batch, with the standard tables. -/
def Config.entries (config : Config) (records : List Record) : List Entry :=
  ((Exporter.new config).run records).2.1

theorem forall₂_leavesOut (config : Config) (skipped : List Text) (records : List Record) :
    List.Forall₂ (Entry.LeavesOut skipped) ((config.skipping []).entries records)
      ((config.skipping skipped).entries records) := by
  have types : ((Exporter.new (config.skipping [])).load records).1.registry.formatter.types =
      .standard := congrArg CiteKey.Formatter.types (Registry.formatter_assign ..)
  rw [Config.entries, Config.entries, entries_run, entries_run, List.forall₂_map_left_iff,
    List.forall₂_map_right_iff, List.forall₂_same]
  -- the keys do not depend on what is skipped
  exact fun r _ => leavesOut_entryOf config skipped .standard types r

/-- With the standard tables, into sinks that take everything, an export that skips fields writes
the entries of the one that skips none, under the same headers, but for the fragments with the
skipped names; an entry left with nothing gets its type, unless that is skipped. It gives the
warnings of the other but for those about fields that are skipped. -/
theorem write_skipping (config : Config) (skipped : List Text) (records : List Record) :
    ∃ afterAll sinkAll reportAll afterKept sinkKept reportKept,
      (Exporter.new (config.skipping [])).write records (.new .unlimited) =
        (afterAll, sinkAll, some reportAll) ∧
      (Exporter.new (config.skipping skipped)).write records (.new .unlimited) =
        (afterKept, sinkKept, some reportKept) ∧
      sinkAll.text = (((config.skipping []).entries records).flatMap Entry.pieces).flatten ∧
      sinkKept.text = (((config.skipping skipped).entries records).flatMap Entry.pieces).flatten ∧
      List.Forall₂ (Entry.LeavesOut skipped) ((config.skipping []).entries records)
        ((config.skipping skipped).entries records) ∧
      reportKept.entries = reportAll.entries ∧
      reportKept.warnings = reportAll.warnings.filter (Warning.remains skipped) := by
  have hentries := forall₂_leavesOut config skipped records
  have hpins : ∀ pins : List RepeatedPin,
      (pins.map Warning.repeatedPin).filter (Warning.remains skipped) =
        pins.map Warning.repeatedPin := fun pins => by
    rw [List.filter_map]
    exact congrArg _ (List.filter_eq_self.2 fun _ _ => rfl)
  have hwarnings := flatMap_warnings_leavesOut hentries
  refine ⟨_, _, _, _, _, _, write_unlimited _ records, write_unlimited _ records, rfl, rfl,
    hentries, hentries.length_eq.symm, ?_⟩
  simp only [Config.entries, Exporter.run] at hwarnings ⊢
  rw [List.filter_append, hpins, ← hwarnings]
  rfl

end Export
end Bibliography
