import Bibliography.Proofs.CiteKey.Batch

/-! # What the entry of a key tells

A key has an entry just if some record holds it. The entry lists, in the order in which they were
served, all who want the key or hold it. The first of them holds it: whoever came before would have
been given the key or have found it taken.
-/

namespace Bibliography.CiteKey
set_option autoImplicit false

/-! ## The first to touch a key -/

theorem key_of_first {f : Formatter} {records : List Record} {key : Text} {first : Grant}
    {later : List Grant}
    (h : (batchGrants f records).filter (Grant.touches · key) = first :: later) :
    first.key = key := by
  obtain ⟨before, after, hsplit, hnone, htouch, -⟩ := List.filter_eq_cons_iff.1 h
  rcases exists_key_of_touches hsplit htouch with hkey | hbefore
  · exact hkey
  · obtain ⟨t, ht, hkey⟩ := List.mem_map.1 hbefore
    exact absurd (Grant.touches_eq_true_iff.2 (Or.inr hkey.symm)) (hnone t ht)

/-! ## Entries -/

/-- The record wants the key or holds it. -/
def Touches (f : Formatter) (records : List Record) (key : Text) (r : Record) : Prop :=
  wanted f r = key ∨ ((Registry.new f).assign records).1.keyOf? r.itemId = some key

instance (f : Formatter) (records : List Record) (key : Text) (r : Record) :
    Decidable (Touches f records key r) :=
  inferInstanceAs (Decidable (_ ∨ _))

namespace Registry

theorem entry?_eq_entryAfter (f : Formatter) (records : List Record) (key : Text) :
    entry? ((new f).assign records).1 key = entryAfter (batchGrants f records) key :=
  (follows_batchGrants f records).entries key

section Distinct
variable {f : Formatter} {records : List Record}
  (distinct : ((records.filter Record.isExportable).map Record.itemId).Nodup)
include distinct

theorem touches_grantOf_iff {r : Record} (hr : r ∈ served records) {key : Text} :
    (grantOf f records r).touches key = true ↔ Touches f records key r := by
  have hkey := keyOf?_eq_grantOf (f := f) distinct hr
  rw [Grant.touches_eq_true_iff, Touches, hkey, Option.some_inj, @eq_comm _ key, @eq_comm _ key]
  exact Iff.rfl

theorem filter_touches_batchGrants (key : Text) :
    (batchGrants f records).filter (Grant.touches · key) =
      ((served records).filter (Touches f records key ·)).map (grantOf f records) := by
  rw [batchGrants_eq_map distinct, List.filter_map]
  refine congrArg (List.map _) (List.filter_congr fun r hr => ?_)
  rw [Bool.eq_iff_iff, Function.comp_apply, decide_eq_true_iff, touches_grantOf_iff distinct hr]

theorem mem_names_assign_iff (key : Text) :
    key ∈ ((new f).assign records).1.entries.names ↔
      ∃ r ∈ records, r.isExportable = true ∧
        ((new f).assign records).1.keyOf? r.itemId = some key := by
  have hnames : key ∈ ((new f).assign records).1.entries.names ↔
      key ∈ (batchGrants f records).map Grant.key :=
    (follows_batchGrants f records).names key
  rw [hnames, batchGrants_eq_map distinct, List.map_map, List.mem_map]
  constructor
  · rintro ⟨r, hr, rfl⟩
    obtain ⟨hmem, he⟩ := mem_served.1 hr
    exact ⟨r, hmem, he, keyOf?_eq_grantOf distinct hr⟩
  · rintro ⟨r, hmem, he, hkey⟩
    have hr := mem_served.2 ⟨hmem, he⟩
    rw [keyOf?_eq_grantOf distinct hr] at hkey
    exact ⟨r, hr, Option.some.inj hkey⟩

theorem asked_of_entryAfter {key : Text} {entry : KeyEntry}
    (h : entryAfter (batchGrants f records) key = some entry) :
    ∃ first later, (served records).filter (Touches f records key ·) = first :: later ∧
      entry = ⟨wanted f first, (first :: later).map fun r => ⟨r.itemId, hasPin r⟩⟩ := by
  rw [entryAfter] at h
  rw [filter_touches_batchGrants distinct] at h
  cases hasked : (served records).filter (Touches f records key ·) with
  | nil => simp [hasked] at h
  | cons first later =>
    rw [hasked, List.map_map] at h
    exact ⟨first, later, rfl, (Option.some.inj h).symm⟩

/-- The first who wants a key or holds it holds it. -/
theorem keyOf?_of_first {key : Text} {first : Record} {later : List Record}
    (h : (served records).filter (Touches f records key ·) = first :: later) :
    ((new f).assign records).1.keyOf? first.itemId = some key := by
  have hmem : first ∈ (served records).filter (Touches f records key ·) :=
    h ▸ List.mem_cons_self ..
  have hgrants := filter_touches_batchGrants (f := f) distinct key
  rw [h, List.map_cons] at hgrants
  rw [keyOf?_eq_grantOf distinct (List.mem_filter.1 hmem).1, key_of_first hgrants]

end Distinct

/-- A key has an entry just if some record holds it. The entry lists those who want the key or hold
it, each once and in the order in which they were served; the first one holds it. -/
theorem entry?_assign (f : Formatter) (records : List Record)
    (distinct : ((records.filter Record.isExportable).map Record.itemId).Nodup) (key : Text) :
    ((∃ entry, entry? ((new f).assign records).1 key = some entry) ↔
      ∃ r ∈ records, r.isExportable = true ∧
        ((new f).assign records).1.keyOf? r.itemId = some key) ∧
    ∀ entry, entry? ((new f).assign records).1 key = some entry →
      entry.requests = ((served records).filter (Touches f records key ·)).map
          (fun r => ⟨r.itemId, hasPin r⟩) ∧
      (entry.requests.map Request.itemId).Nodup ∧
      ∃ first later, (served records).filter (Touches f records key ·) = first :: later ∧
        ((new f).assign records).1.keyOf? first.itemId = some key ∧
        entry.candidate = wanted f first := by
  have hnamed := mem_names_assign_iff (f := f) distinct key
  rw [Dict.mem_names_iff] at hnamed
  refine ⟨Option.isSome_iff_exists.symm.trans hnamed, ?_⟩
  intro entry hentry
  rw [entry?_eq_entryAfter] at hentry
  obtain ⟨first, later, hasked, rfl⟩ := asked_of_entryAfter distinct hentry
  refine ⟨by rw [hasked], ?_, first, later, hasked, keyOf?_of_first distinct hasked, rfl⟩
  rw [List.map_map, ← hasked]
  exact (nodup_ids_served distinct).sublist (List.filter_sublist.map _)

/-- Two books that want one key, and a third that wants what the second one is given. -/
def chained : List Record := [
  { Record.blank with itemId := "1", itemType := "book" },
  { Record.blank with itemId := "2", itemType := "book" },
  { Record.blank with itemId := "3", itemType := "book", key := "a" }]

theorem entry?_chained :
    ((chained.filter Record.isExportable).map Record.itemId).Nodup ∧
      entry? ((new .standard).assign chained).1 "zotero-a" =
        some ⟨"zotero-", [⟨"2", false⟩, ⟨"3", false⟩]⟩ ∧
      ((served chained).filter (Touches .standard chained "zotero-a" ·)).map Record.itemId =
        [['2'], ['3']] ∧
      ∃ first ∈ served chained, ((new .standard).assign chained).1.keyOf? first.itemId =
        some "zotero-a".toList ∧ wanted .standard first = "zotero-" := by
  have distinct : ((chained.filter Record.isExportable).map Record.itemId).Nodup := by decide
  have hentry : entry? ((new .standard).assign chained).1 "zotero-a" =
      some ⟨"zotero-", [⟨"2", false⟩, ⟨"3", false⟩]⟩ := by decide +kernel
  obtain ⟨hrequests, -, first, later, hasked, hholds, hwanted⟩ :=
    (entry?_assign .standard chained distinct "zotero-a").2 _ hentry
  refine ⟨distinct, hentry, ?_, first, ?_, hholds, hwanted.symm⟩
  · have hids := congrArg (List.map Request.itemId) hrequests
    rw [List.map_map] at hids
    exact hids.symm
  · have hmem : first ∈ (served chained).filter (Touches .standard chained "zotero-a" ·) :=
      hasked ▸ List.mem_cons_self ..
    exact (List.mem_filter.1 hmem).1

end Registry
end Bibliography.CiteKey
