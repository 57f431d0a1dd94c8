import Bibliography.Proofs.CiteKey.Keys

/-! # Batches that grow

Records appended to a batch are served after all the others, unless they pin a key. So the grants of
the batch stay as they were, and every entry keeps its key.
-/

namespace Bibliography.CiteKey
set_option autoImplicit false

/-- The records behind others find the keys of those taken. -/
theorem generatedGrants_append (f : Formatter) (taken : List Text) (records later : List Record) :
    generatedGrants f taken (records ++ later) =
      generatedGrants f taken records ++
        generatedGrants f (taken ++ (generatedGrants f taken records).map Grant.key) later := by
  induction records generalizing taken with
  | nil => simp [generatedGrants]
  | cons r rs ih => simp [generatedGrants, ih]

/-- Appended records without pins are granted keys after all the others. -/
theorem batchGrants_append (f : Formatter) (records : List Record) {later : List Record}
    (h : ∀ r ∈ later, r.isExportable = true → pinnedKey? r.extra = none) :
    batchGrants f (records ++ later) =
      batchGrants f records ++
        generatedGrants f ((batchGrants f records).map Grant.key)
          (later.filter Registry.isGenerated) := by
  have hpinned : later.filter Registry.isPinned = [] := by
    refine List.filter_eq_nil_iff.2 fun r hr hpin => ?_
    obtain ⟨he, hsome⟩ := Bool.and_eq_true_iff.1 hpin
    rw [h r hr he] at hsome
    exact Bool.false_ne_true hsome
  simp only [batchGrants, List.filter_append, hpinned, List.append_nil, generatedGrants_append,
    List.map_append, List.append_assoc]

namespace Registry

/-- An entry keeps its key when records without pins are appended to its batch. -/
theorem keyOf?_assign_append (f : Formatter) (records later : List Record)
    (distinct : ((records ++ later).map Record.itemId).Nodup)
    (unpinned : ∀ r ∈ later, r.isExportable = true → pinnedKey? r.extra = none) :
    ∀ r ∈ records, r.isExportable = true →
      ∃ key, ((new f).assign records).1.keyOf? r.itemId = some key ∧
        ((new f).assign (records ++ later)).1.keyOf? r.itemId = some key := by
  intro r hr he
  have hall : (((records ++ later).filter Record.isExportable).map Record.itemId).Nodup :=
    distinct.sublist (List.filter_sublist.map _)
  have hfirst : ((records.filter Record.isExportable).map Record.itemId).Nodup :=
    hall.sublist (((List.sublist_append_left records later).filter _).map _)
  obtain ⟨g, hg, hwho⟩ := exists_grant f hr he
  have hg' : g ∈ batchGrants f (records ++ later) := by
    rw [batchGrants_append f records unpinned]
    exact List.mem_append_left _ hg
  have hkey := keyOf?_assign_of_mem hfirst hg
  have hkey' := keyOf?_assign_of_mem hall hg'
  rw [hwho] at hkey hkey'
  exact ⟨g.key, hkey, hkey'⟩

/-- A batch with a pinned key that ends in a suffix. -/
def pinnedSuffix : List Record := [
  { Record.blank with itemId := "1", key := "x", itemType := "book" },
  { Record.blank with itemId := "2", itemType := "book", extra := "bibtex: zotero-xa" },
  { Record.blank with itemId := "3", key := "x", itemType := "book" },
  { Record.blank with itemId := "4", itemType := "note", extra := "bibtex: zotero-x" }]

/-- Records that ask for the keys of that batch, and for the beginning of one. -/
def latecomers : List Record := [
  { Record.blank with itemId := "5", key := "x", itemType := "book" },
  { Record.blank with itemId := "6", key := "xb", itemType := "book" },
  { Record.blank with itemId := "7", itemType := "attachment", extra := "bibtex: zotero-x" },
  { Record.blank with itemId := "8", itemType := "book" }]

theorem keyOf?_latecomers :
    ((pinnedSuffix ++ latecomers).map Record.itemId).Nodup ∧
      (∀ r ∈ latecomers, r.isExportable = true → pinnedKey? r.extra = none) ∧
      ((new .standard).assign pinnedSuffix).1.keyOf? "3" = some "zotero-xb".toList ∧
      ((new .standard).assign (pinnedSuffix ++ latecomers)).1.keyOf? "3" =
        some "zotero-xb".toList := by
  have distinct : ((pinnedSuffix ++ latecomers).map Record.itemId).Nodup := by decide
  have unpinned : ∀ r ∈ latecomers, r.isExportable = true → pinnedKey? r.extra = none := by decide
  obtain ⟨key, hkey, hkey'⟩ := keyOf?_assign_append .standard pinnedSuffix latecomers distinct
    unpinned pinnedSuffix[2] (by simp [pinnedSuffix]) (by decide)
  have hgot : ((new .standard).assign pinnedSuffix).1.keyOf? "3" = some "zotero-xb".toList := by
    decide +kernel
  obtain rfl : "zotero-xb".toList = key := Option.some.inj (hgot.symm.trans hkey)
  exact ⟨distinct, unpinned, hkey, hkey'⟩

end Registry
end Bibliography.CiteKey
