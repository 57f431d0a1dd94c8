import Bibliography.Proofs.CiteKey.Batch

/-! # The least free suffix

An entry without a pin gets its candidate, or the candidate with the first suffix that makes it
free. What is not free is said by the keys alone: those that the batch pins, and those that entries
before it got. Entries that all want one key are numbered in the order of the batch.
-/

namespace Bibliography.CiteKey
set_option autoImplicit false

/-- The key is pinned in the batch, or it was made for an entry before the one that asks. -/
def Taken (f : Formatter) (records before : List Record) (key : Text) : Prop :=
  (∃ t ∈ records, t.isExportable = true ∧ pinnedKey? t.extra = some key) ∨
  ∃ t ∈ before, t.isExportable = true ∧ pinnedKey? t.extra = none ∧
    ((Registry.new f).assign records).1.keyOf? t.itemId = some key

/-- A candidate, and the candidate with one suffix after the other. -/
def numbered (c : Text) : Nat → Text
  | 0 => c
  | n + 1 => c ++ suffix n

theorem numbered_injective {c : Text} {m n : Nat} (h : numbered c m = numbered c n) : m = n := by
  cases m with
  | zero =>
    cases n with
    | zero => rfl
    | succ n => exact absurd (List.self_eq_append_right.1 h) (suffix_ne_nil n)
  | succ m =>
    cases n with
    | zero => exact absurd (List.self_eq_append_right.1 h.symm) (suffix_ne_nil m)
    | succ n =>
      have hsuffix := suffix_injective (List.append_cancel_left h)
      omega

/-! ## Numbered keys -/

/-- Where the first keys of a candidate are taken, it leads to the next one. -/
theorem freeKey_numbered (c : Text) (n : Nat) :
    freeKey ((List.range n).map (numbered c)) c = numbered c n := by
  have hmem : ∀ m, numbered c m ∈ (List.range n).map (numbered c) ↔ m < n := by
    intro m
    rw [List.mem_map_of_injective (fun _ _ h => numbered_injective h), List.mem_range]
  cases n with
  | zero => rfl
  | succ n =>
    have htaken : c ∈ (List.range (n + 1)).map (numbered c) := (hmem 0).2 (Nat.succ_pos n)
    have hindex : freeIndex ((List.range (n + 1)).map (numbered c)) c = n := by
      refine freeIndex_eq ?_ ?_
      · intro h
        have hlt := (hmem (n + 1)).1 h
        omega
      · intro m hm
        exact (hmem (m + 1)).2 (Nat.succ_lt_succ hm)
    rw [freeKey, if_pos htaken, hindex, numbered]

theorem keys_generatedGrants_numbered (f : Formatter) (c : Text) (n : Nat) {records : List Record}
    (h : ∀ r ∈ records, Registry.candidate f r = c) :
    (generatedGrants f ((List.range n).map (numbered c)) records).map Grant.key =
      (List.range' n records.length).map (numbered c) := by
  induction records generalizing n with
  | nil => rfl
  | cons r rs ih =>
    have hkey : freeKey ((List.range n).map (numbered c)) (Registry.candidate f r) =
        numbered c n := by
      rw [h r (List.mem_cons_self ..), freeKey_numbered]
    have hnext : (List.range n).map (numbered c) ++ [numbered c n] =
        (List.range (n + 1)).map (numbered c) := by
      rw [List.range_succ, List.map_append, List.map_singleton]
    have hrest := ih (n + 1) fun t ht => h t (List.mem_cons_of_mem _ ht)
    rw [generatedGrants, hkey, hnext, List.map_cons, hrest, List.length_cons, List.range'_succ,
      List.map_cons]

/-! ## Keys of a batch -/

theorem isGenerated_iff {r : Record} :
    Registry.isGenerated r = true ↔ r.isExportable = true ∧ pinnedKey? r.extra = none := by
  rw [Registry.isGenerated, Bool.and_eq_true, Option.isNone_iff_eq_none]

theorem isPinned_iff {r : Record} :
    Registry.isPinned r = true ↔ r.isExportable = true ∧ ∃ key, pinnedKey? r.extra = some key := by
  rw [Registry.isPinned, Bool.and_eq_true, Option.isSome_iff_exists]

/-- The keys that are not free when the entry behind the given ones is served. -/
def keysBefore (f : Formatter) (records before : List Record) : List Text :=
  ((records.filter Registry.isPinned ++ before.filter Registry.isGenerated).map
    (grantOf f records)).map Grant.key

section Distinct
variable {f : Formatter} {records : List Record}
  (distinct : ((records.filter Record.isExportable).map Record.itemId).Nodup)
include distinct

theorem mem_keysBefore {before after : List Record} (h : records = before ++ after) (key : Text) :
    key ∈ keysBefore f records before ↔ Taken f records before key := by
  have hbefore : ∀ t ∈ before, t ∈ records := fun t ht => h ▸ List.mem_append_left _ ht
  have hgot : ∀ t ∈ records, t.isExportable = true →
      ((Registry.new f).assign records).1.keyOf? t.itemId = some (grantOf f records t).key :=
    fun t ht he => keyOf?_eq_grantOf distinct (mem_served.2 ⟨ht, he⟩)
  rw [keysBefore, List.map_map, List.mem_map]
  constructor
  · rintro ⟨t, ht, rfl⟩
    rcases List.mem_append.1 ht with ht | ht
    · obtain ⟨hmem, hpinned⟩ := List.mem_filter.1 ht
      obtain ⟨he, pin, hpin⟩ := isPinned_iff.1 hpinned
      have hkey := Registry.keyOf?_assign_of_pin (f := f) distinct hmem he hpin
      rw [hgot t hmem he] at hkey
      exact Or.inl ⟨t, hmem, he, hpin.trans hkey.symm⟩
    · obtain ⟨hmem, hgenerated⟩ := List.mem_filter.1 ht
      obtain ⟨he, hnone⟩ := isGenerated_iff.1 hgenerated
      exact Or.inr ⟨t, hmem, he, hnone, hgot t (hbefore t hmem) he⟩
  · rintro (⟨t, hmem, he, hpin⟩ | ⟨t, hmem, he, hnone, hkey⟩)
    · have hkey := Registry.keyOf?_assign_of_pin (f := f) distinct hmem he hpin
      rw [hgot t hmem he] at hkey
      have hpinned := List.mem_filter.2 ⟨hmem, isPinned_iff.2 ⟨he, key, hpin⟩⟩
      exact ⟨t, List.mem_append_left _ hpinned, Option.some.inj hkey⟩
    · rw [hgot t (hbefore t hmem) he] at hkey
      have hgenerated := List.mem_filter.2 ⟨hmem, isGenerated_iff.2 ⟨he, hnone⟩⟩
      exact ⟨t, List.mem_append_right _ hgenerated, Option.some.inj hkey⟩

theorem keyOf?_eq_freeKey {before after : List Record} {r : Record}
    (h : records = before ++ r :: after) (he : r.isExportable = true)
    (hp : pinnedKey? r.extra = none) :
    ((Registry.new f).assign records).1.keyOf? r.itemId =
      some (freeKey (keysBefore f records before) (Registry.candidate f r)) := by
  have hgenerated : Registry.isGenerated r = true := isGenerated_iff.2 ⟨he, hp⟩
  have hunpinned : hasPin r = false := hasPin_of_isGenerated hgenerated
  have hserved : served records = (records.filter Registry.isPinned ++
      before.filter Registry.isGenerated) ++ r :: after.filter Registry.isGenerated := by
    have hfilter : records.filter Registry.isGenerated =
        before.filter Registry.isGenerated ++ r :: after.filter Registry.isGenerated := by
      rw [h, List.filter_append, List.filter_cons_of_pos hgenerated]
    rw [served, hfilter, List.append_assoc]
  have hgrants := batchGrants_eq_map (f := f) distinct
  rw [hserved, List.map_append, List.map_cons] at hgrants
  have hkey := congrArg Grant.key (eq_granted hgrants)
  have hmem : r ∈ served records := hserved ▸ List.mem_append_right _ (List.mem_cons_self ..)
  rw [keyOf?_eq_grantOf distinct hmem, hkey]
  simp only [Registry.granted, grantOf, hunpinned, wanted_of_unpinned hunpinned,
    Bool.false_eq_true, if_false, keysBefore]

theorem map_keyOf?_served :
    (served records).map (fun r => ((Registry.new f).assign records).1.keyOf? r.itemId) =
      (batchGrants f records).map fun g => some g.key := by
  rw [batchGrants_eq_map distinct, List.map_map]
  exact List.map_congr_left fun r hr => keyOf?_eq_grantOf distinct hr

end Distinct

/-- In a batch without pins all entries are served in their order. -/
theorem served_of_unpinned {records : List Record}
    (h : ∀ r ∈ records, r.isExportable = true → pinnedKey? r.extra = none) :
    records.filter Registry.isPinned = [] ∧
      records.filter Registry.isGenerated = records.filter Record.isExportable := by
  constructor
  · refine List.filter_eq_nil_iff.2 fun r hr hpinned => ?_
    obtain ⟨he, key, hpin⟩ := isPinned_iff.1 hpinned
    simp [h r hr he] at hpin
  · refine List.filter_congr fun r hr => ?_
    rw [Bool.eq_iff_iff, isGenerated_iff]
    exact and_iff_left_of_imp (h r hr)

/-- Entries without pins that all ask for one key get it numbered. -/
theorem map_keyOf?_numbered {f : Formatter} {records : List Record}
    (distinct : ((records.filter Record.isExportable).map Record.itemId).Nodup)
    (hunpinned : ∀ r ∈ records, r.isExportable = true → pinnedKey? r.extra = none) {c : Text}
    (hsame : ∀ r ∈ records, r.isExportable = true → Registry.candidate f r = c) :
    (records.filter Record.isExportable).map
        (fun r => ((Registry.new f).assign records).1.keyOf? r.itemId) =
      (List.range (records.filter Record.isExportable).length).map
        fun n => some (numbered c n) := by
  obtain ⟨hpinned, hgenerated⟩ := served_of_unpinned hunpinned
  have hserved : served records = records.filter Record.isExportable := by
    rw [served, hpinned, hgenerated, List.nil_append]
  have hcandidate : ∀ r ∈ records.filter Record.isExportable, Registry.candidate f r = c := by
    intro r hr
    obtain ⟨hmem, he⟩ := List.mem_filter.1 hr
    exact hsame r hmem he
  have hgrants : batchGrants f records =
      generatedGrants f [] (records.filter Record.isExportable) := by
    rw [batchGrants, hpinned, hgenerated]
    rfl
  have hnumbered := congrArg (List.map some) (keys_generatedGrants_numbered f c 0 hcandidate)
  rw [List.map_map, List.map_map, ← List.range_eq_range'] at hnumbered
  have hkeys := map_keyOf?_served (f := f) distinct
  rw [hserved, hgrants] at hkeys
  exact hkeys.trans hnumbered

namespace Registry

/-- An entry without a pin gets its candidate if that is free, and else the candidate with the
least suffix that makes it free. Entries that all ask for one key get it numbered. -/
theorem keyOf?_assign_leastFree (f : Formatter) (records : List Record)
    (distinct : ((records.filter Record.isExportable).map Record.itemId).Nodup) :
    (∀ before r after, records = before ++ r :: after →
      r.isExportable = true → pinnedKey? r.extra = none →
      (¬ Taken f records before (candidate f r) →
        ((new f).assign records).1.keyOf? r.itemId = some (candidate f r)) ∧
      (Taken f records before (candidate f r) →
        ∃ n, ((new f).assign records).1.keyOf? r.itemId = some (candidate f r ++ suffix n) ∧
          ¬ Taken f records before (candidate f r ++ suffix n) ∧
          ∀ m < n, Taken f records before (candidate f r ++ suffix m))) ∧
    ∀ c, (∀ r ∈ records, r.isExportable = true →
        pinnedKey? r.extra = none ∧ candidate f r = c) →
      (records.filter Record.isExportable).map
          (fun r => ((new f).assign records).1.keyOf? r.itemId) =
        (List.range (records.filter Record.isExportable).length).map
          fun n => some (numbered c n) := by
  constructor
  · intro before r after h he hp
    have htaken := mem_keysBefore (f := f) distinct h
    rw [keyOf?_eq_freeKey distinct h he hp]
    constructor
    · intro hfree
      rw [← htaken] at hfree
      rw [freeKey, if_neg hfree]
    · intro hnotfree
      rw [← htaken] at hnotfree
      refine ⟨freeIndex (keysBefore f records before) (candidate f r), ?_, ?_, ?_⟩
      · rw [freeKey, if_pos hnotfree]
      · rw [← htaken]
        exact suffix_freeIndex_notMem _ _
      · intro m hm
        rw [← htaken]
        exact mem_of_lt_freeIndex hm
  · intro c hsame
    exact map_keyOf?_numbered distinct (fun r hr he => (hsame r hr he).1)
      fun r hr he => (hsame r hr he).2

/-- More books that want one key than there are letters. -/
def alike : List Record := (List.range 29).map fun n =>
  { Record.blank with itemId := Nat.toDigits 10 n, itemType := "book" }

theorem keyOf?_alike :
    (((sharedPin.filter Record.isExportable).map Record.itemId).Nodup ∧
      Taken .standard sharedPin [] "zotero-" ∧
      ∃ n, ((new .standard).assign sharedPin).1.keyOf? "1" =
          some ("zotero-".toList ++ suffix n) ∧
        ¬ Taken .standard sharedPin [] ("zotero-".toList ++ suffix n)) ∧
    ((alike.filter Record.isExportable).map Record.itemId).Nodup ∧
      (∀ r ∈ alike, r.isExportable = true →
        pinnedKey? r.extra = none ∧ candidate .standard r = "zotero-".toList) ∧
      (alike.filter Record.isExportable).map
          (fun r => ((new .standard).assign alike).1.keyOf? r.itemId) =
        ["", "a", "b", "c", "d", "e", "f", "g", "h", "i", "j", "k", "l", "m", "n", "o", "p", "q",
          "r", "s", "t", "u", "v", "w", "x", "y", "z", "aa", "ab"].map
          fun ending => some ("zotero-" ++ ending).toList := by
  constructor
  · have distinct : ((sharedPin.filter Record.isExportable).map Record.itemId).Nodup := by decide
    have htaken : Taken .standard sharedPin [] "zotero-" :=
      Or.inl ⟨sharedPin[1], by simp [sharedPin], by decide, by decide +kernel⟩
    have hcandidate : candidate .standard sharedPin[0] = "zotero-".toList := by decide +kernel
    have h := (keyOf?_assign_leastFree .standard sharedPin distinct).1 [] sharedPin[0]
      (sharedPin.drop 1) rfl (by decide) (by decide)
    rw [hcandidate] at h
    obtain ⟨n, hkey, hfree, -⟩ := h.2 htaken
    exact ⟨distinct, htaken, n, hkey, hfree⟩
  · have distinct : ((alike.filter Record.isExportable).map Record.itemId).Nodup := by
      decide +kernel
    have hsame : ∀ r ∈ alike, r.isExportable = true →
        pinnedKey? r.extra = none ∧ candidate .standard r = "zotero-".toList := by
      decide +kernel
    refine ⟨distinct, hsame, ?_⟩
    rw [(keyOf?_assign_leastFree .standard alike distinct).2 "zotero-" hsame]
    decide +kernel

end Registry
end Bibliography.CiteKey
