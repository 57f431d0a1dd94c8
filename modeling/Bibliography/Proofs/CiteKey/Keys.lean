import Bibliography.Proofs.CiteKey.Grants
import Bibliography.Proofs.CiteKey.Linking
import Bibliography.Record.Json

/-! # The keys of a batch

A batch gives every entry in it a key. Two entries share one only if they pin it, and no key depends
on where pinned entries, notes and attachments stand in the batch.
-/

namespace Bibliography.CiteKey
set_option autoImplicit false

/-! ## Grants and their keys -/

theorem mem_pinnedGrants_iff {records : List Record} {g : Grant} :
    g ∈ pinnedGrants records ↔
      ∃ r ∈ records, ∃ key, pinnedKey? r.extra = some key ∧ g = ⟨⟨r.itemId, true⟩, key, key⟩ := by
  simp only [pinnedGrants, List.mem_filterMap, Option.map_eq_some_iff, @eq_comm _ g]

theorem map_who_generatedGrants (f : Formatter) (taken : List Text) (records : List Record) :
    (generatedGrants f taken records).map Grant.who =
      records.map fun r => ⟨r.itemId, false⟩ := by
  induction records generalizing taken with
  | nil => rfl
  | cons r rs ih => simp only [generatedGrants, List.map_cons, ih]

theorem key_notMem_of_mem_generatedGrants {f : Formatter} {taken : List Text}
    {records : List Record} {g : Grant} (h : g ∈ generatedGrants f taken records) :
    g.key ∉ taken := by
  induction records generalizing taken with
  | nil => simp [generatedGrants] at h
  | cons r rs ih =>
    rcases List.mem_cons.1 h with rfl | h
    · exact freeKey_notMem _ _
    · exact fun hm => ih h (List.mem_append_left _ hm)

theorem nodup_keys_generatedGrants (f : Formatter) (taken : List Text) (records : List Record) :
    ((generatedGrants f taken records).map Grant.key).Nodup := by
  induction records generalizing taken with
  | nil => exact List.nodup_nil
  | cons r rs ih =>
    refine List.nodup_cons.2 ⟨fun hm => ?_, ih _⟩
    obtain ⟨g, hg, hkey⟩ := List.mem_map.1 hm
    refine key_notMem_of_mem_generatedGrants hg ?_
    rw [hkey]
    exact List.mem_append_right _ (List.mem_singleton_self _)

/-- Grants depend on which keys are taken, not on their order. -/
theorem generatedGrants_congr (f : Formatter) {taken taken' : List Text}
    (h : ∀ k, k ∈ taken ↔ k ∈ taken') (records : List Record) :
    generatedGrants f taken records = generatedGrants f taken' records := by
  induction records generalizing taken taken' with
  | nil => rfl
  | cons r rs ih =>
    simp only [generatedGrants, freeKey_congr h]
    rw [ih]
    intro k
    rw [List.mem_append, List.mem_append, h]

/-! ## The characters of a key -/

theorem isSafe_of_mem_suffix {n : Nat} {c : Char} (h : c ∈ suffix n) : isSafe c = true := by
  have hletters : ∀ k < 26, isSafe (Char.ofNat ('a'.toNat + k)) = true := by decide
  obtain ⟨i, rfl⟩ := exists_of_mem_suffix h
  exact hletters (i % 26) (Nat.mod_lt i (by omega))

theorem isSafe_of_mem_candidate {f : Formatter} {r : Record} {c : Char}
    (h : c ∈ Registry.candidate f r) : isSafe c = true := by
  unfold Registry.candidate at h
  dsimp only at h
  split at h
  · exact isSafe_of_mem_clean h
  · exact isSafe_of_mem_clean h

theorem isSafe_of_mem_freeKey {f : Formatter} {taken : List Text} {r : Record} {c : Char}
    (h : c ∈ freeKey taken (Registry.candidate f r)) : isSafe c = true := by
  unfold freeKey at h
  split at h
  · rcases List.mem_append.1 h with h | h
    · exact isSafe_of_mem_candidate h
    · exact isSafe_of_mem_suffix h
  · exact isSafe_of_mem_candidate h

theorem isSafe_of_mem_generatedGrants {f : Formatter} {taken : List Text} {records : List Record}
    {g : Grant} (hg : g ∈ generatedGrants f taken records) {c : Char} (hc : c ∈ g.key) :
    isSafe c = true := by
  induction records generalizing taken with
  | nil => simp [generatedGrants] at hg
  | cons r rs ih =>
    rcases List.mem_cons.1 hg with rfl | hg
    · exact isSafe_of_mem_freeKey hc
    · exact ih hg

/-! ## Items and their grants -/

theorem keyAfter_isSome_of_mem {gs : List Grant} {g : Grant} (h : g ∈ gs) :
    (keyAfter gs g.who.itemId).isSome = true := by
  rw [keyAfter, Option.isSome_map, List.find?_isSome]
  exact ⟨g, List.mem_reverse.2 h, beq_self_eq_true _⟩

theorem exists_of_keyAfter_eq_some {gs : List Grant} {itemId key : Text}
    (h : keyAfter gs itemId = some key) : ∃ g ∈ gs, g.who.itemId = itemId ∧ g.key = key := by
  obtain ⟨g, hg, hkey⟩ := Option.map_eq_some_iff.1 h
  have hid : g.who.itemId = itemId := by simpa using List.find?_some hg
  exact ⟨g, List.mem_reverse.1 (List.mem_of_find?_eq_some hg), hid, hkey⟩

/-- Where every item has one grant, its key is that of the grant. -/
theorem keyAfter_of_mem {gs : List Grant} (distinct : (gs.map fun g => g.who.itemId).Nodup)
    {g : Grant} (h : g ∈ gs) : keyAfter gs g.who.itemId = some g.key := by
  obtain ⟨key, hkey⟩ := Option.isSome_iff_exists.1 (keyAfter_isSome_of_mem h)
  obtain ⟨g', hg', hid, rfl⟩ := exists_of_keyAfter_eq_some hkey
  rw [hkey, List.inj_on_of_nodup_map distinct hg' h hid]

/-! ## The grants of a batch -/

/-- The record pins a key. -/
def hasPin (r : Record) : Bool := (pinnedKey? r.extra).isSome

theorem filter_isPinned (records : List Record) :
    records.filter Registry.isPinned = (records.filter Record.isExportable).filter hasPin := by
  rw [List.filter_filter]
  exact List.filter_congr fun r _ => Bool.and_comm _ _

theorem filter_isGenerated (records : List Record) :
    records.filter Registry.isGenerated =
      (records.filter Record.isExportable).filter fun r => !hasPin r := by
  rw [List.filter_filter]
  refine List.filter_congr fun r _ => ?_
  rw [Registry.isGenerated, hasPin, Bool.and_comm, Option.not_isSome]

theorem map_itemId_pinnedGrants (records : List Record) :
    (pinnedGrants (records.filter hasPin)).map (fun g => g.who.itemId) =
      (records.filter hasPin).map Record.itemId := by
  induction records with
  | nil => rfl
  | cons r rs ih =>
    cases hp : pinnedKey? r.extra with
    | none => simpa [hasPin, hp] using ih
    | some key =>
      rw [List.filter_cons_of_pos (by simp [hasPin, hp])]
      simpa [pinnedGrants, hp] using ih

theorem perm_itemIds_batchGrants (f : Formatter) (records : List Record) :
    ((batchGrants f records).map fun g => g.who.itemId).Perm
      ((records.filter Record.isExportable).map Record.itemId) := by
  have hgenerated : ∀ (taken : List Text) (rs : List Record),
      (generatedGrants f taken rs).map (fun g => g.who.itemId) = rs.map Record.itemId := by
    intro taken rs
    have h := congrArg (List.map Request.itemId) (map_who_generatedGrants f taken rs)
    simpa only [List.map_map, Function.comp_def] using h
  rw [batchGrants, List.map_append, hgenerated, filter_isPinned, filter_isGenerated,
    map_itemId_pinnedGrants, ← List.map_append]
  exact (List.filter_append_perm hasPin _).map Record.itemId

theorem mem_pinnedGrants_of_pin {records : List Record} {r : Record}
    (hr : r ∈ records) (he : r.isExportable = true) {key : Text}
    (hp : pinnedKey? r.extra = some key) :
    (⟨⟨r.itemId, true⟩, key, key⟩ : Grant) ∈ pinnedGrants (records.filter Registry.isPinned) :=
  mem_pinnedGrants_iff.2
    ⟨r, List.mem_filter.2 ⟨hr, by simp [Registry.isPinned, he, hp]⟩, key, hp, rfl⟩

/-! ## A batch -/

namespace Registry

/-- Taking out the directive that pins a key changes nothing but the extra field. -/
theorem withoutPin_eq (r : Record) : withoutPin r = { r with extra := (withoutPin r).extra } := by
  unfold withoutPin
  split
  · cases Pin.find? r.extra with
    | none => rfl
    | some pin => rfl
  · rfl

@[simp] theorem isExportable_withoutPin (r : Record) :
    (withoutPin r).isExportable = r.isExportable := by
  rw [withoutPin_eq]
  rfl

@[simp] theorem itemId_withoutPin (r : Record) : (withoutPin r).itemId = r.itemId := by
  rw [withoutPin_eq]

/-- Before it is linked, the registry of a batch follows its grants. -/
theorem follows_batchGrants (f : Formatter) (records : List Record) :
    Follows f
      ((records.filter isGenerated).foldl giveGenerated
        ((records.filter isPinned).foldl givePinned { new f with assigned := true }))
      (batchGrants f records) :=
  (kept_follows f).batch records

theorem formatter_assign (f : Formatter) (records : List Record) :
    ((new f).assign records).1.formatter = f :=
  (follows_batchGrants f records).formatter

/-- The keys of a batch are those of its grants. -/
theorem keyOf?_assign (f : Formatter) (records : List Record) (itemId : Text) :
    ((new f).assign records).1.keyOf? itemId = keyAfter (batchGrants f records) itemId := by
  have hfollows := follows_batchGrants f records
  have hlink : ((new f).assign records).1 =
      ((records.filter isGenerated).foldl giveGenerated
        ((records.filter isPinned).foldl givePinned { new f with assigned := true })).link := rfl
  rw [hlink, keyOf?_link, keyOf?, state?, hfollows.items, Option.map_map]
  simp [Function.comp_def]

/-- Every entry of a batch has a grant of its own, and its key. -/
theorem exists_grant (f : Formatter) {records : List Record} {r : Record} (hr : r ∈ records)
    (he : r.isExportable = true) :
    ∃ g ∈ batchGrants f records, g.who = ⟨r.itemId, hasPin r⟩ := by
  cases hp : pinnedKey? r.extra with
  | some key =>
    refine ⟨_, List.mem_append_left _ (mem_pinnedGrants_of_pin hr he hp), ?_⟩
    simp [hasPin, hp]
  | none =>
    have hmem : (⟨r.itemId, false⟩ : Request) ∈
        (generatedGrants f ((pinnedGrants (records.filter isPinned)).map Grant.key)
          (records.filter isGenerated)).map Grant.who := by
      rw [map_who_generatedGrants]
      refine List.mem_map.2 ⟨r, List.mem_filter.2 ⟨hr, ?_⟩, rfl⟩
      simp [isGenerated, he, hp]
    obtain ⟨g, hg, hwho⟩ := List.mem_map.1 hmem
    refine ⟨g, List.mem_append_right _ hg, ?_⟩
    simp [hwho, hasPin, hp]

theorem keyOf?_assign_isSome (f : Formatter) {records : List Record} {r : Record}
    (hr : r ∈ records) (he : r.isExportable = true) :
    (((new f).assign records).1.keyOf? r.itemId).isSome = true := by
  obtain ⟨g, hg, hwho⟩ := exists_grant f hr he
  have hid : g.who.itemId = r.itemId := by rw [hwho]
  rw [keyOf?_assign, ← hid]
  exact keyAfter_isSome_of_mem hg

theorem keyOf?_assign_of_mem {f : Formatter} {records : List Record}
    (distinct : ((records.filter Record.isExportable).map Record.itemId).Nodup) {g : Grant}
    (hg : g ∈ batchGrants f records) :
    ((new f).assign records).1.keyOf? g.who.itemId = some g.key := by
  rw [keyOf?_assign]
  exact keyAfter_of_mem ((perm_itemIds_batchGrants f records).nodup_iff.2 distinct) hg

/-- A grant to a record that pins a key is among the pinned ones, and the others are not. -/
theorem mem_pinned_or_generated {f : Formatter} {records : List Record} {g : Grant}
    (hg : g ∈ batchGrants f records) :
    (g.who.pinned = true ∧ g ∈ pinnedGrants (records.filter isPinned)) ∨
    (g.who.pinned = false ∧
      g ∈ generatedGrants f ((pinnedGrants (records.filter isPinned)).map Grant.key)
        (records.filter isGenerated)) := by
  rcases List.mem_append.1 hg with hg | hg
  · obtain ⟨r, -, key, -, rfl⟩ := mem_pinnedGrants_iff.1 hg
    exact Or.inl ⟨rfl, hg⟩
  · have hwho := List.mem_map_of_mem (f := Grant.who) hg
    rw [map_who_generatedGrants] at hwho
    obtain ⟨r, -, hr⟩ := List.mem_map.1 hwho
    exact Or.inr ⟨by rw [← hr], hg⟩

/-- The key of an entry is one that an entry of the batch pins, or it is safe. -/
theorem pinned_or_isSafe_of_keyOf? {f : Formatter} {records : List Record} {itemId key : Text}
    (h : ((new f).assign records).1.keyOf? itemId = some key) :
    (∃ r ∈ records, r.isExportable = true ∧ pinnedKey? r.extra = some key) ∨
      ∀ c ∈ key, isSafe c = true := by
  rw [keyOf?_assign] at h
  obtain ⟨g, hg, -, rfl⟩ := exists_of_keyAfter_eq_some h
  rcases mem_pinned_or_generated hg with ⟨-, hg⟩ | ⟨-, hg⟩
  · obtain ⟨r, hr, key, hpin, rfl⟩ := mem_pinnedGrants_iff.1 hg
    obtain ⟨hmem, hpinned⟩ := List.mem_filter.1 hr
    exact Or.inl ⟨r, hmem, (Bool.and_eq_true_iff.1 hpinned).1, hpin⟩
  · exact Or.inr fun c hc => isSafe_of_mem_generatedGrants hg hc

/-! ## Uniqueness -/

theorem pinned_of_key_eq {f : Formatter} {records : List Record} {g g' : Grant}
    (hg : g ∈ batchGrants f records) (hg' : g' ∈ batchGrants f records)
    (hne : g.who.itemId ≠ g'.who.itemId) (hkey : g.key = g'.key) :
    g.who.pinned = true ∧ g'.who.pinned = true := by
  rcases mem_pinned_or_generated hg with ⟨hp, hm⟩ | ⟨hp, hm⟩ <;>
    rcases mem_pinned_or_generated hg' with ⟨hp', hm'⟩ | ⟨hp', hm'⟩
  · exact ⟨hp, hp'⟩
  · exact absurd (hkey ▸ List.mem_map_of_mem hm) (key_notMem_of_mem_generatedGrants hm')
  · exact absurd (hkey ▸ List.mem_map_of_mem hm') (key_notMem_of_mem_generatedGrants hm)
  · have hsame := List.inj_on_of_nodup_map (nodup_keys_generatedGrants f _ _) hm hm' hkey
    exact absurd (congrArg (fun g => g.who.itemId) hsame) hne

theorem keyOf?_assign_of_pin {f : Formatter} {records : List Record}
    (distinct : ((records.filter Record.isExportable).map Record.itemId).Nodup) {r : Record}
    (hr : r ∈ records) (he : r.isExportable = true) {key : Text}
    (hp : pinnedKey? r.extra = some key) :
    ((new f).assign records).1.keyOf? r.itemId = some key :=
  keyOf?_assign_of_mem distinct
    (g := ⟨⟨r.itemId, true⟩, key, key⟩) (List.mem_append_left _ (mem_pinnedGrants_of_pin hr he hp))

/-- Every entry of a batch has a key, and two entries have the same one just if both pin it. -/
theorem keyOf?_assign_eq_iff (f : Formatter) (records : List Record)
    (distinct : ((records.filter Record.isExportable).map Record.itemId).Nodup) :
    (∀ r ∈ records, r.isExportable = true →
      ∃ key, ((new f).assign records).1.keyOf? r.itemId = some key) ∧
    ∀ r ∈ records, ∀ t ∈ records, r.isExportable = true → t.isExportable = true → r ≠ t →
      (((new f).assign records).1.keyOf? r.itemId = ((new f).assign records).1.keyOf? t.itemId ↔
        ∃ key, pinnedKey? r.extra = some key ∧ pinnedKey? t.extra = some key) := by
  refine ⟨fun r hr he => Option.isSome_iff_exists.1 (keyOf?_assign_isSome f hr he), ?_⟩
  intro r hr t ht her het hne
  have hids : r.itemId ≠ t.itemId := fun h => hne (List.inj_on_of_nodup_map distinct
    (List.mem_filter.2 ⟨hr, her⟩) (List.mem_filter.2 ⟨ht, het⟩) h)
  constructor
  · intro hkeys
    obtain ⟨g, hg, hwho⟩ := exists_grant f hr her
    obtain ⟨g', hg', hwho'⟩ := exists_grant f ht het
    have hkey := keyOf?_assign_of_mem distinct hg
    have hkey' := keyOf?_assign_of_mem distinct hg'
    rw [hwho] at hkey
    rw [hwho'] at hkey'
    have hsame : g.key = g'.key := by
      have h := hkey.symm.trans (hkeys.trans hkey')
      exact Option.some.inj h
    obtain ⟨hpr, hpt⟩ := pinned_of_key_eq hg hg' (by rwa [hwho, hwho']) hsame
    rw [hwho] at hpr
    rw [hwho'] at hpt
    obtain ⟨pin, hpin⟩ := Option.isSome_iff_exists.1 hpr
    obtain ⟨pin', hpin'⟩ := Option.isSome_iff_exists.1 hpt
    have heq : some pin = some pin' := by
      rw [← keyOf?_assign_of_pin distinct hr her hpin, hkeys,
        keyOf?_assign_of_pin distinct ht het hpin']
    exact ⟨pin, hpin, by rw [hpin', heq]⟩
  · rintro ⟨key, hpin, hpin'⟩
    rw [keyOf?_assign_of_pin distinct hr her hpin, keyOf?_assign_of_pin distinct ht het hpin']

/-- A book without a pin, two that pin the key it asks for, and a note with the first item. -/
def sharedPin : List Record := [
  { Record.blank with itemId := "1", itemType := "book", title := "Waves" },
  { Record.blank with itemId := "2", itemType := "book", extra := "bibtex: zotero-" },
  { Record.blank with itemId := "1", itemType := "note", extra := "bibtex: zotero-a" },
  { Record.blank with
    itemId := "3", itemType := "book", extra := "1st ed. biblatexcitekey[zotero-]" }]

theorem keyOf?_sharedPin :
    ((sharedPin.filter Record.isExportable).map Record.itemId).Nodup ∧
      ((new .standard).assign sharedPin).1.keyOf? "2" =
        ((new .standard).assign sharedPin).1.keyOf? "3" ∧
      ((new .standard).assign sharedPin).1.keyOf? "1" ≠
        ((new .standard).assign sharedPin).1.keyOf? "2" := by
  have distinct : ((sharedPin.filter Record.isExportable).map Record.itemId).Nodup := by decide
  have h := (keyOf?_assign_eq_iff .standard sharedPin distinct).2
  refine ⟨distinct, ?_, ?_⟩
  · refine (h sharedPin[1] (by simp [sharedPin]) sharedPin[3] (by simp [sharedPin]) (by decide)
      (by decide) ?_).2 ⟨"zotero-", by decide, by decide +kernel⟩
    exact fun heq => absurd (congrArg Record.itemId heq) (by decide)
  · intro hkeys
    have hne : sharedPin[0] ≠ sharedPin[1] :=
      fun heq => absurd (congrArg Record.itemId heq) (by decide)
    obtain ⟨key, hpin, -⟩ := (h sharedPin[0] (by simp [sharedPin]) sharedPin[1]
      (by simp [sharedPin]) (by decide) (by decide) hne).1 hkeys
    have hnone : pinnedKey? sharedPin[0].extra = none := by decide
    simp [hnone] at hpin

/-! ## Pins and placement -/

theorem mem_requests_entryAfter {gs : List Grant} {g : Grant} (h : g ∈ gs) :
    ∃ entry, entryAfter gs g.key = some entry ∧ g.who ∈ entry.requests := by
  have hasked : g ∈ gs.filter (Grant.touches · g.key) :=
    List.mem_filter.2 ⟨h, Grant.touches_eq_true_iff.2 (Or.inr rfl)⟩
  obtain ⟨first, hfirst⟩ := Option.ne_none_iff_exists'.1
    (mt List.head?_eq_none_iff.1 (List.ne_nil_of_mem hasked))
  refine ⟨_, by rw [entryAfter, hfirst, Option.map_some], ?_⟩
  exact List.mem_map_of_mem hasked

/-- Whoever pins a key is marked as pinned when the batch is linked. -/
theorem pinned_of_mem {f : Formatter} {records : List Record} {g : Grant}
    (hg : g ∈ batchGrants f records) (hp : g.who.pinned = true) {item : ItemKey}
    (hitem : ((new f).assign records).1.state? g.who.itemId = some item) :
    item.pinned = true := by
  have hfollows := follows_batchGrants f records
  obtain ⟨entry, hentry, hasked⟩ := mem_requests_entryAfter hg
  rw [← hfollows.entries] at hentry
  have hlink : ((new f).assign records).1.state? g.who.itemId =
      (Registry.link _).items.get? g.who.itemId := rfl
  rw [hlink, get?_link] at hitem
  obtain ⟨before, -, rfl⟩ := Option.map_eq_some_iff.1 hitem
  rw [foldl_learnAll_pinned, Bool.or_eq_true, List.any_eq_true]
  refine Or.inr ⟨entry, List.mem_map_of_mem (f := Prod.snd) (Dict.mem_pairs_of_get? hentry), ?_⟩
  rw [List.any_eq_true]
  exact ⟨g.who, hasked, by simp [hp]⟩

/-- The grants of a batch are the same, up to the order of the pinned ones, wherever its pinned
entries, notes and attachments stand. -/
theorem perm_batchGrants (f : Formatter) {records records' : List Record}
    (same : (records.filter Record.isExportable).Perm (records'.filter Record.isExportable))
    (order : records.filter isGenerated = records'.filter isGenerated) :
    (batchGrants f records).Perm (batchGrants f records') := by
  have hpinned : (pinnedGrants (records.filter isPinned)).Perm
      (pinnedGrants (records'.filter isPinned)) := by
    rw [filter_isPinned, filter_isPinned]
    exact (same.filter hasPin).filterMap _
  have htaken : ∀ k, k ∈ (pinnedGrants (records.filter isPinned)).map Grant.key ↔
      k ∈ (pinnedGrants (records'.filter isPinned)).map Grant.key :=
    fun k => (hpinned.map Grant.key).mem_iff
  rw [batchGrants, batchGrants, order, generatedGrants_congr f htaken]
  exact hpinned.append_right _

/-- A pinned key is given as it is, and every entry keeps its key when the batch is rearranged but
for the order of the entries that pin none. -/
theorem keyOf?_assign_stable (f : Formatter) (records : List Record)
    (distinct : ((records.filter Record.isExportable).map Record.itemId).Nodup) :
    (∀ r ∈ records, r.isExportable = true → ∀ key, pinnedKey? r.extra = some key →
      ∃ item, ((new f).assign records).1.state? r.itemId = some item ∧
        item.key = key ∧ item.pinned = true) ∧
    ∀ records' : List Record,
      (records.filter Record.isExportable).Perm (records'.filter Record.isExportable) →
      records.filter isGenerated = records'.filter isGenerated →
      ∀ r ∈ records, r.isExportable = true →
        ∃ key, ((new f).assign records).1.keyOf? r.itemId = some key ∧
          ((new f).assign records').1.keyOf? r.itemId = some key := by
  constructor
  · intro r hr he key hpin
    have hkey := keyOf?_assign_of_pin (f := f) distinct hr he hpin
    obtain ⟨item, hitem, rfl⟩ := Option.map_eq_some_iff.1 hkey
    have hg := mem_pinnedGrants_of_pin hr he hpin
    exact ⟨item, hitem, rfl, pinned_of_mem (List.mem_append_left _ hg) rfl hitem⟩
  · intro records' same order r hr he
    have distinct' := (same.map Record.itemId).nodup_iff.1 distinct
    obtain ⟨g, hg, hwho⟩ := exists_grant f hr he
    have hkey := keyOf?_assign_of_mem distinct hg
    have hkey' := keyOf?_assign_of_mem distinct' ((perm_batchGrants f same order).mem_iff.1 hg)
    rw [hwho] at hkey hkey'
    exact ⟨g.key, hkey, hkey'⟩

theorem keyOf?_sharedPin_reverse :
    ((sharedPin.filter Record.isExportable).map Record.itemId).Nodup ∧
      (∃ item, ((new .standard).assign sharedPin).1.state? "3" = some item ∧
        item.key = "zotero-".toList ∧ item.pinned = true) ∧
      ∃ key, ((new .standard).assign sharedPin).1.keyOf? "1" = some key ∧
        ((new .standard).assign sharedPin.reverse).1.keyOf? "1" = some key := by
  have distinct : ((sharedPin.filter Record.isExportable).map Record.itemId).Nodup := by decide
  have h := keyOf?_assign_stable .standard sharedPin distinct
  refine ⟨distinct, ?_, ?_⟩
  · exact h.1 sharedPin[3] (by simp [sharedPin]) (by decide) "zotero-" (by decide +kernel)
  · refine h.2 sharedPin.reverse ?_ rfl sharedPin[0] (by simp [sharedPin]) (by decide)
    rw [List.filter_reverse]
    exact (List.reverse_perm _).symm

end Registry

end Bibliography.CiteKey
