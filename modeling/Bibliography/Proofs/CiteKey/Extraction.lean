import Bibliography.Proofs.CiteKey.Directives
import Bibliography.Proofs.CiteKey.Entries
import Mathlib.Data.List.Forall2

/-! # What is taken out of the records of a batch

The records of a batch come back one by one and in order. Nothing but the extra field of an entry
that pins its key is touched, and of that only the directive and the blanks at both ends go. The key
in the directive is the one that is looked up, cut out and given. Keys are kept by item: where
several entries have one item, the key of the entry served last stands.
-/

namespace Bibliography.CiteKey
set_option autoImplicit false
open Text

/-! ## One record -/

namespace Registry

theorem extra_withoutPin_of_not_isExportable {r : Record} (h : r.isExportable = false) :
    (withoutPin r).extra = r.extra := by
  rw [withoutPin, if_neg (by simp [h])]

theorem extra_withoutPin_of_none {r : Record} (h : pinnedKey? r.extra = none) :
    (withoutPin r).extra = r.extra := by
  have hfind : Pin.find? r.extra = none := Option.map_eq_none_iff.1 h
  unfold withoutPin
  split
  · rw [hfind]
  · rfl

/-- What is cut out of an entry is the directive whose key is pinned. -/
theorem exists_pinnedBy {r : Record} (he : r.isExportable = true) {key : Text}
    (h : pinnedKey? r.extra = some key) :
    ∃ before source after, PinnedBy r.extra before source key after ∧
      (withoutPin r).extra = trim (before ++ after) := by
  obtain ⟨pin, hfind, rfl⟩ := Option.map_eq_some_iff.1 h
  obtain ⟨source, hpinned⟩ := find?_eq_some_iff.1 hfind
  refine ⟨pin.before, source, pin.after, hpinned, ?_⟩
  rw [withoutPin, if_pos he, hfind]
  rfl

end Registry

/-! ## Its key -/

/-- What the last grant of an item says stays. -/
theorem keyAfter_of_last {before after : List Grant} {g : Grant}
    (hlast : ∀ g' ∈ after, g'.who.itemId ≠ g.who.itemId) :
    keyAfter (before ++ g :: after) g.who.itemId = some g.key := by
  have hafter : after.reverse.find? (fun g' => g'.who.itemId == g.who.itemId) = none := by
    rw [List.find?_eq_none]
    intro g' hg'
    rw [beq_iff_eq]
    exact hlast g' (List.mem_reverse.1 hg')
  rw [keyAfter, List.reverse_append, List.reverse_cons, List.find?_append, List.find?_append,
    hafter]
  simp

/-- The key a record is given where some are taken: the one it pins, or else its candidate, with the
first suffix that makes it free if it is taken. -/
def keyGiven (f : Formatter) (taken : List Text) (r : Record) : Text :=
  (pinnedKey? r.extra).getD (freeKey taken (Registry.candidate f r))

/-- The keys that are given to records served one after the other. -/
def keysGiven (f : Formatter) (records : List Record) : List Text :=
  records.foldl (fun taken r => taken ++ [keyGiven f taken r]) []

theorem keysGiven_concat (f : Formatter) (records : List Record) (r : Record) :
    keysGiven f (records ++ [r]) =
      keysGiven f records ++ [keyGiven f (keysGiven f records) r] := by
  rw [keysGiven, List.foldl_append]
  rfl

theorem keyGiven_of_pin (f : Formatter) (taken : List Text) {r : Record} {key : Text}
    (h : pinnedKey? r.extra = some key) : keyGiven f taken r = key := by
  rw [keyGiven, h]
  rfl

theorem key_granted (f : Formatter) (before : List Grant) (r : Record) :
    (Registry.granted before (wanted f r) ⟨r.itemId, hasPin r⟩).key =
      keyGiven f (before.map Grant.key) r := by
  cases hpin : pinnedKey? r.extra with
  | some key => simp [Registry.granted, keyGiven, wanted, hasPin, hpin]
  | none => simp [Registry.granted, keyGiven, wanted, hasPin, hpin]

theorem key_of_request {f : Formatter} {records : List Record} {before after : List Grant}
    {g : Grant} (h : batchGrants f records = before ++ g :: after) {r : Record}
    (hg : (g.who, g.candidate) = (⟨r.itemId, hasPin r⟩, wanted f r)) :
    g.key = keyGiven f (before.map Grant.key) r := by
  obtain ⟨hwho, hcandidate⟩ := Prod.mk.inj hg
  rw [eq_granted h, hwho, hcandidate, key_granted]

/-- The keys that are granted first go to the records served first. -/
theorem map_key_eq_keysGiven {f : Formatter} {records earlier : List Record}
    {before after : List Grant} (h : batchGrants f records = before ++ after)
    (hrequests : before.map (fun g => (g.who, g.candidate)) =
      earlier.map fun r => (⟨r.itemId, hasPin r⟩, wanted f r)) :
    before.map Grant.key = keysGiven f earlier := by
  induction earlier using List.reverseRecOn generalizing before after with
  | nil =>
    rw [List.map_nil, List.map_eq_nil_iff] at hrequests
    rw [hrequests]
    rfl
  | append_singleton earlier r ih =>
    rw [List.map_append, List.map_singleton] at hrequests
    obtain ⟨front, last, rfl, hfront, hlast⟩ := List.map_eq_append_iff.1 hrequests
    obtain ⟨g, rfl, hg⟩ := List.map_eq_singleton_iff.1 hlast
    rw [List.append_assoc] at h
    have hkeys := ih h hfront
    rw [List.map_append, List.map_singleton, keysGiven_concat, key_of_request h hg, hkeys]

/-- The grants of a batch are cut where the records that are served are. -/
theorem exists_grant_of_served {f : Formatter} {records earlier later : List Record} {r : Record}
    (h : served records = earlier ++ r :: later) :
    ∃ before g after, batchGrants f records = before ++ g :: after ∧ g.who.itemId = r.itemId ∧
      g.key = keyGiven f (keysGiven f earlier) r ∧
      after.map (fun g => g.who.itemId) = later.map Record.itemId := by
  have hgrants := map_request_batchGrants f records
  rw [h, List.map_append, List.map_cons] at hgrants
  obtain ⟨before, rest, hcut, hbefore, hrest⟩ := List.map_eq_append_iff.1 hgrants
  obtain ⟨g, after, rfl, hg, hafter⟩ := List.map_eq_cons_iff.1 hrest
  obtain ⟨hwho, -⟩ := Prod.mk.inj hg
  refine ⟨before, g, after, hcut, by rw [hwho], ?_, ?_⟩
  · rw [key_of_request hcut hg, map_key_eq_keysGiven hcut hbefore]
  · have hids := congrArg (List.map fun p => p.1.itemId) hafter
    simpa only [List.map_map, Function.comp_def] using hids

/-- Of all records with one item, the one served last has its key looked up. -/
theorem keyOf?_of_last {f : Formatter} {records earlier later : List Record} {r : Record}
    (h : served records = earlier ++ r :: later) (hlast : ∀ t ∈ later, t.itemId ≠ r.itemId) :
    ((Registry.new f).assign records).1.keyOf? r.itemId =
      some (keyGiven f (keysGiven f earlier) r) := by
  obtain ⟨before, g, after, hcut, hid, hkey, hids⟩ := exists_grant_of_served (f := f) h
  have hafter : ∀ g' ∈ after, g'.who.itemId ≠ g.who.itemId := by
    intro g' hg'
    have hmem := List.mem_map_of_mem (f := fun g => g.who.itemId) hg'
    rw [hids] at hmem
    obtain ⟨t, ht, hsame⟩ := List.mem_map.1 hmem
    rw [hid, ← hsame]
    exact hlast t ht
  rw [Registry.keyOf?_assign, hcut, ← hid, keyAfter_of_last hafter, hkey]

/-- The entry of a pinned key lists the record that pins it. -/
theorem exists_entry_of_pin (f : Formatter) {records : List Record} {r : Record}
    (hr : r ∈ records) (he : r.isExportable = true) {key : Text}
    (hpin : pinnedKey? r.extra = some key) :
    ∃ entry, Registry.entry? ((Registry.new f).assign records).1 key = some entry ∧
      ⟨r.itemId, true⟩ ∈ entry.requests := by
  have hgrant : (⟨⟨r.itemId, true⟩, key, key⟩ : Grant) ∈ batchGrants f records :=
    List.mem_append_left _ (mem_pinnedGrants_of_pin hr he hpin)
  rw [Registry.entry?_eq_entryAfter]
  exact Registry.mem_requests_entryAfter hgrant

/-! ## The batch -/

/-- What a batch returns for a record, and what it makes of the key pinned in it. -/
structure Returned (f : Formatter) (records : List Record) (r returned : Record) : Prop where
  others : returned = { r with extra := returned.extra }
  unpinned : pinnedKey? r.extra = none ↔
    NoMatch Marked r.extra ∧ NoMatch (Bracketed keyName) r.extra
  kept : r.isExportable = false ∨ pinnedKey? r.extra = none → returned.extra = r.extra
  cut : r.isExportable = true → ∀ key, pinnedKey? r.extra = some key →
    ∃ before source after, PinnedBy r.extra before source key after ∧
      returned.extra = trim (before ++ after)
  listed : r.isExportable = true → ∀ key, pinnedKey? r.extra = some key →
    ∃ entry, Registry.entry? ((Registry.new f).assign records).1 key = some entry ∧
      ⟨r.itemId, true⟩ ∈ entry.requests
  given : r.isExportable = true → ∀ key, pinnedKey? r.extra = some key →
    ∀ earlier later, served records = earlier ++ r :: later →
      (∀ t ∈ later, t.itemId ≠ r.itemId) →
        ((Registry.new f).assign records).1.keyOf? r.itemId = some key
  shared : ∀ earlier t later, served records = earlier ++ t :: later → t.itemId = r.itemId →
    (∀ u ∈ later, u.itemId ≠ r.itemId) →
      ((Registry.new f).assign records).1.keyOf? r.itemId =
        some (keyGiven f (keysGiven f earlier) t)

/-- The records of a batch are returned in order, each without the directive that pins its key and
otherwise as it was. -/
theorem forall₂_returned (f : Formatter) (records : List Record) :
    List.Forall₂ (Returned f records) records ((Registry.new f).assign records).2 := by
  have hreturned : ((Registry.new f).assign records).2 = records.map Registry.withoutPin := rfl
  rw [hreturned, List.forall₂_map_right_iff, List.forall₂_same]
  intro r hr
  exact {
    others := Registry.withoutPin_eq r
    unpinned := pinnedKey?_eq_none_iff
    kept := fun h => h.elim Registry.extra_withoutPin_of_not_isExportable
      Registry.extra_withoutPin_of_none
    cut := fun he key hpin => Registry.exists_pinnedBy he hpin
    listed := fun he key hpin => exists_entry_of_pin f hr he hpin
    given := fun _ key hpin earlier later hserved hlast => by
      rw [keyOf?_of_last hserved hlast, keyGiven_of_pin f _ hpin]
    shared := fun earlier t later hserved hid hlast => by
      rw [← hid]
      exact keyOf?_of_last hserved fun u hu => hid ▸ hlast u hu }

/-- A note with a directive, and a book with directives of both forms. -/
def marked : List Record := [
  { Record.blank with itemId := "1", itemType := "note", extra := "bibtex: x" },
  { Record.blank with
    itemId := "2", itemType := "book", extra := "biblatexcitekey[a] bibtex: b bibtex: c " }]

theorem returned_marked :
    ((Registry.new .standard).assign marked).2.map Record.extra =
        ["bibtex: x".toList, "biblatexcitekey[a]  bibtex: c".toList] ∧
      (∃ before source after, PinnedBy marked[1].extra before source "b" after ∧
        trim (before ++ after) = "biblatexcitekey[a]  bibtex: c".toList) ∧
      ((Registry.new .standard).assign marked).1.keyOf? "2" = some "b".toList := by
  have hextras : ((Registry.new .standard).assign marked).2.map Record.extra =
      ["bibtex: x".toList, "biblatexcitekey[a]  bibtex: c".toList] := by decide
  have hbook : Returned .standard marked marked[1]
      ((Registry.new .standard).assign marked).2[1] :=
    (forall₂_returned .standard marked).get (i := 1) (by decide) (by decide)
  have hpin : pinnedKey? marked[1].extra = some "b".toList := by decide
  obtain ⟨before, source, after, hpinned, hextra⟩ := hbook.cut (by decide) "b" hpin
  refine ⟨hextras, ⟨before, source, after, hpinned, ?_⟩, ?_⟩
  · have hsecond := congrArg (·[1]?) hextras
    rw [← hextra]
    exact Option.some.inj hsecond
  · exact hbook.given (by decide) "b" hpin [] [] rfl (by simp)

/-- Two books with one item, of which only the first pins a key. -/
def sharedItem : List Record := [
  { Record.blank with itemId := "1", itemType := "book", key := "A", extra := "bibtex: smith2020" },
  { Record.blank with itemId := "1", itemType := "book", key := "B" }]

/-- The key that is looked up for an item is that of the entry served last. -/
theorem keyOf?_sharedItem :
    sharedItem[0].isExportable = true ∧
      pinnedKey? sharedItem[0].extra = some "smith2020".toList ∧
      ((Registry.new .standard).assign sharedItem).1.keyOf? sharedItem[0].itemId ≠
        some "smith2020".toList := by
  exact ⟨by decide, by decide, by decide +kernel⟩

end Bibliography.CiteKey
