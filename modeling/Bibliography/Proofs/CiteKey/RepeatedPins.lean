import Bibliography.Proofs.CiteKey.Batch
import Bibliography.Proofs.Repeats

/-! # Repeated pins

A registry warns of a record that pins a key another one before it pins, and of nothing else: while
pinned keys are given, the keys in the registry are those of the records before.
-/

namespace Bibliography.CiteKey
set_option autoImplicit false

/-- The warning about a record that pins a key. -/
def pinWarning? (r : Record) : Option RepeatedPin :=
  (pinnedKey? r.extra).map fun key => ⟨key, r.itemId⟩

/-- The warnings about the entries of a batch that pin a key an entry before them pins. -/
def repeatedPins (records : List Record) : List RepeatedPin :=
  (repeats (fun r => pinnedKey? r.extra) (records.filter Registry.isPinned)).filterMap pinWarning?

namespace Registry

/-- A pin warns if its key is in the registry. -/
theorem warnings_givePinned {g : Registry} {r : Record} {key : Text}
    (h : pinnedKey? r.extra = some key) :
    (givePinned g r).warnings =
      g.warnings ++ if g.entries.has key then [⟨key, r.itemId⟩] else [] := by
  simp only [givePinned, h, Registry.record]
  split
  · rfl
  · exact (List.append_nil _).symm

theorem warnings_foldl_givePinned (f : Formatter) {records : List Record}
    (h : ∀ r ∈ records, hasPin r = true) :
    (records.foldl givePinned { new f with assigned := true }).warnings =
      (repeats (fun r => pinnedKey? r.extra) records).filterMap pinWarning? := by
  induction records using List.reverseRecOn with
  | nil => rfl
  | append_singleton rs r ih =>
    have hfollows := (kept_follows f).foldl_givePinned (kept_follows f).start rs
    obtain ⟨key, hkey⟩ := Option.isSome_iff_exists.1 (h r (by simp))
    have hwarning : pinWarning? r = some ⟨key, r.itemId⟩ := by rw [pinWarning?, hkey]; rfl
    -- the keys in the registry are those pinned so far
    have hseen : (rs.map fun r => pinnedKey? r.extra).contains (some key) =
        (rs.foldl givePinned { new f with assigned := true }).entries.has key := by
      rw [Bool.eq_iff_iff, List.contains_iff_mem, ← Dict.mem_names_iff, hfollows.names,
        List.nil_append, List.mem_map, List.mem_map]
      constructor
      · rintro ⟨t, ht, hpin⟩
        exact ⟨_, mem_pinnedGrants_iff.2 ⟨t, ht, key, hpin, rfl⟩, rfl⟩
      · rintro ⟨g, hg, rfl⟩
        obtain ⟨t, ht, key, hpin, rfl⟩ := mem_pinnedGrants_iff.1 hg
        exact ⟨t, ht, hpin⟩
    rw [List.foldl_append, repeats_concat, List.filterMap_append,
      ← ih fun t ht => h t (List.mem_append_left _ ht), hkey, hseen]
    rw [List.foldl_cons, List.foldl_nil, warnings_givePinned hkey]
    split
    · rw [List.filterMap_cons_some hwarning, List.filterMap_nil]
    · rfl

theorem warnings_foldl_giveGenerated (g : Registry) (records : List Record) :
    (records.foldl giveGenerated g).warnings = g.warnings := by
  induction records generalizing g with
  | nil => rfl
  | cons r rs ih => exact ih (giveGenerated g r)

/-- The warnings of a batch are those about keys that are pinned again. -/
theorem warnings_assign (f : Formatter) (records : List Record) :
    ((new f).assign records).1.warnings = repeatedPins records := by
  have hpinned : ∀ r ∈ records.filter isPinned, hasPin r = true := fun r hr =>
    hasPin_of_isPinned (List.mem_filter.1 hr).2
  exact (warnings_foldl_giveGenerated _ _).trans (warnings_foldl_givePinned f hpinned)

end Registry
end Bibliography.CiteKey
