import Bibliography.Proofs.CiteKey.Keys

/-! # The grants of a batch, record by record

Every entry of a batch has one grant: it asks for the key it wants, in the order in which the
entries are served, and gets what the grants before it leave free. Nothing else goes into a
registry, so what is known of a key or of an entry can be read off the records.
-/

namespace Bibliography.CiteKey
set_option autoImplicit false

/-- The key a record asks for: the one it pins, or else its candidate. -/
def wanted (f : Formatter) (r : Record) : Text :=
  (pinnedKey? r.extra).getD (Registry.candidate f r)

/-- The entries of a batch in the order in which they are served. -/
def served (records : List Record) : List Record :=
  records.filter Registry.isPinned ++ records.filter Registry.isGenerated

theorem hasPin_of_isPinned {r : Record} (h : Registry.isPinned r = true) : hasPin r = true :=
  (Bool.and_eq_true_iff.1 h).2

theorem hasPin_of_isGenerated {r : Record} (h : Registry.isGenerated r = true) :
    hasPin r = false := by
  have hnone := (Bool.and_eq_true_iff.1 h).2
  rw [Option.isNone_iff_eq_none] at hnone
  rw [hasPin, hnone]
  rfl

theorem wanted_of_pin {f : Formatter} {r : Record} {key : Text}
    (h : pinnedKey? r.extra = some key) : wanted f r = key := by
  rw [wanted, h]
  rfl

theorem wanted_of_unpinned {f : Formatter} {r : Record} (h : hasPin r = false) :
    wanted f r = Registry.candidate f r := by
  rw [hasPin, Option.isSome_eq_false_iff, Option.isNone_iff_eq_none] at h
  rw [wanted, h]
  rfl

theorem served_perm (records : List Record) :
    (served records).Perm (records.filter Record.isExportable) := by
  rw [served, filter_isPinned, filter_isGenerated]
  exact List.filter_append_perm hasPin _

theorem mem_served {records : List Record} {r : Record} :
    r ∈ served records ↔ r ∈ records ∧ r.isExportable = true := by
  rw [(served_perm records).mem_iff, List.mem_filter]

/-! ## Who asks for what -/

theorem map_request_pinnedGrants (f : Formatter) {records : List Record}
    (h : ∀ r ∈ records, hasPin r = true) :
    (pinnedGrants records).map (fun g => (g.who, g.candidate)) =
      records.map fun r => (⟨r.itemId, hasPin r⟩, wanted f r) := by
  induction records with
  | nil => rfl
  | cons r rs ih =>
    have hr := h r (List.mem_cons_self ..)
    obtain ⟨key, hkey⟩ := Option.isSome_iff_exists.1 hr
    have hgrants : pinnedGrants (r :: rs) = ⟨⟨r.itemId, true⟩, key, key⟩ :: pinnedGrants rs := by
      simp [pinnedGrants, hkey]
    rw [hgrants, List.map_cons, List.map_cons, ih fun t ht => h t (List.mem_cons_of_mem _ ht), hr,
      wanted_of_pin hkey]

theorem map_request_generatedGrants (f : Formatter) (taken : List Text) {records : List Record}
    (h : ∀ r ∈ records, hasPin r = false) :
    (generatedGrants f taken records).map (fun g => (g.who, g.candidate)) =
      records.map fun r => (⟨r.itemId, hasPin r⟩, wanted f r) := by
  induction records generalizing taken with
  | nil => rfl
  | cons r rs ih =>
    have hr := h r (List.mem_cons_self ..)
    rw [generatedGrants, List.map_cons, List.map_cons,
      ih _ fun t ht => h t (List.mem_cons_of_mem _ ht), hr, wanted_of_unpinned hr]

/-- The grants of a batch go, in order, to the entries it serves. -/
theorem map_request_batchGrants (f : Formatter) (records : List Record) :
    (batchGrants f records).map (fun g => (g.who, g.candidate)) =
      (served records).map fun r => (⟨r.itemId, hasPin r⟩, wanted f r) := by
  have hpinned : ∀ r ∈ records.filter Registry.isPinned, hasPin r = true := fun r hr =>
    hasPin_of_isPinned (List.mem_filter.1 hr).2
  have hgenerated : ∀ r ∈ records.filter Registry.isGenerated, hasPin r = false := fun r hr =>
    hasPin_of_isGenerated (List.mem_filter.1 hr).2
  rw [batchGrants, List.map_append, map_request_pinnedGrants f hpinned,
    map_request_generatedGrants f _ hgenerated, served, List.map_append]

/-! ## What they get -/

theorem key_of_generatedGrants {f : Formatter} {taken : List Text} {records : List Record}
    {before after : List Grant} {g : Grant}
    (h : generatedGrants f taken records = before ++ g :: after) :
    g.key = freeKey (taken ++ before.map Grant.key) g.candidate := by
  induction before generalizing taken records with
  | nil =>
    cases records with
    | nil => simp [generatedGrants] at h
    | cons r rs =>
      obtain ⟨hfirst, -⟩ := List.cons.inj h
      rw [← hfirst, List.map_nil, List.append_nil]
  | cons b before ih =>
    cases records with
    | nil => simp [generatedGrants] at h
    | cons r rs =>
      obtain ⟨hfirst, hrest⟩ := List.cons.inj h
      have hkey := ih hrest
      rw [hkey, ← hfirst, List.map_cons, List.append_assoc, List.singleton_append]

/-- A grant of a batch is what its request leads to after the grants before it. -/
theorem eq_granted {f : Formatter} {records : List Record} {before after : List Grant} {g : Grant}
    (h : batchGrants f records = before ++ g :: after) :
    g = Registry.granted before g.candidate g.who := by
  have hg : g ∈ batchGrants f records := h ▸ List.mem_append_right _ (List.mem_cons_self ..)
  rcases Registry.mem_pinned_or_generated hg with ⟨-, hpinned⟩ | ⟨hunpinned, -⟩
  · obtain ⟨r, -, key, -, rfl⟩ := mem_pinnedGrants_iff.1 hpinned
    rfl
  · have hkey : g.key = freeKey (before.map Grant.key) g.candidate := by
      rcases List.append_eq_append_iff.1 h with ⟨mid, rfl, hmid⟩ | ⟨mid, hmid, hrest⟩
      · rw [List.map_append]
        exact key_of_generatedGrants hmid
      · cases mid with
        | nil =>
          rw [List.append_nil] at hmid
          have hlast : generatedGrants f _ (records.filter Registry.isGenerated) =
              [] ++ g :: after := hrest.symm
          rw [key_of_generatedGrants hlast, List.map_nil, List.append_nil, hmid]
        | cons b mid =>
          -- then the grant is one of a pinned key
          obtain ⟨rfl, -⟩ := List.cons.inj hrest
          have hb : g ∈ pinnedGrants (records.filter Registry.isPinned) :=
            hmid ▸ List.mem_append_right _ (List.mem_cons_self ..)
          obtain ⟨r, -, key, -, rfl⟩ := mem_pinnedGrants_iff.1 hb
          exact absurd hunpinned (by simp)
    rw [Registry.granted, hunpinned, if_neg Bool.false_ne_true, ← hkey]

theorem key_notMem_before {f : Formatter} {records : List Record} {before after : List Grant}
    {g : Grant} (h : batchGrants f records = before ++ g :: after) (hp : g.who.pinned = false) :
    g.key ∉ before.map Grant.key := by
  have hkey := congrArg Grant.key (eq_granted h)
  rw [Registry.granted, hp, if_neg Bool.false_ne_true] at hkey
  rw [hkey]
  exact freeKey_notMem _ _

/-- A grant of another key than the one asked for went to a record without a pin, for a candidate
that was taken, and gave the candidate a suffix. -/
theorem suffixed_of_ne {f : Formatter} {records : List Record} {before after : List Grant}
    {g : Grant} (h : batchGrants f records = before ++ g :: after) (hne : g.key ≠ g.candidate) :
    g.who.pinned = false ∧ g.candidate ∈ before.map Grant.key ∧
      ∃ n, g.key = g.candidate ++ suffix n := by
  have hkey := congrArg Grant.key (eq_granted h)
  rw [Registry.granted] at hkey
  cases hp : g.who.pinned with
  | true =>
    rw [hp, if_pos rfl] at hkey
    exact absurd hkey hne
  | false =>
    rw [hp, if_neg Bool.false_ne_true, freeKey] at hkey
    by_cases htaken : g.candidate ∈ before.map Grant.key
    · rw [if_pos htaken] at hkey
      exact ⟨rfl, htaken, _, hkey⟩
    · rw [if_neg htaken] at hkey
      exact absurd hkey hne

/-- A grant that touches a key gives it, unless it was given before. -/
theorem exists_key_of_touches {f : Formatter} {records : List Record} {before after : List Grant}
    {g : Grant} (h : batchGrants f records = before ++ g :: after) {key : Text}
    (htouch : g.touches key = true) : g.key = key ∨ key ∈ before.map Grant.key := by
  by_cases hsame : g.key = g.candidate
  · rcases Grant.touches_eq_true_iff.1 htouch with hkey | hkey
    · exact Or.inl (hsame.trans hkey.symm)
    · exact Or.inl hkey.symm
  · rcases Grant.touches_eq_true_iff.1 htouch with hkey | hkey
    · exact Or.inr (hkey ▸ (suffixed_of_ne h hsame).2.1)
    · exact Or.inl hkey.symm

section Distinct
variable {f : Formatter} {records : List Record}
  (distinct : ((records.filter Record.isExportable).map Record.itemId).Nodup)

/-- The grant of a record, by its key in the registry. -/
def grantOf (f : Formatter) (records : List Record) (r : Record) : Grant where
  who := ⟨r.itemId, hasPin r⟩
  candidate := wanted f r
  key := (((Registry.new f).assign records).1.keyOf? r.itemId).getD []

include distinct

theorem nodup_ids_served : ((served records).map Record.itemId).Nodup :=
  ((served_perm records).map Record.itemId).nodup_iff.2 distinct

theorem nodup_ids_batchGrants : ((batchGrants f records).map fun g => g.who.itemId).Nodup :=
  (perm_itemIds_batchGrants f records).nodup_iff.2 distinct

theorem batchGrants_eq_map : batchGrants f records = (served records).map (grantOf f records) := by
  let rebuilt : Request × Text → Grant := fun p =>
    ⟨p.1, p.2, (((Registry.new f).assign records).1.keyOf? p.1.itemId).getD []⟩
  have hrebuilt : ∀ g ∈ batchGrants f records, rebuilt (g.who, g.candidate) = g := by
    intro g hg
    have hkey := Registry.keyOf?_assign_of_mem distinct hg
    simp only [rebuilt, hkey, Option.getD_some]
  calc batchGrants f records
      = (batchGrants f records).map fun g => rebuilt (g.who, g.candidate) := by
        rw [List.map_congr_left hrebuilt, List.map_id']
    _ = ((batchGrants f records).map fun g => (g.who, g.candidate)).map rebuilt := by
        rw [List.map_map]
        rfl
    _ = (served records).map (grantOf f records) := by
        rw [map_request_batchGrants, List.map_map]
        rfl

theorem grantOf_mem {r : Record} (hr : r ∈ served records) :
    grantOf f records r ∈ batchGrants f records := by
  rw [batchGrants_eq_map distinct]
  exact List.mem_map_of_mem hr

theorem keyOf?_eq_grantOf {r : Record} (hr : r ∈ served records) :
    ((Registry.new f).assign records).1.keyOf? r.itemId = some (grantOf f records r).key :=
  Registry.keyOf?_assign_of_mem distinct (grantOf_mem distinct hr)

end Distinct
end Bibliography.CiteKey
