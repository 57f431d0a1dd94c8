import Bibliography.Proofs.CiteKey.FreeKey

/-! # The grants of a batch

Giving keys to a batch is a list of grants: who asked for which candidate and which key came of it.
`batchGrants` is that list, worked out from the records alone. A registry is, at every moment, what
the grants made so far say (`Registry.Follows`):

* an entry holds everyone whose candidate or key it is, in the order of their grants;
* an item has the key it was granted last.

`keyOf?_assign` is what this comes to for a whole batch.
-/

namespace Bibliography.CiteKey
set_option autoImplicit false

/-- A record was given a key. -/
structure Grant where
  who : Request
  /-- The key it asked for. -/
  candidate : Text
  /-- The key it got. -/
  key : Text
deriving DecidableEq, Repr

/-! ## The grants -/

/-- The records that pin a key get it. -/
def pinnedGrants (records : List Record) : List Grant :=
  records.filterMap fun r => (pinnedKey? r.extra).map fun key => ⟨⟨r.itemId, true⟩, key, key⟩

/-- The other records get the keys their candidates lead to, one after the other. -/
def generatedGrants (f : Formatter) : List Text → List Record → List Grant
  | _, [] => []
  | taken, r :: rs =>
    let key := freeKey taken (Registry.candidate f r)
    ⟨⟨r.itemId, false⟩, Registry.candidate f r, key⟩ :: generatedGrants f (taken ++ [key]) rs

/-- The grants of a batch, pinned keys first. -/
def batchGrants (f : Formatter) (records : List Record) : List Grant :=
  let pinned := pinnedGrants (records.filter Registry.isPinned)
  pinned ++ generatedGrants f (pinned.map Grant.key) (records.filter Registry.isGenerated)

/-! ## What grants say -/

/-- The key was asked for or given. -/
def Grant.touches (g : Grant) (key : Text) : Bool := g.candidate == key || g.key == key

/-- What is known of a key after some grants. -/
def entryAfter (gs : List Grant) (key : Text) : Option KeyEntry :=
  let asked := gs.filter (Grant.touches · key)
  asked.head?.map fun first => ⟨first.candidate, asked.map Grant.who⟩

/-- The key an item was granted last. -/
def keyAfter (gs : List Grant) (itemId : Text) : Option Text :=
  (gs.reverse.find? fun g => g.who.itemId == itemId).map Grant.key

theorem Grant.touches_eq_true_iff {g : Grant} {key : Text} :
    g.touches key = true ↔ key = g.candidate ∨ key = g.key := by
  rw [touches, Bool.or_eq_true, beq_iff_eq, beq_iff_eq, @eq_comm _ key, @eq_comm _ key]

/-- One more grant changes what is known of its candidate and its key, and of no other. -/
theorem entryAfter_concat (gs : List Grant) (g : Grant) (key : Text) :
    entryAfter (gs ++ [g]) key =
      if key = g.candidate ∨ key = g.key then
        some ((entryAfter gs key).elim ⟨g.candidate, [g.who]⟩ (Registry.joined · g.who))
      else entryAfter gs key := by
  by_cases h : g.touches key = true
  · rw [if_pos (Grant.touches_eq_true_iff.1 h)]
    simp only [entryAfter, List.filter_append, List.filter_cons, h, if_true, List.filter_nil,
      List.map_append, List.map_cons, List.map_nil]
    cases gs.filter (Grant.touches · key) with
    | nil => rfl
    | cons first asked => rfl
  · rw [if_neg (mt Grant.touches_eq_true_iff.2 h)]
    simp [entryAfter, List.filter_append, h]

theorem keyAfter_concat (gs : List Grant) (g : Grant) (itemId : Text) :
    keyAfter (gs ++ [g]) itemId =
      if itemId = g.who.itemId then some g.key else keyAfter gs itemId := by
  by_cases h : itemId = g.who.itemId
  · simp [keyAfter, h]
  · have hne : (g.who.itemId == itemId) = false := beq_eq_false_iff_ne.2 (Ne.symm h)
    simp [keyAfter, h, hne]

/-! ## Registries that follow grants -/

namespace Registry

/-- The registry is what the grants say; nobody is linked yet. -/
structure Follows (f : Formatter) (g : Registry) (gs : List Grant) : Prop where
  formatter : g.formatter = f
  entries : ∀ key, g.entries.get? key = entryAfter gs key
  names : ∀ key, key ∈ g.entries.names ↔ key ∈ gs.map Grant.key
  items : ∀ itemId, g.items.get? itemId =
    (keyAfter gs itemId).map fun key => ⟨key, false, none, none⟩

theorem Follows.entryAfter_eq_none {f : Formatter} {g : Registry} {gs : List Grant}
    (h : Follows f g gs) {key : Text} (hkey : key ∉ gs.map Grant.key) :
    entryAfter gs key = none := by
  rw [← h.names, Dict.mem_names_iff, Dict.has, Bool.not_eq_true, Option.isSome_eq_false_iff,
    Option.isNone_iff_eq_none] at hkey
  rw [← h.entries, hkey]

/-! ## One grant -/

/-- The grant a request leads to. -/
def granted (gs : List Grant) (candidate : Text) (who : Request) : Grant :=
  ⟨who, candidate, if who.pinned then candidate else freeKey (gs.map Grant.key) candidate⟩

theorem Follows.freeKey_names {f : Formatter} {g : Registry} {gs : List Grant}
    (h : Follows f g gs) (candidate : Text) :
    freeKey g.entries.names candidate = freeKey (gs.map Grant.key) candidate :=
  freeKey_congr h.names candidate

theorem Follows.request_key {f : Formatter} {g : Registry} {gs : List Grant} (h : Follows f g gs)
    (candidate : Text) (who : Request) :
    (request g.entries candidate who).2 = (granted gs candidate who).key := by
  rcases request_cases g.entries candidate who with ⟨hfree, hr⟩ | ⟨_, _, hp, hr⟩ | ⟨_, _, hp, hr⟩
  · rw [h.names] at hfree
    simp [hr, granted, freeKey, hfree]
  · simp [hr, granted, hp]
  · simp [hr, granted, hp, h.freeKey_names]

/-- After a request the entries are what the grants say with its grant among them. -/
theorem Follows.request_entries {f : Formatter} {g : Registry} {gs : List Grant}
    (h : Follows f g gs) (candidate : Text) (who : Request) (key : Text) :
    (request g.entries candidate who).1.get? key =
      entryAfter (gs ++ [granted gs candidate who]) key := by
  have hafter : entryAfter (gs ++ [granted gs candidate who]) key =
      if key = candidate ∨ key = (request g.entries candidate who).2 then
        some ((entryAfter gs key).elim ⟨candidate, [who]⟩ (joined · who))
      else entryAfter gs key := by
    rw [h.request_key]
    exact entryAfter_concat gs _ key
  rcases request_cases g.entries candidate who with
    ⟨hfree, hr⟩ | ⟨entry, he, -, hr⟩ | ⟨entry, he, -, hr⟩
  · rw [h.names] at hfree
    simp only [hafter, hr, give, Dict.get?_put, or_self]
    by_cases hk : key = candidate
    · rw [if_pos hk, if_pos hk, hk, h.entryAfter_eq_none hfree]
      rfl
    · rw [if_neg hk, if_neg hk, h.entries]
  · simp only [hafter, hr, Dict.get?_put, or_self]
    by_cases hk : key = candidate
    · rw [if_pos hk, if_pos hk, hk, ← h.entries, he]
      rfl
    · rw [if_neg hk, if_neg hk, h.entries]
  · simp only [hafter, hr, give, Dict.get?_put, h.freeKey_names]
    by_cases hf : key = freeKey (gs.map Grant.key) candidate
    · rw [if_pos hf, if_pos (Or.inr hf), h.entryAfter_eq_none (hf ▸ freeKey_notMem _ _)]
      rfl
    · by_cases hk : key = candidate
      · rw [if_neg hf, if_pos hk, if_pos (Or.inl hk), hk, ← h.entries, he]
        rfl
      · rw [if_neg hf, if_neg hk, if_neg (by simp [hf, hk]), h.entries]

theorem mem_names_request (entries : Dict KeyEntry) (candidate : Text) (who : Request)
    (key : Text) :
    key ∈ (request entries candidate who).1.names ↔
      key ∈ entries.names ∨ key = (request entries candidate who).2 := by
  rcases request_cases entries candidate who with ⟨-, hr⟩ | ⟨entry, he, -, hr⟩ | ⟨entry, he, -, hr⟩
  · rw [hr, give, Dict.mem_names_put, or_comm]
  · rw [hr, Dict.mem_names_put, or_comm]
  · have htaken : candidate ∈ entries.names := by simp [Dict.mem_names_iff, Dict.has, he]
    have hjoin : key = candidate ∨ key ∈ entries.names ↔ key ∈ entries.names :=
      or_iff_right_of_imp fun hk => hk ▸ htaken
    rw [hr, give, Dict.mem_names_put, Dict.mem_names_put, hjoin, or_comm]

/-- The registry goes on following the grants when a request is recorded. -/
theorem Follows.record {f : Formatter} {g : Registry} {gs : List Grant} (h : Follows f g gs)
    (candidate : Text) (who : Request) :
    Follows f (g.record who.itemId (request g.entries candidate who))
      (gs ++ [granted gs candidate who]) where
  formatter := h.formatter
  entries := h.request_entries candidate who
  names := by
    intro key
    simp only [Registry.record, mem_names_request, h.names, h.request_key, List.map_append,
      List.map_cons, List.map_nil, List.mem_append, List.mem_singleton]
  items := by
    intro itemId
    simp only [Registry.record, Dict.get?_put, h.items, h.request_key, keyAfter_concat]
    by_cases hi : itemId = who.itemId
    · simp [hi, granted]
    · simp [hi, granted]

theorem Follows.warned {f : Formatter} {g : Registry} {gs : List Grant} (h : Follows f g gs)
    (warnings : List RepeatedPin) : Follows f { g with warnings } gs where
  formatter := h.formatter
  entries := h.entries
  names := h.names
  items := h.items

theorem follows_new (f : Formatter) : Follows f { new f with assigned := true } [] :=
  ⟨rfl, fun _ => rfl, fun _ => Iff.rfl, fun _ => rfl⟩

/-! ## Runs -/

/-- A relation between a registry and the grants made so far that holds at the start of a batch and
when one more request is recorded. -/
structure Kept (f : Formatter) (P : Registry → List Grant → Prop) : Prop where
  start : P { new f with assigned := true } []
  formatter : ∀ {g gs}, P g gs → g.formatter = f
  warned : ∀ {g gs}, P g gs → ∀ warnings, P { g with warnings } gs
  record : ∀ {g gs}, P g gs → ∀ candidate who,
    P (g.record who.itemId (request g.entries candidate who)) (gs ++ [granted gs candidate who])

section Runs
variable {f : Formatter} {P : Registry → List Grant → Prop}

theorem Kept.foldl_givePinned (kept : Kept f P) {g : Registry} {gs : List Grant} (h : P g gs)
    (records : List Record) : P (records.foldl givePinned g) (gs ++ pinnedGrants records) := by
  induction records generalizing g gs with
  | nil => simpa [pinnedGrants] using h
  | cons r rs ih =>
    cases hp : pinnedKey? r.extra with
    | none =>
      have hstep : givePinned g r = g := by simp [givePinned, hp]
      have hgrants : pinnedGrants (r :: rs) = pinnedGrants rs := by simp [pinnedGrants, hp]
      rw [List.foldl_cons, hstep, hgrants]
      exact ih h
    | some key =>
      have hgrants : gs ++ pinnedGrants (r :: rs) =
          gs ++ [granted gs key ⟨r.itemId, true⟩] ++ pinnedGrants rs := by
        simp [pinnedGrants, hp, granted]
      rw [List.foldl_cons, hgrants]
      refine ih ?_
      simp only [givePinned, hp]
      split
      · exact kept.record (kept.warned h _) key ⟨r.itemId, true⟩
      · exact kept.record h key ⟨r.itemId, true⟩

theorem Kept.foldl_giveGenerated (kept : Kept f P) {g : Registry} {gs : List Grant} (h : P g gs)
    (records : List Record) :
    P (records.foldl giveGenerated g) (gs ++ generatedGrants f (gs.map Grant.key) records) := by
  induction records generalizing g gs with
  | nil => simpa [generatedGrants] using h
  | cons r rs ih =>
    have hstep := ih (kept.record h (candidate f r) ⟨r.itemId, false⟩)
    have hgrants : gs ++ generatedGrants f (gs.map Grant.key) (r :: rs) =
        gs ++ [granted gs (candidate f r) ⟨r.itemId, false⟩] ++
          generatedGrants f ((gs ++ [granted gs (candidate f r) ⟨r.itemId, false⟩]).map Grant.key)
            rs := by
      simp [generatedGrants, granted]
    rw [List.foldl_cons, hgrants, giveGenerated, kept.formatter h]
    exact hstep

/-- What is kept holds, before the batch is linked, of its registry and its grants. -/
theorem Kept.batch (kept : Kept f P) (records : List Record) :
    P ((records.filter isGenerated).foldl giveGenerated
        ((records.filter isPinned).foldl givePinned { new f with assigned := true }))
      (batchGrants f records) :=
  kept.foldl_giveGenerated (kept.foldl_givePinned kept.start _) _

end Runs

theorem kept_follows (f : Formatter) : Kept f (Follows f) where
  start := follows_new f
  formatter h := h.formatter
  warned h := h.warned
  record h := h.record

end Registry
end Bibliography.CiteKey
