import Bibliography.Proofs.CiteKey.Entries
import Bibliography.Proofs.CiteKey.Order

/-! # What a record learns of its rivals

After linking an item knows whether its key is pinned, which candidate it did not get, and which
other records want or hold a key that it wants or holds. It learns all this from the entries it
touches: the one of its candidate and then the one of its key. The second one has the last word on
the candidate.
-/

namespace Bibliography.CiteKey
set_option autoImplicit false

/-- All who asked for a key, by the grants. -/
def requestsFor (gs : List Grant) (key : Text) : List Request :=
  (gs.filter (Grant.touches · key)).map Grant.who

/-- The others that want or were given what a grant's record wants or was given. -/
def rivalsOf (gs : List Grant) (g : Grant) : List Text :=
  Registry.others (requestsFor gs g.candidate) g.who.itemId ++
    if g.key = g.candidate then [] else Registry.others (requestsFor gs g.key) g.who.itemId

/-- What an item knows of its key, by the grants. -/
def itemOf (gs : List Grant) (g : Grant) : ItemKey where
  key := g.key
  pinned := g.who.pinned
  candidate := if g.who.pinned = false ∧ g.key ≠ g.candidate then some g.candidate else none
  rivals := if rivalsOf gs g = [] then none else some (rivalsOf gs g)

theorem requests_of_entryAfter {gs : List Grant} {key : Text} {entry : KeyEntry}
    (h : entryAfter gs key = some entry) : entry.requests = requestsFor gs key := by
  rw [entryAfter] at h
  obtain ⟨first, -, rfl⟩ := Option.map_eq_some_iff.1 h
  rfl

theorem mem_others {requests : List Request} {itemId id : Text} :
    id ∈ Registry.others requests itemId ↔ (∃ q ∈ requests, q.itemId = id) ∧ id ≠ itemId := by
  rw [Registry.others, List.mem_map]
  constructor
  · rintro ⟨q, hq, rfl⟩
    obtain ⟨hmem, hne⟩ := List.mem_filter.1 hq
    exact ⟨⟨q, hmem, rfl⟩, bne_iff_ne.1 hne⟩
  · rintro ⟨⟨q, hmem, rfl⟩, hne⟩
    exact ⟨q, List.mem_filter.2 ⟨hmem, bne_iff_ne.2 hne⟩, rfl⟩

theorem mem_others_requestsFor {gs : List Grant} {key itemId id : Text} :
    id ∈ Registry.others (requestsFor gs key) itemId ↔
      ∃ t ∈ gs, t.who.itemId = id ∧ id ≠ itemId ∧ t.touches key = true := by
  rw [mem_others]
  constructor
  · rintro ⟨⟨q, hq, rfl⟩, hne⟩
    obtain ⟨t, ht, rfl⟩ := List.mem_map.1 hq
    obtain ⟨hmem, htouch⟩ := List.mem_filter.1 ht
    exact ⟨t, hmem, rfl, hne, htouch⟩
  · rintro ⟨t, hmem, rfl, hne, htouch⟩
    exact ⟨⟨t.who, List.mem_map_of_mem (List.mem_filter.2 ⟨hmem, htouch⟩), rfl⟩, hne⟩

/-- The rivals are those whose candidate and key share a text with the candidate and the key. -/
theorem mem_rivalsOf {gs : List Grant} {g : Grant} {id : Text} :
    id ∈ rivalsOf gs g ↔ ∃ t ∈ gs, t.who.itemId = id ∧ id ≠ g.who.itemId ∧
      ∃ key, g.touches key = true ∧ t.touches key = true := by
  have hsplit : id ∈ rivalsOf gs g ↔
      id ∈ Registry.others (requestsFor gs g.candidate) g.who.itemId ∨
        id ∈ Registry.others (requestsFor gs g.key) g.who.itemId := by
    rw [rivalsOf, List.mem_append]
    by_cases hsame : g.key = g.candidate
    · rw [if_pos hsame, hsame, or_self]
      exact or_iff_left List.not_mem_nil
    · rw [if_neg hsame]
  rw [hsplit, mem_others_requestsFor, mem_others_requestsFor]
  constructor
  · rintro (⟨t, ht, hid, hne, htouch⟩ | ⟨t, ht, hid, hne, htouch⟩)
    · exact ⟨t, ht, hid, hne, g.candidate, Grant.touches_eq_true_iff.2 (Or.inl rfl), htouch⟩
    · exact ⟨t, ht, hid, hne, g.key, Grant.touches_eq_true_iff.2 (Or.inr rfl), htouch⟩
  · rintro ⟨t, ht, hid, hne, key, hg, htouch⟩
    rcases Grant.touches_eq_true_iff.1 hg with rfl | rfl
    · exact Or.inl ⟨t, ht, hid, hne, htouch⟩
    · exact Or.inr ⟨t, ht, hid, hne, htouch⟩

/-- Names listed after others that may not be there. -/
theorem listed_append (ids more : List Text) :
    (if more = [] then if ids = [] then none else some ids
      else some ((if ids = [] then none else some ids).getD [] ++ more)) =
      if ids ++ more = [] then none else some (ids ++ more) := by
  cases ids with
  | nil => simp
  | cons id ids => simp

/-! ## Nobody is listed twice -/

/-- Keys that were made are distinct and longer than their candidates, so only one grant touches
both a candidate and the other key that was given for it. -/
theorem itemId_eq_of_touches {f : Formatter} {records : List Record} {g t : Grant}
    (hg : g ∈ batchGrants f records) (ht : t ∈ batchGrants f records)
    (hne : g.key ≠ g.candidate) (hcandidate : t.touches g.candidate = true)
    (hkey : t.touches g.key = true) : t.who.itemId = g.who.itemId := by
  obtain ⟨before, after, hsplit⟩ := List.append_of_mem hg
  obtain ⟨hunpinned, -, n, hn⟩ := suffixed_of_ne hsplit hne
  rcases Grant.touches_eq_true_iff.1 hcandidate with hc | hc <;>
    rcases Grant.touches_eq_true_iff.1 hkey with hk | hk
  · exact absurd (hk.trans hc.symm) hne
  · by_contra hids
    have hpinned := (Registry.pinned_of_key_eq hg ht (Ne.symm hids) hk).1
    rw [hunpinned] at hpinned
    exact absurd hpinned Bool.false_ne_true
  · -- each key would be the other one with a suffix
    have hother : t.key ≠ t.candidate := fun heq => hne (hk.trans (heq.symm.trans hc.symm))
    obtain ⟨before', after', hsplit'⟩ := List.append_of_mem ht
    obtain ⟨-, -, m, hm⟩ := suffixed_of_ne hsplit' hother
    have hlonger := congrArg List.length hn
    have hlonger' := congrArg List.length hm
    rw [← hc, ← hk] at hlonger'
    have hsuffix := List.length_pos_iff.2 (suffix_ne_nil n)
    rw [List.length_append] at hlonger hlonger'
    omega
  · exact absurd (hk.trans hc.symm) hne

section Batch
variable {f : Formatter} {records : List Record}
  (distinct : ((records.filter Record.isExportable).map Record.itemId).Nodup)
include distinct

theorem nodup_others_requestsFor (key itemId : Text) :
    (Registry.others (requestsFor (batchGrants f records) key) itemId).Nodup := by
  have hids := nodup_ids_batchGrants (f := f) distinct
  rw [Registry.others, requestsFor, List.filter_map, List.map_map, List.filter_filter]
  exact hids.sublist (List.filter_sublist.map _)

theorem nodup_rivalsOf {g : Grant} (hg : g ∈ batchGrants f records) :
    (rivalsOf (batchGrants f records) g).Nodup := by
  rw [rivalsOf]
  by_cases hsame : g.key = g.candidate
  · rw [if_pos hsame, List.append_nil]
    exact nodup_others_requestsFor distinct _ _
  · rw [if_neg hsame]
    refine List.nodup_append.2
      ⟨nodup_others_requestsFor distinct _ _, nodup_others_requestsFor distinct _ _, ?_⟩
    rintro id hcandidate _ hkey rfl
    obtain ⟨t, ht, rfl, hne, htouch⟩ := mem_others_requestsFor.1 hcandidate
    obtain ⟨u, hu, hid, -, htouch'⟩ := mem_others_requestsFor.1 hkey
    have heq : u = t := List.inj_on_of_nodup_map (nodup_ids_batchGrants distinct) hu ht hid
    exact hne (itemId_eq_of_touches hg ht hsame htouch (heq ▸ htouch'))

/-! ## The walk of one item -/

namespace Registry

theorem filter_requestsFor {g : Grant} (hg : g ∈ batchGrants f records) (key : Text) :
    (requestsFor (batchGrants f records) key).filter (fun q => q.itemId == g.who.itemId) =
      if g.touches key then [g.who] else [] := by
  have hids := nodup_ids_batchGrants (f := f) distinct
  have hsame : ∀ t ∈ batchGrants f records, t.who.itemId = g.who.itemId → t = g := fun t ht hid =>
    List.inj_on_of_nodup_map hids ht hg hid
  rw [requestsFor, List.filter_map, List.filter_filter]
  split
  · next htouch =>
    rw [filter_eq_singleton (hids.of_map _) hg]
    · rfl
    · intro t ht
      rw [Bool.and_eq_true, Function.comp_apply, beq_iff_eq]
      constructor
      · exact fun h => hsame t ht h.1
      · rintro rfl
        exact ⟨rfl, htouch⟩
  · next htouch =>
    rw [List.filter_eq_nil_iff.2, List.map_nil]
    intro t ht hboth
    rw [Bool.and_eq_true, Function.comp_apply, beq_iff_eq] at hboth
    exact htouch (hsame t ht hboth.1 ▸ hboth.2)

/-- An item learns something from the entries its grant touches, once from each. -/
theorem foldl_learnAll_eq {g : Grant} (hg : g ∈ batchGrants f records)
    {pairs : List (Text × KeyEntry)}
    (h : ∀ p ∈ pairs, entryAfter (batchGrants f records) p.1 = some p.2) (item : ItemKey) :
    (pairs.map Prod.snd).foldl (learnAll g.who.itemId) item =
      ((pairs.filter fun p => g.touches p.1).map Prod.snd).foldl
        (fun item entry => learn entry g.who item) item := by
  induction pairs generalizing item with
  | nil => rfl
  | cons p ps ih =>
    have hrest := ih fun q hq => h q (List.mem_cons_of_mem _ hq)
    have hrequests := requests_of_entryAfter (h p (List.mem_cons_self ..))
    have hfirst : learnAll g.who.itemId item p.2 =
        if g.touches p.1 then learn p.2 g.who item else item := by
      rw [learnAll, hrequests, filter_requestsFor distinct hg]
      split
      · rfl
      · rfl
    rw [List.map_cons, List.foldl_cons, hfirst, hrest]
    by_cases htouch : g.touches p.1 = true
    · rw [if_pos htouch, List.filter_cons, if_pos htouch, List.map_cons, List.foldl_cons]
    · rw [if_neg htouch, List.filter_cons, if_neg htouch]

omit distinct in
theorem entryAfter_of_mem_pairs {p : Text × KeyEntry}
    (h : p ∈ ((new f).assign records).1.entries.pairs) :
    entryAfter (batchGrants f records) p.1 = some p.2 :=
  ((follows_batchGrants f records).entries p.1).symm.trans (Dict.get?_of_mem_pairs h)

/-- The entries a grant touches, each with its key, in the order in which they are linked. -/
def touched (f : Formatter) (records : List Record) (g : Grant) : List (Text × KeyEntry) :=
  ((new f).assign records).1.entries.pairs.filter fun p => g.touches p.1

omit distinct in
theorem map_fst_touched (g : Grant) :
    (touched f records g).map Prod.fst =
      (keysInOrder (batchGrants f records)).filter g.touches := by
  rw [← names_assign, Dict.names, List.filter_map]
  rfl

omit distinct in
theorem entryAfter_of_mem_touched {g : Grant} {p : Text × KeyEntry}
    (h : p ∈ touched f records g) : entryAfter (batchGrants f records) p.1 = some p.2 :=
  entryAfter_of_mem_pairs (List.mem_of_mem_filter h)

/-- What an item learns from the entries its grant touches. -/
def learned (f : Formatter) (records : List Record) (g : Grant) : ItemKey :=
  ((touched f records g).map Prod.snd).foldl (fun item entry => learn entry g.who item)
    ⟨g.key, false, none, none⟩

theorem state?_eq_learned {g : Grant} (hg : g ∈ batchGrants f records) :
    ((new f).assign records).1.state? g.who.itemId = some (learned f records g) := by
  have hfollows := follows_batchGrants f records
  have hkey := keyAfter_of_mem (nodup_ids_batchGrants (f := f) distinct) hg
  have hlink : ((new f).assign records).1.state? g.who.itemId =
      (Registry.link _).items.get? g.who.itemId := rfl
  rw [hlink, get?_link, hfollows.items, hkey, Option.map_some, Option.map_some]
  exact congrArg some (foldl_learnAll_eq distinct hg (fun p hp => entryAfter_of_mem_pairs hp) _)

omit distinct

/-- The entry of a key that was made knows the candidate it was made from. -/
theorem candidate_of_entryAfter {g : Grant} {before after : List Grant}
    (h : batchGrants f records = before ++ g :: after) (hp : g.who.pinned = false)
    {entry : KeyEntry} (he : entryAfter (batchGrants f records) g.key = some entry) :
    entry.candidate = g.candidate := by
  have hnone : before.filter (Grant.touches · g.key) = [] := by
    refine List.filter_eq_nil_iff.2 fun t ht htouch => key_notMem_before h hp ?_
    obtain ⟨first, between, rfl⟩ := List.append_of_mem ht
    rw [List.append_assoc, List.cons_append] at h
    rcases exists_key_of_touches h htouch with hkey | hbefore
    · exact hkey ▸ List.mem_map_of_mem (List.mem_append_right _ (List.mem_cons_self ..))
    · rw [List.map_append]
      exact List.mem_append_left _ hbefore
  have htouch : g.touches g.key = true := Grant.touches_eq_true_iff.2 (Or.inr rfl)
  rw [entryAfter, h, List.filter_append, hnone, List.nil_append, List.filter_cons, if_pos htouch,
    List.head?_cons, Option.map_some] at he
  exact congrArg KeyEntry.candidate (Option.some.inj he).symm

/-- Whoever got the candidate learns from one entry. -/
theorem learned_of_eq {g : Grant} {before after : List Grant}
    (h : batchGrants f records = before ++ g :: after) (hsame : g.key = g.candidate) :
    learned f records g = itemOf (batchGrants f records) g := by
  have hkeys := (map_fst_touched g).trans (touched_of_eq h hsame)
  obtain ⟨p, hpairs, hkey⟩ := List.map_eq_singleton_iff.1 hkeys
  have hentry := entryAfter_of_mem_touched (hpairs ▸ List.mem_singleton_self p)
  rw [hkey] at hentry
  have hrivals : rivalsOf (batchGrants f records) g = others p.2.requests g.who.itemId := by
    rw [rivalsOf, if_pos hsame, List.append_nil, requests_of_entryAfter hentry, hsame]
  -- a candidate that was free was first touched by this grant
  have hlearned : ¬(g.who.pinned = false ∧ g.key ≠ p.2.candidate) := fun hp =>
    hp.2 (hsame.trans (candidate_of_entryAfter h hp.1 hentry).symm)
  have hkept : ¬(g.who.pinned = false ∧ g.key ≠ g.candidate) := fun hp => hp.2 hsame
  rw [learned, hpairs, List.map_singleton, List.foldl_cons, List.foldl_nil, learn_eq_mk, itemOf,
    hrivals, if_neg hlearned, if_neg hkept, Bool.false_or, Option.getD_none, List.nil_append]

/-- Whoever got another key learns from two entries, and the one of the key comes last. -/
theorem learned_of_ne {g : Grant} {before after : List Grant}
    (h : batchGrants f records = before ++ g :: after) (hne : g.key ≠ g.candidate) :
    learned f records g = itemOf (batchGrants f records) g := by
  have hkeys := (map_fst_touched g).trans (touched_of_ne h hne)
  obtain ⟨p, ps, hpairs, hcandidate, hps⟩ := List.map_eq_cons_iff.1 hkeys
  obtain ⟨q, rfl, hkey⟩ := List.map_eq_singleton_iff.1 hps
  have hentry : ∀ x ∈ [p, q], entryAfter (batchGrants f records) x.1 = some x.2 := fun x hx =>
    entryAfter_of_mem_touched (hpairs ▸ hx)
  have hp := hentry p (List.mem_cons_self ..)
  have hq := hentry q (List.mem_cons_of_mem _ (List.mem_singleton_self q))
  rw [hcandidate] at hp
  rw [hkey] at hq
  have hunpinned := (suffixed_of_ne h hne).1
  have hrivals : rivalsOf (batchGrants f records) g =
      others p.2.requests g.who.itemId ++ others q.2.requests g.who.itemId := by
    rw [rivalsOf, if_neg hne, requests_of_entryAfter hp, requests_of_entryAfter hq]
  have hlast : g.who.pinned = false ∧ g.key ≠ q.2.candidate := by
    rw [candidate_of_entryAfter h hunpinned hq]
    exact ⟨hunpinned, hne⟩
  rw [learned, hpairs, List.map_cons, List.map_singleton, List.foldl_cons, List.foldl_cons,
    List.foldl_nil, learn_eq_mk, learn_eq_mk, itemOf, hrivals, if_pos hlast,
    if_pos (And.intro hunpinned hne), candidate_of_entryAfter h hunpinned hq, ← listed_append,
    Bool.false_or, Bool.or_self, Option.getD_none, List.nil_append]

theorem learned_eq_itemOf {g : Grant} (hg : g ∈ batchGrants f records) :
    learned f records g = itemOf (batchGrants f records) g := by
  obtain ⟨before, after, hsplit⟩ := List.append_of_mem hg
  by_cases hsame : g.key = g.candidate
  · exact learned_of_eq hsplit hsame
  · exact learned_of_ne hsplit hsame

include distinct

end Registry

/-! ## Rivals as records -/

/-- Another entry of the batch wants or holds a key that the record wants or holds. -/
def Competes (f : Formatter) (records : List Record) (r t : Record) : Prop :=
  t ∈ records ∧ t.isExportable = true ∧ t ≠ r ∧
    ∃ key, Touches f records key r ∧ Touches f records key t

omit distinct in
theorem Competes.symm {r t : Record} (h : Competes f records r t) (hr : r ∈ records)
    (he : r.isExportable = true) : Competes f records t r := by
  obtain ⟨-, -, hne, key, hrkey, htkey⟩ := h
  exact ⟨hr, he, Ne.symm hne, key, htkey, hrkey⟩

theorem eq_of_itemId_eq {r t : Record} (hr : r ∈ served records) (ht : t ∈ served records)
    (h : r.itemId = t.itemId) : r = t :=
  List.inj_on_of_nodup_map (nodup_ids_served distinct) hr ht h

theorem mem_rivalsOf_grantOf {r : Record} (hr : r ∈ served records) (id : Text) :
    id ∈ rivalsOf (batchGrants f records) (grantOf f records r) ↔
      ∃ t, Competes f records r t ∧ t.itemId = id := by
  rw [mem_rivalsOf, batchGrants_eq_map distinct]
  constructor
  · rintro ⟨g, hg, rfl, hne, key, hrkey, htkey⟩
    obtain ⟨t, ht, rfl⟩ := List.mem_map.1 hg
    obtain ⟨hmem, he⟩ := mem_served.1 ht
    have htr : t ≠ r := fun heq => hne (congrArg Record.itemId heq)
    exact ⟨t, ⟨hmem, he, htr, key, (Registry.touches_grantOf_iff distinct hr).1 hrkey,
      (Registry.touches_grantOf_iff distinct ht).1 htkey⟩, rfl⟩
  · rintro ⟨t, ⟨hmem, he, htr, key, hrkey, htkey⟩, rfl⟩
    have ht := mem_served.2 ⟨hmem, he⟩
    have hne : t.itemId ≠ r.itemId := fun h => htr (eq_of_itemId_eq distinct ht hr h)
    exact ⟨grantOf f records t, List.mem_map_of_mem ht, rfl, hne, key,
      (Registry.touches_grantOf_iff distinct hr).2 hrkey,
      (Registry.touches_grantOf_iff distinct ht).2 htkey⟩

/-- What an item knows once its batch is linked. -/
theorem state?_of_served {r : Record} (hr : r ∈ served records) :
    ((Registry.new f).assign records).1.state? r.itemId =
      some (itemOf (batchGrants f records) (grantOf f records r)) := by
  have hg := grantOf_mem (f := f) distinct hr
  rw [← Registry.learned_eq_itemOf hg]
  exact Registry.state?_eq_learned distinct hg

omit distinct in
theorem candidate_itemOf (gs : List Grant) (r : Record) :
    (itemOf gs (grantOf f records r)).candidate =
      if pinnedKey? r.extra = none ∧ (grantOf f records r).key ≠ Registry.candidate f r then
        some (Registry.candidate f r) else none := by
  show (if hasPin r = false ∧ (grantOf f records r).key ≠ wanted f r then some (wanted f r)
    else none) = _
  cases hp : pinnedKey? r.extra with
  | some key =>
    have hpin : hasPin r = true := by rw [hasPin, hp, Option.isSome_some]
    rw [hpin, if_neg (by simp), if_neg (by simp)]
  | none =>
    have hpin : hasPin r = false := by rw [hasPin, hp, Option.isSome_none]
    rw [wanted_of_unpinned hpin, hpin]
    simp only [true_and]

theorem rivals_of_alone {r : Record} (hr : r ∈ served records)
    (h : ∀ t, ¬ Competes f records r t) :
    (itemOf (batchGrants f records) (grantOf f records r)).rivals = none := by
  refine if_pos (List.eq_nil_iff_forall_not_mem.2 fun id hid => ?_)
  obtain ⟨t, ht, -⟩ := (mem_rivalsOf_grantOf distinct hr id).1 hid
  exact h t ht

theorem rivals_of_competes {r : Record} (hr : r ∈ served records)
    (h : ∃ t, Competes f records r t) :
    ∃ ids, (itemOf (batchGrants f records) (grantOf f records r)).rivals = some ids ∧
      ids.Nodup ∧ r.itemId ∉ ids ∧
        ∀ id, id ∈ ids ↔ ∃ t, Competes f records r t ∧ t.itemId = id := by
  obtain ⟨t, ht⟩ := h
  have hrivals := mem_rivalsOf_grantOf (f := f) distinct hr
  have hlisted := (hrivals t.itemId).2 ⟨t, ht, rfl⟩
  have hnodup := nodup_rivalsOf distinct (grantOf_mem (f := f) distinct hr)
  refine ⟨_, if_neg (List.ne_nil_of_mem hlisted), hnodup, ?_, hrivals⟩
  intro hself
  obtain ⟨u, hu, hid⟩ := (hrivals r.itemId).1 hself
  exact hu.2.2.1 (eq_of_itemId_eq distinct (mem_served.2 ⟨hu.1, hu.2.1⟩) hr hid)

end Batch

namespace Registry

/-- The record is told that the other one is a rival. -/
def Lists (g : Registry) (r t : Record) : Prop :=
  ∃ item ids, g.state? r.itemId = some item ∧ item.rivals = some ids ∧ t.itemId ∈ ids

theorem lists_iff {f : Formatter} {records : List Record}
    (distinct : ((records.filter Record.isExportable).map Record.itemId).Nodup) {r t : Record}
    (hr : r ∈ served records) (ht : t ∈ served records) :
    Lists ((new f).assign records).1 r t ↔ Competes f records r t := by
  have hmem := mem_rivalsOf_grantOf (f := f) distinct hr t.itemId
  have hcompetes : (∃ u, Competes f records r u ∧ u.itemId = t.itemId) ↔
      Competes f records r t := by
    constructor
    · rintro ⟨u, hu, hid⟩
      have heq : u = t := eq_of_itemId_eq distinct (mem_served.2 ⟨hu.1, hu.2.1⟩) ht hid
      exact heq ▸ hu
    · exact fun h => ⟨t, h, rfl⟩
  rw [← hcompetes, ← hmem, Lists, state?_of_served distinct hr]
  constructor
  · rintro ⟨item, ids, hitem, hids, hid⟩
    rw [← Option.some.inj hitem] at hids
    dsimp only [itemOf] at hids
    split at hids
    · exact absurd hids (by simp)
    · exact Option.some.inj hids ▸ hid
  · intro hid
    exact ⟨_, _, rfl, if_neg (List.ne_nil_of_mem hid), hid⟩

/-- After linking an item says whether its key is pinned, which candidate its record did not get,
and who its rivals are: every other entry that wants or holds a key it wants or holds, once. -/
theorem state?_assign (f : Formatter) (records : List Record)
    (distinct : ((records.filter Record.isExportable).map Record.itemId).Nodup) :
    (∀ r ∈ records, r.isExportable = true →
      ∃ item, ((new f).assign records).1.state? r.itemId = some item ∧
        (item.pinned = true ↔ ∃ key, pinnedKey? r.extra = some key) ∧
        item.candidate =
          (if pinnedKey? r.extra = none ∧ item.key ≠ candidate f r then some (candidate f r)
            else none) ∧
        ((∀ t, ¬ Competes f records r t) → item.rivals = none) ∧
        ((∃ t, Competes f records r t) →
          ∃ ids, item.rivals = some ids ∧ ids.Nodup ∧ r.itemId ∉ ids ∧
            ∀ id, id ∈ ids ↔ ∃ t, Competes f records r t ∧ t.itemId = id)) ∧
    ∀ r ∈ records, ∀ t ∈ records, r.isExportable = true → t.isExportable = true →
      (Lists ((new f).assign records).1 r t ↔ Lists ((new f).assign records).1 t r) := by
  constructor
  · intro r hmem he
    have hr := mem_served.2 ⟨hmem, he⟩
    exact ⟨_, state?_of_served distinct hr, Option.isSome_iff_exists, candidate_itemOf _ r,
      rivals_of_alone distinct hr, rivals_of_competes distinct hr⟩
  · intro r hr t ht her het
    have hserved := mem_served.2 ⟨hr, her⟩
    have hserved' := mem_served.2 ⟨ht, het⟩
    rw [lists_iff distinct hserved hserved', lists_iff distinct hserved' hserved]
    exact ⟨fun h => h.symm hr her, fun h => h.symm ht het⟩

theorem state?_chained :
    ((chained.filter Record.isExportable).map Record.itemId).Nodup ∧
      Competes .standard chained chained[2] chained[1] ∧
      ∃ item, ((new .standard).assign chained).1.state? "3" = some item ∧
        item.key = "zotero-aa".toList ∧ item.pinned = false ∧
        item.candidate = some "zotero-a".toList ∧
        ∃ ids, item.rivals = some ids ∧ ids.Nodup ∧ ['2'] ∈ ids ∧ ['3'] ∉ ids := by
  have distinct : ((chained.filter Record.isExportable).map Record.itemId).Nodup := by decide
  have hcompetes : Competes .standard chained chained[2] chained[1] :=
    ⟨by simp [chained], by decide, fun h => absurd (congrArg Record.itemId h) (by decide),
      "zotero-a", by decide +kernel, by decide +kernel⟩
  obtain ⟨item, hitem, hpinned, hcandidate, -, hrivals⟩ :=
    (state?_assign .standard chained distinct).1 chained[2] (by simp [chained]) (by decide)
  obtain ⟨ids, hids, hnodup, hself, hmem⟩ := hrivals ⟨_, hcompetes⟩
  have hkey : item.key = "zotero-aa".toList := by
    have h : (((new .standard).assign chained).1.state? chained[2].itemId).map ItemKey.key =
        some "zotero-aa".toList := by decide +kernel
    rw [hitem] at h
    exact Option.some.inj h
  have hwanted : candidate .standard chained[2] = "zotero-a".toList := by decide +kernel
  refine ⟨distinct, hcompetes, item, hitem, hkey, ?_, ?_, ids, hids, hnodup,
    (hmem _).2 ⟨_, hcompetes, rfl⟩, hself⟩
  · rw [← Bool.not_eq_true, hpinned]
    rintro ⟨key, hpin⟩
    exact absurd hpin (by simp [chained, Record.blank, show pinnedKey? [] = none by decide])
  · rw [hcandidate, hwanted, hkey]
    decide

end Registry
end Bibliography.CiteKey
