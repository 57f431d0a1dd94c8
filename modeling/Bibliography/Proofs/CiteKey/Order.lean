import Bibliography.Proofs.CiteKey.Batch

/-! # The order of the entries

The entries of a registry stand in the order in which their keys were first given. So the entry of
a candidate that was taken stands before the entry of the key it led to, and of all entries a grant
touches just these two, or one if they are the same.
-/

namespace Bibliography.CiteKey
set_option autoImplicit false

/-! ## First occurrences -/

/-- A key goes to the end of some keys unless it is among them. -/
def addKey (keys : List Text) (key : Text) : List Text :=
  if keys.contains key then keys else keys ++ [key]

theorem addKey_eq (keys : List Text) (key : Text) :
    addKey keys key = if key ∈ keys then keys else keys ++ [key] := by
  simp [addKey]

/-- The keys of some grants in the order in which they were first given. -/
def keysInOrder (gs : List Grant) : List Text := (gs.map Grant.key).foldl addKey []

theorem prefix_addKey (keys : List Text) (key : Text) : keys <+: addKey keys key := by
  rw [addKey_eq]
  split
  · exact List.prefix_rfl
  · exact List.prefix_append _ _

theorem mem_addKey {keys : List Text} {key x : Text} :
    x ∈ addKey keys key ↔ x ∈ keys ∨ x = key := by
  rw [addKey_eq]
  split
  · next h => exact (or_iff_left_of_imp fun hx => hx ▸ h).symm
  · rw [List.mem_append, List.mem_singleton]

theorem nodup_addKey {keys : List Text} (h : keys.Nodup) (key : Text) :
    (addKey keys key).Nodup := by
  rw [addKey_eq]
  split
  · exact h
  · next hnew =>
    rw [← List.concat_eq_append]
    exact h.concat hnew

theorem prefix_foldl_addKey (keys more : List Text) : keys <+: more.foldl addKey keys := by
  induction more generalizing keys with
  | nil => exact List.prefix_rfl
  | cons key more ih => exact (prefix_addKey keys key).trans (ih _)

theorem mem_foldl_addKey {keys more : List Text} {x : Text} :
    x ∈ more.foldl addKey keys ↔ x ∈ keys ∨ x ∈ more := by
  induction more generalizing keys with
  | nil => simp
  | cons key more ih => rw [List.foldl_cons, ih, mem_addKey, or_assoc, List.mem_cons]

theorem nodup_foldl_addKey {keys : List Text} (h : keys.Nodup) (more : List Text) :
    (more.foldl addKey keys).Nodup := by
  induction more generalizing keys with
  | nil => exact h
  | cons key more ih => exact ih (nodup_addKey h key)

theorem keysInOrder_append (gs later : List Grant) :
    keysInOrder (gs ++ later) = (later.map Grant.key).foldl addKey (keysInOrder gs) := by
  rw [keysInOrder, List.map_append, List.foldl_append]
  rfl

theorem mem_keysInOrder {gs : List Grant} {key : Text} :
    key ∈ keysInOrder gs ↔ key ∈ gs.map Grant.key := by
  rw [keysInOrder, mem_foldl_addKey]
  simp

theorem nodup_keysInOrder (gs : List Grant) : (keysInOrder gs).Nodup :=
  nodup_foldl_addKey List.nodup_nil _

/-- A grant of a new key puts it right behind those given before. -/
theorem keysInOrder_split {before after : List Grant} {g : Grant}
    (h : g.key ∉ before.map Grant.key) :
    ∃ later, keysInOrder (before ++ g :: after) = keysInOrder before ++ g.key :: later := by
  have hnew : g.key ∉ keysInOrder before := mt mem_keysInOrder.1 h
  have hfirst : addKey (keysInOrder before) g.key = keysInOrder before ++ [g.key] := by
    rw [addKey_eq, if_neg hnew]
  obtain ⟨later, hlater⟩ := prefix_foldl_addKey (keysInOrder before ++ [g.key])
    (after.map Grant.key)
  refine ⟨later, ?_⟩
  rw [keysInOrder_append, List.map_cons, List.foldl_cons, hfirst, ← hlater, List.append_assoc,
    List.singleton_append]

/-! ## Names of a registry -/

namespace Registry

theorem names_request (entries : Dict KeyEntry) (candidate : Text) (who : Request) :
    (request entries candidate who).1.names =
      addKey entries.names (request entries candidate who).2 := by
  rw [addKey_eq]
  rcases request_cases entries candidate who with ⟨-, hr⟩ | ⟨entry, -, -, hr⟩ | ⟨entry, he, -, hr⟩
  · rw [hr, give, Dict.names_put]
  · rw [hr, Dict.names_put]
  · have htaken : candidate ∈ entries.names := by simp [Dict.mem_names_iff, Dict.has, he]
    have hjoin : (entries.put candidate (joined entry who)).names = entries.names := by
      rw [Dict.names_put, if_pos htaken]
    rw [hr, give, Dict.names_put, hjoin]

/-- The registry follows the grants, and its entries stand in the order in which keys were given. -/
structure Ordered (f : Formatter) (g : Registry) (gs : List Grant) : Prop
    extends Follows f g gs where
  order : g.entries.names = keysInOrder gs

theorem kept_ordered (f : Formatter) : Kept f (Ordered f) where
  start := ⟨follows_new f, rfl⟩
  formatter h := h.formatter
  warned h warnings := ⟨h.toFollows.warned warnings, h.order⟩
  record := by
    intro g gs h candidate who
    refine ⟨h.toFollows.record candidate who, ?_⟩
    have hnames := names_request g.entries candidate who
    rw [h.order, h.toFollows.request_key] at hnames
    rw [keysInOrder_append]
    exact hnames

theorem names_assign (f : Formatter) (records : List Record) :
    ((new f).assign records).1.entries.names = keysInOrder (batchGrants f records) :=
  ((kept_ordered f).batch records).order

end Registry

/-! ## The entries a grant touches -/

theorem filter_eq_singleton {α : Type} {l : List α} {p : α → Bool} {a : α} (h : l.Nodup)
    (ha : a ∈ l) (hp : ∀ x ∈ l, p x = true ↔ x = a) : l.filter p = [a] := by
  obtain ⟨before, after, rfl⟩ := List.append_of_mem ha
  obtain ⟨-, hafter, hdisjoint⟩ := List.nodup_append.1 h
  have hnone : before.filter p = [] := by
    refine List.filter_eq_nil_iff.2 fun x hx hpx => ?_
    have heq := (hp x (List.mem_append_left _ hx)).1 hpx
    exact hdisjoint x hx a (List.mem_cons_self ..) heq
  have hrest : after.filter p = [] := by
    refine List.filter_eq_nil_iff.2 fun x hx hpx => ?_
    have heq := (hp x (List.mem_append_right _ (List.mem_cons_of_mem _ hx))).1 hpx
    exact (List.nodup_cons.1 hafter).1 (heq ▸ hx)
  rw [List.filter_append, hnone, List.filter_cons_of_pos ((hp a ha).2 rfl), hrest]
  rfl

section Touched
variable {f : Formatter} {records : List Record} {before after : List Grant} {g : Grant}
  (h : batchGrants f records = before ++ g :: after)
include h

theorem touched_of_eq (hsame : g.key = g.candidate) :
    (keysInOrder (batchGrants f records)).filter g.touches = [g.key] := by
  refine filter_eq_singleton (nodup_keysInOrder _) ?_ ?_
  · have hg : g ∈ batchGrants f records := h ▸ List.mem_append_right _ (List.mem_cons_self ..)
    exact mem_keysInOrder.2 (List.mem_map_of_mem hg)
  · intro x hx
    rw [Grant.touches_eq_true_iff, ← hsame, or_self]

theorem touched_of_ne (hne : g.key ≠ g.candidate) :
    (keysInOrder (batchGrants f records)).filter g.touches = [g.candidate, g.key] := by
  obtain ⟨hp, hcandidate, -⟩ := suffixed_of_ne h hne
  have hnew := key_notMem_before h hp
  obtain ⟨later, hsplit⟩ : ∃ later, keysInOrder (before ++ g :: after) =
      keysInOrder before ++ g.key :: later := keysInOrder_split hnew
  have hnodup := nodup_keysInOrder (batchGrants f records)
  rw [h, hsplit] at hnodup
  obtain ⟨hbefore, hrest, hdisjoint⟩ := List.nodup_append.1 hnodup
  have hfirst : (keysInOrder before).filter g.touches = [g.candidate] := by
    refine filter_eq_singleton hbefore (mem_keysInOrder.2 hcandidate) fun x hx => ?_
    have hother : x ≠ g.key := fun heq => hnew (mem_keysInOrder.1 (heq ▸ hx))
    rw [Grant.touches_eq_true_iff, or_iff_left hother]
  have hsecond : (g.key :: later).filter g.touches = [g.key] := by
    refine filter_eq_singleton hrest (List.mem_cons_self ..) fun x hx => ?_
    have hother : x ≠ g.candidate := fun heq =>
      hdisjoint g.candidate (mem_keysInOrder.2 hcandidate) x hx heq.symm
    rw [Grant.touches_eq_true_iff, or_iff_right hother]
  rw [h, hsplit, List.filter_append, hfirst, hsecond]
  rfl

end Touched

end Bibliography.CiteKey
