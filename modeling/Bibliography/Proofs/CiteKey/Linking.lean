import Bibliography.CiteKey.Registry

/-! # What linking does to an item

Linking walks through the entries, and each entry changes the items of those who asked for its key.
For one item that is a walk through the entries of its own (`get?_link`). It never changes the key
of an item, and marks as pinned whoever asked for a key by pinning it.
-/

namespace Bibliography.CiteKey.Registry
set_option autoImplicit false

/-- An item that has learned how its own request went. -/
def marked (entry : KeyEntry) (asked : Request) (item : ItemKey) : ItemKey :=
  if asked.pinned then { item with pinned := true }
  else if item.key != entry.candidate then { item with candidate := some entry.candidate }
  else item

theorem learn_eq (entry : KeyEntry) (asked : Request) (item : ItemKey) :
    learn entry asked item =
      match others entry.requests asked.itemId with
      | [] => marked entry asked item
      | found =>
        { marked entry asked item with
          rivals := some ((marked entry asked item).rivals.getD [] ++ found) } :=
  rfl

/-- What an item learns from an entry: something for each time its record asked for the key. -/
def learnAll (itemId : Text) (item : ItemKey) (entry : KeyEntry) : ItemKey :=
  (entry.requests.filter fun q => q.itemId == itemId).foldl (fun item q => learn entry q item) item

/-! ## One item -/

theorem get?_foldl_update (entry : KeyEntry) (requests : List Request) (items : Dict ItemKey)
    (itemId : Text) :
    (requests.foldl (fun items q => items.update q.itemId (learn entry q)) items).get? itemId =
      (items.get? itemId).map fun item =>
        (requests.filter fun q => q.itemId == itemId).foldl (fun item q => learn entry q item)
          item := by
  induction requests generalizing items with
  | nil => simp
  | cons q qs ih =>
    rw [List.foldl_cons, ih, Dict.get?_update]
    by_cases h : itemId = q.itemId
    · simp [h, Function.comp_def]
    · simp [h, Ne.symm h]

theorem get?_linkEntry (items : Dict ItemKey) (entry : KeyEntry) (itemId : Text) :
    (linkEntry items entry).get? itemId =
      (items.get? itemId).map fun item => learnAll itemId item entry :=
  get?_foldl_update entry entry.requests items itemId

/-- Linking as one item sees it. -/
theorem get?_link (g : Registry) (itemId : Text) :
    g.link.items.get? itemId =
      (g.items.get? itemId).map fun item =>
        (g.entries.pairs.map Prod.snd).foldl (learnAll itemId) item := by
  have hwalk : ∀ (entries : List KeyEntry) (items : Dict ItemKey),
      (entries.foldl linkEntry items).get? itemId =
        (items.get? itemId).map fun item => entries.foldl (learnAll itemId) item := by
    intro entries
    induction entries with
    | nil => simp
    | cons entry entries ih =>
      intro items
      rw [List.foldl_cons, ih, get?_linkEntry, Option.map_map]
      rfl
  exact hwalk _ _

/-! ## The key -/

theorem marked_key (entry : KeyEntry) (q : Request) (item : ItemKey) :
    (marked entry q item).key = item.key := by
  unfold marked
  split
  · rfl
  · split <;> rfl

theorem learn_key (entry : KeyEntry) (q : Request) (item : ItemKey) :
    (learn entry q item).key = item.key := by
  rw [learn_eq]
  split
  · exact marked_key entry q item
  · exact marked_key entry q item

theorem learnAll_key (itemId : Text) (item : ItemKey) (entry : KeyEntry) :
    (learnAll itemId item entry).key = item.key := by
  unfold learnAll
  induction entry.requests.filter (fun q => q.itemId == itemId) generalizing item with
  | nil => rfl
  | cons q qs ih => rw [List.foldl_cons, ih, learn_key]

theorem foldl_learnAll_key (itemId : Text) (entries : List KeyEntry) (item : ItemKey) :
    (entries.foldl (learnAll itemId) item).key = item.key := by
  induction entries generalizing item with
  | nil => rfl
  | cons entry entries ih => rw [List.foldl_cons, ih, learnAll_key]

/-- Linking leaves every key as it is. -/
theorem keyOf?_link (g : Registry) (itemId : Text) : g.link.keyOf? itemId = g.keyOf? itemId := by
  simp only [keyOf?, state?, get?_link, Option.map_map, Function.comp_def, foldl_learnAll_key]

/-! ## The pin -/

theorem marked_pinned (entry : KeyEntry) (q : Request) (item : ItemKey) :
    (marked entry q item).pinned = (item.pinned || q.pinned) := by
  unfold marked
  split
  · next hq => simp [hq]
  · next hq => split <;> simp [hq]

theorem learn_pinned (entry : KeyEntry) (q : Request) (item : ItemKey) :
    (learn entry q item).pinned = (item.pinned || q.pinned) := by
  rw [learn_eq]
  split
  · exact marked_pinned entry q item
  · exact marked_pinned entry q item

theorem learnAll_pinned (itemId : Text) (item : ItemKey) (entry : KeyEntry) :
    (learnAll itemId item entry).pinned =
      (item.pinned || entry.requests.any fun q => q.itemId == itemId && q.pinned) := by
  have hwalk : ∀ (requests : List Request) (item : ItemKey),
      (requests.foldl (fun item q => learn entry q item) item).pinned =
        (item.pinned || requests.any Request.pinned) := by
    intro requests
    induction requests with
    | nil => simp
    | cons q qs ih =>
      intro item
      rw [List.foldl_cons, ih, learn_pinned, List.any_cons, Bool.or_assoc]
  rw [learnAll, hwalk, List.any_filter]

/-- An item is marked as pinned just if it was before or its record asked by pinning a key. -/
theorem foldl_learnAll_pinned (itemId : Text) (entries : List KeyEntry) (item : ItemKey) :
    (entries.foldl (learnAll itemId) item).pinned =
      (item.pinned ||
        entries.any fun e => e.requests.any fun q => q.itemId == itemId && q.pinned) := by
  induction entries generalizing item with
  | nil => simp
  | cons entry entries ih =>
    rw [List.foldl_cons, ih, learnAll_pinned, List.any_cons, Bool.or_assoc]

/-! ## One lesson in full -/

theorem marked_rivals (entry : KeyEntry) (q : Request) (item : ItemKey) :
    (marked entry q item).rivals = item.rivals := by
  unfold marked
  split
  · rfl
  · split <;> rfl

theorem marked_candidate (entry : KeyEntry) (q : Request) (item : ItemKey) :
    (marked entry q item).candidate =
      if q.pinned = false ∧ item.key ≠ entry.candidate then some entry.candidate
      else item.candidate := by
  unfold marked
  cases hq : q.pinned with
  | true => simp
  | false =>
    by_cases hkey : item.key = entry.candidate
    · simp [hkey]
    · simp [hkey]

theorem learn_candidate (entry : KeyEntry) (q : Request) (item : ItemKey) :
    (learn entry q item).candidate =
      if q.pinned = false ∧ item.key ≠ entry.candidate then some entry.candidate
      else item.candidate := by
  rw [learn_eq]
  split
  · exact marked_candidate entry q item
  · exact marked_candidate entry q item

theorem learn_rivals (entry : KeyEntry) (q : Request) (item : ItemKey) :
    (learn entry q item).rivals =
      if others entry.requests q.itemId = [] then item.rivals
      else some (item.rivals.getD [] ++ others entry.requests q.itemId) := by
  rw [learn_eq]
  cases hothers : others entry.requests q.itemId with
  | nil => exact marked_rivals entry q item
  | cons id ids =>
    rw [if_neg (List.cons_ne_nil id ids), ← marked_rivals entry q item]

/-- All that an item learns from one request to one entry. -/
theorem learn_eq_mk (entry : KeyEntry) (q : Request) (item : ItemKey) :
    learn entry q item =
      { key := item.key
        pinned := item.pinned || q.pinned
        candidate :=
          if q.pinned = false ∧ item.key ≠ entry.candidate then some entry.candidate
          else item.candidate
        rivals :=
          if others entry.requests q.itemId = [] then item.rivals
          else some (item.rivals.getD [] ++ others entry.requests q.itemId) } := by
  rw [← learn_candidate, ← learn_rivals, ← learn_pinned entry]
  exact congrArg (ItemKey.mk · _ _ _) (learn_key entry q item)

end Bibliography.CiteKey.Registry
