import Bibliography.Text.Basic

/-! # Dictionaries

A dictionary keeps one value per name, in the order in which the names were first given. The order
is what a writer shows; looking a name up does not depend on it.
-/

namespace Bibliography
set_option autoImplicit false

/-! ## Pairs with distinct names -/

/-- Gives a name a value: in its old place if it has one, else at the end. -/
def putPair {β : Type} (k : Text) (v : β) : List (Text × β) → List (Text × β)
  | [] => [(k, v)]
  | p :: ps => if p.1 = k then (k, v) :: ps else p :: putPair k v ps

theorem mem_names_putPair {β : Type} {k x : Text} {v : β} {ps : List (Text × β)} :
    x ∈ (putPair k v ps).map Prod.fst ↔ x = k ∨ x ∈ ps.map Prod.fst := by
  induction ps with
  | nil => simp [putPair]
  | cons p ps ih =>
    by_cases h : p.1 = k
    · simp [putPair, h]
    · simp only [putPair, h, if_false, List.map_cons, List.mem_cons, ih]
      constructor
      · rintro (h | h | h) <;> simp [h]
      · rintro (h | h | h) <;> simp [h]

theorem nodup_names_putPair {β : Type} (k : Text) (v : β) {ps : List (Text × β)}
    (h : (ps.map Prod.fst).Nodup) : ((putPair k v ps).map Prod.fst).Nodup := by
  induction ps with
  | nil => simp [putPair]
  | cons p ps ih =>
    simp only [List.map_cons, List.nodup_cons] at h
    by_cases hp : p.1 = k
    · rw [putPair, if_pos hp, List.map_cons, List.nodup_cons]
      exact ⟨hp ▸ h.1, h.2⟩
    · simp only [putPair, hp, if_false, List.map_cons, List.nodup_cons]
      refine ⟨fun hm => ?_, ih h.2⟩
      rcases mem_names_putPair.1 hm with hk | hm
      · exact hp hk
      · exact h.1 hm

theorem names_putPair {β : Type} (k : Text) (v : β) (ps : List (Text × β)) :
    (putPair k v ps).map Prod.fst =
      if k ∈ ps.map Prod.fst then ps.map Prod.fst else ps.map Prod.fst ++ [k] := by
  induction ps with
  | nil => rfl
  | cons p ps ih =>
    by_cases hp : p.1 = k
    · rw [putPair, if_pos hp, List.map_cons, List.map_cons, hp, if_pos (List.mem_cons_self ..)]
    · have hmem : k ∈ (p :: ps).map Prod.fst ↔ k ∈ ps.map Prod.fst := by
        rw [List.map_cons, List.mem_cons, or_iff_right (Ne.symm hp)]
      rw [putPair, if_neg hp, List.map_cons, ih]
      by_cases hk : k ∈ ps.map Prod.fst
      · rw [if_pos hk, if_pos (hmem.2 hk), List.map_cons]
      · rw [if_neg hk, if_neg (mt hmem.1 hk), List.map_cons, List.cons_append]

theorem putPair_of_notMem {β : Type} {k : Text} {ps : List (Text × β)}
    (h : k ∉ ps.map Prod.fst) (v : β) : putPair k v ps = ps ++ [(k, v)] := by
  induction ps with
  | nil => rfl
  | cons p ps ih =>
    rw [List.map_cons, List.mem_cons, not_or] at h
    rw [putPair, if_neg (Ne.symm h.1), ih h.2, List.cons_append]

theorem mem_of_lookup {α β : Type} [BEq α] [LawfulBEq α] {k : α} {v : β} {ps : List (α × β)}
    (h : ps.lookup k = some v) : (k, v) ∈ ps := by
  obtain ⟨before, after, rfl, -⟩ := List.lookup_eq_some_iff.1 h
  exact List.mem_append_right _ (List.mem_cons_self ..)

/-! ## The dictionary -/

/-- Values under distinct names, in the order in which the names came. -/
structure Dict (β : Type) where
  pairs : List (Text × β)
  distinct : (pairs.map Prod.fst).Nodup

namespace Dict
variable {β : Type}

instance : EmptyCollection (Dict β) := ⟨⟨[], List.nodup_nil⟩⟩
instance : Inhabited (Dict β) := ⟨∅⟩

/-- The names, in order. -/
def names (d : Dict β) : List Text := d.pairs.map Prod.fst

/-- The value under a name. -/
def get? (d : Dict β) (k : Text) : Option β := d.pairs.lookup k

/-- The name has a value. -/
def has (d : Dict β) (k : Text) : Bool := (d.get? k).isSome

/-- Gives a name a value. -/
def put (d : Dict β) (k : Text) (v : β) : Dict β :=
  ⟨putPair k v d.pairs, nodup_names_putPair k v d.distinct⟩

/-- Changes the value under a name, if there is one. -/
def update (d : Dict β) (k : Text) (f : β → β) : Dict β :=
  match d.get? k with
  | some v => d.put k (f v)
  | none => d

/-- Values given one after the other; the last one under a name stays. -/
def ofList (ps : List (Text × β)) : Dict β := ps.foldl (fun d p => d.put p.1 p.2) ∅

theorem eq_of_pairs {d d' : Dict β} (h : d.pairs = d'.pairs) : d = d' := by
  cases d
  cases d'
  cases h
  rfl

theorem pairs_foldl_put (d : Dict β) {ps : List (Text × β)}
    (h : ((d.pairs ++ ps).map Prod.fst).Nodup) :
    (ps.foldl (fun d p => d.put p.1 p.2) d).pairs = d.pairs ++ ps := by
  induction ps generalizing d with
  | nil => simp
  | cons p ps ih =>
    have hnew : p.1 ∉ d.pairs.map Prod.fst := by
      intro hmem
      rw [List.map_append, List.map_cons] at h
      exact (List.nodup_append.1 h).2.2 _ hmem _ (List.mem_cons_self ..) rfl
    have hput : (d.put p.1 p.2).pairs = d.pairs ++ [p] := putPair_of_notMem hnew p.2
    have hmore : ((d.put p.1 p.2).pairs ++ ps) = d.pairs ++ p :: ps := by
      rw [hput, List.append_assoc, List.singleton_append]
    rw [List.foldl_cons, ih _ (hmore ▸ h), hmore]

/-- The pairs of a dictionary, put in their order, make it anew. -/
theorem ofList_pairs (d : Dict β) : ofList d.pairs = d :=
  eq_of_pairs (pairs_foldl_put ∅ d.distinct)

theorem lookup_putPair (k x : Text) (v : β) (ps : List (Text × β)) :
    (putPair k v ps).lookup x = if x = k then some v else ps.lookup x := by
  induction ps with
  | nil =>
    by_cases h : x = k
    · simp [putPair, h]
    · simp [putPair, List.lookup_cons, h, beq_eq_false_iff_ne.2 h]
  | cons p ps ih =>
    obtain ⟨a, b⟩ := p
    by_cases ha : a = k
    · by_cases h : x = k
      · simp [putPair, ha, h]
      · simp [putPair, ha, h, List.lookup_cons, beq_eq_false_iff_ne.2 h]
    · by_cases hx : x = a
      · subst hx
        simp [putPair, ha]
      · simp [putPair, ha, List.lookup_cons, beq_eq_false_iff_ne.2 hx, ih]

/-- A name has the value it was given last, and the others keep theirs. -/
theorem get?_put (d : Dict β) (k x : Text) (v : β) :
    (d.put k v).get? x = if x = k then some v else d.get? x :=
  lookup_putPair k x v d.pairs

/-- Changing the value under one name leaves the others alone. -/
theorem get?_update (d : Dict β) (k x : Text) (f : β → β) :
    (d.update k f).get? x = if x = k then (d.get? x).map f else d.get? x := by
  unfold update
  cases hk : d.get? k with
  | none =>
    by_cases h : x = k
    · simp [h, hk]
    · simp [h]
  | some v =>
    simp only [get?_put]
    by_cases h : x = k
    · simp [h, hk]
    · simp [h]

theorem mem_pairs_of_get? {d : Dict β} {k : Text} {v : β} (h : d.get? k = some v) :
    (k, v) ∈ d.pairs := mem_of_lookup h

theorem get?_of_mem_pairs {d : Dict β} {p : Text × β} (h : p ∈ d.pairs) :
    d.get? p.1 = some p.2 := by
  obtain ⟨pairs, distinct⟩ := d
  change pairs.lookup p.1 = some p.2
  induction pairs with
  | nil => simp at h
  | cons q ps ih =>
    obtain ⟨hnew, hrest⟩ := List.nodup_cons.1 distinct
    rw [List.lookup_cons]
    rcases List.mem_cons.1 h with rfl | h
    · rw [beq_self_eq_true]
    · have hne : (p.1 == q.1) = false :=
        beq_eq_false_iff_ne.2 fun heq => hnew (heq ▸ List.mem_map_of_mem h)
      rw [hne]
      exact ih hrest h

theorem mem_names_iff {d : Dict β} {k : Text} : k ∈ d.names ↔ d.has k = true := by
  rw [has, get?, List.lookup_isSome_iff, names, List.mem_map]
  constructor
  · rintro ⟨p, hp, rfl⟩
    exact ⟨p, hp, beq_self_eq_true p.1⟩
  · rintro ⟨p, hp, h⟩
    exact ⟨p, hp, (eq_of_beq h).symm⟩

/-- A new name goes to the end. -/
theorem names_put (d : Dict β) (k : Text) (v : β) :
    (d.put k v).names = if k ∈ d.names then d.names else d.names ++ [k] :=
  names_putPair k v d.pairs

theorem mem_names_put {d : Dict β} {k x : Text} {v : β} :
    x ∈ (d.put k v).names ↔ x = k ∨ x ∈ d.names :=
  mem_names_putPair

end Dict
end Bibliography
