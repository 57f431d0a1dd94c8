import Bibliography.CiteKey.Registry
import Bibliography.Proofs.CiteKey.Suffix
import Mathlib.Data.List.Nodup
import Mathlib.Data.Nat.Find

/-! # Free keys

Among more suffixes than there are keys taken, one makes a candidate free. `freeKey` is the key a
candidate leads to: itself if it is free, else with the first suffix that frees it. It depends on
which keys are taken, not on their order or on what is known of them, and it is what a registry
gives to a record that pins nothing.
-/

namespace Bibliography.CiteKey
set_option autoImplicit false

/-! ## The search for a suffix -/

/-- A sequence without repetition leaves the taken keys before it has more members than they. -/
theorem exists_notMem_of_injective {keys : Nat → Text} (h : Function.Injective keys)
    (taken : List Text) : ∃ n, n ≤ taken.length ∧ keys n ∉ taken := by
  by_contra hnone
  have hall : ∀ n ≤ taken.length, keys n ∈ taken := fun n hn => by
    by_contra hfree
    exact hnone ⟨n, hn, hfree⟩
  let tried : List Text := (List.range (taken.length + 1)).map keys
  have hnodup : tried.Nodup := List.Nodup.map h List.nodup_range
  have hsub : tried ⊆ taken := by
    intro key hkey
    obtain ⟨n, hn, rfl⟩ := List.mem_map.1 hkey
    exact hall n (Nat.lt_succ_iff.1 (List.mem_range.1 hn))
  have hlen := hnodup.length_le_of_subset hsub
  simp only [tried, List.length_map, List.length_range] at hlen
  omega

/-- One of the first suffixes is free: together they are more than the keys taken. -/
theorem exists_suffix_le (taken : List Text) (c : Text) :
    ∃ n, n ≤ taken.length ∧ c ++ suffix n ∉ taken :=
  exists_notMem_of_injective (fun _ _ h => suffix_injective (List.append_cancel_left h)) taken

theorem exists_suffix_notMem (taken : List Text) (c : Text) : ∃ n, c ++ suffix n ∉ taken :=
  (exists_suffix_le taken c).imp fun _ h => h.2

/-- The number of the first suffix that makes a key free. -/
def freeIndex (taken : List Text) (c : Text) : Nat := Nat.find (exists_suffix_notMem taken c)

/-- The key a candidate leads to where some keys are taken. -/
def freeKey (taken : List Text) (c : Text) : Text :=
  if c ∈ taken then c ++ suffix (freeIndex taken c) else c

theorem suffix_freeIndex_notMem (taken : List Text) (c : Text) :
    c ++ suffix (freeIndex taken c) ∉ taken :=
  Nat.find_spec (exists_suffix_notMem taken c)

theorem mem_of_lt_freeIndex {taken : List Text} {c : Text} {n : Nat}
    (h : n < freeIndex taken c) : c ++ suffix n ∈ taken :=
  not_not.1 (Nat.find_min (exists_suffix_notMem taken c) h)

theorem freeIndex_le (taken : List Text) (c : Text) : freeIndex taken c ≤ taken.length := by
  obtain ⟨n, hn, hfree⟩ := exists_suffix_le taken c
  exact Nat.le_trans (Nat.find_min' _ hfree) hn

/-- The first suffix is the only free one behind taken ones. -/
theorem freeIndex_eq {taken : List Text} {c : Text} {n : Nat} (hfree : c ++ suffix n ∉ taken)
    (hleast : ∀ m < n, c ++ suffix m ∈ taken) : freeIndex taken c = n :=
  (Nat.find_eq_iff _).2 ⟨hfree, fun m hm => not_not.2 (hleast m hm)⟩

theorem freeKey_notMem (taken : List Text) (c : Text) : freeKey taken c ∉ taken := by
  unfold freeKey
  split
  · exact suffix_freeIndex_notMem taken c
  · assumption

/-- Only which keys are taken counts, not their order or how often they are. -/
theorem freeKey_congr {taken taken' : List Text} (h : ∀ k, k ∈ taken ↔ k ∈ taken') (c : Text) :
    freeKey taken c = freeKey taken' c := by
  have hindex : freeIndex taken c = freeIndex taken' c :=
    freeIndex_eq (fun hm => suffix_freeIndex_notMem taken' c ((h _).1 hm))
      fun m hm => (h _).2 (mem_of_lt_freeIndex hm)
  simp only [freeKey, hindex, h]

/-! ## Requests -/

namespace Registry

theorem suffixed_eq (entries : Dict KeyEntry) (key : Text) :
    suffixed entries key = key ++ suffix (freeIndex entries.names key) := by
  have hlen : entries.names.length = entries.pairs.length := List.length_map _
  have hfind : (List.range (entries.pairs.length + 1)).find?
      (fun n => !entries.has (key ++ suffix n)) = some (freeIndex entries.names key) := by
    refine List.find?_range_eq_some.2 ⟨?_, ?_, ?_⟩
    · have hfree := suffix_freeIndex_notMem entries.names key
      rw [Dict.mem_names_iff] at hfree
      simpa using hfree
    · have hle := freeIndex_le entries.names key
      exact List.mem_range.2 (by omega)
    · intro m hm
      have htaken := Dict.mem_names_iff.1 (mem_of_lt_freeIndex hm)
      simpa using htaken
  rw [suffixed, hfind]
  rfl

/-- The entry of a key that one more record asked for. -/
def joined (entry : KeyEntry) (who : Request) : KeyEntry :=
  { entry with requests := entry.requests ++ [who] }

/-- All a request can do: it takes a free key, shares a pinned one, or joins those who asked for a
key and takes the free key it leads to. -/
theorem request_cases (entries : Dict KeyEntry) (key : Text) (who : Request) :
    (key ∉ entries.names ∧ request entries key who = (give entries key key who, key)) ∨
    (∃ entry, entries.get? key = some entry ∧ who.pinned = true ∧
      request entries key who = (entries.put key (joined entry who), key)) ∨
    (∃ entry, entries.get? key = some entry ∧ who.pinned = false ∧
      request entries key who =
        (give (entries.put key (joined entry who)) (freeKey entries.names key) key who,
          freeKey entries.names key)) := by
  cases hget : entries.get? key with
  | none =>
    refine Or.inl ⟨?_, by simp only [request, hget]⟩
    simp [Dict.mem_names_iff, Dict.has, hget]
  | some entry =>
    have htaken : key ∈ entries.names := by simp [Dict.mem_names_iff, Dict.has, hget]
    cases hp : who.pinned with
    | true =>
      refine Or.inr (Or.inl ⟨entry, rfl, rfl, ?_⟩)
      simp only [request, hget, hp, if_true, joined]
    | false =>
      refine Or.inr (Or.inr ⟨entry, rfl, rfl, ?_⟩)
      -- joining an entry takes no key, so the search goes the same way after it
      have hnames : ∀ k, k ∈ (entries.put key (joined entry who)).names ↔ k ∈ entries.names := by
        intro k
        rw [Dict.mem_names_put, or_iff_right_of_imp]
        exact fun hk => hk ▸ htaken
      have hkey : freeKey entries.names key =
          suffixed (entries.put key (joined entry who)) key := by
        rw [← freeKey_congr hnames, freeKey, if_pos ((hnames key).2 htaken), suffixed_eq]
      simp only [request, hget, hp, hkey, joined, Bool.false_eq_true, if_false]

end Registry
end Bibliography.CiteKey
