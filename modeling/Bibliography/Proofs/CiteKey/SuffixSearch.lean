import Bibliography.Proofs.CiteKey.LeastFree

/-! # The search for a suffix

A record that asks for a key that is taken makes the registry try one suffix after the other. The
search ends, whatever the registry holds: the key and its suffixed forms are a sequence without
repetition, so they cannot all be taken, and as the key itself is, the number of the suffix that is
found stays below the number of the keys.
-/

namespace Bibliography.CiteKey
set_option autoImplicit false

theorem freeIndex_lt {taken : List Text} {c : Text} (h : c ∈ taken) :
    freeIndex taken c < taken.length := by
  have hinjective : Function.Injective (numbered c) := fun _ _ heq => numbered_injective heq
  obtain ⟨n, hn, hfree⟩ := exists_notMem_of_injective hinjective taken
  cases n with
  | zero => exact absurd h hfree
  | succ n =>
    -- the form number `n + 1` carries the suffix number `n`
    have hle : freeIndex taken c ≤ n := Nat.find_min' _ hfree
    exact Nat.lt_of_le_of_lt hle hn

namespace Registry

theorem request_unpinned {entries : Dict KeyEntry} {key : Text} (h : key ∈ entries.names)
    (itemId : Text) : (request entries key ⟨itemId, false⟩).2 =
      key ++ suffix (freeIndex entries.names key) := by
  rcases request_cases entries key ⟨itemId, false⟩ with ⟨hfree, -⟩ | ⟨_, -, hp, -⟩ | ⟨_, -, -, hr⟩
  · exact absurd h hfree
  · cases hp
  · rw [hr, freeKey, if_pos h]

/-- In whatever state a registry is, a record that asks for a key that is taken, and does not pin
it, gets it with the first suffix that makes it free. The number of that suffix is below the number
of the keys, so the record is never left with the empty key, and a counter of 64 bits can go through
the suffixes up to it, and past it, where the keys can be counted by one. -/
theorem request_of_taken (g : Registry) {key : Text} (taken : key ∈ g.entries.names)
    (itemId : Text) :
    ∃ n, n < g.entries.names.length ∧ key ++ suffix n ∉ g.entries.names ∧
      (∀ m < n, key ++ suffix m ∈ g.entries.names) ∧
      (request g.entries key ⟨itemId, false⟩).2 = key ++ suffix n ∧
      (request g.entries key ⟨itemId, false⟩).2 ≠ [] ∧
      (g.entries.names.length < 2 ^ 64 → n + 1 < 2 ^ 64) := by
  have hbound := freeIndex_lt taken
  have hkey := request_unpinned taken itemId
  refine ⟨freeIndex g.entries.names key, hbound, suffix_freeIndex_notMem _ _,
    fun m hm => mem_of_lt_freeIndex hm, hkey, ?_, fun hcount => ?_⟩
  · rw [hkey]
    exact List.append_ne_nil_of_right_ne_nil _ (suffix_ne_nil _)
  · exact Nat.lt_of_le_of_lt hbound hcount

/-- Behind a batch of books that all want one key, the next one that wants it. -/
theorem request_alike :
    "zotero-".toList ∈ ((new .standard).assign alike).1.entries.names ∧
      ((new .standard).assign alike).1.entries.names.length < 2 ^ 64 ∧
      ∃ n, n < 29 ∧ n + 1 < 2 ^ 64 ∧
        (request ((new .standard).assign alike).1.entries "zotero-" ⟨"29", false⟩).2 =
          "zotero-".toList ++ suffix n := by
  obtain ⟨htaken, hcount⟩ : "zotero-".toList ∈ ((new .standard).assign alike).1.entries.names ∧
      ((new .standard).assign alike).1.entries.names.length = 29 := by decide +kernel
  obtain ⟨n, hn, -, -, hkey, -, hcounter⟩ :=
    request_of_taken ((new .standard).assign alike).1 htaken "29"
  rw [hcount] at hn hcounter
  exact ⟨htaken, hcount ▸ by decide, n, hn, hcounter (by decide), hkey⟩

end Registry
end Bibliography.CiteKey
