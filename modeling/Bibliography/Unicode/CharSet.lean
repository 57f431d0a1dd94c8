/-! # Sets of characters

A Unicode property is a set of characters, written as closed intervals of code points in
increasing order.
-/

namespace Bibliography.Unicode
set_option autoImplicit false

/-- A set of characters, given by closed intervals of code points. -/
structure CharSet where
  ranges : List (Nat × Nat)

/-- The character lies in one of the intervals. -/
def CharSet.contains (s : CharSet) (c : Char) : Bool :=
  s.ranges.any fun r => r.1 ≤ c.toNat && c.toNat ≤ r.2

theorem CharSet.contains_iff {s : CharSet} {c : Char} :
    s.contains c = true ↔ ∃ r ∈ s.ranges, r.1 ≤ c.toNat ∧ c.toNat ≤ r.2 := by
  simp [CharSet.contains, List.any_eq_true]

/-- A stretch of code points that lies within an interval of the set lies in the set. -/
theorem CharSet.contains_of_within {s : CharSet} {first last : Nat} {c : Char}
    (h : (s.ranges.any fun r => last.ble r.2 && r.1.ble first) = true) (hfirst : first ≤ c.toNat)
    (hlast : c.toNat ≤ last) : s.contains c = true := by
  obtain ⟨r, hr, hwithin⟩ := List.any_eq_true.1 h
  obtain ⟨hend, hbegin⟩ := Bool.and_eq_true_iff.1 hwithin
  exact contains_iff.2 ⟨r, hr, Nat.le_trans (Nat.le_of_ble_eq_true hbegin) hfirst,
    Nat.le_trans hlast (Nat.le_of_ble_eq_true hend)⟩

end Bibliography.Unicode
