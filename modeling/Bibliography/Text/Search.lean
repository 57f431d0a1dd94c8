import Bibliography.Text.Basic

/-! # Finding

`after?` tests the beginning of a text, and `leftmost` carries such a test along it until it
succeeds.
-/

namespace Bibliography.Text
set_option autoImplicit false

/-! ## Beginnings -/

/-- What follows the given beginning, if the text begins with it. -/
def after? : Text → Text → Option Text
  | [], s => some s
  | _ :: _, [] => none
  | p :: ps, c :: cs => if p = c then after? ps cs else none

theorem after?_eq_some_iff {p s r : Text} : after? p s = some r ↔ s = p ++ r := by
  fun_induction after? p s with
  | case1 s => simp [eq_comm]
  | case2 => simp
  | case3 p ps cs ih => simp [ih]
  | case4 p ps c cs h => simp [Ne.symm h]

theorem after?_eq_none_iff {p s : Text} : after? p s = none ↔ ¬p <+: s := by
  rw [Option.eq_none_iff_forall_ne_some]
  constructor
  · rintro h ⟨r, hr⟩
    exact h r (after?_eq_some_iff.2 hr.symm)
  · intro h r hr
    exact h ⟨r, (after?_eq_some_iff.1 hr).symm⟩

theorem length_of_after? {p s r : Text} (h : after? p s = some r) :
    s.length = p.length + r.length := by
  rw [after?_eq_some_iff.1 h, List.length_append]

/-- The first of several beginnings the text has, and what follows it. -/
def afterAny? (ps : List Text) (s : Text) : Option Text := ps.findSome? fun p => after? p s

theorem afterAny?_singleton (p s : Text) : afterAny? [p] s = after? p s := by
  rw [afterAny?, List.findSome?_singleton]

/-- The longest beginning of characters with a property ends where one lacks it. -/
theorem takeWhile_of_stop {p : Char → Bool} {s rest : Text} (hs : ∀ c ∈ s, p c = true)
    (hrest : ∀ c ∈ rest.head?, p c = false) : (s ++ rest).takeWhile p = s := by
  rw [List.takeWhile_append_of_pos hs]
  cases rest with
  | nil => exact List.append_nil s
  | cons c rest => rw [List.takeWhile_cons_of_neg (by simpa using hrest c rfl), List.append_nil]

theorem dropWhile_of_stop {p : Char → Bool} {s rest : Text} (hs : ∀ c ∈ s, p c = true)
    (hrest : ∀ c ∈ rest.head?, p c = false) : (s ++ rest).dropWhile p = rest := by
  rw [List.dropWhile_append_of_pos hs]
  cases rest with
  | nil => rfl
  | cons c rest => rw [List.dropWhile_cons_of_neg (by simpa using hrest c rfl)]

/-! ## Leftmost occurrences -/

/-- The first place where a test succeeds: the text before it, and the outcome there. -/
def leftmost {α : Type} (test : Text → Option α) : Text → Option (Text × α)
  | [] => (test []).map fun a => ([], a)
  | c :: cs =>
    match test (c :: cs) with
    | some a => some ([], a)
    | none => (leftmost test cs).map fun found => (c :: found.1, found.2)

/-- The text occurs somewhere. -/
def occursIn (p s : Text) : Bool := (leftmost (after? p) s).isSome

/-- A place where the test succeeds cuts the text in two. -/
theorem leftmost_eq_some {α : Type} {test : Text → Option α} {s before : Text} {a : α}
    (h : leftmost test s = some (before, a)) : ∃ rest, s = before ++ rest ∧ test rest = some a := by
  induction s generalizing before with
  | nil =>
    simp only [leftmost, Option.map_eq_some_iff, Prod.mk.injEq] at h
    obtain ⟨b, hb, rfl, rfl⟩ := h
    exact ⟨[], rfl, hb⟩
  | cons c cs ih =>
    simp only [leftmost] at h
    split at h
    · rename_i b hb
      obtain ⟨rfl, rfl⟩ := by simpa using h
      exact ⟨c :: cs, rfl, hb⟩
    · simp only [Option.map_eq_some_iff, Prod.mk.injEq] at h
      obtain ⟨⟨before', b⟩, hb, rfl, rfl⟩ := h
      obtain ⟨rest, rfl, hr⟩ := ih hb
      exact ⟨rest, rfl, hr⟩

theorem leftmost_isSome_iff {α : Type} {test : Text → Option α} {s : Text} :
    (leftmost test s).isSome = true ↔
      ∃ before rest, s = before ++ rest ∧ (test rest).isSome = true := by
  constructor
  · intro h
    obtain ⟨⟨before, a⟩, hfound⟩ := Option.isSome_iff_exists.1 h
    obtain ⟨rest, rfl, htest⟩ := leftmost_eq_some hfound
    exact ⟨before, rest, rfl, by rw [htest]; rfl⟩
  · rintro ⟨before, rest, rfl, htest⟩
    induction before with
    | nil =>
      obtain ⟨a, ha⟩ := Option.isSome_iff_exists.1 htest
      cases rest with
      | nil => simp [leftmost, ha]
      | cons c rest => simp [leftmost, ha]
    | cons c before ih =>
      rw [List.cons_append, leftmost]
      split
      · rfl
      · rw [Option.isSome_map, ih]

end Bibliography.Text
