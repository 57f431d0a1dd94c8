import Bibliography.Json.Reader

/-! # What readers return

`Gives read p` says that whatever a reader returns has the property `p`. Of an array it is a
property of all items, and of a structure one that holds before any member is read and that no
member breaks, whichever form the structure is written in.
-/

namespace Bibliography.Json
set_option autoImplicit false

/-- A chain succeeds only if its first step does, and then the rest. -/
theorem exists_of_bind_ok {α β : Type} {x : Except Fault α} {f : α → Except Fault β} {b : β}
    (h : x >>= f = .ok b) : ∃ a, x = .ok a ∧ f a = .ok b := by
  cases x with
  | error fault => simp [bind, Except.bind] at h
  | ok a => exact ⟨a, rfl, h⟩

theorem exists_of_map_ok {α β : Type} {x : Except Fault α} {f : α → β} {b : β}
    (h : x.map f = .ok b) : ∃ a, x = .ok a ∧ f a = b := by
  cases x with
  | error fault => simp [Except.map] at h
  | ok a => exact ⟨a, rfl, Except.ok.inj h⟩

namespace Reader
variable {α β : Type}

/-- Whatever the reader returns has the property. -/
def Gives (read : Reader α) (p : α → Prop) : Prop :=
  ∀ s a rest, read s = .ok (a, rest) → p a

theorem gives_true (read : Reader α) : Gives read fun _ => True := fun _ _ _ _ => trivial

theorem gives_itemsWith {item : Reader α} {p : α → Prop} (h : Gives item p) (first : Bool)
    (fuel : Nat) : Gives (itemsWith item first fuel) fun as => ∀ a ∈ as, p a := by
  induction fuel generalizing first with
  | zero =>
    intro s as rest hs
    simp [itemsWith] at hs
  | succ fuel ih =>
    intro s as rest hs
    obtain ⟨⟨start, next⟩, -, hs⟩ := exists_of_bind_ok hs
    cases start with
    | none =>
      have has : [] = as := (Prod.mk.inj (Except.ok.inj hs)).1
      simp [← has]
    | some start =>
      obtain ⟨⟨a, next⟩, hitem, hs⟩ := exists_of_bind_ok hs
      obtain ⟨⟨more, next⟩, hmore, hs⟩ := exists_of_bind_ok hs
      have has : a :: more = as := (Prod.mk.inj (Except.ok.inj hs)).1
      rw [← has]
      exact List.forall_mem_cons.2 ⟨h _ _ _ hitem, ih false _ _ _ hmore⟩

theorem gives_array {item : Reader α} {p : α → Prop} (h : Gives item p) :
    Gives (array item) fun as => ∀ a ∈ as, p a := by
  intro s as rest hs
  unfold array at hs
  split at hs
  · exact gives_itemsWith h _ _ _ _ _ hs
  · cases hs

theorem Gives.whole {read : Reader α} {p : α → Prop} (h : Gives read p) {s : Text} {a : α}
    (hs : Json.whole read s = .ok a) : p a := by
  obtain ⟨⟨b, rest⟩, hread, hs⟩ := exists_of_bind_ok hs
  dsimp only at hs
  split at hs
  · obtain rfl := Except.ok.inj hs
    exact h _ _ _ hread
  · cases hs

end Reader

open Reader

/-- A member keeps a property if storing any value its reader returns does. -/
theorem Member.gives_of {α β : Type} {value : Reader β} {q : β → Prop} (h : Gives value q)
    {p : α → Prop} {store : α → β → α} {a : α} (hstore : ∀ x, q x → p (store a x)) (name : Text)
    (required : Bool) : Gives ((Member.of name required value store).read a) p := by
  intro s b rest hs
  obtain ⟨⟨x, next⟩, hvalue, hs⟩ := exists_of_map_ok hs
  obtain rfl := (Prod.mk.inj hs).1
  exact hstore x (h _ _ _ hvalue)

namespace Shape
variable {α : Type} {shape : Shape α} {p : α → Prop}

theorem gives_objectWith (members : ∀ m ∈ shape.members, ∀ a, p a → Gives (m.read a) p)
    (fuel : Nat) (first : Bool) (seen : List Text) {a : α} (ha : p a) :
    Gives (shape.objectWith first seen a fuel) p := by
  induction fuel generalizing first seen a with
  | zero =>
    intro s b rest hs
    simp [objectWith] at hs
  | succ fuel ih =>
    intro s b rest hs
    obtain ⟨⟨name, next⟩, -, hs⟩ := exists_of_bind_ok hs
    cases name with
    | none =>
      dsimp only at hs
      split at hs
      · cases hs
      · obtain rfl := (Prod.mk.inj (Except.ok.inj hs)).1
        exact ha
    | some k =>
      dsimp only at hs
      split at hs
      · obtain ⟨_, -, hs⟩ := exists_of_bind_ok hs
        obtain ⟨_, -, hs⟩ := exists_of_bind_ok hs
        exact ih false seen ha _ _ _ hs
      · rename_i m hm
        split at hs
        · cases hs
        · obtain ⟨_, -, hs⟩ := exists_of_bind_ok hs
          obtain ⟨⟨a', next⟩, hread, hs⟩ := exists_of_bind_ok hs
          have ha' := members m (List.mem_of_find?_eq_some hm) a ha _ _ _ hread
          exact ih false (k :: seen) ha' _ _ _ hs

theorem gives_arrayFrom (members : ∀ m ∈ shape.members, ∀ a, p a → Gives (m.read a) p)
    {ms : List (Member α)} (hms : ∀ m ∈ ms, m ∈ shape.members) (i : Nat) {a : α} (ha : p a) :
    Gives (shape.arrayFrom i a ms) p := by
  induction ms generalizing i a with
  | nil =>
    intro s b rest hs
    unfold arrayFrom at hs
    split at hs
    · cases hs
    · obtain rfl := (Prod.mk.inj (Except.ok.inj hs)).1
      exact ha
    · cases hs
  | cons m ms ih =>
    obtain ⟨hm, hms⟩ := List.forall_mem_cons.1 hms
    intro s b rest hs
    obtain ⟨⟨start, next⟩, -, hs⟩ := exists_of_bind_ok hs
    cases start with
    | none =>
      dsimp only at hs
      split at hs
      · cases hs
      · exact ih hms (i + 1) ha _ _ _ hs
    | some start =>
      obtain ⟨⟨a', next⟩, hread, hs⟩ := exists_of_bind_ok hs
      exact ih hms (i + 1) (members m hm a ha _ _ _ hread) _ _ _ hs

theorem gives_read (blank : p shape.blank)
    (members : ∀ m ∈ shape.members, ∀ a, p a → Gives (m.read a) p) : Gives shape.read p := by
  intro s a rest hs
  unfold read at hs
  split at hs
  · exact gives_objectWith members _ _ _ blank _ _ _ hs
  · exact gives_arrayFrom members (fun _ hm => hm) _ blank _ _ _ hs
  · cases hs

end Shape
end Bibliography.Json
