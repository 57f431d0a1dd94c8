import Bibliography.Json.Reader
import Bibliography.Proofs.Json.Layout
import Bibliography.Proofs.Json.Strings
import Mathlib.Data.List.Forall2

/-! # Reading what was written

`Accepts read v a` says that a reader takes the value `v` for `a`, in every layout and whatever
follows. Readers of strings and truth values do so for the values that are written for them, readers
of arrays and dictionaries do so if the readers of their items do. A structure accepts an object
whose members, one after the other, are accepted by its own (`Fills`).
-/

namespace Bibliography.Json
set_option autoImplicit false
open Text

namespace Reader

/-- The reader takes the value off the beginning of a text, with any blanks before it. -/
def Accepts {α : Type} (read : Reader α) (v : Value) (a : α) : Prop :=
  ∀ b s rest, Spaces b → IsLayout v s → read (b ++ (s ++ rest)) = .ok (a, rest)

/-! ## Single values -/

theorem writtenString_append (s rest : Text) :
    writtenString s ++ rest = '"' :: (s.flatMap writtenChar ++ '"' :: rest) := by
  simp [writtenString]

theorem afterWord_append (letters rest : Text) :
    afterWord letters (letters ++ rest) = .ok rest := by
  induction letters with
  | nil => rfl
  | cons c letters ih => rw [List.cons_append, afterWord, if_pos rfl, ih]

theorem accepts_text (s : Text) : Accepts text (.text s) s := by
  intro b t rest hb ht
  cases ht
  rw [writtenString_append, text, skipSpace_token hb rfl]
  exact readChars_written s rest

theorem accepts_optionalText (s : Text) : Accepts optionalText (.text s) (some s) := by
  intro b t rest hb ht
  have htext := accepts_text s [] t rest spaces_nil ht
  cases ht
  rw [writtenString_append, List.nil_append] at htext
  rw [writtenString_append, optionalText, skipSpace_token hb rfl]
  exact congrArg (Except.map fun read => (some read.1, read.2)) htext

theorem accepts_flag (f : Bool) : Accepts flag (.flag f) f := by
  intro b t rest hb ht
  cases ht
  cases f with
  | true =>
    have hword : Value.flagWord true ++ rest = 't' :: ("rue".toList ++ rest) := rfl
    rw [hword, flag, skipSpace_token hb rfl]
    simp only [afterWord_append, Except.map]
  | false =>
    have hword : Value.flagWord false ++ rest = 'f' :: ("alse".toList ++ rest) := rfl
    rw [hword, flag, skipSpace_token hb rfl]
    simp only [afterWord_append, Except.map]

/-! ## Arrays -/

theorem nextItem_closing (first : Bool) {b : Text} (hb : Spaces b) (rest : Text) :
    nextItem first (b ++ ']' :: rest) = .ok (none, ']' :: rest) := by
  rw [nextItem, skipSpace_token hb rfl]
  rfl

/-- An item begins behind the comma, and behind the blanks. -/
theorem nextItem_item {first : Bool} {u b s rest : Text} (hu : Separates first u) (hb : Spaces b)
    {v : Value} (hs : IsLayout v s) :
    nextItem first (u ++ (b ++ (s ++ rest))) = .ok (some (s ++ rest), []) := by
  obtain ⟨c, t, rfl, hc, hclosing⟩ := hs.exists_cons
  cases hu with
  | first =>
    rw [List.nil_append, List.cons_append, nextItem, skipSpace_token hb hc]
    simp
  | comma hb' =>
    rw [List.append_assoc, List.singleton_append, List.cons_append, nextItem,
      skipSpace_token hb' rfl]
    simp [skipSpace_token hb hc, hclosing]

theorem itemsWith_layout {α : Type} {item : Reader α} {vs : List Value} {as : List α}
    (h : List.Forall₂ (Accepts item) vs as) {first : Bool} {s : Text}
    (hs : ItemsLayout first vs s) {fuel : Nat} (hfuel : vs.length < fuel) (rest : Text) :
    itemsWith item first fuel (s ++ rest) = .ok (as, rest) := by
  induction h generalizing first s fuel with
  | nil =>
    obtain ⟨fuel, rfl⟩ := Nat.exists_eq_add_one_of_ne_zero (Nat.ne_zero_of_lt hfuel)
    cases hs with
    | closed hb =>
      rw [List.append_assoc, List.singleton_append, itemsWith, nextItem_closing first hb]
      rfl
  | cons hv _ ih =>
    obtain ⟨fuel, rfl⟩ := Nat.exists_eq_add_one_of_ne_zero (Nat.ne_zero_of_lt hfuel)
    cases hs with
    | @item _ _ _ u b s t hu hb hitem hmore =>
      have hread := hv [] s (t ++ rest) spaces_nil hitem
      have htail := ih hmore (Nat.lt_of_succ_lt_succ hfuel)
      rw [List.nil_append] at hread
      simp only [List.append_assoc, itemsWith, nextItem_item hu hb hitem, bind, Except.bind, hread,
        htail]

theorem accepts_array {α : Type} {item : Reader α} {vs : List Value} {as : List α}
    (h : List.Forall₂ (Accepts item) vs as) : Accepts (array item) (.array vs) as := by
  intro b s rest hb hs
  cases hs with
  | array hitems =>
    have hlen := hitems.length_lt
    rw [List.cons_append, array, skipSpace_token hb rfl]
    refine itemsWith_layout h hitems ?_ rest
    rw [List.length_append]
    omega

/-! ## Objects -/

theorem nextName_closing (first : Bool) {b : Text} (hb : Spaces b) (rest : Text) :
    nextName first (b ++ '}' :: rest) = .ok (none, rest) := by
  rw [nextName, skipSpace_token hb rfl]
  rfl

theorem nextName_name {first : Bool} {u b : Text} (hu : Separates first u) (hb : Spaces b)
    (k rest : Text) :
    nextName first (u ++ (b ++ (writtenString k ++ rest))) = .ok (some k, rest) := by
  cases hu with
  | first =>
    rw [writtenString_append, List.nil_append, nextName, skipSpace_token hb rfl]
    simp [readChars_written, Except.map]
  | comma hb' =>
    rw [writtenString_append, List.append_assoc, List.singleton_append, nextName,
      skipSpace_token hb' rfl]
    simp [skipSpace_token hb, isSpace, readChars_written, Except.map]

theorem afterColon_colon {b : Text} (hb : Spaces b) (rest : Text) :
    afterColon (b ++ ':' :: rest) = .ok rest := by
  rw [afterColon, skipSpace_token hb rfl]
  rfl

/-- The values of a dictionary are read under their names, one after the other. -/
theorem membersWith_layout {α : Type} {value : Reader α} {ms : List (Text × Value)}
    {ps : List (Text × α)}
    (h : List.Forall₂ (fun m p => m.1 = p.1 ∧ Accepts value m.2 p.2) ms ps) {first : Bool}
    {s : Text} (hs : MembersLayout first ms s) (d : Dict α) {fuel : Nat} (hfuel : ms.length < fuel)
    (rest : Text) :
    membersWith value first d fuel (s ++ rest) =
      .ok (ps.foldl (fun d p => d.put p.1 p.2) d, rest) := by
  induction h generalizing first s d fuel with
  | nil =>
    obtain ⟨fuel, rfl⟩ := Nat.exists_eq_add_one_of_ne_zero (Nat.ne_zero_of_lt hfuel)
    cases hs with
    | closed hb =>
      rw [List.append_assoc, List.singleton_append, membersWith, nextName_closing first hb]
      rfl
  | @cons m p _ _ hm _ ih =>
    obtain ⟨fuel, rfl⟩ := Nat.exists_eq_add_one_of_ne_zero (Nat.ne_zero_of_lt hfuel)
    cases hs with
    | @member _ k v _ u b b' b'' s t hu hb hb' hb'' hv hmore =>
      obtain ⟨hname, hvalue⟩ := hm
      have hread := hvalue b'' s (t ++ rest) hb'' hv
      have htail := ih hmore (d.put p.1 p.2) (Nat.lt_of_succ_lt_succ hfuel)
      rw [← hname] at htail
      simp only [List.append_assoc, List.cons_append, membersWith, nextName_name hu hb,
        afterColon_colon hb', bind, Except.bind, hread, htail, List.foldl_cons, ← hname]

theorem accepts_dict {α : Type} {value : Reader α} {ms : List (Text × Value)}
    {ps : List (Text × α)}
    (h : List.Forall₂ (fun m p => m.1 = p.1 ∧ Accepts value m.2 p.2) ms ps) :
    Accepts (dict value) (.object ms) (Dict.ofList ps) := by
  intro b s rest hb hs
  cases hs with
  | object hmembers =>
    have hlen := hmembers.length_lt
    rw [List.cons_append, dict, skipSpace_token hb rfl]
    refine membersWith_layout h hmembers ∅ ?_ rest
    rw [List.length_append]
    omega

/-- A whole text is read if nothing but blanks stands around the value. -/
theorem Accepts.whole {α : Type} {read : Reader α} {v : Value} {a : α} (h : Accepts read v a)
    {b s ending : Text} (hb : Spaces b) (hs : IsLayout v s) (hending : Spaces ending) :
    Json.whole read (b ++ (s ++ ending)) = .ok a := by
  have hrest : skipSpace ending = [] := by
    rw [← List.append_nil ending, skipSpace_append hending]
    rfl
  simp only [Json.whole, bind, Except.bind, h b s ending hb hs, hrest, List.isEmpty_nil, if_true]

end Reader

/-! ## Structures -/

open Reader

theorem Member.accepts_of {α β : Type} {value : Reader β} {v : Value} {x : β}
    (h : Accepts value v x) (name : Text) (required : Bool) (store : α → β → α) (a : α) :
    Accepts ((Member.of name required value store).read a) v (store a x) := by
  intro b s rest hb hs
  simp only [Member.of, h b s rest hb hs, Except.map]

namespace Shape
variable {α : Type}

/-- Reading the members one after the other leads from one state of the structure to another. -/
inductive Fills (shape : Shape α) : α → List (Text × Value) → α → Prop
  | done (a : α) : Fills shape a [] a
  | member {a a' a'' : α} {m : Member α} {k : Text} {v : Value} {ms : List (Text × Value)} :
      shape.members.find? (fun m => m.name == k) = some m → Accepts (m.read a) v a' →
        Fills shape a' ms a'' → Fills shape a ((k, v) :: ms) a''

/-- The members that must be given. -/
def requiredNames (shape : Shape α) : List Text :=
  (shape.members.filter Member.required).map Member.name

theorem objectWith_layout {shape : Shape α} {a a' : α} {ms : List (Text × Value)}
    (h : Fills shape a ms a') {seen : List Text} (hnew : (ms.map Prod.fst ++ seen).Nodup)
    (hcomplete : ∀ k ∈ shape.requiredNames, k ∈ ms.map Prod.fst ++ seen) {first : Bool} {s : Text}
    (hs : MembersLayout first ms s) {fuel : Nat} (hfuel : ms.length < fuel) (rest : Text) :
    shape.objectWith first seen a fuel (s ++ rest) = .ok (a', rest) := by
  induction h generalizing seen first s fuel with
  | done a =>
    obtain ⟨fuel, rfl⟩ := Nat.exists_eq_add_one_of_ne_zero (Nat.ne_zero_of_lt hfuel)
    have hnone : shape.members.find? (fun m => m.required && !seen.contains m.name) = none := by
      refine List.find?_eq_none.2 fun m hm hmissing => ?_
      obtain ⟨hrequired, habsent⟩ := Bool.and_eq_true_iff.1 hmissing
      have hseen : m.name ∈ seen :=
        hcomplete _ (List.mem_map_of_mem (List.mem_filter.2 ⟨hm, hrequired⟩))
      simp [hseen] at habsent
    cases hs with
    | closed hb =>
      rw [List.append_assoc, List.singleton_append, objectWith, nextName_closing first hb]
      simp only [bind, Except.bind, hnone]
  | @member a a' a'' m k v ms hfind hread _ ih =>
    -- The name moves from those to come to those seen; together they stay the same.
    obtain ⟨fuel, rfl⟩ := Nat.exists_eq_add_one_of_ne_zero (Nat.ne_zero_of_lt hfuel)
    have hmove : (ms.map Prod.fst ++ k :: seen).Perm (k :: (ms.map Prod.fst ++ seen)) :=
      List.perm_middle
    have hunseen : seen.contains k = false := by
      have hk : k ∉ seen := fun hk => (List.nodup_cons.1 hnew).1 (List.mem_append_right _ hk)
      simpa using hk
    have hcomplete' : ∀ x ∈ shape.requiredNames, x ∈ ms.map Prod.fst ++ k :: seen :=
      fun x hx => hmove.mem_iff.2 (hcomplete x hx)
    cases hs with
    | @member _ _ _ _ u b b' b'' s t hu hb hb' hb'' hv hmore =>
      have hvalue := hread b'' s (t ++ rest) hb'' hv
      have htail := ih (hmove.nodup_iff.2 hnew) hcomplete' hmore (Nat.lt_of_succ_lt_succ hfuel)
      simp only [List.append_assoc, List.cons_append, objectWith, nextName_name hu hb,
        afterColon_colon hb', bind, Except.bind, hfind, hunseen, Bool.false_eq_true, if_false,
        hvalue, htail]

/-- A structure accepts an object with distinct members that fill it, in any order, if none is
missing that must be there. -/
theorem accepts_read {shape : Shape α} {a : α} {ms : List (Text × Value)}
    (names : List Text) (hnames : ms.map Prod.fst = names) (hnew : names.Nodup)
    (hcomplete : ∀ k ∈ shape.requiredNames, k ∈ names) (h : Fills shape shape.blank ms a) :
    Accepts shape.read (.object ms) a := by
  subst hnames
  intro b s rest hb hs
  cases hs with
  | object hmembers =>
    have hlen := hmembers.length_lt
    rw [List.cons_append, read, skipSpace_token hb rfl]
    refine objectWith_layout h ?_ ?_ hmembers ?_ rest
    · rwa [List.append_nil]
    · rwa [List.append_nil]
    · rw [List.length_append]
      omega

end Shape

end Bibliography.Json
