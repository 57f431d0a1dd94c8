import Bibliography.Json.Value

/-! # Layouts of a JSON value

`IsLayout v s` says that the text `s` is the value `v` with any blanks between its tokens. Both ways
in which values are written are layouts: `compact` has no blanks and `pretty` has a line for each
part. What is read from every layout is read from either.
-/

namespace Bibliography.Json
set_option autoImplicit false
open Text

/-! ## Blanks -/

/-- Nothing but blanks. -/
def Spaces (s : Text) : Prop := ∀ c ∈ s, isSpace c = true

theorem spaces_nil : Spaces [] := by simp [Spaces]

theorem spaces_singleton : Spaces [' '] := by simp [Spaces, isSpace]

theorem spaces_lineStart (level : Nat) : Spaces (Value.lineStart level) := by
  intro c hc
  rcases List.mem_cons.1 hc with rfl | hc
  · rfl
  · rw [(List.mem_replicate.1 hc).2]
    rfl

theorem skipSpace_append {b : Text} (hb : Spaces b) (s : Text) :
    skipSpace (b ++ s) = skipSpace s :=
  List.dropWhile_append_of_pos hb

theorem skipSpace_cons {c : Char} (hc : isSpace c = false) (s : Text) :
    skipSpace (c :: s) = c :: s :=
  List.dropWhile_cons_of_neg (by simp [hc])

/-- A reader finds the token behind blanks. -/
theorem skipSpace_token {b : Text} (hb : Spaces b) {c : Char} (hc : isSpace c = false) (s : Text) :
    skipSpace (b ++ c :: s) = c :: s := by
  rw [skipSpace_append hb, skipSpace_cons hc]

/-! ## Layouts -/

/-- What stands between an item and the one before it: nothing before the first, else a comma. -/
inductive Separates : Bool → Text → Prop
  | first : Separates true []
  | comma {b : Text} : Spaces b → Separates false (b ++ [','])

mutual

/-- A text of a value, from its first token to its last. -/
inductive IsLayout : Value → Text → Prop
  | null : IsLayout .null "null"
  | flag (b : Bool) : IsLayout (.flag b) (Value.flagWord b)
  | text (s : Text) : IsLayout (.text s) (writtenString s)
  | array {items : List Value} {s : Text} :
      ItemsLayout true items s → IsLayout (.array items) ('[' :: s)
  | object {members : List (Text × Value)} {s : Text} :
      MembersLayout true members s → IsLayout (.object members) ('{' :: s)

/-- A text of items that stand behind an opening bracket, or behind another item, up to the closing
bracket. -/
inductive ItemsLayout : Bool → List Value → Text → Prop
  | closed {first : Bool} {b : Text} : Spaces b → ItemsLayout first [] (b ++ [']'])
  | item {first : Bool} {v : Value} {vs : List Value} {u b s t : Text} :
      Separates first u → Spaces b → IsLayout v s → ItemsLayout false vs t →
        ItemsLayout first (v :: vs) (u ++ (b ++ (s ++ t)))

/-- A text of members that stand behind an opening brace, or behind another member, up to the
closing brace. -/
inductive MembersLayout : Bool → List (Text × Value) → Text → Prop
  | closed {first : Bool} {b : Text} : Spaces b → MembersLayout first [] (b ++ ['}'])
  | member {first : Bool} {k : Text} {v : Value} {ms : List (Text × Value)}
      {u b b' b'' s t : Text} :
      Separates first u → Spaces b → Spaces b' → Spaces b'' → IsLayout v s →
        MembersLayout false ms t →
        MembersLayout first ((k, v) :: ms)
          (u ++ (b ++ (writtenString k ++ (b' ++ ':' :: (b'' ++ (s ++ t))))))

end

/-- A value begins with its first token, which closes nothing. -/
theorem IsLayout.exists_cons {v : Value} {s : Text} (h : IsLayout v s) :
    ∃ c t, s = c :: t ∧ isSpace c = false ∧ c ≠ ']' := by
  cases h with
  | null => exact ⟨'n', "ull", rfl, rfl, by decide⟩
  | flag b =>
    cases b with
    | true => exact ⟨'t', "rue", rfl, rfl, by decide⟩
    | false => exact ⟨'f', "alse", rfl, rfl, by decide⟩
  | text s => exact ⟨'"', _, rfl, rfl, by decide⟩
  | array _ => exact ⟨'[', _, rfl, rfl, by decide⟩
  | object _ => exact ⟨'{', _, rfl, rfl, by decide⟩

theorem ItemsLayout.length_lt {first : Bool} {vs : List Value} {s : Text}
    (h : ItemsLayout first vs s) : vs.length < s.length := by
  induction vs generalizing first s with
  | nil =>
    cases h with
    | closed _ => simp
  | cons v vs ih =>
    cases h with
    | item _ _ hv hrest =>
      obtain ⟨c, t, rfl, -, -⟩ := hv.exists_cons
      have hlen := ih hrest
      simp only [List.length_append, List.length_cons]
      omega

theorem MembersLayout.length_lt {first : Bool} {ms : List (Text × Value)} {s : Text}
    (h : MembersLayout first ms s) : ms.length < s.length := by
  induction ms generalizing first s with
  | nil =>
    cases h with
    | closed _ => simp
  | cons m ms ih =>
    cases h with
    | member _ _ _ _ _ hrest =>
      have hlen := ih hrest
      simp only [List.length_append, List.length_cons]
      omega

/-! ## Both ways of writing -/

/-- What holds of a value as soon as it holds of its parts holds of every value. -/
@[elab_as_elim]
theorem Value.ofParts {p : Value → Prop} (null : p .null) (flag : ∀ b, p (.flag b))
    (text : ∀ s, p (.text s)) (array : ∀ items, (∀ v ∈ items, p v) → p (.array items))
    (object : ∀ members, (∀ m ∈ members, p m.2) → p (.object members)) : ∀ v, p v
  | .null => null
  | .flag b => flag b
  | .text s => text s
  | .array items => array items fun v _ => ofParts null flag text array object v
  | .object members => object members fun m _ => ofParts null flag text array object m.2
termination_by v => sizeOf v
decreasing_by
  · rename_i hv
    have hlt := List.sizeOf_lt_of_mem hv
    simp only [Value.array.sizeOf_spec]
    omega
  · rename_i hm
    have hlt := List.sizeOf_lt_of_mem hm
    have hpart : sizeOf m.2 < sizeOf m := by
      cases m
      simp only [Prod.mk.sizeOf_spec]
      omega
    simp only [Value.object.sizeOf_spec]
    omega

section Writing
variable {write : Value → Text} {gap pad ending : Text}

theorem itemsLayout_of_cons (hgap : Spaces gap) (hending : Spaces ending) {v : Value}
    {vs : List Value} (h : ∀ w ∈ v :: vs, IsLayout w (write w)) {first : Bool} {u : Text}
    (hu : Separates first u) :
    ItemsLayout first (v :: vs)
      (u ++ (joinWith [','] ((v :: vs).map fun w => gap ++ write w) ++ (ending ++ [']']))) := by
  have hv := h v (List.mem_cons_self ..)
  induction vs generalizing v first u with
  | nil => simpa [joinWith] using ItemsLayout.item hu hgap hv (.closed hending)
  | cons w ws ih =>
    have hws : ∀ x ∈ w :: ws, IsLayout x (write x) := fun x hx => h x (List.mem_cons_of_mem _ hx)
    have hrest := ih hws (.comma spaces_nil) (hws w (List.mem_cons_self ..))
    simpa [joinWith] using ItemsLayout.item hu hgap hv hrest

theorem membersLayout_of_cons (hgap : Spaces gap) (hpad : Spaces pad) (hending : Spaces ending)
    {m : Text × Value} {ms : List (Text × Value)} (h : ∀ n ∈ m :: ms, IsLayout n.2 (write n.2))
    {first : Bool} {u : Text} (hu : Separates first u) :
    MembersLayout first (m :: ms)
      (u ++ (joinWith [',']
        ((m :: ms).map fun n => gap ++ (writtenString n.1 ++ (':' :: pad ++ write n.2))) ++
          (ending ++ ['}']))) := by
  have hm := h m (List.mem_cons_self ..)
  induction ms generalizing m first u with
  | nil =>
    simpa [joinWith] using
      MembersLayout.member (k := m.1) hu hgap spaces_nil hpad hm (.closed hending)
  | cons n ns ih =>
    have hns : ∀ x ∈ n :: ns, IsLayout x.2 (write x.2) :=
      fun x hx => h x (List.mem_cons_of_mem _ hx)
    have hrest := ih hns (.comma spaces_nil) (hns n (List.mem_cons_self ..))
    simpa [joinWith] using MembersLayout.member (k := m.1) hu hgap spaces_nil hpad hm hrest

end Writing

namespace Value

theorem compactItems_eq (vs : List Value) : compactItems vs = joinWith [','] (vs.map compact) := by
  induction vs with
  | nil => rfl
  | cons v vs ih =>
    cases vs with
    | nil => rfl
    | cons w ws => simpa [compactItems, joinWith] using ih

theorem compactMembers_eq (ms : List (Text × Value)) :
    compactMembers ms =
      joinWith [','] (ms.map fun m => writtenString m.1 ++ ':' :: compact m.2) := by
  induction ms with
  | nil => rfl
  | cons m ms ih =>
    cases ms with
    | nil => simp [compactMembers, joinWith]
    | cons n ns => simpa [compactMembers, joinWith] using ih

theorem prettyItems_eq (level : Nat) (vs : List Value) :
    prettyItems level vs =
      joinWith [','] (vs.map fun v => lineStart level ++ prettyAt level v) := by
  induction vs with
  | nil => rfl
  | cons v vs ih =>
    cases vs with
    | nil => rfl
    | cons w ws => simpa [prettyItems, joinWith] using ih

theorem prettyMembers_eq (level : Nat) (ms : List (Text × Value)) :
    prettyMembers level ms =
      joinWith [',']
        (ms.map fun m => lineStart level ++ (writtenString m.1 ++ ": " ++ prettyAt level m.2)) := by
  induction ms with
  | nil => rfl
  | cons m ms ih =>
    cases ms with
    | nil => simp [prettyMembers, joinWith]
    | cons n ns => simpa [prettyMembers, joinWith] using ih

end Value

theorem isLayout_compact (v : Value) : IsLayout v v.compact := by
  induction v using Value.ofParts with
  | null => exact .null
  | flag b => exact .flag b
  | text s => exact .text s
  | array items h =>
    cases items with
    | nil => exact .array (.closed spaces_nil)
    | cons v vs =>
      have hitems := itemsLayout_of_cons spaces_nil spaces_nil h .first
      simpa [Value.compact, Value.compactItems_eq] using IsLayout.array hitems
  | object members h =>
    cases members with
    | nil => exact .object (.closed spaces_nil)
    | cons m ms =>
      have hmembers := membersLayout_of_cons spaces_nil spaces_nil spaces_nil h .first
      simpa [Value.compact, Value.compactMembers_eq] using IsLayout.object hmembers

theorem isLayout_prettyAt (v : Value) (level : Nat) : IsLayout v (v.prettyAt level) := by
  induction v using Value.ofParts generalizing level with
  | null => exact .null
  | flag b => exact .flag b
  | text s => exact .text s
  | array items h =>
    cases items with
    | nil => exact .array (.closed spaces_nil)
    | cons v vs =>
      have hitems := itemsLayout_of_cons (spaces_lineStart (level + 1)) (spaces_lineStart level)
        (fun w hw => h w hw (level + 1)) .first
      simpa [Value.prettyAt, Value.prettyItems_eq] using IsLayout.array hitems
  | object members h =>
    cases members with
    | nil => exact .object (.closed spaces_nil)
    | cons m ms =>
      have hmembers := membersLayout_of_cons (spaces_lineStart (level + 1)) spaces_singleton
        (spaces_lineStart level) (fun n hn => h n hn (level + 1)) .first
      simpa [Value.prettyAt, Value.prettyMembers_eq] using IsLayout.object hmembers

theorem isLayout_pretty (v : Value) : IsLayout v v.pretty := isLayout_prettyAt v 0

end Bibliography.Json
