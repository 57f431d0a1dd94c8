import Bibliography.Export.FieldValue
import Bibliography.Proofs.Markup.Kept

/-! # The leaves of a value

However deep its lists are nested, a value is escaped leaf by leaf: its numbers and the texts in it
that are not empty, in order. Separators stand between leaves only, since a list without any is left
out of the list around it (`SameJoin` carries this through the nesting).
-/

namespace Bibliography.Text
set_option autoImplicit false

/-! ## Joining -/

theorem joinWith_append (sep : Text) {ts us : List Text} (hts : ts ≠ []) (hus : us ≠ []) :
    joinWith sep (ts ++ us) = joinWith sep ts ++ sep ++ joinWith sep us := by
  induction ts with
  | nil => exact absurd rfl hts
  | cons t ts ih =>
    by_cases hnil : ts = []
    · rw [hnil, List.singleton_append, joinWith_cons sep t hus]
      rfl
    · have hne : ts ++ us ≠ [] := List.append_ne_nil_of_left_ne_nil hnil us
      rw [List.cons_append, joinWith_cons sep t hne, ih hnil, joinWith_cons sep t hnil]
      simp only [List.append_assoc]

/-- Joined, the texts of both lists are the same, and there are none in one if there are none in the
other. -/
structure SameJoin (sep : Text) (ts us : List Text) : Prop where
  nil_iff : ts = [] ↔ us = []
  joined : joinWith sep ts = joinWith sep us

/-- Some of the texts may be joined before all are. -/
theorem SameJoin.cons {sep : Text} {ts us vs : List Text} (h : SameJoin sep ts us) (hvs : vs ≠ []) :
    SameJoin sep (joinWith sep vs :: ts) (vs ++ us) := by
  refine ⟨by simp [hvs], ?_⟩
  by_cases hts : ts = []
  · rw [hts, h.nil_iff.1 hts, List.append_nil]
    rfl
  · rw [joinWith_cons sep _ hts, h.joined, joinWith_append sep hvs fun hus => hts (h.nil_iff.2 hus)]

end Bibliography.Text

namespace Bibliography.Export
open Text Latex

namespace FieldValue

/-! ## Leaves -/

/-- A number, or a text with something in it. -/
inductive IsLeaf : FieldValue → Prop
  | number (n : Int) : IsLeaf (.number n)
  | text {s : Text} (h : s ≠ []) : IsLeaf (.text s)
  | literal {s : Text} (h : s ≠ []) : IsLeaf (.literal s)

mutual

/-- The leaves of a value, in order. -/
def leaves : FieldValue → List FieldValue
  | .number n => [.number n]
  | .text s => if s.isEmpty then [] else [.text s]
  | .literal s => if s.isEmpty then [] else [.literal s]
  | .list items => leavesOfItems items

/-- The leaves of the items, in order. -/
def leavesOfItems : List FieldValue → List FieldValue
  | [] => []
  | v :: vs => leaves v ++ leavesOfItems vs

end

mutual

theorem isLeaf_of_mem_leaves : ∀ {v leaf : FieldValue}, leaf ∈ v.leaves → leaf.IsLeaf
  | .number n, leaf, h => by
    rw [leaves, List.mem_singleton] at h
    exact h ▸ .number n
  | .text s, leaf, h => by
    rw [leaves] at h
    split at h
    · cases h
    · next hs => exact List.mem_singleton.1 h ▸ .text (by simpa using hs)
  | .literal s, leaf, h => by
    rw [leaves] at h
    split at h
    · cases h
    · next hs => exact List.mem_singleton.1 h ▸ .literal (by simpa using hs)
  | .list items, leaf, h => by
    rw [leaves] at h
    exact isLeaf_of_mem_leavesOfItems h

theorem isLeaf_of_mem_leavesOfItems :
    ∀ {vs : List FieldValue} {leaf : FieldValue}, leaf ∈ leavesOfItems vs → leaf.IsLeaf
  | [], leaf, h => by cases h
  | v :: vs, leaf, h => by
    rw [leavesOfItems] at h
    rcases List.mem_append.1 h with h | h
    · exact isLeaf_of_mem_leaves h
    · exact isLeaf_of_mem_leavesOfItems h

end

theorem IsLeaf.leaves {v : FieldValue} (h : v.IsLeaf) : v.leaves = [v] := by
  cases h with
  | number n => rw [FieldValue.leaves]
  | text hs => simp [FieldValue.leaves, hs]
  | literal hs => simp [FieldValue.leaves, hs]

section
variable (style : EscapeStyle) (config : Config)

theorem exists_escapeText (mode : Mode) (braces : Bool) {s : Text} (h : s ≠ []) :
    ∃ latex, escapeText mode braces s = some latex := by
  cases s with
  | nil => exact absurd rfl h
  | cons c s => cases braces <;> exact ⟨_, rfl⟩

/-- There is something to write of every leaf, even if its markup comes to nothing. -/
theorem IsLeaf.exists_escape {v : FieldValue} (h : v.IsLeaf) :
    ∃ latex, v.escape style config = some latex := by
  cases h with
  | number n => exact ⟨signedDecimal n, by rw [escape]⟩
  | text hs => rw [escape]; exact exists_escapeText _ _ hs
  | literal hs => rw [escape]; exact exists_escapeText _ _ hs

/-! ## Escaping leaf by leaf -/

/-- The leaves of a value, each escaped on its own. -/
def leafTexts (v : FieldValue) : List Text := v.leaves.filterMap (escape style config)

/-- The texts joined, if there are any. -/
def joined? (sep : Text) (ts : List Text) : Option Text :=
  if ts.isEmpty then none else some (joinWith sep ts)

theorem joined?_congr {sep : Text} {ts us : List Text} (h : SameJoin sep ts us) :
    joined? sep ts = joined? sep us := by
  have hempty : ts.isEmpty = us.isEmpty := by
    rw [Bool.eq_iff_iff, List.isEmpty_iff, List.isEmpty_iff, h.nil_iff]
  rw [joined?, joined?, hempty, h.joined]

theorem IsLeaf.escape_eq_joined? {v : FieldValue} (h : v.IsLeaf) :
    v.escape style config = joined? style.separator (v.leafTexts style config) := by
  obtain ⟨latex, hlatex⟩ := h.exists_escape style config
  have htexts : v.leafTexts style config = [latex] := by simp [leafTexts, h.leaves, hlatex]
  rw [htexts, hlatex]
  rfl

mutual

theorem escape_eq_joined? : ∀ v : FieldValue,
    v.escape style config = joined? style.separator (v.leafTexts style config)
  | .number n => (IsLeaf.number n).escape_eq_joined? style config
  | .text s => by
    by_cases hs : s = []
    · rw [hs, escape, leafTexts, leaves]
      rfl
    · exact (IsLeaf.text hs).escape_eq_joined? style config
  | .literal s => by
    by_cases hs : s = []
    · rw [hs, escape, leafTexts, leaves]
      rfl
    · exact (IsLeaf.literal hs).escape_eq_joined? style config
  | .list items => by
    rw [escape, leafTexts, leaves]
    exact joined?_congr (sameJoin_escapeItems items)

theorem sameJoin_escapeItems : ∀ vs : List FieldValue,
    SameJoin style.separator (escapeItems style config vs)
      ((leavesOfItems vs).filterMap (escape style config))
  | [] => ⟨Iff.rfl, rfl⟩
  | v :: vs => by
    have hitem := escape_eq_joined? v
    have hrest := sameJoin_escapeItems vs
    rw [escapeItems, leavesOfItems, List.filterMap_append, hitem, leafTexts]
    by_cases hleaves : v.leaves.filterMap (escape style config) = []
    · rw [hleaves]
      exact hrest
    · have hjoined : joined? style.separator (v.leaves.filterMap (escape style config)) =
          some (joinWith style.separator (v.leaves.filterMap (escape style config))) :=
        if_neg (by simpa using hleaves)
      rw [hjoined]
      exact hrest.cons hleaves

end

theorem map_escape_leaves (v : FieldValue) :
    v.leaves.map (escape style config) = (v.leafTexts style config).map some := by
  have hsome : ∀ leaf ∈ v.leaves, ∃ latex, leaf.escape style config = some latex :=
    fun leaf hleaf => (isLeaf_of_mem_leaves hleaf).exists_escape style config
  rw [leafTexts]
  generalize v.leaves = ls at hsome
  induction ls with
  | nil => rfl
  | cons leaf ls ih =>
    rw [List.forall_mem_cons] at hsome
    obtain ⟨latex, hlatex⟩ := hsome.1
    rw [List.map_cons, List.filterMap_cons_some hlatex, List.map_cons, ih hsome.2, hlatex]

/-! ## Texts without special characters -/

/-- The characters that have a meaning in LaTeX. -/
def specialCharacters : Text := r"\{}#$%&_~^<>"

theorem toLatex_of_plain {s : Text} (h : ∀ c ∈ s, c ∉ specialCharacters) :
    Markup.toLatex .unicode s = s := by
  have hkeys : specials.map Prod.fst = specialCharacters := by decide
  exact Markup.toLatex_eq_self fun c hc => kept_of_notMem (hkeys ▸ h c hc)

/-- A value is escaped as its leaves are, joined with the separator, and comes to nothing only if it
has none. A text without special characters, where they all may be written and no braces are asked
for and granted, is escaped to itself. -/
theorem escape_leaves (v : FieldValue) :
    v.leaves.map (escape style config) = (v.leafTexts style config).map some ∧
      (v.escape style config = none ↔ v.leaves = []) ∧
      (v.leaves ≠ [] →
        v.escape style config = some (joinWith style.separator (v.leafTexts style config))) ∧
      ∀ s : Text, s ≠ [] → (∀ c ∈ s, c ∉ specialCharacters) → config.mode = .unicode →
        ¬(style.brace = true ∧ config.braceAll = true) →
          escape style config (.text s) = some s := by
  have hmap := map_escape_leaves style config v
  have hnil : v.leafTexts style config = [] ↔ v.leaves = [] := by
    rw [← List.map_eq_nil_iff (f := some), ← hmap, List.map_eq_nil_iff]
  have hjoined := escape_eq_joined? style config v
  refine ⟨hmap, ?_, ?_, ?_⟩
  · rw [hjoined, joined?, ← hnil]
    simp
  · intro hleaves
    rw [hjoined]
    exact if_neg (by simpa using (not_congr hnil).2 hleaves)
  · intro s hs hplain hmode hbraces
    have hasked : (style.brace && config.braceAll) = false := by simpa using hbraces
    have hfull : s.isEmpty = false := by simpa using hs
    rw [escape, escapeText, hfull, hasked, hmode, toLatex_of_plain hplain]
    rfl

example : escape (.separated " and ") .standard
    (list [list [text [], list []], number 7, list [literal [], list [number (-8)]]]) =
      some "7 and -8".toList := by decide

end
end FieldValue
end Bibliography.Export
