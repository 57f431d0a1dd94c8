import Bibliography.CiteKey.Pinned
import Bibliography.Proofs.Text.FirstMatch

/-! # The forms of directives

A directive of an extra field is a mark with a key behind it, or a name with something in brackets.
The tests for them recognize just these forms, so the directive that is found is the first match of
its form: for a pinned key, of the mark if there is one anywhere, and of the brackets otherwise.
-/

namespace Bibliography.CiteKey
set_option autoImplicit false
open Text

/-! ## Forms -/

/-- The mark and a key, perhaps with blanks between them. The key goes on to the next blank. -/
structure Marked (source key after : Text) : Prop where
  spelled : ∃ blanks : Text, (∀ c ∈ blanks, Unicode.isBlank c = true) ∧
    source = "bibtex:" ++ blanks ++ key
  nonempty : key ≠ []
  solid : ∀ c ∈ key, Unicode.isBlank c = false
  ends : ∀ c ∈ after.head?, Unicode.isBlank c = true

/-- A name, and something in brackets behind it. -/
structure Bracketed (name source key after : Text) : Prop where
  spelled : source = name ++ "[" ++ key ++ "]"
  nonempty : key ≠ []
  closed : ']' ∉ key

/-- The name before a key in brackets. -/
def keyName : Text := "biblatexcitekey"

/-! ## Tests -/

theorem head?_of_solid {key after : Text} (hkey : key ≠ [])
    (hsolid : ∀ c ∈ key, Unicode.isBlank c = false) :
    ∀ c ∈ (key ++ after).head?, Unicode.isBlank c = false := by
  obtain ⟨c, key, rfl⟩ := List.exists_cons_of_ne_nil hkey
  intro c' hc'
  cases hc'
  exact hsolid c (List.mem_cons_self ..)

theorem recognizes_markedKey? : Recognizes Pin.markedKey? Marked := by
  intro s key after
  constructor
  · intro h
    obtain ⟨rest, hrest, hkey⟩ := Option.bind_eq_some_iff.1 h
    obtain ⟨hnonempty, hfound⟩ := Option.ite_none_left_eq_some.1 hkey
    obtain ⟨rfl, rfl⟩ := Prod.mk.inj (Option.some.inj hfound)
    refine ⟨"bibtex:" ++ rest.takeWhile Unicode.isBlank ++
      (rest.dropWhile Unicode.isBlank).takeWhile fun c => !Unicode.isBlank c, ?_, ?_⟩
    · rw [after?_eq_some_iff.1 hrest, List.append_assoc, List.takeWhile_append_dropWhile,
        List.append_assoc, List.takeWhile_append_dropWhile]
    · refine ⟨⟨_, List.all_eq_true.1 List.all_takeWhile, rfl⟩, ?_, ?_, ?_⟩
      · simpa using hnonempty
      · intro c hc
        simpa using List.all_eq_true.1 List.all_takeWhile c hc
      · intro c hc
        simpa [Option.mem_def.1 hc] using
          List.head?_dropWhile_not (fun c => !Unicode.isBlank c) (rest.dropWhile Unicode.isBlank)
  · rintro ⟨source, rfl, ⟨blanks, hblanks, rfl⟩, hnonempty, hsolid, hends⟩
    have hmark : after? "bibtex:" ("bibtex:" ++ blanks ++ key ++ after) =
        some (blanks ++ (key ++ after)) := by
      rw [after?_eq_some_iff, List.append_assoc, List.append_assoc]
    have hdrop : (blanks ++ (key ++ after)).dropWhile Unicode.isBlank = key ++ after :=
      dropWhile_of_stop hblanks (head?_of_solid hnonempty hsolid)
    have hkey : ∀ c ∈ key, (!Unicode.isBlank c) = true := fun c hc => by rw [hsolid c hc]; rfl
    have hafter : ∀ c ∈ after.head?, (!Unicode.isBlank c) = false := fun c hc => by
      rw [hends c hc]; rfl
    rw [Pin.markedKey?, hmark, Option.bind_some]
    dsimp only
    rw [hdrop, takeWhile_of_stop hkey hafter, dropWhile_of_stop hkey hafter,
      if_neg (by simpa using hnonempty)]

theorem recognizes_bracketed? (name : Text) :
    Recognizes (Pin.bracketed? name) (Bracketed name) := by
  intro s key after
  constructor
  · intro h
    obtain ⟨rest, hrest, hkey⟩ := Option.bind_eq_some_iff.1 h
    dsimp only at hkey
    split at hkey
    · simp at hkey
    · next c behind hbehind =>
      obtain ⟨hnonempty, hfound⟩ := Option.ite_none_left_eq_some.1 hkey
      obtain ⟨rfl, rfl⟩ := Prod.mk.inj (Option.some.inj hfound)
      have hbracket : c = ']' := by
        have hstop := List.head?_dropWhile_not (· != ']') rest
        simpa [hbehind] using hstop
      refine ⟨_, ?_, rfl, by simpa using hnonempty, fun hclosed => ?_⟩
      · have hcut := List.takeWhile_append_dropWhile (p := (· != ']')) (l := rest)
        rw [hbehind, hbracket] at hcut
        rw [after?_eq_some_iff.1 hrest]
        simpa using hcut.symm
      · simpa using List.all_eq_true.1 List.all_takeWhile ']' hclosed
  · rintro ⟨source, rfl, rfl, hnonempty, hclosed⟩
    have hname : after? (name ++ "[") (name ++ "[" ++ key ++ "]" ++ after) =
        some (key ++ ']' :: after) := by
      rw [after?_eq_some_iff]
      simp
    rw [Pin.bracketed?, hname, Option.bind_some]
    dsimp only
    rw [takeWhile_of_notMem hclosed, dropWhile_of_notMem hclosed]
    exact if_neg (by simpa using hnonempty)

theorem recognizes_bracketedKey? : Recognizes Pin.bracketedKey? (Bracketed keyName) :=
  recognizes_bracketed? keyName

/-- Brackets are the first match of their form if their name does not stand before a bracket further
to the left. -/
theorem firstMatch_bracketed {name before key : Text} (hname : '[' ∉ name)
    (hbefore : ¬name ++ ['['] <:+: before) (hkey : key ≠ []) (hclosed : ']' ∉ key) (after : Text) :
    FirstMatch (Bracketed name) (before ++ (name ++ "[" ++ key ++ "]") ++ after) before
      (name ++ "[" ++ key ++ "]") key after where
  text := rfl
  holds := ⟨rfl, hkey, hclosed⟩
  leftmost := by
    rintro before' source' key' after' hs ⟨rfl, -, -⟩
    refine Nat.le_of_not_lt fun hlt => hbefore ?_
    have hcut : before ++ (name ++ '[' :: (key ++ "]" ++ after)) =
        before' ++ (name ++ '[' :: (key' ++ "]" ++ after')) := by simpa using hs
    exact infix_of_length_lt hname hcut hlt

/-! ## The directive that is found -/

section
variable {test : Text → Option (Text × Text)} {form : Form} (htest : Recognizes test form)
include htest

theorem locate_eq_some_iff {extra : Text} {p : Pin} :
    Pin.locate test extra = some p ↔
      ∃ source, FirstMatch form extra p.before source p.key p.after := by
  rw [← leftmost_eq_some_iff_firstMatch htest, Pin.locate, Option.map_eq_some_iff]
  constructor
  · rintro ⟨⟨before, key, after⟩, hfound, rfl⟩
    exact hfound
  · intro hfound
    exact ⟨_, hfound, rfl⟩

theorem locate_eq_none_iff {extra : Text} : Pin.locate test extra = none ↔ NoMatch form extra := by
  rw [← leftmost_eq_none_iff_noMatch htest, Pin.locate, Option.map_eq_none_iff]

end

/-- The directive that pins the key of an extra field: the first mark, and the first key in brackets
if there is no mark. -/
def PinnedBy (extra before source key after : Text) : Prop :=
  FirstMatch Marked extra before source key after ∨
    NoMatch Marked extra ∧ FirstMatch (Bracketed keyName) extra before source key after

theorem find?_eq_some_iff {extra : Text} {p : Pin} :
    Pin.find? extra = some p ↔ ∃ source, PinnedBy extra p.before source p.key p.after := by
  rw [Pin.find?, Option.orElse_eq_or, Option.or_eq_some_iff,
    locate_eq_some_iff recognizes_markedKey?, locate_eq_none_iff recognizes_markedKey?,
    locate_eq_some_iff recognizes_bracketedKey?]
  simp only [PinnedBy, exists_or, exists_and_left]

theorem pinnedKey?_eq_none_iff {extra : Text} :
    pinnedKey? extra = none ↔ NoMatch Marked extra ∧ NoMatch (Bracketed keyName) extra := by
  rw [pinnedKey?, Option.map_eq_none_iff, Pin.find?, Option.orElse_eq_or, Option.or_eq_none_iff,
    locate_eq_none_iff recognizes_markedKey?, locate_eq_none_iff recognizes_bracketedKey?]

end Bibliography.CiteKey
