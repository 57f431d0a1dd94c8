import Bibliography.CiteKey.Formatter
import Bibliography.Proofs.Text.Pieces
import Bibliography.Record.Json

/-! # Alternatives of a pattern

The alternatives of a pattern are tried in order. Those before the first that yields any text leave
their diagnostics behind and nothing else, and those behind it leave nothing at all.
`run_alternation` says what this means for two patterns with a bar between them.
-/

namespace Bibliography.CiteKey
set_option autoImplicit false
open Text

theorem Pattern.alternatives_bar (p q : Text) :
    (ofText (p ++ "|" ++ q)).alternatives = (ofText p).alternatives ++ (ofText q).alternatives := by
  have hbar : p ++ "|" ++ q = p ++ '|' :: q := List.append_assoc p ['|'] q
  rw [hbar, ofText, splitOn_append, List.map_append]
  rfl

namespace Formatter
section
variable {types : TypeTable} {r : Record}

/-! ## Choosing -/

theorem choose_cons_of_empty {t : Template} (h : (render types r t).1 = []) (ts : List Template) :
    choose types r (t :: ts) =
      ((choose types r ts).1, (render types r t).2 ++ (choose types r ts).2) := by
  rw [choose]
  simp [h]

theorem choose_cons_of_ne {t : Template} (h : (render types r t).1 ≠ []) (ts : List Template) :
    choose types r (t :: ts) = render types r t := by
  rw [choose]
  simp [h]

theorem choose_append_of_exists {ts : List Template}
    (h : ∃ t ∈ ts, (render types r t).1 ≠ []) (us : List Template) :
    choose types r (ts ++ us) = choose types r ts := by
  induction ts with
  | nil => simp at h
  | cons t ts ih =>
    rw [List.cons_append]
    by_cases ht : (render types r t).1 = []
    · have hrest : ∃ u ∈ ts, (render types r u).1 ≠ [] := by simpa [ht] using h
      rw [choose_cons_of_empty ht, choose_cons_of_empty ht, ih hrest]
    · rw [choose_cons_of_ne ht, choose_cons_of_ne ht]

theorem choose_append_of_forall {ts : List Template}
    (h : ∀ t ∈ ts, (render types r t).1 = []) (us : List Template) :
    choose types r (ts ++ us) =
      ((choose types r us).1, (choose types r ts).2 ++ (choose types r us).2) := by
  induction ts with
  | nil => rfl
  | cons t ts ih =>
    obtain ⟨ht, hrest⟩ := List.forall_mem_cons.1 h
    rw [List.cons_append, choose_cons_of_empty ht, choose_cons_of_empty ht, ih hrest,
      List.append_assoc]

theorem choose_ne_nil (ts : List Template) : (choose types r ts).1 ≠ [] := by
  induction ts with
  | nil => exact List.append_ne_nil_of_left_ne_nil (by decide) r.key
  | cons t ts ih =>
    by_cases ht : (render types r t).1 = []
    · rw [choose_cons_of_empty ht]
      exact ih
    · rw [choose_cons_of_ne ht]
      exact ht

end

/-! ## Patterns with a bar between them -/

/-- If an alternative of the first pattern yields any text, the second one has no say. If none does,
the key is that of the second, and the diagnostics of the first come before its own. A key is never
empty. -/
theorem run_alternation (p q : Text) (types : TypeTable) (r : Record) :
    ((∃ t ∈ (Pattern.ofText p).alternatives, (render types r t).1 ≠ []) →
      (ofText (p ++ "|" ++ q) types).run r = (ofText p types).run r) ∧
    ((¬∃ t ∈ (Pattern.ofText p).alternatives, (render types r t).1 ≠ []) →
      (ofText (p ++ "|" ++ q) types).run r = (((ofText q types).run r).1,
        ((ofText p types).run r).2 ++ ((ofText q types).run r).2)) ∧
    ∀ f : Formatter, (f.run r).1 ≠ [] := by
  have hrun : (ofText (p ++ "|" ++ q) types).run r =
      choose types r ((Pattern.ofText p).alternatives ++ (Pattern.ofText q).alternatives) := by
    rw [← Pattern.alternatives_bar]
    rfl
  rw [hrun]
  refine ⟨fun h => choose_append_of_exists h _, fun h => ?_, fun f => choose_ne_nil _⟩
  have hempty : ∀ t ∈ (Pattern.ofText p).alternatives, (render types r t).1 = [] := by
    simpa using h
  exact choose_append_of_forall hempty _

/-- An unknown function yields nothing and is reported; a bracket that is not closed is text. -/
theorem run_unclosedBracket :
    (ofText "[nosuch]|[nosuch" .standard).run .blank =
        ("[nosuch".toList, [.unknownFunction "nosuch"]) ∧
      (ofText "[nosuch|[nosuch]" .standard).run .blank = ("[nosuch".toList, []) := by
  have hsilent := (run_alternation "[nosuch]" "[nosuch" .standard .blank).2.1 (by decide +kernel)
  have hspeaks := (run_alternation "[nosuch" "[nosuch]" .standard .blank).1 (by decide +kernel)
  exact ⟨hsilent.trans (by decide +kernel), hspeaks.trans (by decide +kernel)⟩

end Formatter
end Bibliography.CiteKey
