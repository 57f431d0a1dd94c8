import Bibliography.Proofs.CiteKey.Cleaning
import Bibliography.Proofs.CiteKey.LeastFree

/-! # Generated keys are safe

Cleaning a text keeps its safe characters and nothing else. The fallback of a record begins with a
mark of safe characters, so something is left of it whatever the record holds, and a suffix only
adds letters.
-/

namespace Bibliography.CiteKey
set_option autoImplicit false
open Unicode Text

/-- Cleaning drops no safe character. -/
theorem mem_clean_of_isSafe {s : Text} {c : Char} (h : c ∈ s) (hsafe : isSafe c = true) :
    c ∈ clean s := by
  rw [clean_eq_flatMap, List.mem_flatMap]
  exact ⟨c, h, by rw [cleanChar_of_isSafe hsafe]; exact List.mem_singleton_self c⟩

/-! ## Keys -/

/-- Something is left of a candidate: where nothing is left of the format, the mark before the
library key is. -/
theorem candidate_ne_nil (f : Formatter) (r : Record) : Registry.candidate f r ≠ [] := by
  have hmark : 'z' ∈ Formatter.fallback r := List.mem_append_left _ (by decide)
  have hfallback : clean (Formatter.fallback r) ≠ [] :=
    List.ne_nil_of_mem (mem_clean_of_isSafe hmark (by decide))
  unfold Registry.candidate
  dsimp only
  split
  · exact hfallback
  · next hleft => exact fun hnil => hleft (List.isEmpty_iff.2 hnil)

theorem freeKey_ne_nil {taken : List Text} {c : Text} (h : c ≠ []) : freeKey taken c ≠ [] := by
  unfold freeKey
  split
  · exact List.append_ne_nil_of_left_ne_nil h _
  · exact h

namespace Registry

/-- The key of an entry that pins none is not empty and holds nothing but ASCII letters, digits and
some punctuation, whatever the pattern and the record hold. -/
theorem keyOf?_assign_safe (f : Formatter) (records : List Record)
    (distinct : ((records.filter Record.isExportable).map Record.itemId).Nodup) :
    ∀ r ∈ records, r.isExportable = true → pinnedKey? r.extra = none →
      ∃ key, ((new f).assign records).1.keyOf? r.itemId = some key ∧ key ≠ [] ∧
        ∀ c ∈ key, c.isAlphanum = true ∨ c ∈ "-_!$*+./:;?[]".toList := by
  intro r hr he hp
  obtain ⟨before, after, hsplit⟩ := List.append_of_mem hr
  refine ⟨_, keyOf?_eq_freeKey distinct hsplit he hp, ?_, ?_⟩
  · exact freeKey_ne_nil (candidate_ne_nil f r)
  · exact fun c hc => isSafe_iff.1 (isSafe_of_mem_freeKey hc)

/-- A pattern of which nothing is left in a key. -/
def unsafePattern : Text := "日[title:(本)]"

/-- A note, a book that pins the mark of the fallback, and a book whose library key is an accent. -/
def accentKeys : List Record := [
  { Record.blank with itemId := "2", itemType := "note" },
  { Record.blank with itemId := "1", itemType := "book", key := "\u0301" },
  { Record.blank with itemId := "2", itemType := "book", extra := "bibtex: zotero-" }]

theorem keyOf?_accentKeys :
    ((accentKeys.filter Record.isExportable).map Record.itemId).Nodup ∧
      accentKeys[1].isExportable = true ∧ pinnedKey? accentKeys[1].extra = none ∧
      ∃ key, ((new (.ofText unsafePattern .standard)).assign accentKeys).1.keyOf?
          accentKeys[1].itemId = some key ∧ key ≠ [] ∧
        ∀ c ∈ key, c.isAlphanum = true ∨ c ∈ "-_!$*+./:;?[]".toList := by
  have distinct : ((accentKeys.filter Record.isExportable).map Record.itemId).Nodup := by decide
  have hbook : accentKeys[1].isExportable = true := by decide
  have hpin : pinnedKey? accentKeys[1].extra = none := by decide
  exact ⟨distinct, hbook, hpin, keyOf?_assign_safe (.ofText unsafePattern .standard) accentKeys
    distinct accentKeys[1] (by simp [accentKeys]) hbook hpin⟩

end Registry
end Bibliography.CiteKey
