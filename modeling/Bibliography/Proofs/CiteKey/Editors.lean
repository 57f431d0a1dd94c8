import Bibliography.CiteKey.Function
import Bibliography.Record.Json

/-! # Requests for editors

Asked for the editors only, a function that reads names passes over all other credits. It yields
what it yields when asked for the authors of the same record with nobody but its editors on it.
-/

namespace Bibliography
set_option autoImplicit false

/-- The record with the editors of the work and of its series as its only creators. -/
def Record.editorsOnly (r : Record) : Record :=
  { r with creators := r.creators.filter fun c => c.role == .editor || c.role == .seriesEditor }

theorem Role.isEditor_eq (role : Role) :
    role.isEditor = (role == .editor || role == .seriesEditor) := by
  cases role <;> rfl

namespace CiteKey

/-! ## Credits -/

namespace Credits

theorem namesWhere_editors (cs : List Creator) :
    namesWhere (fun c => c.role.isEditor) (cs.filter fun c => c.role.isEditor) =
      namesWhere (fun c => c.role.isEditor) cs := by
  simp only [namesWhere, List.filter_filter, Bool.and_self]

theorem namesWhere_editors_eq_nil {p : Creator → Bool}
    (h : ∀ c, c.role.isEditor = true → p c = false) (cs : List Creator) :
    namesWhere p (cs.filter fun c => c.role.isEditor) = [] := by
  have hnone : (cs.filter fun c => c.role.isEditor).filter p = [] := by
    rw [List.filter_eq_nil_iff]
    intro c hc
    rw [h c (List.mem_filter.1 hc).2]
    exact Bool.false_ne_true
  rw [namesWhere, hnone, List.filterMap_nil]

/-- Without the other creators the editors are credited as before, and nobody else is. -/
theorem ofRecord_editorsOnly (r : Record) :
    ofRecord r.editorsOnly = ⟨[], (ofRecord r).editors, [], []⟩ := by
  have hcreators : r.editorsOnly.creators = r.creators.filter fun c => c.role.isEditor := by
    simp only [Record.editorsOnly, Role.isEditor_eq]
  have hother : ∀ c : Creator, c.role.isEditor = true → isOther c = false := by
    intro c hc
    simp [isOther, hc]
  have htranslator : ∀ c : Creator, c.role.isEditor = true → (c.role == .translator) = false := by
    intro c hc
    rw [beq_eq_false_iff_ne]
    intro hrole
    rw [hrole] at hc
    cases hc
  rw [ofRecord, hcreators, namesWhere_editors, namesWhere_editors_eq_nil htranslator,
    namesWhere_editors_eq_nil fun c hc => by simp [hother c hc],
    namesWhere_editors_eq_nil fun c hc => by simp [hother c hc]]
  rfl

theorem select_editorsOnly (r : Record) :
    (ofRecord r.editorsOnly).select false = (ofRecord r).select true := by
  rw [ofRecord_editorsOnly]
  cases h : (ofRecord r).editors with
  | nil => simp [select, firstNonempty, h]
  | cons name names => simp [select, firstNonempty, h]

end Credits

/-! ## Functions -/

namespace Function

/-- The functions that read the names of creators. -/
def ofCreators : List Function :=
  [auth, authorLast, authors, authorsAlpha, authIni, authorIni, authAuthEa, authEtal, authShort]

/-- A function that reads names reads nothing else. -/
theorem eval_of_mem_ofCreators {f : Function} (h : f ∈ ofCreators) (types : TypeTable)
    (onlyEditors : Bool) (n m : Option Nat) (r : Record) :
    f.eval types onlyEditors n m r =
      (ofNames? (n.filter fun n => 0 < n) m
        ((Credits.ofRecord r).select onlyEditors) f).getD [] := by
  simp only [ofCreators, List.mem_cons, List.not_mem_nil, or_false] at h
  rcases h with rfl | rfl | rfl | rfl | rfl | rfl | rfl | rfl | rfl <;> rfl

/-- Of the names of its editors a function makes what it makes of a record that credits nobody
else. -/
theorem eval_editorsOnly {f : Function} (h : f ∈ ofCreators) (types : TypeTable)
    (n m : Option Nat) (r : Record) :
    f.eval types true n m r = f.eval types false n m r.editorsOnly := by
  rw [eval_of_mem_ofCreators h, eval_of_mem_ofCreators h, Credits.select_editorsOnly]

/-- A film with a director and a translator, whose first editor has no name. -/
def editedFilm : Record :=
  { Record.blank with
    itemType := "film"
    creators := [⟨"Kubrick", none, .ofName "director"⟩, ⟨" ", none, .editor⟩,
      ⟨" Harlan ", some "Jan", .seriesEditor⟩, ⟨"Weiss", none, .translator⟩,
      ⟨"de Vries", none, .editor⟩] }

theorem eval_editorsOnly_editedFilm :
    authorIni ∈ ofCreators ∧ authorIni.eval .standard true none none editedFilm = "Harla.dV" ∧
      authorIni.eval .standard true none none editedFilm =
        authorIni.eval .standard false none none editedFilm.editorsOnly := by
  have hreads : authorIni ∈ ofCreators := by decide
  exact ⟨hreads, by decide, eval_editorsOnly hreads .standard none none editedFilm⟩

end Function
end CiteKey
end Bibliography
