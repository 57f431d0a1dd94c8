import Bibliography.Text.Search

/-! # Scanning

A scanner recognizes something at the beginning of a text. Carried along a text it cuts it into
segments: what it recognizes, from left to right without overlap, and the runs of characters
between.

* `Scanner.segments` are the segments of a text, `Scanner.replace` puts other text in the place of
  those found;
* `replaceAll` puts one text in the place of another.
-/

namespace Bibliography.Text
set_option autoImplicit false

/-- A test for something at the beginning of a text: what it is and what follows, which is shorter
than the whole. -/
structure Scanner (α : Type) where
  test : Text → Option (α × Text)
  shorter : ∀ {s : Text} {a : α} {rest : Text}, test s = some (a, rest) → rest.length < s.length

/-- A segment of a text: a run of characters, or something that was found. -/
inductive Segment (α : Type)
  | run (s : Text)
  | found (a : α)
deriving DecidableEq, Repr

namespace Segment
variable {α : Type}

/-- The segments of a text in which nothing is found. -/
def ofRun (s : Text) : List (Segment α) := if s.isEmpty then [] else [run s]

/-- A character before the segments of a text, joined to the run they begin with. -/
def consRun (c : Char) : List (Segment α) → List (Segment α)
  | run s :: rest => run (c :: s) :: rest
  | rest => run [c] :: rest

theorem consRun_ofRun (c : Char) (s : Text) :
    consRun c (ofRun s : List (Segment α)) = ofRun (c :: s) := by
  cases s with
  | nil => rfl
  | cons d s => rfl

theorem consRun_ofRun_append (c : Char) (s : Text) {ps : List (Segment α)}
    (h : ∀ u, ps.head? ≠ some (run u)) : consRun c (ofRun s ++ ps) = ofRun (c :: s) ++ ps := by
  cases s with
  | cons d s => rfl
  | nil =>
    cases ps with
    | nil => rfl
    | cons p ps =>
      cases p with
      | run u => exact absurd rfl (h u)
      | found a => rfl

theorem consRun_append_found (c : Char) (ps qs : List (Segment α)) (a : α) :
    consRun c (ps ++ found a :: qs) = consRun c ps ++ found a :: qs := by
  cases ps with
  | nil => rfl
  | cons p ps =>
    cases p with
    | run u => rfl
    | found b => rfl

/-- The segment as text. -/
def text (write : α → Text) : Segment α → Text
  | run s => s
  | found a => write a

end Segment

namespace Scanner
variable {α : Type}

/-- The segments of a text; no run is empty, and no two runs are neighbours. -/
def segments (t : Scanner α) : Text → List (Segment α)
  | [] => []
  | c :: s =>
    match _h : t.test (c :: s) with
    | some (a, rest) => .found a :: segments t rest
    | none => Segment.consRun c (segments t s)
termination_by s => s.length
decreasing_by
  · exact t.shorter _h
  · simp

/-- The text with something else in the place of what is found. -/
def replace (t : Scanner α) (write : α → Text) (s : Text) : Text :=
  (t.segments s).flatMap (Segment.text write)

theorem flatMap_text_consRun (write : α → Text) (c : Char) (ps : List (Segment α)) :
    (Segment.consRun c ps).flatMap (Segment.text write) = c :: ps.flatMap (Segment.text write) := by
  unfold Segment.consRun
  split <;> simp [Segment.text]

theorem replace_nil (t : Scanner α) (write : α → Text) : t.replace write [] = [] := by
  simp [replace, segments]

theorem segments_of_test {t : Scanner α} {c : Char} {s rest : Text} {a : α}
    (h : t.test (c :: s) = some (a, rest)) : t.segments (c :: s) = .found a :: t.segments rest := by
  rw [segments]
  split
  · rename_i heq
    rw [h] at heq
    obtain ⟨rfl, rfl⟩ := by simpa using heq
    rfl
  · rename_i heq
    rw [h] at heq
    simp at heq

theorem segments_of_none {t : Scanner α} {c : Char} {s : Text} (h : t.test (c :: s) = none) :
    t.segments (c :: s) = Segment.consRun c (t.segments s) := by
  rw [segments]
  split
  · rename_i heq
    rw [h] at heq
    simp at heq
  · rfl

/-- A text in which nothing is found stands before one in which nothing is found. -/
theorem segments_append_of_run {t : Scanner α} {s rest : Text}
    (hs : ∀ c ∈ s, ∀ u, t.test (c :: u) = none) (hrest : t.segments rest = Segment.ofRun rest) :
    t.segments (s ++ rest) = Segment.ofRun (s ++ rest) := by
  induction s with
  | nil => exact hrest
  | cons c s ih =>
    rw [List.forall_mem_cons] at hs
    rw [List.cons_append, segments_of_none (hs.1 (s ++ rest)), ih hs.2, Segment.consRun_ofRun]

/-- A text in which nothing is found stands before something that is found. -/
theorem segments_append_of_head {t : Scanner α} {s rest : Text}
    (hs : ∀ c ∈ s, ∀ u, t.test (c :: u) = none)
    (hrest : ∀ u, (t.segments rest).head? ≠ some (.run u)) :
    t.segments (s ++ rest) = Segment.ofRun s ++ t.segments rest := by
  induction s with
  | nil => rfl
  | cons c s ih =>
    rw [List.forall_mem_cons] at hs
    rw [List.cons_append, segments_of_none (hs.1 (s ++ rest)), ih hs.2,
      Segment.consRun_ofRun_append c s hrest]

theorem replace_of_test {t : Scanner α} {c : Char} {s rest : Text} {a : α} (write : α → Text)
    (h : t.test (c :: s) = some (a, rest)) :
    t.replace write (c :: s) = write a ++ t.replace write rest := by
  rw [replace, segments_of_test h]
  rfl

theorem replace_of_none {t : Scanner α} {c : Char} {s : Text} (write : α → Text)
    (h : t.test (c :: s) = none) : t.replace write (c :: s) = c :: t.replace write s := by
  rw [replace, segments_of_none h]
  exact flatMap_text_consRun write c _

/-- What is not found is copied. -/
theorem replace_append_of_none {t : Scanner α} {s : Text} (write : α → Text) (rest : Text)
    (hs : ∀ c ∈ s, ∀ u, t.test (c :: u) = none) :
    t.replace write (s ++ rest) = s ++ t.replace write rest := by
  induction s with
  | nil => rfl
  | cons c s ih =>
    rw [List.forall_mem_cons] at hs
    rw [List.cons_append, replace_of_none write (hs.1 (s ++ rest)), ih hs.2, List.cons_append]

/-! ## Segments put together -/

/-- The text is made of the segments, each in its place. -/
inductive Reads (t : Scanner α) : List (Segment α) → Text → Prop
  | nil : t.Reads [] []
  | run {s rest : Text} {ps : List (Segment α)} : t.Reads ps rest →
      t.Reads (.run s :: ps) (s ++ rest)
  | found {a : α} {source rest : Text} {ps : List (Segment α)} :
      t.test (source ++ rest) = some (a, rest) → t.Reads ps rest →
        t.Reads (.found a :: ps) (source ++ rest)

theorem Reads.consRun {t : Scanner α} {ps : List (Segment α)} {s : Text} (h : t.Reads ps s)
    (c : Char) : t.Reads (Segment.consRun c ps) (c :: s) := by
  cases h with
  | nil => exact .run (s := [c]) .nil
  | @run u rest ps hrest => exact .run (s := c :: u) hrest
  | @found a source rest ps htest hrest => exact .run (s := [c]) (.found htest hrest)

/-- No character of a text is lost between its segments. -/
theorem reads_segments {t : Scanner α}
    (ht : ∀ {s : Text} {a : α} {rest : Text}, t.test s = some (a, rest) → rest <:+ s) (s : Text) :
    t.Reads (t.segments s) s := by
  induction hn : s.length using Nat.strongRecOn generalizing s with
  | ind n ih =>
    cases s with
    | nil =>
      rw [segments]
      exact .nil
    | cons c s =>
      cases htest : t.test (c :: s) with
      | none =>
        rw [segments_of_none htest]
        exact (ih s.length (by simp [← hn]) s rfl).consRun c
      | some found =>
        obtain ⟨a, rest⟩ := found
        have hshorter := t.shorter htest
        have hrest := ih rest.length (by omega) rest rfl
        rw [segments_of_test htest]
        obtain ⟨source, hsource⟩ := ht htest
        rw [← hsource] at htest ⊢
        exact .found htest hrest

theorem Reads.exists_test {t : Scanner α} {ps : List (Segment α)} {s : Text} (h : t.Reads ps s)
    {a : α} (ha : .found a ∈ ps) :
    ∃ before source rest, s = before ++ (source ++ rest) ∧
      t.test (source ++ rest) = some (a, rest) := by
  induction h with
  | nil => cases ha
  | @run u rest ps _ ih =>
    have hmem : Segment.found a ∈ ps := by simpa using ha
    obtain ⟨before, source, rest', rfl, htest⟩ := ih hmem
    exact ⟨u ++ before, source, rest', (List.append_assoc ..).symm, htest⟩
  | @found b source rest ps htest _ ih =>
    rcases List.mem_cons.1 ha with hhead | hmem
    · cases hhead
      exact ⟨[], source, rest, rfl, htest⟩
    · obtain ⟨before, source', rest', rfl, htest'⟩ := ih hmem
      exact ⟨source ++ before, source', rest', (List.append_assoc ..).symm, htest'⟩

theorem segments_eq_ofRun {t : Scanner α} {s : Text} (h : ∀ a, .found a ∉ t.segments s) :
    t.segments s = Segment.ofRun s := by
  induction s with
  | nil =>
    rw [segments]
    rfl
  | cons c s ih =>
    cases htest : t.test (c :: s) with
    | some found =>
      rw [segments_of_test htest] at h
      exact absurd (List.mem_cons_self ..) (h found.1)
    | none =>
      rw [segments_of_none htest] at h ⊢
      have hrest : ∀ a, .found a ∉ t.segments s := fun a ha => h a (by
        unfold Segment.consRun
        split
        · next heq => simpa [heq] using ha
        · exact List.mem_cons_of_mem _ ha)
      rw [ih hrest, Segment.consRun_ofRun]

/-- Finds a text that is not empty, given by its first character and the others. -/
def occurrence (p : Char) (ps : Text) : Scanner Unit where
  test := fun s => (after? (p :: ps) s).map fun rest => ((), rest)
  shorter := by
    intro s a rest h
    obtain ⟨r, hr, he⟩ := Option.map_eq_some_iff.1 h
    have := length_of_after? hr
    simp only [Prod.mk.injEq] at he
    simp only [List.length_cons] at this
    rw [← he.2]
    omega

end Scanner

/-- Every occurrence of a text replaced by another; an empty text is left alone. -/
def replaceAll (old new s : Text) : Text :=
  match old with
  | [] => s
  | p :: ps => (Scanner.occurrence p ps).replace (fun _ => new) s

theorem replaceAll_nil (old new : Text) : replaceAll old new [] = [] := by
  cases old with
  | nil => rfl
  | cons p ps => exact Scanner.replace_nil _ _

theorem replaceAll_found {old : Text} (new rest : Text) (hold : old ≠ []) :
    replaceAll old new (old ++ rest) = new ++ replaceAll old new rest := by
  cases old with
  | nil => exact absurd rfl hold
  | cons p ps =>
    have hfound : (Scanner.occurrence p ps).test (p :: (ps ++ rest)) = some ((), rest) := by
      show (after? (p :: ps) (p :: ps ++ rest)).map _ = some ((), rest)
      rw [after?_eq_some_iff.2 rfl]
      rfl
    exact Scanner.replace_of_test _ hfound

/-- A text is copied if the one to be replaced begins nowhere in it. -/
theorem replaceAll_append {old new s rest : Text}
    (h : ∀ t, t ≠ [] → t <:+ s → ¬old <+: t ++ rest) :
    replaceAll old new (s ++ rest) = s ++ replaceAll old new rest := by
  cases old with
  | nil => rfl
  | cons p ps =>
    induction s with
    | nil => rfl
    | cons c s ih =>
      have hnone : (Scanner.occurrence p ps).test (c :: (s ++ rest)) = none := by
        show (after? (p :: ps) (c :: s ++ rest)).map _ = none
        rw [after?_eq_none_iff.2 (h (c :: s) (List.cons_ne_nil c s) List.suffix_rfl)]
        rfl
      have hrest := ih fun t ht hsuffix => h t ht (hsuffix.trans (List.suffix_cons c s))
      rw [List.cons_append, replaceAll, Scanner.replace_of_none _ hnone]
      rw [replaceAll] at hrest
      rw [hrest, List.cons_append]

end Bibliography.Text
