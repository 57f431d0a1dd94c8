import Bibliography.Markup.Conversion
import Mathlib.Algebra.GroupWithZero.Nat

/-! # The ledger of the tags

What a conversion warns of hangs on the tags that open and close elements, and on nothing else in
the text. A ledger takes in these marks one by one, and it always balances: an element that was
opened is still open, was closed by a tag of its own, or stands in a warning.

* `marks` are the tags of a text that open and close elements; `Ledger.enter` takes in one of them;
* `Ledger.Balances` is what the ledger keeps true from mark to mark;
* `WellNested` are the sequences of marks that nest within a given depth.
-/

namespace Bibliography.Markup
set_option autoImplicit false
open Text

/-! ## Marks -/

inductive Mark
  | opens (tag : Tag)
  | closes (tag : Tag)
deriving DecidableEq, Repr

@[simp] def Mark.isOpening : Mark → Bool
  | .opens _ => true
  | .closes _ => false

@[simp] def Mark.isClosing : Mark → Bool
  | .opens _ => false
  | .closes _ => true

/-- Void tags and tags that close themselves open nothing, and a tag without a meaning does nothing
at all. -/
def Token.mark? : Token → Option Mark
  | .opening tag _ selfClosing => if tag.isVoid || selfClosing then none else some (.opens tag)
  | .closing tag => some (.closes tag)
  | .ignored => none

def pieceMark? : Segment Token → Option Mark
  | .run _ => none
  | .found t => t.mark?

def blockMarks : Segment Text → List Mark
  | .run s => (pieces s).filterMap pieceMark?
  | .found _ => []

/-- The tags outside preformatted blocks that open and close elements. -/
def marks (s : Text) : List Mark := (blocks s).flatMap blockMarks

/-! ## The ledger -/

structure Ledger where
  /-- The open tags, innermost first. -/
  stack : List Tag
  warnings : List Warning
deriving DecidableEq, Repr

namespace Ledger

def start : Ledger := ⟨[], []⟩

def warn (l : Ledger) (w : Warning) : Ledger := { l with warnings := l.warnings ++ [w] }

def enter (l : Ledger) : Mark → Ledger
  | .opens tag =>
    if maxDepth ≤ l.stack.length then l.warn (.tooDeep tag) else { l with stack := tag :: l.stack }
  | .closes tag =>
    let inner := l.stack.takeWhile fun t => t != tag
    match l.stack.dropWhile fun t => t != tag with
    | [] => l.warn (.unexpectedClose tag)
    | _ :: outer =>
      { (if inner.isEmpty then l else l.warn (.implicitlyClosed tag inner)) with stack := outer }

def finish (l : Ledger) : List Warning :=
  if l.stack.isEmpty then l.warnings else l.warnings ++ [.unclosed l.stack]

end Ledger

namespace Conversion
variable (mode : Latex.Mode) (c : Conversion)

def ledger : Ledger := ⟨c.stack.map OpenTag.tag, c.warnings⟩

theorem ledger_openTag (tag : Tag) (attributes : Text) (selfClosing : Bool) :
    (c.openTag tag attributes selfClosing).ledger =
      ((Token.opening tag attributes selfClosing).mark?).elim c.ledger c.ledger.enter := by
  unfold openTag Token.mark?
  dsimp only
  by_cases hvoid : tag.isVoid = true
  · rw [if_pos hvoid, hvoid]
    rfl
  · by_cases hself : selfClosing = true
    · rw [if_neg hvoid, if_pos hself, hself, Bool.or_true]
      rfl
    · have hopens : ¬(tag.isVoid || selfClosing) = true := by simp [hvoid, hself]
      rw [if_neg hvoid, if_neg hself, if_neg hopens, Option.elim_some]
      unfold Ledger.enter ledger
      dsimp only
      rw [List.length_map]
      split
      · rfl
      · rfl

theorem ledger_closeTag (tag : Tag) : (c.closeTag tag).ledger = c.ledger.enter (.closes tag) := by
  unfold closeTag Ledger.enter ledger
  dsimp only
  have hinner : (c.stack.map OpenTag.tag).takeWhile (fun t => t != tag) =
      (c.stack.takeWhile fun o => o.tag != tag).map OpenTag.tag := List.takeWhile_map
  have houter : (c.stack.map OpenTag.tag).dropWhile (fun t => t != tag) =
      (c.stack.dropWhile fun o => o.tag != tag).map OpenTag.tag := List.dropWhile_map
  rw [hinner, houter]
  cases c.stack.dropWhile fun o => o.tag != tag with
  | nil => rfl
  | cons closed outer =>
    dsimp only [List.map_cons]
    rw [List.isEmpty_map]
    split
    · rfl
    · rfl

/-- A piece changes the open tags and the warnings as its mark does, if it has one. -/
theorem ledger_step (p : Segment Token) :
    (c.step mode p).ledger = (pieceMark? p).elim c.ledger c.ledger.enter := by
  cases p with
  | run s => rfl
  | found t =>
    cases t with
    | opening tag attributes selfClosing => exact c.ledger_openTag tag attributes selfClosing
    | closing tag => exact c.ledger_closeTag tag
    | ignored => rfl

theorem ledger_steps (ps : List (Segment Token)) :
    (ps.foldl (step mode) c).ledger = (ps.filterMap pieceMark?).foldl Ledger.enter c.ledger := by
  induction ps generalizing c with
  | nil => rfl
  | cons p ps ih =>
    rw [List.foldl_cons, ih, ledger_step, List.filterMap_cons]
    cases pieceMark? p with
    | none => rfl
    | some m => rfl

theorem ledger_blocks (bs : List (Segment Text)) :
    (bs.foldl (block mode) c).ledger = (bs.flatMap blockMarks).foldl Ledger.enter c.ledger := by
  induction bs generalizing c with
  | nil => rfl
  | cons b bs ih =>
    rw [List.foldl_cons, ih, List.flatMap_cons, List.foldl_append]
    cases b with
    | run s => rw [block, ledger_steps]; rfl
    | found s => rfl

theorem warnings_finish : c.finish.warnings = c.ledger.finish := by
  unfold finish Ledger.finish ledger
  dsimp only
  rw [List.isEmpty_map]
  split
  · rfl
  · rfl

end Conversion

/-- The warnings of a conversion hang on the marks of the text alone. -/
theorem warnings_convert (mode : Latex.Mode) (s : Text) :
    (convert mode s).warnings = ((marks s).foldl Ledger.enter Ledger.start).finish := by
  rw [convert, Conversion.warnings_finish, Conversion.ledger_blocks]
  rfl

namespace Ledger

/-- What one mark can do to a ledger. -/
inductive Entered : Ledger → Mark → Ledger → Prop
  | opened {tag : Tag} {stack : List Tag} {ws : List Warning} : stack.length < maxDepth →
      Entered ⟨stack, ws⟩ (.opens tag) ⟨tag :: stack, ws⟩
  | tooDeep {tag : Tag} {stack : List Tag} {ws : List Warning} : maxDepth ≤ stack.length →
      Entered ⟨stack, ws⟩ (.opens tag) ⟨stack, ws ++ [.tooDeep tag]⟩
  | stray {tag : Tag} {stack : List Tag} {ws : List Warning} : tag ∉ stack →
      Entered ⟨stack, ws⟩ (.closes tag) ⟨stack, ws ++ [.unexpectedClose tag]⟩
  | matched {tag : Tag} {outer : List Tag} {ws : List Warning} :
      Entered ⟨tag :: outer, ws⟩ (.closes tag) ⟨outer, ws⟩
  | implied {tag : Tag} {inner outer : List Tag} {ws : List Warning} : inner ≠ [] → tag ∉ inner →
      Entered ⟨inner ++ tag :: outer, ws⟩ (.closes tag)
        ⟨outer, ws ++ [.implicitlyClosed tag inner]⟩

theorem entered_enter (l : Ledger) (m : Mark) : Entered l m (l.enter m) := by
  obtain ⟨stack, ws⟩ := l
  cases m with
  | opens tag =>
    unfold enter
    dsimp only
    split
    · next hfull => exact .tooDeep hfull
    · next hroom => exact .opened (Nat.lt_of_not_le hroom)
  | closes tag =>
    have hinner : ∀ t ∈ stack.takeWhile fun t => t != tag, (t != tag) = true :=
      List.all_eq_true.1 List.all_takeWhile
    have hstack := List.takeWhile_append_dropWhile (p := fun t => t != tag) (l := stack)
    unfold enter
    dsimp only
    split
    · next hnone =>
      rw [hnone, List.append_nil] at hstack
      rw [hstack] at hinner
      exact .stray fun hmem => by simpa using hinner tag hmem
    · next closed outer hsome =>
      have hclosed : closed = tag := by
        have hhead := List.head?_dropWhile_not (fun t => t != tag) stack
        rw [hsome] at hhead
        simpa using hhead
      rw [hsome, hclosed] at hstack
      have hnotin : tag ∉ stack.takeWhile fun t => t != tag := fun hmem => by
        simpa using hinner tag hmem
      split
      · next hempty =>
        rw [List.isEmpty_iff.1 hempty] at hstack
        rw [← hstack]
        exact .matched
      · next hnonempty =>
        have hne : (stack.takeWhile fun t => t != tag) ≠ [] := fun h =>
          hnonempty (List.isEmpty_iff.2 h)
        have himplied : Entered ⟨(stack.takeWhile fun t => t != tag) ++ tag :: outer, ws⟩ _ _ :=
          .implied hne hnotin
        rwa [hstack] at himplied

end Ledger

/-! ## The balance -/

@[simp] def Warning.isUnexpectedClose : Warning → Bool
  | .unexpectedClose _ => true
  | _ => false

/-- The opening tags that the warning tells to have no closing tag of their own. -/
@[simp] def Warning.unmatched : Warning → Nat
  | .unexpectedClose _ => 0
  | .implicitlyClosed _ closed => closed.length
  | .unclosed tags => tags.length
  | .tooDeep _ => 1

namespace Ledger

/-- The ledger accounts for the marks it has taken in. -/
structure Balances (ms : List Mark) (l : Ledger) : Prop where
  room : l.stack.length ≤ maxDepth
  strays : l.warnings.countP Warning.isUnexpectedClose ≤ ms.countP Mark.isClosing
  openings : ms.countP Mark.isOpening =
    (ms.countP Mark.isClosing - l.warnings.countP Warning.isUnexpectedClose) +
      (l.warnings.map Warning.unmatched).sum + l.stack.length
  goesOn : ∀ tags, Warning.unclosed tags ∉ l.warnings

theorem balances_start : start.Balances [] where
  room := Nat.zero_le maxDepth
  strays := Nat.le_refl 0
  openings := rfl
  goesOn := fun _ h => by cases h

theorem Balances.enter {ms : List Mark} {l : Ledger} (h : l.Balances ms) (m : Mark) :
    (l.enter m).Balances (ms ++ [m]) := by
  obtain ⟨hroom, hstrays, hopenings, hgoesOn⟩ := h
  have hentered := l.entered_enter m
  generalize l.enter m = entered at hentered
  cases hentered with
  | opened hless =>
    refine ⟨hless, ?_, ?_, hgoesOn⟩
    · simpa using hstrays
    · simp at hopenings ⊢
      omega
  | tooDeep hfull =>
    refine ⟨hroom, ?_, ?_, ?_⟩
    · simpa using hstrays
    · simp at hopenings ⊢
      omega
    · simpa using hgoesOn
  | stray hnone =>
    refine ⟨hroom, ?_, ?_, ?_⟩
    · simpa using hstrays
    · simpa using hopenings
    · simpa using hgoesOn
  | matched =>
    refine ⟨Nat.le_of_succ_le hroom, ?_, ?_, hgoesOn⟩
    · simp at hstrays ⊢
      omega
    · simp at hstrays hopenings ⊢
      omega
  | implied hinner hnotin =>
    refine ⟨?_, ?_, ?_, ?_⟩
    · simp at hroom ⊢
      omega
    · simp at hstrays ⊢
      omega
    · simp at hstrays hopenings ⊢
      omega
    · simpa using hgoesOn

theorem Balances.entries {done : List Mark} {l : Ledger} (h : l.Balances done) (ms : List Mark) :
    (ms.foldl Ledger.enter l).Balances (done ++ ms) := by
  induction ms generalizing l done with
  | nil => rwa [List.append_nil]
  | cons m ms ih =>
    rw [List.append_cons]
    exact ih (h.enter m)

theorem balances_entries (ms : List Mark) : (ms.foldl Ledger.enter start).Balances ms :=
  balances_start.entries ms

end Ledger

/-! ## Nesting -/

/-- The marks nest: each element is closed by a tag of the name that opened it, before anything
around it is. Elements stand in each other at most to the given depth. -/
inductive WellNested : Nat → List Mark → Prop
  | nil {room : Nat} : WellNested room []
  | element {room : Nat} {tag : Tag} {inside after : List Mark} : WellNested room inside →
      WellNested (room + 1) after →
        WellNested (room + 1) (.opens tag :: (inside ++ .closes tag :: after))

/-- The marks close the open tags, the innermost first, and nest between. -/
inductive Completes : Nat → List Tag → List Mark → Prop
  | nested {room : Nat} {ms : List Mark} : WellNested room ms → Completes room [] ms
  | close {room : Nat} {tag : Tag} {outer : List Tag} {inside after : List Mark} :
      WellNested room inside → Completes (room + 1) outer after →
        Completes room (tag :: outer) (inside ++ .closes tag :: after)

theorem WellNested.ne_closes {room : Nat} {ms : List Mark} (h : WellNested room ms) (tag : Tag)
    (rest : List Mark) : ms ≠ .closes tag :: rest := by
  cases h with
  | nil => simp
  | element => simp

theorem completes_nil_iff {room : Nat} {stack : List Tag} :
    Completes room stack [] ↔ stack = [] := by
  constructor
  · intro h
    generalize hms : ([] : List Mark) = ms at h
    cases h with
    | nested => rfl
    | close => simp at hms
  · rintro rfl
    exact .nested .nil

theorem completes_closes_iff {room : Nat} {stack : List Tag} {tag : Tag} {rest : List Mark} :
    Completes room stack (.closes tag :: rest) ↔
      ∃ outer, stack = tag :: outer ∧ Completes (room + 1) outer rest := by
  constructor
  · intro h
    generalize hms : Mark.closes tag :: rest = ms at h
    cases h with
    | nested hnested => exact absurd hms.symm (hnested.ne_closes tag rest)
    | @close _ t outer inside after hinside hafter =>
      -- nothing can be opened before the closing tag
      cases hinside with
      | nil =>
        obtain ⟨htag, rfl⟩ := List.cons.inj hms
        cases htag
        exact ⟨outer, rfl, hafter⟩
      | element => simp at hms
  · rintro ⟨outer, rfl, hafter⟩
    have hclose : Completes room (tag :: outer) ([] ++ .closes tag :: rest) := .close .nil hafter
    exact hclose

theorem not_completes_opens {stack : List Tag} {tag : Tag} {rest : List Mark} :
    ¬Completes 0 stack (.opens tag :: rest) := by
  intro h
  generalize hms : Mark.opens tag :: rest = ms at h
  cases h with
  | nested hnested => cases hnested; cases hms
  | close hinside => cases hinside; simp at hms

theorem completes_opens_iff {room : Nat} {stack : List Tag} {tag : Tag} {rest : List Mark} :
    Completes (room + 1) stack (.opens tag :: rest) ↔ Completes room (tag :: stack) rest := by
  constructor
  · intro h
    generalize hms : Mark.opens tag :: rest = ms at h
    cases h with
    | nested hnested =>
      cases hnested with
      | nil => cases hms
      | element hinside hafter =>
        obtain ⟨htag, rfl⟩ := List.cons.inj hms
        cases htag
        exact .close hinside (.nested hafter)
    | close hfirst houter =>
      cases hfirst with
      | nil => simp at hms
      | @element _ t inside after hinside hafter =>
        rw [List.cons_append, List.append_assoc, List.cons_append] at hms
        obtain ⟨htag, rfl⟩ := List.cons.inj hms
        cases htag
        exact .close hinside (.close hafter houter)
  · intro h
    generalize hopen : tag :: stack = tags at h
    cases h with
    | nested => cases hopen
    | close hinside hafter =>
      obtain ⟨rfl, rfl⟩ := List.cons.inj hopen
      cases hafter with
      | nested hnested => exact .nested (.element hinside hnested)
      | @close _ t outer inside' after' hinside' hafter' =>
        have helement : WellNested _ (.opens tag :: (_ ++ .closes tag :: inside')) :=
          .element hinside hinside'
        have hwhole : Completes _ (t :: outer) _ := .close helement hafter'
        rwa [List.cons_append, List.append_assoc, List.cons_append] at hwhole

namespace Ledger

/-- No warning is taken back. -/
theorem length_warnings_enter (l : Ledger) (m : Mark) :
    l.warnings.length ≤ (l.enter m).warnings.length := by
  have hentered := l.entered_enter m
  generalize l.enter m = entered at hentered
  cases hentered with
  | opened => exact Nat.le_refl _
  | matched => exact Nat.le_refl _
  | _ => simp

theorem length_warnings_finish (ms : List Mark) (l : Ledger) :
    l.warnings.length ≤ (ms.foldl enter l).finish.length := by
  induction ms generalizing l with
  | nil =>
    rw [List.foldl_nil, finish]
    split
    · exact Nat.le_refl _
    · simp
  | cons m ms ih => exact Nat.le_trans (l.length_warnings_enter m) (ih (l.enter m))

theorem finish_ne_nil (ms : List Mark) (stack : List Tag) (w : Warning) :
    (ms.foldl enter ⟨stack, [w]⟩).finish ≠ [] := by
  intro h
  have hlength := length_warnings_finish ms ⟨stack, [w]⟩
  rw [h] at hlength
  exact absurd hlength (by simp)

/-- Nothing is noted if and only if the marks complete what is open. -/
theorem finish_eq_nil_iff {room : Nat} {stack : List Tag} (ms : List Mark)
    (hroom : stack.length + room = maxDepth) :
    (ms.foldl enter ⟨stack, []⟩).finish = [] ↔ Completes room stack ms := by
  induction ms generalizing room stack with
  | nil =>
    rw [completes_nil_iff, List.foldl_nil, finish]
    cases stack with
    | nil => simp
    | cons tag outer => simp
  | cons m ms ih =>
    rw [List.foldl_cons]
    have hentered := entered_enter ⟨stack, []⟩ m
    generalize enter ⟨stack, []⟩ m = entered at hentered
    cases hentered with
    | @opened tag _ _ hless =>
      obtain ⟨room, rfl⟩ : ∃ k, room = k + 1 := ⟨room - 1, by omega⟩
      rw [completes_opens_iff]
      exact ih (by simp only [List.length_cons]; omega)
    | tooDeep hfull =>
      obtain rfl : room = 0 := by omega
      exact iff_of_false (finish_ne_nil ms _ _) not_completes_opens
    | @stray tag _ _ hnone =>
      refine iff_of_false (finish_ne_nil ms _ _) ?_
      rw [completes_closes_iff]
      rintro ⟨outer, rfl, -⟩
      exact hnone (List.mem_cons_self ..)
    | @matched tag outer _ =>
      have hrest : outer.length + (room + 1) = maxDepth := by
        simp only [List.length_cons] at hroom
        omega
      rw [completes_closes_iff, ih hrest]
      simp
    | @implied tag inner outer _ hinner hnotin =>
      refine iff_of_false (finish_ne_nil ms _ _) ?_
      rw [completes_closes_iff]
      rintro ⟨outer', heq, -⟩
      obtain ⟨t, inner, rfl⟩ := List.exists_cons_of_ne_nil hinner
      obtain ⟨rfl, -⟩ := List.cons.inj heq
      exact hnotin (List.mem_cons_self ..)

end Ledger

theorem completes_start_iff {ms : List Mark} :
    Completes maxDepth [] ms ↔ WellNested maxDepth ms := by
  constructor
  · intro h
    cases h with
    | nested hnested => exact hnested
  · exact .nested

/-! ## Conversions -/

/-- The states of a conversion between two blocks, and between two pieces of a stretch of markup. -/
inductive Visits (mode : Latex.Mode) (s : Text) : Conversion → Prop
  | betweenBlocks {before after : List (Segment Text)} : blocks s = before ++ after →
      Visits mode s (before.foldl (Conversion.block mode) Conversion.start)
  | betweenPieces {before after : List (Segment Text)} {u : Text} {ps qs : List (Segment Token)} :
      blocks s = before ++ .run u :: after → pieces u = ps ++ qs →
        Visits mode s (ps.foldl (Conversion.step mode)
          (before.foldl (Conversion.block mode) Conversion.start))

theorem Visits.stack_le {mode : Latex.Mode} {s : Text} {c : Conversion} (h : Visits mode s c) :
    c.stack.length ≤ maxDepth := by
  have hroom : ∀ ms : List Mark, c.ledger = ms.foldl Ledger.enter Ledger.start →
      c.stack.length ≤ maxDepth := by
    intro ms hc
    have hbalances := (Ledger.balances_entries ms).room
    rwa [← hc, Conversion.ledger, List.length_map] at hbalances
  cases h with
  | @betweenBlocks before =>
    exact hroom (before.flatMap blockMarks) (Conversion.ledger_blocks mode _ before)
  | @betweenPieces before _ _ ps =>
    refine hroom (before.flatMap blockMarks ++ ps.filterMap pieceMark?) ?_
    rw [Conversion.ledger_steps, Conversion.ledger_blocks, List.foldl_append]
    rfl

/-- The warnings account for the marks: every element that is opened is closed by a tag of its own
or stands in a warning, and there are no warnings only for marks that nest. -/
structure AccountsFor (ms : List Mark) (ws : List Warning) : Prop where
  strays : ws.countP Warning.isUnexpectedClose ≤ ms.countP Mark.isClosing
  openings : ms.countP Mark.isOpening =
    (ms.countP Mark.isClosing - ws.countP Warning.isUnexpectedClose) +
      (ws.map Warning.unmatched).sum
  last : ∀ tags before after, ws = before ++ .unclosed tags :: after → after = []
  nests : ws = [] ↔ WellNested maxDepth ms

theorem accountsFor_finish (ms : List Mark) :
    AccountsFor ms (ms.foldl Ledger.enter Ledger.start).finish := by
  have hbalances := Ledger.balances_entries ms
  have hnests : (ms.foldl Ledger.enter Ledger.start).finish = [] ↔ WellNested maxDepth ms :=
    (Ledger.finish_eq_nil_iff ms (Nat.zero_add maxDepth)).trans completes_start_iff
  generalize ms.foldl Ledger.enter Ledger.start = l at hbalances hnests ⊢
  obtain ⟨-, hstrays, hopenings, hgoesOn⟩ := hbalances
  refine ⟨?_, ?_, ?_, hnests⟩
  · unfold Ledger.finish
    split
    · exact hstrays
    · simpa using hstrays
  · unfold Ledger.finish
    split
    · next hempty => simpa [List.isEmpty_iff.1 hempty] using hopenings
    · simp at hopenings ⊢
      omega
  · intro tags before after heq
    unfold Ledger.finish at heq
    split at heq
    · exact absurd (heq ▸ List.mem_append_right before (List.mem_cons_self ..)) (hgoesOn tags)
    · rcases List.eq_nil_or_concat after with rfl | ⟨after, w, rfl⟩
      · rfl
      · -- the warning would stand before the last one
        rw [List.concat_eq_append, ← List.cons_append, ← List.append_assoc] at heq
        obtain ⟨hwarnings, -⟩ := List.append_inj' heq rfl
        exact absurd (hwarnings ▸ List.mem_append_right before (List.mem_cons_self ..))
          (hgoesOn tags)

/-- The ledger of a conversion: its warnings account for the tags of the text, and never are more
tags open than the depth allows. -/
theorem accountsFor_convert (mode : Latex.Mode) (s : Text) :
    AccountsFor (marks s) (convert mode s).warnings ∧
      ∀ c, Visits mode s c → c.stack.length ≤ maxDepth := by
  rw [warnings_convert]
  exact ⟨accountsFor_finish (marks s), fun c h => h.stack_le⟩

/-- A stray closing tag, tags that cross, a tag in a preformatted block, and one left open. -/
def crossedTags : Text := "</b><i><b><pre><i></pre></i><br><sup>x"

theorem marks_crossedTags : marks crossedTags =
    [.closes .bold, .opens .italic, .opens .bold, .closes .italic, .opens .superscript] := by
  decide +kernel

theorem accountsFor_crossedTags :
    AccountsFor
      [.closes .bold, .opens .italic, .opens .bold, .closes .italic, .opens .superscript]
      [.unexpectedClose .bold, .implicitlyClosed .italic [.bold], .unclosed [.superscript]] ∧
    ((blocks crossedTags).foldl (Conversion.block .unicode) Conversion.start).stack.length ≤
      maxDepth := by
  obtain ⟨haccounts, hroom⟩ := accountsFor_convert .unicode crossedTags
  rw [warnings_convert, marks_crossedTags] at haccounts
  exact ⟨haccounts, hroom _ (.betweenBlocks (List.append_nil _).symm)⟩

end Bibliography.Markup
