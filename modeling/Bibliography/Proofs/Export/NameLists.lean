import Bibliography.Proofs.Export.Entries
import Bibliography.Proofs.Latex.NameList

/-! # The names of creators in a list

Authors, editors and translators are written as lists of names. A single name stands in braces and
stays whole in any list; a name of two parts does not, so a list keeps its names exactly if none of
those is cut where it stands.
-/

namespace Bibliography.Export
set_option autoImplicit false
open Text Latex Markup

/-! ## Names -/

/-- A creator's name as it is written: a single name is put into braces. -/
def nameLatex (mode : Mode) (c : Creator) : Text :=
  if c.givenName?.isSome then Markup.toLatex mode c.listedName
  else inBraces (Markup.toLatex mode c.listedName)

/-- The creators with a name that meet a condition. -/
def listedBy (p : Creator → Bool) (r : Record) : List Creator :=
  (r.creators.filter p).filter fun c => !c.listedName.isEmpty

/-- The list of some names, if there are any. -/
def namesValue? (mode : Mode) (cs : List Creator) : Option Text :=
  if cs.isEmpty then none else some (joinWith nameSeparator (cs.map (nameLatex mode)))

/-- Names are put between separators, and never asked to stand in braces. -/
def nameStyle : EscapeStyle := .separated " and "

theorem escape_creatorName (config : Config) (c : Creator) :
    (creatorName c).escape nameStyle config =
      if c.listedName.isEmpty then none else some (nameLatex config.mode c) := by
  unfold creatorName nameLatex Creator.listedName
  cases c.givenName? with
  | none => rfl
  | some first => rfl

theorem escapeItems_map_creatorName (config : Config) (cs : List Creator) :
    FieldValue.escapeItems nameStyle config (cs.map creatorName) =
      (cs.filter fun c => !c.listedName.isEmpty).map (nameLatex config.mode) := by
  induction cs with
  | nil => rfl
  | cons c cs ih =>
    rw [List.map_cons, FieldValue.escapeItems, escape_creatorName, List.filter_cons, ih]
    cases c.listedName.isEmpty with
    | true => rfl
    | false => rfl

/-- Writing names is writing the list of those that are not empty. -/
theorem writeNames_eq (config : Config) (name : Text) (p : Creator → Bool) (r : Record)
    (w : EntryDraft) :
    writeNames config name p r w =
      w.field config name (namesValue? config.mode (listedBy p r)) false := by
  have hitems : FieldValue.escapeItems nameStyle config ((r.creators.filter p).map creatorName) =
      (listedBy p r).map (nameLatex config.mode) := escapeItems_map_creatorName config _
  have hvalue : (FieldValue.list ((r.creators.filter p).map creatorName)).escape nameStyle config =
      namesValue? config.mode (listedBy p r) := by
    rw [FieldValue.escape, hitems, namesValue?, List.isEmpty_map]
    rfl
  exact congrArg (fun value => w.field config name value false) hvalue

/-! ## Roles -/

/-- What holds of the author and of the roles in the table holds of the primary role. -/
theorem primary_of_forall {P : Role → Prop} (hauthor : P .author)
    (htable : ∀ x ∈ Role.primaryRoles, P (.ofName x.2)) (itemType : Text) :
    P (Role.primary itemType) := by
  unfold Role.primary
  cases hrole : Role.primaryRoles.lookup itemType with
  | none => exact hauthor
  | some name =>
    obtain ⟨before, after, htables, -⟩ := List.lookup_eq_some_iff.1 hrole
    refine htable (itemType, name) ?_
    rw [htables]
    exact List.mem_append_right _ (List.mem_cons_self ..)

/-- No kind of item credits editors or translators first, so they are no authors. -/
theorem isAuthor_of_other {r : Record} {c : Creator}
    (h : c.role.isEditor = true ∨ c.role = .translator) : isAuthor r c = false := by
  have hprimary : (Role.primary r.itemType).isEditor = false ∧
      Role.primary r.itemType ≠ .translator :=
    primary_of_forall (P := fun role => role.isEditor = false ∧ role ≠ .translator) (by decide)
      (by decide) r.itemType
  have hne : c.role ≠ Role.primary r.itemType ∧ c.role ≠ .author := by
    rcases h with heditor | htranslator
    · refine ⟨fun hrole => ?_, fun hrole => ?_⟩
      · rw [hrole, hprimary.1] at heditor
        cases heditor
      · rw [hrole] at heditor
        cases heditor
    · rw [htranslator]
      exact ⟨hprimary.2.symm, by decide⟩
  simp [isAuthor, hne.1, hne.2]

theorem isEditor_eq (r : Record) : isEditor r = fun c => c.role.isEditor := by
  funext c
  unfold isEditor
  cases hrole : c.role.isEditor with
  | true => simp [isAuthor_of_other (r := r) (Or.inl hrole)]
  | false => exact Bool.and_false _

theorem isTranslator_eq (r : Record) : isTranslator r = fun c => c.role == .translator := by
  funext c
  unfold isTranslator
  cases hrole : c.role == .translator with
  | true => simp [isAuthor_of_other (r := r) (Or.inr (eq_of_beq hrole))]
  | false => exact Bool.and_false _

/-! ## Cuts -/

/-- A text in braces is not cut. -/
theorem firstCut?_inBraces {s rest : Text} (h : BraceBalanced s) (hrest : firstCut? 0 rest = none) :
    firstCut? 0 (inBraces s ++ rest) = none := by
  have hform : inBraces s ++ rest = '{' :: (s ++ '}' :: rest) := by simp [inBraces]
  have hinside := firstCut?_inside h Nat.zero_lt_one ('}' :: rest)
  rw [Nat.zero_add] at hinside
  rw [hform, firstCut?_open, hinside, firstCut?_close, hrest]
  rfl

theorem firstCut?_beforeNext_inBraces {α : Type} {s : Text} (h : BraceBalanced s) (later : List α) :
    firstCut? 0 (beforeNext (inBraces s) later) = none := by
  unfold beforeNext
  split
  · have hcut : firstCut? 0 (inBraces s ++ []) = none := firstCut?_inBraces h rfl
    rwa [List.append_nil] at hcut
  · exact firstCut?_inBraces h rfl

/-- No name of two parts is cut where it stands in the list. -/
def TwoPartUncut (mode : Mode) : List Creator → Prop
  | [] => True
  | c :: later =>
    (c.givenName?.isSome = true → firstCut? 0 (beforeNext (nameLatex mode c) later) = none) ∧
      TwoPartUncut mode later

section
variable {mode : Mode} {cs : List Creator} (h : ∀ c ∈ cs, BalancedBlocks c.listedName)
include h

theorem balanced_nameLatex {name : Text} (hname : name ∈ cs.map (nameLatex mode)) :
    BraceBalanced name := by
  obtain ⟨c, hc, rfl⟩ := List.mem_map.1 hname
  have hlatex := (h c hc).toLatex mode
  unfold nameLatex
  split
  · exact hlatex
  · exact hlatex.braced

theorem uncut_map_nameLatex_iff : Uncut (cs.map (nameLatex mode)) ↔ TwoPartUncut mode cs := by
  induction cs with
  | nil => exact Iff.rfl
  | cons c later ih =>
    rw [List.forall_mem_cons] at h
    have hnext : beforeNext (nameLatex mode c) (later.map (nameLatex mode)) =
        beforeNext (nameLatex mode c) later := by
      rw [beforeNext, beforeNext, List.isEmpty_map]
    rw [List.map_cons, Uncut, TwoPartUncut, ih h.2, hnext]
    refine and_congr_left fun _ => ⟨fun hcut _ => hcut, fun htwo => ?_⟩
    cases hgiven : c.givenName?.isSome with
    | true => exact htwo hgiven
    | false =>
      rw [nameLatex, hgiven, if_neg Bool.false_ne_true]
      exact firstCut?_beforeNext_inBraces (h.1.toLatex mode) later

end

/-! ## Lists -/

/-- Authors, editors and translators are written as lists, and a list that is written holds the
names it was made of, in their order, exactly if no name of two parts is cut. -/
theorem nameList_creators_iff (config : Config) (r : Record)
    (h : ∀ c ∈ r.creators, BalancedBlocks c.listedName) :
    (∀ w : EntryDraft, writeCreators config r w =
      [("author", isAuthor r), ("editor", fun c => c.role.isEditor),
          ("translator", fun c => c.role == .translator)].foldl
        (fun w x => w.field config x.1 (namesValue? config.mode (listedBy x.2 r)) false) w) ∧
      ∀ (p : Creator → Bool) (value : Text),
        namesValue? config.mode (listedBy p r) = some value →
          (nameList value = (listedBy p r).map (nameLatex config.mode) ↔
            TwoPartUncut config.mode (listedBy p r)) := by
  constructor
  · intro w
    rw [writeCreators, writeNames_eq, writeNames_eq, writeNames_eq, isEditor_eq, isTranslator_eq]
    rfl
  · intro p value hvalue
    have hlisted : ∀ c ∈ listedBy p r, BalancedBlocks c.listedName := fun c hc =>
      h c (List.mem_filter.1 (List.mem_filter.1 hc).1).1
    obtain ⟨hne, hjoined⟩ := Option.ite_none_left_eq_some.1 hvalue
    have hnames : (listedBy p r).map (nameLatex config.mode) ≠ [] := by simpa using hne
    rw [← Option.some.inj hjoined, ← uncut_map_nameLatex_iff hlisted]
    exact nameList_joinWith_iff hnames fun _ => balanced_nameLatex hlisted

/-- An organization with a separator in its name, and a person. -/
def stayingWhole : Record :=
  { Record.blank with
    itemType := "book"
    creators := [⟨"Sand and Sea", none, .author⟩, ⟨"Anders", some "Alexandra", .author⟩] }

theorem nameList_stayingWhole :
    (∀ c ∈ stayingWhole.creators, BalancedBlocks c.listedName) ∧
      ∃ value, namesValue? .unicode (listedBy (isAuthor stayingWhole) stayingWhole) = some value ∧
        nameList value = ["{Sand and Sea}".toList, "Anders, Alexandra".toList] := by
  have hmarkup : ∀ c ∈ stayingWhole.creators, '<' ∉ c.listedName := by decide
  have hblocks : ∀ c ∈ stayingWhole.creators, BalancedBlocks c.listedName := fun c hc =>
    balancedBlocks_of_notMem (hmarkup c hc)
  have huncut : TwoPartUncut .unicode (listedBy (isAuthor stayingWhole) stayingWhole) := by
    refine ⟨fun hgiven => absurd hgiven (by decide), fun _ => ?_, trivial⟩
    decide +kernel
  have hnames : (listedBy (isAuthor stayingWhole) stayingWhole).map (nameLatex .unicode) =
      ["{Sand and Sea}".toList, "Anders, Alexandra".toList] := by decide +kernel
  have hlist := (nameList_creators_iff .standard stayingWhole hblocks).2 (isAuthor stayingWhole)
  exact ⟨hblocks, _, rfl, ((hlist _ rfl).2 huncut).trans hnames⟩

/-- A person with a separator in the family name. -/
def fallingApart : Record :=
  { Record.blank with
    itemType := "book"
    creators := [⟨"Black and White", some "John", .author⟩] }

theorem nameList_fallingApart :
    (∀ c ∈ fallingApart.creators, BalancedBlocks c.listedName) ∧
      ∃ value, namesValue? .unicode (listedBy (isAuthor fallingApart) fallingApart) = some value ∧
        (writeCreators .standard fallingApart .empty).text =
          ",\n" ++ r"  author = {" ++ value ++ r"}" ∧
        nameList value = ["Black".toList, "White, John".toList] ∧
        (listedBy (isAuthor fallingApart) fallingApart).map (nameLatex .unicode) =
          ["Black and White, John".toList] := by
  have hmarkup : ∀ c ∈ fallingApart.creators, '<' ∉ c.listedName := by decide
  refine ⟨fun c hc => balancedBlocks_of_notMem (hmarkup c hc), _, rfl, ?_, ?_, ?_⟩
  · decide +kernel
  · decide +kernel
  · decide +kernel

end Bibliography.Export
