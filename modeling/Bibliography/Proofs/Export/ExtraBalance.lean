import Bibliography.Proofs.Export.Assignments
import Bibliography.Proofs.Export.Sinks

/-! # What an extra field may close

An extra field reaches its entry as the values and the names of assignments and as what is left of
it. Values and the rest are converted, and balanced if their preformatted blocks are. Names are
written as they are, so it is they that decide: what an extra field appends is balanced exactly if
its names are, read one after the other with the blank behind each.
-/

namespace Bibliography.Export
set_option autoImplicit false
open Text Latex Markup

/-! ## Fragments -/

/-- Behind a blank no escape is open. -/
theorem depthAfter?_append_blank (d : Nat) (s t : Text) :
    depthAfter? d (s ++ [' '] ++ t) =
      (depthAfter? d (s ++ [' '])).bind fun e => depthAfter? e t := by
  refine depthAfter?_append_of_getLast ?_ d t
  rw [List.getLast?_concat]
  decide

/-- A fragment with a balanced value does to the depth what its name does with the blank behind it,
which the end of the name may hide. -/
theorem depthAfter?_fragment {f : Fragment} (hvalue : BraceBalanced f.value) (d : Nat) (t : Text) :
    depthAfter? d (f.pieces.flatten ++ t) =
      (depthAfter? d (f.name ++ [' '])).bind fun e => depthAfter? e t := by
  have hsign : BraceBalanced ['=', ' '] := by decide
  have hstart : ∀ s, depthAfter? d ([',', '\n', ' ', ' '] ++ s) = depthAfter? d s := fun s =>
    depthAfter?_append (depthAfter?_of_plain (List.all_eq_true.1 (by decide)) d) s
  have hbody : ∀ body, BraceBalanced body →
      depthAfter? d ([',', '\n', ' ', ' '] ++ (f.name ++ [' '] ++ (body ++ t))) =
        (depthAfter? d (f.name ++ [' '])).bind fun e => depthAfter? e t := by
    intro body hbalanced
    rw [hstart, depthAfter?_append_blank]
    exact congrArg _ (funext fun e => depthAfter?_append (hbalanced.depth e) t)
  obtain ⟨name, value, bare⟩ := f
  cases bare with
  | true =>
    rw [← hbody _ (hsign.append hvalue)]
    simp [Fragment.pieces, EntryDraft.fragment]
  | false =>
    rw [← hbody _ (hsign.append hvalue.braced)]
    simp [Fragment.pieces, EntryDraft.fragment]

theorem depthAfter?_fragments {fs : List Fragment} (h : ∀ f ∈ fs, BraceBalanced f.value) (d : Nat)
    (t : Text) :
    depthAfter? d ((fs.flatMap Fragment.pieces).flatten ++ t) =
      (depthAfter? d (fs.flatMap fun f => f.name ++ [' '])).bind fun e => depthAfter? e t := by
  induction fs generalizing d with
  | nil => rfl
  | cons f fs ih =>
    rw [List.forall_mem_cons] at h
    rw [List.flatMap_cons, List.flatten_append, List.append_assoc, depthAfter?_fragment h.1,
      List.flatMap_cons, depthAfter?_append_blank, Option.bind_assoc]
    exact congrArg _ (funext fun e => ih h.2 e)

theorem flatMap_pieces_eq (config : Config) (xs : List FieldWrite) :
    xs.flatMap (FieldWrite.pieces config) =
      (xs.filterMap (FieldWrite.fragment? config)).flatMap Fragment.pieces := by
  induction xs with
  | nil => rfl
  | cons x xs ih =>
    rw [List.flatMap_cons, ih, FieldWrite.pieces]
    cases hx : x.fragment? config with
    | none => rw [List.filterMap_cons_none hx]; rfl
    | some f => rw [List.filterMap_cons_some hx]; rfl

theorem balanced_value_plain {config : Config} {name s : Text} (h : BalancedBlocks s) {f : Fragment}
    (hf : (FieldWrite.plain name s).fragment? config = some f) : BraceBalanced f.value := by
  obtain ⟨latex, hlatex, rfl⟩ := Option.map_eq_some_iff.1 hf
  have hsound : (FieldWrite.plain name s).content.Sound :=
    show EscapeStyle.standard.separator.all isPlain = true by decide
  have htexts : ∀ t ∈ (FieldWrite.plain name s).content.texts config, BalancedBlocks t := by
    intro t ht
    rwa [List.mem_singleton.1 (show t ∈ [s] from ht)]
  exact hsound.balanced htexts (Option.filter_eq_some_iff.1 hlatex).1

theorem balanced_pieces_plain {config : Config} {name s : Text}
    (hname : ∀ c ∈ name, isPlain c = true) (h : BalancedBlocks s) :
    BraceBalanced ((FieldWrite.plain name s).pieces config).flatten := by
  rw [FieldWrite.pieces]
  cases hf : (FieldWrite.plain name s).fragment? config with
  | none => exact BraceBalanced.nil
  | some f =>
    have hvalue := balanced_value_plain h hf
    obtain ⟨latex, -, rfl⟩ := Option.map_eq_some_iff.1 hf
    exact balanced_fragment hname hvalue (FieldWrite.plain name s).content.bare

/-! ## Extra fields -/

/-- The assignments of the data directive, if there is one. -/
def extraAssignments (extra : Text) : List (Text × Text) :=
  (EntryDraft.dataDirective? extra).elim [] fun found => EntryDraft.assignments found.key

/-- What is left of the text without the directive. -/
def extraRemainder (extra : Text) : Text :=
  (EntryDraft.dataDirective? extra).elim extra CiteKey.Pin.remainder

/-- The texts of an extra field that are converted. -/
def extraTexts (extra : Text) : List Text :=
  (extraAssignments extra).map Prod.snd ++ [extraRemainder extra]

/-- The fragments of the assignments, without those whose field is skipped or whose value is empty.
-/
def assignedFragments (config : Config) (extra : Text) : List Fragment :=
  (extraAssignments extra).filterMap fun p => (FieldWrite.plain p.1 p.2).fragment? config

/-- The names that are assigned to and written. -/
def writtenNames (config : Config) (extra : Text) : List Text :=
  (assignedFragments config extra).map Fragment.name

theorem extraWrites_eq (name extra : Text) :
    extraWrites name extra =
      (extraAssignments extra).map (fun p => FieldWrite.plain p.1 p.2) ++
        [FieldWrite.plain name (extraRemainder extra)] := by
  unfold extraWrites extraAssignments extraRemainder
  cases EntryDraft.dataDirective? extra with
  | none => rfl
  | some found => rfl

theorem balanced_value_of_assigned {config : Config} {extra : Text}
    (h : ∀ s ∈ extraTexts extra, BalancedBlocks s) {f : Fragment}
    (hf : f ∈ assignedFragments config extra) : BraceBalanced f.value := by
  obtain ⟨p, hp, hfragment⟩ := List.mem_filterMap.1 hf
  exact balanced_value_plain (h p.2 (List.mem_append_left _ (List.mem_map_of_mem hp))) hfragment

/-- An extra field appends the fragments of its assignments, and then what is left of it. -/
theorem text_extra (config : Config) (name extra : Text) (w : EntryDraft) :
    (w.extra config name extra).text =
      w.text ++ (((assignedFragments config extra).flatMap Fragment.pieces).flatten ++
        ((FieldWrite.plain name (extraRemainder extra)).pieces config).flatten) := by
  have hassigned : ((extraAssignments extra).map fun p => FieldWrite.plain p.1 p.2).filterMap
      (FieldWrite.fragment? config) = assignedFragments config extra := List.filterMap_map
  rw [extra_eq, extraWrites_eq, EntryDraft.text, FieldWrite.pieces_applyAll, List.flatMap_append,
    flatMap_pieces_eq, hassigned, List.flatMap_singleton, List.flatten_append, List.flatten_append]
  rfl

/-- What an extra field appends to its entry is balanced exactly if the names it assigns to are, as
far as they are written. -/
theorem balanced_extra_iff (config : Config) {name value : Text}
    (hname : ∀ c ∈ name, isPlain c = true) (hvalue : ∀ s ∈ extraTexts value, BalancedBlocks s) :
    ∃ appended, (∀ w : EntryDraft, (w.extra config name value).text = w.text ++ appended) ∧
      (BraceBalanced appended ↔
        BraceBalanced ((writtenNames config value).flatMap fun n => n ++ [' '])) := by
  refine ⟨_, fun w => text_extra config name value w, ?_⟩
  have hrest : BraceBalanced
      ((FieldWrite.plain name (extraRemainder value)).pieces config).flatten :=
    balanced_pieces_plain hname (hvalue _ (List.mem_append_right _ (List.mem_singleton_self _)))
  have hassigned : ∀ f ∈ assignedFragments config value, BraceBalanced f.value := fun f hf =>
    balanced_value_of_assigned hvalue hf
  -- what is left of the text keeps the depth, whichever the names lead to
  rw [BraceBalanced, depthAfter?_fragments hassigned]
  simp only [hrest.depth, Option.bind_fun_some]
  rw [BraceBalanced, writtenNames, List.flatMap_map]

/-- A value with braces, which are escaped. -/
def bracedValue : Text := r"rare biblatexdata[size=}4{]"

theorem balanced_extra_bracedValue :
    (∀ c ∈ "note".toList, isPlain c = true) ∧
      (∀ s ∈ extraTexts bracedValue, BalancedBlocks s) ∧
      ∃ appended, (∀ w : EntryDraft,
        (w.extra .standard "note" bracedValue).text = w.text ++ appended) ∧
          BraceBalanced appended := by
  have hname : ∀ c ∈ "note".toList, isPlain c = true := List.all_eq_true.1 (by decide)
  have hmarkup : ∀ s ∈ extraTexts bracedValue, '<' ∉ s := by decide
  have hvalue : ∀ s ∈ extraTexts bracedValue, BalancedBlocks s := fun s hs =>
    balancedBlocks_of_notMem (hmarkup s hs)
  have hnames : writtenNames .standard bracedValue = ["size".toList] := by decide +kernel
  obtain ⟨appended, htext, hiff⟩ := balanced_extra_iff .standard hname hvalue
  rw [hnames] at hiff
  refine ⟨hname, hvalue, appended, htext, hiff.2 (BraceBalanced.of_plain ?_)⟩
  exact List.all_eq_true.1 (by decide)

/-- A name that closes the entry. -/
def closingName : Text := r"biblatexdata[a}b=1]"

theorem not_balanced_extra_closingName :
    (∀ c ∈ "note".toList, isPlain c = true) ∧
      (∀ s ∈ extraTexts closingName, BalancedBlocks s) ∧
      ¬BraceBalanced (EntryDraft.empty.extra .standard "note" closingName).text := by
  have hmarkup : ∀ s ∈ extraTexts closingName, '<' ∉ s := by decide
  refine ⟨List.all_eq_true.1 (by decide), fun s hs => ?_, by decide +kernel⟩
  exact balancedBlocks_of_notMem (hmarkup s hs)

end Bibliography.Export
