import Bibliography.Markup.Tag
import Bibliography.Text.Scanner
import Bibliography.Text.Words

/-! # Blocks and tags

A marked-up text is a sequence of preformatted blocks and stretches of markup, and a stretch of
markup a sequence of tags and runs of text. Names are matched in any letter case and end at a word
boundary. A tag whose name is one of the vocabulary only if the long s counts as a letter is found
too, but has no meaning.
-/

namespace Bibliography.Markup
set_option autoImplicit false
open Text Unicode

/-! ## Preformatted blocks -/

/-- The text begins with the tag that opens a preformatted block; what follows the tag. -/
def afterPreOpen? (s : Text) : Option Text :=
  (after? "<" s).bind fun s => (afterLetters? "pre" s).bind fun s =>
    if atBoundary s then
      match s.dropWhile (· != '>') with
      | [] => none
      | _ :: rest => some rest
    else none

/-- The text begins with the tag that closes a preformatted block; what follows the tag. -/
def afterPreClose? (s : Text) : Option Text :=
  (after? "</" s).bind fun s => (afterLetters? "pre" s).bind fun s =>
    match s.dropWhile isBlank with
    | '>' :: rest => some rest
    | _ => none

/-- The text begins with a preformatted block: its content, up to the first closing tag, and what
follows the block. -/
def preformatted? (s : Text) : Option (Text × Text) :=
  (afterPreOpen? s).bind fun s => leftmost afterPreClose? s

theorem length_of_afterPreOpen? {s r : Text} (h : afterPreOpen? s = some r) :
    r.length < s.length := by
  unfold afterPreOpen? at h
  obtain ⟨s1, h1, h⟩ := Option.bind_eq_some_iff.1 h
  obtain ⟨s2, h2, h⟩ := Option.bind_eq_some_iff.1 h
  have l1 := length_of_after? h1
  have l2 := length_of_afterLetters? h2
  have l3 := (List.dropWhile_sublist (fun c => c != '>') (l := s2)).length_le
  have l4 : ("<" : String).toList.length = 1 := by decide
  split at h
  · split at h
    · simp at h
    · rename_i heq
      rw [heq] at l3
      simp only [Option.some.injEq] at h
      simp only [List.length_cons] at l3
      subst h
      omega
  · simp at h

theorem length_of_afterPreClose? {s r : Text} (h : afterPreClose? s = some r) :
    r.length < s.length := by
  unfold afterPreClose? at h
  obtain ⟨s1, h1, h⟩ := Option.bind_eq_some_iff.1 h
  obtain ⟨s2, h2, h⟩ := Option.bind_eq_some_iff.1 h
  have l1 := length_of_after? h1
  have l2 := length_of_afterLetters? h2
  have l3 := (List.dropWhile_sublist isBlank (l := s2)).length_le
  split at h
  · rename_i heq
    rw [heq] at l3
    simp only [Option.some.injEq] at h
    simp only [List.length_cons] at l3
    subst h
    omega
  · simp at h

theorem length_of_preformatted? {s content rest : Text}
    (h : preformatted? s = some (content, rest)) : rest.length < s.length := by
  unfold preformatted? at h
  obtain ⟨s1, h1, h2⟩ := Option.bind_eq_some_iff.1 h
  obtain ⟨t, rfl, h3⟩ := leftmost_eq_some h2
  have l1 := length_of_afterPreOpen? h1
  have l2 := length_of_afterPreClose? h3
  rw [List.length_append] at l1
  omega

/-- Finds preformatted blocks by their content. -/
def preformatted : Scanner Text := ⟨preformatted?, length_of_preformatted?⟩

/-- The blocks of a marked-up text: stretches of markup, and preformatted blocks found between. -/
def blocks (s : Text) : List (Segment Text) := preformatted.segments s

/-! ## Tags and runs -/

/-- A tag in a stretch of markup. -/
inductive Token
  | opening (tag : Tag) (attributes : Text) (selfClosing : Bool)
  | closing (tag : Tag)
  /-- A tag without a meaning. -/
  | ignored
deriving DecidableEq, Repr

/-- The rest of a tag behind its name: the attributes, whether it closes itself, and what follows.
-/
def attributes? (s : Text) : Option (Text × Bool × Text) :=
  let body := s.takeWhile fun c => c != '<' && c != '>'
  match s.dropWhile fun c => c != '<' && c != '>' with
  | '>' :: rest =>
    if body.getLast? = some '/' then some (body.dropLast, true, rest) else some (body, false, rest)
  | _ => none

/-- A tag behind its angle bracket and slash, and what follows it. -/
def namedTag? (isClosing : Bool) (s : Text) : Option (Token × Text) :=
  let name := s.takeWhile isWord
  if Tag.all.any fun t => sameLetters t.name name then
    (attributes? (s.dropWhile isWord)).map fun (attributes, selfClosing, rest) =>
      match Tag.ofName? name with
      | none => (.ignored, rest)
      | some tag => (if isClosing then .closing tag else .opening tag attributes selfClosing, rest)
  else none

/-- The text begins with a tag of the vocabulary. -/
def token? (s : Text) : Option (Token × Text) :=
  match s with
  | '<' :: '/' :: s => namedTag? true s
  | '<' :: s => namedTag? false s
  | _ => none

theorem length_of_attributes? {s attributes rest : Text} {b : Bool}
    (h : attributes? s = some (attributes, b, rest)) : rest.length < s.length := by
  unfold attributes? at h
  have l := (List.dropWhile_sublist (fun c => c != '<' && c != '>') (l := s)).length_le
  simp only at h
  split at h
  · rename_i heq
    rw [heq] at l
    simp only [List.length_cons] at l
    split at h
    all_goals
      simp only [Option.some.injEq, Prod.mk.injEq] at h
      rw [← h.2.2]
      omega
  · simp at h

theorem length_of_namedTag? {isClosing : Bool} {s rest : Text} {p : Token}
    (h : namedTag? isClosing s = some (p, rest)) : rest.length < s.length := by
  unfold namedTag? at h
  simp only at h
  split at h
  · obtain ⟨⟨attributes, b, r⟩, ha, hr⟩ := Option.map_eq_some_iff.1 h
    have l1 := length_of_attributes? ha
    have l2 := (List.dropWhile_sublist isWord (l := s)).length_le
    simp only at hr
    split at hr
    all_goals
      simp only [Prod.mk.injEq] at hr
      rw [← hr.2]
      omega
  · simp at h

theorem length_of_token? {s rest : Text} {p : Token} (h : token? s = some (p, rest)) :
    rest.length < s.length := by
  unfold token? at h
  split at h
  · have := length_of_namedTag? h
    simp only [List.length_cons]
    omega
  · have := length_of_namedTag? h
    simp only [List.length_cons]
    omega
  · simp at h

/-- Finds the tags of the vocabulary. -/
def token : Scanner Token := ⟨token?, length_of_token?⟩

/-- The pieces of a stretch of markup: runs of text, and the tags found between. -/
def pieces (s : Text) : List (Segment Token) := token.segments s

end Bibliography.Markup
