import Bibliography.Latex.Escape
import Bibliography.Markup.Token
import Bibliography.Markup.Warning

/-! # From markup to LaTeX

A conversion goes through the pieces of a text with a stack of the tags that are open. A closing tag
closes everything inside the nearest open tag of its name; what is still open in the end is closed
then. So whatever the tags do, each opened group is closed.

* `Conversion.step` takes in one piece, `Conversion.block` one block;
* `convert` is the whole conversion, and `toLatex` its text.
-/

namespace Bibliography.Markup
set_option autoImplicit false
open Text

/-! ## Runs of text -/

/-- The text begins with an empty group and blanks; what follows them. -/
def afterEmptyGroup? (s : Text) : Option Text :=
  match s with
  | '{' :: '}' :: b :: rest =>
    if Unicode.isBlank b then some (rest.dropWhile Unicode.isBlank) else none
  | _ => none

theorem length_of_afterEmptyGroup? {s r : Text} (h : afterEmptyGroup? s = some r) :
    r.length < s.length := by
  unfold afterEmptyGroup? at h
  split at h
  · rename_i rest
    have := (List.dropWhile_sublist Unicode.isBlank (l := rest)).length_le
    split at h
    · simp only [Option.some.injEq] at h
      simp only [List.length_cons]
      rw [← h]
      omega
    · simp at h
  · simp at h

/-- Finds empty groups with blanks after them. -/
def emptyGroup : Scanner Unit where
  test := fun s => (afterEmptyGroup? s).map fun rest => ((), rest)
  shorter := by
    intro s a rest h
    obtain ⟨r, hr, he⟩ := Option.map_eq_some_iff.1 h
    simp only [Prod.mk.injEq] at he
    exact he.2 ▸ length_of_afterEmptyGroup? hr

/-- An empty group with blanks after it is replaced by one space. -/
def collapseGroups (s : Text) : Text := emptyGroup.replace (fun _ => " ") s

/-- A run of text, escaped; a space takes the place of the empty group before it. -/
def escapeRun (mode : Latex.Mode) (s : Text) : Text := collapseGroups (Latex.escape mode s)

/-! ## The state of a conversion -/

/-- A tag that is open, and the LaTeX that closes it. -/
structure OpenTag where
  tag : Tag
  close : Text
deriving DecidableEq, Repr

/-- How far a conversion has come. -/
structure Conversion where
  /-- The open tags, innermost first. -/
  stack : List OpenTag
  warnings : List Warning
  latex : Text
deriving DecidableEq, Repr

namespace Conversion

/-- Nothing is converted yet. -/
def start : Conversion := ⟨[], [], []⟩

/-- Writes LaTeX. -/
def emit (c : Conversion) (s : Text) : Conversion := { c with latex := c.latex ++ s }

/-- Notes a warning. -/
def warn (c : Conversion) (w : Warning) : Conversion := { c with warnings := c.warnings ++ [w] }

/-- The LaTeX that closes the given tags, one after the other. -/
def closings (tags : List OpenTag) : Text := tags.flatMap OpenTag.close

/-- The attributes ask for small capitals. -/
def asksSmallCaps (attributes : Text) : Bool :=
  (leftmost (afterLetters? "small-caps") attributes).isSome

/-- What opens and what closes a tag with the given attributes. -/
def delimiters (tag : Tag) (attributes : Text) : Text × Text :=
  if tag = .span && asksSmallCaps attributes then (r"\textsc{", r"}")
  else (tag.opening, tag.closing)

/-- Takes in an opening tag. -/
def openTag (c : Conversion) (tag : Tag) (attributes : Text) (selfClosing : Bool) : Conversion :=
  let (opening, closing) := delimiters tag attributes
  if tag.isVoid then c.emit opening
  else if selfClosing then (c.emit opening).emit closing
  else if maxDepth ≤ c.stack.length then c.warn (.tooDeep tag)
  else { c with stack := ⟨tag, closing⟩ :: c.stack, latex := c.latex ++ opening }

/-- Takes in a closing tag. -/
def closeTag (c : Conversion) (tag : Tag) : Conversion :=
  let inner := c.stack.takeWhile fun o => o.tag != tag
  match c.stack.dropWhile fun o => o.tag != tag with
  | [] => c.warn (.unexpectedClose tag)
  | closed :: outer =>
    let c := if inner.isEmpty then c else c.warn (.implicitlyClosed tag (inner.map OpenTag.tag))
    { c with stack := outer, latex := c.latex ++ closings (inner ++ [closed]) }

/-- Takes in one piece. -/
def step (mode : Latex.Mode) (c : Conversion) : Segment Token → Conversion
  | .run s => c.emit (escapeRun mode s)
  | .found (.opening tag attributes selfClosing) => c.openTag tag attributes selfClosing
  | .found (.closing tag) => c.closeTag tag
  | .found .ignored => c

/-- Takes in one block. -/
def block (mode : Latex.Mode) (c : Conversion) : Segment Text → Conversion
  | .run s => (pieces s).foldl (step mode) c
  | .found s => c.emit s

/-- Closes what is still open. -/
def finish (c : Conversion) : Conversion :=
  if c.stack.isEmpty then c
  else
    { stack := []
      warnings := c.warnings ++ [.unclosed (c.stack.map OpenTag.tag)]
      latex := c.latex ++ closings c.stack }

end Conversion

/-- Converts a marked-up text. -/
def convert (mode : Latex.Mode) (s : Text) : Conversion :=
  ((blocks s).foldl (Conversion.block mode) Conversion.start).finish

/-- The LaTeX of a marked-up text. -/
def toLatex (mode : Latex.Mode) (s : Text) : Text := (convert mode s).latex

end Bibliography.Markup
