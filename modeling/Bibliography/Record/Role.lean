import Bibliography.Text.Basic

/-! # Roles

What a person did for a record. Five roles have a meaning of their own; any other is kept by name.
Each kind of item credits one role first, usually the author.
-/

namespace Bibliography
set_option autoImplicit false

/-- What a creator did. -/
inductive Role
  | author
  | editor
  | seriesEditor
  | translator
  | contributor
  | other (name : Text)
deriving DecidableEq, Repr

namespace Role

/-- The name of the role. -/
def name : Role → Text
  | author => "author"
  | editor => "editor"
  | seriesEditor => "seriesEditor"
  | translator => "translator"
  | contributor => "contributor"
  | other name => name

/-- The role with the given name. -/
def ofName (s : Text) : Role :=
  if s = author.name then author
  else if s = editor.name then editor
  else if s = seriesEditor.name then seriesEditor
  else if s = translator.name then translator
  else if s = contributor.name then contributor
  else other s

theorem name_ofName (s : Text) : (ofName s).name = s := by
  unfold ofName
  split
  · next h => exact h.symm
  split
  · next h => exact h.symm
  split
  · next h => exact h.symm
  split
  · next h => exact h.symm
  split
  · next h => exact h.symm
  · rfl

/-- Editors of a work and of its series count as editors. -/
def isEditor : Role → Bool
  | editor | seriesEditor => true
  | _ => false

/-- Kinds of items that credit another role than the author first. -/
def primaryRoles : List (Text × Text) := [
  ("artwork", "artist"), ("audioRecording", "performer"), ("bill", "sponsor"),
  ("computerProgram", "programmer"), ("film", "director"), ("radioBroadcast", "director"),
  ("tvBroadcast", "director"), ("videoRecording", "director"), ("hearing", "contributor"),
  ("interview", "interviewee"), ("map", "cartographer"), ("patent", "inventor"),
  ("podcast", "podcaster"), ("presentation", "presenter")
]

/-- The role that counts as author for a kind of item. -/
def primary (itemType : Text) : Role := ofName ((primaryRoles.lookup itemType).getD "author")

end Role
end Bibliography
