import Bibliography.Record.Basic
import Bibliography.Text.Search

/-! # Pinned keys

The extra field of a record may pin its key, as `bibtex: key` or as `biblatexcitekey[key]`. The
first form goes before the second wherever they stand, and of several of one form the leftmost
counts.
-/

namespace Bibliography.CiteKey
set_option autoImplicit false
open Text

/-- A directive that pins a key: the text before it, the key, and the text after it. -/
structure Pin where
  before : Text
  key : Text
  after : Text
deriving DecidableEq, Repr

namespace Pin

/-- The text begins with a marked key; blanks may stand before the key, which ends at a blank. -/
def markedKey? (s : Text) : Option (Text × Text) :=
  (after? "bibtex:" s).bind fun s =>
    let s := s.dropWhile Unicode.isBlank
    let key := s.takeWhile fun c => !Unicode.isBlank c
    if key.isEmpty then none else some (key, s.dropWhile fun c => !Unicode.isBlank c)

/-- The text begins with a name and something in brackets; what is in them, and what follows. -/
def bracketed? (name s : Text) : Option (Text × Text) :=
  (after? (name ++ "[") s).bind fun s =>
    let inner := s.takeWhile (· != ']')
    match s.dropWhile (· != ']') with
    | [] => none
    | _ :: rest => if inner.isEmpty then none else some (inner, rest)

/-- The text begins with a key in brackets. -/
def bracketedKey? (s : Text) : Option (Text × Text) := bracketed? "biblatexcitekey" s

/-- The leftmost place of a directive. -/
def locate (test : Text → Option (Text × Text)) (extra : Text) : Option Pin :=
  (leftmost test extra).map fun found => ⟨found.1, found.2.1, found.2.2⟩

/-- The directive that pins a key. -/
def find? (extra : Text) : Option Pin :=
  (locate markedKey? extra).orElse fun _ => locate bracketedKey? extra

/-- The text without the directive. -/
def remainder (p : Pin) : Text := trim (p.before ++ p.after)

end Pin

/-- The key pinned in an extra field. -/
def pinnedKey? (extra : Text) : Option Text := (Pin.find? extra).map Pin.key

end Bibliography.CiteKey
