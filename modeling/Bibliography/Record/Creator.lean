import Bibliography.Record.Role
import Bibliography.Unicode.Case.Cased

/-! # Creators

A person or an organization credited on a record. A name without a given part is a single name.
-/

namespace Bibliography
set_option autoImplicit false
open Text

/-- A person or an organization credited on a record. -/
structure Creator where
  /-- The family name, or the whole of a single name. -/
  lastName : Text
  firstName : Option Text
  role : Role
deriving DecidableEq, Repr

namespace Creator

/-- The given name, if there is more to it than blanks. -/
def givenName? (c : Creator) : Option Text :=
  match c.firstName with
  | some first => if (trim first).isEmpty then none else some (trim first)
  | none => none

/-- The name as name lists write it: family name, comma, given name. -/
def listedName (c : Creator) : Text :=
  match c.givenName? with
  | some first => trim c.lastName ++ ", " ++ first
  | none => trim c.lastName

/-- A family name of several words that begins with a small letter, such as `van der Waals`. -/
def hasParticle (c : Creator) : Bool :=
  match words c.lastName with
  | (first :: _) :: _ :: _ => Unicode.isSmall first
  | _ => false

end Creator
end Bibliography
