import Bibliography.Text.Basic

/-! # Tables in TOML

A document is a table of named values. A header opens a table by its path, and a dotted name opens
tables on its way. What is defined once stays: a name has one value, a table one header, and an
inline table takes nothing more. The functions here give the table after one more definition, or
`none` if the definition is not allowed.
-/

namespace Bibliography.Toml
set_option autoImplicit false

/-- How a table came to be. -/
inductive Origin
  /-- By a header of its own. -/
  | header
  /-- On the path of another header. -/
  | path
  /-- On the way of a dotted name. -/
  | dotted
deriving DecidableEq, Repr

/-- A value of a document. -/
inductive Node
  | text (s : Text)
  | flag (b : Bool)
  /-- A number or a time. -/
  | scalar
  | array (items : List Node)
  | inline (members : List (Text × Node))
  | table (origin : Origin) (members : List (Text × Node))
  /-- An array of tables, each with a header of its own. -/
  | tables (elements : List (List (Text × Node)))

/-- The named values of a table, in the order of their definition. -/
abbrev Members := List (Text × Node)

namespace Members

/-- Defines a name that is not yet defined. -/
def define (k : Text) (v : Node) (ms : Members) : Option Members :=
  if (ms.lookup k).isSome then none else some (ms ++ [(k, v)])

/-- Gives a name that is defined another value. -/
def redefine (k : Text) (v : Node) (ms : Members) : Members :=
  ms.map fun p => if p.1 = k then (k, v) else p

/-- A change of the last one of several tables. -/
def changeLast (change : Members → Option Members) : List Members → Option (List Members)
  | [] => none
  | [ms] => (change ms).map fun ms => [ms]
  | ms :: rest => (changeLast change rest).map fun rest => ms :: rest

/-- Changes the table at the end of a header's path; tables missing on the way are opened. -/
def descend (path : List Text) (change : Members → Option Members) (ms : Members) :
    Option Members :=
  match path with
  | [] => change ms
  | k :: rest =>
    match ms.lookup k with
    | none => (descend rest change []).map fun inner => ms ++ [(k, .table .path inner)]
    | some (.table origin inner) =>
      (descend rest change inner).map fun inner => redefine k (.table origin inner) ms
    | some (.tables elements) =>
      (changeLast (descend rest change) elements).map fun elements =>
        redefine k (.tables elements) ms
    | some _ => none

/-- Defines a value under a dotted name. The tables on its way must not have a header, and the last
one must have been opened by a dotted name. -/
def defineDotted (path : List Text) (k : Text) (v : Node) (ms : Members) : Option Members :=
  match path with
  | [] => define k v ms
  | p :: rest =>
    match ms.lookup p with
    | none =>
      (defineDotted rest k v []).map fun inner => ms ++ [(p, .table .dotted inner)]
    | some (.table origin inner) =>
      if origin = .header || (origin = .path && rest.isEmpty) then none
      else (defineDotted rest k v inner).map fun inner => redefine p (.table origin inner) ms
    | some (.tables elements) =>
      if rest.isEmpty then none
      else
        (changeLast (defineDotted rest k v) elements).map fun elements =>
          redefine p (.tables elements) ms
    | some _ => none

/-- Opens the table of a header. -/
def openTable (k : Text) (ms : Members) : Option Members :=
  match ms.lookup k with
  | none => some (ms ++ [(k, .table .header [])])
  | some (.table .path inner) => some (redefine k (.table .header inner) ms)
  | some _ => none

/-- Opens one more table of an array of tables. -/
def openElement (k : Text) (ms : Members) : Option Members :=
  match ms.lookup k with
  | none => some (ms ++ [(k, .tables [[]])])
  | some (.tables elements) => some (redefine k (.tables (elements ++ [[]])) ms)
  | some _ => none

end Members
end Bibliography.Toml
