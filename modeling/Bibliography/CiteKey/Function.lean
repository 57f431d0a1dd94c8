import Bibliography.Calendar.Date
import Bibliography.CiteKey.Credits
import Bibliography.CiteKey.TitleWords
import Bibliography.EntryType

/-! # Functions of a key pattern

A function reads one aspect of a record and yields a text, empty where there is nothing to read. The
name of a directive may carry two numbers: a limit and an index.
-/

namespace Bibliography.CiteKey
set_option autoImplicit false
open Text

/-- What a directive of a key pattern asks for. -/
inductive Function
  | id
  | key
  | type
  /-- The family name of one creator, cut to the limit. -/
  | auth
  | authorLast
  /-- All family names, or as many as the limit allows and a word for the rest. -/
  | authors
  | authorsAlpha
  | authIni
  | authorIni
  | authAuthEa
  | authEtal
  | authShort
  | firstPage
  | lastPage
  /-- One of the tags. -/
  | keyword
  | shortTitle
  | veryShortTitle
  | shortYear
  | year
  | month
  | title
  /-- No such function; the name may still be that of a field. -/
  | unknown (name : Text)
deriving DecidableEq, Repr

namespace Function

/-- The functions and their names. -/
def table : List (Text × Function) := [
  ("id", id), ("key", key), ("auth", auth), ("type", type), ("authorLast", authorLast),
  ("authors", authors), ("authorsAlpha", authorsAlpha), ("authIni", authIni),
  ("authorIni", authorIni), ("auth.auth.ea", authAuthEa), ("auth.etal", authEtal),
  ("authshort", authShort), ("firstpage", firstPage), ("lastpage", lastPage),
  ("keyword", keyword), ("shorttitle", shortTitle), ("veryshorttitle", veryShortTitle),
  ("shortyear", shortYear), ("year", year), ("month", month), ("title", title)
]

/-- The function with the given name. -/
def ofName (s : Text) : Function := (table.lookup s).getD (unknown s)

/-- The name of a function. -/
def name : Function → Text
  | unknown s => s
  | f => ((table.find? fun p => p.2 == f).map Prod.fst).getD []

/-- There is no such function. -/
def isUnknown : Function → Bool
  | unknown _ => true
  | _ => false

/-! ## Names -/

/-- The text cut to the limit, if there is one. -/
def cut (limit : Option Nat) (s : Text) : Text :=
  match limit with
  | some n => s.take n
  | none => s

/-- The first letter of a name. -/
def initial (s : Text) : Text := s.take 1

/-- The first letters of several names, one after the other. -/
def initials (names : List Text) : Text := names.flatMap initial

/-- Names with a word for those left out. -/
def withWord (names : List Text) (word : Text) : Text := joinWith "." (names ++ [word])

/-- Names up to the limit, and a word for those left out. -/
def listed (limit : Option Nat) (names : List Text) : Text :=
  match limit with
  | some n =>
    if n < names.length then withWord (names.take n) "EtAl" else joinWith "." names
  | none => joinWith "." names

/-- A single name cut to three letters, up to four initials, or three initials and a plus sign. -/
def alpha (names : List Text) : Text :=
  match names with
  | [] => []
  | [name] => name.take 3
  | names => if names.length ≤ 4 then initials names else initials (names.take 3) ++ "+"

/-- The first name cut to five letters, then the initials of each further one. -/
def leadAndInitials (names : List Text) : Text :=
  match names with
  | [] => []
  | first :: rest => joinWith "." (first.take 5 :: rest.map fun name => initials (words name))

/-- Two names, and a word for the rest. -/
def leadingTwo (names : List Text) : Text :=
  if 2 < names.length then withWord (names.take 2) "ea" else joinWith "." names

/-- One name and a word for the rest, unless there are exactly two. -/
def leadingOne (names : List Text) : Text :=
  if 2 < names.length then withWord (names.take 1) "etal" else joinWith "." names

/-- A single name in full, else initials; a plus sign tells that there are more than three. -/
def short (names : List Text) : Text :=
  match names with
  | [] => []
  | [name] => name
  | names =>
    joinWith "." (names.map initial) ++ (if 3 < names.length then ("+" : Text) else [])

/-! ## Pages and dates -/

/-- The number a text begins with. -/
def firstNumber (s : Text) : Text := s.takeWhile Char.isDigit

/-- The last number in a text. -/
def lastNumber (s : Text) : Text :=
  ((s.reverse.dropWhile fun c => !c.isDigit).takeWhile Char.isDigit).reverse

/-- The year of a date, or the date as it is if it has none. -/
def yearText (date : Text) : Text :=
  match (Date.ofText date).year with
  | some y => decimal y
  | none => date

/-- The last two digits of the year. -/
def shortYearText (date : Text) : Text :=
  match (Date.ofText date).year with
  | some y => padZeros 2 (decimal (y % 100))
  | none => []

/-- The name of the month, if the year is known too. -/
def monthText (date : Text) : Text :=
  let d := Date.ofText date
  if d.year.isSome then d.monthName?.getD [] else []

/-! ## Evaluation -/

/-- What a function yields for a list of names, if it is one that reads names. -/
def ofNames? (limit index : Option Nat) (names : List Text) : Function → Option Text
  | auth => some ((names[index.getD 0]?.map (cut limit)).getD [])
  | authorLast => some (names.getLast?.getD [])
  | authors => some (listed limit names)
  | authorsAlpha => some (alpha names)
  | authIni => some (joinWith "." (names.map (cut limit)))
  | authorIni => some (leadAndInitials names)
  | authAuthEa => some (leadingTwo names)
  | authEtal => some (leadingOne names)
  | authShort => some (short names)
  | _ => none

/-- What a function yields that reads no names. -/
def ofParts (types : TypeTable) (n : Option Nat) (r : Record) : Function → Text
  | id => r.itemId
  | key => r.key
  | type => types.output r
  | firstPage => firstNumber r.pages
  | lastPage => lastNumber r.pages
  | keyword => (n.bind fun i => r.tags[i]?).getD []
  | shortTitle => ((shortTitleWords r.title).take 3).flatten
  | veryShortTitle => ((shortTitleWords r.title).take 1).flatten
  | shortYear => shortYearText r.date
  | year => yearText r.date
  | month => monthText r.date
  | title => (titleWords r.title).flatten
  | _ => []

/-- The text a function yields for a record. `n` and `m` are the numbers of the directive; a limit
of zero is none. -/
def eval (f : Function) (types : TypeTable) (onlyEditors : Bool) (n m : Option Nat) (r : Record) :
    Text :=
  let limit := n.filter fun n => 0 < n
  (ofNames? limit m ((Credits.ofRecord r).select onlyEditors) f).getD (ofParts types n r f)

end Function
end Bibliography.CiteKey
