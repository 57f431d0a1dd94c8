import Bibliography.Text.Numeral
import Bibliography.Text.Words
import Bibliography.Unicode.Lowercase

/-! # Dates in free text

A library date is free text. `Date.ofText` finds the parts an entry needs:

* `2020-03-17`, `2020-03` or `2020`, ending there or followed by `T` or a blank;
* `3/17/2020`, month first, and `17.3.2020`, day first;
* otherwise the first number of four digits is the year, the first word that begins like a month is
  the month, and beside a month the first number from 1 to 31 is the day.

A part that is out of range is left out, the others stay.
-/

namespace Bibliography
set_option autoImplicit false
open Unicode Text

/-- The parts recovered from a date; months count from zero. -/
structure Date where
  year : Option Nat
  month : Option Nat
  day : Option Nat
deriving DecidableEq, Repr

namespace Date

/-- The names of the months as entries abbreviate them. -/
def monthNames : List Text :=
  ["jan", "feb", "mar", "apr", "may", "jun", "jul", "aug", "sep", "oct", "nov", "dec"]

/-- The abbreviated name of the month. -/
def monthName? (d : Date) : Option Text := d.month.bind fun m => monthNames[m]?

/-- No part is known. -/
def unknown : Date := ⟨none, none, none⟩

/-! ## Numbers -/

/-- The month a numeral stands for, counted from zero. -/
def monthIndex? (digits : Text) : Option Nat :=
  match value? digits with
  | some m => if 1 ≤ m && m ≤ 12 then some (m - 1) else none
  | none => none

/-- The day a numeral stands for. -/
def dayNumber? (digits : Text) : Option Nat :=
  match value? digits with
  | some d => if 1 ≤ d && d ≤ 31 then some d else none
  | none => none

/-- A month or a day has one digit or two. -/
def isShort (digits : Text) : Bool := digits.length == 1 || digits.length == 2

/-! ## The notations that begin the text -/

/-- A dashed date stops at the end, before `T` and before a blank. -/
def stopsDashed : Text → Bool
  | [] => true
  | c :: _ => c == 'T' || isBlank c

/-- The day of a dashed date. -/
def dashedDay? (year month : Text) (s : Text) : Option Date :=
  let (day, rest) := digitRun s
  if isShort day && stopsDashed rest then
    some ⟨value? year, monthIndex? month, dayNumber? day⟩
  else none

/-- The month of a dashed date, and the day if one follows. -/
def dashedMonth? (year : Text) (s : Text) : Option Date :=
  let (month, rest) := digitRun s
  if !isShort month then none
  else if stopsDashed rest then some ⟨value? year, monthIndex? month, none⟩
  else
    match rest with
    | '-' :: rest => dashedDay? year month rest
    | _ => none

/-- Year, month and day joined by dashes; the last two may be missing. -/
def dashed? (s : Text) : Option Date :=
  let (year, rest) := digitRun s
  if year.length ≠ 4 then none
  else if stopsDashed rest then some ⟨value? year, none, none⟩
  else
    match rest with
    | '-' :: rest => dashedMonth? year rest
    | _ => none

/-- Two short numerals and a year with a separator between them; the year ends a word. -/
def triple? (sep : Char) (s : Text) : Option (Text × Text × Text) :=
  let (first, rest) := digitRun s
  match rest with
  | [] => none
  | c :: rest =>
    if !(isShort first && c == sep) then none
    else
      let (second, rest) := digitRun rest
      match rest with
      | [] => none
      | c :: rest =>
        if !(isShort second && c == sep) then none
        else
          let (year, rest) := digitRun rest
          if year.length == 4 && atBoundary rest then some (first, second, year) else none

/-- Month, day and year with slashes. -/
def slashed? (s : Text) : Option Date :=
  (triple? '/' s).map fun (month, day, year) =>
    ⟨value? year, monthIndex? month, dayNumber? day⟩

/-- Day, month and year with dots. -/
def dotted? (s : Text) : Option Date :=
  (triple? '.' s).map fun (day, month, year) =>
    ⟨value? year, monthIndex? month, dayNumber? day⟩

/-! ## The parts found anywhere -/

/-- The text begins with a word of four digits. -/
def yearWord? (s : Text) : Option Text :=
  let (digits, rest) := digitRun s
  if digits.length == 4 && atBoundary rest then some digits else none

/-- The text begins with the three letters of a month, in any case. -/
def monthWord? (s : Text) : Option Text :=
  if monthNames.any fun name => (afterLetters? name s).isSome then some (s.take 3) else none

/-- What an ordinal adds to its digits. -/
def ordinalEndings : List Text := ["st", "nd", "rd", "th"]

/-- A number, or an ordinal, ends here. -/
def endsNumber (s : Text) : Bool :=
  atBoundary s || ordinalEndings.any fun e => (after? e s).any atBoundary

/-- The text begins with a word that can be a day. -/
def dayWord? (s : Text) : Option Nat :=
  let (digits, rest) := digitRun s
  if isShort digits && endsNumber rest then dayNumber? digits else none

/-- The month whose abbreviated name the letters are. -/
def namedMonth? (letters : Text) : Option Nat := monthNames.findIdx? (· == lower letters)

/-- A date with its parts in no fixed order. -/
def scattered (s : Text) : Date :=
  let year := (atWordStarts yearWord? false s).bind value?
  let month := (atWordStarts monthWord? false s).bind namedMonth?
  ⟨year, month, if month.isSome then atWordStarts dayWord? false s else none⟩

/-! ## Reading -/

/-- The parts of a date written in any of the notations. -/
def ofText (s : Text) : Date :=
  let s := trim s
  ((dashed? s).orElse fun _ => (slashed? s).orElse fun _ => dotted? s).getD (scattered s)

end Date
end Bibliography
