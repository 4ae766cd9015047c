import PowerGrant.Text.Blank
import PowerGrant.Text.Numeral

/-!
# Timestamps

`isTimestamp` tells whether a text is a date and time with an offset as RFC 3339 writes it, read
leniently: a field may lack its leading zeros, blanks may precede it, the `T` may be a `t` or a
space, and the offset may be `UTC` or lack its colon.
-/

namespace PowerGrant.Text

namespace Timestamp

/-- The number that up to `width` digits at the head of a text write, and what follows. -/
def number (width : Nat) (cs : List Char) : Option (Nat × List Char) :=
  let ds := (cs.take width).takeWhile fun c => (digit? c).isSome
  if ds.isEmpty then none
  else some (ds.foldl (fun n d => n * 10 + (digit? d).getD 0) 0, cs.drop ds.length)

/-- The same after blanks. -/
def field (width : Nat) (cs : List Char) : Option (Nat × List Char) :=
  number width (cs.dropWhile isBlank)

/-- What follows `c` and blanks before it. -/
def mark (c : Char) (cs : List Char) : Option (List Char) :=
  match cs.dropWhile isBlank with
  | d :: rest => if d = c then some rest else none
  | [] => none

/-- A year of at most four digits, or of any number of them after a sign, and what follows. -/
def year (cs : List Char) : Option (Int × List Char) :=
  match cs.dropWhile isBlank with
  | '-' :: rest => (number rest.length rest).map fun (n, rest) => (-(n : Int), rest)
  | '+' :: rest => (number rest.length rest).map fun (n, rest) => ((n : Int), rest)
  | rest => (number 4 rest).map fun (n, rest) => ((n : Int), rest)

/-- Whether a year has a 29 February. -/
def isLeap (year : Int) : Bool :=
  year % 4 = 0 && (year % 100 ≠ 0 || year % 400 = 0)

/-- The number of days of a month. -/
def daysIn (year : Int) (month : Nat) : Nat :=
  if month = 2 then if isLeap year then 29 else 28
  else if month = 4 || month = 6 || month = 9 || month = 11 then 30
  else 31

/-- What follows the fraction of a second, if there is one. -/
def afterFraction : List Char → Option (List Char)
  | '.' :: rest =>
    match rest.dropWhile fun c => (digit? c).isSome with
    | after => if after.length = rest.length then none else some after
  | rest => some rest

/-- The number below `limit` that two digits write, and what follows. -/
def twoDigits (limit : Nat) : List Char → Option (Nat × List Char)
  | a :: b :: rest =>
    match digit? a, digit? b with
    | some a, some b => if a * 10 + b < limit then some (a * 10 + b, rest) else none
    | _, _ => none
  | _ => none

/-- The minutes of a day. -/
def dayMinutes : Nat := 1440

/-- An offset from universal time in minutes, less than a day, and what follows. -/
def offset : List Char → Option (Int × List Char)
  | 'Z' :: rest | 'z' :: rest => some (0, rest)
  | sign :: rest =>
    if sign = '+' || sign = '-' || sign = '\u2212' then do
      let (hours, rest) ← twoDigits 100 rest
      let (minutes, rest) ← twoDigits 60 (rest.dropWhile fun c => c = ':' || isBlank c)
      let distance := hours * 60 + minutes
      if distance < dayMinutes then
        return (if sign = '+' then (distance : Int) else -(distance : Int), rest)
      else none
    else
      match sign :: rest with
      | u :: t :: c :: after =>
        if u.toUpper = 'U' && t.toUpper = 'T' && c.toUpper = 'C' then some (0, after) else none
      | _ => none
  | [] => none

/-- The first year that dates have. -/
def firstYear : Int := -262143

/-- The last year that dates have. -/
def lastYear : Int := 262142

/-- Whether a minute of a day, in the time of an offset, lies in the range of dates by universal time. -/
def inRange (year : Int) (month day minute : Nat) (offset : Int) : Bool :=
  firstYear ≤ year && year ≤ lastYear &&
    !(year = firstYear && month = 1 && day = 1 && minute < offset) &&
    !(year = lastYear && month = 12 && day = 31 && dayMinutes ≤ minute - offset)

/-- The number of days from the start of 1970 to a day; years are counted from March on, so that a leap
day is the last one. -/
def dayNumber (year : Int) (month day : Nat) : Int :=
  let y := if month ≤ 2 then year - 1 else year
  let m := (month + 9) % 12
  365 * y + y / 4 - y / 100 + y / 400 + (153 * m + 2) / 5 + day - 719469

/-- The second since the start of 1970 that a date with a time and an offset names. -/
def seconds? (cs : List Char) : Option Int := do
  let (y, cs) ← year cs
  let cs ← mark '-' cs
  let (month, cs) ← field 2 cs
  let cs ← mark '-' cs
  let (day, cs) ← field 2 cs
  let cs ← match cs with
    | 'T' :: cs | 't' :: cs | ' ' :: cs => some cs
    | _ => none
  let (hour, cs) ← field 2 cs
  let cs ← mark ':' cs
  let (minute, cs) ← field 2 cs
  let cs ← mark ':' cs
  let (second, cs) ← field 2 cs
  let cs ← afterFraction cs
  let (offset, cs) ← offset (cs.dropWhile isBlank)
  let minutes := hour * 60 + minute
  if 1 ≤ month ∧ month ≤ 12 ∧ 1 ≤ day ∧ day ≤ daysIn y month ∧ hour < 24 ∧ minute < 60 ∧
      second ≤ 60 ∧ inRange y month day minutes offset ∧ (trim cs).isEmpty then
    return (dayNumber y month day * dayMinutes + minutes - offset) * 60 + second
  else none

end Timestamp

/-- Whether a text is a date with a time and an offset. -/
def isTimestamp (s : String) : Bool :=
  (Timestamp.seconds? s.toList).isSome

example : isTimestamp "2024-01-01T00:00:00Z" ∧ isTimestamp "2024-02-29t23:59:60.5+02:00" ∧
    ¬isTimestamp "2023-02-29T00:00:00Z" ∧ ¬isTimestamp "2024-01-01" := by decide +kernel

example : Timestamp.seconds? "1970-01-01T00:00:00Z".toList = some 0 ∧
    Timestamp.seconds? "2024-03-01T01:00:30+01:00".toList = some 1709251230 := by decide +kernel

end PowerGrant.Text
