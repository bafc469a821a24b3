import TestCluster.Text.Blank
import TestCluster.Text.Numeral

/-!
# Timestamps — points in time, to the second

    A timestamp is read leniently: numbers need no leading zeros, blanks may stand between
    the parts, a fraction of a second is dropped, and the time may be that of any place whose
    distance from universal time is given. It is written strictly, in universal time. A
    minute may have a second 60, for the seconds that are put in now and then.
-/

namespace TestCluster

/-- A day of the calendar, carried on to all years before and after it was introduced. -/
structure Date where
  year : Int
  month : Nat
  day : Nat
  deriving DecidableEq, Repr

namespace Date

/-- Whether a year has a 29th of February. -/
def isLeapYear (year : Int) : Bool := year % 4 == 0 && (year % 100 != 0 || year % 400 == 0)

/-- How many days a month has. -/
def daysInMonth (year : Int) (month : Nat) : Nat :=
  if month = 2 then if isLeapYear year then 29 else 28
  else if month = 4 ∨ month = 6 ∨ month = 9 ∨ month = 11 then 30
  else 31

/-- The years that dates may have. -/
def isYear (year : Int) : Bool := decide (-262143 ≤ year ∧ year ≤ 262142)

/-- Whether there is such a day. -/
def isValid (d : Date) : Bool :=
  isYear d.year && decide (1 ≤ d.month ∧ d.month ≤ 12) &&
  decide (1 ≤ d.day ∧ d.day ≤ daysInMonth d.year d.month)

/-- The day after. -/
def next (d : Date) : Date :=
  if d.day < daysInMonth d.year d.month then { d with day := d.day + 1 }
  else if d.month < 12 then ⟨d.year, d.month + 1, 1⟩
  else ⟨d.year + 1, 1, 1⟩

/-- The day before. -/
def previous (d : Date) : Date :=
  if 1 < d.day then { d with day := d.day - 1 }
  else if 1 < d.month then ⟨d.year, d.month - 1, daysInMonth d.year (d.month - 1)⟩
  else ⟨d.year - 1, 12, 31⟩

end Date

/-- A second of universal time. -/
structure Timestamp where
  date : Date
  /-- The minute of the day. -/
  minute : Nat
  second : Nat
  deriving DecidableEq, Repr

namespace Timestamp

/-! ## Reading -/

/-! Every reader here takes a part off the front of a text and gives what follows it. -/

/-- The text without the blanks at its start. -/
def skipBlanks (cs : List Char) : List Char := cs.dropWhile Text.isBlank

/-- A row of digits, at most so many of them and at least one. -/
def readDigits (most : Nat) (cs : List Char) : Option (Nat × List Char) :=
  let row := (cs.take most).takeWhile Char.isDigit
  if row.isEmpty then none
  else some (row.foldl (fun n d => n * 10 + (d.toNat - 48)) 0, cs.drop row.length)

/-- A number after blanks, with at most two digits and within bounds. -/
def readNumber (least most : Nat) (cs : List Char) : Option (Nat × List Char) :=
  (readDigits 2 (skipBlanks cs)).filter fun (n, _) => least ≤ n ∧ n ≤ most

/-- A year after blanks: four digits at most, or any number of them after a sign. -/
def readYear (cs : List Char) : Option (Int × List Char) :=
  match skipBlanks cs with
  | '-' :: cs => (readDigits cs.length cs).map fun (n, rest) => (-(n : Int), rest)
  | '+' :: cs => (readDigits cs.length cs).map fun (n, rest) => ((n : Int), rest)
  | cs => (readDigits 4 cs).map fun (n, rest) => ((n : Int), rest)

/-- A separator after blanks. -/
def dropMark (c : Char) (cs : List Char) : Option (List Char) :=
  match skipBlanks cs with
  | d :: rest => if d = c then some rest else none
  | [] => none

/-- A calendar day: year, month and day between dashes. -/
def readDate (cs : List Char) : Option (Date × List Char) := do
  let (year, cs) ← readYear cs
  let cs ← dropMark '-' cs
  let (month, cs) ← readNumber 1 12 cs
  let cs ← dropMark '-' cs
  let (day, cs) ← readNumber 1 31 cs
  let date : Date := ⟨year, month, day⟩
  if date.isValid then some (date, cs) else none

/-- A fraction of a second, which is dropped. -/
def skipFraction : List Char → Option (List Char)
  | '.' :: cs =>
    match cs with
    | d :: _ => if d.isDigit then some (cs.dropWhile Char.isDigit) else none
    | [] => none
  | cs => some cs

/-- A time of day, as minutes and seconds. -/
def readClock (cs : List Char) : Option ((Nat × Nat) × List Char) := do
  let (hour, cs) ← readNumber 0 23 cs
  let cs ← dropMark ':' cs
  let (minute, cs) ← readNumber 0 59 cs
  let cs ← dropMark ':' cs
  let (second, cs) ← readNumber 0 60 cs
  let cs ← skipFraction cs
  some ((hour * 60 + minute, second), skipBlanks cs)

/-- Two digits, within a bound. -/
def readPair (bound : Nat) : List Char → Option (Nat × List Char)
  | a :: b :: rest =>
    if a.isDigit && b.isDigit then
      let n := (a.toNat - 48) * 10 + (b.toNat - 48)
      if n < bound then some (n, rest) else none
    else none
  | _ => none

/-- Hours and minutes, with colons and blanks between them, less than a day. -/
def readDistance (cs : List Char) : Option (Int × List Char) := do
  let (hours, cs) ← readPair 24 cs
  let (minutes, cs) ← readPair 60 (cs.dropWhile fun c => c == ':' || Text.isBlank c)
  some ((hours * 60 + minutes : Nat), cs)

/-- The minutes by which a place's time is ahead of universal time. -/
def readOffset (cs : List Char) : Option (Int × List Char) :=
  match cs with
  | 'Z' :: rest => some (0, rest)
  | 'z' :: rest => some (0, rest)
  | '+' :: rest => readDistance rest
  | '-' :: rest => (readDistance rest).map fun (n, rest) => (-n, rest)
  | '\u2212' :: rest => (readDistance rest).map fun (n, rest) => (-n, rest)
  | a :: b :: c :: rest =>
    if [a, b, c].map Char.toUpper = ['U', 'T', 'C'] then some (0, rest) else none
  | _ => none

/-- The time of a place as universal time, if its year is one that dates may have. -/
def ofLocal (date : Date) (minute second : Nat) (offset : Int) : Option Timestamp :=
  let m : Int := minute - offset
  let (date, m) : Date × Int :=
    if m < 0 then (date.previous, m + 1440)
    else if 1440 ≤ m then (date.next, m - 1440)
    else (date, m)
  if Date.isYear date.year then some ⟨date, m.toNat, second⟩ else none

/-- Reads a timestamp. -/
def ofText? (s : String) : Option Timestamp := do
  let (date, cs) ← readDate s.toList
  let cs ← match cs with
    | c :: rest => if c = 'T' ∨ c = 't' ∨ c = ' ' then some rest else none
    | [] => none
  let ((minute, second), cs) ← readClock cs
  let (offset, cs) ← readOffset cs
  if (skipBlanks cs).isEmpty then ofLocal date minute second offset else none

/-! ## Writing -/

/-- A number with zeros put before it up to a width. -/
def padded (width n : Nat) : List Char :=
  let cs := Text.decimalChars n
  List.replicate (width - cs.length) '0' ++ cs

/-- A year of four digits, with a sign unless it is one of the first ten thousand from 0 on. -/
def yearChars (year : Int) : List Char :=
  if 0 ≤ year ∧ year ≤ 9999 then padded 4 year.toNat
  else (if year < 0 then '-' else '+') :: padded 4 year.natAbs

/-- The timestamp as text. -/
def text (t : Timestamp) : String :=
  String.ofList (yearChars t.date.year ++ '-' :: padded 2 t.date.month ++ '-' ::
    padded 2 t.date.day ++ 'T' :: padded 2 (t.minute / 60) ++ ':' ::
    padded 2 (t.minute % 60) ++ ':' :: padded 2 t.second ++ ['Z'])

end Timestamp

end TestCluster
