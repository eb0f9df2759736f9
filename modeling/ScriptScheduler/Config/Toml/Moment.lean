import ScriptScheduler.Decimal.Literal

/-!
# Dates and times in TOML

A moment is a date, a time, or a date and a time, which may then have an offset. It is read from
the front of a text and has a text of its own: a capital `T` between date and time, a fraction of
at most nine digits without zeros at its end, and an offset that is a capital `Z` or has a sign.
-/

namespace ScriptScheduler

namespace Toml

/-! ### Types -/

/-- A day of the calendar. -/
structure Date where
  year : Nat
  month : Nat
  day : Nat

/-- A time of the day. -/
structure Time where
  hour : Nat
  minute : Nat
  second : Nat
  /-- The digits of the fraction of a second. -/
  fraction : List Char

/-- How far a clock is from the universal time. -/
inductive Offset where
  | zulu
  | ahead (hours minutes : Nat)
  | behind (hours minutes : Nat)

/-- A moment. -/
inductive Moment where
  | date (date : Date)
  | time (time : Time)
  | both (date : Date) (time : Time) (offset : Option Offset)

/-! ### Reading -/

/-- The number that the first `count` characters write, if they are digits, and the text after
them. -/
def parseDigits? (count : Nat) (text : List Char) : Option (Nat × List Char) :=
  let digits := text.take count
  if digits.length = count && digits.all Char.isDigit then
    some (natOfDigits digits, text.drop count)
  else none

/-- A number of two digits between two bounds. -/
def parseBetween? (least greatest : Nat) (text : List Char) : Option (Nat × List Char) :=
  (parseDigits? 2 text).filter fun read => least ≤ read.1 && read.1 ≤ greatest

/-- The text after a given character. -/
def dropChar? (c : Char) : List Char → Option (List Char)
  | d :: rest => if c = d then some rest else none
  | [] => none

/-- Whether a year has a leap day. -/
def isLeapYear (year : Nat) : Bool := year % 4 = 0 && (year % 100 ≠ 0 || year % 400 = 0)

/-- The number of days in a month. -/
def daysInMonth (year month : Nat) : Nat :=
  if month = 2 then (if isLeapYear year then 29 else 28)
  else if [4, 6, 9, 11].contains month then 30
  else 31

/-- Reads a date. -/
def parseDate? (text : List Char) : Option (Date × List Char) := do
  let (year, text) ← parseDigits? 4 text
  let text ← dropChar? '-' text
  let (month, text) ← parseBetween? 1 12 text
  let text ← dropChar? '-' text
  let (day, text) ← parseBetween? 1 (daysInMonth year month) text
  some (⟨year, month, day⟩, text)

/-- Reads the fraction of a second, if there is one. -/
def parseFraction (text : List Char) : List Char × List Char :=
  match text with
  | '.' :: rest =>
    let digits := rest.takeWhile Char.isDigit
    if digits.isEmpty then ([], text) else (digits, rest.drop digits.length)
  | _ => ([], text)

/-- Reads a time. A minute may have a second more than usual. -/
def parseTime? (text : List Char) : Option (Time × List Char) := do
  let (hour, text) ← parseBetween? 0 23 text
  let text ← dropChar? ':' text
  let (minute, text) ← parseBetween? 0 59 text
  let text ← dropChar? ':' text
  let (second, text) ← parseBetween? 0 60 text
  let (fraction, text) := parseFraction text
  some (⟨hour, minute, second, fraction⟩, text)

/-- Reads the hours and minutes of an offset. -/
def parseDistance? (text : List Char) : Option (Nat × Nat × List Char) := do
  let (hours, text) ← parseBetween? 0 23 text
  let text ← dropChar? ':' text
  let (minutes, text) ← parseBetween? 0 59 text
  some (hours, minutes, text)

/-- Reads an offset, if there is one. -/
def parseOffset? (text : List Char) : Option (Option Offset × List Char) :=
  match text with
  | 'Z' :: rest => some (some .zulu, rest)
  | 'z' :: rest => some (some .zulu, rest)
  | '+' :: rest =>
    (parseDistance? rest).map fun (hours, minutes, rest) => (some (.ahead hours minutes), rest)
  | '-' :: rest =>
    (parseDistance? rest).map fun (hours, minutes, rest) => (some (.behind hours minutes), rest)
  | _ => some (none, text)

/-- Whether a character may stand between a date and a time. -/
def isBetweenDateAndTime (c : Char) : Bool := c = 'T' || c = 't' || c = ' '

/-- Reads a moment. A blank after a date is part of it only if a time follows. -/
def parseMoment? (text : List Char) : Option (Moment × List Char) :=
  match parseDate? text with
  | none => (parseTime? text).map fun (time, rest) => (.time time, rest)
  | some (date, text) =>
    match text with
    | c :: rest =>
      if isBetweenDateAndTime c then
        match parseTime? rest with
        | some (time, rest) =>
          (parseOffset? rest).map fun (offset, rest) => (.both date time offset, rest)
        | none => some (.date date, text)
      else some (.date date, text)
    | [] => some (.date date, [])

/-! ### Texts -/

/-- The decimal digits of a number, with zeros in front up to a width. -/
def padded (width n : Nat) : String :=
  let digits := Nat.toDigits 10 n
  String.ofList (List.replicate (width - digits.length) '0' ++ digits)

/-- The text of a date. -/
def Date.text (date : Date) : String :=
  padded 4 date.year ++ "-" ++ padded 2 date.month ++ "-" ++ padded 2 date.day

/-- The digits of a fraction that are kept. -/
def keptFraction (digits : List Char) : List Char :=
  ((digits.take 9).reverse.dropWhile (· = '0')).reverse

/-- The text of a time. -/
def Time.text (time : Time) : String :=
  let fraction := keptFraction time.fraction
  padded 2 time.hour ++ ":" ++ padded 2 time.minute ++ ":" ++ padded 2 time.second ++
    (if fraction.isEmpty then "" else "." ++ String.ofList fraction)

/-- The text of an offset. An offset of nothing has a plus sign. -/
def Offset.text : Offset → String
  | .zulu => "Z"
  | .ahead hours minutes => "+" ++ padded 2 hours ++ ":" ++ padded 2 minutes
  | .behind hours minutes =>
    (if hours = 0 && minutes = 0 then "+" else "-") ++ padded 2 hours ++ ":" ++ padded 2 minutes

/-- The text of a moment. -/
def Moment.text : Moment → String
  | .date d => d.text
  | .time t => t.text
  | .both d t offset => d.text ++ "T" ++ t.text ++ ((offset.map Offset.text).getD "")

end Toml

end ScriptScheduler
