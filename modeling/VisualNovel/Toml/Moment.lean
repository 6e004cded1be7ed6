/-
# Dates and times

A date, a time of the day, or both together, then perhaps with the offset from universal time. The
seconds of a time may be missing and are then zero; of their fraction nine digits count. A letter or
a space stands between a date and its time. There is one text for every moment, whichever of the
ways it was written in.
-/

import VisualNovel.Numeral
import VisualNovel.Text.Reader

namespace VisualNovel.Toml

open Text Reader

/-- A day of the calendar. -/
structure Date where
  year : Nat
  month : Nat
  day : Nat
  deriving DecidableEq, Repr

/-- A time of the day. -/
structure Time where
  hour : Nat
  minute : Nat
  second : Nat := 0
  nanosecond : Nat := 0
  deriving DecidableEq, Repr

/-- An offset from universal time. -/
inductive Offset
  | universal
  /-- So many minutes ahead of it, behind it if negative. -/
  | shifted (minutes : Int)
  deriving DecidableEq, Repr

/-- A date, a time or both. -/
inductive Moment
  | day (date : Date)
  | clock (time : Time)
  | both (date : Date) (time : Time) (offset : Option Offset)
  deriving DecidableEq, Repr

/-- The digits of a number with zeros in front up to the given width. -/
def padded (width number : Nat) : List Char :=
  let digits := Nat.toDigits 10 number
  List.replicate (width - digits.length) '0' ++ digits

/-- The number that exactly so many digits denote. -/
def fixed (count : Nat) : Reader Nat := fun written =>
  let digits := written.take count
  if digits.length = count && digits.all isAsciiDigit then
    some (digits.foldl (fun n c => n * 10 + Numeral.digitValue c) 0, written.drop count)
  else none

namespace Date

/-- The number of days of a month. -/
def daysIn (year month : Nat) : Nat :=
  if month = 2 then
    if year % 4 = 0 && (year % 100 != 0 || year % 400 = 0) then 29 else 28
  else if month = 4 || month = 6 || month = 9 || month = 11 then 30
  else 31

/-- A date, if the calendar has it. -/
def reader : Reader Date := do
  let year ← fixed 4
  literal '-'
  let month ← fixed 2
  literal '-'
  let day ← fixed 2
  guard (1 ≤ month && month ≤ 12 && 1 ≤ day && day ≤ daysIn year month)
  return { year, month, day }

/-- The date as it is written. -/
def text (date : Date) : List Char :=
  padded 4 date.year ++ '-' :: padded 2 date.month ++ '-' :: padded 2 date.day

end Date

namespace Time

/-- The hours and minutes of a day. -/
def minutes : Reader (Nat × Nat) := do
  let hour ← fixed 2
  literal ':'
  let minute ← fixed 2
  guard (hour ≤ 23 && minute ≤ 59)
  return (hour, minute)

/-- How many digits of the fraction of a second count. -/
def places : Nat := 9

/-- The nanoseconds that the digits of a fraction denote. -/
def nanoseconds (digits : List Char) : Nat :=
  ((digits ++ List.replicate places '0').take places).foldl
    (fun n c => n * 10 + Numeral.digitValue c) 0

/-- A time. Second 60 stands for a leap second. -/
def reader : Reader Time := do
  let (hour, minute) ← minutes
  if ← literal? ':' then
    let second ← fixed 2
    guard (second ≤ 60)
    let fraction ← if ← literal? '.' then many1 isAsciiDigit else pure []
    return { hour, minute, second, nanosecond := nanoseconds fraction }
  else return { hour, minute }

/-- The fraction of a second as it is written, which a whole second does without. -/
def fractionText (nanosecond : Nat) : List Char :=
  if nanosecond = 0 then []
  else '.' :: ((padded places nanosecond).reverse.dropWhile (· == '0')).reverse

/-- The time as it is written. -/
def text (time : Time) : List Char :=
  padded 2 time.hour ++ ':' :: padded 2 time.minute ++ ':' :: padded 2 time.second
    ++ fractionText time.nanosecond

end Time

namespace Offset

/-- The minutes of an offset after its sign. -/
def minutes : Reader Int := do
  let (hours, minutes) ← Time.minutes
  return hours * 60 + minutes

/-- An offset, if there is one. -/
def reader : Reader (Option Offset)
  | 'Z' :: rest | 'z' :: rest => some (some universal, rest)
  | '+' :: rest => (minutes rest).map fun (found, rest) => (some (shifted found), rest)
  | '-' :: rest => (minutes rest).map fun (found, rest) => (some (shifted (-found)), rest)
  | rest => some (none, rest)

/-- The offset as it is written. -/
def text : Offset → List Char
  | universal => ['Z']
  | shifted minutes =>
    (if minutes < 0 then '-' else '+') :: padded 2 (minutes.natAbs / 60)
      ++ ':' :: padded 2 (minutes.natAbs % 60)

end Offset

namespace Moment

/-- What stands between a date and its time. -/
def isSeparator (c : Char) : Bool := c == 'T' || c == 't' || c == ' '

/-- The time of a date, if there is one. -/
def timeOf (date : Date) : Reader Moment
  | [] => some (.day date, [])
  | c :: rest =>
    if isSeparator c then
      (do return .both date (← Time.reader) (← Offset.reader) : Reader Moment) rest
    else none

/-- The moment that is written so. -/
def read? (written : List Char) : Option Moment :=
  match ((Date.reader >>= timeOf) <|> .clock <$> Time.reader : Reader Moment) written with
  | some (moment, []) => some moment
  | _ => none

/-- The text of the moment. -/
def text : Moment → String
  | day date => String.ofList date.text
  | clock time => String.ofList time.text
  | both date time offset =>
    String.ofList (date.text ++ 'T' :: time.text ++ (offset.map Offset.text).getD [])

example : (read? "1979-05-27 07:32z".toList).map text = some "1979-05-27T07:32:00Z" ∧
    (read? "07:32:00.50".toList).map text = some "07:32:00.5" ∧
    (read? "1979-02-29".toList).map text = none := by decide +kernel

end Moment

end VisualNovel.Toml
