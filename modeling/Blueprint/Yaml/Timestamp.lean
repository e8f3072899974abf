import Blueprint.Text.Trim

/-!
Dates and points in time as YAML scalars write them. A text may have the form of one and name no
day or no time that exists.
-/
set_option autoImplicit false

namespace Blueprint.Yaml

/-- A time of day and the distance of its zone from the universal time. -/
structure TimeOfDay where
  hour : Nat
  minute : Nat
  second : Nat
  /-- Minutes from the universal time, to either side. -/
  offset : Nat

/-- A date, and a time of day unless the whole day is meant. -/
structure Timestamp where
  year : Nat
  month : Nat
  day : Nat
  time : Option TimeOfDay

/-- Whether a time of day exists: a zone is less than a day away from the universal time. -/
def TimeOfDay.occurs (time : TimeOfDay) : Bool :=
  time.hour < 24 && time.minute < 60 && time.second < 60 && time.offset < 24 * 60

namespace Timestamp

def number (digits : List Char) : Nat :=
  digits.foldl (fun total digit => 10 * total + (digit.toNat - 0x30)) 0

/-- The number that some digits write, if their count is within bounds. -/
def digits? (least most : Nat) (text : List Char) : Option Nat :=
  if text.all Char.isDigit && least ≤ text.length && text.length ≤ most then some (number text)
  else none

/-- The distance of a zone in minutes: a letter for the universal time, or a sign, hours and perhaps
minutes. -/
def zone? : List Char → Option Nat
  | ['Z'] => some 0
  | sign :: rest =>
    if sign == '+' || sign == '-' then
      match Text.splitChars ':' rest with
      | [hours] => (digits? 1 2 hours).map (60 * ·)
      | [hours, minutes] => do return 60 * (← digits? 1 2 hours) + (← digits? 2 2 minutes)
      | _ => none
    else none
  | [] => none

def isGap (c : Char) : Bool := c == ' ' || c == '\t'

/-- What may follow the seconds: a fraction, and a zone after blanks. Delivers the distance of the
zone. -/
def afterSeconds? (text : List Char) : Option Nat :=
  let text := match text with
    | '.' :: fraction => fraction.dropWhile Char.isDigit
    | _ => text
  if text.isEmpty then some 0 else zone? (text.dropWhile isGap)

/-- A time of day, from the character after the day on. -/
def time? (text : List Char) : Option TimeOfDay := do
  let clock ← match text with
    | 'T' :: clock | 't' :: clock => some clock
    | c :: rest => if isGap c then some (rest.dropWhile isGap) else none
    | [] => none
  match Text.splitChars ':' clock with
  | hour :: minute :: second :: zone =>
    let rest := List.intercalate [':'] (second :: zone)
    let seconds := rest.take 2
    return {
      hour := ← digits? 1 2 hour
      minute := ← digits? 2 2 minute
      second := ← digits? 2 2 seconds
      offset := ← afterSeconds? (rest.drop 2) }
  | _ => none

def ofText? (text : List Char) : Option Timestamp := do
  match Text.splitChars '-' text with
  | year :: month :: more =>
    let rest := List.intercalate ['-'] more
    let day := rest.takeWhile Char.isDigit
    let after := rest.drop day.length
    return {
      year := ← digits? 4 4 year
      month := ← digits? 1 2 month
      day := ← digits? 1 2 day
      time := ← if after.isEmpty then some none else (time? after).map some }
  | _ => none

/-- Reads plain text that is a timestamp: there a date alone has two digits for the month and two for
the day. -/
def ofPlain? (text : List Char) : Option Timestamp :=
  (ofText? text).filter fun timestamp => timestamp.time.isSome || text.length == 10

def daysIn (year month : Nat) : Nat :=
  if month == 2 then
    if year % 4 == 0 && (year % 100 != 0 || year % 400 == 0) then 29 else 28
  else if month == 4 || month == 6 || month == 9 || month == 11 then 30
  else 31

/-- Whether a point in time exists. Years are counted from one. -/
def occurs (timestamp : Timestamp) : Bool :=
  1 ≤ timestamp.year && 1 ≤ timestamp.month && timestamp.month ≤ 12
    && 1 ≤ timestamp.day && timestamp.day ≤ daysIn timestamp.year timestamp.month
    && (timestamp.time.map TimeOfDay.occurs).getD true

end Timestamp

end Blueprint.Yaml
