/-
  FormLogic.Calendar

  Texts that are a date, a time of day, or both.  A date has a year of four
  digits with an optional sign, a month and a day of the month.  With a time
  it may have a fixed distance from universal time; the seconds may then be 60,
  but only in the last minute of a month of universal time.

  Specification, section 4.5: what `date`, `datetime` and `time` fields take.
-/

namespace FormLogic
namespace Calendar

/-! ## Days -/

/-- Whether a year has 366 days. -/
def isLeapYear (year : Int) : Bool :=
  (year % 4 == 0 && year % 100 != 0) || year % 400 == 0

/-- The number of days of a month. -/
def monthLength (year : Int) (month : Nat) : Nat :=
  match month with
  | 2 => if isLeapYear year then 29 else 28
  | 4 => 30
  | 6 => 30
  | 9 => 30
  | 11 => 30
  | _ => 31

/-- A day of the calendar. -/
structure Day where
  year : Int
  month : Nat
  day : Nat
deriving DecidableEq, Repr

namespace Day

/-- Whether there is such a day. -/
def isValid (d : Day) : Bool :=
  -9999 ≤ d.year && d.year ≤ 9999 && 1 ≤ d.month && d.month ≤ 12 && 1 ≤ d.day
    && d.day ≤ monthLength d.year d.month

/-- The day after. -/
def next (d : Day) : Day :=
  if d.day < monthLength d.year d.month then { d with day := d.day + 1 }
  else if d.month < 12 then ⟨d.year, d.month + 1, 1⟩
  else ⟨d.year + 1, 1, 1⟩

/-- The day before. -/
def previous (d : Day) : Day :=
  if 1 < d.day then { d with day := d.day - 1 }
  else if 1 < d.month then ⟨d.year, d.month - 1, monthLength d.year (d.month - 1)⟩
  else ⟨d.year - 1, 12, 31⟩

/-- Whether it is the last day of its month. -/
def endsMonth (d : Day) : Bool := d.isValid && d.day == monthLength d.year d.month

end Day

/-! ## Reading -/

/-- A number of exactly `count` digits, continuing from `acc`. -/
def digits (acc : Nat) : Nat → List Char → Option (Nat × List Char)
  | 0, s => some (acc, s)
  | count + 1, c :: s =>
    if c.isDigit then digits (acc * 10 + (c.toNat - '0'.toNat)) count s else none
  | _ + 1, [] => none

/-- A fixed character. -/
def mark (c : Char) : List Char → Option (List Char)
  | d :: s => if d = c then some s else none
  | [] => none

/-- A month and a day behind a year. -/
def monthAndDay (year : Int) (s : List Char) : Option (Day × List Char) := do
  let s ← mark '-' s
  let (month, s) ← digits 0 2 s
  let s ← mark '-' s
  let (day, s) ← digits 0 2 s
  let d : Day := ⟨year, month, day⟩
  if d.isValid then some (d, s) else none

/-- A day whose year may have a sign. -/
def day (s : List Char) : Option (Day × List Char) :=
  match s with
  | '-' :: r => (digits 0 4 r).bind fun (y, rest) => monthAndDay (-y) rest
  | '+' :: r => (digits 0 4 r).bind fun (y, rest) => monthAndDay y rest
  | r => (digits 0 4 r).bind fun (y, rest) => monthAndDay y rest

/-- An hour and a minute. -/
def hourMinute (s : List Char) : Option (Nat × Nat × List Char) := do
  let (hour, s) ← digits 0 2 s
  let s ← mark ':' s
  let (minute, s) ← digits 0 2 s
  if hour < 24 ∧ minute < 60 then some (hour, minute, s) else none

/-- The seconds behind a minute, up to `most`. -/
def seconds (most : Nat) (s : List Char) : Option (Nat × List Char) := do
  let s ← mark ':' s
  let (second, s) ← digits 0 2 s
  if second ≤ most then some (second, s) else none

/-- What is left behind an optional fraction of a second. -/
def fraction (s : List Char) : Option (List Char) :=
  match s with
  | '.' :: r =>
    match r with
    | c :: _ => if c.isDigit then some (r.dropWhile Char.isDigit) else none
    | [] => none
  | s => some s

/-- The distance from universal time in minutes. -/
def zone (s : List Char) : Option (Int × List Char) :=
  match s with
  | 'Z' :: r => some (0, r)
  | 'z' :: r => some (0, r)
  | '+' :: r => (hourMinute r).map fun (h, m, rest) => ((h * 60 + m : Nat), rest)
  | '-' :: r => (hourMinute r).map fun (h, m, rest) => (-(h * 60 + m : Nat), rest)
  | _ => none

/-- Whether the minute of a local time is the last one of a month of universal time. -/
def endsUniversalMonth (d : Day) (hour minute : Nat) (offset : Int) : Bool :=
  let last : Int := 24 * 60 - 1
  let universal : Int := (hour * 60 + minute : Nat) - offset
  if universal = last then d.endsMonth
  else if universal = last + 24 * 60 then d.next.endsMonth
  else if universal = last - 24 * 60 then d.previous.endsMonth
  else false

/-- A year without a sign, then month and day. -/
def plainDay (s : List Char) : Option (Day × List Char) :=
  (digits 0 4 s).bind fun (y, rest) => monthAndDay y rest

/-! ## Whole texts -/

/-- Whether a text is a date with a time: day, any one separator, time with seconds, and zone. -/
def isDateTime (text : String) : Bool :=
  let found : Option Bool := do
    let (d, s) ← plainDay text.toList
    let s ← match s with
      | c :: r => if c.toNat < 0x80 then some r else none
      | [] => none
    let (hour, minute, s) ← hourMinute s
    let (second, s) ← seconds 60 s
    let s ← fraction s
    let (offset, s) ← zone s
    return s.isEmpty && (second < 60 || endsUniversalMonth d hour minute offset)
  found.getD false

/-- Whether a text is a date. -/
def isDate (text : String) : Bool :=
  match day text.toList with
  | some (_, rest) => rest.isEmpty
  | none => false

/-- Whether characters are a time of day, with or without seconds. -/
def isClockTime (s : List Char) : Bool :=
  match hourMinute s with
  | some (_, _, rest) =>
    rest.isEmpty ||
      match seconds 59 rest with
      | some (_, last) => last.isEmpty
      | none => false
  | none => false

/-- Whether a text is a time of day. -/
def isTime (text : String) : Bool := isClockTime text.toList

/-- Whether a text is a date and a time of day with a `T` between. -/
def isLocalDateTime (text : String) : Bool :=
  match day text.toList with
  | some (_, 'T' :: rest) => isClockTime rest
  | _ => false

end Calendar
end FormLogic
