/-
  Dates and times of the day.

  A timestamp is a year, a month and a day between hyphens. A time of the day may follow:
  hours, minutes and seconds between colons, possibly a fraction, and possibly the offset of
  its place from universal time. Not every timestamp that is written so exists.
-/
import PropTutor.Text.Digit

namespace PropTutor.Yaml

/-- A day of the calendar. -/
structure Date where
  year : Nat
  month : Nat
  day : Nat
  deriving DecidableEq

/-- A time of the day. The offset from universal time is in minutes, if it is known. -/
structure Clock where
  hour : Nat
  minute : Nat
  second : Nat
  microsecond : Nat
  offset : Option Int
  deriving DecidableEq

/-! ## Reading -/

/-- The number that the digits at the head of a text spell, and what follows them. There have
    to be `least` digits, and `most` are taken. -/
def takeNumber? (least most : Nat) (cs : List Char) : Option (Nat × List Char) :=
  let ds := (cs.take most).takeWhile Char.isDigit
  if ds.length < least then none else some (Text.digitsValue ds, cs.drop ds.length)

/-- What follows a character. -/
def behind? (c : Char) : List Char → Option (List Char)
  | d :: cs => if d == c then some cs else none
  | [] => none

/-- A text without the line feed at its end; a line feed alone stays. -/
def dropFinalBreak (cs : List Char) : List Char :=
  if 1 < cs.length && cs.getLast? == some '\n' then cs.dropLast else cs

/-- The character is a space or a tab. -/
def isSpacing (c : Char) : Bool := c == ' ' || c == '\t'

/-- The offset at the end of a time: nothing, the letter `Z`, or a sign, hours and possibly
    minutes. -/
def readOffset? (cs : List Char) : Option (Option Int) :=
  match cs.dropWhile isSpacing with
  | [] => if cs.isEmpty then some none else none
  | ['Z'] => some (some 0)
  | sign :: rest =>
    if sign == '+' || sign == '-' then do
      let (hours, rest) ← takeNumber? 1 2 rest
      let (minutes, rest) ← match rest with
        | ':' :: rest => takeNumber? 2 2 rest
        | _ => some (0, rest)
      let n : Int := 60 * hours + minutes
      if rest.isEmpty then some (some (if sign == '-' then -n else n)) else none
    else none

/-- A time of the day. Of a fraction, six digits count. -/
def Clock.read? (cs : List Char) : Option Clock := do
  let (hour, cs) ← takeNumber? 1 2 cs
  let (minute, cs) ← takeNumber? 2 2 (← behind? ':' cs)
  let (second, cs) ← takeNumber? 2 2 (← behind? ':' cs)
  let (fraction, cs) := match cs with
    | '.' :: cs => cs.span Char.isDigit
    | _ => ([], cs)
  let microsecond := Text.digitsValue ((fraction ++ List.replicate 6 '0').take 6)
  return ⟨hour, minute, second, microsecond, ← readOffset? cs⟩

/-- A day, and behind it a letter `T` or blanks and a time of the day, if there is one. -/
def readTimestamp? (cs : List Char) : Option (Date × Option Clock) := do
  let (year, cs) ← takeNumber? 4 4 cs
  let (month, cs) ← takeNumber? 1 2 (← behind? '-' cs)
  let (day, cs) ← takeNumber? 1 2 (← behind? '-' cs)
  match cs with
  | [] => return (⟨year, month, day⟩, none)
  | c :: rest =>
    let time ← if c == 'T' || c == 't' then some rest
      else if isSpacing c then some (rest.dropWhile isSpacing) else none
    return (⟨year, month, day⟩, some (← Clock.read? time))

/-! ## Existence -/

/-- What keeps a timestamp from existing. -/
inductive TimestampFault where
  | year
  | month
  | day
  | hour
  | minute
  | second
  | offset (minutes : Int)
  deriving DecidableEq

/-- The number of days in a month. -/
def daysIn (year month : Nat) : Nat :=
  if month == 2 then
    if year % 4 == 0 && (year % 100 != 0 || year % 400 == 0) then 29 else 28
  else if [4, 6, 9, 11].contains month then 30 else 31

/-- What is wrong with a day. -/
def Date.fault? (d : Date) : Option TimestampFault :=
  if d.year == 0 then some .year
  else if d.month == 0 || 12 < d.month then some .month
  else if d.day == 0 || daysIn d.year d.month < d.day then some .day
  else none

/-- What is wrong with an offset, which has to be less than a day. -/
def offsetFault? : Option Int → Option TimestampFault
  | some minutes => if 1440 ≤ minutes.natAbs then some (.offset minutes) else none
  | none => none

/-- What is wrong with the rest of a time. -/
def Clock.fault? (c : Clock) : Option TimestampFault :=
  if 23 < c.hour then some .hour
  else if 59 < c.minute then some .minute
  else if 59 < c.second then some .second
  else none

/-- What is wrong with a timestamp; its offset is looked at first. -/
def timestampFault? (d : Date) : Option Clock → Option TimestampFault
  | none => d.fault?
  | some c => (offsetFault? c.offset).or (d.fault?.or c.fault?)

/-! ## Texts -/

/-- A number with zeros in front of it up to a width. -/
def padded (width n : Nat) : String :=
  let ds := toString n
  String.ofList (List.replicate (width - ds.length) '0') ++ ds

/-- The form of a duration in messages: whole days, which may be negative, and seconds. -/
def durationText (minutes : Int) : String :=
  let days := minutes / 1440
  let seconds := minutes % 1440 * 60
  let parts := (if days == 0 then [] else ["days=" ++ toString days])
    ++ if seconds == 0 then [] else ["seconds=" ++ toString seconds]
  "datetime.timedelta(" ++ (if parts.isEmpty then "0" else ", ".intercalate parts) ++ ")"

/-- The wording of a fault. -/
def TimestampFault.message : TimestampFault → String
  | year => "year 0 is out of range"
  | month => "month must be in 1..12"
  | day => "day is out of range for month"
  | hour => "hour must be in 0..23"
  | minute => "minute must be in 0..59"
  | second => "second must be in 0..59"
  | offset minutes =>
      "offset must be a timedelta strictly between -timedelta(hours=24) and "
        ++ "timedelta(hours=24), not " ++ durationText minutes ++ "."

/-- The text of a day. -/
def Date.text (d : Date) : String :=
  padded 4 d.year ++ "-" ++ padded 2 d.month ++ "-" ++ padded 2 d.day

/-- The parts of a day as a message lists them. -/
def Date.parts (d : Date) : List String := [toString d.year, toString d.month, toString d.day]

/-- The form of a day inside a message. -/
def Date.display (d : Date) : String := "datetime.date(" ++ ", ".intercalate d.parts ++ ")"

/-- The text of an offset. -/
def offsetText (minutes : Int) : String :=
  (if minutes < 0 then "-" else "+") ++ padded 2 (minutes.natAbs / 60) ++ ":"
    ++ padded 2 (minutes.natAbs % 60)

/-- The text of a time. -/
def Clock.text (c : Clock) : String :=
  padded 2 c.hour ++ ":" ++ padded 2 c.minute ++ ":" ++ padded 2 c.second
    ++ (if c.microsecond == 0 then "" else "." ++ padded 6 c.microsecond)
    ++ (c.offset.map offsetText).getD ""

/-- The form of an offset inside a message. -/
def offsetDisplay (minutes : Int) : String :=
  if minutes == 0 then "datetime.timezone.utc"
  else "datetime.timezone(" ++ durationText minutes ++ ")"

/-- The parts of a time as a message lists them: seconds and their fraction are left out
    where they are zero. -/
def Clock.parts (c : Clock) : List String :=
  let fine :=
    if c.microsecond != 0 then [toString c.second, toString c.microsecond]
    else if c.second != 0 then [toString c.second]
    else []
  [toString c.hour, toString c.minute] ++ fine
    ++ (c.offset.map fun m => "tzinfo=" ++ offsetDisplay m).toList

/-- The form of a day and a time inside a message. -/
def momentDisplay (d : Date) (c : Clock) : String :=
  "datetime.datetime(" ++ ", ".intercalate (d.parts ++ c.parts) ++ ")"

/-! ## Moments -/

/-- The number of days before this one, counted from the first day of the year one. -/
def Date.ordinal (d : Date) : Nat :=
  let y := d.year - 1
  let months := List.range (d.month - 1)
  365 * y + y / 4 - y / 100 + y / 400
    + months.foldl (fun n m => n + daysIn d.year (m + 1)) 0 + (d.day - 1)

/-- The microseconds on the clock's own scale. -/
def momentAt (d : Date) (c : Clock) : Int :=
  (((d.ordinal * 24 + c.hour) * 60 + c.minute - c.offset.getD 0) * 60 + c.second) * 1000000
    + c.microsecond

/-- Two moments are the same: both clocks know their offset, or neither does. -/
def sameMoment (d : Date) (c : Clock) (d' : Date) (c' : Clock) : Bool :=
  c.offset.isSome == c'.offset.isSome && momentAt d c == momentAt d' c'

end PropTutor.Yaml
