/-!
# Calendar time

Seconds since the start of 1970 (UTC) as a date and a time of day, and the formats of
`strftime` in the C locale, which `printf '%(format)T'` uses.

A count of days becomes a date by the proleptic Gregorian calendar, counted in eras of
400 years (146097 days) that start on the first of March, so that the leap day ends a
year: the day within the era gives the year within it, the day within that year gives
the month by the five-month rhythm of 153 days, and the rest the day.
-/

namespace BuildWorker.Text

/-- A moment as its calendar parts. -/
structure CivilTime where
  year : Int
  /-- From 1. -/
  month : Nat
  /-- From 1. -/
  day : Nat
  hour : Nat
  minute : Nat
  second : Nat
  /-- From 0 for Sunday. -/
  weekday : Nat
  /-- From 0 for the first of January. -/
  yearDay : Nat
  /-- The seconds since 1970 it was made from. -/
  epoch : Int
  deriving Repr, Inhabited

/-- Whether a year has a leap day. -/
def isLeapYear (y : Int) : Bool :=
  (y % 4 == 0 && y % 100 != 0) || y % 400 == 0

/-- The date of a day counted from 1970-01-01: year, month and day. -/
def civilOfDays (days : Int) : Int × Nat × Nat :=
  let z := days + 719468
  let era := (if z ≥ 0 then z else z - 146096) / 146097
  let dayOfEra := z - era * 146097
  let yearOfEra := (dayOfEra - dayOfEra / 1460 + dayOfEra / 36524 - dayOfEra / 146096) / 365
  let dayOfYear := dayOfEra - (365 * yearOfEra + yearOfEra / 4 - yearOfEra / 100)
  let monthIndex := (5 * dayOfYear + 2) / 153
  let day := dayOfYear - (153 * monthIndex + 2) / 5 + 1
  let month := if monthIndex < 10 then monthIndex + 3 else monthIndex - 9
  let year := yearOfEra + era * 400 + (if month ≤ 2 then 1 else 0)
  (year, month.toNat, day.toNat)

/-- The days in the months of a year before a month. -/
def daysBeforeMonth (leap : Bool) (month : Nat) : Nat :=
  let lengths := [31, if leap then 29 else 28, 31, 30, 31, 30, 31, 31, 30, 31, 30, 31]
  (lengths.take (month - 1)).foldl (· + ·) 0

/-- The calendar parts of a moment. -/
def CivilTime.ofEpoch (secs : Int) : CivilTime :=
  let days := if secs ≥ 0 then secs / 86400 else -((-secs + 86399) / 86400)
  let inDay := (secs - days * 86400).toNat
  let (year, month, day) := civilOfDays days
  let weekday := ((days % 7 + 11) % 7).toNat
  { year, month, day, hour := inDay / 3600, minute := inDay / 60 % 60, second := inDay % 60,
    weekday, yearDay := daysBeforeMonth (isLeapYear year) month + day - 1, epoch := secs }

/-- The names of the days, from Sunday. -/
def weekdayNames : List String :=
  ["Sunday", "Monday", "Tuesday", "Wednesday", "Thursday", "Friday", "Saturday"]

/-- The names of the months. -/
def monthNames : List String :=
  ["January", "February", "March", "April", "May", "June", "July", "August", "September",
    "October", "November", "December"]

/-- A number in decimal, padded on the left to a width with a character. -/
def padded (pad : Char) (width : Nat) (n : Int) : String :=
  let digits := toString n.natAbs
  let sign := if n < 0 then "-" else ""
  sign ++ String.ofList (List.replicate (width - min width (digits.length + sign.length)) pad) ++ digits

/-- The ISO 8601 week-numbering year and week of a moment. -/
def CivilTime.isoWeek (t : CivilTime) : Int × Nat :=
  -- the Thursday of the week decides its year
  let mondayBased := (t.weekday + 6) % 7
  let thursday : Int := Int.ofNat t.yearDay - mondayBased + 3
  let yearLength (y : Int) : Int := if isLeapYear y then 366 else 365
  if thursday < 0 then
    let before := yearLength (t.year - 1)
    (t.year - 1, ((thursday + before) / 7).toNat + 1)
  else if thursday ≥ yearLength t.year then (t.year + 1, 1)
  else (t.year, (thursday / 7).toNat + 1)

/-- The text of one conversion of `strftime`, without padding: its digits and the
width and pad its numbers take by default, or a text. -/
inductive TimeField where
  | number (n : Int) (width : Nat) (pad : Char)
  | text (s : String)

/-- What a conversion letter stands for, if it is one. -/
def CivilTime.field? (t : CivilTime) : Char → Option TimeField
  | 'Y' => some (.number t.year 1 '0')
  | 'C' => some (.number (t.year / 100) 2 '0')
  | 'y' => some (.number (t.year % 100) 2 '0')
  | 'm' => some (.number t.month 2 '0')
  | 'd' => some (.number t.day 2 '0')
  | 'e' => some (.number t.day 2 ' ')
  | 'H' => some (.number t.hour 2 '0')
  | 'k' => some (.number t.hour 2 ' ')
  | 'I' => some (.number (if t.hour % 12 == 0 then 12 else t.hour % 12) 2 '0')
  | 'l' => some (.number (if t.hour % 12 == 0 then 12 else t.hour % 12) 2 ' ')
  | 'M' => some (.number t.minute 2 '0')
  | 'S' => some (.number t.second 2 '0')
  | 'j' => some (.number (t.yearDay + 1) 3 '0')
  | 'u' => some (.number (if t.weekday == 0 then 7 else t.weekday) 1 '0')
  | 'w' => some (.number t.weekday 1 '0')
  | 'U' => some (.number ((t.yearDay + 7 - t.weekday) / 7) 2 '0')
  | 'W' => some (.number ((t.yearDay + 7 - (t.weekday + 6) % 7) / 7) 2 '0')
  | 'V' => some (.number t.isoWeek.2 2 '0')
  | 'G' => some (.number t.isoWeek.1 1 '0')
  | 'g' => some (.number (t.isoWeek.1 % 100) 2 '0')
  | 's' => some (.number t.epoch 1 '0')
  | 'a' => some (.text (String.ofList ((weekdayNames.getD t.weekday "").toList.take 3)))
  | 'A' => some (.text (weekdayNames.getD t.weekday ""))
  | 'b' | 'h' => some (.text (String.ofList ((monthNames.getD (t.month - 1) "").toList.take 3)))
  | 'B' => some (.text (monthNames.getD (t.month - 1) ""))
  | 'p' => some (.text (if t.hour < 12 then "AM" else "PM"))
  | 'P' => some (.text (if t.hour < 12 then "am" else "pm"))
  | 'Z' => some (.text "UTC")
  | 'z' => some (.text "+0000")
  | 'n' => some (.text "\n")
  | 't' => some (.text "\t")
  | '%' => some (.text "%")
  | _ => none

/-- The conversions that stand for a whole format of others. -/
def compositeFormat : Char → Option String
  | 'D' | 'x' => some "%m/%d/%y"
  | 'F' => some "%Y-%m-%d"
  | 'T' | 'X' => some "%H:%M:%S"
  | 'R' => some "%H:%M"
  | 'r' => some "%I:%M:%S %p"
  | 'c' => some "%a %b %e %H:%M:%S %Y"
  | _ => none

/-- Writes a moment by a format of `strftime`: `%` and a letter, after optional flags
(`-` no padding, `_` spaces, `0` zeros, `^` capitals, `#` the other case) and a width.
A sequence that is no conversion is written as it stands; `composite` gives the text of
the letters that stand for a whole format. -/
def walkTimeFormat (t : CivilTime) (composite : Char → Option String) : Nat → List Char → String
  | 0, _ => ""
  | _ + 1, [] => ""
  | fuel + 1, '%' :: rest =>
      let flags := rest.takeWhile fun c => "-_0^#".toList.contains c
      let afterFlags := rest.drop flags.length
      let widthDigits := afterFlags.takeWhile Char.isDigit
      let afterWidth := afterFlags.drop widthDigits.length
      let width := (String.ofList widthDigits).toNat?
      match afterWidth with
      | [] => "%" ++ String.ofList rest
      | letter :: more =>
          let body : Option String :=
            match composite letter with
            | some s => some s
            | none =>
                (t.field? letter).map fun
                  | .number n w pad =>
                      let pad := if flags.contains '_' then ' ' else if flags.contains '0' then '0' else pad
                      if flags.contains '-' then toString n
                      else padded pad (width.getD w) n
                  | .text s =>
                      let s := if flags.contains '^' then s.toUpper
                        else if flags.contains '#' then
                          (if letter == 'p' || letter == 'Z' then s.toLower else s.toUpper)
                        else s
                      match width with
                      | some w => String.ofList (List.replicate (w - min w s.length) ' ') ++ s
                      | none => s
          match body with
          | some s => s ++ walkTimeFormat t composite fuel more
          | none => "%" ++ String.ofList (flags ++ widthDigits) ++ letter.toString ++ walkTimeFormat t composite fuel more
  | fuel + 1, c :: rest => c.toString ++ walkTimeFormat t composite fuel rest

/-- Writes the moment some seconds after the start of 1970 by a format of `strftime`. -/
def formatEpoch (format : String) (secs : Int) : String :=
  let t := CivilTime.ofEpoch secs
  let composite (letter : Char) : Option String :=
    (compositeFormat letter).map fun f => walkTimeFormat t (fun _ => none) (f.length + 1) f.toList
  walkTimeFormat t composite (format.length + 1) format.toList

end BuildWorker.Text
