import Folio.Text.Entity
import Folio.Text.Quoted
import Folio.Yaml.Problem

/-!
# Dates and times

A scalar may be a date, or a date with a time of day. A time may come with an offset from universal
time; two times with offsets are the same if they name the same instant.
-/

namespace Folio.Yaml

open Folio.Text

/-- A date. -/
structure Date where
  year : Nat
  month : Nat
  day : Nat
  deriving DecidableEq, Repr

/-- A time of day. -/
structure Time where
  hour : Nat
  minute : Nat
  second : Nat
  microsecond : Nat
  deriving DecidableEq, Repr

/-- An offset from universal time. -/
structure Zone where
  /-- The offset in minutes. -/
  offset : Int
  /-- The offset as it is written. -/
  name : String
  deriving DecidableEq, Repr

/-- A date, with a time of day if one is given, and its offset. -/
structure Moment where
  date : Date
  time : Option Time
  zone : Option Zone
  deriving DecidableEq, Repr

/-! ## Calendar -/

/-- Whether a year has 366 days. -/
def isLeap (year : Nat) : Bool := year % 4 = 0 && (year % 100 ≠ 0 || year % 400 = 0)

/-- How many days a month has. -/
def daysIn (year month : Nat) : Nat :=
  if month = 2 then (if isLeap year then 29 else 28)
  else if [4, 6, 9, 11].contains month then 30
  else 31

/-- The last year of the calendar. -/
def lastYear : Nat := 9999

namespace Date

/-- The number of a date among all days, the first of which has the number one. -/
def dayNumber (date : Date) : Nat :=
  let before := date.year - 1
  let months :=
    (List.range (date.month - 1)).foldl (fun days month => days + daysIn date.year (month + 1)) 0
  365 * before + before / 4 - before / 100 + before / 400 + months + date.day

/-- The date of the next day. -/
def next (date : Date) : Date :=
  if date.day < daysIn date.year date.month then { date with day := date.day + 1 }
  else if date.month < 12 then ⟨date.year, date.month + 1, 1⟩
  else ⟨date.year + 1, 1, 1⟩

/-- A date that exists. -/
def check (year month day : Nat) : Except Problem Date :=
  if year = 0 then .error (.badDate .year)
  else if month = 0 ∨ 12 < month then .error (.badDate .month)
  else if day = 0 ∨ daysIn year month < day then .error (.badDate .day)
  else .ok ⟨year, month, day⟩

end Date

namespace Time

/-- The time a second later, and whether it is on the next day. -/
def next (time : Time) : Bool × Time :=
  if time.second < 59 then (false, { time with second := time.second + 1 })
  else if time.minute < 59 then (false, { time with minute := time.minute + 1, second := 0 })
  else if time.hour < 23 then (false, { time with hour := time.hour + 1, minute := 0, second := 0 })
  else (true, { time with hour := 0, minute := 0, second := 0 })

/-- A time of day that exists. -/
def check (hour minute second microsecond : Nat) : Except Problem Time :=
  if 23 < hour then .error (.badDate .hour)
  else if 59 < minute then .error (.badDate .minute)
  else if 59 < second then .error (.badDate .second)
  else .ok ⟨hour, minute, second, microsecond⟩

end Time

/-- The minutes of a day. -/
def minutesPerDay : Nat := 1440

namespace Moment

/-- The minute that a moment lies in, counted in universal time, and the time within it. -/
def instant (moment : Moment) (time : Time) (zone : Zone) : Int × Nat × Nat :=
  let minutes : Int := moment.date.dayNumber * minutesPerDay + time.hour * 60 + time.minute
  (minutes - zone.offset, time.second, time.microsecond)

/-- Whether two moments are the same. One without a time or an offset is never the same as one that
has it. -/
def equals (a b : Moment) : Bool :=
  match a.time, a.zone, b.time, b.zone with
  | some s, some y, some t, some z => a.instant s y = b.instant t z
  | _, _, _, _ => a = b

/-- The moment a second later. -/
def next (moment : Moment) : Except Problem Moment :=
  match moment.time with
  | none => .ok moment
  | some time =>
    let (wraps, time) := time.next
    let date := if wraps then moment.date.next else moment.date
    if lastYear < date.year then .error .lateDate else .ok { moment with date, time := some time }

end Moment

/-! ## Wording -/

/-- A number with at least some digits. -/
def padded (width n : Nat) : String :=
  let digits := toString n
  "".pushn '0' (width - digits.length) ++ digits

/-- An offset as hours and minutes with a sign. -/
def Zone.toText (zone : Zone) : String :=
  let minutes := zone.offset.natAbs
  (if zone.offset < 0 then "-" else "+") ++ padded 2 (minutes / 60) ++ ":" ++
    padded 2 (minutes % 60)

/-- A moment as text. -/
def Moment.toText (moment : Moment) : String :=
  let date :=
    padded 4 moment.date.year ++ "-" ++ padded 2 moment.date.month ++ "-" ++
      padded 2 moment.date.day
  match moment.time with
  | none => date
  | some time =>
    let fraction := if time.microsecond = 0 then "" else "." ++ padded 6 time.microsecond
    date ++ " " ++ padded 2 time.hour ++ ":" ++ padded 2 time.minute ++ ":" ++
      padded 2 time.second ++ fraction ++ ((moment.zone.map Zone.toText).getD "")

/-- Minutes as a span of time, in days and seconds. -/
def spanText (minutes : Int) : String :=
  let days := minutes / minutesPerDay
  let seconds := minutes % minutesPerDay * 60
  let parts :=
    (if days = 0 then [] else ["days=" ++ toString days]) ++
      if seconds = 0 then [] else ["seconds=" ++ toString seconds]
  "datetime.timedelta(" ++ (if parts = [] then "0" else ", ".intercalate parts) ++ ")"

/-- A moment inside a sequence, as messages show it. -/
def Moment.innerText (moment : Moment) : String :=
  let date := [moment.date.year, moment.date.month, moment.date.day]
  let call (name : String) (numbers : List Nat) (zone : String) : String :=
    "datetime." ++ name ++ "(" ++ ", ".intercalate (numbers.map toString) ++ zone ++ ")"
  match moment.time with
  | none => call "date" date ""
  | some time =>
    let behindMinute :=
      if time.microsecond ≠ 0 then [time.second, time.microsecond]
      else if time.second ≠ 0 then [time.second]
      else []
    let zone :=
      match moment.zone with
      | none => ""
      | some zone =>
        ", tzinfo=datetime.timezone(" ++ spanText zone.offset ++ ", " ++ quote zone.name ++ ")"
    call "datetime" (date ++ [time.hour, time.minute] ++ behindMinute) zone

/-! ## Reading -/

/-- The digits at the front of a text, if they are from `least` to `most`. -/
def takeDigits? (least most : Nat) (cs : List Char) : Option (Nat × List Char) :=
  let digits := (cs.take most).takeWhile Char.isDigit
  if least ≤ digits.length then some (numberOf 10 digits, cs.drop digits.length) else none

/-- The text behind a character. -/
def dropChar? (c : Char) : List Char → Option (List Char)
  | d :: cs => if c = d then some cs else none
  | [] => none

/-- The microseconds of a fraction of a second, rounded by the seventh digit; they may be a whole
second. -/
def microseconds (digits : List Char) : Nat :=
  let six := digits.take 6
  let value := numberOf 10 (six ++ List.replicate (6 - six.length) '0')
  if (digits[6]?).any ('4' < ·) then value + 1 else value

/-- The offset at the end of a time; there may be none. -/
def zone? (cs : List Char) : Option (Option Zone) :=
  let name := cs.dropWhile fun c => c = ' ' || c = '\t'
  match name with
  | [] => if cs = [] then some none else none
  | ['Z'] => some (some ⟨0, "Z"⟩)
  | sign :: rest =>
    if sign = '+' ∨ sign = '-' then
      match takeDigits? 1 2 rest with
      | none => none
      | some (hours, rest) =>
        let minutes :=
          match rest with
          | [] => some 0
          | ':' :: rest =>
            match takeDigits? 2 2 rest with
            | some (minutes, []) => some minutes
            | _ => none
          | _ => none
        minutes.map fun minutes =>
          let total : Int := hours * 60 + minutes
          some ⟨if sign = '-' then -total else total, .ofList name⟩
    else none

/-- A time of day as it is written; its microseconds may be a whole second. -/
structure WrittenTime where
  hour : Nat
  minute : Nat
  second : Nat
  microsecond : Nat
  zone : Option Zone

/-- A date and time as they are written. -/
structure WrittenDate where
  year : Nat
  month : Nat
  day : Nat
  time : Option WrittenTime

/-- Read the time behind a date. -/
def writtenTime? (cs : List Char) : Option WrittenTime := do
  let cs ←
    match cs with
    | 'T' :: rest | 't' :: rest => some rest
    | c :: _ =>
      if c = ' ' ∨ c = '\t' then some (cs.dropWhile fun c => c = ' ' || c = '\t') else none
    | [] => none
  let (hour, cs) ← takeDigits? 1 2 cs
  let (minute, cs) ← takeDigits? 2 2 (← dropChar? ':' cs)
  let (second, cs) ← takeDigits? 2 2 (← dropChar? ':' cs)
  let (fraction, cs) :=
    match cs with
    | '.' :: rest => (rest.takeWhile Char.isDigit, rest.dropWhile Char.isDigit)
    | _ => ([], cs)
  return ⟨hour, minute, second, microseconds fraction, ← zone? cs⟩

/-- Read a text that is written like a date. -/
def writtenDate? (cs : List Char) : Option WrittenDate := do
  let (year, rest) ← takeDigits? 4 4 cs
  let (month, rest) ← takeDigits? 1 2 (← dropChar? '-' rest)
  let (day, rest) ← takeDigits? 1 2 (← dropChar? '-' rest)
  if rest = [] then return ⟨year, month, day, none⟩
  else return ⟨year, month, day, some (← writtenTime? rest)⟩

/-- Whether a plain scalar is taken for a date: without a time it has ten characters. -/
def isDate (cs : List Char) : Bool :=
  (writtenDate? cs).any fun written => written.time.isSome || cs.length = 10

/-- An offset of less than a day. -/
def checkZone (zone : Option Zone) : Except Problem Unit :=
  match zone with
  | some zone =>
    if zone.offset.natAbs < minutesPerDay then .ok () else .error (.badDate (.offset zone.offset))
  | none => .ok ()

/-- The moment that is written. -/
def momentOf (written : WrittenDate) : Except Problem Moment := do
  match written.time with
  | none => return ⟨← Date.check written.year written.month written.day, none, none⟩
  | some time =>
    checkZone time.zone
    let date ← Date.check written.year written.month written.day
    let whole : Bool := 1000000 ≤ time.microsecond
    let inDay ← Time.check time.hour time.minute time.second (if whole then 0 else time.microsecond)
    let moment : Moment := ⟨date, some inDay, time.zone⟩
    if whole then moment.next else return moment

end Folio.Yaml
