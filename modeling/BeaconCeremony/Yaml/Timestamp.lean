import BeaconCeremony.Datum.Basic
import BeaconCeremony.Yaml.Cursor

/-!
# Points in time

A date, or a date with a time of day and perhaps an offset, in the notation of YAML.
-/

namespace BeaconCeremony
namespace Yaml

/-- The characters without a line break at the end. -/
def withoutLastBreak (characters : List Char) : List Char :=
  if characters.getLast? = some '\n' then characters.dropLast else characters

/-- A time of day. -/
structure Clock where
  /-- The hour. -/
  hour : Nat
  /-- The minute. -/
  minute : Nat
  /-- The second. -/
  second : Nat
  /-- The microsecond. -/
  microsecond : Nat
  /-- The offset in minutes, if one is given. -/
  offset? : Option Int

/-- A date with or without a time of day. -/
structure Timestamp where
  /-- The year. -/
  year : Nat
  /-- The month. -/
  month : Nat
  /-- The day. -/
  day : Nat
  /-- The time of day. -/
  clock? : Option Clock
  /-- Whether month and day have two digits each. -/
  padded : Bool

namespace Timestamp

/-- The value of a list of digits. -/
def value (digits : List Char) : Nat :=
  digits.foldl (fun value digit => 10 * value + (digit.toNat - '0'.toNat)) 0

/-- Reads from `least` to `greatest` digits, as many as there are. -/
def digits (least greatest : Nat) (characters : List Char) : Option (List Char × List Char) :=
  let run := (characters.take greatest).takeWhile Char.isDigit
  if run.length < least then none else some (run, characters.drop run.length)

/-- Reads a given character. -/
def mark (expected : Char) : List Char → Option (List Char)
  | character :: rest => if character = expected then some rest else none
  | [] => none

/-- The characters after blanks. -/
def skipBlanks (characters : List Char) : List Char :=
  characters.dropWhile fun character => character == ' ' || character == '\t'

/-- Reads what stands between a date and a time of day. -/
def separator : List Char → Option (List Char)
  | 'T' :: rest => some rest
  | 't' :: rest => some rest
  | ' ' :: rest => some (skipBlanks rest)
  | '\t' :: rest => some (skipBlanks rest)
  | _ => none

/-- Reads an offset that takes up all of the characters. -/
def offset (characters : List Char) : Option (Option Int) :=
  match skipBlanks characters with
  | [] => if characters.isEmpty then some none else none
  | ['Z'] => some (some 0)
  | sign :: rest =>
    if sign = '+' ∨ sign = '-' then do
      let (hours, rest) ← digits 1 2 rest
      let (minutes, rest) ←
        if rest.isEmpty then some ([], []) else do digits 2 2 (← mark ':' rest)
      if rest.isEmpty then
        let magnitude : Int := 60 * value hours + value minutes
        some (some (if sign = '-' then -magnitude else magnitude))
      else none
    else none

/-- The microsecond that a fraction of a second stands for; further digits do not count. -/
def microsecond (fraction : List Char) : Nat :=
  value ((fraction ++ List.replicate 6 '0').take 6)

/-- Reads a time of day that takes up all of the characters. -/
def clock (characters : List Char) : Option Clock := do
  let (hour, rest) ← digits 1 2 characters
  let (minute, rest) ← digits 2 2 (← mark ':' rest)
  let (second, rest) ← digits 2 2 (← mark ':' rest)
  let fraction := match rest with
    | '.' :: rest => rest.takeWhile Char.isDigit
    | _ => []
  let rest := match rest with
    | '.' :: rest => rest.dropWhile Char.isDigit
    | rest => rest
  return ⟨value hour, value minute, value second, microsecond fraction, ← offset rest⟩

/-- Reads a timestamp, which may end in a line break. -/
def ofCharacters? (characters : List Char) : Option Timestamp := do
  let (year, rest) ← digits 4 4 (withoutLastBreak characters)
  let (month, rest) ← digits 1 2 (← mark '-' rest)
  let (day, rest) ← digits 1 2 (← mark '-' rest)
  let padded := month.length == 2 && day.length == 2
  if rest.isEmpty then return ⟨value year, value month, value day, none, padded⟩
  else
    let clock ← clock (← separator rest)
    return ⟨value year, value month, value day, some clock, padded⟩

/-- Whether a plain scalar with this content is a timestamp: a date alone needs two digits for the
month and the day. -/
def isPlain (timestamp : Timestamp) : Bool := timestamp.clock?.isSome || timestamp.padded

/-- The number of days of a month. -/
def daysOfMonth (year month : Nat) : Nat :=
  if month = 2 then
    if year % 4 = 0 ∧ (year % 100 ≠ 0 ∨ year % 400 = 0) then 29 else 28
  else if month = 4 ∨ month = 6 ∨ month = 9 ∨ month = 11 then 30
  else 31

/-- What is wrong with the date, if anything is. -/
def dateDefect? (timestamp : Timestamp) : Option String :=
  if timestamp.year = 0 then some "year 0 is out of range"
  else if timestamp.month < 1 ∨ 12 < timestamp.month then some "month must be in 1..12"
  else if timestamp.day < 1 ∨ daysOfMonth timestamp.year timestamp.month < timestamp.day then
    some "day is out of range for month"
  else none

/-- The text of a length of time given in minutes. -/
def durationText (minutes : Int) : String :=
  let days := minutes / 1440
  let seconds := minutes % 1440 * 60
  let parts := (if days = 0 then [] else [s!"days={days}"]) ++
    (if seconds = 0 then [] else [s!"seconds={seconds}"])
  "datetime.timedelta(" ++ (if parts.isEmpty then "0" else ", ".intercalate parts) ++ ")"

/-- What is wrong with the time of day, if anything is. -/
def clockDefect? (clock : Clock) : Option String :=
  if 23 < clock.hour then some "hour must be in 0..23"
  else if 59 < clock.minute then some "minute must be in 0..59"
  else if 59 < clock.second then some "second must be in 0..59"
  else none

/-- What is wrong with an offset, if anything is. -/
def offsetDefect? (minutes : Int) : Option String :=
  if minutes.natAbs < 1440 then none
  else some ("offset must be a timedelta strictly between -timedelta(hours=24) and " ++
    "timedelta(hours=24), not " ++ durationText minutes ++ ".")

/-- The number of days before a date, counted from the start of the calendar. -/
def daysBefore (timestamp : Timestamp) : Nat :=
  let years := timestamp.year - 1
  let months := (List.range timestamp.month).drop 1
  let days := months.foldl (fun days month => days + daysOfMonth timestamp.year month) 0
  365 * years + years / 4 - years / 100 + years / 400 + days + (timestamp.day - 1)

/-- The microseconds from the start of the calendar to a time of a date, without its offset. -/
def instant (timestamp : Timestamp) (clock : Clock) : Int :=
  let minutes : Int := 60 * (24 * timestamp.daysBefore + clock.hour) + clock.minute
  1000000 * (60 * (minutes - clock.offset?.getD 0) + clock.second) + clock.microsecond

/-- The datum of a timestamp. -/
def toDatum (timestamp : Timestamp) : Except ReadError Datum :=
  let defect? :=
    match timestamp.clock? with
    | none => timestamp.dateDefect?
    | some clock =>
      ((clock.offset?.bind offsetDefect?).orElse fun _ => timestamp.dateDefect?).orElse fun _ =>
        clockDefect? clock
  match defect?, timestamp.clock? with
  | some reason, _ => .error (.refused (.value reason))
  | none, some clock => .ok (.moment (timestamp.instant clock) clock.offset?.isSome)
  | none, none => .ok (.date timestamp.year timestamp.month timestamp.day)

end Timestamp
end Yaml
end BeaconCeremony
