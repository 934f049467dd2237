import PodRunner.Text.Blank

/-!
# Timestamps

Moments with a resolution of one second.  `Timestamp.parse` reads a date, a time and an offset from
universal time, with white space allowed between their parts; `Timestamp.text` writes the moment in
universal time.
-/

namespace PodRunner

/-- Why a text is no timestamp. -/
inductive TimestampFault where
  | tooShort
  | tooLong
  | invalid
  | outOfRange
  /-- There is no such moment in universal time. -/
  | impossible
  deriving DecidableEq

def TimestampFault.message : TimestampFault → String
  | tooShort => "premature end of input"
  | tooLong => "trailing input"
  | invalid => "input contains invalid characters"
  | outOfRange => "input is out of range"
  | impossible => "no possible date and time matching input"

/-! ## The calendar -/

namespace Calendar

def isLeapYear (year : Int) : Bool := year % 4 = 0 && (year % 100 ≠ 0 || year % 400 = 0)

/-- The number of days of a month, 1 to 12. -/
def daysInMonth (year : Int) (month : Nat) : Nat :=
  if month = 2 then (if isLeapYear year then 29 else 28)
  else if [4, 6, 9, 11].contains month then 30
  else 31

/-- The number of days from the first day of 1970 to a day.  Years are counted from March, so that
the day that only some years have is the last of its year. -/
def dayNumber (year : Int) (month day : Nat) : Int :=
  let y := if month ≤ 2 then year - 1 else year
  let era := y / 400
  let yearOfEra := y - era * 400
  let dayOfYear : Int := (153 * ((month + 9) % 12) + 2) / 5 + day - 1
  era * 146097 + yearOfEra * 365 + yearOfEra / 4 - yearOfEra / 100 + dayOfYear - 719468

/-- The year, month and day of a day number. -/
def date (number : Int) : Int × Nat × Nat :=
  let n := number + 719468
  let era := n / 146097
  let dayOfEra := n - era * 146097
  let yearOfEra :=
    (dayOfEra - dayOfEra / 1460 + dayOfEra / 36524 - dayOfEra / 146096) / 365
  let dayOfYear := (dayOfEra - (365 * yearOfEra + yearOfEra / 4 - yearOfEra / 100)).toNat
  let m := (5 * dayOfYear + 2) / 153
  let month := if m < 10 then m + 3 else m - 9
  let year := yearOfEra + era * 400
  (if month ≤ 2 then year + 1 else year, month, dayOfYear - (153 * m + 2) / 5 + 1)

end Calendar

/-- A moment. -/
structure Timestamp where
  /-- The number of seconds since the beginning of 1970 in universal time. -/
  seconds : Int
  /-- The moment is in the leap second that follows. -/
  leap : Bool := false
  deriving DecidableEq

namespace Timestamp

/-! ## Writing -/

/-- A number with `width` digits at least. -/
def padded (width n : Nat) : String :=
  let digits := toString n
  String.ofList (List.replicate (width - digits.length) '0') ++ digits

/-- Years of four digits have no sign. -/
def yearText (year : Int) : String :=
  if 0 ≤ year ∧ year ≤ 9999 then padded 4 year.toNat
  else (if year < 0 then "-" else "+") ++ padded 4 year.natAbs

/-- The moment in universal time. -/
def text (t : Timestamp) : String :=
  let (year, month, day) := Calendar.date (t.seconds / 86400)
  let s := (t.seconds % 86400).toNat
  yearText year ++ "-" ++ padded 2 month ++ "-" ++ padded 2 day ++ "T" ++ padded 2 (s / 3600) ++
    ":" ++ padded 2 (s / 60 % 60) ++ ":" ++ padded 2 (s % 60 + (if t.leap then 1 else 0)) ++ "Z"

/-! ## Reading -/

/-- Reads a part of a text from its beginning and leaves the rest. -/
abbrev Reader (α : Type) := StateT (List Char) (Except TimestampFault) α

namespace Reader

def fail {α : Type} (f : TimestampFault) : Reader α := throw f

def skipSpace : Reader Unit := modify (·.dropWhile Blank.isBlank)

/-- One given character. -/
def mark (c : Char) : Reader Unit := do
  match ← get with
  | [] => fail .tooShort
  | x :: rest => if x = c then set rest else fail .invalid

/-- A number of at most `width` digits, if there is a limit; it must fit in 64 bits. -/
def number (width : Option Nat) : Reader Int := do
  let cs ← get
  let digits := (match width with
    | some w => cs.take w
    | none => cs).takeWhile Char.isDigit
  if cs.isEmpty then fail .tooShort
  else if digits.isEmpty then fail .invalid
  else
    let n : Int := digits.foldl (fun n c => 10 * n + (c.toNat - '0'.toNat)) 0
    if n < Nat.pow 2 63 then
      set (cs.drop digits.length)
      return n
    else fail .outOfRange

/-- A number with at most two digits that is within bounds. -/
def field (low high : Nat) : Reader Nat := do
  skipSpace
  let n ← number (some 2)
  if low ≤ n ∧ n ≤ high then return n.toNat else fail .outOfRange

/-- A year has at most four digits, or a sign. -/
def year : Reader Int := do
  skipSpace
  let n ← match ← get with
    | '-' :: rest => do
      set rest
      return -(← number none)
    | '+' :: rest => do
      set rest
      number none
    | _ => number (some 4)
  if -Int.pow 2 31 ≤ n ∧ n < Int.pow 2 31 then return n else fail .outOfRange

/-- The part of a second after a point, which does not count. -/
def fraction : Reader Unit := do
  if let '.' :: rest ← get then
    set rest
    let _ ← number (some 9)
    modify (·.dropWhile Char.isDigit)

/-- Two digits. -/
def twoDigits : Reader (Nat × Nat) := do
  let cs ← get
  match cs with
  | a :: b :: rest =>
    if a.isDigit ∧ b.isDigit then
      set rest
      return (a.toNat - '0'.toNat, b.toNat - '0'.toNat)
    else fail .invalid
  | [a] => if a.utf8Size < 2 then fail .tooShort else fail .invalid
  | [] => fail .tooShort

/-- An offset from universal time in seconds: hours and minutes with a sign, or the name of
universal time. -/
def offset : Reader Int := do
  let cs ← get
  if (cs.take 3).map Char.toLower = ['u', 't', 'c'] then
    set (cs.drop 3)
    return 0
  match cs with
  | [] => fail .tooShort
  | c :: rest =>
    set rest
    if c = 'Z' ∨ c = 'z' then return 0
    if ¬ (c = '+' ∨ c = '-' ∨ c = '−') then fail .invalid
    let (h, h') ← twoDigits
    modify (·.dropWhile fun x => x = ':' || Blank.isBlank x)
    let (m, m') ← twoDigits
    if 6 ≤ m then fail .outOfRange
    let n : Int := (10 * h + h') * 3600 + (10 * m + m') * 60
    return if c = '+' then n else -n

/-- The seconds of a time of day, and whether it is in a leap second. -/
def timeOfDay : Reader (Nat × Bool) := do
  let hour ← field 0 23
  skipSpace
  mark ':'
  let minute ← field 0 59
  skipSpace
  mark ':'
  let second ← field 0 60
  fraction
  skipSpace
  return (hour * 3600 + minute * 60 + min second 59, second = 60)

/-- A date as year, month and day, of which the day need not be there in the month. -/
def date : Reader (Int × Nat × Nat) := do
  let year ← year
  skipSpace
  mark '-'
  let month ← field 1 12
  skipSpace
  mark '-'
  return (year, month, ← field 1 31)

/-- What stands between a date and a time. -/
def separator : Reader Unit := do
  match ← get with
  | [] => fail .tooShort
  | c :: rest => if c = 'T' ∨ c = 't' ∨ c = ' ' then set rest else fail .invalid

/-- The years that are known. -/
def leastYear : Int := -262143

def greatestYear : Int := 262142

/-- A timestamp that ends the text. -/
def timestamp : Reader Timestamp := do
  let (year, month, day) ← date
  separator
  let (time, leap) ← timeOfDay
  let offset ← offset
  skipSpace
  if !(← get).isEmpty then fail .tooLong
  if year < leastYear ∨ greatestYear < year ∨ Calendar.daysInMonth year month < day then
    fail .outOfRange
  if 86400 ≤ offset.natAbs then fail .outOfRange
  let seconds := Calendar.dayNumber year month day * 86400 + time - offset
  if seconds < Calendar.dayNumber leastYear 1 1 * 86400 ∨
      Calendar.dayNumber (greatestYear + 1) 1 1 * 86400 ≤ seconds then fail .impossible
  return ⟨seconds, leap⟩

end Reader

/-- The moment that a text gives. -/
def parse (s : String) : Except TimestampFault Timestamp := Reader.timestamp.run' s.toList

end Timestamp

end PodRunner
