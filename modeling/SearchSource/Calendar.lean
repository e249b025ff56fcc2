import SearchSource.Text.Digit

/-! Calendar days and moments, and the ISO format. -/
namespace SearchSource
open SearchSource.Text

structure Date where
  year : Nat
  month : Nat
  day : Nat
deriving DecidableEq, Repr

/-- A day and a time of day; the offset from universal time is in microseconds. -/
structure Moment where
  date : Date
  hour : Nat
  minute : Nat
  second : Nat
  microsecond : Nat
  offset : Option Int
deriving DecidableEq, Repr

def padded (width n : Nat) : String :=
  let ds := Nat.toDigits 10 n
  String.ofList (List.replicate (width - ds.length) '0' ++ ds)

namespace Date

def text (d : Date) : String := padded 4 d.year ++ "-" ++ padded 2 d.month ++ "-" ++ padded 2 d.day

def isLeap (year : Nat) : Bool := year % 4 = 0 && (year % 100 ≠ 0 || year % 400 = 0)

def monthLengths (year : Nat) : List Nat :=
  [31, if isLeap year then 29 else 28, 31, 30, 31, 30, 31, 31, 30, 31, 30, 31]

def daysBefore (year month : Nat) : Nat := ((monthLengths year).take (month - 1)).foldr (· + ·) 0

/-- The number of a day, counted from the first day of the first year. -/
def number (d : Date) : Nat :=
  let past := d.year - 1
  365 * past + past / 4 - past / 100 + past / 400 + daysBefore d.year d.month + d.day

def literal (d : Date) : String :=
  "datetime.date(" ++ ", ".intercalate ([d.year, d.month, d.day].map toString) ++ ")"

end Date

namespace Moment

/-- Microseconds of a second, a minute, an hour and a day. -/
def perSecond : Int := 1000000

def perMinute : Int := 60 * perSecond

def perHour : Int := 60 * perMinute

def perDay : Int := 24 * perHour

/-- The microseconds up to a moment as its own clock shows it. -/
def clockTime (m : Moment) : Int :=
  m.date.number * perDay + m.hour * perHour + m.minute * perMinute +
    m.second * perSecond + m.microsecond

/-- Whether two moments are the same: those with an offset by universal time, those without by their
clock, and never one of each kind. -/
def same (m n : Moment) : Bool :=
  match m.offset, n.offset with
  | none, none => m == n
  | some a, some b => m.clockTime - a == n.clockTime - b
  | _, _ => false

def fractionText (microseconds : Nat) : String :=
  if microseconds = 0 then "" else "." ++ padded 6 microseconds

/-- An offset as a sign, hours and minutes, and seconds if there are any. -/
def offsetText (offset : Int) : String :=
  let size := offset.natAbs
  let seconds := size / 1000000
  (if offset < 0 then "-" else "+") ++ padded 2 (seconds / 3600) ++ ":" ++
    padded 2 (seconds / 60 % 60) ++
    (if size % 60000000 = 0 then ""
      else ":" ++ padded 2 (seconds % 60) ++ fractionText (size % 1000000))

/-- The ISO text with a chosen separator; microseconds only if there are any. -/
def text (separator : String) (m : Moment) : String :=
  m.date.text ++ separator ++
    ":".intercalate ([m.hour, m.minute, m.second].map (padded 2)) ++ fractionText m.microsecond ++
    (m.offset.map offsetText).getD ""

/-- A zone by its distance to universal time: whole days, then seconds and microseconds from
there. -/
def zoneLiteral (offset : Int) : String :=
  if offset = 0 then "datetime.timezone.utc"
  else
    let seconds := offset % perDay / perSecond
    let microseconds := offset % perSecond
    let parts := (if offset < 0 then ["days=-1"] else []) ++
      (if seconds = 0 then [] else ["seconds=" ++ toString seconds]) ++
      (if microseconds = 0 then [] else ["microseconds=" ++ toString microseconds])
    "datetime.timezone(datetime.timedelta(" ++ ", ".intercalate parts ++ "))"

/-- Zero microseconds, and then zero seconds, are left out at the end. -/
def literal (m : Moment) : String :=
  let fine := if m.microsecond ≠ 0 then [m.second, m.microsecond]
    else if m.second ≠ 0 then [m.second] else []
  let numbers := [m.date.year, m.date.month, m.date.day, m.hour, m.minute] ++ fine
  "datetime.datetime(" ++ ", ".intercalate (numbers.map toString) ++
    (m.offset.map fun o => ", tzinfo=" ++ zoneLiteral o).getD "" ++ ")"

end Moment
end SearchSource
