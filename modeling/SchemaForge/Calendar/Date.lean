/-! Days and dates of the proleptic Gregorian calendar. Day 0 is the first of January 1970. -/

namespace SchemaForge.Calendar

structure Date where
  year : Int
  month : Nat
  day : Nat
  deriving DecidableEq, Repr, Inhabited

def isLeap (year : Int) : Bool := year % 4 == 0 && (year % 100 != 0 || year % 400 == 0)

def monthLength (year : Int) (month : Nat) : Nat :=
  if month = 2 then if isLeap year then 29 else 28
  else if month = 4 || month = 6 || month = 9 || month = 11 then 30
  else 31

def Date.valid (d : Date) : Bool :=
  decide (1 ≤ d.month) && decide (d.month ≤ 12) && decide (1 ≤ d.day) &&
    decide (d.day ≤ monthLength d.year d.month)

/-- Years that start in March end in the leap day; this is the count of days before one of them. -/
def marchYearStart (year : Int) : Int := 365 * year + year / 4 - year / 100 + year / 400

def marchMonthStart (month : Int) : Int := (153 * month + 2) / 5

/-- The days from the first of March of year 0 to the first of January 1970. -/
def epoch : Int := 719468

def Date.toDay (d : Date) : Int :=
  let early := decide (d.month ≤ 2)
  let year := if early then d.year - 1 else d.year
  let month : Int := if early then (d.month : Int) + 9 else (d.month : Int) - 3
  marchYearStart year + marchMonthStart month + ((d.day : Int) - 1) - epoch

/-- The March year that a count of days from the first of March of year 0 lies in, counted within
its four centuries. -/
def yearOfEra (dayOfEra : Int) : Int :=
  (dayOfEra - dayOfEra / 1460 + dayOfEra / 36524 - dayOfEra / 146096) / 365

def Date.ofDay (day : Int) : Date :=
  let n := day + epoch
  let era := n / 146097
  let dayOfEra := n % 146097
  let year := yearOfEra dayOfEra
  let dayOfYear := dayOfEra - (365 * year + year / 4 - year / 100)
  let month := (5 * dayOfYear + 2) / 153
  let early := decide (10 ≤ month)
  ⟨year + era * 400 + (if early then 1 else 0), (if early then month - 9 else month + 3).toNat,
    (dayOfYear - marchMonthStart month + 1).toNat⟩

end SchemaForge.Calendar
