/-!
The proleptic Gregorian calendar: days counted from 1970-01-01 and back, days of the week, days of
the year and weeks.
-/

namespace EdgeCache.Calendar

structure Date where
  year : Int
  month : Nat
  day : Nat
  deriving Repr, DecidableEq

def isLeap (y : Int) : Bool := y % 4 == 0 && (y % 100 != 0 || y % 400 == 0)

def daysOfMonth (y : Int) (m : Nat) : Nat :=
  if m = 2 then (if isLeap y then 29 else 28)
  else if m = 4 ∨ m = 6 ∨ m = 9 ∨ m = 11 then 30
  else 31

def Date.isValid (d : Date) : Bool :=
  1 ≤ d.month && d.month ≤ 12 && 1 ≤ d.day && d.day ≤ daysOfMonth d.year d.month

/-- Days since 1970-01-01. Years are counted from March, so that the leap day ends one. -/
def Date.toDays (d : Date) : Int :=
  let y := if d.month ≤ 2 then d.year - 1 else d.year
  let m : Int := if d.month ≤ 2 then d.month + 9 else d.month - 3
  let era := y / 400
  let yearOfEra := y % 400
  let dayOfYear := (153 * m + 2) / 5 + d.day - 1
  let dayOfEra := yearOfEra * 365 + yearOfEra / 4 - yearOfEra / 100 + dayOfYear
  era * 146097 + dayOfEra - 719468

def Date.ofDays (days : Int) : Date :=
  let z := days + 719468
  let era := z / 146097
  let dayOfEra := z % 146097
  let yearOfEra := (dayOfEra - dayOfEra / 1460 + dayOfEra / 36524 - dayOfEra / 146096) / 365
  let dayOfYear := dayOfEra - (365 * yearOfEra + yearOfEra / 4 - yearOfEra / 100)
  let m := (5 * dayOfYear + 2) / 153
  let day := (dayOfYear - (153 * m + 2) / 5 + 1).toNat
  let month := if m < 10 then (m + 3).toNat else (m - 9).toNat
  let year := yearOfEra + era * 400
  ⟨if month ≤ 2 then year + 1 else year, month, day⟩

def weekday (days : Int) : Nat := ((days + 3) % 7).toNat

def Date.ordinal (d : Date) : Nat := (d.toDays - (⟨d.year, 1, 1⟩ : Date).toDays).toNat + 1

/-- The week of the year when weeks start on weekday `first`; days before the first such day are in
week 0. -/
def Date.weekFrom (d : Date) (first : Nat) : Nat :=
  (d.ordinal + 6 - (weekday d.toDays + 7 - first) % 7) / 7

/-- Year and week of the Monday-based week that holds the day; a week belongs to the year of its
Thursday. -/
def Date.isoWeek (d : Date) : Int × Nat :=
  let days := d.toDays
  let thursday := Date.ofDays (days - weekday days + 3)
  (thursday.year, (thursday.ordinal - 1) / 7 + 1)

def weekdayNames : List String :=
  ["Monday", "Tuesday", "Wednesday", "Thursday", "Friday", "Saturday", "Sunday"]

def monthNames : List String :=
  ["January", "February", "March", "April", "May", "June", "July", "August", "September", "October",
    "November", "December"]

def weekdayName (n : Nat) : List Char := (weekdayNames.getD n "").toList

def monthName (n : Nat) : List Char := (monthNames.getD (n - 1) "").toList

end EdgeCache.Calendar
