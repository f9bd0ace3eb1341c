namespace ForumDigest

structure Date where
  year : Int
  month : Nat
  day : Nat
  deriving DecidableEq, Repr

namespace Date

def isLeapYear (y : Int) : Bool := y % 4 = 0 && (y % 100 ≠ 0 || y % 400 = 0)

def monthLengths (leap : Bool) : List Nat :=
  [31, if leap then 29 else 28, 31, 30, 31, 30, 31, 31, 30, 31, 30, 31]

def monthLength (y : Int) (month : Nat) : Nat := (monthLengths (isLeapYear y)).getD (month - 1) 0

def daysBeforeYear (y : Int) : Int :=
  365 * y + (y + 3) / 4 - (y + 99) / 100 + (y + 399) / 400

/-- The year that holds a day. A year has 146097 / 400 days on the average, so the quotient is wrong
by one at most. -/
def yearOf (d : Int) : Int :=
  let y := d * 400 / 146097
  if d < daysBeforeYear y then y - 1 else if daysBeforeYear (y + 1) ≤ d then y + 1 else y

/-- The month and the day of the month, from months of the given lengths and the days past. -/
def inMonths : (lengths : List Nat) → (month days : Nat) → Nat × Nat
  | [], month, days => (month, days + 1)
  | n :: lengths, month, days =>
    if days < n then (month, days + 1) else inMonths lengths (month + 1) (days - n)

/-- The first day of 1970. -/
def epochDay : Int := daysBeforeYear 1970

def ofDays (n : Int) : Date :=
  let d := n + epochDay
  let year := yearOf d
  let (month, day) := inMonths (monthLengths (isLeapYear year)) 1 (d - daysBeforeYear year).toNat
  { year, month, day }

def toDays (t : Date) : Int :=
  let daysBeforeMonth : Nat := ((monthLengths (isLeapYear t.year)).take (t.month - 1)).foldr (· + ·) 0
  daysBeforeYear t.year + daysBeforeMonth + (t.day - 1 : Nat) - epochDay

def leastYear : Int := -262143

def greatestYear : Int := 262142

def isValid (t : Date) : Bool :=
  leastYear ≤ t.year && t.year ≤ greatestYear && 1 ≤ t.month && t.month ≤ 12 && 1 ≤ t.day &&
    t.day ≤ monthLength t.year t.month

def leastDay : Int := daysBeforeYear leastYear - epochDay

def greatestDay : Int := daysBeforeYear (greatestYear + 1) - epochDay - 1

end Date

end ForumDigest
