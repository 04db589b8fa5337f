/-
Days of the proleptic Gregorian calendar, with astronomical year numbers, between the years -262143 and 262142.
-/
import TableGraph.Number.Digits

namespace TableGraph

namespace Date

/-- every fourth year is a leap year, but of the centuries only every fourth -/
def isLeapYear (year : Int) : Bool := year % 4 = 0 && (year % 100 != 0 || year % 400 = 0)

/-- the number of days of a month, and zero if there is no such month -/
def daysInMonth (year : Int) : (month : Nat) → Nat
  | 1 | 3 | 5 | 7 | 8 | 10 | 12 => 31
  | 4 | 6 | 9 | 11 => 30
  | 2 => if isLeapYear year then 29 else 28
  | _ => 0

/-- whether there is such a day, in a year within the supported range -/
def IsDay (year : Int) (month day : Nat) : Prop :=
  -262143 ≤ year ∧ year ≤ 262142 ∧ 1 ≤ day ∧ day ≤ daysInMonth year month

instance (year : Int) (month day : Nat) : Decidable (IsDay year month day) :=
  inferInstanceAs (Decidable (_ ∧ _ ∧ _ ∧ _))

end Date

/-- a day of the calendar -/
structure Date where
  year : Int
  month : Nat
  day : Nat
  valid : Date.IsDay year month day
  deriving DecidableEq, Repr

namespace Date

/-- the day with these numbers, if there is one -/
def ofParts? (year : Int) (month day : Nat) : Option Date :=
  if h : IsDay year month day then some ⟨year, month, day, h⟩ else none

/-- the day after -/
def next? (d : Date) : Option Date :=
  if d.day < daysInMonth d.year d.month then ofParts? d.year d.month (d.day + 1)
  else if d.month < 12 then ofParts? d.year (d.month + 1) 1
  else ofParts? (d.year + 1) 1 1

/-- the day before -/
def previous? (d : Date) : Option Date :=
  if 1 < d.day then ofParts? d.year d.month (d.day - 1)
  else if 1 < d.month then ofParts? d.year (d.month - 1) (daysInMonth d.year (d.month - 1))
  else ofParts? (d.year - 1) 12 31

/-- four digits for a year of the first ten thousand, else a sign and at least four digits -/
def yearText (year : Int) : List Char :=
  let digits := Digits.padded 4 year.natAbs
  if year < 0 then '-' :: digits else if year < 10000 then digits else '+' :: digits

/-- year, month and day joined by hyphens -/
def text (d : Date) : List Char :=
  yearText d.year ++ '-' :: (Digits.padded 2 d.month ++ '-' :: Digits.padded 2 d.day)

end Date

end TableGraph
