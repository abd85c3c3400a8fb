/-!
# Civil dates

Dates of the Gregorian calendar, continued to all years; year zero comes before year one.  Moving
an instant from one offset to another crosses midnight at most once, so the calendar only has to
know the day before and the day after.
-/

namespace DocSchema.Calendar

/-- A year, a month from one and a day from one. -/
structure Date where
  year : Int
  month : Nat
  day : Nat
  deriving DecidableEq, Repr, Inhabited

/-- Every fourth year is a leap year, of the centuries every fourth. -/
def isLeap (year : Int) : Bool :=
  decide (year % 4 = 0 ∧ (year % 100 ≠ 0 ∨ year % 400 = 0))

/-- The length of a month; zero if there is no such month. -/
def daysIn (year : Int) (month : Nat) : Nat :=
  match month with
  | 1 | 3 | 5 | 7 | 8 | 10 | 12 => 31
  | 4 | 6 | 9 | 11 => 30
  | 2 => if isLeap year then 29 else 28
  | _ => 0

namespace Date

/-- Whether the month and the day exist. -/
def isValid (d : Date) : Bool :=
  decide (1 ≤ d.day ∧ d.day ≤ daysIn d.year d.month)

/-- The next day. -/
def succ (d : Date) : Date :=
  if d.day < daysIn d.year d.month then ⟨d.year, d.month, d.day + 1⟩
  else if d.month < 12 then ⟨d.year, d.month + 1, 1⟩
  else ⟨d.year + 1, 1, 1⟩

/-- The day before. -/
def pred (d : Date) : Date :=
  if 1 < d.day then ⟨d.year, d.month, d.day - 1⟩
  else if 1 < d.month then ⟨d.year, d.month - 1, daysIn d.year (d.month - 1)⟩
  else ⟨d.year - 1, 12, 31⟩

/-- Year, then month, then day. -/
def cmp : Date → Date → Ordering :=
  compareLex (compareOn Date.year) (compareLex (compareOn Date.month) (compareOn Date.day))

end Date

end DocSchema.Calendar
