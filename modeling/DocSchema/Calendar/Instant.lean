import DocSchema.Calendar.Date

/-!
# Instants

A point of universal time with nanoseconds.  A leap second is the second behind the last one of its
minute: it keeps the number of that last second and counts its nanoseconds on from `10 ^ 9`.  It is
therefore later than all of the second before and earlier than the minute that follows.
-/

namespace DocSchema.Calendar

/-- A day, the second of the day, and the nanosecond, which runs on in a leap second. -/
structure Instant where
  date : Date
  second : Nat
  nanosecond : Nat
  deriving DecidableEq, Repr, Inhabited

/-- The nanoseconds of a second. -/
def nanosPerSecond : Nat := 1000000000

/-- The minutes of a day. -/
def minutesPerDay : Nat := 1440

namespace Instant

/-- Day, then second, then nanosecond. -/
def cmp : Instant → Instant → Ordering :=
  compareLex (fun a b => a.date.cmp b.date)
    (compareLex (compareOn Instant.second) (compareOn Instant.nanosecond))

instance : LT Instant := ⟨fun a b => a.cmp b = .lt⟩

instance : LE Instant := ⟨fun a b => (a.cmp b).isLE = true⟩

instance (a b : Instant) : Decidable (a < b) :=
  inferInstanceAs (Decidable (a.cmp b = .lt))

instance (a b : Instant) : Decidable (a ≤ b) :=
  inferInstanceAs (Decidable ((a.cmp b).isLE = true))

/-- The instant that a clock shows whose offset from universal time is `offset` minutes, less than
a day. -/
def ofLocal (date : Date) (minute second nanosecond : Nat) (offset : Int) : Instant :=
  let universal : Int := minute - offset
  if universal < 0 then
    ⟨date.pred, (universal + minutesPerDay).toNat * 60 + second, nanosecond⟩
  else if universal < minutesPerDay then
    ⟨date, universal.toNat * 60 + second, nanosecond⟩
  else
    ⟨date.succ, (universal - minutesPerDay).toNat * 60 + second, nanosecond⟩

/-! ## Texts -/

/-- A number with leading zeros up to a width. -/
def padded (width n : Nat) : String :=
  let digits := Nat.toDigits 10 n
  String.ofList (List.replicate (width - digits.length) '0' ++ digits)

/-- Four digits for the years that four digits hold; the others have a sign and at least four. -/
def yearText (year : Int) : String :=
  if 0 ≤ year ∧ year ≤ 9999 then padded 4 year.toNat
  else (if year < 0 then "-" else "+") ++ padded 4 year.natAbs

/-- The day as `2026-10-18`. -/
def dateText (d : Date) : String :=
  yearText d.year ++ "-" ++ padded 2 d.month ++ "-" ++ padded 2 d.day

/-- The time of day as `23:59:60`. -/
def timeText (t : Instant) : String :=
  let leap := t.nanosecond / nanosPerSecond
  padded 2 (t.second / 3600) ++ ":" ++ padded 2 (t.second / 60 % 60) ++ ":"
    ++ padded 2 (t.second % 60 + leap)

/-- The fraction of the second: nothing if it is zero, else as few of three, six and nine digits as
are exact. -/
def fractionText (t : Instant) : String :=
  let nano := t.nanosecond % nanosPerSecond
  if nano = 0 then ""
  else if nano % 1000000 = 0 then "." ++ padded 3 (nano / 1000000)
  else if nano % 1000 = 0 then "." ++ padded 6 (nano / 1000)
  else "." ++ padded 9 nano

/-- The text in messages, such as `2026-10-18 12:00:00.500 UTC`. -/
def display (t : Instant) : String :=
  dateText t.date ++ " " ++ t.timeText ++ t.fractionText ++ " UTC"

/-- The text in documents, such as `2026-10-18T12:00:00.500Z`: always whole milliseconds, the rest
is cut off. -/
def rfc3339 (t : Instant) : String :=
  dateText t.date ++ "T" ++ t.timeText ++ "."
    ++ padded 3 (t.nanosecond % nanosPerSecond / 1000000) ++ "Z"

end Instant

end DocSchema.Calendar
