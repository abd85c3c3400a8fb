import DocSchema.Calendar.Instant

/-!
# Reading dates

The date texts of RFC 3339, such as `2026-10-18T13:30:00.25+01:30`.  Day and time are separated by
`T`, `t` or one blank, the offset is `Z`, `z` or hours and minutes with a sign, which may also be
the minus sign U+2212.  A second may be the leap second 60, of a fraction the first nine digits
count, and nothing may stand before or after.
-/

namespace DocSchema.Calendar.Rfc3339

/-- The value of an ASCII digit. -/
def digit? (c : Char) : Option Nat :=
  if c.isDigit then some (c.toNat - '0'.toNat) else none

/-- The value of a row of ASCII digits. -/
def number? : List Char → Option Nat
  | [] => some 0
  | cs => cs.foldlM (fun n c => (digit? c).map (10 * n + ·)) 0

/-- The minutes of an offset from universal time. -/
def offset? : List Char → Option Int
  | ['Z'] | ['z'] => some 0
  | [sign, h₁, h₂, ':', m₁, m₂] => do
    let hours ← number? [h₁, h₂]
    let minutes ← number? [m₁, m₂]
    guard (hours ≤ 23 ∧ minutes ≤ 59)
    let total : Int := 60 * hours + minutes
    if sign = '+' then some total
    else if sign = '-' ∨ sign = '\u2212' then some (-total)
    else none
  | _ => none

/-- The nanoseconds of a fraction and what follows it; without a point there is no fraction. -/
def fraction? : List Char → Option (Nat × List Char)
  | '.' :: cs => do
    let digits := cs.takeWhile Char.isDigit
    guard (!digits.isEmpty)
    let used := digits.take 9
    let n ← number? used
    return (n * Nat.pow 10 (9 - used.length), cs.dropWhile Char.isDigit)
  | cs => some (0, cs)

/-- The time of day as minutes, seconds and nanoseconds; the leap second is told by its
nanoseconds. -/
def clock? (hours minutes seconds nano : Nat) : Option (Nat × Nat × Nat) :=
  if hours ≤ 23 ∧ minutes ≤ 59 ∧ seconds ≤ 60 then
    if seconds = 60 then some (60 * hours + minutes, 59, nanosPerSecond + nano)
    else some (60 * hours + minutes, seconds, nano)
  else
    none

/-- The instant of a list of characters. -/
def instant? : List Char → Option Instant
  | y₁ :: y₂ :: y₃ :: y₄ :: '-' :: m₁ :: m₂ :: '-' :: d₁ :: d₂ :: separator
      :: h₁ :: h₂ :: ':' :: n₁ :: n₂ :: ':' :: s₁ :: s₂ :: rest => do
    guard (separator = 'T' ∨ separator = 't' ∨ separator = ' ')
    let year ← number? [y₁, y₂, y₃, y₄]
    let month ← number? [m₁, m₂]
    let day ← number? [d₁, d₂]
    let date : Date := ⟨year, month, day⟩
    guard date.isValid
    let hours ← number? [h₁, h₂]
    let minutes ← number? [n₁, n₂]
    let seconds ← number? [s₁, s₂]
    let (nano, zone) ← fraction? rest
    let (minute, second, nanosecond) ← clock? hours minutes seconds nano
    let offset ← offset? zone
    return Instant.ofLocal date minute second nanosecond offset
  | _ => none

/-- The instant that a text names. -/
def parse? (text : String) : Option Instant :=
  instant? text.toList

end DocSchema.Calendar.Rfc3339
