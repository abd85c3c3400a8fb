import DocSchema.Calendar.Instant

/-!
# The orders of numbers and dates

Limits are compared with numbers and with dates.  Instants are ordered by year, month, day, second
and nanosecond, which is a total order.  Doubles are not ordered totally: a NaN is neither smaller
nor larger than anything, and the two zeros are the same number.

## Why doubles have ranks

The comparison of doubles is a table of cases over infinities, zeros, signs, exponents and
mantissas, and a law of three doubles would be a case split over the cube of it.  So the table is
read once.  Every double but a NaN gets a rank, three integers that are compared one after the
other, and doubles compare as their ranks do.  Both orders then come from a lexicographic
comparison, whose laws are known.

* `Number.rank?`: the rank of a double; a NaN has none, and the two zeros have the same.
* `Number.lt_iff_rank`, `Number.le_iff_rank`: doubles compare as their ranks do.
* `Number.le_iff_of_not_lt`: what is not above a double is below it, unless one of them is a NaN.
* `Calendar.Instant.le_of_not_lt`: the same for instants, without exception.
-/

namespace DocSchema

/-! ## Ranks -/

namespace Number

open Float.Model (UnpackedFloat)

/-- The place of a double among the others: the side of zero on which it lies, the infinities one
step further out, then its exponent and its mantissa, both with the sign of the double. -/
structure Rank where
  side : Int
  exponent : Int
  mantissa : Int
  deriving DecidableEq, Repr

namespace Rank

/-- The side, then the exponent, then the mantissa. -/
def cmp : Rank → Rank → Ordering :=
  compareLex (compareOn Rank.side) (compareLex (compareOn Rank.exponent) (compareOn Rank.mantissa))

instance : Std.TransCmp cmp :=
  inferInstanceAs (Std.TransCmp (compareLex (compareOn Rank.side)
    (compareLex (compareOn Rank.exponent) (compareOn Rank.mantissa))))

theorem compare_neg (e f : Int) : compare (-e) (-f) = compare f e := by
  simp only [compare, compareOfLessAndEq]
  grind

theorem compare_natCast (m n : Nat) : compare (m : Int) (n : Int) = compare m n := by
  simp only [compare, compareOfLessAndEq]
  grind

theorem cmp_of_same_side (side e f m n : Int) :
    cmp ⟨side, e, m⟩ ⟨side, f, n⟩ = (compare e f).then (compare m n) := by
  have hside : compare side side = .eq := Std.ReflCmp.compare_self
  simp only [cmp, compareLex, compareOn, hside]
  rfl

end Rank

/-- The rank of a double that is taken apart. -/
def unpackedRank? : UnpackedFloat → Option Rank
  | .notANumber => none
  | .infinity .negative => some ⟨-2, 0, 0⟩
  | .finite .negative mantissa exponent _ => some ⟨-1, -exponent, -mantissa⟩
  | .zero _ => some ⟨0, 0, 0⟩
  | .finite .positive mantissa exponent _ => some ⟨1, exponent, mantissa⟩
  | .infinity .positive => some ⟨2, 0, 0⟩

/-- The rank of a double; a NaN has none. -/
def rank? (x : Float) : Option Rank :=
  unpackedRank? x.toModel.unpack

theorem swap_compare_finite (e f : Int) (m n : Nat) :
    ((compare e f).then (compare m n)).swap = Rank.cmp ⟨-1, -e, -m⟩ ⟨-1, -f, -n⟩ := by
  have hexponent : (compare e f).swap = compare f e := Std.OrientedCmp.eq_swap.symm
  have hmantissa : (compare m n).swap = compare n m := Std.OrientedCmp.eq_swap.symm
  rw [Rank.cmp_of_same_side, Ordering.swap_then, hexponent, hmantissa, Rank.compare_neg,
    Rank.compare_neg, Rank.compare_natCast]

theorem compare_finite (e f : Int) (m n : Nat) :
    (compare e f).then (compare m n) = Rank.cmp ⟨1, e, m⟩ ⟨1, f, n⟩ := by
  rw [Rank.cmp_of_same_side, Rank.compare_natCast]

/-- **Doubles compare as their ranks do**, and a NaN with nothing.  Only two finite doubles on the
same side of zero need more than a look at their sides. -/
theorem compare_eq_cmp (a b : UnpackedFloat) :
    a.compare b = (unpackedRank? a).bind fun r => (unpackedRank? b).map r.cmp := by
  rcases a with (_ | _) | _ | _ | ⟨_ | _, m, e, _⟩ <;>
    rcases b with (_ | _) | _ | _ | ⟨_ | _, n, f, _⟩ <;>
    first
    | rfl
    | exact congrArg some (swap_compare_finite e f m n)
    | exact congrArg some (compare_finite e f m n)

theorem compare_eq_some_iff {a b : UnpackedFloat} {o : Ordering} :
    a.compare b = some o ↔
      ∃ r s, unpackedRank? a = some r ∧ unpackedRank? b = some s ∧ r.cmp s = o := by
  rw [compare_eq_cmp, Option.bind_eq_some_iff]
  simp only [Option.map_eq_some_iff, exists_and_left]

/-! ## The order of doubles -/

variable {x y z : Float}

theorem lt_iff_rank :
    x < y ↔ ∃ r s, rank? x = some r ∧ rank? y = some s ∧ r.cmp s = .lt := by
  have hlt : x < y ↔ x.toModel.unpack.compare y.toModel.unpack = some .lt := by
    show decide ((x.toModel.unpack.compare y.toModel.unpack == some .lt) = true) = true ↔ _
    rw [decide_eq_true_iff, beq_iff_eq]
  rw [hlt, compare_eq_some_iff]
  rfl

theorem le_iff_rank :
    x ≤ y ↔ ∃ r s, rank? x = some r ∧ rank? y = some s ∧ (r.cmp s).isLE = true := by
  have hle : x ≤ y ↔ ∃ o, x.toModel.unpack.compare y.toModel.unpack = some o ∧ o.isLE = true := by
    show decide ((x.toModel.unpack.compare y.toModel.unpack).any (·.isLE) = true) = true ↔ _
    rw [decide_eq_true_iff, Option.any_eq_true]
  rw [hle]
  constructor
  · rintro ⟨o, ho, hisLE⟩
    obtain ⟨r, s, hr, hs, rfl⟩ := compare_eq_some_iff.mp ho
    exact ⟨r, s, hr, hs, hisLE⟩
  · rintro ⟨r, s, hr, hs, hisLE⟩
    exact ⟨r.cmp s, compare_eq_some_iff.mpr ⟨r, s, hr, hs, rfl⟩, hisLE⟩

theorem isNaN_iff_rank : x.isNaN = true ↔ rank? x = none := by
  show x.toModel.unpack.isNaN = true ↔ unpackedRank? x.toModel.unpack = none
  rcases x.toModel.unpack with (_ | _) | _ | _ | ⟨_ | _, m, e, _⟩ <;>
    first
    | exact iff_of_true rfl rfl
    | exact iff_of_false Bool.false_ne_true (Option.some_ne_none _)

theorem isNaN_eq_false_iff_rank : x.isNaN = false ↔ ∃ r, rank? x = some r := by
  rw [← Bool.not_eq_true, isNaN_iff_rank]
  exact Option.ne_none_iff_exists'

/-- A NaN is neither below nor above anything. -/
theorem isNaN_eq_false_of_lt (h : x < y) : x.isNaN = false ∧ y.isNaN = false := by
  obtain ⟨r, s, hr, hs, -⟩ := lt_iff_rank.mp h
  exact ⟨isNaN_eq_false_iff_rank.mpr ⟨r, hr⟩, isNaN_eq_false_iff_rank.mpr ⟨s, hs⟩⟩

theorem lt_of_lt_of_le (hxy : x < y) (hyz : y ≤ z) : x < z := by
  obtain ⟨r, s, hr, hs, hlt⟩ := lt_iff_rank.mp hxy
  obtain ⟨s', t, hs', ht, hle⟩ := le_iff_rank.mp hyz
  obtain rfl : s = s' := Option.some_inj.mp (hs.symm.trans hs')
  exact lt_iff_rank.mpr ⟨r, t, hr, ht, Std.TransCmp.lt_of_lt_of_isLE hlt hle⟩

theorem lt_of_le_of_lt (hxy : x ≤ y) (hyz : y < z) : x < z := by
  obtain ⟨r, s, hr, hs, hle⟩ := le_iff_rank.mp hxy
  obtain ⟨s', t, hs', ht, hlt⟩ := lt_iff_rank.mp hyz
  obtain rfl : s = s' := Option.some_inj.mp (hs.symm.trans hs')
  exact lt_iff_rank.mpr ⟨r, t, hr, ht, Std.TransCmp.lt_of_isLE_of_lt hle hlt⟩

theorem lt_irrefl (x : Float) : ¬ x < x := by
  intro h
  obtain ⟨r, s, hr, hs, hlt⟩ := lt_iff_rank.mp h
  obtain rfl : r = s := Option.some_inj.mp (hr.symm.trans hs)
  have heq : r.cmp r = .eq := Std.ReflCmp.compare_self
  rw [heq] at hlt
  cases hlt

/-- What does not lie below a double lies above it or is equal to it, unless one of the two is a
NaN. -/
theorem le_iff_of_not_lt (h : ¬ x < y) : y ≤ x ↔ x.isNaN = false ∧ y.isNaN = false := by
  rw [isNaN_eq_false_iff_rank, isNaN_eq_false_iff_rank, le_iff_rank]
  constructor
  · rintro ⟨s, r, hs, hr, -⟩
    exact ⟨⟨r, hr⟩, ⟨s, hs⟩⟩
  · rintro ⟨⟨r, hr⟩, ⟨s, hs⟩⟩
    refine ⟨s, r, hs, hr, ?_⟩
    have hnot : r.cmp s ≠ .lt := fun hlt => h (lt_iff_rank.mpr ⟨r, s, hr, hs, hlt⟩)
    have hswap : s.cmp r = (r.cmp s).swap := Std.OrientedCmp.eq_swap
    rw [hswap, Ordering.isLE_swap]
    exact Ordering.isGE_iff_ne_lt.mpr hnot

/-! ## The two zeros -/

theorem rank?_zero : rank? 0 = some ⟨0, 0, 0⟩ := rfl

theorem rank?_neg_zero : rank? (-0) = some ⟨0, 0, 0⟩ := rfl

/-- Doubles of the same rank are below the same doubles. -/
theorem lt_iff_of_rank_eq_left (h : rank? x = rank? y) : x < z ↔ y < z := by
  rw [lt_iff_rank, lt_iff_rank, h]

/-- Doubles of the same rank are above the same doubles. -/
theorem lt_iff_of_rank_eq_right (h : rank? x = rank? y) : z < x ↔ z < y := by
  rw [lt_iff_rank, lt_iff_rank, h]

end Number

/-! ## The order of instants -/

namespace Calendar

instance : Std.TransCmp Date.cmp :=
  inferInstanceAs (Std.TransCmp (compareLex (compareOn Date.year)
    (compareLex (compareOn Date.month) (compareOn Date.day))))

instance : Std.TransCmp fun a b : Instant => a.date.cmp b.date where
  eq_swap {a b} := by
    have hswap : a.date.cmp b.date = (b.date.cmp a.date).swap := Std.OrientedCmp.eq_swap
    exact hswap
  isLE_trans {a b c} hab hbc := by
    have htrans : (a.date.cmp c.date).isLE = true := Std.TransCmp.isLE_trans hab hbc
    exact htrans

instance : Std.TransCmp Instant.cmp :=
  inferInstanceAs (Std.TransCmp (compareLex (fun a b : Instant => a.date.cmp b.date)
    (compareLex (compareOn Instant.second) (compareOn Instant.nanosecond))))

namespace Instant

variable {t u v : Instant}

theorem lt_of_lt_of_le (htu : t < u) (huv : u ≤ v) : t < v := by
  have hlt : t.cmp v = .lt := Std.TransCmp.lt_of_lt_of_isLE htu huv
  exact hlt

theorem lt_of_le_of_lt (htu : t ≤ u) (huv : u < v) : t < v := by
  have hlt : t.cmp v = .lt := Std.TransCmp.lt_of_isLE_of_lt htu huv
  exact hlt

theorem lt_irrefl (t : Instant) : ¬ t < t := by
  intro h
  have heq : t.cmp t = .eq := Std.ReflCmp.compare_self
  rw [show t.cmp t = .lt from h] at heq
  cases heq

/-- What does not lie before an instant lies behind it or is equal to it. -/
theorem le_of_not_lt (h : ¬ t < u) : u ≤ t := by
  show (u.cmp t).isLE = true
  have hswap : u.cmp t = (t.cmp u).swap := Std.OrientedCmp.eq_swap
  rw [hswap, Ordering.isLE_swap]
  exact Ordering.isGE_iff_ne_lt.mpr h

end Instant

end Calendar

end DocSchema
