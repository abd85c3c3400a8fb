import DocSchema.Number.Binary64
import Mathlib.Algebra.Group.Nat.Defs
import Mathlib.Data.Nat.Basic

/-!
# Integers that are doubles

A double that is an integer may be written down as an integer, and is then read as the double
nearest to that integer.  That gives the same double back, bit for bit, since nothing has to be
rounded.  The only exception is the negative zero, for an integer has no sign when it is zero.

## Why nothing is rounded

The double nearest to an integer is looked for among the mantissas of 53 bits.  An integer that is a
double and not zero has such a mantissa already, for no subnormal double is an integer.  The integer
and the mantissa differ by a power of two, so their binary logarithms give the exponent away.

* `Number.exponentField`, `Number.fraction`: the two fields of a double beside its sign.
* `Number.ofBits_toBits_of_normal`: a normal double is put together from its bits as it was.
* `Number.decode_eq_none_iff`: only finite doubles have an exact value.
* `Dyadic.natAbs?_eq_some_iff`: when an exact value is an integer.
* `Number.nearestBits_one`: an integer with a mantissa of 53 bits is not rounded.
* `Number.ofInt_of_toInt?`: the integer that a double is, read as a double.
-/

namespace DocSchema.Number

open Float.Model (UnpackedFloat Format)
open Float.Model.UnpackedFloat (Sign unpackExponent unpackMantissa unpackSign packComponents)

variable {x : Float}

/-! ## The fields of a double -/

/-- The exponent field of a double. -/
def exponentField (x : Float) : Nat :=
  x.toBits.toNat / 2 ^ 52 % 2 ^ 11

/-- The fraction of a double. -/
def fraction (x : Float) : Nat :=
  x.toBits.toNat % 2 ^ 52

/-- Whether a double has the sign bit. -/
def isNegative (x : Float) : Bool :=
  decide (2 ^ 63 ≤ x.toBits.toNat)

theorem exponentField_le (x : Float) : exponentField x ≤ 2047 :=
  Nat.le_of_lt_succ (Nat.mod_lt _ (Nat.two_pow_pos 11))

theorem fraction_lt (x : Float) : fraction x < 2 ^ 52 :=
  Nat.mod_lt _ (Nat.two_pow_pos 52)

/-- The bits of a double are its sign and its two fields. -/
theorem toNat_toBits (x : Float) :
    x.toBits.toNat =
      (if isNegative x then 2 ^ 63 else 0) + (exponentField x * 2 ^ 52 + fraction x) := by
  have hbound : x.toBits.toNat < 2 ^ 64 := x.toBits.toBitVec.isLt
  rw [exponentField, fraction]
  by_cases hsign : 2 ^ 63 ≤ x.toBits.toNat
  · rw [isNegative, if_pos (decide_eq_true hsign)]
    omega
  · rw [isNegative, if_neg (mt of_decide_eq_true hsign)]
    omega

/-- Two doubles with the same bits are the same. -/
theorem eq_of_toNat_toBits_eq {y : Float} (h : x.toBits.toNat = y.toBits.toNat) : x = y := by
  obtain ⟨⟨a, ha⟩⟩ := x
  obtain ⟨⟨b, hb⟩⟩ := y
  obtain rfl : a = b := UInt64.toNat_inj.mp h
  rfl

/-! ## Taking a double apart and putting it together

The arithmetic of doubles takes the bits apart into vectors.  These are the fields again, and
packing is the inverse of unpacking, here as far as it is needed: for the normal doubles.
-/

/-- The bits of a double. -/
def bits (x : Float) : BitVec Format.binary64.numBits :=
  x.toBits.toBitVec

theorem toNat_unpackExponent (x : Float) : (unpackExponent (bits x)).toNat = exponentField x := by
  have hextract : (unpackExponent (bits x)).toNat = ((bits x).extractLsb 62 52).toNat := rfl
  rw [hextract, BitVec.extractLsb_toNat, Nat.shiftRight_eq_div_pow]
  rfl

theorem toNat_unpackMantissa (x : Float) : (unpackMantissa (bits x)).toNat = fraction x := by
  have hextract : (unpackMantissa (bits x)).toNat = ((bits x).extractLsb 51 0).toNat := rfl
  rw [hextract, BitVec.extractLsb_toNat, Nat.shiftRight_zero]
  rfl

theorem toNat_unpackSign (x : Float) :
    (unpackSign (bits x)).toNat = x.toBits.toNat / 2 ^ 63 % 2 := by
  have hextract : (unpackSign (bits x)).toNat = ((bits x).extractLsb 63 63).toNat := rfl
  rw [hextract, BitVec.extractLsb_toNat, Nat.shiftRight_eq_div_pow]
  rfl

theorem toBitVec_ofBitVec (b : BitVec 1) : (Sign.ofBitVec b).toBitVec = b := by
  revert b
  decide

/-- The bits of a double are put together from its fields. -/
theorem packComponents_fields (x : Float) :
    packComponents .binary64 (.ofBitVec (unpackSign (bits x))) (unpackExponent (bits x))
      (unpackMantissa (bits x)) = bits x := by
  have hbound : x.toBits.toNat < 2 ^ 64 := x.toBits.toBitVec.isLt
  refine BitVec.eq_of_toNat_eq ?_
  rw [packComponents, toBitVec_ofBitVec, BitVec.toNat_append, BitVec.toNat_append,
    ← Nat.shiftLeft_add_eq_or_of_lt (BitVec.isLt _),
    ← Nat.shiftLeft_add_eq_or_of_lt (BitVec.isLt _), toNat_unpackSign, toNat_unpackExponent,
    toNat_unpackMantissa, Nat.shiftLeft_eq, Nat.shiftLeft_eq]
  show (x.toBits.toNat / 2 ^ 63 % 2 * 2 ^ 11 + x.toBits.toNat / 2 ^ 52 % 2 ^ 11) * 2 ^ 52 +
    x.toBits.toNat % 2 ^ 52 = x.toBits.toNat
  omega

theorem unpackExponent_eq_iff (x : Float) {n : Nat} (hn : n < 2 ^ 11) :
    unpackExponent (bits x) = BitVec.ofNat 11 n ↔ exponentField x = n := by
  rw [← BitVec.toNat_inj, toNat_unpackExponent, BitVec.toNat_ofNat, Nat.mod_eq_of_lt hn]

theorem finite_congr {s : Sign} {m m' : Nat} {e e' : Int} (hm : m = m') (he : e = e')
    (hpos : 0 < m) (hpos' : 0 < m') :
    UnpackedFloat.finite s m e hpos = UnpackedFloat.finite s m' e' hpos' := by
  subst hm he
  rfl

/-- A normal double has one more bit of mantissa than it holds. -/
theorem unpack_of_normal (hzero : exponentField x ≠ 0) (hfinite : exponentField x ≠ 2047) :
    UnpackedFloat.unpack .binary64 (bits x) =
      .finite (.ofBitVec (unpackSign (bits x))) (2 ^ 52 + fraction x)
        ((exponentField x : Int) - 1075) (Nat.add_pos_left (Nat.two_pow_pos 52) _) := by
  have hspecial : unpackExponent (bits x) ≠ -1#_ :=
    mt (unpackExponent_eq_iff x (by decide)).mp hfinite
  have hsubnormal : unpackExponent (bits x) ≠ 0#_ :=
    mt (unpackExponent_eq_iff x (by decide)).mp hzero
  have hmantissa : (1#1 ++ unpackMantissa (bits x)).toNat = 2 ^ 52 + fraction x := by
    rw [BitVec.toNat_append, ← Nat.shiftLeft_add_eq_or_of_lt (BitVec.isLt _),
      toNat_unpackMantissa, Nat.shiftLeft_eq]
    rfl
  have hexponent : ((unpackExponent (bits x)).toNat : Int) -
      ((Format.binary64.exponentBias : Int) + (52 : Nat)) = (exponentField x : Int) - 1075 := by
    rw [toNat_unpackExponent]
    rfl
  exact (if_neg hspecial).trans ((if_neg hsubnormal).trans (finite_congr hmantissa hexponent _ _))

/-- The largest exponent field is that of the infinities and of a NaN. -/
theorem isFinite_iff : x.isFinite = true ↔ exponentField x ≠ 2047 := by
  have hunpack : x.isFinite = (UnpackedFloat.unpack .binary64 (bits x)).isFinite := rfl
  have hall : unpackExponent (bits x) = -1#_ ↔ exponentField x = 2047 :=
    unpackExponent_eq_iff x (by decide)
  have hnone : unpackExponent (bits x) = 0#_ ↔ exponentField x = 0 :=
    unpackExponent_eq_iff x (by decide)
  rw [hunpack]
  by_cases hspecial : exponentField x = 2047
  · have hunpacked : UnpackedFloat.unpack .binary64 (bits x) = _ := if_pos (hall.mpr hspecial)
    rw [hunpacked]
    split <;> exact iff_of_false Bool.false_ne_true (not_not_intro hspecial)
  · refine iff_of_true ?_ hspecial
    by_cases hzero : exponentField x = 0
    · have hunpacked : UnpackedFloat.unpack .binary64 (bits x) = _ :=
        (if_neg (mt hall.mp hspecial)).trans (if_pos (hnone.mpr hzero))
      rw [hunpacked]
      by_cases hmantissa : unpackMantissa (bits x) = 0#_
      · rw [dif_pos hmantissa]
        rfl
      · rw [dif_neg hmantissa]
        rfl
    · rw [unpack_of_normal hzero hspecial]
      rfl

theorem log2_two_pow_add {k m : Nat} (h : m < 2 ^ k) : (2 ^ k + m).log2 = k := by
  have hpos : 0 < 2 ^ k := Nat.two_pow_pos k
  refine (Nat.log2_eq_iff (by omega)).mpr ⟨Nat.le_add_right _ _, ?_⟩
  rw [Nat.pow_succ]
  omega

/-- The fields of a normal double are put together again as they were. -/
theorem pack_unpack_of_normal (hzero : exponentField x ≠ 0) (hfinite : exponentField x ≠ 2047) :
    (UnpackedFloat.unpack .binary64 (bits x)).pack .binary64 = bits x := by
  have hle := exponentField_le x
  have hbiased : ((exponentField x : Int) - 1075 + Format.binary64.exponentBias +
      (52 : Nat)).toNat = exponentField x := by
    show ((exponentField x : Int) - 1075 + 1023 + 52).toNat = exponentField x
    omega
  have hsmall : ¬ 2 ^ 11 ≤ ((exponentField x : Int) - 1075 + Format.binary64.exponentBias +
      (52 : Nat)).toNat + 1 := by
    rw [hbiased]
    omega
  have hlog : (2 ^ 52 + fraction x).log2 + 1 = Format.binary64.mantissaBits :=
    congrArg (· + 1) (log2_two_pow_add (fraction_lt x))
  have hexponent : BitVec.ofNat 11 (exponentField x) = unpackExponent (bits x) := by
    rw [← toNat_unpackExponent, BitVec.ofNat_toNat]
    exact BitVec.setWidth_eq _
  have hmantissa : BitVec.ofNat 52 (2 ^ 52 + fraction x) = unpackMantissa (bits x) := by
    refine BitVec.eq_of_toNat_eq ?_
    rw [BitVec.toNat_ofNat, Nat.add_mod_left, toNat_unpackMantissa,
      Nat.mod_eq_of_lt (fraction_lt x)]
  rw [unpack_of_normal hzero hfinite]
  refine (if_neg hsmall).trans ((if_pos hlog).trans ?_)
  rw [hbiased, hexponent, hmantissa, packComponents_fields]

theorem ofBits_toBits_of_normal (hzero : exponentField x ≠ 0) (hfinite : exponentField x ≠ 2047) :
    Float.ofBits x.toBits = x := by
  have hread : (Float.ofBits x.toBits).toBits.toNat =
      ((UnpackedFloat.unpack .binary64 (bits x)).pack .binary64).toNat := rfl
  refine eq_of_toNat_toBits_eq ?_
  rw [hread, pack_unpack_of_normal hzero hfinite]
  rfl

/-! ## Exact values -/

theorem decode_of_special (h : exponentField x = 2047) : decode x = none :=
  if_pos h

theorem decode_of_subnormal (h : exponentField x = 0) :
    decode x = some ⟨isNegative x, fraction x, minExponent⟩ := by
  have hne : exponentField x ≠ 2047 := by omega
  exact (if_neg hne).trans (if_pos h)

theorem decode_of_normal (hzero : exponentField x ≠ 0) (hfinite : exponentField x ≠ 2047) :
    decode x = some ⟨isNegative x, 2 ^ 52 + fraction x, (exponentField x : Int) - 1075⟩ :=
  (if_neg hfinite).trans (if_neg hzero)

theorem decode_eq_none_iff : decode x = none ↔ x.isFinite = false := by
  rw [← Bool.not_eq_true, isFinite_iff, not_not]
  by_cases hfinite : exponentField x = 2047
  · exact iff_of_true (decode_of_special hfinite) hfinite
  · refine iff_of_false (fun hnone => ?_) hfinite
    by_cases hzero : exponentField x = 0
    · rw [decode_of_subnormal hzero] at hnone
      cases hnone
    · rw [decode_of_normal hzero hfinite] at hnone
      cases hnone

/-- The magnitude is the integer that differs from the mantissa by the power of two. -/
theorem Dyadic.natAbs?_eq_some_iff {d : Dyadic} {n : Nat} :
    d.natAbs? = some n ↔
      n * 2 ^ (-d.exponent).toNat = d.mantissa * 2 ^ d.exponent.toNat := by
  by_cases hexponent : 0 ≤ d.exponent
  · have hneg : (-d.exponent).toNat = 0 := by omega
    rw [natAbs?, if_pos hexponent, hneg, Nat.pow_zero, Nat.mul_one, Option.some_inj]
    exact eq_comm
  · have hneg : d.exponent.toNat = 0 := by omega
    have hpos : 0 < 2 ^ (-d.exponent).toNat := Nat.two_pow_pos _
    rw [natAbs?, if_neg hexponent, hneg, Nat.pow_zero, Nat.mul_one]
    by_cases hmod : d.mantissa % 2 ^ (-d.exponent).toNat = 0
    · have hdvd := Nat.dvd_of_mod_eq_zero hmod
      rw [Nat.pow_eq, if_pos hmod, Option.some_inj, Nat.div_eq_iff_eq_mul_left hpos hdvd]
      exact eq_comm
    · rw [Nat.pow_eq, if_neg hmod]
      refine iff_of_false (fun hnone => nomatch hnone) fun hmul => hmod ?_
      rw [← hmul, Nat.mul_mod_left]

theorem Dyadic.toInt?_eq_some_iff {d : Dyadic} {n : Int} :
    d.toInt? = some n ↔ ∃ k, d.natAbs? = some k ∧ n = if d.negative then -(k : Int) else k := by
  rw [toInt?]
  cases d.natAbs? with
  | none => exact iff_of_false (fun h => nomatch h) fun ⟨_, h, _⟩ => nomatch h
  | some k =>
    constructor
    · intro h
      exact ⟨k, rfl, (Option.some_inj.mp h).symm⟩
    · rintro ⟨_, h, rfl⟩
      cases h
      rfl

/-- The only integer among the subnormal doubles is zero. -/
theorem eq_zero_of_subnormal {m n : Nat} (hm : m < 2 ^ 52)
    (hn : n * 2 ^ (-minExponent).toNat = m * 2 ^ minExponent.toNat) : m = 0 ∧ n = 0 := by
  have hlarge : 2 ^ 52 ≤ 2 ^ (-minExponent).toNat := Nat.pow_le_pow_right Nat.two_pos (by decide)
  have hone : 2 ^ minExponent.toNat = 1 := rfl
  rw [hone, Nat.mul_one] at hn
  have hzero : n = 0 := by
    by_contra hne
    have hle := Nat.le_mul_of_pos_left (2 ^ (-minExponent).toNat) (Nat.pos_of_ne_zero hne)
    omega
  refine ⟨?_, hzero⟩
  rw [← hn, hzero, Nat.zero_mul]

/-! ## The nearest double -/

theorem log2_mul_two_pow {n : Nat} (h : n ≠ 0) (k : Nat) : (n * 2 ^ k).log2 = n.log2 + k := by
  induction k with
  | zero => rw [Nat.pow_zero, Nat.mul_one, Nat.add_zero]
  | succ k ih =>
    have hne : n * 2 ^ k ≠ 0 := Nat.mul_ne_zero h (Nat.ne_of_gt (Nat.two_pow_pos k))
    rw [Nat.pow_succ, ← Nat.mul_assoc, Nat.mul_comm, Nat.log2_two_mul hne, ih, Nat.add_assoc]

/-- An integer is scaled by its binary logarithm. -/
theorem scaleOf_one {n : Nat} (h : n ≠ 0) : scaleOf n 1 = n.log2 - 52 := by
  have hlog : Nat.log2 1 = 0 := by decide
  have hexponent :
      52 + ((n.log2 : Int) - 52).toNat = n.log2 + (-((n.log2 : Int) - 52)).toNat := by
    omega
  have hle : 2 ^ (52 + ((n.log2 : Int) - 52).toNat) ≤
      n * 2 ^ (-((n.log2 : Int) - 52)).toNat := by
    rw [hexponent, Nat.pow_add]
    exact Nat.mul_le_mul_right _ (Nat.log2_self_le h)
  rw [scaleOf, hlog]
  simp only [Nat.pow_eq, Nat.one_mul, Int.natCast_zero, Int.sub_zero]
  rw [if_neg (Nat.not_lt.mpr hle), minExponent]
  omega

theorem roundHalfEven_mul (m : Nat) {d : Nat} (h : 0 < d) : roundHalfEven (m * d) d = m := by
  rw [roundHalfEven, Nat.mul_mod_left, Nat.mul_div_cancel _ h]
  exact if_pos (.inl h)

/-- **An integer with a mantissa of 53 bits is not rounded.** -/
theorem nearestBits_one {n m : Nat} {e : Int} (hn : n * 2 ^ (-e).toNat = m * 2 ^ e.toNat)
    (hne : n ≠ 0) (hlog : m.log2 = 52) :
    nearestBits n 1 = min ((e - minExponent).toNat * 2 ^ 52 + m) infinityBits := by
  have hm : m ≠ 0 := by
    rintro rfl
    exact absurd hlog (by decide)
  have hscale : scaleOf n 1 = e := by
    -- the logarithms of both sides are linear in the exponent
    have hlogs := congrArg Nat.log2 hn
    rw [log2_mul_two_pow hne, log2_mul_two_pow hm, hlog] at hlogs
    rw [scaleOf_one hne]
    omega
  rw [nearestBits, if_neg hne, hscale]
  simp only [Nat.pow_eq, Nat.one_mul]
  rw [hn, roundHalfEven_mul m (Nat.two_pow_pos _)]

/-! ## The double of an integer -/

/-- The integer of a normal double is read as that double. -/
theorem ofInt_of_normal (hzero : exponentField x ≠ 0) (hfinite : exponentField x ≠ 2047) {k : Nat}
    (hk : k * 2 ^ (-((exponentField x : Int) - 1075)).toNat =
      (2 ^ 52 + fraction x) * 2 ^ ((exponentField x : Int) - 1075).toNat) :
    ofInt (if isNegative x then -(k : Int) else k) = x := by
  have hpos : 0 < k := by
    refine Nat.pos_of_ne_zero ?_
    rintro rfl
    rw [Nat.zero_mul] at hk
    exact Nat.mul_ne_zero (by omega) (Nat.ne_of_gt (Nat.two_pow_pos _)) hk.symm
  have hnearest : nearestBits k 1 = exponentField x * 2 ^ 52 + fraction x := by
    have hle := exponentField_le x
    have hfraction := fraction_lt x
    rw [nearestBits_one hk (Nat.ne_of_gt hpos) (log2_two_pow_add hfraction), minExponent,
      infinityBits, Nat.pow_eq]
    omega
  have hbits := toNat_toBits x
  have hread : ofSignAndBits (isNegative x) (nearestBits k 1) = x := by
    have hnat : (if isNegative x then Nat.pow 2 63 + nearestBits k 1 else nearestBits k 1) =
        x.toBits.toNat := by
      rw [hbits, hnearest]
      split
      · rfl
      · rw [Nat.zero_add]
    rw [ofSignAndBits, hnat, UInt64.ofNat_toNat, ofBits_toBits_of_normal hzero hfinite]
  cases hsign : isNegative x with
  | true =>
    rw [hsign] at hread
    have hlt : decide (-(k : Int) < 0) = true := decide_eq_true (by omega)
    have habs : (-(k : Int)).natAbs = k := by omega
    rw [if_pos rfl, ofInt, ofRatio, hlt, habs, hread]
  | false =>
    rw [hsign] at hread
    have hlt : decide ((k : Int) < 0) = false := decide_eq_false (by omega)
    rw [if_neg Bool.false_ne_true, ofInt, ofRatio, hlt, Int.natAbs_natCast, hread]

/-- **The integer that a double is, read as a double, is that double**, but for the negative zero,
which becomes the positive one. -/
theorem ofInt_of_toInt? {d : Dyadic} {n : Int} (hd : decode x = some d)
    (hn : d.toInt? = some n) : ofInt n = if x = -0 then 0 else x := by
  have hfinite : exponentField x ≠ 2047 := by
    intro hspecial
    rw [decode_of_special hspecial] at hd
    cases hd
  obtain ⟨k, hk, rfl⟩ := Dyadic.toInt?_eq_some_iff.mp hn
  rw [Dyadic.natAbs?_eq_some_iff] at hk
  by_cases hzero : exponentField x = 0
  · -- the double is a zero, of which only the sign is left
    rw [decode_of_subnormal hzero, Option.some_inj] at hd
    subst hd
    obtain ⟨hfraction, rfl⟩ := eq_zero_of_subnormal (fraction_lt x) hk
    have hbits := toNat_toBits x
    rw [hzero, hfraction] at hbits
    have hofInt : ofInt (if isNegative x then -((0 : Nat) : Int) else (0 : Nat)) = 0 := by
      cases isNegative x <;> rfl
    rw [hofInt]
    cases hsign : isNegative x with
    | true =>
      rw [hsign] at hbits
      exact (if_pos (eq_of_toNat_toBits_eq hbits)).symm
    | false =>
      rw [hsign] at hbits
      have hx : x = 0 := eq_of_toNat_toBits_eq hbits
      rw [hx]
      exact (ite_self (0 : Float)).symm
  · rw [decode_of_normal hzero hfinite, Option.some_inj] at hd
    subst hd
    have hne : x ≠ -0 := by
      rintro rfl
      exact hzero rfl
    rw [if_neg hne]
    exact ofInt_of_normal hzero hfinite hk

end DocSchema.Number
