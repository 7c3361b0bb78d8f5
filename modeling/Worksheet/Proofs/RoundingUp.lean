import Worksheet.Proofs.NumberUnits

/-!
# Rounding up

A number is rounded up by adding one to its whole part if that is below it.  The sum is exact,
since a number with a fraction is below `2 ^ 52` (`Number.ofNat_add_one`), so the result is the
least integer that is not below the number (`Number.ceil_spec`), whatever its size and sign, and
indices and bounds can be read off that integer.
-/

namespace Worksheet.Number

open Float.Model (UnpackedFloat Format)
open Float.Model.UnpackedFloat

/-! ## Adding one -/

/-- What has its place stays as it is, whatever power of two it is written with. -/
theorem round_eq {m : Nat} {e : Int} (h : IsNormal m e) (s : Sign) (k : Nat) :
    UnpackedFloat.round .binary64 s (m * 2 ^ k) (e - k) = .finite s m e h.pos := by
  have hshift : (e - k - e : Int).toNat = 0 := by omega
  rw [← roundWithAccuracy_eq h s k]
  simp only [UnpackedFloat.round, targetExponent_eq h, decreaseExponent, hshift, Nat.shiftLeft_zero,
    Int.ofNat_zero, Int.sub_zero]

theorem normalize_eq {m : Nat} {e : Int} (h : IsNormal m e) (k : Nat) :
    UnpackedFloat.normalize .binary64 (m * 2 ^ k : Nat) (e - k) .positive
      = .finite .positive m e h.pos := by
  have hcompare : compare ((m * 2 ^ k : Nat) : Int) 0 = .gt :=
    compare_gt_iff_gt.2 (Int.natCast_pos.2 (Nat.mul_pos h.pos (Nat.two_pow_pos k)))
  simp only [UnpackedFloat.normalize, hcompare, Int.toNat_natCast, round_eq h]

/-- What a whole number is written with when its place is that of one. -/
theorem mul_two_pow_log2 {n : Nat} (hpos : 0 < n) (hn : n < 2 ^ 53) :
    n * 2 ^ (52 - n.log2) * 2 ^ n.log2 = n * 2 ^ 52 := by
  have hlog : n.log2 < 53 := (Nat.log2_lt hpos.ne').2 hn
  rw [Nat.mul_assoc, ← Nat.pow_add]
  congr 2
  omega

theorem add_whole_one {n : Nat} (hn : n + 1 < 2 ^ 53) :
    UnpackedFloat.add .binary64 (whole .positive n) (.finite .positive (2 ^ 52) (-52) (by decide))
      = whole .positive (n + 1) := by
  have hsucc : whole .positive (n + 1) = .finite .positive _ _ (isNormal_whole hn n.succ_pos).pos :=
    dif_pos n.succ_pos
  have hlog : (n + 1).log2 < 53 := (Nat.log2_lt n.succ_ne_zero).2 hn
  have hnormal := normalize_eq (isNormal_whole hn n.succ_pos) (n + 1).log2
  have hexponent : -((52 - (n + 1).log2 : Nat) : Int) - (n + 1).log2 = -52 := by omega
  rw [mul_two_pow_log2 n.succ_pos hn, hexponent] at hnormal
  rw [hsucc, ← hnormal]
  rcases Nat.eq_zero_or_pos n with rfl | hpos
  · rfl
  -- both summands are brought to the exponent of one, where their significands add up
  have hlog' : n.log2 < 53 := (Nat.log2_lt hpos.ne').2 (by omega)
  have hmin : min (-((52 - n.log2 : Nat) : Int)) (-52) = -52 := by omega
  have hshift : (-((52 - n.log2 : Nat) : Int) - -52).toNat = n.log2 := by omega
  have hsum : n * 2 ^ (52 - n.log2) * 2 ^ n.log2 = n * 2 ^ 52 := mul_two_pow_log2 hpos (by omega)
  rw [whole, dif_pos hpos]
  simp only [UnpackedFloat.add, decreaseExponent, hmin, hshift, Nat.shiftLeft_eq, hsum,
    Int.sub_self, Int.toNat_zero, Nat.pow_zero, Nat.mul_one, Sign.apply]
  rw [Nat.succ_mul, Nat.cast_add]

theorem add_eq (x y : Float) :
    x + y = ofUnpacked (UnpackedFloat.add .binary64 x.toModel.unpack y.toModel.unpack) :=
  rfl

/-- One more than a whole number below the largest is exact. -/
theorem ofNat_add_one {n : Nat} (hn : n + 1 < 2 ^ 53) :
    Float.ofNat n + 1.0 = Float.ofNat (n + 1) := by
  have hone : (1.0 : Float).toModel.unpack = .finite .positive (2 ^ 52) (-52) (by decide) := rfl
  have hlt : n < 2 ^ 53 := by omega
  obtain ⟨p, hp⟩ := exists_hasParts_whole hlt .positive
  rw [add_eq, hone, ofNat_eq hlt, unpack_ofUnpacked hp (whole_ne _), add_whole_one hn, ofNat_eq hn]

/-! ## The least integer that is not below -/

/-- The least integer that is not below a number. -/
def roundedUp (x : Float) : Int :=
  ⌈(units x : ℚ) / unitsIn 0⌉

section RoundedUp

variable {x : Float}

theorem roundedUp_eq_iff {j : Int} :
    roundedUp x = j ↔ (j - 1) * unitsIn 0 < units x ∧ units x ≤ j * unitsIn 0 := by
  have hunit : (0 : ℚ) < unitsIn 0 := Nat.cast_pos.2 (unitsIn_pos 0)
  rw [roundedUp, Int.ceil_eq_iff, lt_div_iff₀ hunit, div_le_iff₀ hunit]
  exact_mod_cast Iff.rfl

theorem units_eq (hx : x.isNaN = false) :
    (units x).tmod (unitsIn 0) + toInt x * unitsIn 0 = units x := by
  rw [toInt_eq hx, Int.mul_comm, Int.tmod_add_mul_tdiv]

/-- A number above its whole part is positive and has a fraction, so it is not large. -/
theorem exists_of_trunc_lt (h : trunc x < x) :
    ∃ n, n + 1 < 2 ^ 53 ∧ trunc x = Float.ofNat n := by
  have hx := (isNaN_of_lt h).2
  have hbounds := bounds_of_hasParts (hasParts_unpack x) (isNaN_eq_false_iff.1 hx)
  have htrunc : trunc x
      = if 0 ≤ (parts x).exponent then x else ofWhole (parts x).negative (parts x).whole := rfl
  by_cases he : 0 ≤ (parts x).exponent
  · rw [htrunc, if_pos he] at h
    exact absurd h (not_lt_of_lt h)
  · rw [if_neg he] at htrunc
    have hwhole : (parts x).whole < 2 ^ 52 := by
      rw [Parts.whole_of_neg (Int.not_le.1 he)]
      refine Nat.div_lt_of_lt_mul ?_
      have hpow : 2 ^ 1 ≤ 2 ^ (-(parts x).exponent).toNat :=
        Nat.pow_le_pow_right Nat.two_pos (by omega)
      omega
    have hlt : (parts x).whole < 2 ^ 53 := by omega
    -- the whole part of a negative number is not below it
    rcases hnegative : (parts x).negative with _ | _ <;> rw [hnegative] at htrunc
    · exact ⟨(parts x).whole, by omega, htrunc⟩
    · rw [lt_iff_units (isNaN_trunc hx) hx, htrunc, (units_ofWhole hlt true).2, units, Parts.units,
        hnegative, Parts.whole_eq hbounds.1] at h
      have hle := Nat.div_mul_le_self (magnitude (parts x).significand (parts x).exponent)
        (unitsIn 0)
      simp only [if_true, Int.neg_mul] at h
      have hcast := Int.ofNat_le.2 hle
      rw [Int.natCast_mul] at hcast
      omega

variable (hx : x.isNaN = false)

include hx

/-- Rounding up leads to the least integer that is not below. -/
theorem ceil_spec : (ceil x).isNaN = false ∧ units (ceil x) = roundedUp x * unitsIn 0 := by
  have hunit : (0 : Int) < unitsIn 0 := Int.natCast_pos.2 (unitsIn_pos 0)
  have hparts := units_eq hx
  have hlow := Int.lt_tmod_of_pos (units x) hunit
  have hhigh := Int.tmod_lt_of_pos (units x) hunit
  have hceil : ceil x = if trunc x < x then trunc x + 1.0 else trunc x := rfl
  rw [hceil]
  split_ifs with h
  · have hround : roundedUp x = toInt x + 1 := by
      rw [lt_iff_units (isNaN_trunc hx) hx, units_trunc hx] at h
      rw [roundedUp_eq_iff, Int.add_sub_cancel, Int.add_mul, Int.one_mul]
      omega
    obtain ⟨n, hn, htrunc⟩ := exists_of_trunc_lt h
    have hint : toInt x = n := by rw [← toInt_trunc, htrunc, toInt_ofNat (by omega)]
    rw [hround, htrunc, ofNat_add_one hn, units_ofNat hn, hint]
    exact ⟨isNaN_ofNat hn, by push_cast; rfl⟩
  · have hround : roundedUp x = toInt x := by
      rw [lt_iff_units (isNaN_trunc hx) hx, units_trunc hx] at h
      rw [roundedUp_eq_iff, Int.sub_mul, Int.one_mul]
      omega
    rw [hround]
    exact ⟨isNaN_trunc hx, units_trunc hx⟩

theorem ceil_lt_one_iff : ceil x < 1.0 ↔ roundedUp x < 1 := by
  have hone : (1.0 : Float) = Float.ofNat 1 := rfl
  have hunit : (0 : Int) < unitsIn 0 := Int.natCast_pos.2 (unitsIn_pos 0)
  obtain ⟨hnan, hunits⟩ := ceil_spec hx
  rw [hone, lt_ofNat_iff hnan (by decide), hunits]
  exact Int.mul_lt_mul_right hunit

theorem ofNat_lt_ceil_iff {n : Nat} (hn : n < 2 ^ 53) :
    Float.ofNat n < ceil x ↔ n < roundedUp x := by
  have hunit : (0 : Int) < unitsIn 0 := Int.natCast_pos.2 (unitsIn_pos 0)
  obtain ⟨hnan, hunits⟩ := ceil_spec hx
  rw [ofNat_lt_iff hnan hn, hunits]
  exact Int.mul_lt_mul_right hunit

theorem toInt_ceil : toInt (ceil x) = roundedUp x := by
  obtain ⟨hnan, hunits⟩ := ceil_spec hx
  rw [toInt_eq hnan, hunits, Int.mul_tdiv_cancel _ (Int.natCast_pos.2 (unitsIn_pos 0)).ne']

/-- The offset of what has an index that is rounded up. -/
theorem toOffset_ceil {n : Nat} (hlow : 1 ≤ roundedUp x) (hhigh : roundedUp x ≤ n)
    (hn : n < 2 ^ 53) : toOffset (ceil x) = (roundedUp x).toNat - 1 := by
  rw [← toInt_ceil hx] at hlow hhigh ⊢
  rw [toOffset_eq hlow, toSize_eq_min]
  omega

end RoundedUp

theorem roundedUp_ofNat {n : Nat} (hn : n < 2 ^ 53) : roundedUp (Float.ofNat n) = n := by
  have hunit : (0 : Int) < unitsIn 0 := Int.natCast_pos.2 (unitsIn_pos 0)
  rw [roundedUp_eq_iff, units_ofNat hn, Int.sub_mul, Int.one_mul, Int.natCast_mul]
  omega

end Worksheet.Number
