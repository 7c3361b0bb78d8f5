import Worksheet.Proofs.NumberOrder

/-!
# What numbers are packed out of

A number is packed out of a sign, a significand and an exponent, and its `parts` are what it is
unpacked to again (`Number.hasParts_unpack`).  What has a place among the numbers is packed and
rounded without loss (`Number.unpack_pack_finite`, `Number.roundWithAccuracy_eq`); so whole numbers
below `2 ^ 53` are exact, and stay what they are when they are multiplied by one
(`Number.one_mul_ofInt`).
-/

namespace Worksheet.Number

open Float.Model (UnpackedFloat Format)
open Float.Model.UnpackedFloat

/-! ## The fields of a number -/

/-- What a significand and an exponent of a number that is not zero satisfy: all 53 bits are used
unless the exponent is the least one. -/
structure IsNormal (m : Nat) (e : Int) : Prop where
  pos : 0 < m
  lt : m < 2 ^ 53
  ge : -1074 ≤ e
  full : 2 ^ 52 ≤ m ∨ e = -1074

/-- Whether a sign is that of a negative number. -/
def isNegative : Sign → Bool
  | .negative => true
  | .positive => false

/-- What is known of the parts of a number. -/
def HasParts (p : Parts) : UnpackedFloat → Prop
  | .notANumber => 0 ≤ p.exponent
  | .infinity s => p = ⟨isNegative s, 2 ^ 52, 972⟩
  | .zero s => p = ⟨isNegative s, 0, -1074⟩
  | .finite s m e _ => p = ⟨isNegative s, m, e⟩ ∧ IsNormal m e ∧ e ≤ 971

theorem toNat_implicit (v : BitVec 52) : (1#1 ++ v).toNat = 2 ^ 52 + v.toNat := by
  rw [BitVec.toNat_append, ← Nat.shiftLeft_add_eq_or_of_lt v.isLt]
  rfl

section Fields

variable (b : BitVec Format.binary64.numBits)

theorem toNat_unpackMantissa : (unpackMantissa b).toNat = b.toNat % 0x10000000000000 := by
  simp [unpackMantissa]

theorem toNat_unpackExponent : (unpackExponent b).toNat = b.toNat / 0x10000000000000 % 0x800 := by
  simp [unpackExponent, Nat.shiftRight_eq_div_pow]

theorem toNat_unpackSign : (unpackSign b).toNat = b.toNat / 0x8000000000000000 % 2 := by
  simp [unpackSign, Nat.shiftRight_eq_div_pow]

theorem isNegative_unpackSign :
    isNegative (Sign.ofBitVec (unpackSign b)) = decide (0x8000000000000000 ≤ b.toNat) := by
  have hsign := toNat_unpackSign b
  have hlt : b.toNat < 0x10000000000000000 := b.isLt
  rw [Bool.eq_iff_iff, decide_eq_true_iff, Sign.ofBitVec]
  split_ifs with h
  · rw [h, BitVec.toNat_ofNat] at hsign
    simp only [isNegative, Bool.false_eq_true, false_iff]
    omega
  · have hne : (unpackSign b).toNat ≠ 0 := fun h0 => h (BitVec.eq_of_toNat_eq h0)
    simp only [isNegative, true_iff]
    omega

end Fields

theorem hasParts_of_fields {b : BitVec Format.binary64.numBits} {p : Parts}
    (hlow : (unpackExponent b).toNat = 0 →
      p = ⟨isNegative (Sign.ofBitVec (unpackSign b)), (unpackMantissa b).toNat, -1074⟩)
    (hhigh : (unpackExponent b).toNat ≠ 0 →
      p = ⟨isNegative (Sign.ofBitVec (unpackSign b)), 0x10000000000000 + (unpackMantissa b).toNat,
        ((unpackExponent b).toNat : Int) - 1075⟩) :
    HasParts p (UnpackedFloat.unpack .binary64 b) := by
  have hbias : (Format.binary64.exponentBias : Int) + Format.binary64.mantissaBitsWithoutImplicit
      = 1075 := rfl
  have hmantissa : (unpackMantissa b).toNat < 2 ^ 52 := (unpackMantissa b).isLt
  have hexponent : (unpackExponent b).toNat < 2 ^ 11 := (unpackExponent b).isLt
  have himplicit : (1#1 ++ unpackMantissa b).toNat = 2 ^ 52 + (unpackMantissa b).toNat :=
    toNat_implicit _
  rw [UnpackedFloat.unpack]
  split_ifs with hall hinf hnone hzero
  · rw [hhigh (by rw [hall]; decide), hinf, hall]
    rfl
  · rw [hhigh (by rw [hall]; decide), hall]
    have hpos : (0 : Int) ≤ ((-1#11).toNat : Nat) - 1075 := by decide
    exact hpos
  · rw [hlow (by rw [hnone]; rfl), hzero]
    rfl
  · rw [hlow (by rw [hnone]; rfl), hnone, hbias]
    have hne : (unpackMantissa b).toNat ≠ 0 := fun h => hzero (BitVec.eq_of_toNat_eq h)
    refine ⟨rfl, ⟨by omega, by omega, by simp, .inr (by simp)⟩, by simp⟩
  · have hne : (unpackExponent b).toNat ≠ 0 := fun h => hnone (BitVec.eq_of_toNat_eq h)
    have hne' : (unpackExponent b).toNat ≠ 2047 := fun h => hall (BitVec.eq_of_toNat_eq h)
    rw [hhigh hne, hbias]
    refine ⟨?_, ⟨by omega, by omega, by omega, .inl (by omega)⟩, by omega⟩
    rw [himplicit]
    simp

/-- The parts of a number are those that it is unpacked to. -/
theorem hasParts_unpack (x : Float) : HasParts (parts x) x.toModel.unpack := by
  refine hasParts_of_fields (fun h => ?_) fun h => ?_
  · rw [isNegative_unpackSign, toNat_unpackMantissa]
    rw [toNat_unpackExponent] at h
    exact if_pos h
  · rw [isNegative_unpackSign, toNat_unpackMantissa, toNat_unpackExponent]
    rw [toNat_unpackExponent] at h
    exact if_neg h

/-! ## Packing -/

theorem ofBitVec_toBitVec (s : Sign) : Sign.ofBitVec s.toBitVec = s := by
  cases s <;> rfl

theorem unpackSign_packComponents {s : Sign} {e : BitVec 11} {m : BitVec 52} :
    unpackSign (packComponents .binary64 s e m) = s.toBitVec := by
  simp only [unpackSign, packComponents, BitVec.extractLsb]
  rw [BitVec.extractLsb'_append_eq_of_le (by omega),
    BitVec.extractLsb'_append_eq_of_le (by omega)]
  cases s <;> rfl

/-- Packing a number and unpacking it again gives it back. -/
theorem unpack_pack_finite {s : Sign} {m : Nat} {e : Int} (h : IsNormal m e) (he : e ≤ 971) :
    UnpackedFloat.unpack .binary64 (UnpackedFloat.pack .binary64 (.finite s m e h.pos))
      = .finite s m e h.pos := by
  obtain ⟨hpos, hlt, hge, hfull⟩ := h
  have hbias : (e + Format.binary64.exponentBias + Format.binary64.mantissaBitsWithoutImplicit)
      = e + 1075 := by
    rw [Int.add_assoc]
    rfl
  have hbias' : (Format.binary64.exponentBias : Int) + (52 : Nat) = 1075 := rfl
  have hbits : Format.binary64.mantissaBits = 53 := rfl
  have hroom : ¬ 2 ^ Format.binary64.exponentBits ≤ (e + 1075).toNat + 1 := by
    have : 2 ^ Format.binary64.exponentBits = 2048 := rfl
    omega
  have hfield : ∀ n < 2048, (BitVec.ofNat 11 n).toNat = n :=
    fun n hn => (BitVec.toNat_ofNat n 11).trans (Nat.mod_eq_of_lt hn)
  rw [UnpackedFloat.pack]
  simp only [hbias, hbits, if_neg hroom]
  by_cases hm : 2 ^ 52 ≤ m
  · have hlog : m.log2 + 1 = 53 := by
      have := (Nat.log2_eq_iff (Nat.ne_of_gt hpos)).2 ⟨hm, hlt⟩
      omega
    have hexponent := hfield (e + 1075).toNat (by omega)
    rw [if_pos hlog, UnpackedFloat.unpack]
    simp only [unpackMantissa_packComponents, unpackExponent_packComponents,
      unpackSign_packComponents, ofBitVec_toBitVec]
    have hne : BitVec.ofNat 11 (e + 1075).toNat ≠ -1#11 := by
      rw [ne_eq, ← BitVec.toNat_inj, hexponent]
      exact fun h => by rw [show (-1#11).toNat = 2047 from rfl] at h; omega
    have hne' : BitVec.ofNat 11 (e + 1075).toNat ≠ 0#11 := by
      rw [ne_eq, ← BitVec.toNat_inj, hexponent]
      exact fun h => by rw [show (0#11).toNat = 0 from rfl] at h; omega
    rw [if_neg hne, if_neg hne', UnpackedFloat.finite.injEq]
    refine ⟨rfl, ?_, ?_⟩
    · rw [toNat_implicit, BitVec.toNat_ofNat]
      omega
    · rw [hexponent, hbias']
      omega
  · have hlog : ¬ m.log2 + 1 = 53 := by
      have := (Nat.log2_lt (Nat.ne_of_gt hpos)).2 (Nat.not_le.1 hm)
      omega
    rw [if_neg hlog, UnpackedFloat.unpack]
    simp only [unpackMantissa_packComponents, unpackExponent_packComponents,
      unpackSign_packComponents, ofBitVec_toBitVec]
    have hmantissa : (BitVec.ofNat 52 m).toNat = m :=
      (BitVec.toNat_ofNat m 52).trans (Nat.mod_eq_of_lt (Nat.not_le.1 hm))
    have hne : BitVec.ofNat 52 m ≠ 0#52 := by
      rw [ne_eq, ← BitVec.toNat_inj, hmantissa]
      exact Nat.ne_of_gt hpos
    rw [if_neg (by decide), if_pos trivial, dif_neg hne, UnpackedFloat.finite.injEq]
    exact ⟨rfl, hmantissa, (hfull.resolve_left hm).symm⟩

/-! ## Exact rounding -/

theorem repeat_shiftRightOne (k : Nat) : ∀ m : Nat,
    Nat.repeat ExtendedMantissa.shiftRightOne k ⟨m * 2 ^ k, false, false⟩ = ⟨m, false, false⟩ := by
  induction k with
  | zero => simp [Nat.repeat]
  | succ k ih =>
    intro m
    have hpow : m * 2 ^ (k + 1) = 2 * m * 2 ^ k := by ring
    rw [Nat.repeat, hpow, ih]
    simp [ExtendedMantissa.shiftRightOne]

theorem log2_mul_two_pow {m : Nat} (hm : 0 < m) (k : Nat) : (m * 2 ^ k).log2 = m.log2 + k := by
  have hlow := Nat.log2_self_le (Nat.ne_of_gt hm)
  have hhigh := Nat.lt_log2_self (n := m)
  refine (Nat.log2_eq_iff (Nat.ne_of_gt (Nat.mul_pos hm (Nat.two_pow_pos k)))).2 ⟨?_, ?_⟩
  · rw [Nat.pow_add]
    exact Nat.mul_le_mul_right _ hlow
  · rw [Nat.add_right_comm, Nat.pow_add]
    exact Nat.mul_lt_mul_of_pos_right hhigh (Nat.two_pow_pos k)

theorem targetExponent_eq {m : Nat} {e : Int} (h : IsNormal m e) (k : Nat) :
    Format.binary64.targetExponent (Float.Model.totalExponent (m * 2 ^ k) (e - k)) = e := by
  have hbits : (Format.binary64.mantissaBits : Int) = 53 := rfl
  have hmin : Format.binary64.minExponent = -1074 := rfl
  have hlt : m.log2 < 53 := (Nat.log2_lt (Nat.ne_of_gt h.pos)).2 h.lt
  have hge := h.ge
  rw [Format.targetExponent, Float.Model.totalExponent, log2_mul_two_pow h.pos, hbits, hmin]
  rcases h.full with hm | he
  · have hlog : m.log2 = 52 := (Nat.log2_eq_iff (Nat.ne_of_gt h.pos)).2 ⟨hm, h.lt⟩
    push_cast
    omega
  · push_cast
    omega

/-- A number that has its place needs no rounding, whatever power of two it is written with. -/
theorem roundWithAccuracy_eq {m : Nat} {e : Int} (h : IsNormal m e) (s : Sign) (k : Nat) :
    roundWithAccuracy .binary64 s (m * 2 ^ k) (e - k) .exact = .finite s m e h.pos := by
  have hshift : (e - (e - k)).toNat = k := by omega
  have hback : e - k + (k : Nat) = e := by omega
  have hmantissa := repeat_shiftRightOne k m
  have htarget := targetExponent_eq h 0
  rw [Nat.pow_zero, Nat.mul_one, Int.ofNat_zero, Int.sub_zero] at htarget
  have hm : m ≠ 0 := Nat.ne_of_gt h.pos
  simp only [roundWithAccuracy, shiftToTargetExponent, shiftToExponent, targetExponent_eq h, hshift,
    hback, ExtendedMantissa.ofMantissaAndAccuracy, HShiftRight.hShiftRight, hmantissa,
    ExtendedMantissa.roundedMantissa, ExtendedMantissa.accuracy, Accuracy.roundToNearestEven,
    htarget, Int.sub_self, Int.toNat_zero, Nat.repeat, Int.ofNat_zero, Int.add_zero, dif_neg hm]

/-! ## Packed numbers -/

/-- The number that is packed out of its parts. -/
def ofUnpacked (u : UnpackedFloat) : Float :=
  .ofModel (.pack u)

theorem mul_eq (x y : Float) :
    x * y = ofUnpacked (UnpackedFloat.mul .binary64 x.toModel.unpack y.toModel.unpack) :=
  rfl

theorem neg_eq (x : Float) : -x = ofUnpacked x.toModel.unpack.neg :=
  rfl

theorem abs_eq (x : Float) : x.abs = ofUnpacked x.toModel.unpack.abs :=
  rfl

theorem unpack_ofUnpacked {p : Parts} {u : UnpackedFloat} (h : HasParts p u)
    (hu : u ≠ .notANumber) : (ofUnpacked u).toModel.unpack = u := by
  cases u with
  | notANumber => exact absurd rfl hu
  | infinity s => cases s <;> rfl
  | zero s => cases s <;> rfl
  | finite s m e hm =>
    obtain ⟨-, hnormal, he⟩ := h
    exact unpack_pack_finite hnormal he

theorem isNaN_ofUnpacked {p : Parts} {u : UnpackedFloat} (h : HasParts p u)
    (hu : u ≠ .notANumber) : (ofUnpacked u).isNaN = false := by
  rw [isNaN_eq_false_iff, unpack_ofUnpacked h hu]
  exact hu

theorem parts_eq_of_hasParts {p p' : Parts} {u : UnpackedFloat} (h : HasParts p u)
    (h' : HasParts p' u) (hu : u ≠ .notANumber) : p = p' := by
  cases u with
  | notANumber => exact absurd rfl hu
  | infinity s => exact h.trans h'.symm
  | zero s => exact h.trans h'.symm
  | finite s m e hm => exact h.1.trans h'.1.symm

theorem parts_ofUnpacked {p : Parts} {u : UnpackedFloat} (h : HasParts p u)
    (hu : u ≠ .notANumber) : parts (ofUnpacked u) = p := by
  refine parts_eq_of_hasParts ?_ h hu
  have hparts := hasParts_unpack (ofUnpacked u)
  rwa [unpack_ofUnpacked h hu] at hparts

/-! ## Signs -/

theorem hasParts_neg {p : Parts} {u : UnpackedFloat} (h : HasParts p u) :
    HasParts { p with negative := !p.negative } u.neg := by
  cases u with
  | notANumber => exact h
  | infinity s => cases h; cases s <;> rfl
  | zero s => cases h; cases s <;> rfl
  | finite s m e hm =>
    obtain ⟨rfl, hnormal⟩ := h
    refine ⟨?_, hnormal⟩
    cases s <;> rfl

theorem hasParts_abs {p : Parts} {u : UnpackedFloat} (h : HasParts p u) :
    HasParts { p with negative := false } u.abs := by
  cases u with
  | notANumber => exact h
  | infinity s => cases h; rfl
  | zero s => cases h; rfl
  | finite s m e hm =>
    obtain ⟨rfl, hnormal⟩ := h
    exact ⟨rfl, hnormal⟩

theorem neg_ne {u : UnpackedFloat} (hu : u ≠ .notANumber) : u.neg ≠ .notANumber := by
  cases u <;> simp_all [UnpackedFloat.neg]

section Signs

variable {x : Float} (hx : x.isNaN = false)

include hx

theorem isNaN_neg : (-x).isNaN = false :=
  isNaN_ofUnpacked (hasParts_neg (hasParts_unpack x)) (neg_ne (isNaN_eq_false_iff.1 hx))

theorem isNaN_abs : x.abs.isNaN = false :=
  isNaN_ofUnpacked (hasParts_abs (hasParts_unpack x)) (abs_ne (isNaN_eq_false_iff.1 hx))

end Signs

/-! ## Whole numbers -/

/-- A natural number below `2 ^ 53` with its place and a sign. -/
def whole (s : Sign) (n : Nat) : UnpackedFloat :=
  if h : 0 < n then .finite s (n * 2 ^ (52 - n.log2)) (-(52 - n.log2 : Nat))
    (Nat.mul_pos h (Nat.two_pow_pos _))
  else .zero s

section Whole

variable {n : Nat}

theorem whole_ne (s : Sign) : whole s n ≠ .notANumber := by
  unfold whole
  split_ifs <;> simp

theorem neg_whole (s : Sign) : (whole s n).neg = whole (-s) n := by
  unfold whole
  split_ifs <;> rfl

variable (hn : n < 2 ^ 53)

include hn

theorem isNormal_whole (hpos : 0 < n) :
    IsNormal (n * 2 ^ (52 - n.log2)) (-(52 - n.log2 : Nat)) := by
  have hlog : n.log2 < 53 := (Nat.log2_lt (Nat.ne_of_gt hpos)).2 hn
  have hlow := Nat.log2_self_le (Nat.ne_of_gt hpos)
  have hhigh := Nat.lt_log2_self (n := n)
  have hfull : 2 ^ 52 ≤ n * 2 ^ (52 - n.log2) :=
    calc 2 ^ 52 = 2 ^ n.log2 * 2 ^ (52 - n.log2) := by rw [← Nat.pow_add]; congr 1; omega
      _ ≤ n * 2 ^ (52 - n.log2) := Nat.mul_le_mul_right _ hlow
  refine ⟨Nat.mul_pos hpos (Nat.two_pow_pos _), ?_, by omega, .inl hfull⟩
  calc n * 2 ^ (52 - n.log2) < 2 ^ (n.log2 + 1) * 2 ^ (52 - n.log2) :=
        Nat.mul_lt_mul_of_pos_right hhigh (Nat.two_pow_pos _)
    _ = 2 ^ 53 := by rw [← Nat.pow_add]; congr 1; omega

theorem exists_hasParts_whole (s : Sign) : ∃ p, HasParts p (whole s n) := by
  unfold whole
  split_ifs with hpos
  · exact ⟨_, rfl, isNormal_whole hn hpos, by omega⟩
  · exact ⟨_, rfl⟩

theorem normalize_whole : UnpackedFloat.normalize .binary64 n 0 .positive = whole .positive n := by
  unfold whole
  split_ifs with hpos
  · have hnormal := isNormal_whole hn hpos
    have hlog : n.log2 < 53 := (Nat.log2_lt (Nat.ne_of_gt hpos)).2 hn
    have hcompare : compare (n : Int) 0 = .gt := compare_gt_iff_gt.2 (by omega)
    have hround := roundWithAccuracy_eq hnormal .positive 0
    rw [Nat.pow_zero, Nat.mul_one, Int.ofNat_zero, Int.sub_zero] at hround
    have htarget : Format.binary64.targetExponent (Float.Model.totalExponent n 0)
        = -(52 - n.log2 : Nat) := by
      have hbits : (Format.binary64.mantissaBits : Int) = 53 := rfl
      have hmin : Format.binary64.minExponent = -1074 := rfl
      rw [Format.targetExponent, Float.Model.totalExponent, hbits, hmin]
      omega
    have hshift : (0 - -(52 - n.log2 : Nat) : Int).toNat = 52 - n.log2 := by omega
    have hexponent : (0 - (52 - n.log2 : Nat) : Int) = -(52 - n.log2 : Nat) := Int.zero_sub _
    simp only [UnpackedFloat.normalize, hcompare, Int.toNat_natCast, UnpackedFloat.round, htarget,
      decreaseExponent, hshift, hexponent, Nat.shiftLeft_eq, hround]
  · have hzero : n = 0 := by omega
    subst hzero
    rfl

/-- A natural number below `2 ^ 53` is exactly the number it is made into. -/
theorem ofNat_eq : Float.ofNat n = ofUnpacked (whole .positive n) := by
  obtain ⟨p, hp⟩ := exists_hasParts_whole hn .positive
  have hsize : n.toUInt64.toNat = n := by
    rw [Nat.toUInt64, UInt64.toNat_ofNat']
    omega
  have hfloat : n.toUInt64.toFloat = ofUnpacked (whole .positive n) := by
    rw [← normalize_whole hn]
    conv_rhs => rw [← hsize]
    rfl
  have hone : (Float.ofBits 0x3FF0000000000000).toModel.unpack
      = .finite .positive (2 ^ 52) (-52) (by decide) := rfl
  have hmul : Float.ofNat n = n.toUInt64.toFloat * Float.ofBits 0x3FF0000000000000 :=
    dif_pos (show n < 2 ^ 53 ∧ 0 ≤ 22 from ⟨hn, by decide⟩)
  rw [hmul, mul_eq, hone, hfloat, unpack_ofUnpacked hp (whole_ne _)]
  congr 1
  unfold whole
  split_ifs with hpos
  · have hround := roundWithAccuracy_eq (isNormal_whole hn hpos) .positive 52
    exact hround
  · rfl

theorem isNaN_ofNat : (Float.ofNat n).isNaN = false := by
  obtain ⟨p, hp⟩ := exists_hasParts_whole hn .positive
  rw [ofNat_eq hn]
  exact isNaN_ofUnpacked hp (whole_ne _)

end Whole

/-- A number times one is the number, and times minus one its negative. -/
theorem mul_whole_one {n : Nat} (hn : n < 2 ^ 53) (s s' : Sign) :
    UnpackedFloat.mul .binary64 (.finite s (2 ^ 52) (-52) (by decide)) (whole s' n)
      = whole (s * s') n := by
  unfold whole
  split_ifs with hpos
  · have hround := roundWithAccuracy_eq (isNormal_whole hn hpos) (s * s') 52
    rw [UnpackedFloat.mul, Nat.mul_comm, Int.add_comm]
    exact hround
  · rfl

/-! ## Whole numbers with a sign -/

theorem ofInt_eq {n : Int} (hn : n.natAbs < 2 ^ 53) :
    Float.ofInt n = ofUnpacked (whole (if n < 0 then .negative else .positive) n.natAbs) := by
  cases n with
  | ofNat n => exact ofNat_eq hn
  | negSucc n =>
    have hn' : n + 1 < 2 ^ 53 := hn
    obtain ⟨p, hp⟩ := exists_hasParts_whole hn' .positive
    have hneg : Float.ofInt (.negSucc n) = -Float.ofNat (n + 1) := rfl
    rw [hneg, ofNat_eq hn', neg_eq, unpack_ofUnpacked hp (whole_ne _), neg_whole,
      if_pos (Int.negSucc_lt_zero n), Int.natAbs_negSucc]
    rfl

theorem one_mul_ofInt {n : Int} (hn : n.natAbs < 2 ^ 53) :
    1.0 * Float.ofInt n = Float.ofInt n := by
  have hone : (1.0 : Float).toModel.unpack = .finite .positive (2 ^ 52) (-52) (by decide) := rfl
  obtain ⟨p, hp⟩ := exists_hasParts_whole hn (if n < 0 then .negative else .positive)
  rw [ofInt_eq hn, mul_eq, hone, unpack_ofUnpacked hp (whole_ne _), mul_whole_one hn]
  split_ifs <;> rfl

theorem neg_one_mul_ofInt {n : Int} (hn : n.natAbs < 2 ^ 53) :
    -1.0 * Float.ofInt n = -Float.ofInt n := by
  have hone : (-1.0 : Float).toModel.unpack = .finite .negative (2 ^ 52) (-52) (by decide) := rfl
  obtain ⟨p, hp⟩ := exists_hasParts_whole hn (if n < 0 then .negative else .positive)
  rw [ofInt_eq hn, mul_eq, hone, neg_eq, unpack_ofUnpacked hp (whole_ne _), mul_whole_one hn,
    neg_whole]
  split_ifs <;> rfl

theorem neg_neg_ofInt {n : Int} (hn : n.natAbs < 2 ^ 53) : - -Float.ofInt n = Float.ofInt n := by
  obtain ⟨p, hp⟩ := exists_hasParts_whole hn (if n < 0 then .negative else .positive)
  obtain ⟨q, hq⟩ := exists_hasParts_whole hn (-(if n < 0 then .negative else .positive))
  rw [ofInt_eq hn, neg_eq (ofUnpacked _), unpack_ofUnpacked hp (whole_ne _), neg_whole, neg_eq,
    unpack_ofUnpacked hq (whole_ne _), neg_whole]
  split_ifs <;> rfl

end Worksheet.Number
