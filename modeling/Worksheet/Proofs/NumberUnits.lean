import Worksheet.Proofs.NumberParts

/-!
# Numbers as whole numbers of units

Every number is a whole number of units of `2 ^ -1074`, and two numbers are ordered as their units
are (`Number.lt_iff_units`).  The whole part of a number is the quotient of its units by those of
one (`Number.toInt_eq`), which is how bounds on a number carry over to its whole part and back.
-/

namespace Worksheet.Number

open Float.Model (UnpackedFloat Format)
open Float.Model.UnpackedFloat

/-! ## Units -/

/-- The number of units of `2 ^ -1074` in `2 ^ e`. -/
@[irreducible]
def unitsIn (e : Int) : Nat :=
  2 ^ (e + 1074).toNat

theorem unitsIn_pos (e : Int) : 0 < unitsIn e := by
  unfold unitsIn
  exact Nat.two_pow_pos _

theorem unitsIn_add {e : Int} (h : -1074 ≤ e) (k : Nat) : unitsIn (e + k) = unitsIn e * 2 ^ k := by
  unfold unitsIn
  rw [← Nat.pow_add]
  congr 1
  omega

/-- A magnitude in units, of which every number is a whole number. -/
def magnitude (m : Nat) (e : Int) : Nat :=
  m * unitsIn e

/-- The number of units with its sign. -/
def Parts.units (p : Parts) : Int :=
  if p.negative then -(magnitude p.significand p.exponent : Int)
  else magnitude p.significand p.exponent

def units (x : Float) : Int :=
  (parts x).units

@[simp]
theorem magnitude_zero (e : Int) : magnitude 0 e = 0 :=
  Nat.zero_mul _

theorem IsNormal.magnitude_pos {m : Nat} {e : Int} (h : IsNormal m e) : 0 < magnitude m e :=
  Nat.mul_pos h.pos (unitsIn_pos e)

theorem units_mk (s : Sign) (m : Nat) (e : Int) :
    Parts.units ⟨isNegative s, m, e⟩ = s.apply (magnitude m e) := by
  cases s <;> rfl

theorem isNormal_infinity : IsNormal (2 ^ 52) 972 :=
  ⟨by decide, by decide, by decide, .inl (Nat.le_refl _)⟩

section Order

variable {m m' : Nat} {e e' : Int}

/-- Of two magnitudes the one with the greater exponent is the greater one. -/
theorem magnitude_lt_of_lt (h : IsNormal m e) (h' : IsNormal m' e') (he : e < e') :
    magnitude m e < magnitude m' e' := by
  have hge := h.ge
  have hfull : 2 ^ 52 ≤ m' := h'.full.resolve_right (by omega)
  obtain ⟨k, rfl⟩ : ∃ k : Nat, e' = e + (1 + k : Nat) := ⟨(e' - e - 1).toNat, by omega⟩
  calc magnitude m e < 2 ^ 53 * unitsIn e := Nat.mul_lt_mul_of_pos_right h.lt (unitsIn_pos e)
    _ = 2 ^ 52 * (unitsIn e * 2 ^ 1) := by ring
    _ ≤ m' * (unitsIn e * 2 ^ (1 + k)) := Nat.mul_le_mul hfull
        (Nat.mul_le_mul_left _ (Nat.pow_le_pow_right Nat.two_pos (Nat.le_add_right 1 k)))
    _ = magnitude m' (e + (1 + k : Nat)) := by rw [magnitude, unitsIn_add hge]

theorem then_eq_lt_iff (h : IsNormal m e) (h' : IsNormal m' e') :
    (compare e e').then (compare m m') = .lt ↔ magnitude m e < magnitude m' e' := by
  rw [Ordering.then_eq_lt, compare_lt_iff_lt, compare_eq_iff_eq, compare_lt_iff_lt]
  rcases lt_trichotomy e e' with hlt | rfl | hgt
  · simp [hlt, magnitude_lt_of_lt h h' hlt]
  · simp [magnitude, Nat.mul_lt_mul_right (unitsIn_pos e)]
  · simp [hgt.not_gt, hgt.ne', (magnitude_lt_of_lt h' h hgt).not_gt]

theorem swap_then_eq_lt_iff (h : IsNormal m e) (h' : IsNormal m' e') :
    ((compare e e').then (compare m m')).swap = .lt ↔ magnitude m' e' < magnitude m e := by
  have he : (compare e e').swap = compare e' e := Std.OrientedCmp.eq_swap.symm
  have hm : (compare m m').swap = compare m' m := Std.OrientedCmp.eq_swap.symm
  rw [Ordering.swap_then, he, hm, then_eq_lt_iff h' h]

theorem compare_eq_lt_iff {p p' : Parts} {u u' : UnpackedFloat} (hp : HasParts p u)
    (hp' : HasParts p' u') (hu : u ≠ .notANumber) (hu' : u' ≠ .notANumber) :
    u.compare u' = some .lt ↔ p.units < p'.units := by
  have hmax := isNormal_infinity.magnitude_pos
  cases u with
  | notANumber => exact absurd rfl hu
  | infinity s =>
    cases hp
    cases u' with
    | notANumber => exact absurd rfl hu'
    | infinity s' =>
      cases hp'
      rw [units_mk, units_mk]
      generalize magnitude (2 ^ 52) 972 = top at hmax ⊢
      cases s <;> cases s' <;> simp [UnpackedFloat.compare, compare, Sign.apply]
      all_goals omega
    | zero s' =>
      cases hp'
      rw [units_mk, units_mk, magnitude_zero]
      generalize magnitude (2 ^ 52) 972 = top at hmax ⊢
      cases s <;> cases s' <;> simp [UnpackedFloat.compare, Sign.apply]
      all_goals omega
    | finite s' m' e' hm' =>
      obtain ⟨rfl, hnormal', he'⟩ := hp'
      have hlt := magnitude_lt_of_lt hnormal' isNormal_infinity (by omega)
      rw [units_mk, units_mk]
      generalize magnitude (2 ^ 52) 972 = top at hlt ⊢
      cases s <;> cases s' <;> simp [UnpackedFloat.compare, Sign.apply]
      all_goals omega
  | zero s =>
    cases hp
    cases u' with
    | notANumber => exact absurd rfl hu'
    | infinity s' =>
      cases hp'
      rw [units_mk, units_mk, magnitude_zero]
      generalize magnitude (2 ^ 52) 972 = top at hmax ⊢
      cases s <;> cases s' <;> simp [UnpackedFloat.compare, Sign.apply]
      all_goals omega
    | zero s' =>
      cases hp'
      rw [units_mk, units_mk, magnitude_zero]
      cases s <;> cases s' <;> simp [UnpackedFloat.compare, Sign.apply]
    | finite s' m' e' hm' =>
      obtain ⟨rfl, hnormal', he'⟩ := hp'
      have hpos := hnormal'.magnitude_pos
      rw [units_mk, units_mk, magnitude_zero]
      cases s <;> cases s' <;> simp [UnpackedFloat.compare, Sign.apply]
      all_goals omega
  | finite s m e hm =>
    obtain ⟨rfl, hnormal, he⟩ := hp
    have hpos := hnormal.magnitude_pos
    cases u' with
    | notANumber => exact absurd rfl hu'
    | infinity s' =>
      cases hp'
      have hlt := magnitude_lt_of_lt hnormal isNormal_infinity (by omega)
      rw [units_mk, units_mk]
      generalize magnitude (2 ^ 52) 972 = top at hlt ⊢
      cases s <;> cases s' <;> simp [UnpackedFloat.compare, Sign.apply]
      all_goals omega
    | zero s' =>
      cases hp'
      rw [units_mk, units_mk, magnitude_zero]
      cases s <;> cases s' <;> simp [UnpackedFloat.compare, Sign.apply]
      all_goals omega
    | finite s' m' e' hm' =>
      obtain ⟨rfl, hnormal', he'⟩ := hp'
      have hpos' := hnormal'.magnitude_pos
      rw [units_mk, units_mk]
      cases s <;> cases s' <;>
        simp [UnpackedFloat.compare, Sign.apply, then_eq_lt_iff hnormal hnormal',
          swap_then_eq_lt_iff hnormal hnormal']
      all_goals omega

end Order

theorem lt_iff_units {x y : Float} (hx : x.isNaN = false) (hy : y.isNaN = false) :
    x < y ↔ units x < units y := by
  rw [units, units, ← compare_eq_lt_iff (hasParts_unpack x) (hasParts_unpack y)
    (isNaN_eq_false_iff.1 hx) (isNaN_eq_false_iff.1 hy)]
  simp only [LT.lt, Float.lt, Float.Model.lt, UnpackedFloat.lt]
  simp

theorem le_iff_units {x y : Float} (hx : x.isNaN = false) (hy : y.isNaN = false) :
    x ≤ y ↔ units x ≤ units y := by
  rw [← not_lt_iff hy hx, lt_iff_units hy hx, not_lt]

/-! ## Signs -/

section Signs

variable {x : Float} (hx : x.isNaN = false)

include hx

theorem units_neg : units (-x) = -units x := by
  rw [units, neg_eq, parts_ofUnpacked (hasParts_neg (hasParts_unpack x))
    (neg_ne (isNaN_eq_false_iff.1 hx)), units]
  unfold Parts.units
  cases (parts x).negative <;> simp

theorem units_abs : units x.abs = |units x| := by
  rw [units, abs_eq, parts_ofUnpacked (hasParts_abs (hasParts_unpack x))
    (abs_ne (isNaN_eq_false_iff.1 hx)), units]
  unfold Parts.units
  cases (parts x).negative <;> simp

end Signs

/-! ## Whole numbers -/

theorem magnitude_of_nonneg (m : Nat) {e : Int} (h : 0 ≤ e) :
    magnitude m e = m * 2 ^ e.toNat * unitsIn 0 := by
  have hadd := unitsIn_add (show (-1074 : Int) ≤ 0 by decide) e.toNat
  rw [Int.toNat_of_nonneg h, Int.zero_add] at hadd
  rw [magnitude, hadd, Nat.mul_assoc, Nat.mul_comm (unitsIn 0)]

theorem unitsIn_mul_two_pow {e : Int} (h : -1074 ≤ e) {k : Nat} (hk : e + k = 0) :
    unitsIn e * 2 ^ k = unitsIn 0 := by
  rw [← unitsIn_add h, hk]

theorem units_ofUnpacked_whole {n : Nat} (hn : n < 2 ^ 53) (s : Sign) :
    units (ofUnpacked (whole s n)) = s.apply (n * unitsIn 0 : Nat) := by
  unfold whole
  split_ifs with hpos
  · have hnormal := isNormal_whole hn hpos
    have hunits := unitsIn_mul_two_pow hnormal.ge (Int.add_left_neg _)
    have hparts : HasParts _ (.finite s _ _ hnormal.pos) := ⟨rfl, hnormal, by omega⟩
    rw [units, parts_ofUnpacked hparts (by simp), units_mk, ← hunits, magnitude, Nat.mul_assoc,
      Nat.mul_comm (2 ^ _)]
  · have hzero : n = 0 := by omega
    have hparts : HasParts _ (.zero s) := rfl
    rw [units, parts_ofUnpacked hparts (by simp), units_mk, magnitude_zero, hzero, Nat.zero_mul]

theorem units_ofNat {n : Nat} (hn : n < 2 ^ 53) :
    units (Float.ofNat n) = (n * unitsIn 0 : Nat) := by
  rw [ofNat_eq hn, units_ofUnpacked_whole hn]
  rfl

/-! ## Whole parts -/

theorem bounds_of_hasParts {p : Parts} {u : UnpackedFloat} (h : HasParts p u)
    (hu : u ≠ .notANumber) : -1074 ≤ p.exponent ∧ p.significand < 2 ^ 53 := by
  cases u with
  | notANumber => exact absurd rfl hu
  | infinity s => cases h; simp
  | zero s => cases h; simp
  | finite s m e hm =>
    obtain ⟨rfl, hnormal, -⟩ := h
    exact ⟨hnormal.ge, hnormal.lt⟩

theorem Parts.whole_of_nonneg {p : Parts} (h : 0 ≤ p.exponent) :
    p.whole = p.significand * 2 ^ p.exponent.toNat := by
  unfold Parts.whole
  split
  · rename_i k hk
    rw [hk]
    rfl
  · omega

theorem Parts.whole_of_neg {p : Parts} (h : p.exponent < 0) :
    p.whole = p.significand / 2 ^ (-p.exponent).toNat := by
  unfold Parts.whole
  split
  · rename_i k hk
    rw [hk] at h
    exact absurd h (Int.not_lt.2 (Int.natCast_nonneg k))
  · rename_i k hk
    rw [hk]
    rfl

theorem Parts.whole_eq {p : Parts} (h : -1074 ≤ p.exponent) :
    p.whole = magnitude p.significand p.exponent / unitsIn 0 := by
  rcases Int.lt_or_le p.exponent 0 with hneg | hnonneg
  · have hunits := unitsIn_mul_two_pow h (k := (-p.exponent).toNat) (by omega)
    rw [whole_of_neg hneg, magnitude, ← hunits, Nat.mul_comm (unitsIn _),
      Nat.mul_div_mul_right _ _ (unitsIn_pos _)]
  · rw [whole_of_nonneg hnonneg, magnitude_of_nonneg _ hnonneg,
      Nat.mul_div_cancel _ (unitsIn_pos 0)]

theorem units_ofWhole {n : Nat} (hn : n < 2 ^ 53) (negative : Bool) :
    (ofWhole negative n).isNaN = false
      ∧ units (ofWhole negative n) = (if negative then -(n : Int) else n) * unitsIn 0 := by
  have hnan := isNaN_ofNat hn
  cases negative with
  | false => exact ⟨hnan, by simp [ofWhole, units_ofNat hn]⟩
  | true => exact ⟨isNaN_neg hnan, by simp [ofWhole, units_neg hnan, units_ofNat hn]⟩

section WholeParts

variable {x : Float} (hx : x.isNaN = false)

include hx

theorem toInt_eq_ite :
    toInt x = if (parts x).negative then -((parts x).whole : Int) else (parts x).whole := by
  rw [toInt, hx]
  rfl

theorem toInt_eq : toInt x = (units x).tdiv (unitsIn 0) := by
  have hbounds := bounds_of_hasParts (hasParts_unpack x) (isNaN_eq_false_iff.1 hx)
  rw [toInt_eq_ite hx, units, Parts.units, Parts.whole_eq hbounds.1]
  split_ifs <;> simp [Int.neg_tdiv]

theorem trunc_spec : (trunc x).isNaN = false ∧ units (trunc x) = toInt x * unitsIn 0 := by
  have hbounds := bounds_of_hasParts (hasParts_unpack x) (isNaN_eq_false_iff.1 hx)
  have htrunc : trunc x
      = if 0 ≤ (parts x).exponent then x else ofWhole (parts x).negative (parts x).whole := rfl
  rw [htrunc, toInt_eq_ite hx]
  by_cases he : 0 ≤ (parts x).exponent
  · rw [if_pos he]
    refine ⟨hx, ?_⟩
    rw [units, Parts.units, magnitude_of_nonneg _ he, ← Parts.whole_of_nonneg he]
    split_ifs <;> simp
  · have hwhole := Parts.whole_of_neg (Int.not_le.1 he)
    have hle := Nat.div_le_self (parts x).significand (2 ^ (-(parts x).exponent).toNat)
    rw [if_neg he]
    exact units_ofWhole (by omega) _

theorem isNaN_trunc : (trunc x).isNaN = false :=
  (trunc_spec hx).1

theorem units_trunc : units (trunc x) = toInt x * unitsIn 0 :=
  (trunc_spec hx).2

theorem lt_ofNat_iff {n : Nat} (hn : n < 2 ^ 53) :
    x < Float.ofNat n ↔ units x < n * unitsIn 0 := by
  rw [lt_iff_units hx (isNaN_ofNat hn), units_ofNat hn, Int.natCast_mul]

theorem ofNat_lt_iff {n : Nat} (hn : n < 2 ^ 53) :
    Float.ofNat n < x ↔ n * unitsIn 0 < units x := by
  rw [lt_iff_units (isNaN_ofNat hn) hx, units_ofNat hn, Int.natCast_mul]

theorem toInt_lt_iff {n : Nat} (hpos : 0 < n) (hn : n < 2 ^ 53) :
    toInt x < n ↔ x < Float.ofNat n := by
  have hunit : (0 : Int) < unitsIn 0 := Int.natCast_pos.2 (unitsIn_pos 0)
  rw [toInt_eq hx, lt_ofNat_iff hx hn]
  rcases Int.le_total 0 (units x) with hnonneg | hneg
  · rw [Int.tdiv_eq_ediv_of_nonneg hnonneg, Int.ediv_lt_iff_lt_mul hunit]
  · have hdiv := Int.tdiv_nonneg (Int.neg_nonneg_of_nonpos hneg) hunit.le
    rw [Int.neg_tdiv] at hdiv
    have hmul : (0 : Int) < n * unitsIn 0 := Int.mul_pos (Int.natCast_pos.2 hpos) hunit
    omega

theorem trunc_lt_one_iff : trunc x < 1.0 ↔ toInt x < 1 := by
  have hone : (1.0 : Float) = Float.ofNat 1 := rfl
  have hunit : (0 : Int) < unitsIn 0 := Int.natCast_pos.2 (unitsIn_pos 0)
  rw [hone, lt_ofNat_iff (isNaN_trunc hx) (by decide), units_trunc hx]
  exact Int.mul_lt_mul_right hunit

theorem ofNat_lt_abs_trunc_iff {n : Nat} (hn : n < 2 ^ 53) :
    Float.ofNat n < (trunc x).abs ↔ n < |toInt x| := by
  have hunit : (0 : Int) < unitsIn 0 := Int.natCast_pos.2 (unitsIn_pos 0)
  rw [ofNat_lt_iff (isNaN_abs (isNaN_trunc hx)) hn, units_abs (isNaN_trunc hx), units_trunc hx,
    abs_mul, abs_of_pos hunit]
  exact Int.mul_lt_mul_right hunit

theorem le_abs_toInt {n : Nat} (hn : n < 2 ^ 53) (h : Float.ofNat n < x.abs) : n ≤ |toInt x| := by
  rw [ofNat_lt_iff (isNaN_abs hx) hn, units_abs hx, Int.abs_eq_natAbs] at h
  have hle : n ≤ (units x).natAbs / unitsIn 0 :=
    (Nat.le_div_iff_mul_le (unitsIn_pos 0)).2 (by exact_mod_cast h.le)
  rw [toInt_eq hx, Int.abs_eq_natAbs, Int.natAbs_tdiv, Int.natAbs_natCast]
  exact Int.ofNat_le.2 hle

end WholeParts

theorem toInt_ofNat {n : Nat} (hn : n < 2 ^ 53) : toInt (Float.ofNat n) = n := by
  rw [toInt_eq (isNaN_ofNat hn), units_ofNat hn, Int.natCast_mul,
    Int.mul_tdiv_cancel _ (Int.natCast_pos.2 (unitsIn_pos 0)).ne']

theorem toInt_zero : toInt 0.0 = 0 := by
  have hfloat : (0.0 : Float) = Float.ofNat 0 := rfl
  have hzero := toInt_ofNat (Nat.two_pow_pos 53)
  rw [← hfloat] at hzero
  exact hzero

theorem toInt_neg {x : Float} (hx : x.isNaN = false) : toInt (-x) = -toInt x := by
  rw [toInt_eq (isNaN_neg hx), toInt_eq hx, units_neg hx, Int.neg_tdiv]

theorem toInt_ofInt {n : Int} (hn : n.natAbs < 2 ^ 53) :
    (Float.ofInt n).isNaN = false ∧ toInt (Float.ofInt n) = n := by
  cases n with
  | ofNat n => exact ⟨isNaN_ofNat hn, toInt_ofNat hn⟩
  | negSucc n =>
    have hn' : n + 1 < 2 ^ 53 := hn
    have hneg : Float.ofInt (.negSucc n) = -Float.ofNat (n + 1) := rfl
    rw [hneg]
    refine ⟨isNaN_neg (isNaN_ofNat hn'), ?_⟩
    rw [toInt_neg (isNaN_ofNat hn'), toInt_ofNat hn']
    omega

/-! ## What is no number -/

theorem unpack_of_isNaN {x : Float} (hx : x.isNaN = true) : x.toModel.unpack = .notANumber := by
  by_contra hne
  rw [isNaN_eq_false_iff.2 hne] at hx
  cases hx

theorem ne_of_compare_eq {u u' : UnpackedFloat} {o : Ordering} (h : u.compare u' = some o) :
    u ≠ .notANumber ∧ u' ≠ .notANumber := by
  constructor <;> rintro rfl
  · simp [UnpackedFloat.compare] at h
  · cases u <;> simp [UnpackedFloat.compare] at h

theorem isNaN_of_lt {x y : Float} (h : x < y) : x.isNaN = false ∧ y.isNaN = false := by
  simp only [LT.lt, Float.lt, Float.Model.lt, UnpackedFloat.lt, beq_iff_eq, decide_eq_true_eq] at h
  simpa only [isNaN_eq_false_iff] using ne_of_compare_eq h

theorem isNaN_of_le {x y : Float} (h : x ≤ y) : x.isNaN = false ∧ y.isNaN = false := by
  simp only [LE.le, Float.le, Float.Model.le, UnpackedFloat.le] at h
  obtain ⟨o, ho, -⟩ := (Option.any_eq_true _ _).1 (of_decide_eq_true h)
  simpa only [isNaN_eq_false_iff] using ne_of_compare_eq ho

theorem not_lt_of_lt {x y : Float} (h : x < y) : ¬ y < x := by
  obtain ⟨hx, hy⟩ := isNaN_of_lt h
  rw [lt_iff_units hx hy] at h
  rw [lt_iff_units hy hx]
  exact h.le.not_gt

theorem lt_of_lt_of_le {x y z : Float} (h : x < y) (h' : y ≤ z) : x < z := by
  obtain ⟨hx, hy⟩ := isNaN_of_lt h
  have hz := (isNaN_of_le h').2
  rw [lt_iff_units hx hy] at h
  rw [le_iff_units hy hz] at h'
  exact (lt_iff_units hx hz).2 (h.trans_le h')

theorem lt_iff_compare {x y : Float} :
    x < y ↔ x.toModel.unpack.compare y.toModel.unpack = some .lt := by
  simp only [LT.lt, Float.lt, Float.Model.lt, UnpackedFloat.lt, beq_iff_eq, decide_eq_true_eq]

theorem beq_iff_compare {x y : Float} :
    (x == y) = true ↔ x.toModel.unpack.compare y.toModel.unpack = some .eq := by
  have hbeq : (x == y) = (x.toModel.unpack.compare y.toModel.unpack == some .eq) := rfl
  rw [hbeq, beq_iff_eq]

/-- Two numbers are equal if they have the same units, as the two zeros have. -/
theorem beq_iff_units {x y : Float} :
    (x == y) = true ↔ x.isNaN = false ∧ y.isNaN = false ∧ units x = units y := by
  rw [beq_iff_compare]
  by_cases hnan : x.isNaN = false ∧ y.isNaN = false
  · obtain ⟨hx, hy⟩ := hnan
    have hlt := lt_iff_units hx hy
    have hgt := lt_iff_units hy hx
    obtain ⟨o, hxy, hyx⟩ := compare_swap (isNaN_eq_false_iff.1 hx) (isNaN_eq_false_iff.1 hy)
    rw [lt_iff_compare, hxy] at hlt
    rw [lt_iff_compare, hyx] at hgt
    have heq : o = .eq ↔ units x = units y := by
      cases o <;> simp at hlt hgt ⊢ <;> omega
    rw [hxy, Option.some.injEq, heq]
    exact ⟨fun h => ⟨hx, hy, h⟩, fun h => h.2.2⟩
  · refine iff_of_false (fun h => hnan ?_) fun h => hnan ⟨h.1, h.2.1⟩
    simpa only [isNaN_eq_false_iff] using ne_of_compare_eq h

theorem trunc_of_isNaN {x : Float} (hx : x.isNaN = true) : trunc x = x := by
  have hparts := hasParts_unpack x
  rw [unpack_of_isNaN hx] at hparts
  exact if_pos hparts

theorem isNaN_abs_of_isNaN {x : Float} (hx : x.isNaN = true) : x.abs.isNaN = true := by
  rw [abs_eq, unpack_of_isNaN hx]
  rfl

theorem toInt_trunc (x : Float) : toInt (trunc x) = toInt x := by
  rcases hx : x.isNaN with _ | _
  · rw [toInt_eq (isNaN_trunc hx), units_trunc hx,
      Int.mul_tdiv_cancel _ (Int.natCast_pos.2 (unitsIn_pos 0)).ne']
  · rw [trunc_of_isNaN hx]

/-! ## Sizes -/

section Sizes

variable {x : Float}

theorem toSize_eq_min (x : Float) : toSize x = min (toInt x).toNat 0xFFFFFFFFFFFFFFFF := by
  unfold toSize clamp
  omega

theorem toInt_lt_one (h : trunc x < 1.0) : toInt x < 1 := by
  have hx : x.isNaN = false := by
    rw [← Bool.not_eq_true]
    intro hnan
    rw [trunc_of_isNaN hnan] at h
    rw [(isNaN_of_lt h).1] at hnan
    cases hnan
  exact (trunc_lt_one_iff hx).1 h

theorem not_trunc_lt_one (h : 1 ≤ toInt x) : ¬ trunc x < 1.0 := fun hlow => by
  have hint := toInt_lt_one hlow
  omega

theorem not_trunc_lt_zero (h : 0 ≤ toInt x) : ¬ trunc x < 0.0 := by
  intro hlow
  have hzero : (0.0 : Float) = Float.ofNat 0 := rfl
  rcases hx : x.isNaN with _ | _
  · rw [hzero, lt_ofNat_iff (isNaN_trunc hx) (by decide), units_trunc hx] at hlow
    have hnonneg : 0 ≤ toInt x * unitsIn 0 := Int.mul_nonneg h (Int.natCast_nonneg _)
    simp at hlow
    omega
  · rw [trunc_of_isNaN hx] at hlow
    rw [(isNaN_of_lt hlow).1] at hx
    cases hx

theorem toOffset_eq (h : 1 ≤ toInt x) : toOffset x = toSize x - 1 := by
  rw [toOffset, if_neg]
  intro hnan
  rw [toInt, if_pos hnan] at h
  omega

theorem toSize_ofNat {n : Nat} (hn : n < 2 ^ 53) : toSize (Float.ofNat n) = n := by
  rw [toSize_eq_min, toInt_ofNat hn, Int.toNat_natCast]
  omega

theorem ofNat_inj {m n : Nat} (hm : m < 2 ^ 53) (hn : n < 2 ^ 53) :
    Float.ofNat m = Float.ofNat n ↔ m = n := by
  refine ⟨fun h => ?_, congrArg _⟩
  have hint := congrArg toInt h
  rw [toInt_ofNat hm, toInt_ofNat hn] at hint
  exact Int.ofNat_inj.1 hint

end Sizes

end Worksheet.Number
