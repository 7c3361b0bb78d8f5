import Mathlib
import Worksheet.Number.Bits

/-!
# The order of numbers

Any two numbers can be compared unless one of them is what is no number: of two others, the one is
below the other exactly if the other is not at most it (`Number.not_lt_iff`).  The distance of two
finite numbers can always be compared, even where it is too large to be finite
(`Number.isNaN_abs_sub`).
-/

namespace Worksheet.Number

open Float.Model (UnpackedFloat Format)
open Float.Model.UnpackedFloat

/-! ## Packing -/

theorem unpack_packComponents_ne {spec : Format} {s : Sign} {e : BitVec spec.exponentBits}
    {m : BitVec spec.mantissaBitsWithoutImplicit}
    (h : e = -BitVec.ofNat spec.exponentBits 1 → m = 0) :
    unpack spec (packComponents spec s e m) ≠ .notANumber := by
  simp only [UnpackedFloat.unpack, unpackExponent_packComponents, unpackMantissa_packComponents]
  split_ifs with he hm
  · simp
  · exact absurd (h he) hm
  all_goals simp

/-- Packing makes a number of every number, an infinite one at worst. -/
theorem unpack_pack_ne {x : UnpackedFloat} (hx : x ≠ .notANumber) :
    unpack Format.binary64 (UnpackedFloat.pack Format.binary64 x) ≠ .notANumber := by
  cases x with
  | notANumber => exact absurd rfl hx
  | infinity s => exact unpack_packComponents_ne fun _ => rfl
  | zero s => exact unpack_packComponents_ne fun _ => rfl
  | finite s m e hm =>
    simp only [UnpackedFloat.pack]
    split_ifs with hlarge
    · exact unpack_packComponents_ne fun _ => rfl
    · refine unpack_packComponents_ne fun h => absurd ?_ hlarge
      have hfield := congrArg BitVec.toNat h
      rw [BitVec.toNat_ofNat, BitVec.toNat_neg] at hfield
      simp only [BitVec.toNat_ofNat] at hfield
      generalize (e + Format.binary64.exponentBias + (52 : Nat)).toNat = k at *
      omega
    · refine unpack_packComponents_ne fun h => absurd h ?_
      decide

theorem isNaN_eq_false_iff {x : Float} : x.isNaN = false ↔ x.toModel.unpack ≠ .notANumber := by
  unfold Float.isNaN Float.Model.isNaN UnpackedFloat.isNaN
  split <;> simp_all

/-! ## Differences -/

theorem round_ne (spec : Format) (s : Sign) (m : Nat) (e : Int) :
    UnpackedFloat.round spec s m e ≠ .notANumber := by
  unfold UnpackedFloat.round roundWithAccuracy
  dsimp only
  split_ifs <;> simp

theorem normalize_ne (spec : Format) (m e : Int) (s : Sign) :
    UnpackedFloat.normalize spec m e s ≠ .notANumber := by
  unfold UnpackedFloat.normalize
  split
  · exact round_ne _ _ _ _
  · simp
  · exact round_ne _ _ _ _

theorem sub_ne {spec : Format} {x y : UnpackedFloat} (hx : x.isFinite = true)
    (hy : y.isFinite = true) : UnpackedFloat.sub spec x y ≠ .notANumber := by
  cases x with
  | notANumber | infinity => cases hx
  | zero s =>
    cases y with
    | notANumber | infinity => cases hy
    | zero s' => simp only [UnpackedFloat.sub]; split_ifs <;> simp
    | finite => simp [UnpackedFloat.sub]
  | finite s m e hm =>
    cases y with
    | notANumber | infinity => cases hy
    | zero s' => simp [UnpackedFloat.sub]
    | finite => exact normalize_ne _ _ _ _

theorem abs_ne {x : UnpackedFloat} (hx : x ≠ .notANumber) : x.abs ≠ .notANumber := by
  cases x <;> simp_all [UnpackedFloat.abs]

/-- The distance of two finite numbers is a number. -/
theorem isNaN_abs_sub {x y : Float} (hx : x.isFinite = true) (hy : y.isFinite = true) :
    (x - y).abs.isNaN = false := by
  have hsub : (x - y).toModel.unpack ≠ .notANumber := unpack_pack_ne (sub_ne hx hy)
  exact isNaN_eq_false_iff.2 (unpack_pack_ne (abs_ne hsub))

/-! ## Comparisons -/

theorem compare_swap {x y : UnpackedFloat} (hx : x ≠ .notANumber) (hy : y ≠ .notANumber) :
    ∃ o, UnpackedFloat.compare x y = some o ∧ UnpackedFloat.compare y x = some o.swap := by
  have hint : ∀ a b : Int, compare b a = (compare a b).swap := fun a b => Std.OrientedCmp.eq_swap
  have hnat : ∀ a b : Nat, compare b a = (compare a b).swap := fun a b => Std.OrientedCmp.eq_swap
  cases x with
  | notANumber => exact absurd rfl hx
  | infinity s =>
    cases y with
    | notANumber => exact absurd rfl hy
    | infinity s' => cases s <;> cases s' <;> exact ⟨_, rfl, rfl⟩
    | zero s' => cases s <;> exact ⟨_, rfl, rfl⟩
    | finite s' m e hm => cases s <;> exact ⟨_, rfl, rfl⟩
  | zero s =>
    cases y with
    | notANumber => exact absurd rfl hy
    | infinity s' => cases s' <;> exact ⟨_, rfl, rfl⟩
    | zero s' => exact ⟨_, rfl, rfl⟩
    | finite s' m e hm => cases s' <;> exact ⟨_, rfl, rfl⟩
  | finite s m e hm =>
    cases y with
    | notANumber => exact absurd rfl hy
    | infinity s' => cases s' <;> exact ⟨_, rfl, rfl⟩
    | zero s' => cases s <;> exact ⟨_, rfl, rfl⟩
    | finite s' m' e' hm' =>
      cases s <;> cases s' <;>
        refine ⟨_, rfl, ?_⟩ <;>
        simp [UnpackedFloat.compare, hint e e', hnat m m', Ordering.swap_then]

theorem not_lt_iff {x y : Float} (hx : x.isNaN = false) (hy : y.isNaN = false) :
    ¬ x < y ↔ y ≤ x := by
  obtain ⟨o, hxy, hyx⟩ := compare_swap (isNaN_eq_false_iff.1 hx) (isNaN_eq_false_iff.1 hy)
  have hlt : x < y ↔ o = .lt := by
    simp only [LT.lt, Float.lt, Float.Model.lt, UnpackedFloat.lt, hxy]
    cases o <;> simp
  have hle : y ≤ x ↔ o.swap.isLE = true := by
    simp only [LE.le, Float.le, Float.Model.le, UnpackedFloat.le, hyx]
    cases o <;> simp
  rw [hlt, hle]
  cases o <;> simp

end Worksheet.Number
