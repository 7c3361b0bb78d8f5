import Mathlib.Tactic.SplitIfs
import Worksheet.Number.Reading

/-!
# Classes of characters

Digits, capitals and letters are runs of character codes, and the capital of a small letter is
thirty-two codes before it.  So whether a character or its capital is of a class is a question about
numbers.
-/

namespace Worksheet

variable {c : Char}

theorem isDigit_iff_toNat : Number.isDigit c = true ↔ 48 ≤ c.toNat ∧ c.toNat ≤ 57 :=
  Bool.and_eq_true_iff.trans (and_congr decide_eq_true_iff decide_eq_true_iff)

theorem isUpper_iff_toNat : c.isUpper = true ↔ 65 ≤ c.toNat ∧ c.toNat ≤ 90 :=
  decide_eq_true_iff

theorem isLower_iff_toNat : c.isLower = true ↔ 97 ≤ c.toNat ∧ c.toNat ≤ 122 :=
  Bool.and_eq_true_iff.trans (and_congr decide_eq_true_iff decide_eq_true_iff)

theorem isAlpha_iff_toNat : c.isAlpha = true ↔
    (65 ≤ c.toNat ∧ c.toNat ≤ 90) ∨ (97 ≤ c.toNat ∧ c.toNat ≤ 122) :=
  Bool.or_eq_true_iff.trans (or_congr isUpper_iff_toNat isLower_iff_toNat)

theorem toNat_toUpper (c : Char) : c.toUpper.toNat =
    if 97 ≤ c.toNat ∧ c.toNat ≤ 122 then c.toNat - 32 else c.toNat := by
  have hlower : ('a'.val ≤ c.val ∧ c.val ≤ 'z'.val) ↔ 97 ≤ c.toNat ∧ c.toNat ≤ 122 := by
    simp only [UInt32.le_iff_toNat_le]
    rfl
  unfold Char.toUpper
  split_ifs with h h' h'
  · have hshift : ('A'.val - 'a'.val).toNat = 4294967264 := rfl
    have hval : c.toNat = c.val.toNat := rfl
    have hsum := UInt32.toNat_add c.val ('A'.val - 'a'.val)
    rw [hshift, ← hval] at hsum
    exact hsum.trans (by omega)
  · exact absurd (hlower.1 h) h'
  · exact absurd (hlower.2 h') h
  · rfl

/-- Only letters have a capital form that is a capital letter. -/
theorem isAlpha_of_isUpper_toUpper (h : c.toUpper.isUpper = true) : c.isAlpha = true := by
  rw [isUpper_iff_toNat, toNat_toUpper] at h
  rw [isAlpha_iff_toNat]
  split_ifs at h <;> omega

theorem isUpper_toUpper_of_isAlpha (h : c.isAlpha = true) : c.toUpper.isUpper = true := by
  rw [isAlpha_iff_toNat] at h
  rw [isUpper_iff_toNat, toNat_toUpper]
  split_ifs <;> omega

theorem not_isAlpha_of_isDigit (h : Number.isDigit c = true) : c.isAlpha = false := by
  rw [isDigit_iff_toNat] at h
  rw [← Bool.not_eq_true, isAlpha_iff_toNat]
  omega

/-- Only a digit has a capital form that is a digit, and that is the digit itself. -/
theorem toUpper_of_isDigit_toUpper (h : Number.isDigit c.toUpper = true) : c.toUpper = c := by
  rw [isDigit_iff_toNat, toNat_toUpper] at h
  rw [← Char.toNat_inj, toNat_toUpper]
  split_ifs at h ⊢ <;> omega

theorem toUpper_of_toNat_lt (h : c.toNat < 97) : c.toUpper = c := by
  rw [← Char.toNat_inj, toNat_toUpper, if_neg (by omega)]

/-- A text of capitals and digits is its own capital form. -/
theorem map_toUpper_of_capitals {s : List Char}
    (h : ∀ c ∈ s, c.isUpper = true ∨ Number.isDigit c = true) : s.map Char.toUpper = s := by
  have hself : ∀ c ∈ s, c.toUpper = c := by
    intro c hc
    refine toUpper_of_toNat_lt ?_
    rcases h c hc with hupper | hdigit
    · rw [isUpper_iff_toNat] at hupper
      omega
    · rw [isDigit_iff_toNat] at hdigit
      omega
  rw [List.map_congr_left hself, List.map_id']

end Worksheet
