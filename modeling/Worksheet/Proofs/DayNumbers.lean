import Worksheet.Proofs.MonthShifts

/-!
# The numbers of days

Days are numbered in the order of their dates (`Date.number_lt_number`), so no two dates have the
same number and none has a greater one than the last date.  Of any seven days in a row five are
workdays (`Date.workdaysFrom_week`), so whole weeks are counted by themselves
(`Date.workdaysFrom_weeks`).
-/

namespace Worksheet.Date

/-! ## Days of a year -/

section Year

variable {year : Int} {month month' : Nat}

theorem daysBeforeMonth_succ (h : 1 ≤ month) :
    daysBeforeMonth year (month + 1) = daysBeforeMonth year month + daysInMonth year month := by
  obtain ⟨m, rfl⟩ : ∃ m, month = m + 1 := ⟨month - 1, by omega⟩
  rfl

theorem daysBeforeMonth_add_le (year : Int) (h : 1 ≤ month) (hlt : month < month') :
    daysBeforeMonth year month + daysInMonth year month ≤ daysBeforeMonth year month' := by
  induction month', hlt using Nat.le_induction with
  | base => exact (daysBeforeMonth_succ h).ge
  | succ m hm ih =>
    rw [daysBeforeMonth_succ (by omega)]
    exact ih.trans (Nat.le_add_right _ _)

theorem daysBeforeYear_eq (year : Int) : daysBeforeYear year
    = 365 * (year - 1) + (year - 1) / 4 - (year - 1) / 100 + (year - 1) / 400 :=
  rfl

/-- The days before the last month and those of the last month are those of the year. -/
theorem daysBeforeYear_succ : daysBeforeYear (year + 1)
    = daysBeforeYear year + daysBeforeMonth year 12 + 31 := by
  have hmonths : daysBeforeMonth year 12 = if isLeapYear year then 335 else 334 := by
    rcases hleap : isLeapYear year with _ | _ <;> simp [daysBeforeMonth, daysInMonth, hleap]
  rw [hmonths, daysBeforeYear_eq, daysBeforeYear_eq]
  split_ifs with hleap <;>
    simp only [isLeapYear, ne_eq, decide_not, Bool.and_eq_true, Bool.or_eq_true, Bool.not_eq_true',
      decide_eq_true_eq, decide_eq_false_iff_not] at hleap
  all_goals omega

end Year

theorem daysBeforeYear_mono {year year' : Int} (h : year ≤ year') :
    daysBeforeYear year ≤ daysBeforeYear year' := by
  rw [daysBeforeYear_eq, daysBeforeYear_eq]
  omega

/-! ## The order of dates -/

section Order

variable {d d' : Date}

theorem lt_number (d : Date) : daysBeforeYear d.year < d.number := by
  have hday := d.bounds.2.2.1
  unfold number
  omega

theorem number_le (d : Date) : d.number ≤ daysBeforeYear (d.year + 1) := by
  obtain ⟨-, hmonth, -, hday⟩ := d.bounds
  rw [daysBeforeYear_succ, number]
  have hlast : daysInMonth d.year 12 = 31 := rfl
  rw [lastDay] at hday
  rcases Nat.lt_or_eq_of_le hmonth.2 with hlt | heq
  · have hle := daysBeforeMonth_add_le d.year hmonth.1 hlt
    omega
  · rw [heq] at hday ⊢
    omega

/-- A date of an earlier year, or an earlier month or day of the year, has a smaller number. -/
theorem number_lt_number (h : d.year < d'.year ∨ d.year = d'.year
    ∧ (d.month < d'.month ∨ d.month = d'.month ∧ d.day < d'.day)) : d.number < d'.number := by
  obtain ⟨-, hmonth, -, hday⟩ := d.bounds
  have hpos := d'.bounds.2.2.1
  rcases h with hyear | ⟨hyear, hmonths | ⟨hmonths, hdays⟩⟩
  · have hmono := daysBeforeYear_mono (show d.year + 1 ≤ d'.year by omega)
    exact (d.number_le.trans hmono).trans_lt d'.lt_number
  · have hle := daysBeforeMonth_add_le d.year hmonth.1 hmonths
    unfold number lastDay at *
    rw [← hyear]
    omega
  · unfold number
    rw [← hyear, ← hmonths]
    omega

/-- Different dates have different numbers. -/
theorem number_injective (h : d.number = d'.number) : d = d' := by
  have hlt : ∀ e e' : Date, e.number = e'.number → ¬ (e.year < e'.year ∨ e.year = e'.year
      ∧ (e.month < e'.month ∨ e.month = e'.month ∧ e.day < e'.day)) :=
    fun e e' heq hless => (number_lt_number hless).ne heq
  have hforth := hlt d d' h
  have hback := hlt d' d h.symm
  obtain ⟨year, month, day, hexists⟩ := d
  obtain ⟨year', month', day', hexists'⟩ := d'
  simp only at hforth hback
  obtain rfl : year = year' := by omega
  obtain rfl : month = month' := by omega
  obtain rfl : day = day' := by omega
  rfl

theorem number_le_last (d : Date) : d.number ≤ last.number := by
  have hmono := daysBeforeYear_mono (show d.year + 1 ≤ 262143 by have := d.bounds.1; omega)
  exact d.number_le.trans hmono

theorem neg_lt_number (d : Date) : -100000000 < d.number := by
  have hmono := daysBeforeYear_mono d.bounds.1.1
  have hfirst : daysBeforeYear (-262143) = -95746130 := rfl
  have hlt := d.lt_number
  omega

theorem last_number : last.number = 95745399 :=
  rfl

end Order

/-! ## Days of a week -/

theorem isWorkday_iff (n : Int) : isWorkday n = true ↔ 1 ≤ n % 7 ∧ n % 7 ≤ 5 := by
  unfold isWorkday weekdayOf
  rw [decide_eq_true_iff]
  omega

theorem isWorkday_emod (n i : Int) : isWorkday (n + i) = isWorkday (n % 7 + i) := by
  rw [Bool.eq_iff_iff, isWorkday_iff, isWorkday_iff, Int.emod_add_emod]

/-- The number of workdays among some days in a row. -/
def workdaysFrom (first : Int) (days : Nat) : Nat :=
  (List.range days).countP fun i => isWorkday (first + (i : Nat))

/-- Of seven days in a row five are workdays. -/
theorem workdaysFrom_week (first : Int) : workdaysFrom first 7 = 5 := by
  have hlow := Int.emod_nonneg first (show (7 : Int) ≠ 0 by decide)
  have hhigh := Int.emod_lt_of_pos first (show (0 : Int) < 7 by decide)
  unfold workdaysFrom
  simp only [isWorkday_emod first]
  generalize first % 7 = k at *
  interval_cases k <;> decide

theorem workdaysFrom_add (first : Int) (m n : Nat) :
    workdaysFrom first (m + n) = workdaysFrom first m + workdaysFrom (first + m) n := by
  unfold workdaysFrom
  rw [List.range_add, List.countP_append, List.countP_map]
  congr 1
  refine List.countP_congr fun i _ => ?_
  rw [Function.comp_apply, Nat.cast_add, Int.add_assoc]

/-- Whole weeks are counted by themselves, wherever the other days are. -/
theorem workdaysFrom_weeks (first : Int) (days : Nat) : ∀ weeks : Nat,
    workdaysFrom first (days + 7 * weeks) = workdaysFrom first days + 5 * weeks
  | 0 => rfl
  | weeks + 1 => by
    have hlength : days + 7 * (weeks + 1) = days + 7 * weeks + 7 := by ring
    rw [hlength, workdaysFrom_add, workdaysFrom_weeks first days weeks, workdaysFrom_week]
    ring

end Worksheet.Date
