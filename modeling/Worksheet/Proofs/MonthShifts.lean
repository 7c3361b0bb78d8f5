import Worksheet.Proofs.NumberUnits
import Worksheet.Proofs.Readings

/-!
# Shifting dates by months

Months are numbered through all years, so that shifting a date is adding to the number of its month
(`Date.shiftMonths?_eq_some_iff`), and the day before the first of the next month is the last one of
the month (`Date.endOfMonth?_eq_some_iff`).  There are fewer months than the greatest shift, which
is therefore no bound of its own (`Functions.shiftBy_eq`).
-/

namespace Worksheet

open Functions

namespace Date

/-- Whether the month with a number is in a year that dates can have. -/
def HasMonth (k : Int) : Prop :=
  -262143 ≤ k / 12 ∧ k / 12 ≤ 262142

/-- The number of days of the month that a date is in. -/
def lastDay (d : Date) : Nat :=
  daysInMonth d.year d.month

theorem daysInMonth_bounds (year : Int) (month : Nat) :
    28 ≤ daysInMonth year month ∧ daysInMonth year month ≤ 31 := by
  unfold daysInMonth
  split_ifs <;> omega

theorem isDate_iff {year : Int} {month day : Nat} : isDate year month day = true ↔
    (-262143 ≤ year ∧ year ≤ 262142) ∧ (1 ≤ month ∧ month ≤ 12)
      ∧ 1 ≤ day ∧ day ≤ daysInMonth year month := by
  simp [isDate, and_assoc]

theorem bounds (d : Date) : (-262143 ≤ d.year ∧ d.year ≤ 262142) ∧ (1 ≤ d.month ∧ d.month ≤ 12)
    ∧ 1 ≤ d.day ∧ d.day ≤ d.lastDay :=
  isDate_iff.1 d.exists_day

theorem ofParts?_eq_some_iff {year : Int} {month day : Nat} {d : Date} :
    ofParts? year month day = some d ↔ d.year = year ∧ d.month = month ∧ d.day = day := by
  refine ⟨fun h => ?_, ?_⟩
  · unfold ofParts? at h
    split_ifs at h
    cases h
    exact ⟨rfl, rfl, rfl⟩
  · rintro ⟨rfl, rfl, rfl⟩
    exact ofParts?_eq_self d

section Months

variable {d d' : Date} {k n : Int}

theorem year_eq (d : Date) : d.year = d.monthNumber / 12 := by
  have hmonth := d.bounds.2.1
  unfold monthNumber
  omega

theorem month_eq (d : Date) : d.month = (d.monthNumber % 12).toNat + 1 := by
  have hmonth := d.bounds.2.1
  unfold monthNumber
  omega

theorem hasMonth (d : Date) : HasMonth d.monthNumber := by
  rw [HasMonth, ← year_eq]
  exact d.bounds.1

/-- A date is in the month with a number if its year and its month are those of the number. -/
theorem monthNumber_eq_iff :
    d.monthNumber = k ↔ d.year = k / 12 ∧ d.month = (k % 12).toNat + 1 := by
  refine ⟨?_, ?_⟩
  · rintro rfl
    exact ⟨d.year_eq, d.month_eq⟩
  · rintro ⟨hyear, hmonth⟩
    unfold monthNumber
    omega

theorem inMonth?_eq_some_iff {day : Nat} :
    inMonth? k day = some d' ↔ d'.monthNumber = k ∧ d'.day = min day d'.lastDay := by
  rw [inMonth?, ofParts?_eq_some_iff, ← and_assoc, ← monthNumber_eq_iff]
  refine and_congr_right fun hk => ?_
  rw [lastDay, (monthNumber_eq_iff.1 hk).1, (monthNumber_eq_iff.1 hk).2]

theorem exists_inMonth? {day : Nat} (hk : HasMonth k) (hday : 1 ≤ day) :
    ∃ d', inMonth? k day = some d' := by
  have hdays := daysInMonth_bounds (k / 12) ((k % 12).toNat + 1)
  unfold HasMonth at hk
  exact ⟨_, dif_pos (isDate_iff.2 (by omega))⟩

theorem inMonth?_eq_none {day : Nat} (hk : ¬ HasMonth k) : inMonth? k day = none := by
  refine Option.eq_none_iff_forall_ne_some.2 fun d' hd => hk ?_
  rw [← (inMonth?_eq_some_iff.1 hd).1]
  exact d'.hasMonth

/-! ## Shifting -/

theorem shiftMonths?_eq_some_iff : d.shiftMonths? n = some d' ↔
    d'.monthNumber = d.monthNumber + n ∧ d'.day = min d.day d'.lastDay :=
  inMonth?_eq_some_iff

theorem exists_shiftMonths? (h : HasMonth (d.monthNumber + n)) :
    ∃ d', d.shiftMonths? n = some d' :=
  exists_inMonth? h d.bounds.2.2.1

theorem shiftMonths?_eq_none (h : ¬ HasMonth (d.monthNumber + n)) : d.shiftMonths? n = none :=
  inMonth?_eq_none h

/-! ## Ends of months -/

/-- The day before the first day of a month is the last day of the month before. -/
theorem previous?_eq_some_iff (hday : d.day = 1) :
    d.previous? = some d' ↔ d'.monthNumber + 1 = d.monthNumber ∧ d'.day = d'.lastDay := by
  have hmonth := d.bounds.2.1
  have hmonth' := d'.bounds.2.1
  unfold previous?
  rw [if_neg (by omega)]
  split_ifs with hfirst
  · rw [ofParts?_eq_some_iff, lastDay]
    unfold monthNumber
    refine ⟨?_, fun h => ?_⟩
    · rintro ⟨hyear, hmonths, hdays⟩
      rw [hyear, hmonths]
      exact ⟨by omega, hdays⟩
    · have hyear : d'.year = d.year := by omega
      have hmonths : d'.month = d.month - 1 := by omega
      rw [hyear, hmonths] at h
      exact ⟨hyear, hmonths, h.2⟩
  · rw [ofParts?_eq_some_iff, lastDay]
    unfold monthNumber
    refine ⟨?_, fun h => ?_⟩
    · rintro ⟨hyear, hmonths, hdays⟩
      rw [hmonths, hdays]
      exact ⟨by omega, rfl⟩
    · have hmonths : d'.month = 12 := by omega
      rw [hmonths] at h
      exact ⟨by omega, hmonths, h.2⟩

/-- The last month there is has no first day of a next month after it. -/
theorem endOfMonth?_eq_some_iff : d.endOfMonth? n = some d' ↔
    HasMonth (d.monthNumber + n + 1) ∧ d'.monthNumber = d.monthNumber + n
      ∧ d'.day = d'.lastDay := by
  rw [endOfMonth?, ← Int.add_assoc]
  by_cases hnext : HasMonth (d.monthNumber + n + 1)
  · obtain ⟨e, he⟩ := exists_inMonth? hnext (Nat.le_refl 1)
    obtain ⟨hmonth, hday⟩ := inMonth?_eq_some_iff.1 he
    have hfirst : e.day = 1 := by
      have hdays := daysInMonth_bounds e.year e.month
      unfold lastDay at hday
      omega
    rw [he, Option.bind_some, previous?_eq_some_iff hfirst, hmonth]
    simp only [hnext, true_and]
    refine and_congr_left fun _ => ⟨fun h => ?_, fun h => ?_⟩ <;> omega
  · rw [inMonth?_eq_none hnext]
    simp [hnext]

/-- The end of a month does not depend on the day one starts from. -/
theorem endOfMonth?_congr {m : Int} (h : d.monthNumber + n = d'.monthNumber + m) :
    d.endOfMonth? n = d'.endOfMonth? m := by
  rw [endOfMonth?, endOfMonth?, ← Int.add_assoc, ← Int.add_assoc, h]

theorem exists_endOfMonth? (hk : HasMonth (d.monthNumber + n))
    (hnext : HasMonth (d.monthNumber + n + 1)) : ∃ d', d.endOfMonth? n = some d' := by
  obtain ⟨d', hd⟩ := exists_inMonth? hk (show 1 ≤ 31 by decide)
  obtain ⟨hmonth, hday⟩ := inMonth?_eq_some_iff.1 hd
  refine ⟨d', endOfMonth?_eq_some_iff.2 ⟨hnext, hmonth, ?_⟩⟩
  have hlast := (daysInMonth_bounds d'.year d'.month).2
  rw [hday, lastDay]
  omega

theorem endOfMonth?_eq_none (hk : ¬ HasMonth (d.monthNumber + n)) : d.endOfMonth? n = none := by
  refine Option.eq_none_iff_forall_ne_some.2 fun d' hd => hk ?_
  rw [← (endOfMonth?_eq_some_iff.1 hd).2.1]
  exact d'.hasMonth

/-- No two months are as far apart as the greatest shift. -/
theorem not_hasMonth_of_le_abs (h : 6291456 ≤ |n|) : ¬ HasMonth (d.monthNumber + n) := by
  have hmonth := d.hasMonth
  unfold HasMonth at hmonth ⊢
  rcases abs_cases n with ⟨habs, -⟩ | ⟨habs, -⟩ <;> omega

end Months

end Date

theorem Date.text_injective {d d' : Date} (h : d.text = d'.text) : d = d' := by
  have hmoment := Moment.read?_dateText d
  rw [h, Moment.read?_dateText d', Option.some.injEq] at hmoment
  exact congrArg Moment.date hmoment.symm

/-! ## Shifts as functions -/

/-- Whether a function of dates finds nothing where there is no month to shift to. -/
def StaysInCalendar (shift : Date → Int → Option Date) : Prop :=
  ∀ d n, ¬ Date.HasMonth (d.monthNumber + n) → shift d n = none

theorem staysInCalendar_of_shift? {f : Builtin} {shift : Date → Int → Option Date}
    (hf : f.shift? = some shift) : StaysInCalendar shift := by
  cases f <;> cases hf
  · exact fun _ _ => Date.shiftMonths?_eq_none
  · exact fun _ _ => Date.endOfMonth?_eq_none

/-- What a shift comes to: a text, or `#NUM!`. -/
def shiftedValue : Option Date → Value
  | some d => .text d.text
  | none => .error .badNumber

theorem eq_some_of_shiftedValue {shifted : Option Date} {d : Date}
    (h : Argument.scalar (shiftedValue shifted) = .scalar (.text d.text)) : shifted = some d := by
  cases shifted with
  | none => cases h
  | some d' =>
    rw [shiftedValue, Argument.scalar.injEq, Value.text.injEq] at h
    rw [Date.text_injective h]

namespace Functions

theorem greatestShift_eq : greatestShift = Float.ofNat 6291456 :=
  rfl

/-- The bound on the number of months never decides, for beyond it there is no month. -/
theorem shiftBy_eq {shift : Date → Int → Option Date} {args : List Argument} {m : Moment}
    {x : Float} (hshift : StaysInCalendar shift) (hm : momentAt args 0 = .ok m)
    (hx : numberAt args 1 = .ok x) :
    settle (shiftBy shift args) = shiftedValue (shift m.date (Number.toInt x)) := by
  have hmonths : monthsAt args 1 = if greatestShift < (Number.trunc x).abs then
      .error .badNumber else .ok (Number.toInt x) := by
    rw [monthsAt, hx]
    simp only [bind, Except.bind, Number.toInt_trunc]
  rw [shiftBy, hm]
  simp only [bind, Except.bind, hmonths]
  split_ifs with hgreat
  · have hnumber : x.isNaN = false := by
      rw [← Bool.not_eq_true]
      intro hnan
      have habs := Number.isNaN_abs_of_isNaN hnan
      rw [Number.trunc_of_isNaN hnan] at hgreat
      rw [(Number.isNaN_of_lt hgreat).2] at habs
      cases habs
    rw [greatestShift_eq, Number.ofNat_lt_abs_trunc_iff hnumber (by decide)] at hgreat
    rw [hshift _ _ (Date.not_hasMonth_of_le_abs hgreat.le)]
    rfl
  · rcases hd : shift m.date (Number.toInt x) with _ | d <;> simp only [hd] <;> rfl

theorem settle_shiftBy_of_error {shift : Date → Int → Option Date} {args : List Argument}
    {e : ErrorToken} (h : momentAt args 0 = .error e) : settle (shiftBy shift args) = .error e := by
  rw [shiftBy, h]
  rfl

theorem settle_shiftBy_of_error_months {shift : Date → Int → Option Date} {args : List Argument}
    {m : Moment} {e : ErrorToken} (hm : momentAt args 0 = .ok m)
    (h : numberAt args 1 = .error e) : settle (shiftBy shift args) = .error e := by
  rw [shiftBy, hm, monthsAt, h]
  rfl

end Functions

namespace Expression

variable {t : Table} {now : Moment}

theorem evaluate_shift {f : Builtin} {shift : Date → Int → Option Date}
    (hf : f.shift? = some shift) (d m : Expression) : (call f [d, m]).evaluate t now
      = .scalar (settle (shiftBy shift [d.evaluate t now, m.evaluate t now])) := by
  have hne : f ≠ .ifElse := by rintro rfl; cases hf
  have harity : f.arity = ⟨2, some 2⟩ := by cases f <;> first | rfl | cases hf
  rw [evaluate_call_eq_value (by rw [harity]; exact Nat.le_refl 2)
    (by rw [harity]; exact Nat.le_refl 2) hne, value_of_shift? hf]
  rfl

section Shifts

variable {f : Builtin} {shift : Date → Int → Option Date} (hf : f.shift? = some shift)
  {d m : Expression}

include hf

theorem evaluate_shift_of_reads {date : Date} {x : Float} (hd : d.ReadsDate t now date)
    (hm : m.ReadsNumber t now x) :
    (call f [d, m]).evaluate t now = .scalar (shiftedValue (shift date (Number.toInt x))) := by
  have hfirst : [d.evaluate t now, m.evaluate t now][0]? = some (d.evaluate t now) := rfl
  have hsecond : [d.evaluate t now, m.evaluate t now][1]? = some (m.evaluate t now) := rfl
  obtain ⟨moment, hmoment, rfl⟩ := (readsDate_iff hfirst).1 hd
  have hx := (readsNumber_iff hsecond).1 hm
  rw [evaluate_shift hf, shiftBy_eq (staysInCalendar_of_shift? hf) hmoment hx]

/-- Where a shift comes to the text of a date, it could read what it was given. -/
theorem exists_of_evaluate_shift_eq {date' : Date}
    (h : (call f [d, m]).evaluate t now = .scalar (.text date'.text)) :
    ∃ date x, d.ReadsDate t now date ∧ m.ReadsNumber t now x
      ∧ shift date (Number.toInt x) = some date' := by
  have hfirst : [d.evaluate t now, m.evaluate t now][0]? = some (d.evaluate t now) := rfl
  have hsecond : [d.evaluate t now, m.evaluate t now][1]? = some (m.evaluate t now) := rfl
  have hshift := h
  rw [evaluate_shift hf, shiftBy] at hshift
  rcases hmoment : momentAt [d.evaluate t now, m.evaluate t now] 0 with e | moment
  · rw [hmoment] at hshift
    cases hshift
  rcases hx : numberAt [d.evaluate t now, m.evaluate t now] 1 with e | x
  · rw [hmoment, monthsAt, hx] at hshift
    cases hshift
  have hd : d.ReadsDate t now moment.date := (readsDate_iff hfirst).2 ⟨moment, hmoment, rfl⟩
  have hm : m.ReadsNumber t now x := (readsNumber_iff hsecond).2 hx
  refine ⟨moment.date, x, hd, hm, ?_⟩
  rw [evaluate_shift_of_reads hf hd hm] at h
  exact eq_some_of_shiftedValue h

end Shifts

/-- The text that a shift comes to is read as the date. -/
theorem readsDate_of_evaluate_eq {e : Expression} {date : Date}
    (h : e.evaluate t now = .scalar (.text date.text)) : e.ReadsDate t now date :=
  ⟨date.text, .midnight date, by rw [h]; rfl, Moment.read?_dateText date, rfl⟩

/-- The end of a month is found from any of its days. -/
theorem evaluate_eoMonth_eq (d m : Expression) : (call .eoMonth [d, m]).evaluate t now
    = (call .eoMonth [call .eDate [d, m], number 0.0]).evaluate t now := by
  have hnumber : (number 0.0).ReadsNumber t now 0.0 := readsNumber_number 0.0
  have hpasses : ∀ e, settle (shiftBy Date.endOfMonth? [.scalar (.error e),
      (number 0.0).evaluate t now]) = .error e := fun e => settle_shiftBy_of_error rfl
  rcases hmoment : momentAt [d.evaluate t now, m.evaluate t now] 0 with e | moment
  · rw [evaluate_shift rfl, evaluate_shift rfl, evaluate_shift rfl,
      settle_shiftBy_of_error hmoment, settle_shiftBy_of_error hmoment, hpasses]
  rcases hx : numberAt [d.evaluate t now, m.evaluate t now] 1 with e | x
  · rw [evaluate_shift rfl, evaluate_shift rfl, evaluate_shift rfl,
      settle_shiftBy_of_error_months hmoment hx, settle_shiftBy_of_error_months hmoment hx, hpasses]
  have hd : d.ReadsDate t now moment.date := (readsDate_iff rfl).2 ⟨moment, hmoment, rfl⟩
  have hm : m.ReadsNumber t now x := (readsNumber_iff rfl).2 hx
  have hshift := evaluate_shift_of_reads (f := .eDate) rfl hd hm
  rw [evaluate_shift_of_reads rfl hd hm]
  rcases hdate : moment.date.shiftMonths? (Number.toInt x) with _ | date
  · have hmonth : ¬ Date.HasMonth (moment.date.monthNumber + Number.toInt x) := by
      intro hmonth
      obtain ⟨date, hsome⟩ := Date.exists_shiftMonths? hmonth
      rw [hdate] at hsome
      cases hsome
    rw [hdate] at hshift
    rw [Date.endOfMonth?_eq_none hmonth, evaluate_shift rfl, hshift]
    exact congrArg _ (hpasses _).symm
  · rw [hdate] at hshift
    have hmonth := (Date.shiftMonths?_eq_some_iff.1 hdate).1
    rw [evaluate_shift_of_reads rfl (readsDate_of_evaluate_eq hshift) hnumber,
      Number.toInt_zero]
    exact congrArg _ (congrArg _ (Date.endOfMonth?_congr (by omega)))

theorem evaluate_shifts_of_not_hasMonth {d m : Expression} {date : Date} {x : Float}
    (hd : d.ReadsDate t now date) (hm : m.ReadsNumber t now x)
    (hmonth : ¬ Date.HasMonth (date.monthNumber + Number.toInt x)) :
    (call .eDate [d, m]).evaluate t now = .scalar (.error .badNumber)
      ∧ (call .eoMonth [d, m]).evaluate t now = .scalar (.error .badNumber) := by
  rw [evaluate_shift_of_reads rfl hd hm, evaluate_shift_of_reads rfl hd hm,
    Date.shiftMonths?_eq_none hmonth, Date.endOfMonth?_eq_none hmonth]
  exact ⟨rfl, rfl⟩

/-- Two shifts come to the month of one shift by their sum. -/
theorem monthNumber_eq_of_evaluate_eq {d a b c : Expression} {x y z : Float} {date₁ date₂ : Date}
    (ha : a.ReadsNumber t now x) (hb : b.ReadsNumber t now y) (hc : c.ReadsNumber t now z)
    (hsum : Number.toInt z = Number.toInt x + Number.toInt y)
    (h₁ : (call .eDate [.call .eDate [d, a], b]).evaluate t now = .scalar (.text date₁.text))
    (h₂ : (call .eDate [d, c]).evaluate t now = .scalar (.text date₂.text)) :
    date₁.monthNumber = date₂.monthNumber := by
  obtain ⟨date, z', hd, hz, hdate₂⟩ := exists_of_evaluate_shift_eq rfl h₂
  obtain ⟨middle, y', hmiddle, hy, hdate₁⟩ := exists_of_evaluate_shift_eq rfl h₁
  have hmiddle' := evaluate_shift_of_reads (f := .eDate) rfl hd ha
  rcases hshift : date.shiftMonths? (Number.toInt x) with _ | date'
  · rw [hshift] at hmiddle'
    obtain ⟨s, m, hs, -⟩ := hmiddle
    rw [hmiddle'] at hs
    cases hs
  · rw [hshift] at hmiddle'
    obtain rfl := hmiddle.unique (readsDate_of_evaluate_eq hmiddle')
    have hmonth := (Date.shiftMonths?_eq_some_iff.1 hshift).1
    have hmonth₁ := (Date.shiftMonths?_eq_some_iff.1 hdate₁).1
    have hmonth₂ := (Date.shiftMonths?_eq_some_iff.1 hdate₂).1
    rw [hy.unique hb] at hmonth₁
    rw [hz.unique hc] at hmonth₂
    omega

end Expression

/-- No month is as far away as the greatest shift. -/
theorem Date.not_hasMonth_of_lt_abs (d : Date) {x : Float} (h : 6291456.0 < x.abs) :
    ¬ HasMonth (d.monthNumber + Number.toInt x) := by
  have hnumber : x.isNaN = false := by
    rw [← Bool.not_eq_true]
    intro hnan
    have habs := Number.isNaN_abs_of_isNaN hnan
    rw [(Number.isNaN_of_lt h).2] at habs
    cases habs
  exact not_hasMonth_of_le_abs (Number.le_abs_toInt hnumber (by decide) h)

/-- What it is for the month functions to follow the calendar: a date is shifted to the month that
is so many months later, or to `#NUM!` if there is no such month, and the end of that month is the
end of the month of the shifted date. -/
structure ShiftsByCalendar (t : Table) (now : Moment) : Prop where
  shifted : ∀ (d m : Expression) (date : Date) (x : Float), d.ReadsDate t now date →
    m.ReadsNumber t now x → Date.HasMonth (date.monthNumber + Number.toInt x) →
    ∃ date' : Date, (Expression.call .eDate [d, m]).evaluate t now = .scalar (.text date'.text)
      ∧ date'.monthNumber = date.monthNumber + Number.toInt x
      ∧ date'.day = min date.day date'.lastDay
  outside : ∀ (d m : Expression) (date : Date) (x : Float), d.ReadsDate t now date →
    m.ReadsNumber t now x → ¬ Date.HasMonth (date.monthNumber + Number.toInt x) →
    (Expression.call .eDate [d, m]).evaluate t now = .scalar (.error .badNumber)
      ∧ (Expression.call .eoMonth [d, m]).evaluate t now = .scalar (.error .badNumber)
  tooFar : ∀ (d m : Expression) (date : Date) (x : Float), d.ReadsDate t now date →
    m.ReadsNumber t now x → 6291456.0 < x.abs →
    (Expression.call .eDate [d, m]).evaluate t now = .scalar (.error .badNumber)
      ∧ (Expression.call .eoMonth [d, m]).evaluate t now = .scalar (.error .badNumber)
  endOfMonth : ∀ (d m : Expression) (date date' : Date) (x : Float), d.ReadsDate t now date →
    m.ReadsNumber t now x →
    (Expression.call .eoMonth [d, m]).evaluate t now = .scalar (.text date'.text) →
    date'.monthNumber = date.monthNumber + Number.toInt x ∧ date'.day = date'.lastDay
  endOfMonth_isDate : ∀ (d m : Expression) (date : Date) (x : Float), d.ReadsDate t now date →
    m.ReadsNumber t now x → Date.HasMonth (date.monthNumber + Number.toInt x) →
    Date.HasMonth (date.monthNumber + Number.toInt x + 1) →
    ∃ date' : Date, (Expression.call .eoMonth [d, m]).evaluate t now = .scalar (.text date'.text)
  lastMonth : ∀ (d m : Expression) (date : Date) (x : Float), d.ReadsDate t now date →
    m.ReadsNumber t now x → ¬ Date.HasMonth (date.monthNumber + Number.toInt x + 1) →
    (Expression.call .eoMonth [d, m]).evaluate t now = .scalar (.error .badNumber)
  composed : ∀ d m : Expression, (Expression.call .eoMonth [d, m]).evaluate t now
    = (Expression.call .eoMonth [.call .eDate [d, m], .number 0.0]).evaluate t now
  sameMonth : ∀ (d a b c : Expression) (x y z : Float) (date₁ date₂ : Date),
    a.ReadsNumber t now x → b.ReadsNumber t now y → c.ReadsNumber t now z →
    Number.toInt z = Number.toInt x + Number.toInt y →
    (Expression.call .eDate [.call .eDate [d, a], b]).evaluate t now = .scalar (.text date₁.text) →
    (Expression.call .eDate [d, c]).evaluate t now = .scalar (.text date₂.text) →
    date₁.monthNumber = date₂.monthNumber

/-- Shifting by months is arithmetic with the numbers of months. -/
theorem shifts_by_calendar (t : Table) (now : Moment) : ShiftsByCalendar t now where
  shifted := by
    intro d m date x hd hm hmonth
    obtain ⟨date', hdate⟩ := Date.exists_shiftMonths? hmonth
    refine ⟨date', ?_, Date.shiftMonths?_eq_some_iff.1 hdate⟩
    rw [Expression.evaluate_shift_of_reads rfl hd hm, hdate]
    rfl
  outside := fun _ _ _ _ => Expression.evaluate_shifts_of_not_hasMonth
  tooFar := fun _ _ date _ hd hm hfar =>
    Expression.evaluate_shifts_of_not_hasMonth hd hm (date.not_hasMonth_of_lt_abs hfar)
  endOfMonth := by
    intro d m date date' x hd hm h
    rw [Expression.evaluate_shift_of_reads rfl hd hm] at h
    exact (Date.endOfMonth?_eq_some_iff.1 (eq_some_of_shiftedValue h)).2
  endOfMonth_isDate := by
    intro d m date x hd hm hmonth hnext
    obtain ⟨date', hdate⟩ := Date.exists_endOfMonth? hmonth hnext
    refine ⟨date', ?_⟩
    rw [Expression.evaluate_shift_of_reads rfl hd hm, hdate]
    rfl
  lastMonth := by
    intro d m date x hd hm hnext
    have hnone : date.endOfMonth? (Number.toInt x) = none :=
      Option.eq_none_iff_forall_ne_some.2 fun _ h => hnext (Date.endOfMonth?_eq_some_iff.1 h).1
    rw [Expression.evaluate_shift_of_reads rfl hd hm, hnone]
    rfl
  composed := Expression.evaluate_eoMonth_eq
  sameMonth := fun _ _ _ _ _ _ _ _ _ => Expression.monthNumber_eq_of_evaluate_eq

/-- The last day of a January in a leap year is shifted to the last one of February and from there
to the month that it is shifted to at once, and no date is shifted beyond the calendar. -/
theorem shifts_endOfJanuary :
    (∃ february march march' : Date,
      (Expression.call .eDate [.text "2024-01-31", .number 1.0]).evaluate Table.empty
          (.midnight .epoch) = .scalar (.text february.text)
        ∧ (february.year = 2024 ∧ february.month = 2 ∧ february.day = 29)
        ∧ (Expression.call .eDate [.call .eDate [.text "2024-01-31", .number 1.0],
          .number 1.0]).evaluate Table.empty (.midnight .epoch) = .scalar (.text march.text)
        ∧ (Expression.call .eDate [.text "2024-01-31", .number 2.0]).evaluate Table.empty
          (.midnight .epoch) = .scalar (.text march'.text)
        ∧ march.monthNumber = march'.monthNumber)
      ∧ (∃ february : Date, (Expression.call .eoMonth [.text "2024-01-31", .number 1.0]).evaluate
          Table.empty (.midnight .epoch) = .scalar (.text february.text)
        ∧ february.day = february.lastDay)
      ∧ (Expression.call .eDate [.text "2024-01-31", .number 1e9]).evaluate Table.empty
          (.midnight .epoch) = .scalar (.error .badNumber)
      ∧ (Expression.call .eDate [.text "+262142-12-31", .number 1.0]).evaluate Table.empty
          (.midnight .epoch) = .scalar (.error .badNumber)
      ∧ (Expression.call .eoMonth [.text "+262142-12-31", .number 0.0]).evaluate Table.empty
          (.midnight .epoch) = .scalar (.error .badNumber) := by
  have hshifts := shifts_by_calendar Table.empty (.midnight .epoch)
  have hnumber : ∀ x, (Expression.number x).ReadsNumber Table.empty (.midnight .epoch) x :=
    Expression.readsNumber_number
  have hone : Number.toInt 1.0 = 1 := by decide +kernel
  have htwo : Number.toInt 2.0 = 2 := by decide +kernel
  have hd : (Expression.text "2024-01-31").ReadsDate Table.empty (.midnight .epoch)
      ⟨2024, 1, 31, by decide⟩ := Expression.readsDate_of_evaluate_eq rfl
  have hlast : (Expression.text "+262142-12-31").ReadsDate Table.empty (.midnight .epoch) .last :=
    Expression.readsDate_of_evaluate_eq rfl
  obtain ⟨february, hfebruary, hmonth, hday⟩ := hshifts.shifted _ _ _ _ hd (hnumber 1.0)
    (by rw [hone]; exact ⟨by decide, by decide⟩)
  have hyear : february.year = 2024 ∧ february.month = 2 := by
    have hmonths : february.monthNumber = 12 * 2024 + 1 := by
      rw [hmonth, hone]
      rfl
    have hbounds := february.bounds.2.1
    rw [Date.monthNumber] at hmonths
    omega
  have hends : february.lastDay = 29 := by
    rw [Date.lastDay, hyear.1, hyear.2]
    rfl
  rw [hends] at hday
  obtain ⟨march, hmarch, -⟩ := hshifts.shifted _ _ _ _
    (Expression.readsDate_of_evaluate_eq hfebruary) (hnumber 1.0)
    (by rw [hmonth, hone]; exact ⟨by decide, by decide⟩)
  obtain ⟨march', hmarch', -⟩ := hshifts.shifted _ _ _ _ hd (hnumber 2.0)
    (by rw [htwo]; exact ⟨by decide, by decide⟩)
  obtain ⟨february', hfebruary'⟩ := hshifts.endOfMonth_isDate _ _ _ _ hd (hnumber 1.0)
    (by rw [hone]; exact ⟨by decide, by decide⟩) (by rw [hone]; exact ⟨by decide, by decide⟩)
  refine ⟨⟨february, march, march', hfebruary, ⟨hyear.1, hyear.2, hday⟩, hmarch, hmarch', ?_⟩,
    ⟨february', hfebruary', ?_⟩, ?_, ?_, ?_⟩
  · exact hshifts.sameMonth _ _ _ _ _ _ _ _ _ (hnumber 1.0) (hnumber 1.0) (hnumber 2.0)
      (by rw [hone, htwo]; rfl) hmarch hmarch'
  · exact (hshifts.endOfMonth _ _ _ _ _ hd (hnumber 1.0) hfebruary').2
  · exact (hshifts.tooFar _ _ _ _ hd (hnumber 1e9) (by decide +kernel)).1
  · refine (hshifts.outside _ _ _ _ hlast (hnumber 1.0) ?_).1
    rw [hone]
    rintro ⟨-, hle⟩
    exact absurd hle (by decide)
  · refine hshifts.lastMonth _ _ _ _ hlast (hnumber 0.0) ?_
    rw [Number.toInt_zero]
    rintro ⟨-, hle⟩
    exact absurd hle (by decide)

end Worksheet
