import Worksheet.Proofs.DayNumbers

/-!
# Counting workdays

`NETWORKDAYS` counts whole weeks by themselves and only walks over the days that are left.  It comes
to the number of workdays from day to day (`Functions.workdaysBetween_add_overlooked`), except that
the walk never comes to the last date there is: where that date ends a span of less than six days
after its beginning, the count is one too small (`countsWorkdays_iff`).
-/

namespace Worksheet

namespace Functions

/-- The numbers of the dates among values; what is not read as a date is passed over. -/
def datesAmong (values : List Value) : List Int :=
  values.filterMap fun
    | .text s => (Moment.read? s.toList).map fun m => m.date.number
    | _ => none

/-- The number of workdays from one day to another, both included, that are not days off. -/
def workdays (off : List Int) (first last : Int) : Nat :=
  (List.range (last - first + 1).toNat).countP fun i =>
    Date.isWorkday (first + (i : Nat)) && decide (first + (i : Nat) ∉ off)

/-- Whether a span ends with the last date there is and begins less than six days before it. -/
def EndsAtLast (first last : Int) : Prop :=
  last = Date.last.number ∧ last - first < 6

instance (first last : Int) : Decidable (EndsAtLast first last) :=
  inferInstanceAs (Decidable (_ ∧ _))

/-- The number of days that the walk over a span does not come to. -/
def overlooked (first last : Int) : Nat :=
  if EndsAtLast first last then 1 else 0

/-! ## Days off -/

theorem daysOff_eq {values : List Value} (h : ∀ e, Value.error e ∉ values) :
    daysOff values = .ok (datesAmong values).eraseDups := by
  unfold daysOff
  split
  · rename_i e he
    obtain ⟨v, hv, hve⟩ := List.exists_of_findSome?_eq_some he
    cases v with
    | error e' => exact absurd hv (h e')
    | _ => cases hve
  · rfl

theorem nodup_eraseDups : ∀ {l : List Int}, l.eraseDups.Nodup
  | [] => List.nodup_nil
  | n :: l => by
    have hshorter := List.length_filter_le (fun k => !k == n) l
    rw [List.eraseDups_cons, List.nodup_cons]
    refine ⟨fun hn => ?_, nodup_eraseDups⟩
    have hfilter := List.mem_eraseDups.1 hn
    simp at hfilter
termination_by l => l.length
decreasing_by
  simp only [List.length_cons]
  omega

/-- The days off that are taken from the count are the workdays of the span that are off. -/
theorem countP_eraseDups (off : List Int) (first last : Int) :
    off.eraseDups.countP (fun d => first ≤ d && d ≤ last && Date.isWorkday d)
      = ((Finset.Icc first last).filter fun d => Date.isWorkday d = true ∧ d ∈ off).card := by
  rw [List.countP_eq_length_filter, ← List.toFinset_card_of_nodup (nodup_eraseDups.filter _)]
  congr 1
  ext d
  simp only [List.mem_toFinset, List.mem_filter, List.mem_eraseDups, Bool.and_eq_true,
    decide_eq_true_eq, Finset.mem_filter, Finset.mem_Icc]
  tauto

/-! ## From day to day -/

theorem card_Ico_filter (p : Int → Bool) (first : Int) (days : Nat) :
    ((Finset.Ico first (first + days)).filter fun d => p d = true).card
      = (List.range days).countP fun i => p (first + (i : Nat)) := by
  induction days with
  | zero => simp
  | succ days ih =>
    have hinsert : Finset.Ico first (first + (days + 1 : Nat))
        = insert (first + (days : Int)) (Finset.Ico first (first + days)) := by
      ext d
      simp only [Finset.mem_insert, Finset.mem_Ico]
      omega
    rw [hinsert, Finset.filter_insert, List.range_succ, List.countP_append, ← ih,
      List.countP_singleton]
    split_ifs with hday
    · rw [Finset.card_insert_of_notMem (by simp)]
    · rfl

/-- Walking over the days of a span is counting them. -/
theorem card_Icc_filter (p : Int → Bool) (first last : Int) :
    ((Finset.Icc first last).filter fun d => p d = true).card
      = (List.range (last - first + 1).toNat).countP fun i => p (first + (i : Nat)) := by
  have hIcc : Finset.Icc first last
      = Finset.Ico first (first + ((last - first + 1).toNat : Nat)) := by
    ext d
    simp only [Finset.mem_Icc, Finset.mem_Ico]
    omega
  rw [hIcc, card_Ico_filter]

theorem workdays_eq_card (off : List Int) (first last : Int) : workdays off first last
    = ((Finset.Icc first last).filter fun d => Date.isWorkday d = true ∧ d ∉ off).card := by
  rw [workdays, ← card_Icc_filter fun d => Date.isWorkday d && decide (d ∉ off)]
  simp only [Bool.and_eq_true, decide_eq_true_eq]

/-- The workdays of a span are those that are off and those that are not. -/
theorem workdays_add_card (off : List Int) (first last : Int) :
    workdays off first last
      + ((Finset.Icc first last).filter fun d => Date.isWorkday d = true ∧ d ∈ off).card
      = Date.workdaysFrom first (last - first + 1).toNat := by
  rw [Date.workdaysFrom, ← card_Icc_filter Date.isWorkday, workdays_eq_card,
    ← Finset.filter_filter, ← Finset.filter_filter, Nat.add_comm]
  exact Finset.card_filter_add_card_filter_not _

theorem workdaysAmong_eq {first : Int} {days : Nat} (h : first + days ≤ Date.last.number) :
    workdaysAmong first days = Date.workdaysFrom first days := by
  refine List.countP_congr fun i hi => ?_
  have hi : i < days := List.mem_range.1 hi
  have hne : first + (i : Int) ≠ Date.last.number := by omega
  simp [hne]

/-- The walk passes over the last date, which is a Monday. -/
theorem workdaysAmong_last {first : Int} {days : Nat} (h : first + days = Date.last.number) :
    workdaysAmong first (days + 1) + 1 = Date.workdaysFrom first (days + 1) := by
  have hlast : Date.isWorkday Date.last.number = true := by decide
  have hone : Date.workdaysFrom (first + days) 1 = 1 := by
    rw [h]
    simp [Date.workdaysFrom, hlast]
  have hsucc : workdaysAmong first (days + 1) = workdaysAmong first days := by
    rw [workdaysAmong, workdaysAmong, List.range_succ, List.countP_append]
    simp [h]
  rw [hsucc, workdaysAmong_eq h.le, Date.workdaysFrom_add, hone]

/-- Counting by weeks comes to the same as from day to day, but for what is overlooked. -/
theorem workdaysBetween_add_overlooked {first last : Int} (h : first ≤ last)
    (hlast : last ≤ Date.last.number) : workdaysBetween first last + overlooked first last
      = Date.workdaysFrom first (last - first + 1).toNat := by
  have hweeks := Date.workdaysFrom_weeks first ((last - first + 1).toNat % 7)
    ((last - first + 1).toNat / 7)
  rw [Nat.mod_add_div] at hweeks
  have hbetween : workdaysBetween first last = 5 * ((last - first + 1).toNat / 7 : Nat)
    + workdaysAmong first ((last - first + 1).toNat % 7) := rfl
  rw [hbetween, hweeks, overlooked]
  split_ifs with hends
  · obtain ⟨rfl, hspan⟩ := hends
    obtain ⟨days, hdays⟩ : ∃ days, (Date.last.number - first + 1).toNat % 7 = days + 1 :=
      ⟨(Date.last.number - first).toNat, by omega⟩
    have hfirst : first + days = Date.last.number := by omega
    have htail := workdaysAmong_last hfirst
    simp only [hdays]
    omega
  · have hinside : first + ((last - first + 1).toNat % 7 : Nat) ≤ Date.last.number := by
      unfold EndsAtLast at hends
      omega
    rw [workdaysAmong_eq hinside]
    omega

/-- What is counted is the number of workdays that are not off, but for what is overlooked. -/
theorem workdaysBetween_sub_missing {first last : Int} (h : first ≤ last)
    (hlast : last ≤ Date.last.number) (off : List Int) :
    workdaysBetween first last
        - off.eraseDups.countP (fun d => first ≤ d && d ≤ last && Date.isWorkday d)
      = workdays off first last - overlooked first last := by
  have hcount := workdaysBetween_add_overlooked h hlast
  have hsplit := workdays_add_card off first last
  rw [countP_eraseDups]
  omega

/-! ## Laws of counting -/

/-- A span is counted in two parts. -/
theorem workdays_add {first middle last : Int} (h : first ≤ middle) (h' : middle < last)
    (off : List Int) :
    workdays off first last = workdays off first middle + workdays off (middle + 1) last := by
  have hlength : (last - first + 1).toNat
      = (middle - first + 1).toNat + (last - (middle + 1) + 1).toNat := by omega
  rw [workdays, hlength, List.range_add, List.countP_append, List.countP_map, workdays, workdays]
  congr 1
  refine List.countP_congr fun i _ => ?_
  have hday : first + ((middle - first + 1).toNat + i : Nat) = middle + 1 + (i : Nat) := by omega
  rw [Function.comp_apply, hday]

/-- Only the workdays of a span count as days off. -/
theorem workdays_congr {off off' : List Int} {first last : Int}
    (h : ∀ d, first ≤ d → d ≤ last → Date.isWorkday d = true → (d ∈ off ↔ d ∈ off')) :
    workdays off first last = workdays off' first last := by
  refine List.countP_congr fun i hi => ?_
  have hi := List.mem_range.1 hi
  simp only [Bool.and_eq_true, decide_eq_true_eq]
  refine and_congr_right fun hwork => not_congr (h _ (by omega) (by omega) hwork)

theorem workdays_le (off : List Int) (first last : Int) :
    workdays off first last ≤ (last - first + 1).toNat := by
  have hle := List.countP_le_length (p := fun i : Nat =>
    Date.isWorkday (first + i) && decide (first + (i : Int) ∉ off))
    (l := List.range (last - first + 1).toNat)
  rwa [List.length_range] at hle

/-- The number of workdays that are found between two days, whichever comes first. -/
def countedWorkdays (off : List Int) (a b : Int) : Int :=
  workdays off (Min.min a b) (Max.max a b) - overlooked (Min.min a b) (Max.max a b)

theorem overlooked_le (first last : Int) : overlooked first last ≤ 1 := by
  unfold overlooked
  split_ifs <;> omega

theorem countedWorkdays_comm (off : List Int) (a b : Int) :
    countedWorkdays off a b = countedWorkdays off b a := by
  rw [countedWorkdays, countedWorkdays, min_comm, max_comm]

/-- All counts are small enough to be exact numbers. -/
theorem natAbs_workdays_lt (off : List Int) (a b : Date) :
    ((workdays off (Min.min a.number b.number) (Max.max a.number b.number) : Nat) : Int).natAbs
        < 2 ^ 53
      ∧ (countedWorkdays off a.number b.number).natAbs < 2 ^ 53 := by
  have ha := a.number_le_last
  have hb := b.number_le_last
  have ha' := a.neg_lt_number
  have hb' := b.neg_lt_number
  have hbound := workdays_le off (Min.min a.number b.number) (Max.max a.number b.number)
  have hone := overlooked_le (Min.min a.number b.number) (Max.max a.number b.number)
  rw [Date.last_number] at ha hb
  unfold countedWorkdays
  omega

/-! ## The direction of a count -/

/-- A count with the direction of its span: negative if the second date comes first. -/
def directed (forward : Prop) [Decidable forward] (n : Int) : Float :=
  if forward then Float.ofInt n else -Float.ofInt n

section Directed

variable {forward : Prop} [Decidable forward] {n n' : Int}

theorem mul_ofInt_eq_directed (hn : n.natAbs < 2 ^ 53) :
    (if forward then 1.0 else -1.0) * Float.ofInt n = directed forward n := by
  unfold directed
  split_ifs
  · exact Number.one_mul_ofInt hn
  · exact Number.neg_one_mul_ofInt hn

theorem directed_injective (hn : n.natAbs < 2 ^ 53) (hn' : n'.natAbs < 2 ^ 53)
    (h : directed forward n = directed forward n') : n = n' := by
  obtain ⟨hnan, hint⟩ := Number.toInt_ofInt hn
  obtain ⟨hnan', hint'⟩ := Number.toInt_ofInt hn'
  unfold directed at h
  split_ifs at h
  · rw [← hint, h, hint']
  · have hneg := congrArg Number.toInt h
    rw [Number.toInt_neg hnan, Number.toInt_neg hnan', hint, hint'] at hneg
    exact Int.neg_inj.1 hneg

theorem directed_not {backward : Prop} [Decidable backward] (hn : n.natAbs < 2 ^ 53)
    (h : backward ↔ ¬ forward) : directed backward n = -directed forward n := by
  unfold directed
  by_cases hforward : forward
  · rw [if_neg fun hback => h.1 hback hforward, if_pos hforward]
  · rw [if_pos (h.2 hforward), if_neg hforward, Number.neg_neg_ofInt hn]

end Directed

theorem networkDays_eq {args : List Argument} {m m' : Moment} (hm : momentAt args 0 = .ok m)
    (hm' : momentAt args 1 = .ok m') (hoff : ∀ e, Value.error e ∉ valuesAt args 2) :
    networkDays args = .ok (.number (directed (m.date.number ≤ m'.date.number)
      (countedWorkdays (datesAmong (valuesAt args 2)) m.date.number m'.date.number))) := by
  have hle : Min.min m.date.number m'.date.number ≤ Max.max m.date.number m'.date.number :=
    min_le_max
  have hlast : Max.max m.date.number m'.date.number ≤ Date.last.number :=
    max_le m.date.number_le_last m'.date.number_le_last
  have hcount := workdaysBetween_sub_missing hle hlast (datesAmong (valuesAt args 2))
  have hsize := (natAbs_workdays_lt (datesAmong (valuesAt args 2)) m.date m'.date).2
  rw [countedWorkdays] at hsize ⊢
  rw [networkDays, hm, hm', daysOff_eq hoff]
  simp only [bind, Except.bind, pure, Except.pure, hcount, mul_ofInt_eq_directed hsize]

end Functions

open Functions

namespace Expression

variable {t : Table} {now : Moment}

/-- The values that days off are read from: those of a third argument, if there is one. -/
def offValues (t : Table) (now : Moment) (rest : List Expression) : List Value :=
  (rest.head?.map fun e => (e.evaluate t now).values).getD []

theorem evaluate_networkDays {first second : Expression} {rest : List Expression} {a b : Date}
    (ha : first.ReadsDate t now a) (hb : second.ReadsDate t now b)
    (hoff : ∀ e, Value.error e ∉ offValues t now rest) :
    (call .networkDays (first :: second :: rest)).evaluate t now
      = .scalar (.number (directed (a.number ≤ b.number)
        (countedWorkdays (datesAmong (offValues t now rest)) a.number b.number))) := by
  have hargs : Builtin.networkDays.arity.least ≤ (first :: second :: rest).length :=
    Nat.le_add_left 2 _
  have hused : usedArguments t now .networkDays (first :: second :: rest)
      = first.evaluate t now :: second.evaluate t now :: (rest.take 1).map (evaluate t now) := by
    rw [usedArguments_eq rfl]
    rfl
  have hvalues : valuesAt (usedArguments t now .networkDays (first :: second :: rest)) 2
      = offValues t now rest := by
    rw [hused]
    cases rest <;> rfl
  have hfirst : (usedArguments t now .networkDays (first :: second :: rest))[0]?
      = some (first.evaluate t now) := by rw [hused]; rfl
  have hsecond : (usedArguments t now .networkDays (first :: second :: rest))[1]?
      = some (second.evaluate t now) := by rw [hused]; rfl
  obtain ⟨m, hm, rfl⟩ := (readsDate_iff hfirst).1 ha
  obtain ⟨m', hm', rfl⟩ := (readsDate_iff hsecond).1 hb
  rw [← hvalues] at hoff ⊢
  rw [evaluate_call (evaluateCall_eq_value hargs (by decide)), Builtin.value,
    networkDays_eq hm hm' hoff]
  rfl

end Expression

/-- What `NETWORKDAYS` is meant to count between two dates: the workdays from the one to the other
that are not off, negated if the second date comes first. -/
structure CountsWorkdays (a b : Date) : Prop where
  counted : ∀ (t : Table) (now : Moment) (first second : Expression) (rest : List Expression),
    first.ReadsDate t now a → second.ReadsDate t now b →
    (∀ e, Value.error e ∉ Expression.offValues t now rest) →
    (Expression.call .networkDays (first :: second :: rest)).evaluate t now
      = .scalar (.number (directed (a.number ≤ b.number)
        (workdays (datesAmong (Expression.offValues t now rest)) (min a.number b.number)
          (max a.number b.number))))

/-- What holds of `NETWORKDAYS` between any two dates: it comes to the number of workdays without
the one that is overlooked, dates that are swapped negate it, days off that are no workdays of the
span do not matter, and a span is counted in two parts but for what is overlooked. -/
structure WorkdayLaws (a b : Date) : Prop where
  value : ∀ (t : Table) (now : Moment) (first second : Expression) (rest : List Expression),
    first.ReadsDate t now a → second.ReadsDate t now b →
    (∀ e, Value.error e ∉ Expression.offValues t now rest) →
    (Expression.call .networkDays (first :: second :: rest)).evaluate t now
      = .scalar (.number (directed (a.number ≤ b.number)
        (countedWorkdays (datesAmong (Expression.offValues t now rest)) a.number b.number)))
  swapped : ∀ (t : Table) (now : Moment) (first second : Expression) (rest : List Expression)
    (x : Float), a ≠ b → first.ReadsDate t now a → second.ReadsDate t now b →
    (∀ e, Value.error e ∉ Expression.offValues t now rest) →
    (Expression.call .networkDays (first :: second :: rest)).evaluate t now = .scalar (.number x) →
    (Expression.call .networkDays (second :: first :: rest)).evaluate t now = .scalar (.number (-x))
  irrelevant : ∀ (t : Table) (now : Moment) (first second : Expression)
    (rest rest' : List Expression), first.ReadsDate t now a → second.ReadsDate t now b →
    (∀ e, Value.error e ∉ Expression.offValues t now rest) →
    (∀ e, Value.error e ∉ Expression.offValues t now rest') →
    (∀ d, min a.number b.number ≤ d → d ≤ max a.number b.number → Date.isWorkday d = true →
      (d ∈ datesAmong (Expression.offValues t now rest)
        ↔ d ∈ datesAmong (Expression.offValues t now rest'))) →
    (Expression.call .networkDays (first :: second :: rest)).evaluate t now
      = (Expression.call .networkDays (first :: second :: rest')).evaluate t now
  split : ∀ (off : List Int) (next c : Date), a.number ≤ b.number → next.number = b.number + 1 →
    b.number < c.number →
    countedWorkdays off a.number c.number + overlooked a.number c.number
      = countedWorkdays off a.number b.number + countedWorkdays off next.number c.number
        + overlooked next.number c.number

theorem workdayLaws (a b : Date) : WorkdayLaws a b where
  value := fun _ _ _ _ _ => Expression.evaluate_networkDays
  swapped := by
    intro t now first second rest x hne ha hb hoff hx
    have hnumber : a.number ≠ b.number := fun h => hne (Date.number_injective h)
    rw [Expression.evaluate_networkDays ha hb hoff, Argument.scalar.injEq,
      Value.number.injEq] at hx
    have hsize := (natAbs_workdays_lt (datesAmong (Expression.offValues t now rest)) b a).2
    have hback : b.number ≤ a.number ↔ ¬ a.number ≤ b.number := by omega
    rw [Expression.evaluate_networkDays hb ha hoff, ← hx, countedWorkdays_comm _ a.number,
      directed_not hsize hback]
  irrelevant := by
    intro t now first second rest rest' ha hb hoff hoff' halike
    rw [Expression.evaluate_networkDays ha hb hoff, Expression.evaluate_networkDays ha hb hoff',
      countedWorkdays, workdays_congr halike, ← countedWorkdays]
  split := by
    intro off next c hab hnext hbc
    have hsum := workdays_add hab hbc off
    have hb : overlooked a.number b.number = 0 := by
      have hlast := c.number_le_last
      refine if_neg fun h => ?_
      rw [← h.1] at hlast
      omega
    unfold countedWorkdays
    rw [hnext]
    simp only [min_eq_left hab, max_eq_right hab, min_eq_left (hab.trans hbc.le),
      max_eq_right (hab.trans hbc.le), min_eq_left (show b.number + 1 ≤ c.number from hbc),
      max_eq_right (show b.number + 1 ≤ c.number from hbc), hb]
    omega

/-- Where a workday is overlooked, the count is wrong whatever days are off. -/
theorem CountsWorkdays.not_endsAtLast {a b : Date} (h : CountsWorkdays a b) :
    ¬ EndsAtLast (min a.number b.number) (max a.number b.number) := by
  intro hends
  have hread : ∀ d : Date, (Expression.text d.text).ReadsDate .empty (.midnight a) d := fun d =>
    Expression.readsDate_of_evaluate_eq (by rw [Expression.evaluate])
  have hoff : ∀ e, Value.error e ∉ Expression.offValues .empty (.midnight a) [] := fun e =>
    List.not_mem_nil
  have hcount := h.counted .empty (.midnight a) (.text a.text) (.text b.text) [] (hread a) (hread b)
    hoff
  have hsize := natAbs_workdays_lt (datesAmong (Expression.offValues .empty (.midnight a) [])) a b
  rw [Expression.evaluate_networkDays (hread a) (hread b) hoff, Argument.scalar.injEq,
    Value.number.injEq] at hcount
  have hequal := directed_injective hsize.2 hsize.1 hcount
  rw [countedWorkdays, overlooked, if_pos hends] at hequal
  omega

/-- The workdays between two dates are counted right unless the later one is the last date there is
and the earlier one less than six days before it. -/
theorem countsWorkdays_iff (a b : Date) :
    (CountsWorkdays a b ↔ ¬ EndsAtLast (min a.number b.number) (max a.number b.number))
      ∧ WorkdayLaws a b := by
  refine ⟨⟨CountsWorkdays.not_endsAtLast, fun hends => ⟨?_⟩⟩, workdayLaws a b⟩
  intro t now first second rest ha hb hoff
  rw [Expression.evaluate_networkDays ha hb hoff, countedWorkdays, overlooked, if_neg hends,
    Nat.cast_zero, Int.sub_zero]

/-- The last date is a Monday, but between it and itself no workday is counted. -/
theorem not_countsWorkdays_last :
    ¬ CountsWorkdays .last .last
      ∧ Date.isWorkday Date.last.number = true
      ∧ evaluate .empty 64 (.midnight .epoch)
        "=NETWORKDAYS(\"+262142-12-31\",\"+262142-12-31\")" = .computed (.number 0.0) := by
  refine ⟨fun h => h.not_endsAtLast ?_, by decide, rfl⟩
  unfold EndsAtLast
  omega

end Worksheet
