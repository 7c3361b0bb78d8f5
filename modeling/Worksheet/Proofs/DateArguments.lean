import Worksheet.Proofs.DateTexts
import Worksheet.Proofs.Failures

/-!
# Dates inside date functions

A call of `TODAY`, `NOW`, `EDATE` or `EOMONTH` that comes to no error denotes a moment
(`Expression.Denotes`), and its value is a text that is read back as that moment
(`Expression.Denotes.exists_text`).  Of such a text a function of dates sees nothing but the moment
(`Builtin.value_congr_moment`).  So inside a date function the call stands for the moment it denotes
and is never what makes the function come to `#VALUE!` (`dates_read_back`).
-/

namespace Worksheet

open Functions

/-- Where a function takes dates: as one date each, or as any number of days off in the third
place. -/
def Builtin.datePositions : Builtin → List Nat
  | .year | .month | .day | .hour | .minute | .second | .weekday | .eDate | .eoMonth => [0]
  | .dateDif => [0, 1]
  | .networkDays => [0, 1, 2]
  | _ => []

/-- Whether the value of a function is a date, if it is no error. -/
def Builtin.producesDates : Builtin → Bool
  | .today | .now | .eDate | .eoMonth => true
  | _ => false

/-- What a function takes out of a moment, if that is all it does. -/
def Builtin.momentPart? : Builtin → Option (Moment → Int)
  | .year => some fun m => m.date.year
  | .month => some fun m => m.date.month
  | .day => some fun m => m.date.day
  | .hour => some fun m => m.hour.val
  | .minute => some fun m => m.minute.val
  | .second => some fun m => m.second.val
  | _ => none

/-- How a function shifts a date by months, if that is what it does. -/
def Builtin.shift? : Builtin → Option (Date → Int → Option Date)
  | .eDate => some Date.shiftMonths?
  | .eoMonth => some Date.endOfMonth?
  | _ => none

/-! ## Arguments that are moments -/

/-- Whether an argument is a text that is read as a moment. -/
def Argument.IsMoment (m : Moment) (a : Argument) : Prop :=
  ∃ s : String, a = .scalar (.text s) ∧ Moment.read? s.toList = some m

/-- Whether two lists of arguments have the same moment at a position and are the same
elsewhere. -/
structure AlikeAt (i : Nat) (m : Moment) (args args' : List Argument) : Prop where
  left : ∃ a ∈ args[i]?, a.IsMoment m
  right : ∃ a ∈ args'[i]?, a.IsMoment m
  elsewhere : ∀ j, j ≠ i → args[j]? = args'[j]?

section AlikeAt

variable {i j : Nat} {m : Moment} {args args' : List Argument}

theorem momentAt_of_isMoment (h : ∃ a ∈ args[i]?, a.IsMoment m) : momentAt args i = .ok m := by
  obtain ⟨a, ha, s, rfl, hs⟩ := h
  have hvalue : valueAt? args i = some (.text s) := by
    rw [valueAt?, ha]
    rfl
  rw [momentAt, hvalue]
  simp only [hs]

theorem daysOff_of_isMoment (h : ∃ a ∈ args[i]?, a.IsMoment m) :
    daysOff (valuesAt args i) = .ok [m.date.number] := by
  obtain ⟨a, ha, s, rfl, hs⟩ := h
  have hvalues : valuesAt args i = [.text s] := by
    rw [valuesAt, ha]
    rfl
  simp [daysOff, hvalues, hs, List.eraseDups_cons]

variable (h : AlikeAt i m args args')

include h

theorem AlikeAt.valueAt? (hj : j ≠ i) : valueAt? args j = valueAt? args' j := by
  rw [Functions.valueAt?, Functions.valueAt?, h.elsewhere j hj]

theorem AlikeAt.momentAt (j : Nat) : momentAt args j = momentAt args' j := by
  by_cases hj : j = i
  · rw [hj, momentAt_of_isMoment h.left, momentAt_of_isMoment h.right]
  · rw [Functions.momentAt, Functions.momentAt, h.valueAt? hj]

theorem AlikeAt.daysOff (j : Nat) : daysOff (valuesAt args j) = daysOff (valuesAt args' j) := by
  by_cases hj : j = i
  · rw [hj, daysOff_of_isMoment h.left, daysOff_of_isMoment h.right]
  · rw [valuesAt, valuesAt, h.elsewhere j hj]

/-- A function of dates sees nothing of a date but the moment. -/
theorem Builtin.value_congr_moment {f : Builtin} (hi : i ∈ f.datePositions) (now : Moment) :
    f.value now args = f.value now args' := by
  cases f with
  | year | month | day | hour | minute | second =>
    simp only [value, partOf, h.momentAt]
  | weekday =>
    obtain rfl := List.mem_singleton.1 hi
    simp only [value, Functions.weekday, numberOr, h.momentAt, h.valueAt? (show 1 ≠ 0 by decide)]
  | eDate | eoMonth =>
    obtain rfl := List.mem_singleton.1 hi
    simp only [value, Functions.eDate, Functions.eoMonth, shiftBy, monthsAt, numberAt, h.momentAt,
      h.valueAt? (show 1 ≠ 0 by decide)]
  | dateDif =>
    have hne : 2 ≠ i := by
      rintro rfl
      simp [datePositions] at hi
    simp only [value, Functions.dateDif, textAt, h.momentAt, h.valueAt? hne]
  | networkDays => simp only [value, Functions.networkDays, h.momentAt, h.daysOff]
  | _ => cases hi

end AlikeAt

/-! ## What a date function can read -/

/-- Whether a date function can read what it is given at a position: a number of months or a kind of
week, a unit of time, days off, or a date. -/
def Builtin.Reads (f : Builtin) (args : List Argument) (i : Nat) : Prop :=
  match f, i with
  | .weekday, 1 => ∃ x, numberOr args 1 1.0 = .ok x
  | .eDate, 1 | .eoMonth, 1 => ∃ x, numberAt args 1 = .ok x
  | .dateDif, 2 => ∃ s, textAt args 2 = .ok s
  | .networkDays, 2 => ∃ days, daysOff (valuesAt args 2) = .ok days
  | f, i => i ∈ f.datePositions → ∃ m, momentAt args i = .ok m

theorem Builtin.reads_of_isMoment {f : Builtin} {args : List Argument} {i : Nat} {m : Moment}
    (hi : i ∈ f.datePositions) (h : ∃ a ∈ args[i]?, a.IsMoment m) : f.Reads args i := by
  unfold Reads
  split
  · simp [datePositions] at hi
  · simp [datePositions] at hi
  · simp [datePositions] at hi
  · simp [datePositions] at hi
  · exact ⟨_, daysOff_of_isMoment h⟩
  · exact fun _ => ⟨m, momentAt_of_isMoment h⟩

theorem monthsAt_cases {args : List Argument} {i : Nat} {x : Float}
    (h : numberAt args i = .ok x) :
    monthsAt args i = .error .badNumber ∨ ∃ n, monthsAt args i = .ok n := by
  rw [monthsAt, h]
  simp only [bind, Except.bind]
  split_ifs
  · exact .inl rfl
  · exact .inr ⟨_, rfl⟩

theorem settle_shiftBy_ne_badValue {shift : Date → Int → Option Date} {args : List Argument}
    {m : Moment} {x : Float} (hm : momentAt args 0 = .ok m) (hx : numberAt args 1 = .ok x) :
    settle (shiftBy shift args) ≠ .error .badValue := by
  rw [shiftBy, hm]
  simp only [bind, Except.bind]
  rcases monthsAt_cases hx with hmonths | ⟨n, hmonths⟩ <;> rw [hmonths]
  · simp [settle]
  · dsimp only
    split <;> simp [settle, pure, Except.pure]

/-- A date function that can read all it is given does not come to `#VALUE!`. -/
theorem Builtin.value_ne_badValue {f : Builtin} {args : List Argument} (hf : f.datePositions ≠ [])
    (h : ∀ i, f.Reads args i) (now : Moment) : f.value now args ≠ .error .badValue := by
  cases f with
  | year | month | day | hour | minute | second =>
    obtain ⟨m, hm⟩ := h 0 List.mem_cons_self
    simp [value, partOf, hm, settle]
  | weekday =>
    obtain ⟨m, hm⟩ := h 0 List.mem_cons_self
    obtain ⟨x, hx⟩ := h 1
    simp only [value, Functions.weekday, hm, hx, bind, Except.bind]
    split <;> simp [settle, pure, Except.pure]
  | eDate | eoMonth =>
    obtain ⟨m, hm⟩ := h 0 List.mem_cons_self
    obtain ⟨x, hx⟩ := h 1
    exact settle_shiftBy_ne_badValue hm hx
  | dateDif =>
    obtain ⟨m, hm⟩ := h 0 (by simp [datePositions])
    obtain ⟨n, hn⟩ := h 1 (by simp [datePositions])
    obtain ⟨s, hs⟩ := h 2
    simp only [value, Functions.dateDif, hm, hn, hs, bind, Except.bind]
    split <;> simp [settle, pure, Except.pure]
  | networkDays =>
    obtain ⟨m, hm⟩ := h 0 (by simp [datePositions])
    obtain ⟨n, hn⟩ := h 1 (by simp [datePositions])
    obtain ⟨days, hdays⟩ := h 2
    simp [value, Functions.networkDays, hm, hn, hdays, bind, Except.bind, settle, pure, Except.pure]
  | _ => exact absurd rfl hf

/-! ## Calls that denote a moment -/

namespace Expression

variable {t : Table} {now : Moment} {f : Builtin} {args : List Expression}

/-- The moment that a call of a function that produces dates denotes. -/
inductive Denotes (t : Table) (now : Moment) : Expression → Moment → Prop
  | today {args : List Expression} : Denotes t now (.call .today args) (.midnight now.date)
  | now {args : List Expression} (h : now.nanosecond.val < 1000000000) :
      Denotes t now (.call .now args) { now with nanosecond := 0 }
  | shifted {f : Builtin} {shift : Date → Int → Option Date} {args : List Expression} {m : Moment}
      {n : Int} {d : Date} (hf : f.shift? = some shift) (hargs : f.arity.least ≤ args.length)
      (hm : momentAt (usedArguments t now f args) 0 = .ok m)
      (hn : monthsAt (usedArguments t now f args) 1 = .ok n) (hd : shift m.date n = some d) :
      Denotes t now (.call f args) (.midnight d)

theorem value_of_shift? {shift : Date → Int → Option Date} {args : List Argument}
    (hf : f.shift? = some shift) : f.value now args = settle (shiftBy shift args) := by
  cases f <;> cases hf <;> rfl

/-- The value of a call that denotes a moment is a text that is read back as it. -/
theorem Denotes.exists_text {e : Expression} {m : Moment} (h : e.Denotes t now m) :
    ∃ s : String, e.evaluate t now = .scalar (.text s) ∧ (s = m.date.text ∨ s = now.text)
      ∧ Moment.read? s.toList = some m := by
  cases h with
  | today =>
    exact ⟨now.date.text, evaluate_call (evaluateCall_eq_value (Nat.zero_le _) (by decide)),
      .inl rfl, Moment.read?_dateText _⟩
  | now h =>
    exact ⟨now.text, evaluate_call (evaluateCall_eq_value (Nat.zero_le _) (by decide)),
      .inr rfl, Moment.read?_text h⟩
  | @shifted f shift args m n d hf hargs hm hn hd =>
    have hne : f ≠ .ifElse := by rintro rfl; cases hf
    have hvalue : f.value now (usedArguments t now f args) = .text d.text := by
      rw [value_of_shift? hf, shiftBy, hm]
      simp only [bind, Except.bind, hn, hd]
      rfl
    refine ⟨d.text, ?_, .inl rfl, Moment.read?_dateText d⟩
    rw [evaluate_call (evaluateCall_eq_value hargs hne), hvalue]

theorem exists_denotes_of_shift? {shift : Date → Int → Option Date} (hf : f.shift? = some shift)
    (args : List Expression) : (∃ err, (call f args).evaluate t now = .scalar (.error err))
      ∨ ∃ m, (call f args).Denotes t now m := by
  have hne : f ≠ .ifElse := by rintro rfl; cases hf
  by_cases hargs : f.arity.least ≤ args.length
  · have heval : (call f args).evaluate t now
        = .scalar (f.value now (usedArguments t now f args)) :=
      evaluate_call (evaluateCall_eq_value hargs hne)
    rw [value_of_shift? hf, shiftBy] at heval
    rcases hm : momentAt (usedArguments t now f args) 0 with err | m
    · rw [hm] at heval
      exact .inl ⟨err, heval⟩
    rcases hn : monthsAt (usedArguments t now f args) 1 with err | n
    · rw [hm, hn] at heval
      exact .inl ⟨err, heval⟩
    rcases hd : shift m.date n with _ | d
    · rw [hm, hn] at heval
      simp only [bind, Except.bind, hd] at heval
      exact .inl ⟨_, heval⟩
    · exact .inr ⟨_, .shifted hf hargs hm hn hd⟩
  · have hfew : CallFails t f args (.argumentCount f args.length) := .tooFew (Nat.not_le.1 hargs)
    exact .inl ⟨.failed, evaluate_call_of_error (evaluateCall_eq_error_iff.2 hfew)⟩

/-- A call of a function that produces dates denotes a moment or comes to an error. -/
theorem exists_denotes (hf : f.producesDates = true)
    (hnow : f = .now → now.nanosecond.val < 1000000000) (args : List Expression) :
    (∃ err, (call f args).evaluate t now = .scalar (.error err))
      ∨ ∃ m, (call f args).Denotes t now m := by
  cases f with
  | today => exact .inr ⟨_, .today⟩
  | now => exact .inr ⟨_, .now (hnow rfl)⟩
  | eDate | eoMonth => exact exists_denotes_of_shift? rfl args
  | _ => cases hf

/-! ## Dates as arguments -/

theorem lt_used_of_mem_datePositions {i n : Nat} (hi : i ∈ f.datePositions) (hn : i < n) :
    i < f.arity.used n := by
  cases f with
  | year | month | day | hour | minute | second | weekday | eDate | eoMonth =>
    obtain rfl := List.mem_singleton.1 hi
    exact Nat.lt_min.2 ⟨hn, by decide⟩
  | dateDif | networkDays =>
    refine Nat.lt_min.2 ⟨hn, ?_⟩
    simp only [Builtin.datePositions, List.mem_cons, List.not_mem_nil, or_false] at hi
    omega
  | _ => cases hi

theorem getElem?_usedArguments {i : Nat} (hi : i < f.arity.used args.length) :
    (usedArguments t now f args)[i]? = args[i]?.map (evaluate t now) := by
  rw [usedArguments, evaluateFirst_eq_map, List.getElem?_map, List.getElem?_take_of_lt hi]

theorem usedArguments_set (i : Nat) (e : Expression) :
    usedArguments t now f (args.set i e)
      = (usedArguments t now f args).set i (e.evaluate t now) := by
  simp only [usedArguments, evaluateFirst_eq_map, List.length_set, List.take_set, List.map_set]

/-- What it is for a call to read the argument at a position as a moment: it reads that moment, or
the day off, and comes to what it comes to with any text of the moment instead. -/
structure ReadsAs (t : Table) (now : Moment) (f : Builtin) (args : List Expression) (i : Nat)
    (m : Moment) : Prop where
  moment : i < 2 → momentAt (usedArguments t now f args) i = .ok m
  dayOff : i = 2 → daysOff (valuesAt (usedArguments t now f args) i) = .ok [m.date.number]
  part : ∀ part, f.momentPart? = some part →
    evaluateCall t now f args = .ok (.number (Float.ofInt (part m)))
  replaced : ∀ s : String, Moment.read? s.toList = some m →
    evaluateCall t now f args = evaluateCall t now f (args.set i (.text s))
      ∧ (call f args).evaluate t now = (call f (args.set i (.text s))).evaluate t now

theorem evaluateCall_of_momentPart? {part : Moment → Int} {m : Moment}
    (hf : f.momentPart? = some part) (hargs : args ≠ [])
    (hm : momentAt (usedArguments t now f args) 0 = .ok m) :
    evaluateCall t now f args = .ok (.number (Float.ofInt (part m))) := by
  have hvalue : ∀ used : List Argument, f.value now used = settle (partOf part used) := by
    cases f <;> cases hf <;> exact fun _ => rfl
  have hleast : f.arity.least = 1 := by cases f <;> first | rfl | cases hf
  have hne : f ≠ .ifElse := by rintro rfl; cases hf
  have hlength := List.length_pos_iff.2 hargs
  rw [evaluateCall_eq_value (by omega) hne, hvalue, partOf, hm]
  rfl

theorem evaluateCall_congr_used {args' : List Expression} (hf : f ≠ .ifElse)
    (hlength : args.length = args'.length)
    (h : f.value now (usedArguments t now f args) = f.value now (usedArguments t now f args')) :
    evaluateCall t now f args = evaluateCall t now f args' := by
  simp only [usedArguments] at h
  simp only [evaluateCall, callWith, Builtin.apply_of_ne hf, hlength] at h ⊢
  rw [h]

theorem Denotes.isMoment {e : Expression} {m : Moment} {i : Nat} (h : e.Denotes t now m)
    (hi : i ∈ f.datePositions) (he : args[i]? = some e) :
    ∃ a ∈ (usedArguments t now f args)[i]?, a.IsMoment m := by
  obtain ⟨s, hs, -, hread⟩ := h.exists_text
  have hlength : i < args.length := (List.getElem?_eq_some_iff.1 he).1
  refine ⟨.scalar (.text s), ?_, s, rfl, hread⟩
  rw [getElem?_usedArguments (lt_used_of_mem_datePositions hi hlength), he, Option.map_some, hs]
  rfl

theorem alikeAt_usedArguments_set {i : Nat} {m : Moment} {s : String}
    (h : ∃ a ∈ (usedArguments t now f args)[i]?, a.IsMoment m)
    (hs : Moment.read? s.toList = some m) :
    AlikeAt i m (usedArguments t now f args) (usedArguments t now f (args.set i (.text s))) := by
  rw [usedArguments_set]
  refine ⟨h, ⟨.scalar (.text s), ?_, s, rfl, hs⟩, fun j hj => ?_⟩
  · obtain ⟨a, ha, -⟩ := h
    rw [List.getElem?_set_self (List.getElem?_eq_some_iff.1 ha).1]
    simp [evaluate]
  · rw [List.getElem?_set_ne (Ne.symm hj)]

/-- In the place of a date, a call that denotes a moment is read as that moment. -/
theorem Denotes.readsAs {e : Expression} {m : Moment} {i : Nat} (h : e.Denotes t now m)
    (hi : i ∈ f.datePositions) (he : args[i]? = some e) : ReadsAs t now f args i m := by
  have hmoment : ∃ a ∈ (usedArguments t now f args)[i]?, a.IsMoment m := h.isMoment hi he
  have hreads := momentAt_of_isMoment hmoment
  refine ⟨fun _ => hreads, fun _ => daysOff_of_isMoment hmoment, fun part hpart => ?_,
    fun s hs => ?_⟩
  · have hfirst : i = 0 := by cases f <;> first | exact List.mem_singleton.1 hi | cases hpart
    have hargs : args ≠ [] := by rintro rfl; cases he
    rw [hfirst] at hreads
    exact evaluateCall_of_momentPart? hpart hargs hreads
  · have hne : f ≠ .ifElse := by rintro rfl; cases hi
    have hvalue := Builtin.value_congr_moment (alikeAt_usedArguments_set hmoment hs) hi now
    have hcall := evaluateCall_congr_used hne (List.length_set ..).symm hvalue
    exact ⟨hcall, evaluate_call_congr hcall⟩

/-- A call of a date function does not come to `#VALUE!` if each argument denotes a moment in the
place of a date or can be read in another way. -/
theorem evaluateCall_ne_badValue (hf : f.datePositions ≠ [])
    (h : ∀ i, (i ∈ f.datePositions ∧ ∃ e m, args[i]? = some e ∧ Denotes t now e m)
      ∨ f.Reads (usedArguments t now f args) i) :
    evaluateCall t now f args ≠ .ok (.error .badValue) := by
  have hne : f ≠ .ifElse := by rintro rfl; exact hf rfl
  have hreads : ∀ i, f.Reads (usedArguments t now f args) i := by
    intro i
    rcases h i with ⟨hi, e, m, he, hdenotes⟩ | hreads
    · exact Builtin.reads_of_isMoment hi (hdenotes.isMoment hi he)
    · exact hreads
  by_cases hargs : f.arity.least ≤ args.length
  · rw [evaluateCall_eq_value hargs hne, ne_eq, Except.ok.injEq]
    exact Builtin.value_ne_badValue hf hreads now
  · rw [evaluateCall_eq_error_iff.2 (.tooFew (Nat.not_le.1 hargs))]
    simp

end Expression

/-- What it is for all dates that are written to be read back: the texts of dates and moments are
read as what they are texts of, whatever blanks are around them, and a call that produces a date is
read as the date it denotes wherever a function takes one. -/
structure DatesReadBack (t : Table) (now : Moment) : Prop where
  dates : ∀ d : Date, Moment.read? d.text.toList = some (.midnight d)
  moments : ∀ m : Moment, m.nanosecond.val < 1000000000 →
    Moment.read? m.text.toList = some { m with nanosecond := 0 }
  padded : ∀ s p q : List Char, (∀ c ∈ p, Text.isBlank c = true) →
    (∀ c ∈ q, Text.isBlank c = true) → Moment.read? (p ++ s ++ q) = Moment.read? s
  produced : ∀ (f : Builtin) (args : List Expression), f.producesDates = true →
    (f = .now → now.nanosecond.val < 1000000000) →
    (∃ err, (Expression.call f args).evaluate t now = .scalar (.error err))
      ∨ ∃ m, (Expression.call f args).Denotes t now m
  written : ∀ (e : Expression) (m : Moment), e.Denotes t now m →
    ∃ s : String, e.evaluate t now = .scalar (.text s) ∧ (s = m.date.text ∨ s = now.text)
      ∧ Moment.read? s.toList = some m
  nested : ∀ (f : Builtin) (args : List Expression) (i : Nat) (e : Expression) (m : Moment),
    i ∈ f.datePositions → args[i]? = some e → e.Denotes t now m →
      Expression.ReadsAs t now f args i m
  accepted : ∀ (f : Builtin) (args : List Expression), f.datePositions ≠ [] →
    (∀ i, (i ∈ f.datePositions ∧ ∃ e m, args[i]? = some e ∧ Expression.Denotes t now e m)
      ∨ f.Reads (Expression.usedArguments t now f args) i) →
    Expression.evaluateCall t now f args ≠ .ok (.error .badValue)

example : evaluate .empty 64 (.midnight .last) "=YEAR(EDATE(TODAY(),-6291000))"
    = .computed (.number (-262108.0)) := rfl

end Worksheet
