import Worksheet.Proofs.DateArguments

/-!
# What expressions are read as

A function that needs a date, a number or a text takes the first value that an argument comes to.
These are the readings that go well (`Functions.momentAt_eq_ok_iff`,
`Functions.numberAt_eq_ok_iff`, `Functions.textAt_eq_ok_iff`), said of the expressions in a formula.
-/

namespace Worksheet

namespace Functions

variable {args : List Argument} {i : Nat}

theorem momentAt_eq_ok_iff {m : Moment} : momentAt args i = .ok m
    ↔ ∃ s, valueAt? args i = some (.text s) ∧ Moment.read? s.toList = some m := by
  unfold momentAt
  split
  · rename_i e hvalue
    simp [hvalue]
  · rename_i s hvalue
    simp only [hvalue, Option.some.injEq, Value.text.injEq, exists_eq_left']
    split <;> simp_all
  · rename_i hother
    simp only [reduceCtorEq, false_iff]
    rintro ⟨s, hs, -⟩
    exact hother s hs

theorem asNumber_eq_ok_iff {v : Value} {x : Float} : asNumber v = .ok x ↔ v.number? = some x := by
  unfold asNumber
  split
  · simp [Value.number?]
  · split <;> simp_all

theorem numberAt_eq_ok_iff {x : Float} :
    numberAt args i = .ok x ↔ ∃ v, valueAt? args i = some v ∧ v.number? = some x := by
  unfold numberAt
  split
  · rename_i hvalue
    simp [hvalue]
  · rename_i v hvalue
    simp [hvalue, asNumber_eq_ok_iff]

/-- Where there is no value, the text is that of the empty value. -/
theorem textAt_eq_ok_iff {s : List Char} : textAt args i = .ok s ↔
    (∀ e, (valueAt? args i).getD .empty ≠ .error e)
      ∧ ((valueAt? args i).getD .empty).toText.toList = s := by
  unfold textAt
  split
  · rename_i hvalue
    simp [hvalue, Value.toText]
  · rename_i e hvalue
    simp [hvalue]
  · rename_i v hno hvalue
    have hno' : ∀ e, v ≠ .error e := fun e he => hno e (by rw [he])
    simp [hvalue, hno']

end Functions

namespace Expression

variable {t : Table} {now : Moment}

/-- Whether an expression comes to a text that is read as a moment of a date. -/
def ReadsDate (t : Table) (now : Moment) (e : Expression) (d : Date) : Prop :=
  ∃ s m, (e.evaluate t now).first? = some (.text s) ∧ Moment.read? s.toList = some m ∧ m.date = d

/-- Whether an expression comes to a value that is read as a number. -/
def ReadsNumber (t : Table) (now : Moment) (e : Expression) (x : Float) : Prop :=
  ∃ v, (e.evaluate t now).first? = some v ∧ v.number? = some x

/-- Whether an expression comes to a value with a text, or to none. -/
def ReadsText (t : Table) (now : Moment) (e : Expression) (s : List Char) : Prop :=
  (∀ error, (e.evaluate t now).toScalar ≠ .error error)
    ∧ (e.evaluate t now).toScalar.toText.toList = s

variable {args : List Argument} {i : Nat} {e : Expression}

theorem ReadsDate.unique {d d' : Date} (h : e.ReadsDate t now d) (h' : e.ReadsDate t now d') :
    d = d' := by
  obtain ⟨s, m, hs, hm, rfl⟩ := h
  obtain ⟨s', m', hs', hm', rfl⟩ := h'
  rw [hs, Option.some.injEq, Value.text.injEq] at hs'
  rw [hs', hm', Option.some.injEq] at hm
  rw [hm]

theorem ReadsNumber.unique {x y : Float} (h : e.ReadsNumber t now x)
    (h' : e.ReadsNumber t now y) : x = y := by
  obtain ⟨v, hv, hx⟩ := h
  obtain ⟨w, hw, hy⟩ := h'
  rw [hv, Option.some.injEq] at hw
  rw [hw, hy, Option.some.injEq] at hx
  exact hx.symm

theorem readsDate_iff {d : Date} (h : args[i]? = some (e.evaluate t now)) :
    e.ReadsDate t now d ↔ ∃ m, Functions.momentAt args i = .ok m ∧ m.date = d := by
  simp only [Functions.momentAt_eq_ok_iff, Functions.valueAt?, h, Option.bind_some, ReadsDate]
  constructor
  · rintro ⟨s, m, hs, hm, hd⟩
    exact ⟨m, ⟨s, hs, hm⟩, hd⟩
  · rintro ⟨m, ⟨s, hs, hm⟩, hd⟩
    exact ⟨s, m, hs, hm, hd⟩

theorem readsNumber_iff {x : Float} (h : args[i]? = some (e.evaluate t now)) :
    e.ReadsNumber t now x ↔ Functions.numberAt args i = .ok x := by
  simp only [Functions.numberAt_eq_ok_iff, Functions.valueAt?, h, Option.bind_some, ReadsNumber]

theorem ReadsNumber.numberOr {x : Float} (hx : e.ReadsNumber t now x)
    (h : args[i]? = some (e.evaluate t now)) (y : Float) : Functions.numberOr args i y = .ok x := by
  obtain ⟨v, hv, hnumber⟩ := hx
  have hvalue : Functions.valueAt? args i = some v := by rw [Functions.valueAt?, h]; exact hv
  rw [Functions.numberOr, hvalue]
  exact Functions.asNumber_eq_ok_iff.2 hnumber

theorem readsText_iff {s : List Char} (h : args[i]? = some (e.evaluate t now)) :
    e.ReadsText t now s ↔ Functions.textAt args i = .ok s := by
  simp only [Functions.textAt_eq_ok_iff, Functions.valueAt?, h, Option.bind_some, ReadsText,
    Argument.toScalar]

theorem readsNumber_of_evaluate_eq {x : Float} (h : e.evaluate t now = .scalar (.number x)) :
    e.ReadsNumber t now x :=
  ⟨.number x, by rw [h]; rfl, rfl⟩

theorem readsNumber_number (x : Float) : (number x).ReadsNumber t now x :=
  readsNumber_of_evaluate_eq (by rw [evaluate])

theorem readsText_of_evaluate_eq {s : List Char}
    (h : e.evaluate t now = .scalar (.text (String.ofList s))) : e.ReadsText t now s := by
  rw [ReadsText, h]
  exact ⟨by rintro error ⟨⟩, String.toList_ofList⟩

theorem readsText_text (s : List Char) : (text (String.ofList s)).ReadsText t now s :=
  readsText_of_evaluate_eq (by rw [evaluate])

/-- What a call comes to that uses all its arguments. -/
theorem evaluate_call_eq_value {f : Builtin} {args : List Expression}
    (hleast : f.arity.least ≤ args.length) (hused : args.length ≤ f.arity.used args.length)
    (hf : f ≠ .ifElse) :
    (call f args).evaluate t now = .scalar (f.value now (args.map (evaluate t now))) := by
  rw [evaluate_call (evaluateCall_eq_value hleast hf), usedArguments, evaluateFirst_eq_map,
    List.take_of_length_le hused]

end Expression

end Worksheet
