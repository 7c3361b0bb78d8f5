import Worksheet.Proofs.Readings

/-!
# The leftmost argument that cannot be read

Many functions read each of their arguments as a text, a number or a moment, from left to right, and
do not look closer at anything they have read before the last reading is done.  A reading either
goes well or is the error of its argument (`Functions.Takes`), so the first argument that is an
error or cannot be read decides what such a function comes to, whatever the others are
(`leftmost_error_decides`).
-/

namespace Worksheet

open Functions

/-! ## Readings -/

/-- What a function reads an argument as. -/
inductive Reading where
  | text
  | number
  | moment

namespace Reading

/-- Whether a value that is no error can be read. -/
def accepts : Reading → Value → Bool
  | .text, _ => true
  | .number, v => v.number?.isSome
  | .moment, .text s => (Moment.read? s.toList).isSome
  | .moment, _ => false

/-- The error in place of a value that is read: the value itself, if it is one. -/
def error? (r : Reading) : Value → Option ErrorToken
  | .error e => some e
  | v => if r.accepts v then none else some .badValue

end Reading

/-- What the functions read their arguments as that read them all in this way before anything
else. -/
def Builtin.readings : Builtin → List Reading
  | .abs | .int | .sqrt => [.number]
  | .mod | .power | .round | .roundUp | .roundDown | .ceiling | .floor => [.number, .number]
  | .upper | .lower | .len | .trim | .proper => [.text]
  | .left | .right | .rept => [.text, .number]
  | .mid => [.text, .number, .number]
  | .find | .search => [.text, .text, .number]
  | .year | .month | .day | .hour | .minute | .second => [.moment]
  | .weekday | .eDate | .eoMonth => [.moment, .number]
  | .dateDif => [.moment, .moment, .text]
  | _ => []

/-- No argument of these functions is left unread. -/
theorem Builtin.most_arity {f : Builtin} (hf : f.readings ≠ []) :
    f.arity.most = some f.readings.length := by
  cases f <;> first | rfl | exact absurd rfl hf

/-- The error in place of the value at a position. -/
def errorAt? (readings : List Reading) (values : List Value) (i : Nat) : Option ErrorToken := do
  (← readings[i]?).error? (← values[i]?)

/-- The error in place of the first value that cannot be read. -/
def firstError? : List Reading → List Value → Option ErrorToken
  | r :: readings, v :: values => (r.error? v).or (firstError? readings values)
  | _, _ => none

theorem firstError?_take {n : Nat} : ∀ {readings : List Reading} (values : List Value),
    readings.length ≤ n → firstError? readings (values.take n) = firstError? readings values
  | [], _, _ => rfl
  | r :: readings, [], _ => by rw [List.take_nil]
  | r :: readings, v :: values, hn => by
    obtain ⟨n, rfl⟩ := Nat.exists_eq_add_of_le' hn
    rw [List.length_cons, ← Nat.add_assoc, List.take_succ_cons, firstError?, firstError?,
      firstError?_take values (Nat.le_add_left _ n)]

/-- If there is an error at some position, the first one is at the leftmost such position. -/
theorem exists_leftmost {readings : List Reading} {values : List Value} {i : Nat}
    (hi : errorAt? readings values i ≠ none) :
    ∃ j ≤ i, ∃ e, errorAt? readings values j = some e
      ∧ (∀ k < j, errorAt? readings values k = none) ∧ firstError? readings values = some e := by
  induction readings generalizing values i with
  | nil => exact absurd rfl hi
  | cons r readings ih =>
    cases values with
    | nil =>
      have hnone : errorAt? (r :: readings) [] i = none := by
        rw [errorAt?, List.getElem?_nil]
        cases (r :: readings)[i]? <;> rfl
      exact absurd hnone hi
    | cons v values =>
      -- The first value decides if it leads to an error; otherwise all positions move by one.
      rcases hhere : r.error? v with _ | e
      · cases i with
        | zero => exact absurd hhere hi
        | succ i =>
          obtain ⟨j, hji, e, hj, hleft, hfirst⟩ := ih hi
          refine ⟨j + 1, Nat.succ_le_succ hji, e, hj, fun k hk => ?_, ?_⟩
          · cases k with
            | zero => exact hhere
            | succ k => exact hleft k (Nat.lt_of_succ_lt_succ hk)
          · rw [firstError?, hhere, Option.none_or, hfirst]
      · refine ⟨0, Nat.zero_le i, e, hhere, by simp, ?_⟩
        rw [firstError?, hhere, Option.some_or]

/-! ## One reading after the other -/

namespace Functions

variable {values : List Value} {i : Nat} {r : Reading} {readings : List Reading} {α β : Type}

/-- What it is to come to the first error, if there is one among the values from a position on. -/
def Reports (values : List Value) (i : Nat) (readings : List Reading)
    (outcome : Except ErrorToken α) : Prop :=
  ∀ e, firstError? readings (values.drop i) = some e → outcome = .error e

theorem reports_nil (outcome : Except ErrorToken α) : Reports values i [] outcome := by
  rintro e ⟨⟩

/-- What is done with what has been read does not matter where the reading goes wrong. -/
theorem Reports.bind {m : Except ErrorToken α} (hm : Reports values i readings m)
    (next : α → Except ErrorToken β) : Reports values i readings (m >>= next) := by
  intro e he
  rw [hm e he]
  rfl

theorem Reports.settle {outcome : Outcome} (h : Reports values 0 readings outcome) {e : ErrorToken}
    (he : firstError? readings values = some e) : settle outcome = .error e := by
  rw [h e he]
  rfl

def failure? : Except ErrorToken α → Option ErrorToken
  | .error e => some e
  | .ok _ => none

/-- What it is to read the value at a position: there is an error in place of the one if there is
one in place of the other. -/
def Takes (values : List Value) (i : Nat) (r : Reading) (m : Except ErrorToken α) : Prop :=
  ∀ v, values[i]? = some v → failure? m = r.error? v

theorem Takes.bind {m : Except ErrorToken α} (hm : Takes values i r m)
    {next : α → Except ErrorToken β} (hnext : ∀ x, Reports values (i + 1) readings (next x)) :
    Reports values i (r :: readings) (m >>= next) := by
  intro e he
  rcases Nat.lt_or_ge i values.length with hi | hi
  · have hread := hm values[i] (List.getElem?_eq_getElem hi)
    rw [List.drop_eq_getElem_cons hi, firstError?, ← hread] at he
    cases m with
    | error e' =>
      cases he
      rfl
    | ok x => exact hnext x e he
  -- Past the last value there is nothing to report, though a missing argument may be an error.
  · rw [List.drop_of_length_le hi] at he
    cases he

theorem Takes.reports {m : Except ErrorToken α} (hm : Takes values i r m) :
    Reports values i [r] m := by
  have hbind : Reports values i [r] (m >>= pure) := hm.bind fun x => reports_nil (pure x)
  rwa [bind_pure] at hbind

theorem failure?_asNumber (v : Value) : failure? (asNumber v) = Reading.number.error? v := by
  cases v with
  | text s =>
    have hnumber : (Value.text s).number? = Number.finite? s.toList := rfl
    rw [asNumber, Reading.error?, Reading.accepts, hnumber]
    · rcases Number.finite? s.toList with _ | x <;> rfl
    all_goals rintro e ⟨⟩
  | _ => rfl

section Scalars

variable (values) (i)

theorem valueAt?_scalars : valueAt? (values.map .scalar) i = values[i]? := by
  rw [valueAt?, List.getElem?_map]
  rcases values[i]? with _ | v <;> rfl

theorem takes_textAt : Takes values i .text (textAt (values.map .scalar) i) := by
  intro v hv
  rw [textAt, valueAt?_scalars, hv]
  cases v <;> rfl

theorem takes_numberAt : Takes values i .number (numberAt (values.map .scalar) i) := by
  intro v hv
  rw [numberAt, valueAt?_scalars, hv]
  exact failure?_asNumber v

theorem takes_numberOr (otherwise : Float) :
    Takes values i .number (numberOr (values.map .scalar) i otherwise) := by
  intro v hv
  rw [numberOr, valueAt?_scalars, hv]
  exact failure?_asNumber v

theorem takes_momentAt : Takes values i .moment (momentAt (values.map .scalar) i) := by
  intro v hv
  rw [momentAt, valueAt?_scalars, hv]
  cases v with
  | text s =>
    rw [Reading.error?, Reading.accepts]
    · simp only
      rcases Moment.read? s.toList with _ | m <;> rfl
    all_goals rintro e ⟨⟩
  | _ => rfl

/-! A number that is looked at more closely has been read before. -/

theorem reports_countOr (otherwise : Float) :
    Reports values i [.number] (countOr (values.map .scalar) i otherwise) :=
  (takes_numberOr values i otherwise).reports.bind _

theorem reports_monthsAt : Reports values i [.number] (monthsAt (values.map .scalar) i) :=
  (takes_numberAt values i).reports.bind _

theorem reports_places : Reports values 1 [.number] (places (values.map .scalar)) := by
  intro e he
  rw [places, (takes_numberOr values 1 0.0).reports e he]
  rfl

end Scalars

end Functions

/-- The first error decides what a function comes to that reads all its arguments first. -/
theorem Builtin.value_eq_error {f : Builtin} {values : List Value} {e : ErrorToken}
    (h : firstError? f.readings values = some e) (now : Moment) :
    f.value now (values.map .scalar) = .error e := by
  cases f with
  | abs | int | sqrt =>
    exact ((takes_numberAt values 0).bind fun _ => reports_nil _).settle h
  | mod | power =>
    exact ((takes_numberAt values 0).bind fun _ =>
      (takes_numberAt values 1).bind fun _ => reports_nil _).settle h
  | round | roundUp | roundDown =>
    exact ((takes_numberAt values 0).bind fun _ => (reports_places values).bind _).settle h
  | ceiling | floor =>
    exact ((takes_numberAt values 0).bind fun _ =>
      (takes_numberOr values 1 1.0).bind fun _ => reports_nil _).settle h
  | upper | lower | len | trim | proper =>
    exact ((takes_textAt values 0).bind fun _ => reports_nil _).settle h
  | left | right =>
    exact ((takes_textAt values 0).bind fun _ => (reports_countOr values 1 1.0).bind _).settle h
  | rept =>
    exact ((takes_textAt values 0).bind fun _ => (reports_countOr values 1 0.0).bind _).settle h
  | mid =>
    exact ((takes_textAt values 0).bind fun _ => (takes_numberAt values 1).bind fun _ =>
      (reports_countOr values 2 0.0).bind _).settle h
  | find | search =>
    exact ((takes_textAt values 0).bind fun _ => (takes_textAt values 1).bind fun _ =>
      (takes_numberOr values 2 1.0).bind fun _ => reports_nil _).settle h
  | year | month | day | hour | minute | second =>
    exact ((takes_momentAt values 0).bind fun _ => reports_nil _).settle h
  | weekday =>
    exact ((takes_momentAt values 0).bind fun _ =>
      (takes_numberOr values 1 1.0).bind fun _ => reports_nil _).settle h
  | eDate | eoMonth =>
    exact ((takes_momentAt values 0).bind fun _ => (reports_monthsAt values 1).bind _).settle h
  | dateDif =>
    exact ((takes_momentAt values 0).bind fun _ => (takes_momentAt values 1).bind fun _ =>
      (takes_textAt values 2).bind fun _ => reports_nil _).settle h
  | _ => cases h

namespace Expression

variable {t : Table} {now : Moment} {f : Builtin} {args : List Expression}

/-- The error in place of the argument at a position. -/
def argumentError? (t : Table) (now : Moment) (f : Builtin) (args : List Expression) (i : Nat) :
    Option ErrorToken :=
  errorAt? f.readings (args.map (scalarValue t now)) i

theorem evaluateCall_eq_error (hscalar : ∀ a ∈ args, a.IsScalar)
    (hleast : f.arity.least ≤ args.length) {e : ErrorToken}
    (h : firstError? f.readings (args.map (scalarValue t now)) = some e) :
    evaluateCall t now f args = .ok (.error e) := by
  have hne : f.readings ≠ [] := by
    intro hnil
    rw [hnil] at h
    cases h
  have hif : f ≠ .ifElse := by
    rintro rfl
    exact hne rfl
  have hread : usedArguments t now f args
      = ((args.map (scalarValue t now)).take f.readings.length).map .scalar := by
    rw [usedArguments_eq (Builtin.most_arity hne), ← List.map_take, List.map_map]
    exact List.map_congr_left fun a ha => evaluate_of_isScalar (hscalar a (List.mem_of_mem_take ha))
  rw [← firstError?_take _ (Nat.le_refl _)] at h
  rw [evaluateCall_eq_value hleast hif, hread, Builtin.value_eq_error h]

end Expression

/-- A call with single values as arguments comes to the error that is in place of the leftmost one
that is an error or cannot be read: to that very error, or to `#VALUE!`. -/
theorem leftmost_error_decides (t : Table) (now : Moment) {f : Builtin} {args : List Expression}
    (hscalar : ∀ a ∈ args, a.IsScalar) (hleast : f.arity.least ≤ args.length) {i : Nat}
    (hi : Expression.argumentError? t now f args i ≠ none) :
    ∃ j ≤ i, ∃ e, Expression.argumentError? t now f args j = some e
      ∧ (∀ k < j, Expression.argumentError? t now f args k = none)
      ∧ Expression.evaluateCall t now f args = .ok (.error e)
      ∧ (Expression.call f args).evaluate t now = .scalar (.error e)
      ∧ ∀ limit text, Formula.parse limit text = .ok (.expression (.call f args)) →
          evaluate t limit now text = .computed (.error e) := by
  obtain ⟨j, hji, e, hj, hleft, hfirst⟩ := exists_leftmost hi
  have hcall := Expression.evaluateCall_eq_error hscalar hleast hfirst
  refine ⟨j, hji, e, hj, hleft, hcall, Expression.evaluate_call hcall, fun limit text h => ?_⟩
  simp only [evaluate, h, hcall]
  rfl

/-- The remainder of what is not available is not available, even by zero. -/
theorem mod_of_notAvailable :
    evaluate Table.empty 64 (.midnight .epoch) "=MOD(NA(),0)"
      = .computed (.error .notAvailable) := by
  have hscalar : ∀ a ∈ [Expression.call .na [], .number 0.0], a.IsScalar := by
    simp [Expression.IsScalar]
  have hfirst : Expression.argumentError? Table.empty (.midnight .epoch) .mod
      [.call .na [], .number 0.0] 0 ≠ none := by decide
  obtain ⟨j, hj, e, he, -, -, -, hformula⟩ :=
    leftmost_error_decides Table.empty (.midnight .epoch) hscalar (by exact Nat.le_refl 2) hfirst
  obtain rfl := Nat.le_zero.1 hj
  cases he
  exact hformula 64 _ rfl

end Worksheet
