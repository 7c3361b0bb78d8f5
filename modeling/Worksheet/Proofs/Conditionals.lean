import Worksheet.Proofs.PairedRegions
import Worksheet.Proofs.Spreading

/-!
# Sums, means and counts by a criterion

`SUMIF`, `AVERAGEIF` and `COUNTIF` test the same values, and the first two take numbers from a
second list by index.  What they have in common are the positions at which the criterion selects the
value and the other list has a number (`matchedAt`): the sum is over the numbers there from left to
right, the mean divides that sum by how many there are, and the count is never less
(`conditionals_agree`).
-/

namespace Worksheet

open Functions

section Positions

variable (c : Criterion)

/-- The number at an index of a list of values. -/
def numberIn? (summed : List Value) (i : Nat) : Option Float :=
  summed[i]?.bind exactNumber?

/-- The positions in order at which the criterion selects the tested value and there is a number to
be summed. -/
def matchedAt (tested summed : List Value) : List Nat :=
  (List.range tested.length).filter fun i => tested[i]?.any c.selects && (numberIn? summed i).isSome

/-- The number that a pair of values gives. -/
theorem selected_cons (v w : Value) (tested summed : List Value) :
    selected c (v :: tested) (w :: summed)
      = (if c.selects v then (exactNumber? w).toList else []) ++ selected c tested summed := by
  unfold selected
  by_cases hv : c.selects v = true
  · rcases hw : exactNumber? w with _ | x <;> simp [hv, hw]
  · simp [hv]

theorem matchedAt_cons (v w : Value) (tested summed : List Value) :
    matchedAt c (v :: tested) (w :: summed)
      = (if c.selects v && (exactNumber? w).isSome then [0] else [])
        ++ (matchedAt c tested summed).map Nat.succ := by
  have htail : ((List.range tested.length).map Nat.succ).filter (fun i =>
      (v :: tested)[i]?.any c.selects && (numberIn? (w :: summed) i).isSome)
        = (matchedAt c tested summed).map Nat.succ := by
    rw [List.filter_map]
    rfl
  have hhead : ((v :: tested)[0]?.any c.selects && (numberIn? (w :: summed) 0).isSome)
      = (c.selects v && (exactNumber? w).isSome) := rfl
  rw [matchedAt, List.length_cons, List.range_succ_eq_map, List.filter_cons, htail, hhead]
  split_ifs <;> simp

/-- The selected numbers are those at the matched positions. -/
theorem selected_eq_filterMap : ∀ tested summed : List Value,
    selected c tested summed = (matchedAt c tested summed).filterMap (numberIn? summed)
  | [], _ => by simp [selected, matchedAt]
  | _ :: _, [] => by simp [selected, matchedAt, numberIn?]
  | v :: tested, w :: summed => by
    have hzero : numberIn? (w :: summed) 0 = exactNumber? w := rfl
    have hsucc : numberIn? (w :: summed) ∘ Nat.succ = numberIn? summed := rfl
    rw [selected_cons, matchedAt_cons, List.filterMap_append, List.filterMap_map, hsucc,
      selected_eq_filterMap tested summed]
    rcases c.selects v with _ | _ <;> rcases hw : exactNumber? w with _ | x <;> simp [hzero, hw]

theorem length_selected (tested summed : List Value) :
    (selected c tested summed).length = (matchedAt c tested summed).length := by
  have hsome : ∀ i ∈ matchedAt c tested summed, (numberIn? summed i).isSome = true := by
    intro i hi
    simp only [matchedAt, List.mem_filter, Bool.and_eq_true] at hi
    exact hi.2.2
  rw [selected_eq_filterMap, List.length_filterMap_eq_countP]
  exact List.countP_eq_length.2 hsome

theorem selected_eq_nil_iff (tested summed : List Value) :
    selected c tested summed = [] ↔ matchedAt c tested summed = [] := by
  rw [← List.length_eq_zero_iff, length_selected, List.length_eq_zero_iff]

/-- At every matched position a tested value is selected. -/
theorem length_selected_le : ∀ tested summed : List Value,
    (selected c tested summed).length ≤ tested.countP c.selects
  | [], _ => by simp [selected]
  | _ :: _, [] => by simp [selected]
  | v :: tested, w :: summed => by
    have htail := length_selected_le tested summed
    rw [selected_cons, List.length_append, List.countP_cons]
    have hhead : (exactNumber? w).toList.length ≤ 1 := by cases exactNumber? w <;> simp
    split_ifs
    · omega
    · simpa using htail

/-! ## One list tested and summed -/

theorem selected_self : ∀ values : List Value,
    selected c values values = (values.filter c.selects).filterMap exactNumber?
  | [] => rfl
  | v :: values => by
    rw [selected_cons, selected_self values, List.filter_cons]
    rcases c.selects v with _ | _ <;> rcases hv : exactNumber? v with _ | x <;> simp [hv]

variable {c} {values : List Value}

theorem selected_self_of_forall (h : ∀ v ∈ values, c.selects v = true) :
    selected c values values = values.filterMap exactNumber? := by
  rw [selected_self, List.filter_eq_self.2 h]

theorem length_selected_self (h : ∀ v ∈ values, ∃ x, v = .number x) :
    (selected c values values).length = values.countP c.selects := by
  have hnumbers : ∀ v ∈ values.filter c.selects, (exactNumber? v).isSome = true := by
    intro v hv
    obtain ⟨x, rfl⟩ := h v (List.mem_of_mem_filter hv)
    rfl
  rw [selected_self, List.length_filterMap_eq_countP,
    List.countP_eq_length.2 hnumbers, List.countP_eq_length_filter]

end Positions

/-! ## Calls -/

namespace Expression

variable (t : Table) (now : Moment) (range criterion : Expression) (rest : List Expression)

/-- The values that a conditional sum or mean takes its numbers from: those of the third argument,
or the tested ones. -/
def summedValues : List Value :=
  ((rest.head?.getD range).evaluate t now).values

theorem evaluate_selectedAt {f : Builtin} (hargs : f.arity = ⟨2, some 3⟩) (hf : f ≠ .ifElse) :
    ∃ args, (call f (range :: criterion :: rest)).evaluate t now = .scalar (f.value now args)
      ∧ selectedAt args = selected (criterion.criterion t now) (range.evaluate t now).values
        (summedValues t now range rest) := by
  have hleast : f.arity.least ≤ (range :: criterion :: rest).length := by
    rw [hargs]
    exact Nat.le_add_left 2 rest.length
  refine ⟨_, evaluate_call (evaluateCall_eq_value hleast hf), ?_⟩
  have hmost : f.arity.most = some 3 := by rw [hargs]
  rw [usedArguments_eq hmost]
  cases rest <;> rfl

theorem evaluate_sumIf_eq : (call .sumIf (range :: criterion :: rest)).evaluate t now
    = .scalar (.number (total (selected (criterion.criterion t now) (range.evaluate t now).values
        (summedValues t now range rest)))) := by
  obtain ⟨args, hvalue, hselected⟩ := evaluate_selectedAt t now range criterion rest
    (f := .sumIf) rfl (by decide)
  rw [hvalue, Builtin.value, sumIf, hselected]

theorem evaluate_averageIf_eq : (call .averageIf (range :: criterion :: rest)).evaluate t now
    = .scalar (averageOf (selected (criterion.criterion t now) (range.evaluate t now).values
        (summedValues t now range rest))) := by
  obtain ⟨args, hvalue, hselected⟩ := evaluate_selectedAt t now range criterion rest
    (f := .averageIf) rfl (by decide)
  rw [hvalue, Builtin.value, averageIf, ← hselected]
  cases selectedAt args <;> rfl

theorem evaluate_countIf_eq : (call .countIf [range, criterion]).evaluate t now
    = .scalar (.number (Float.ofNat
        ((range.evaluate t now).values.countP (criterion.criterion t now).selects))) := by
  have hleast : Builtin.countIf.arity.least ≤ [range, criterion].length := Nat.le_refl 2
  rw [evaluate_call (evaluateCall_eq_value hleast (by decide)), usedArguments_eq rfl]
  rfl

theorem evaluate_pooled_singleton {f : Builtin} (hf : f.isPooling = true) :
    (call f [range]).evaluate t now = .scalar (f.value now [range.evaluate t now]) :=
  evaluate_call (evaluateCall_pooling hf [range])

end Expression

theorem numbers_singleton (a : Argument) : numbers [a] = a.values.filterMap exactNumber? := by
  simp [numbers, flatten]

theorem average_of_ne_nil {args : List Argument} (h : numbers args ≠ []) :
    Functions.average args = .number (mean (numbers args)) := by
  unfold Functions.average
  split
  · contradiction
  · rfl

theorem averageOf_of_ne_nil {xs : List Float} (h : xs ≠ []) : averageOf xs = .number (mean xs) := by
  cases xs with
  | nil => exact absurd rfl h
  | cons x xs => rfl

theorem averageOf_eq_error_iff {xs : List Float} :
    averageOf xs = .error .divisionByZero ↔ xs = [] := by
  cases xs <;> simp [averageOf]

/-- What the three functions say of a range and a criterion and, but for the counts, perhaps in
`rest` of a range to take the numbers from. -/
structure ConditionalsAgree (t : Table) (now : Moment) (range criterion : Expression)
    (rest : List Expression) (tested summed : List Value) (positions : List Nat) : Prop where
  sum : (Expression.call .sumIf (range :: criterion :: rest)).evaluate t now
    = .scalar (.number ((positions.filterMap (numberIn? summed)).foldl (· + ·) (-0.0)))
  average_error : (Expression.call .averageIf (range :: criterion :: rest)).evaluate t now
    = .scalar (.error .divisionByZero) ↔ positions = []
  average : positions ≠ [] → ∃ x,
    (Expression.call .sumIf (range :: criterion :: rest)).evaluate t now = .scalar (.number x)
    ∧ (Expression.call .averageIf (range :: criterion :: rest)).evaluate t now
      = .scalar (.number (x / Float.ofNat positions.length))
  count : ∃ n, (Expression.call .countIf [range, criterion]).evaluate t now
      = .scalar (.number (Float.ofNat n))
    ∧ positions.length ≤ n
    ∧ (summed = tested → (∀ v ∈ tested, ∃ x, v = .number x) → positions.length = n)
  all : summed = tested → (∀ v ∈ tested, (criterion.criterion t now).selects v = true) →
    (Expression.call .sumIf (range :: criterion :: rest)).evaluate t now
      = (Expression.call .sum [range]).evaluate t now
    ∧ (Expression.call .countIf [range, criterion]).evaluate t now
      = .scalar (.number (Float.ofNat tested.length))
    ∧ ((∃ x, .number x ∈ tested) →
      (Expression.call .averageIf (range :: criterion :: rest)).evaluate t now
        = (Expression.call .average [range]).evaluate t now)

/-- The three functions agree on the positions at which the criterion selects a value and there is a
number to be summed. -/
theorem conditionals_agree (t : Table) (now : Moment) (range criterion : Expression)
    (rest : List Expression) :
    ConditionalsAgree t now range criterion rest (range.evaluate t now).values
      (Expression.summedValues t now range rest)
      (matchedAt (criterion.criterion t now) (range.evaluate t now).values
        (Expression.summedValues t now range rest)) := by
  have hsum := Expression.evaluate_sumIf_eq t now range criterion rest
  have haverage := Expression.evaluate_averageIf_eq t now range criterion rest
  have hcount := Expression.evaluate_countIf_eq t now range criterion
  constructor
  case sum =>
    rw [hsum, ← selected_eq_filterMap]
    rfl
  case average_error =>
    rw [haverage, Argument.scalar.injEq, averageOf_eq_error_iff, selected_eq_nil_iff]
  case average =>
    intro hne
    rw [ne_eq, ← selected_eq_nil_iff] at hne
    refine ⟨_, hsum, ?_⟩
    rw [haverage, averageOf_of_ne_nil hne, mean, length_selected]
  case count =>
    rw [← length_selected]
    refine ⟨_, hcount, length_selected_le .., fun heq hnumbers => ?_⟩
    rw [heq]
    exact length_selected_self hnumbers
  case all =>
    intro heq hall
    rw [heq, selected_self_of_forall hall] at hsum haverage
    refine ⟨?_, ?_, fun ⟨x, hx⟩ => ?_⟩
    · rw [hsum, Expression.evaluate_pooled_singleton t now range rfl, Builtin.value, Functions.sum,
        numbers_singleton]
    · rw [hcount, List.countP_eq_length.2 hall]
    · have hne : (range.evaluate t now).values.filterMap exactNumber? ≠ [] :=
        List.ne_nil_of_mem (List.mem_filterMap.2 ⟨_, hx, rfl⟩)
      rw [← numbers_singleton] at hne haverage
      rw [haverage, averageOf_of_ne_nil hne, Expression.evaluate_pooled_singleton t now range rfl,
        Builtin.value, average_of_ne_nil hne]

end Worksheet
