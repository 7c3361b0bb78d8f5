import Worksheet.Proofs.Spreading
import Worksheet.Proofs.ValueOrder

/-!
# Choosing among cases

`SWITCH` has a test of its own for whether a case is the one for a value.  Between numbers, texts,
booleans and empty values it holds exactly where `=` does (`Functions.isCase_eq`): between two kinds
that the test tells apart at once the order puts one before the other.  Both `SWITCH` and `IFS` take
the first case that holds, and what is left over at the end is a default for the one and, after
`TRUE`, for the other.  So the one can be written as the other (`switch_is_ifs`).
-/

namespace Worksheet

open Functions

/-- Items listed two by two. -/
def pairs {α : Type} (cases : List (α × α)) : List α :=
  cases.flatMap fun c => [c.1, c.2]

theorem pairs_cons {α : Type} (c : α × α) (cases : List (α × α)) :
    pairs (c :: cases) = c.1 :: c.2 :: pairs cases :=
  rfl

theorem pairs_concat {α : Type} (cases : List (α × α)) (c : α × α) (rest : List α) :
    pairs (cases ++ [c]) ++ rest = pairs cases ++ c.1 :: c.2 :: rest := by
  rw [pairs, List.flatMap_append, List.append_assoc]
  rfl

theorem length_pairs_append {α : Type} {cases : List (α × α)} (h : cases ≠ []) (rest : List α) :
    2 ≤ (pairs cases ++ rest).length := by
  obtain ⟨c, more, rfl⟩ := List.exists_cons_of_ne_nil h
  exact Nat.le_add_left 2 _

/-- Numbers, texts, booleans and empty values. -/
def Value.IsPlain : Value → Prop
  | .number _ | .text _ | .boolean _ | .empty => True
  | .list _ | .error _ => False

namespace Functions

theorem isCase_eq {v w : Value} (hv : v.IsPlain) (hw : w.IsPlain) :
    isCase v w = Comparator.equal.holds (v.compare w) := by
  cases v with
  | list | error => exact hv.elim
  | number | text | boolean | empty =>
    cases w with
    | list | error => exact hw.elim
    | number | text | boolean | empty => rfl

end Functions

namespace Expression

variable {t : Table} {now : Moment}

/-- Whether an expression comes to a single value of a kind that `SWITCH` compares as `=` does. -/
structure IsPlain (t : Table) (now : Moment) (e : Expression) : Prop where
  isScalar : e.IsScalar
  value : (e.scalarValue t now).IsPlain

/-- Whether two expressions are a case to compare with and its result. -/
structure IsCase (t : Table) (now : Moment) (c : Expression × Expression) : Prop where
  case : c.1.IsPlain t now
  result : c.2.IsScalar

/-- The cases with comparisons in place of what they are compared with. -/
def conditions (e : Expression) (cases : List (Expression × Expression)) :
    List (Expression × Expression) :=
  cases.map fun c => (comparison .equal e c.1, c.2)

/-- Whether `=` holds between two expressions. -/
def equals (t : Table) (now : Moment) (e e' : Expression) : Bool :=
  Comparator.equal.holds ((e.scalarValue t now).compare (e'.scalarValue t now))

theorem evaluate_equal (e e' : Expression) :
    (comparison .equal e e').evaluate t now = .scalar (.boolean (equals t now e e')) :=
  evaluate_comparison _ _ _

/-! ## Calls -/

theorem pool_scalar {e : Expression} (h : e.IsScalar) (args : List Expression) :
    pool t now (e :: args) = e.scalarValue t now :: pool t now args := by
  rw [pool_cons, evaluate_of_isScalar h]
  rfl

theorem evaluateCall_switch {e : Expression} {args : List Expression} (he : e.IsScalar)
    (hargs : 2 ≤ args.length) : evaluateCall t now .switch (e :: args)
      = .ok (settle (chosenCase (e.scalarValue t now) (pool t now args))) := by
  have hflatten : flatten ((e :: args).map (evaluate t now))
      = e.scalarValue t now :: pool t now args := by
    rw [← pool_scalar he]
    exact List.flatMap_map ..
  rw [evaluateCall_unlimited (by decide) rfl (by exact Nat.succ_le_succ hargs), Builtin.value,
    switch, hflatten]

theorem evaluateCall_ifs {args : List Expression} (hargs : 2 ≤ args.length) :
    evaluateCall t now .ifs args = .ok (settle (firstHolding (pool t now args))) := by
  have hflatten : flatten (args.map (evaluate t now)) = pool t now args := List.flatMap_map ..
  rw [evaluateCall_unlimited (by decide) rfl (by exact hargs), Builtin.value, ifs, hflatten]

section Cases

variable {e : Expression} {cases : List (Expression × Expression)}

/-- The result of the first case that holds. -/
def firstResult? (t : Table) (now : Moment) (e : Expression)
    (cases : List (Expression × Expression)) : Option Outcome :=
  (cases.find? fun c => equals t now e c.1).map fun c => .ok (c.2.scalarValue t now)

theorem chosenCase_pool (he : e.IsPlain t now) (rest : List Expression) :
    ∀ cases : List (Expression × Expression), (∀ c ∈ cases, IsCase t now c) →
      chosenCase (e.scalarValue t now) (pool t now (pairs cases ++ rest))
        = (firstResult? t now e cases).getD
          (chosenCase (e.scalarValue t now) (pool t now rest))
  | [], _ => rfl
  | c :: cases, h => by
    have hc := h c List.mem_cons_self
    have hholds : isCase (e.scalarValue t now) (c.1.scalarValue t now) = equals t now e c.1 :=
      isCase_eq he.value hc.case.value
    have ih := chosenCase_pool he rest cases fun c hc => h c (List.mem_cons_of_mem _ hc)
    rw [pairs_cons, List.cons_append, List.cons_append, pool_scalar hc.case.isScalar,
      pool_scalar hc.result, chosenCase, hholds, ih, firstResult?, firstResult?, List.find?_cons]
    rcases equals t now e c.1 <;> rfl

theorem firstHolding_pool (rest : List Expression) :
    ∀ cases : List (Expression × Expression), (∀ c ∈ cases, IsCase t now c) →
      firstHolding (pool t now (pairs (conditions e cases) ++ rest))
        = (firstResult? t now e cases).getD (firstHolding (pool t now rest))
  | [], _ => rfl
  | c :: cases, h => by
    have hc := h c List.mem_cons_self
    have hcondition : (comparison .equal e c.1).scalarValue t now
        = .boolean (equals t now e c.1) := by
      rw [scalarValue, evaluate_equal]
      rfl
    have ih := firstHolding_pool rest cases fun c hc => h c (List.mem_cons_of_mem _ hc)
    rw [conditions, List.map_cons, ← conditions, pairs_cons, List.cons_append, List.cons_append,
      pool_scalar (by trivial), pool_scalar hc.result, firstHolding, hcondition, ih, firstResult?,
      firstResult?, List.find?_cons]
    rcases equals t now e c.1 <;> rfl

theorem firstResult?_append {before : List (Expression × Expression)} {c : Expression × Expression}
    (hbefore : ∀ b ∈ before, equals t now e b.1 = false) (hc : equals t now e c.1 = true) :
    firstResult? t now e (before ++ [c]) = some (.ok (c.2.scalarValue t now)) := by
  have hnone : before.find? (fun b => equals t now e b.1) = none :=
    List.find?_eq_none.2 fun b hb => by rw [hbefore b hb]; exact Bool.false_ne_true
  rw [firstResult?, List.find?_append, hnone, List.find?_cons, hc]
  rfl

section NonEmpty

variable (hne : cases ≠ []) (hcases : ∀ c ∈ cases, IsCase t now c)

include hne hcases

theorem evaluateCall_switch_pairs (he : e.IsPlain t now) (rest : List Expression) :
    evaluateCall t now .switch (e :: (pairs cases ++ rest))
      = .ok (settle ((firstResult? t now e cases).getD
          (chosenCase (e.scalarValue t now) (pool t now rest)))) := by
  rw [evaluateCall_switch he.isScalar (length_pairs_append hne rest),
    chosenCase_pool he rest cases hcases]

theorem evaluateCall_ifs_pairs (rest : List Expression) :
    evaluateCall t now .ifs (pairs (conditions e cases) ++ rest)
      = .ok (settle ((firstResult? t now e cases).getD (firstHolding (pool t now rest)))) := by
  have hconditions : conditions e cases ≠ [] := by simpa [conditions] using hne
  rw [evaluateCall_ifs (length_pairs_append hconditions rest), firstHolding_pool rest cases hcases]

end NonEmpty

end Cases

end Expression

open Expression in
/-- What it is for `SWITCH` on an expression to be an `IFS` over comparisons with it: with the same
cases and results, and with a default after `TRUE`, the two calls come to the same, and both come to
the result of the first case that holds, whatever follows it. -/
structure SwitchesAsIfs (t : Table) (now : Moment) (e : Expression) : Prop where
  same : ∀ cases : List (Expression × Expression), cases ≠ [] → (∀ c ∈ cases, IsCase t now c) →
    evaluateCall t now .switch (e :: pairs cases)
      = evaluateCall t now .ifs (pairs (conditions e cases))
  otherwise : ∀ (cases : List (Expression × Expression)) (d : Expression), cases ≠ [] →
    (∀ c ∈ cases, IsCase t now c) → d.IsScalar →
    evaluateCall t now .switch (e :: (pairs cases ++ [d]))
      = evaluateCall t now .ifs (pairs (conditions e cases) ++ [.boolean true, d])
  first : ∀ (before : List (Expression × Expression)) (v r : Expression) (after : List Expression),
    (∀ c ∈ before, IsCase t now c
      ∧ (comparison .equal e c.1).evaluate t now = .scalar (.boolean false)) →
    IsCase t now (v, r) → (comparison .equal e v).evaluate t now = .scalar (.boolean true) →
    evaluateCall t now .switch (e :: (pairs before ++ v :: r :: after)) = .ok (r.scalarValue t now)
      ∧ evaluateCall t now .ifs (pairs (conditions e before) ++ comparison .equal e v :: r :: after)
        = .ok (r.scalarValue t now)

/-- `SWITCH` between numbers, texts, booleans and empty values is an `IFS` over comparisons. -/
theorem switch_is_ifs (t : Table) (now : Moment) (e : Expression) (he : e.IsPlain t now) :
    SwitchesAsIfs t now e where
  same := by
    intro cases hne hcases
    have hswitch := Expression.evaluateCall_switch_pairs hne hcases he []
    have hifs : Expression.evaluateCall t now .ifs (pairs (Expression.conditions e cases) ++ [])
        = _ := Expression.evaluateCall_ifs_pairs hne hcases []
    rw [List.append_nil] at hswitch hifs
    rw [hswitch, hifs]
    rfl
  otherwise := by
    intro cases d hne hcases hd
    rw [Expression.evaluateCall_switch_pairs hne hcases he,
      Expression.evaluateCall_ifs_pairs hne hcases, Expression.pool_scalar hd,
      Expression.pool_scalar (by trivial), Expression.pool_scalar hd]
    rfl
  first := by
    intro before v r after hbefore hcase hholds
    simp only [Expression.evaluate_equal, Argument.scalar.injEq, Value.boolean.injEq]
      at hbefore hholds
    have hresult : Expression.firstResult? t now e (before ++ [(v, r)])
        = some (.ok (r.scalarValue t now)) :=
      Expression.firstResult?_append (fun b hb => (hbefore b hb).2) hholds
    have hne : before ++ [(v, r)] ≠ [] := List.concat_ne_nil _ _
    have hcases : ∀ c ∈ before ++ [(v, r)], Expression.IsCase t now c := by
      intro c hc
      rcases List.mem_append.1 hc with hc | hc
      · exact (hbefore c hc).1
      · rw [List.mem_singleton.1 hc]
        exact hcase
    have hswitch := Expression.evaluateCall_switch_pairs hne hcases he after
    have hifs : Expression.evaluateCall t now .ifs
        (pairs (Expression.conditions e (before ++ [(v, r)])) ++ after) = _ :=
      Expression.evaluateCall_ifs_pairs hne hcases after
    rw [hresult, pairs_concat] at hswitch
    rw [hresult, Expression.conditions, List.map_append, List.map_singleton, pairs_concat,
      ← Expression.conditions] at hifs
    exact ⟨hswitch, hifs⟩

/-- A case that is an empty value holds for the empty text, before the one for it. -/
theorem switch_emptyText :
    (Expression.text "").IsPlain .empty (.midnight .epoch)
      ∧ Expression.evaluateCall .empty (.midnight .epoch) .switch
          [.text "", .boolean false, .number 1.0, .empty, .number 2.0, .text "", .number 3.0]
        = Expression.evaluateCall .empty (.midnight .epoch) .ifs
          [.comparison .equal (.text "") (.boolean false), .number 1.0,
            .comparison .equal (.text "") .empty, .number 2.0,
            .comparison .equal (.text "") (.text ""), .number 3.0]
      ∧ Expression.evaluateCall .empty (.midnight .epoch) .switch
          [.text "", .boolean false, .number 1.0, .empty, .number 2.0, .text "", .number 3.0]
        = .ok (.number 2.0) := by
  have hplain : (Expression.text "").IsPlain .empty (.midnight .epoch) := ⟨trivial, trivial⟩
  have hcases : ∀ c ∈ [(Expression.boolean false, Expression.number 1.0),
      (.empty, .number 2.0), (.text "", .number 3.0)],
      Expression.IsCase .empty (.midnight .epoch) c := by
    intro c hc
    simp only [List.mem_cons, List.not_mem_nil, or_false] at hc
    rcases hc with rfl | rfl | rfl <;> exact ⟨⟨trivial, trivial⟩, trivial⟩
  exact ⟨hplain, (switch_is_ifs _ _ _ hplain).same _ (by simp) hcases, rfl⟩

end Worksheet
