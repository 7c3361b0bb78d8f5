import Worksheet.Proofs.Blocks
import Worksheet.Proofs.Levels

/-!
# Which formulas fail

A formula fails if it has too many levels, if its outermost call has too few arguments, or if that
call is an `IF` and every argument it uses is a region without a cell in the table; it fails for no
other reason (`evaluate_eq_failed_iff`).  No other function ever fails on its arguments
(`Builtin.apply_eq_error_iff`).

Whatever fails further inside is read as `#ERROR!` by what is around it.  To see that nothing
depends on this being built into evaluation, expressions are also evaluated in a way that passes on
every failure of an operand or an argument (`Expression.attempt`).  A call settles its own failures,
so there is never one to pass on, and both ways of evaluating come to the same
(`Expression.attempt_eq_ok`).
-/

namespace Worksheet

/-! ## Calls -/

theorem Functions.ifElse_eq_error_iff {args : List Argument} {e : FormulaError} :
    ifElse args = .error e ↔ flatten args = [] ∧ e = .noCondition := by
  unfold ifElse
  cases flatten args with
  | nil => simp [eq_comm]
  | cons => simp

theorem Builtin.apply_eq_error_iff {f : Builtin} {now : Moment} {args : List Argument}
    {e : FormulaError} :
    f.apply now args = .error e ↔ f = .ifElse ∧ Functions.flatten args = [] ∧ e = .noCondition := by
  by_cases hf : f = .ifElse
  · simp only [hf, apply, Functions.ifElse_eq_error_iff, true_and]
  · simp [apply_of_ne hf, hf]

namespace Expression

variable {t : Table} {now : Moment}

/-- Whether an argument is a region that contributes no value to a call. -/
def IsVoid (t : Table) : Expression → Prop
  | .region r => t.Misses r
  | .badRegion _ => True
  | _ => False

theorem values_evaluate_eq_nil_iff {e : Expression} :
    (e.evaluate t now).values = [] ↔ e.IsVoid t := by
  cases e with
  | region r => simpa only [evaluate, IsVoid] using Table.values_block_eq_nil_iff
  | badRegion text => simp [evaluate, IsVoid, Argument.values]
  | call f args =>
    rw [evaluate]
    split <;> simp [IsVoid, Argument.values]
  | _ => simp [evaluate, IsVoid, Argument.values]

/-- Whether an expression is a single value and no region. -/
def IsScalar : Expression → Prop
  | .region _ | .badRegion _ => False
  | _ => True

/-- The single value that an expression comes to. -/
def scalarValue (t : Table) (now : Moment) (e : Expression) : Value :=
  (e.evaluate t now).toScalar

theorem evaluate_of_isScalar {e : Expression} (h : e.IsScalar) :
    e.evaluate t now = .scalar (e.scalarValue t now) := by
  unfold scalarValue
  cases e with
  | region | badRegion => exact h.elim
  | call f args =>
    rw [evaluate]
    split <;> rfl
  | _ => rw [evaluate]; rfl

theorem evaluateFirst_eq_map : ∀ (n : Nat) (es : List Expression),
    evaluateFirst t now n es = (es.take n).map (evaluate t now)
  | 0, es => by simp [evaluateFirst]
  | n + 1, [] => by simp [evaluateFirst]
  | n + 1, e :: rest => by
    rw [evaluateFirst, evaluateFirst_eq_map n rest, List.take_succ_cons, List.map_cons]

theorem flatten_evaluateFirst_eq_nil_iff {n : Nat} {es : List Expression} :
    Functions.flatten (evaluateFirst t now n es) = [] ↔ ∀ e ∈ es.take n, e.IsVoid t := by
  rw [evaluateFirst_eq_map, Functions.flatten, List.flatMap_map, List.flatMap_eq_nil_iff]
  exact forall₂_congr fun _ _ => values_evaluate_eq_nil_iff

/-- The reasons for which a call fails. -/
inductive CallFails (t : Table) : Builtin → List Expression → FormulaError → Prop
  | tooFew {f : Builtin} {args : List Expression} (h : args.length < f.arity.least) :
      CallFails t f args (.argumentCount f args.length)
  | noCondition {args : List Expression} (hcount : Builtin.ifElse.arity.least ≤ args.length)
      (h : ∀ arg ∈ args.take 3, arg.IsVoid t) : CallFails t .ifElse args .noCondition

/-- A call leaves out what its function does not take. -/
theorem take_used {f : Builtin} {most : Nat} (h : f.arity.most = some most)
    (args : List Expression) : args.take (f.arity.used args.length) = args.take most := by
  have hused : f.arity.used args.length = min args.length most := by
    rw [Arity.used, h]
  rw [hused, List.take_eq_take_iff]
  omega

theorem evaluateCall_eq_error_iff {f : Builtin} {args : List Expression} {e : FormulaError} :
    evaluateCall t now f args = .error e ↔ CallFails t f args e := by
  rw [evaluateCall, callWith_eq]
  split_ifs with hmissing
  · have hcount : args.length < f.arity.least := by simpa [Arity.isMissing] using hmissing
    constructor
    · intro h
      cases h
      exact .tooFew hcount
    · intro h
      cases h with
      | tooFew => rfl
      | noCondition hle => exact absurd hcount (Nat.not_lt.2 hle)
  · have hcount : f.arity.least ≤ args.length := by simpa [Arity.isMissing] using hmissing
    rw [Builtin.apply_eq_error_iff, flatten_evaluateFirst_eq_nil_iff]
    constructor
    · rintro ⟨rfl, hvoid, rfl⟩
      rw [take_used rfl] at hvoid
      exact .noCondition hcount hvoid
    · intro h
      cases h with
      | tooFew hlt => exact absurd hlt (Nat.not_lt.2 hcount)
      | noCondition _ hvoid => exact ⟨rfl, by rwa [take_used rfl], rfl⟩

section Calls

variable {f : Builtin} {args args' : List Expression}

/-- What the arguments come to that a call uses. -/
def usedArguments (t : Table) (now : Moment) (f : Builtin) (args : List Expression) :
    List Argument :=
  evaluateFirst t now (f.arity.used args.length) args

theorem usedArguments_eq {most : Nat} (h : f.arity.most = some most) :
    usedArguments t now f args = (args.take most).map (evaluate t now) := by
  rw [usedArguments, evaluateFirst_eq_map, take_used h]

theorem evaluateCall_eq_value (hargs : f.arity.least ≤ args.length) (hf : f ≠ .ifElse) :
    evaluateCall t now f args = .ok (f.value now (usedArguments t now f args)) := by
  have hcount : f.arity.isMissing args.length = false := by
    rw [Arity.isMissing, decide_eq_false_iff_not]
    omega
  rw [evaluateCall, callWith_eq, hcount, if_neg Bool.false_ne_true, Builtin.apply_of_ne hf,
    usedArguments]

/-- A function without a greatest number of arguments uses them all. -/
theorem evaluateCall_unlimited (hf : f ≠ .ifElse)
    (hmost : f.arity.most = none) (hleast : f.arity.least ≤ args.length) :
    evaluateCall t now f args = .ok (f.value now (args.map (evaluate t now))) := by
  have hused : f.arity.used args.length = args.length := by rw [Arity.used, hmost]
  rw [evaluateCall_eq_value hleast hf, usedArguments, evaluateFirst_eq_map, hused, List.take_length]

theorem evaluate_call {v : Value} (h : evaluateCall t now f args = .ok v) :
    (call f args).evaluate t now = .scalar v := by
  rw [evaluateCall] at h
  rw [evaluate, h]

theorem evaluate_call_of_error {e : FormulaError} (h : evaluateCall t now f args = .error e) :
    (call f args).evaluate t now = .scalar (.error .failed) := by
  rw [evaluateCall] at h
  rw [evaluate, h]

theorem evaluate_call_congr (h : evaluateCall t now f args = evaluateCall t now f args') :
    (call f args).evaluate t now = (call f args').evaluate t now := by
  simp only [evaluateCall] at h
  simp only [evaluate, h]

end Calls

/-! ## Failures further inside -/

/-- Calls a function on arguments that may have failed. -/
def invoke (f : Builtin) (now : Moment) (given : Nat)
    (used : Except FormulaError (List Argument)) : Except FormulaError Value := do
  checkCall f given
  let args ← used
  f.apply now args

mutual

/-- Evaluates an expression, passing on every failure of an operand or an argument.  A call that
fails comes to the value `#ERROR!`. -/
def attempt (t : Table) (now : Moment) : Expression → Except FormulaError Argument
  | .comparison op left right => do
    let l ← attempt t now left
    let r ← attempt t now right
    return .scalar (.boolean (op.holds (l.toScalar.compare r.toScalar)))
  | .call f args =>
    match invoke f now args.length (attemptFirst t now (f.arity.used args.length) args) with
    | .ok v => return .scalar v
    | .error _ => return .scalar (.error .failed)
  | e => return e.evaluate t now

def attemptFirst (t : Table) (now : Moment) :
    Nat → List Expression → Except FormulaError (List Argument)
  | 0, _ => return []
  | _, [] => return []
  | n + 1, e :: rest => do
    let a ← attempt t now e
    let as ← attemptFirst t now n rest
    return a :: as

end

def attemptCall (t : Table) (now : Moment) (f : Builtin) (args : List Expression) :
    Except FormulaError Value :=
  invoke f now args.length (attemptFirst t now (f.arity.used args.length) args)

theorem invoke_ok (f : Builtin) (given : Nat) (args : List Argument) :
    invoke f now given (.ok args) = callWith f now given args :=
  rfl

mutual

theorem attempt_eq_ok : ∀ e : Expression, e.attempt t now = .ok (e.evaluate t now)
  | .comparison op left right => by
    rw [attempt, attempt_eq_ok left, attempt_eq_ok right, evaluate]
    rfl
  | .call f args => by
    rw [attempt, attemptFirst_eq_ok, invoke_ok, evaluate]
    rcases callWith f now args.length (evaluateFirst t now (f.arity.used args.length) args)
    all_goals rfl
  | .empty => rfl
  | .number _ => rfl
  | .text _ => rfl
  | .boolean _ => rfl
  | .unrecognized _ => rfl
  | .cell _ => rfl
  | .region _ => rfl
  | .badRegion _ => rfl

theorem attemptFirst_eq_ok : ∀ (n : Nat) (es : List Expression),
    attemptFirst t now n es = .ok (evaluateFirst t now n es)
  | 0, es => by rw [attemptFirst, evaluateFirst]; rfl
  | n + 1, [] => by simp [attemptFirst, evaluateFirst]; rfl
  | n + 1, e :: rest => by
    rw [attemptFirst, attempt_eq_ok e, attemptFirst_eq_ok n rest, evaluateFirst]
    rfl

end

theorem attemptCall_eq (f : Builtin) (args : List Expression) :
    attemptCall t now f args = evaluateCall t now f args := by
  rw [attemptCall, attemptFirst_eq_ok, invoke_ok, evaluateCall]

theorem evaluateCall_ne_unknownFunction (f : Builtin) (args : List Expression) (name : String) :
    evaluateCall t now f args ≠ .error (.unknownFunction name) := by
  rw [ne_eq, evaluateCall_eq_error_iff]
  rintro ⟨⟩

end Expression

/-! ## Formulas -/

/-- The reasons for which a formula fails that a text stands for. -/
inductive Formula.Fails (t : Table) (limit : Nat) : Formula → FormulaError → Prop
  | tooDeep {u : Formula} (h : limit < u.depth) : Fails t limit u (.nestingTooDeep limit)
  | call {f : Builtin} {args : List Expression} {e : FormulaError}
      (hdepth : (Expression.call f args).depth ≤ limit) (h : Expression.CallFails t f args e) :
      Fails t limit (.expression (.call f args)) e

theorem evaluate_eq_failed_iff_of_parse {t : Table} {limit : Nat} {now : Moment} {text : String}
    {u : Formula} {e : FormulaError} (hparse : Formula.parse limit text = .ok u)
    (hlimit : u.depth ≤ limit) : evaluate t limit now text = .failed e ↔ u.Fails t limit e := by
  have hdeep : ¬ limit < u.depth := Nat.not_lt.2 hlimit
  unfold evaluate
  rw [hparse]
  constructor
  · intro h
    rcases u with _ | expression | _
    · cases h
    · cases expression with
      | call f args =>
        simp only at h
        rcases hcall : Expression.evaluateCall t now f args with err | v <;> rw [hcall] at h
        · cases h
          exact .call hlimit (Expression.evaluateCall_eq_error_iff.1 hcall)
        · cases h
      | _ => cases h
    · cases h
  · intro h
    cases h with
    | tooDeep hlt => exact absurd hlt hdeep
    | call _ hfails => simp only [Expression.evaluateCall_eq_error_iff.2 hfails]

/-- A formula fails if it is nested too deeply or its outermost call fails, and for no other reason.
Whatever fails further inside is read as an error value, and no function is ever unknown. -/
theorem evaluate_eq_failed_iff (t : Table) (limit : Nat) (now : Moment) (text : String) :
    (∃ u : Formula, (∀ n, text.length ≤ n → Formula.parse n text = .ok u)
      ∧ ∀ e, evaluate t limit now text = .failed e ↔ u.Fails t limit e)
    ∧ (∀ e : Expression, e.attempt t now = .ok (e.evaluate t now))
    ∧ ∀ f args,
      Expression.attemptCall t now f args = Expression.evaluateCall t now f args
        ∧ (∀ name, Expression.evaluateCall t now f args ≠ .error (.unknownFunction name))
        ∧ ∀ e, Expression.CallFails t f args e →
          (Expression.call f args).evaluate t now = .scalar (.error .failed) := by
  refine ⟨?_, Expression.attempt_eq_ok, fun f args =>
    ⟨Expression.attemptCall_eq f args, Expression.evaluateCall_ne_unknownFunction f args,
      fun e h => Expression.evaluate_call_of_error (Expression.evaluateCall_eq_error_iff.2 h)⟩⟩
  obtain ⟨u, hlength, hparse⟩ := Formula.exists_parse_eq_ite text
  refine ⟨u, fun n hn => by rw [hparse, if_pos (Nat.le_trans hlength hn)], fun e => ?_⟩
  by_cases hlimit : u.depth ≤ limit
  · exact evaluate_eq_failed_iff_of_parse (by rw [hparse, if_pos hlimit]) hlimit
  · have herror : Formula.parse limit text = .error (.nestingTooDeep limit) := by
      rw [hparse, if_neg hlimit]
    unfold evaluate
    rw [herror]
    constructor
    · intro h
      cases h
      exact .tooDeep (Nat.not_le.1 hlimit)
    · intro h
      cases h with
      | tooDeep => rfl
      | call hdepth => exact absurd hdepth hlimit

-- An `IF` without any cell fails alone and is an error value inside another call.
example (now : Moment) :
    evaluate Table.empty 64 now "=IF(A1:B2,A1:??)" = .failed .noCondition
      ∧ evaluate Table.empty 64 now "=ISERROR(IF(A1:B2,A1:??))" = .computed (.boolean true) :=
  ⟨rfl, rfl⟩

end Worksheet
