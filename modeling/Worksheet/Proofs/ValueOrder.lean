import Worksheet.Evaluation
import Worksheet.Proofs.NumberUnits

/-!
# The order of values

Two values exchanged are compared the other way round, whatever they are (`Value.compare_swap`), so
that of `<`, `=` and `>` just one holds between two operands.  Which of them is the greater one can
depend on what they are read as next to each other, and then a third value may come between them in
no consistent way.  A value that is read as the same next to every other one has a place in a line
that begins with the numbers, goes on with the texts and ends with the booleans, and such values are
ordered as their places are (`Value.compare_ne_gt_iff`).
-/

namespace Worksheet

/-- The operator that holds between two operands if the given one holds between the same two
exchanged. -/
def Comparator.exchanged : Comparator → Comparator
  | .equal => .equal
  | .notEqual => .notEqual
  | .less => .greater
  | .lessEqual => .greaterEqual
  | .greater => .less
  | .greaterEqual => .lessEqual

theorem Comparator.holds_exchanged (op : Comparator) (o : Ordering) :
    op.exchanged.holds o.swap = op.holds o := by
  cases op <;> cases o <;> rfl

namespace Value

/-! ## Exchanging two values -/

theorem compareNumbers_eq_gt_iff {x y : Float} : compareNumbers x y = .gt ↔ y < x := by
  unfold compareNumbers
  split_ifs with hlt hgt
  · simp [Number.not_lt_of_lt hlt]
  · simp [hgt]
  · simp [hgt]

theorem compareNumbers_swap (x y : Float) : compareNumbers y x = (compareNumbers x y).swap := by
  unfold compareNumbers
  split_ifs with hyx hxy hxy
  · exact absurd hxy (Number.not_lt_of_lt hyx)
  all_goals rfl

theorem Key.compare_swap (k l : Key) : l.compare k = (k.compare l).swap := by
  cases k with
  | number x =>
    cases l with
    | number y => exact compareNumbers_swap x y
    | text | boolean => rfl
  | text s =>
    cases l with
    | text t => exact Std.OrientedOrd.eq_swap
    | number | boolean => rfl
  | boolean a =>
    cases l with
    | boolean b => exact Std.OrientedOrd.eq_swap
    | number | text => rfl

theorem compare_swap (v w : Value) : w.compare v = (v.compare w).swap :=
  Key.compare_swap _ _

/-! ## Values in a line -/

/-- Whether a value is read as the same next to every other one and has a place in the order.  The
values that are not read so are the empty one, which is a number or a text, and the texts of
numbers; and what is no number has no place among the numbers. -/
def IsSettled : Value → Prop
  | .number x => x.isNaN = false
  | .text s => Number.finite? s.toList = none
  | .boolean _ | .list _ | .error _ => True
  | .empty => False

/-- Numbers come first, then all that is compared as a text, then the booleans. -/
def group : Value → Nat
  | .number _ | .empty => 0
  | .text _ | .list _ | .error _ => 1
  | .boolean _ => 2

/-- What a value is compared as next to a boolean. -/
def ownKey (v : Value) : Key :=
  v.key (.boolean true)

/-- The place of what a value is compared as in the line of numbers, texts and booleans. -/
def Key.place : Key → Int ⊕ₗ (String ⊕ₗ Bool)
  | .number x => Sum.inlₗ (Number.units x)
  | .text s => Sum.inrₗ (Sum.inlₗ (lowerText s))
  | .boolean b => Sum.inrₗ (Sum.inrₗ b)

def Key.HasPlace : Key → Prop
  | .number x => x.isNaN = false
  | .text _ | .boolean _ => True

def Key.group : Key → Nat
  | .number _ => 0
  | .text _ => 1
  | .boolean _ => 2

theorem Key.compare_eq_lt {k l : Key} (h : k.group < l.group) : k.compare l = .lt := by
  cases k with
  | number x =>
    cases l with
    | number y => exact absurd h (Nat.lt_irrefl 0)
    | text | boolean => rfl
  | text s =>
    cases l with
    | number y => exact absurd h (Nat.not_lt_zero 1)
    | text t => exact absurd h (Nat.lt_irrefl 1)
    | boolean b => rfl
  | boolean a => cases l <;> simp [group] at h

theorem Key.compare_ne_gt_iff {k l : Key} (hk : k.HasPlace) (hl : l.HasPlace) :
    k.compare l ≠ .gt ↔ k.place ≤ l.place := by
  cases k with
  | number x =>
    cases l with
    | number y =>
      simp only [compare, place, Sum.Lex.inl_le_inl_iff, ne_eq, compareNumbers_eq_gt_iff]
      rw [Number.lt_iff_units hl hk, not_lt]
    | text | boolean => simp [compare, place]
  | text s =>
    cases l with
    | text t =>
      simp only [compare, place, Sum.Lex.inr_le_inr_iff, Sum.Lex.inl_le_inl_iff, ne_eq]
      rw [compare_gt_iff_gt, not_lt]
    | number | boolean => simp [compare, place]
  | boolean a =>
    cases l with
    | boolean b =>
      simp only [compare, place, Sum.Lex.inr_le_inr_iff, ne_eq]
      rw [compare_gt_iff_gt, not_lt]
    | number | text => simp [compare, place]

section Settled

variable {u v w : Value}

theorem IsSettled.key_eq (hv : v.IsSettled) (w : Value) : v.key w = v.ownKey := by
  cases v with
  | text s =>
    cases w with
    | number x =>
      have hnone : Number.finite? s.toList = none := hv
      simp only [key, ownKey, hnone]
    | _ => rfl
  | empty => exact hv.elim
  | _ => rfl

theorem IsSettled.hasPlace (hv : v.IsSettled) : v.ownKey.HasPlace := by
  cases v with
  | number x => exact hv
  | empty => exact hv.elim
  | _ => trivial

theorem group_ownKey (v : Value) : v.ownKey.group = v.group := by
  cases v <;> rfl

theorem compare_eq_ownKey (hv : v.IsSettled) (hw : w.IsSettled) :
    v.compare w = v.ownKey.compare w.ownKey := by
  rw [Value.compare, hv.key_eq, hw.key_eq]

/-- Settled values are ordered as their places are. -/
theorem compare_ne_gt_iff (hv : v.IsSettled) (hw : w.IsSettled) :
    v.compare w ≠ .gt ↔ v.ownKey.place ≤ w.ownKey.place := by
  rw [compare_eq_ownKey hv hw, Key.compare_ne_gt_iff hv.hasPlace hw.hasPlace]

theorem compare_ne_gt_trans (hu : u.IsSettled) (hv : v.IsSettled) (hw : w.IsSettled)
    (huv : u.compare v ≠ .gt) (hvw : v.compare w ≠ .gt) : u.compare w ≠ .gt := by
  rw [compare_ne_gt_iff hu hv] at huv
  rw [compare_ne_gt_iff hv hw] at hvw
  rw [compare_ne_gt_iff hu hw]
  exact huv.trans hvw

theorem compare_ne_gt_total (hv : v.IsSettled) (hw : w.IsSettled) :
    v.compare w ≠ .gt ∨ w.compare v ≠ .gt := by
  rw [compare_ne_gt_iff hv hw, compare_ne_gt_iff hw hv]
  exact le_total _ _

theorem compare_eq_lt_of_group_lt (hv : v.IsSettled) (hw : w.IsSettled) (h : v.group < w.group) :
    v.compare w = .lt := by
  rw [compare_eq_ownKey hv hw]
  exact Key.compare_eq_lt (by rwa [group_ownKey, group_ownKey])

end Settled

end Value

/-! ## Comparing operands -/

namespace Expression

variable {t : Table} {now : Moment}

theorem evaluate_comparison (op : Comparator) (l r : Expression) :
    (comparison op l r).evaluate t now = .scalar (.boolean
      (op.holds ((l.evaluate t now).toScalar.compare (r.evaluate t now).toScalar))) := by
  rw [evaluate]

theorem existsUnique_comparison (l r : Expression) :
    ∃! op, op ∈ [Comparator.less, .equal, .greater]
      ∧ (comparison op l r).evaluate t now = .scalar (.boolean true) := by
  simp only [evaluate_comparison, Argument.scalar.injEq, Value.boolean.injEq]
  rcases (l.evaluate t now).toScalar.compare (r.evaluate t now).toScalar
  · exact ⟨.less, by decide, by rintro (_ | _) <;> decide⟩
  · exact ⟨.equal, by decide, by rintro (_ | _) <;> decide⟩
  · exact ⟨.greater, by decide, by rintro (_ | _) <;> decide⟩

theorem evaluate_comparison_exchanged (op : Comparator) (l r : Expression) :
    (comparison op.exchanged r l).evaluate t now = (comparison op l r).evaluate t now := by
  rw [evaluate_comparison, evaluate_comparison, Value.compare_swap, Comparator.holds_exchanged]

end Expression

/-- What it is for the comparison of values to be an order: two values exchanged compare the other
way round, between two operands just one of the three operators holds, and among settled values
being not greater is transitive and total, group after group. -/
structure OrdersValues : Prop where
  swap : ∀ v w : Value, w.compare v = (v.compare w).swap
  oneHolds : ∀ (t : Table) (now : Moment) (l r : Expression),
    ∃! op, op ∈ [Comparator.less, .equal, .greater]
      ∧ (Expression.comparison op l r).evaluate t now = .scalar (.boolean true)
  exchanged : ∀ (t : Table) (now : Moment) (op : Comparator) (l r : Expression),
    (Expression.comparison op.exchanged r l).evaluate t now
      = (Expression.comparison op l r).evaluate t now
  trans : ∀ u v w : Value, u.IsSettled → v.IsSettled → w.IsSettled →
    u.compare v ≠ .gt → v.compare w ≠ .gt → u.compare w ≠ .gt
  total : ∀ v w : Value, v.IsSettled → w.IsSettled → v.compare w ≠ .gt ∨ w.compare v ≠ .gt
  groups : ∀ v w : Value, v.IsSettled → w.IsSettled → v.group < w.group → v.compare w = .lt

theorem orders_values : OrdersValues where
  swap := Value.compare_swap
  oneHolds := fun _ _ => Expression.existsUnique_comparison
  exchanged := fun _ _ => Expression.evaluate_comparison_exchanged
  trans := fun _ _ _ => Value.compare_ne_gt_trans
  total := fun _ _ => Value.compare_ne_gt_total
  groups := fun _ _ => Value.compare_eq_lt_of_group_lt

-- The text of a number comes after a greater number as soon as the two are not compared directly.
example : (Value.text "10").compare (.text "9") = .lt ∧ (Value.text "9").compare (.number 9.5) = .lt
    ∧ (Value.text "10").compare (.number 9.5) = .gt := by
  decide +kernel

end Worksheet
