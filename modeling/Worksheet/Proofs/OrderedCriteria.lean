import Worksheet.Proofs.Complements
import Worksheet.Proofs.Conditionals
import Worksheet.Proofs.NumberUnits
import Worksheet.Proofs.Words

/-!
# Numbers before, at and after a number

A text that stands for a number makes six criteria, one with each operator.  The four orderings
compare exactly, and `=` allows for a distance below the tolerance.  Of two numbers of which none is
below the other the computed distance is zero (`Number.abs_sub_lt_of_not_lt`), so whatever is
neither less nor greater is equal, and the criteria fit together but for the numbers that are near
the given one and not the same (`Criterion.isCoherent_iff`).  Each of these is counted twice in what
is less, equal and greater, and what is no number is not counted at all
(`Criterion.orders_around`).
-/

namespace Worksheet

/-! ## Numbers of the same units -/

namespace Number

open Float.Model (UnpackedFloat Format)
open Float.Model.UnpackedFloat

theorem sub_finite_self (s : Sign) (m : Nat) (e : Int) (hm : 0 < m) :
    UnpackedFloat.sub .binary64 (.finite s m e hm) (.finite s m e hm) = .zero .positive := by
  simp only [UnpackedFloat.sub, Int.sub_self]
  rfl

/-- Magnitudes are the same only if they are written in the same way. -/
theorem eq_of_magnitude_eq {m m' : Nat} {e e' : Int} (h : IsNormal m e) (h' : IsNormal m' e')
    (heq : magnitude m e = magnitude m' e') : m = m' ∧ e = e' := by
  rcases lt_trichotomy e e' with hlt | rfl | hgt
  · exact absurd heq (magnitude_lt_of_lt h h' hlt).ne
  · exact ⟨Nat.eq_of_mul_eq_mul_right (unitsIn_pos e) heq, rfl⟩
  · exact absurd heq.symm (magnitude_lt_of_lt h' h hgt).ne

/-- The significand of a number is zero or written with all the bits it can have. -/
theorem isNormal_of_hasParts {p : Parts} {u : UnpackedFloat} (h : HasParts p u)
    (hu : u ≠ .notANumber) : p.significand = 0 ∨ IsNormal p.significand p.exponent := by
  cases u with
  | notANumber => exact absurd rfl hu
  | infinity s => cases h; exact .inr isNormal_infinity
  | zero s => cases h; exact .inl rfl
  | finite s m e hm =>
    obtain ⟨rfl, hnormal, -⟩ := h
    exact .inr hnormal

/-- But for the sign of zero, a number has its units only once. -/
theorem Parts.eq_of_units_eq {p p' : Parts}
    (h : p.significand = 0 ∨ IsNormal p.significand p.exponent)
    (h' : p'.significand = 0 ∨ IsNormal p'.significand p'.exponent) (heq : p.units = p'.units) :
    p.significand = 0 ∧ p'.significand = 0 ∨ p = p' := by
  obtain ⟨n, m, e⟩ := p
  obtain ⟨n', m', e'⟩ := p'
  dsimp only at h h' ⊢
  rcases h with rfl | h <;> rcases h' with rfl | h'
  · exact .inl ⟨rfl, rfl⟩
  · have hpos := h'.magnitude_pos
    cases n <;> cases n' <;> simp [units] at heq <;> omega
  · have hpos := h.magnitude_pos
    cases n <;> cases n' <;> simp [units] at heq <;> omega
  · have hpos := h.magnitude_pos
    have hpos' := h'.magnitude_pos
    have hsame : n = n' ∧ magnitude m e = magnitude m' e' := by
      cases n <;> cases n' <;> simp [units] at heq ⊢ <;> omega
    obtain ⟨rfl, hmagnitude⟩ := hsame
    obtain ⟨rfl, rfl⟩ := eq_of_magnitude_eq h h' hmagnitude
    exact .inr rfl

theorem eq_zero_of_hasParts {p : Parts} {u : UnpackedFloat} (h : HasParts p u)
    (hu : u ≠ .notANumber) (hp : p.significand = 0) : ∃ s, u = .zero s := by
  cases u with
  | notANumber => exact absurd rfl hu
  | infinity s => cases h; cases hp
  | zero s => exact ⟨s, rfl⟩
  | finite s m e hm =>
    obtain ⟨rfl, hnormal, -⟩ := h
    exact absurd hp hnormal.pos.ne'

theorem isNegative_inj {s s' : Sign} : isNegative s = isNegative s' ↔ s = s' := by
  cases s <;> cases s' <;> simp [isNegative]

/-- What has the parts of a finite number that is not zero is that number. -/
theorem eq_finite_of_hasParts {p : Parts} {s : Sign} {m : Nat} {e : Int} {hm : 0 < m}
    {u : UnpackedFloat} (h : HasParts p u) (hu : u ≠ .notANumber)
    (h' : HasParts p (.finite s m e hm)) : u = .finite s m e hm := by
  obtain ⟨rfl, hnormal, he⟩ := h'
  cases u with
  | notANumber => exact absurd rfl hu
  | infinity s' =>
    have hexponent : e = 972 := (Parts.mk.inj h).2.2
    omega
  | zero s' =>
    have hzero : m = 0 := (Parts.mk.inj h).2.1
    omega
  | finite s' m' e' hm' =>
    obtain ⟨hsign, rfl, rfl⟩ := Parts.mk.inj h.1
    rw [isNegative_inj.1 hsign]

/-- The difference of a number and a finite one of the same units is zero. -/
theorem sub_of_units_eq {p p' : Parts} {u u' : UnpackedFloat} (hp : HasParts p u)
    (hp' : HasParts p' u') (hu : u ≠ .notANumber) (hu' : u'.isFinite = true)
    (heq : p.units = p'.units) : ∃ s, UnpackedFloat.sub .binary64 u u' = .zero s := by
  have hne : u' ≠ .notANumber := by rintro rfl; cases hu'
  -- the two zeros have the same units and different parts
  have hzeros : p.significand = 0 → p'.significand = 0 →
      ∃ s, UnpackedFloat.sub .binary64 u u' = .zero s := by
    intro hzero hzero'
    obtain ⟨s, rfl⟩ := eq_zero_of_hasParts hp hu hzero
    obtain ⟨s', rfl⟩ := eq_zero_of_hasParts hp' hne hzero'
    simp only [UnpackedFloat.sub]
    split_ifs <;> exact ⟨_, rfl⟩
  rcases Parts.eq_of_units_eq (isNormal_of_hasParts hp hu) (isNormal_of_hasParts hp' hne) heq with
    ⟨hzero, hzero'⟩ | rfl
  · exact hzeros hzero hzero'
  · cases u' with
    | notANumber | infinity => cases hu'
    | zero s => exact hzeros (congrArg Parts.significand hp') (congrArg Parts.significand hp')
    | finite s m e hm =>
      rw [eq_finite_of_hasParts hp hu hp']
      exact ⟨.positive, sub_finite_self s m e hm⟩

theorem isNaN_of_isFinite {x : Float} (h : x.isFinite = true) : x.isNaN = false := by
  rw [isNaN_eq_false_iff]
  intro hnan
  have hfinite : x.toModel.unpack.isFinite = true := h
  rw [hnan] at hfinite
  cases hfinite

/-- If neither of two numbers is below the other, they are not apart. -/
theorem abs_sub_lt_of_not_lt {x y : Float} (hx : x.isNaN = false) (hy : y.isFinite = true)
    (h : ¬ x < y) (h' : ¬ y < x) : (x - y).abs < Criterion.tolerance := by
  have hyn := isNaN_of_isFinite hy
  rw [lt_iff_units hx hyn, not_lt] at h
  rw [lt_iff_units hyn hx, not_lt] at h'
  obtain ⟨s, hs⟩ := sub_of_units_eq (hasParts_unpack x) (hasParts_unpack y)
    (isNaN_eq_false_iff.1 hx) hy (le_antisymm h' h)
  have hsub : x - y = ofUnpacked (.zero s) := congrArg ofUnpacked hs
  rw [hsub]
  cases s <;> decide

end Number

/-! ## An operator before a number -/

namespace Criterion

variable {c : String} {y : Float}

theorem ofOperand_of_finite? {s : List Char} (op : Comparator) (h : Number.finite? s = some y) :
    ofOperand op s = compared op y := by
  simp only [ofOperand, finite?_trim, h]

theorem ofText_of_operator? {s rest : List Char} {op : Comparator}
    (h : operator? (Text.trim s) = some (op, rest)) : ofText s = ofOperand op rest := by
  have hne : Text.trim s ≠ [] := by
    intro hnil
    rw [hnil] at h
    cases h
  simp only [ofText, if_neg hne, h]

/-- A numeral does not go on with an operator. -/
theorem head_of_finite? {s : List Char} (h : Number.finite? s = some y) :
    ∀ d ∈ (Text.trimEnd s).head?, d ≠ '=' ∧ d ≠ '>' := by
  intro d hd
  by_cases hblank : Text.isBlank d = true
  · constructor <;> rintro rfl <;> cases hblank
  have htrim : Number.finite? (Text.trim s) = some y := (finite?_trim s).trans h
  have hnumeral := (Number.isNumeralChar_of_finite? htrim (Text.isTrimmed_trim s).trim_eq).1 d
  obtain ⟨rest, hrest⟩ : ∃ rest, Text.trimEnd s = d :: rest := by
    cases hs : Text.trimEnd s with
    | nil => rw [hs] at hd; cases hd
    | cons e rest => rw [hs] at hd; cases hd; exact ⟨rest, rfl⟩
  have hmem : d ∈ Text.trim s := by
    rw [← Text.trim_trimEnd, hrest, Text.trim_cons (by simpa using hblank)]
    exact List.mem_cons_self
  constructor <;> rintro rfl <;> exact absurd (hnumeral hmem) (by decide)

theorem operator?_cons {s : List Char} (h : ∀ d ∈ s.head?, d ≠ '=' ∧ d ≠ '>') :
    operator? ('<' :: s) = some (.less, s) ∧ operator? ('>' :: s) = some (.greater, s) := by
  cases s with
  | nil => exact ⟨rfl, rfl⟩
  | cons d s =>
    obtain ⟨hequal, hgreater⟩ := h d rfl
    constructor <;> unfold operator? <;> split <;> simp_all

/-- Every operator before a numeral compares with the number. -/
theorem withOperator_eq_compared (h : Number.finite? c.toList = some y) (op : Comparator) :
    withOperator op c = compared op y := by
  have hend : Number.finite? (Text.trimEnd c.toList) = some y :=
    (finite?_congr (Text.trim_trimEnd _)).trans h
  -- a longer operator is tried first, so the short ones depend on what the numeral begins with
  obtain ⟨hless, hgreater⟩ := operator?_cons (head_of_finite? h)
  have hread : ∀ s : List Char, operator? (Text.trim s) = some (op, Text.trimEnd c.toList) →
      ofText s = compared op y := fun s hs => by
    rw [ofText_of_operator? hs, ofOperand_of_finite? op hend]
  rw [withOperator, ofValue, String.toList_append]
  cases op with
  | equal => exact (ofText_equal _).trans (ofOperand_of_finite? _ h)
  | notEqual => exact (ofText_notEqual _).trans (ofOperand_of_finite? _ h)
  | less => exact hread ('<' :: c.toList) (by rw [Text.trim_cons rfl, hless])
  | greater => exact hread ('>' :: c.toList) (by rw [Text.trim_cons rfl, hgreater])
  | lessEqual =>
    exact hread ('<' :: '=' :: c.toList) (by rw [Text.trim_cons rfl, Text.trimEnd_cons rfl]; rfl)
  | greaterEqual =>
    exact hread ('>' :: '=' :: c.toList) (by rw [Text.trim_cons rfl, Text.trimEnd_cons rfl]; rfl)

/-! ## Less, equal and greater -/

/-- What the criteria with an ordering are meant to be for a number: just one of less, equal and
greater selects it, and the other two select what they say. -/
structure IsCoherent (c : String) (x : Float) : Prop where
  one : [Comparator.less, .equal, .greater].countP
    (fun op => (withOperator op c).selects (.number x)) = 1
  greaterEqual : (withOperator .greaterEqual c).selects (.number x)
    = ((withOperator .greater c).selects (.number x)
      || (withOperator .equal c).selects (.number x))
  lessEqual : (withOperator .lessEqual c).selects (.number x)
    = ((withOperator .less c).selects (.number x) || (withOperator .equal c).selects (.number x))

/-- Whether a number is near another one and not the same. -/
def isBeside (x y : Float) : Bool :=
  isNear x y && (x < y || y < x)

section Coherent

variable {x : Float}

/-- Next to a finite number, what is neither less nor greater is equal. -/
theorem isNear_of_not_lt (hx : x.isNaN = false) (hy : y.isFinite = true) (hless : ¬ x < y)
    (hgreater : ¬ y < x) : isNear x y = true :=
  decide_eq_true (Number.abs_sub_lt_of_not_lt hx hy hless hgreater)

theorem isCoherent_iff (h : Number.finite? c.toList = some y) (hx : x.isNaN = false) :
    IsCoherent c x ↔ isBeside x y = false := by
  have hy := Number.isFinite_of_finite? h
  have hle : x ≤ y ↔ ¬ y < x := (Number.not_lt_iff (Number.isNaN_of_isFinite hy) hx).symm
  have hge : y ≤ x ↔ ¬ x < y := (Number.not_lt_iff hx (Number.isNaN_of_isFinite hy)).symm
  have hboth : x < y → ¬ y < x := Number.not_lt_of_lt
  have hnone := isNear_of_not_lt hx hy
  constructor
  · rintro ⟨hone, -, -⟩
    simp only [withOperator_eq_compared h, selects, compares, List.countP_cons, List.countP_nil]
      at hone
    unfold isBeside
    by_cases hless : x < y <;> by_cases hgreater : y < x <;> simp_all
  · intro hbeside
    unfold isBeside at hbeside
    constructor <;>
      simp only [withOperator_eq_compared h, selects, compares, List.countP_cons, List.countP_nil,
        hle, hge]
    all_goals by_cases hless : x < y <;> by_cases hgreater : y < x <;> simp_all

/-- What is no number is neither less nor greater nor near. -/
theorem compares_of_isNaN (hx : x.isNaN = true) :
    ¬ x < y ∧ ¬ y < x ∧ isNear x y = false := by
  have hsub : (x - y).isNaN = true := by
    have hnan : x - y = Number.ofUnpacked (.sub .binary64 x.toModel.unpack y.toModel.unpack) := rfl
    rw [hnan, Number.unpack_of_isNaN hx, Float.Model.UnpackedFloat.sub]
    rfl
  refine ⟨fun h => ?_, fun h => ?_, decide_eq_false fun h => ?_⟩
  · exact absurd ((Number.isNaN_of_lt h).1.symm.trans hx) Bool.false_ne_true
  · exact absurd ((Number.isNaN_of_lt h).2.symm.trans hx) Bool.false_ne_true
  · have habs := Number.isNaN_abs_of_isNaN hsub
    exact absurd ((Number.isNaN_of_lt h).1.symm.trans habs) Bool.false_ne_true

end Coherent

end Criterion

/-! ## Counts -/

/-- Whether a value is a number with a property. -/
def Value.isNumberThat (p : Float → Bool) : Value → Bool
  | .number x => p x
  | _ => false

namespace Criterion

variable {c : String} {y : Float}

/-- How often a value is selected as less, equal or greater: once if it is a number, and once more
if it is beside the given one, but never if it is not comparable. -/
theorem countP_operators (hy : y.isFinite = true) (v : Value) :
    [Comparator.less, .equal, .greater].countP (fun op => (compared op y).selects v)
        + (v.isNumberThat Float.isNaN).toNat
      = (Functions.exactNumber? v).toList.length + (v.isNumberThat (isBeside · y)).toNat := by
  cases v with
  | number x =>
    simp only [List.countP_cons, List.countP_nil, selects, compares, Value.isNumberThat, isBeside,
      Functions.exactNumber?, Option.toList_some, List.length_singleton]
    by_cases hx : x.isNaN = true
    · obtain ⟨hless, hgreater, hnear⟩ := compares_of_isNaN (y := y) hx
      simp_all
    · rw [Bool.not_eq_true] at hx
      have hboth : x < y → ¬ y < x := Number.not_lt_of_lt
      have hnone := isNear_of_not_lt hx hy
      by_cases hless : x < y <;> by_cases hgreater : y < x <;>
        by_cases hnear : isNear x y = true <;> simp_all
  | _ => rfl

theorem countP_less_add_countP_equal_add_countP_greater (hy : y.isFinite = true) :
    ∀ values : List Value,
      values.countP (compared .less y).selects + values.countP (compared .equal y).selects
          + values.countP (compared .greater y).selects
          + values.countP (Value.isNumberThat Float.isNaN)
        = (values.filterMap Functions.exactNumber?).length
          + values.countP (Value.isNumberThat (isBeside · y))
  | [] => rfl
  | v :: values => by
    have htail := countP_less_add_countP_equal_add_countP_greater hy values
    have hhead := countP_operators hy v
    have hlength : ((v :: values).filterMap Functions.exactNumber?).length
        = (Functions.exactNumber? v).toList.length
          + (values.filterMap Functions.exactNumber?).length := by
      rw [List.filterMap_cons]
      cases Functions.exactNumber? v <;> simp [Nat.add_comm]
    rw [hlength]
    simp only [List.countP_cons, List.countP_nil, Bool.toNat, Bool.cond_eq_ite] at hhead htail ⊢
    omega

end Criterion

/-- How many cells of a region hold a number with a property. -/
def Table.countNumbers (t : Table) (r : Region) (p : Float → Bool) : Nat :=
  (t.cellsIn r).countP fun cell => (Value.ofCell cell).isNumberThat p

theorem Table.length_numbers (t : Table) (r : Region) :
    (((t.cellsIn r).map Value.ofCell).filterMap Functions.exactNumber?).length
      = t.countNumbers r fun _ => true := by
  rw [List.length_filterMap_eq_countP, List.countP_map, countNumbers]
  refine List.countP_congr fun cell _ => ?_
  simp only [Function.comp_apply]
  cases Value.ofCell cell <;> rfl

/-- `COUNT` counts the cells of a region inside the table that hold a number. -/
theorem Expression.evaluate_count (t : Table) (now : Moment) (r : Region) :
    (Expression.call .count [.region r]).evaluate t now
      = .scalar (.number (Float.ofNat (t.countNumbers r fun _ => true))) := by
  have hvalues : ((Expression.region r).evaluate t now).values = (t.block r).values := rfl
  rw [evaluate_pooled_singleton t now _ rfl, Builtin.value, Functions.count, numbers_singleton,
    hvalues, Table.values_block_eq_map, Table.length_numbers]

namespace Criterion

variable {c : String} {y : Float}

theorem countSelected_add (h : Number.finite? c.toList = some y) (t : Table) (r : Region) :
    t.countSelected r (withOperator .less c) + t.countSelected r (withOperator .equal c)
        + t.countSelected r (withOperator .greater c) + t.countNumbers r Float.isNaN
      = t.countNumbers r (fun _ => true) + t.countNumbers r (isBeside · y) := by
  have hadd := countP_less_add_countP_equal_add_countP_greater (Number.isFinite_of_finite? h)
    ((t.cellsIn r).map Value.ofCell)
  simp only [List.countP_map, t.length_numbers] at hadd
  simp only [withOperator_eq_compared h]
  exact hadd

/-- What a text that stands for a number says after an operator: the four orderings compare with
the number, and `=` allows for a distance below the tolerance.  They fit together for all numbers
but those that are near and not the same, and counts of a region add up but for these and for what
is no number. -/
structure OrdersAround (c : String) (y : Float) : Prop where
  less : ∀ x, (withOperator .less c).selects (.number x) = true ↔ x < y
  lessEqual : ∀ x, (withOperator .lessEqual c).selects (.number x) = true ↔ x ≤ y
  greater : ∀ x, (withOperator .greater c).selects (.number x) = true ↔ y < x
  greaterEqual : ∀ x, (withOperator .greaterEqual c).selects (.number x) = true ↔ y ≤ x
  equal : ∀ x, (withOperator .equal c).selects (.number x) = true ↔ (x - y).abs < tolerance
  coherent : ∀ x, x.isFinite = true →
    (IsCoherent c x ↔ ¬ ((x - y).abs < tolerance ∧ (x < y ∨ y < x)))
  counts : ∀ (t : Table) (now : Moment) (r : Region),
    (∀ op : Comparator,
        (Expression.call .countIf [.region r, .text (op.symbol ++ c)]).evaluate t now
          = .scalar (.number (Float.ofNat (t.countSelected r (withOperator op c)))))
      ∧ (Expression.call .count [.region r]).evaluate t now
        = .scalar (.number (Float.ofNat (t.countNumbers r fun _ => true)))
      ∧ t.countSelected r (withOperator .less c) + t.countSelected r (withOperator .equal c)
          + t.countSelected r (withOperator .greater c) + t.countNumbers r Float.isNaN
        = t.countNumbers r (fun _ => true) + t.countNumbers r (isBeside · y)

theorem orders_around (h : Number.finite? c.toList = some y) : OrdersAround c y where
  less := fun x => by simp [withOperator_eq_compared h, selects, compares]
  lessEqual := fun x => by simp [withOperator_eq_compared h, selects, compares]
  greater := fun x => by simp [withOperator_eq_compared h, selects, compares]
  greaterEqual := fun x => by simp [withOperator_eq_compared h, selects, compares]
  equal := fun x => by simp [withOperator_eq_compared h, selects, compares, isNear]
  coherent := fun x hx => by
    rw [isCoherent_iff h (Number.isNaN_of_isFinite hx)]
    simp [isBeside, isNear]
  counts := fun t now r =>
    ⟨fun op => Expression.evaluate_countIf t now r _, Expression.evaluate_count t now r,
      countSelected_add h t r⟩

theorem orders_around_half : Number.finite? "0.5".toList = some 0.5 ∧ OrdersAround "0.5" 0.5 := by
  have hhalf : Number.finite? "0.5".toList = some 0.5 := by decide
  exact ⟨hhalf, orders_around hhalf⟩

/-- The sum of one tenth and two tenths is equal to three tenths and greater. -/
theorem not_isCoherent_sum : Number.finite? "0.3".toList = some 0.3
    ∧ (0.1 + 0.2 : Float).isFinite = true ∧ ¬ IsCoherent "0.3" (0.1 + 0.2) := by
  refine ⟨by decide, by decide, fun h => ?_⟩
  have hone := h.one
  revert hone
  decide

end Criterion

end Worksheet
