import Worksheet.Proofs.Conditionals
import Worksheet.Proofs.Readings
import Worksheet.Proofs.RoundingUp

/-!
# Order statistics

The total order of numbers tells all of them apart (`Number.rank_inj`) and puts the smaller of two
before the greater one (`Number.rank_lt_of_lt`), so a list has just one sorted form, whatever order
it is in (`Number.sort_eq_of_perm`).  At an index of that form stands a number with no more others
before it and at least as many up to it (`Functions.isAtRank_sort`).  That is what `SMALL` comes to;
`LARGE` counts from the other end and `MEDIAN` takes the middle, and all of them depend on the
numbers alone and not on where they stand (`order_statistics`).
-/

namespace Worksheet

/-! ## Sorted numbers -/

namespace Number

theorem rank_inj {x y : Float} : rank x = rank y ↔ x = y := by
  refine ⟨fun h => ?_, congrArg rank⟩
  have hx := x.toBits.toNat_lt
  have hy := y.toBits.toNat_lt
  rw [← Float.toBits_inj, ← UInt64.toNat_inj]
  simp only [rank] at h
  split_ifs at h <;> omega

/-! The order of two numbers shows in the bits below their signs, which are the greater the greater
the magnitude is. -/

/-- The magnitude in units that the bits below the sign stand for. -/
def bitMagnitude (n : Nat) : Nat :=
  let field := n / 0x10000000000000
  let fraction := n % 0x10000000000000
  if field = 0 then fraction else (0x10000000000000 + fraction) * 2 ^ (field - 1)

theorem bitMagnitude_eq (field : Nat) {fraction : Nat} (h : fraction < 0x10000000000000) :
    bitMagnitude (0x10000000000000 * field + fraction)
      = if field = 0 then fraction else (0x10000000000000 + fraction) * 2 ^ (field - 1) := by
  have hfield : (0x10000000000000 * field + fraction) / 0x10000000000000 = field := by omega
  have hfraction : (0x10000000000000 * field + fraction) % 0x10000000000000 = fraction := by omega
  simp only [bitMagnitude, hfield, hfraction]

theorem bitMagnitude_strictMono : StrictMono bitMagnitude := by
  refine strictMono_nat_of_lt_succ fun n => ?_
  obtain ⟨field, fraction, hfraction, rfl⟩ : ∃ field fraction, fraction < 0x10000000000000
      ∧ n = 0x10000000000000 * field + fraction :=
    ⟨n / 0x10000000000000, n % 0x10000000000000, Nat.mod_lt _ (by decide),
      (Nat.div_add_mod n _).symm⟩
  rw [bitMagnitude_eq field hfraction]
  by_cases hlast : fraction + 1 < 0x10000000000000
  · rw [Nat.add_assoc, bitMagnitude_eq field hlast]
    split_ifs
    · exact Nat.lt_succ_self fraction
    · exact Nat.mul_lt_mul_of_pos_right (by omega) (Nat.two_pow_pos _)
  · have hnext : 0x10000000000000 * field + fraction + 1 = 0x10000000000000 * (field + 1) + 0 := by
      omega
    rw [hnext, bitMagnitude_eq (field + 1) (by decide), if_neg (Nat.succ_ne_zero field),
      Nat.add_sub_cancel, Nat.add_zero]
    cases field with
    | zero =>
      rw [if_pos rfl]
      omega
    | succ field =>
      rw [if_neg (Nat.succ_ne_zero field), Nat.add_sub_cancel]
      calc (0x10000000000000 + fraction) * 2 ^ field < 0x20000000000000 * 2 ^ field :=
            Nat.mul_lt_mul_of_pos_right (by omega) (Nat.two_pow_pos field)
        _ = 0x10000000000000 * 2 ^ (field + 1) := by ring

/-- A number has the units that the bits below its sign stand for, with the sign. -/
theorem units_eq_bitMagnitude (x : Float) : units x
    = if x.toBits.toNat < 0x8000000000000000 then (bitMagnitude x.toBits.toNat : Int)
      else -(bitMagnitude (x.toBits.toNat - 0x8000000000000000) : Int) := by
  have hbits := x.toBits.toNat_lt
  have hleast : unitsIn (-1074) = 1 := by
    unfold unitsIn
    rfl
  have hunits : ∀ field : Nat, field ≠ 0 → unitsIn ((field : Int) - 1075) = 2 ^ (field - 1) := by
    intro field hfield
    unfold unitsIn
    congr 1
    omega
  simp only [units, parts, bitMagnitude]
  generalize x.toBits.toNat = n at hbits ⊢
  by_cases hsign : n < 0x8000000000000000
  · have hfield : n / 0x10000000000000 % 0x800 = n / 0x10000000000000 := by omega
    have hpositive : decide (0x8000000000000000 ≤ n) = false := decide_eq_false (by omega)
    rw [if_pos hsign, hfield, hpositive]
    split_ifs with hzero
    · rw [Parts.units, if_neg Bool.false_ne_true, magnitude, hleast, Nat.mul_one]
    · rw [Parts.units, if_neg Bool.false_ne_true, magnitude, hunits _ hzero]
  · have hfield : n / 0x10000000000000 % 0x800 = (n - 0x8000000000000000) / 0x10000000000000 := by
      omega
    have hfraction : n % 0x10000000000000 = (n - 0x8000000000000000) % 0x10000000000000 := by omega
    have hnegative : decide (0x8000000000000000 ≤ n) = true := decide_eq_true (by omega)
    rw [if_neg hsign, hfield, hfraction, hnegative]
    split_ifs with hzero
    · rw [Parts.units, if_pos rfl, magnitude, hleast, Nat.mul_one]
    · rw [Parts.units, if_pos rfl, magnitude, hunits _ hzero]

/-- The total order puts a smaller number before a greater one. -/
theorem rank_lt_of_lt {x y : Float} (h : x < y) : rank x < rank y := by
  obtain ⟨hx, hy⟩ := isNaN_of_lt h
  rw [lt_iff_units hx hy, units_eq_bitMagnitude, units_eq_bitMagnitude] at h
  have hmono : ∀ {m n : Nat}, bitMagnitude m < bitMagnitude n → m < n :=
    bitMagnitude_strictMono.lt_iff_lt.1
  have hx := x.toBits.toNat_lt
  have hy := y.toBits.toNat_lt
  simp only [rank]
  generalize x.toBits.toNat = m at h hx ⊢
  generalize y.toBits.toNat = n at h hy ⊢
  by_cases hm : m < 0x8000000000000000 <;> by_cases hn : n < 0x8000000000000000
  · rw [if_pos hm, if_pos hn] at h ⊢
    have hlt := hmono (Int.ofNat_lt.1 h)
    omega
  · rw [if_pos hm, if_neg hn] at h
    omega
  · rw [if_neg hm, if_pos hn]
    omega
  · rw [if_neg hm, if_neg hn] at h ⊢
    have hlt := hmono (Int.ofNat_lt.1 (Int.neg_lt_neg_iff.1 h))
    omega

theorem le_of_rank_le {x y : Float} (hx : x.isNaN = false) (hy : y.isNaN = false)
    (h : rank x ≤ rank y) : x ≤ y :=
  (not_lt_iff hy hx).1 fun hlt => Int.not_lt.2 h (rank_lt_of_lt hlt)

theorem sort_perm (xs : List Float) : (sort xs).Perm xs :=
  List.mergeSort_perm xs _

@[simp]
theorem length_sort (xs : List Float) : (sort xs).length = xs.length :=
  (sort_perm xs).length_eq

theorem pairwise_sort (xs : List Float) : (sort xs).Pairwise fun x y => rank x ≤ rank y := by
  have htrans : ∀ x y z : Float, decide (rank x ≤ rank y) = true → decide (rank y ≤ rank z) = true →
      decide (rank x ≤ rank z) = true := by
    simp only [decide_eq_true_eq]
    exact fun x y z => Int.le_trans
  have htotal : ∀ x y : Float, (decide (rank x ≤ rank y) || decide (rank y ≤ rank x)) = true := by
    intro x y
    simpa using Int.le_total (rank x) (rank y)
  exact (List.pairwise_mergeSort htrans htotal xs).imp of_decide_eq_true

/-- A list of numbers has one sorted form. -/
theorem sort_eq_of_perm {xs ys : List Float} (h : xs.Perm ys) : sort xs = sort ys :=
  List.Perm.eq_of_pairwise (fun _ _ _ _ hxy hyx => rank_inj.1 (Int.le_antisymm hxy hyx))
    (pairwise_sort xs) (pairwise_sort ys) ((sort_perm xs).trans (h.trans (sort_perm ys).symm))

section Sorted

variable {ys : List Float} (hys : ys.Pairwise fun x y => rank x ≤ rank y) {i : Nat}
  (hi : i < ys.length)

include hys

/-- Only what stands at a smaller index can come before a number. -/
theorem countP_rank_lt_le : ys.countP (fun y => rank y < rank ys[i]) ≤ i := by
  have hdrop : (ys.drop i).countP (fun y => rank y < rank ys[i]) = 0 := by
    rw [List.countP_eq_zero]
    intro y hy
    obtain ⟨k, hk, rfl⟩ := List.mem_drop_iff_getElem.1 hy
    rw [decide_eq_true_eq, Int.not_lt]
    rcases Nat.eq_zero_or_pos k with rfl | hpos
    · exact Int.le_refl _
    · exact List.pairwise_iff_getElem.1 hys i (i + k) hi (by omega) (by omega)
  have hsplit : ys.countP (fun y => rank y < rank ys[i])
      = (ys.take i).countP (fun y => rank y < rank ys[i])
        + (ys.drop i).countP (fun y => rank y < rank ys[i]) := by
    rw [← List.countP_append, List.take_append_drop]
  calc ys.countP (fun y => rank y < rank ys[i])
      = (ys.take i).countP (fun y => rank y < rank ys[i]) := by rw [hsplit, hdrop, Nat.add_zero]
    _ ≤ (ys.take i).length := List.countP_le_length
    _ ≤ i := List.length_take_le i ys

/-- Whatever stands at an index up to that of a number does not come after it. -/
theorem lt_countP_rank_le : i < ys.countP (fun y => rank y ≤ rank ys[i]) := by
  have htake : (ys.take (i + 1)).countP (fun y => rank y ≤ rank ys[i]) = i + 1 := by
    have hall : ∀ y ∈ ys.take (i + 1), decide (rank y ≤ rank ys[i]) = true := by
      intro y hy
      obtain ⟨k, hk, rfl⟩ := List.mem_take_iff_getElem.1 hy
      rw [decide_eq_true_eq]
      rcases Nat.lt_or_eq_of_le (Nat.le_of_lt_succ (Nat.lt_of_lt_of_le hk (Nat.min_le_left _ _)))
        with hlt | rfl
      · exact List.pairwise_iff_getElem.1 hys k i (by omega) hi hlt
      · exact Int.le_refl _
    rw [List.countP_eq_length.2 hall, List.length_take]
    omega
  have hle := (List.take_sublist (i + 1) ys).countP_le (p := fun y => decide (rank y ≤ rank ys[i]))
  omega

end Sorted

end Number

/-! ## Ranks -/

namespace Functions

/-- Whether a number of a list has the rank `j`: fewer than `j` come before it in the total order,
and at least `j` do not come after it. -/
structure IsAtRank (xs : List Float) (j : Nat) (x : Float) : Prop where
  mem : x ∈ xs
  before : (xs.countP fun y => Number.rank y < Number.rank x) < j
  upTo : j ≤ xs.countP fun y => Number.rank y ≤ Number.rank x

section Ranks

variable {xs : List Float}

/-- Among numbers, fewer than `j` are less than the one with the rank `j` and at least `j` at most
it. -/
theorem IsAtRank.countP_lt {j : Nat} {x : Float} (h : IsAtRank xs j x)
    (hnan : ∀ y ∈ xs, y.isNaN = false) :
    (xs.countP fun y => y < x) < j ∧ j ≤ xs.countP fun y => y ≤ x := by
  constructor
  · refine Nat.lt_of_le_of_lt (List.countP_mono_left fun y _ hy => ?_) h.before
    exact decide_eq_true (Number.rank_lt_of_lt (of_decide_eq_true hy))
  · refine Nat.le_trans h.upTo (List.countP_mono_left fun y hy hrank => ?_)
    exact decide_eq_true
      (Number.le_of_rank_le (hnan y hy) (hnan x h.mem) (of_decide_eq_true hrank))

theorem isAtRank_sort {j : Nat} (hlow : 1 ≤ j) (hhigh : j ≤ xs.length) :
    IsAtRank xs j ((Number.sort xs).getD (j - 1) 0.0) := by
  have hperm := Number.sort_perm xs
  have hsorted := Number.pairwise_sort xs
  have hlt : j - 1 < (Number.sort xs).length := by
    rw [Number.length_sort]
    omega
  have hbefore := Number.countP_rank_lt_le hsorted hlt
  have hupTo := Number.lt_countP_rank_le hsorted hlt
  rw [hperm.countP_eq] at hbefore hupTo
  rw [List.getD_eq_getElem _ _ hlt]
  exact ⟨hperm.subset (List.getElem_mem hlt), by omega, by omega⟩

/-- What stands at a rank is there if the rank, rounded up, is that of an item. -/
theorem atRank_eq {k : Float} (hxs : xs.length < 2 ^ 53) (hk : k.isNaN = false) :
    atRank xs k = if 1 ≤ Number.roundedUp k ∧ Number.roundedUp k ≤ xs.length then
        .ok (.number (xs.getD ((Number.roundedUp k).toNat - 1) 0.0))
      else .error .badNumber := by
  have hlow := Number.ceil_lt_one_iff hk
  have hhigh := Number.ofNat_lt_ceil_iff hk hxs
  simp only [atRank, Bool.or_eq_true, decide_eq_true_eq, hlow, hhigh]
  by_cases hin : 1 ≤ Number.roundedUp k ∧ Number.roundedUp k ≤ xs.length
  · rw [if_pos hin, if_neg (by omega), Number.toOffset_ceil hk hin.1 hin.2 hxs]
  · rw [if_neg hin, if_pos (by omega)]

/-- The ranks from the end are those from the beginning in the other direction. -/
theorem atRank_reverse {k k' : Float} (hxs : xs.length < 2 ^ 53) (hk : k.isNaN = false)
    (hk' : k'.isNaN = false) (h : Number.roundedUp k + Number.roundedUp k' = xs.length + 1) :
    atRank xs.reverse k = atRank xs k' := by
  have hreverse : xs.reverse.length = xs.length := List.length_reverse
  rw [atRank_eq (by omega) hk, atRank_eq hxs hk', hreverse]
  by_cases hin : 1 ≤ Number.roundedUp k ∧ Number.roundedUp k ≤ xs.length
  · have hindex : (Number.roundedUp k).toNat - 1 < xs.length := by omega
    have hindex' : xs.length - 1 - ((Number.roundedUp k).toNat - 1)
        = (Number.roundedUp k').toNat - 1 := by omega
    rw [if_pos hin, if_pos (by omega), List.getD_reverse _ hindex, hindex']
  · rw [if_neg hin, if_neg (by omega)]

variable {args : List Argument} {k : Float}

theorem small_eq (hk : numberAt args 1 = .ok k) : small args = atRank (sortedAt args) k := by
  rw [small, hk]
  rfl

theorem large_eq (hk : numberAt args 1 = .ok k) :
    large args = atRank (sortedAt args).reverse k := by
  rw [large, hk]
  rfl

/-- In the middle of an odd number of numbers stands one of them. -/
theorem median_eq {a : Argument} (hnan : k.isNaN = false) (hlength : (numbers [a]).length < 2 ^ 53)
    (hmiddle : 2 * Number.roundedUp k = (numbers [a]).length + 1) :
    median [a] = settle (atRank (Number.sort (numbers [a])) k) := by
  have hindex : (numbers [a]).length / 2 = (Number.roundedUp k).toNat - 1 := by omega
  rw [atRank_eq (by simpa using hlength) hnan, Number.length_sort, if_pos (by omega), median]
  simp only [Number.length_sort]
  rw [if_neg (by omega), if_pos (by omega), hindex]
  rfl

theorem median_congr {args' : List Argument} (h : (numbers args).Perm (numbers args')) :
    median args = median args' := by
  rw [median, median, Number.sort_eq_of_perm h]

end Ranks

end Functions

open Functions

/-! ## Calls -/

namespace Expression

variable (t : Table) (now : Moment)

/-- The numbers among the values that an expression comes to. -/
def numbers (e : Expression) : List Float :=
  (e.evaluate t now).values.filterMap exactNumber?

end Expression

namespace Builtin

/-- The functions that look for a rank among the numbers of their first argument. -/
def isRanking : Builtin → Bool
  | .small | .large | .percentile => true
  | _ => false

variable {f : Builtin} (hf : f.isRanking = true)

include hf

theorem evaluate_ranking (t : Table) (now : Moment) (a b : Expression) :
    (Expression.call f [a, b]).evaluate t now
      = .scalar (f.value now [a.evaluate t now, b.evaluate t now]) := by
  have harity : f.arity = ⟨2, some 2⟩ := by cases f <;> first | rfl | cases hf
  have hne : f ≠ .ifElse := by rintro rfl; cases hf
  exact Expression.evaluate_call_eq_value (by rw [harity]; exact Nat.le_refl 2)
    (by rw [harity]; exact Nat.le_refl 2) hne

/-- Only the sorted numbers and the rank make a difference. -/
theorem value_congr_ranking {now : Moment} {args args' : List Argument}
    (h : sortedAt args = sortedAt args') (hk : numberAt args 1 = numberAt args' 1) :
    f.value now args = f.value now args' := by
  cases f with
  | small => rw [value, value, Functions.small, Functions.small, h, hk]
  | large => rw [value, value, Functions.large, Functions.large, h, hk]
  | percentile => rw [value, value, Functions.percentile, Functions.percentile, h, hk]
  | _ => cases hf

end Builtin

/-- What the rankings of an array with the numbers `xs` say, for an expression `b` that is read as
the rank `k`. -/
structure RanksNumbers (t : Table) (now : Moment) (a : Expression) (xs : List Float) : Prop where
  outside : ∀ (b : Expression) (k : Float), b.ReadsNumber t now k → k.isNaN = false →
    ¬ (1 ≤ Number.roundedUp k ∧ Number.roundedUp k ≤ xs.length) →
    (Expression.call .small [a, b]).evaluate t now = .scalar (.error .badNumber)
      ∧ (Expression.call .large [a, b]).evaluate t now = .scalar (.error .badNumber)
  small : ∀ (b : Expression) (k : Float) (j : Nat), b.ReadsNumber t now k → k.isNaN = false →
    Number.roundedUp k = j → 1 ≤ j → j ≤ xs.length →
    ∃ x, (Expression.call .small [a, b]).evaluate t now = .scalar (.number x) ∧ IsAtRank xs j x
  large : ∀ (b b' : Expression) (k k' : Float), b.ReadsNumber t now k → b'.ReadsNumber t now k' →
    k.isNaN = false → k'.isNaN = false →
    Number.roundedUp k + Number.roundedUp k' = xs.length + 1 →
    (Expression.call .large [a, b]).evaluate t now
      = (Expression.call .small [a, b']).evaluate t now
  median : ∀ (b : Expression) (k : Float), b.ReadsNumber t now k → k.isNaN = false →
    2 * Number.roundedUp k = xs.length + 1 →
    (Expression.call .median [a]).evaluate t now = (Expression.call .small [a, b]).evaluate t now

/-- What two arrays, perhaps in different tables, share if the rankings do not tell them apart. -/
structure RanksAlike (t t' : Table) (now : Moment) (a a' : Expression) : Prop where
  ranking : ∀ f : Builtin, f.isRanking = true → ∀ b b' : Expression,
    b.evaluate t now = b'.evaluate t' now →
    (Expression.call f [a, b]).evaluate t now = (Expression.call f [a', b']).evaluate t' now
  median : (Expression.call .median [a]).evaluate t now
    = (Expression.call .median [a']).evaluate t' now

section Rankings

variable {t t' : Table} {now : Moment} {a a' b : Expression} {k : Float}

theorem evaluate_small (hk : b.ReadsNumber t now k) :
    (Expression.call .small [a, b]).evaluate t now
      = .scalar (settle (atRank (Number.sort (a.numbers t now)) k)) := by
  rw [Builtin.evaluate_ranking rfl, Builtin.value, small_eq ((Expression.readsNumber_iff rfl).1 hk)]
  rfl

theorem evaluate_large (hk : b.ReadsNumber t now k) :
    (Expression.call .large [a, b]).evaluate t now
      = .scalar (settle (atRank (Number.sort (a.numbers t now)).reverse k)) := by
  rw [Builtin.evaluate_ranking rfl, Builtin.value, large_eq ((Expression.readsNumber_iff rfl).1 hk)]
  rfl

theorem evaluate_median : (Expression.call .median [a]).evaluate t now
    = .scalar (Functions.median [a.evaluate t now]) :=
  Expression.evaluate_pooled_singleton t now a rfl

theorem numbers_evaluate : Functions.numbers [a.evaluate t now] = a.numbers t now :=
  numbers_singleton _

theorem ranksNumbers (hlength : (a.numbers t now).length < 2 ^ 53) :
    RanksNumbers t now a (a.numbers t now) := by
  have hsorted : (Number.sort (a.numbers t now)).length < 2 ^ 53 := by simpa using hlength
  have hreversed : (Number.sort (a.numbers t now)).reverse.length < 2 ^ 53 := by simpa using hlength
  constructor
  case outside =>
    intro b k hk hnan hout
    rw [evaluate_small hk, evaluate_large hk, atRank_eq hsorted hnan, atRank_eq hreversed hnan,
      List.length_reverse, Number.length_sort, if_neg hout, if_neg hout]
    exact ⟨rfl, rfl⟩
  case small =>
    intro b k j hk hnan hj hlow hhigh
    refine ⟨_, ?_, isAtRank_sort hlow hhigh⟩
    rw [evaluate_small hk, atRank_eq hsorted hnan, Number.length_sort, hj, if_pos (by omega),
      Int.toNat_natCast]
    rfl
  case large =>
    intro b b' k k' hk hk' hnan hnan' hsum
    rw [← Number.length_sort] at hsum
    rw [evaluate_large hk, evaluate_small hk', atRank_reverse hsorted hnan hnan' hsum]
  case median =>
    intro b k hk hnan hmiddle
    rw [← numbers_evaluate] at hlength hmiddle
    rw [evaluate_median, evaluate_small hk, median_eq hnan hlength hmiddle, numbers_evaluate]

/-- The rankings do not tell apart what has the same numbers in some order. -/
theorem ranksAlike_of_perm (h : (a.numbers t now).Perm (a'.numbers t' now)) :
    RanksAlike t t' now a a' := by
  constructor
  case ranking =>
    intro f hf b b' hb
    rw [Builtin.evaluate_ranking hf, Builtin.evaluate_ranking hf, hb]
    exact congrArg _ (Builtin.value_congr_ranking hf (Number.sort_eq_of_perm h) rfl)
  case median =>
    rw [← numbers_evaluate, ← numbers_evaluate] at h
    rw [evaluate_median, evaluate_median, median_congr h]

end Rankings

/-- The rankings of an array are those of its numbers in their total order, of which there are as
many as a number can count.  Neither the order of the array nor anything else in it makes a
difference. -/
theorem order_statistics (t : Table) (now : Moment) (a : Expression) :
    ((a.numbers t now).length < 2 ^ 53 → RanksNumbers t now a (a.numbers t now))
      ∧ (∀ (t' : Table) (a' : Expression),
          (a.evaluate t now).values.Perm (a'.evaluate t' now).values → RanksAlike t t' now a a')
      ∧ ∀ (t' : Table) (a' : Expression) (before others after : List Value),
          (a.evaluate t now).values = before ++ after →
          (a'.evaluate t' now).values = before ++ others ++ after →
          (∀ v ∈ others, ∀ x, v ≠ .number x) → RanksAlike t t' now a a' := by
  refine ⟨ranksNumbers, fun t' a' hperm => ranksAlike_of_perm (hperm.filterMap _), ?_⟩
  intro t' a' before others after hvalues hvalues' hothers
  have hnone : others.filterMap exactNumber? = [] := by
    rw [List.filterMap_eq_nil_iff]
    intro v hv
    cases v with
    | number x => exact absurd rfl (hothers _ hv x)
    | _ => rfl
  refine ranksAlike_of_perm ?_
  rw [Expression.numbers, Expression.numbers, hvalues, hvalues', List.filterMap_append,
    List.filterMap_append, List.filterMap_append, hnone, List.append_nil]

/-- A table with the numbers 3, 1 and 2 and a text. -/
def threeAndText : Table :=
  .ofCells 2 2 fun a =>
    match a.row, a.col with
    | 0, 0 => .number 3.0
    | 0, _ => .number 1.0
    | _, 0 => .number 2.0
    | _, _ => .text "x"

theorem median_threeAndText :
    ((Expression.region (.spanning ⟨0, 0⟩ ⟨1, 1⟩)).numbers threeAndText (.midnight .epoch)).length
        < 2 ^ 53
      ∧ (Expression.call .median [.region (.spanning ⟨0, 0⟩ ⟨1, 1⟩)]).evaluate threeAndText
          (.midnight .epoch)
        = (Expression.call .small [.region (.spanning ⟨0, 0⟩ ⟨1, 1⟩), .number 2.0]).evaluate
          threeAndText (.midnight .epoch) := by
  have hlength : ((Expression.region (.spanning ⟨0, 0⟩ ⟨1, 1⟩)).numbers threeAndText
      (.midnight .epoch)).length = 3 := by rfl
  have hlt : ((Expression.region (.spanning ⟨0, 0⟩ ⟨1, 1⟩)).numbers threeAndText
      (.midnight .epoch)).length < 2 ^ 53 := by
    rw [hlength]
    decide
  have htwo : Number.roundedUp 2.0 = 2 := Number.roundedUp_ofNat (n := 2) (by decide)
  refine ⟨hlt, ((order_statistics threeAndText _ _).1 hlt).median (.number 2.0) 2.0
    (Expression.readsNumber_number 2.0) (by decide) ?_⟩
  rw [hlength, htwo]
  rfl

end Worksheet
