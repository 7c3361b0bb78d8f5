import Worksheet.Proofs.NumberUnits
import Worksheet.Proofs.Spreading

/-!
# The most frequent number

Numbers fall into classes of equal ones; the two zeros are in one class, and a NaN is in none.
`MODE` goes through the numbers, passes over those whose class it has met before, and keeps the best
one so far.  Passing over them makes no difference (`Functions.foldl_leaders`), so what is kept is
the first of all numbers that occurs most often (`Functions.isBestOf_foldl`), if any occurs twice
(`finds_mode`).
-/

namespace Worksheet

namespace Number

variable {x y z : Float}

theorem beq_symm (h : (x == y) = true) : (y == x) = true := by
  obtain ⟨hx, hy, hunits⟩ := beq_iff_units.1 h
  exact beq_iff_units.2 ⟨hy, hx, hunits.symm⟩

theorem beq_trans (h : (x == y) = true) (h' : (y == z) = true) : (x == z) = true := by
  obtain ⟨hx, -, hunits⟩ := beq_iff_units.1 h
  obtain ⟨-, hz, hunits'⟩ := beq_iff_units.1 h'
  exact beq_iff_units.2 ⟨hx, hz, hunits.trans hunits'⟩

end Number

namespace Functions

/-! ## Occurrences -/

/-- How many numbers of a list are equal to a number. -/
def multiplicity (xs : List Float) (x : Float) : Nat :=
  xs.countP (· == x)

section Occurrences

variable {xs : List Float} {x y : Float}

theorem multiplicity_congr (h : (x == y) = true) : multiplicity xs x = multiplicity xs y :=
  List.countP_congr fun _ _ => ⟨(Number.beq_trans · h), (Number.beq_trans · (Number.beq_symm h))⟩

theorem multiplicity_of_isNaN (h : x.isNaN = true) : multiplicity xs x = 0 := by
  refine List.countP_eq_zero.2 fun y _ hy => ?_
  rw [(Number.beq_iff_units.1 hy).2.1] at h
  cases h

theorem beq_self_of_multiplicity (h : 0 < multiplicity xs x) : (x == x) = true := by
  obtain ⟨y, -, hy⟩ := List.countP_pos_iff.1 h
  exact Number.beq_trans (Number.beq_symm hy) hy

theorem multiplicity_filter (xs : List Float) (x : Float) :
    multiplicity (xs.filter fun y => !y.isNaN) x = multiplicity xs x := by
  unfold multiplicity
  rw [List.countP_filter]
  refine List.countP_congr fun y _ => ?_
  rw [Bool.and_eq_true, and_iff_left_iff_imp]
  intro hy
  rw [(Number.beq_iff_units.1 hy).1]
  rfl

/-- No two numbers of a list are equal if none of them occurs twice. -/
theorem pairwise_iff_multiplicity :
    (xs.Pairwise fun x y => (x == y) = false) ↔ ∀ x ∈ xs, multiplicity xs x ≤ 1 := by
  rw [List.pairwise_iff_forall_sublist]
  constructor
  · intro h x _
    by_contra hmany
    obtain ⟨y, z, more, hsame⟩ : ∃ y z more, xs.filter (· == x) = y :: z :: more := by
      rw [multiplicity, List.countP_eq_length_filter] at hmany
      rcases hsame : xs.filter (· == x) with _ | ⟨y, _ | ⟨z, more⟩⟩ <;> rw [hsame] at hmany
      · simp at hmany
      · simp at hmany
      · exact ⟨y, z, more, rfl⟩
    have hboth : ∀ w ∈ [y, z], (w == x) = true := by
      intro w hw
      have hmem : w ∈ xs.filter (· == x) := by
        rw [hsame]
        exact List.mem_append_left more hw
      exact (List.mem_filter.1 hmem).2
    have hsublist : [y, z].Sublist xs := by
      have hprefix : [y, z] <+: xs.filter (· == x) := ⟨more, hsame.symm⟩
      exact hprefix.sublist.trans List.filter_sublist
    have hequal : (y == z) = true :=
      Number.beq_trans (hboth y (by simp)) (Number.beq_symm (hboth z (by simp)))
    rw [h hsublist] at hequal
    cases hequal
  · intro h x y hsublist
    rw [← Bool.not_eq_true]
    intro hequal
    have hself : (y == y) = true := Number.beq_trans (Number.beq_symm hequal) hequal
    have htwo : [x, y].countP (· == y) = 2 := by simp [hequal, hself]
    have hle := hsublist.countP_le (p := (· == y))
    have hone := h y (hsublist.subset (by simp))
    rw [multiplicity] at hone
    omega

end Occurrences

/-! ## The search -/

/-- A number with its multiplicity. -/
def counted (xs : List Float) (x : Float) : Float × Nat :=
  (x, multiplicity xs x)

/-- The better one of what was found and a number with its multiplicity. -/
def better (best : Option (Float × Nat)) (c : Float × Nat) : Option (Float × Nat) :=
  if 1 < c.2 && best.all (fun b => b.2 < c.2) then some c else best

/-- What a step of the search can do. -/
theorem better_cases (best : Option (Float × Nat)) (c : Float × Nat) :
    (better best c = some c ∧ 1 < c.2 ∧ ∀ b ∈ best, b.2 < c.2)
      ∨ (better best c = best ∧ (1 < c.2 → ∃ b ∈ best, c.2 ≤ b.2)) := by
  unfold better
  split_ifs with hbetter <;> rw [Bool.and_eq_true, decide_eq_true_eq] at hbetter
  · refine .inl ⟨rfl, hbetter.1, ?_⟩
    rintro b rfl
    simpa using hbetter.2
  · refine .inr ⟨rfl, fun hmany => ?_⟩
    rcases best with _ | b
    · exact absurd ⟨hmany, rfl⟩ hbetter
    · exact ⟨b, rfl, by simpa [hmany] using hbetter⟩

/-- A step never loses what was found to something worse. -/
theorem exists_mem_better {best : Option (Float × Nat)} {c : Float × Nat} {n : Nat} (hpos : 1 < n)
    (h : n ≤ c.2 ∨ ∃ b ∈ best, n ≤ b.2) : ∃ b ∈ better best c, n ≤ b.2 := by
  rcases better_cases best c with ⟨heq, -, hlt⟩ | ⟨heq, hle⟩ <;> rw [heq]
  · refine ⟨c, rfl, ?_⟩
    rcases h with h | ⟨b, hb, h⟩
    · exact h
    · exact h.trans (hlt b hb).le
  · rcases h with h | h
    · obtain ⟨b, hb, hcb⟩ := hle (by omega)
      exact ⟨b, hb, h.trans hcb⟩
    · exact h

-- The induction is on the numbers still to come; what has been found is at least as good as each
-- one met before.
theorem foldl_leaders (xs : List Float) : ∀ (rest seen : List Float) (best : Option (Float × Nat)),
    (∀ s ∈ seen, 1 < multiplicity xs s → ∃ b ∈ best, multiplicity xs s ≤ b.2) →
    ((leaders seen rest).map (counted xs)).foldl better best
      = (rest.map (counted xs)).foldl better best
  | [], _, _, _ => rfl
  | x :: rest, seen, best, h => by
    rw [leaders]
    split_ifs with hseen
    · obtain ⟨s, hs, hequal⟩ := List.any_eq_true.1 hseen
      have hself : better best (counted xs x) = best := by
        rcases better_cases best (counted xs x) with ⟨-, hmany, hlt⟩ | ⟨heq, -⟩
        · rw [counted, ← multiplicity_congr hequal] at hmany hlt
          obtain ⟨b, hb, hle⟩ := h s hs hmany
          exact absurd (hlt b hb) (Nat.not_lt.2 hle)
        · exact heq
      rw [foldl_leaders xs rest seen best h, List.map_cons, List.foldl_cons, hself]
    · rw [List.map_cons, List.map_cons, List.foldl_cons, List.foldl_cons]
      refine foldl_leaders xs rest (x :: seen) _ fun s hs hmany => ?_
      refine exists_mem_better hmany ?_
      rcases List.mem_cons.1 hs with rfl | hs
      · exact .inl (Nat.le_refl _)
      · exact .inr (h s hs hmany)

theorem mostFrequent?_eq (xs : List Float) :
    mostFrequent? xs = ((xs.map (counted xs)).foldl better none).map Prod.fst := by
  rw [← foldl_leaders xs xs [] none (by simp)]
  rfl

/-- Whether the search has found the first one of the highest multiplicity, or found nothing where
no multiplicity is above 1. -/
def IsBestOf (cs : List (Float × Nat)) : Option (Float × Nat) → Prop
  | none => ∀ c ∈ cs, c.2 ≤ 1
  | some b => ∃ i : Nat, cs[i]? = some b ∧ 1 < b.2
      ∧ ∀ (j : Nat) (c : Float × Nat), cs[j]? = some c → c.2 ≤ b.2 ∧ (j < i → c.2 < b.2)

theorem IsBestOf.le {cs : List (Float × Nat)} {best : Option (Float × Nat)} {n : Nat}
    (h : IsBestOf cs best) (hpos : 1 ≤ n) (hle : ∀ b ∈ best, b.2 ≤ n) : ∀ c ∈ cs, c.2 ≤ n := by
  intro c hc
  rcases best with _ | b
  · exact (h c hc).trans hpos
  · obtain ⟨i, -, -, hmost⟩ := h
    obtain ⟨j, hj⟩ := List.mem_iff_getElem?.1 hc
    exact (hmost j c hj).1.trans (hle b rfl)

theorem IsBestOf.better {cs : List (Float × Nat)} {best : Option (Float × Nat)}
    (h : IsBestOf cs best) (c : Float × Nat) : IsBestOf (cs ++ [c]) (better best c) := by
  rcases better_cases best c with ⟨heq, hmany, hlt⟩ | ⟨heq, hle⟩ <;> rw [heq]
  · have hless := h.le (n := c.2 - 1) (by omega) fun b hb => Nat.le_sub_one_of_lt (hlt b hb)
    refine ⟨cs.length, by simp, hmany, fun j d hd => ?_⟩
    rw [List.getElem?_append] at hd
    split_ifs at hd with hj
    · have := hless d (List.mem_of_getElem? hd)
      omega
    · have hd' := List.mem_singleton.1 (List.mem_of_getElem? hd)
      rw [hd']
      exact ⟨Nat.le_refl _, fun hlt => absurd hlt hj⟩
  · rcases best with _ | b
    · intro d hd
      rcases List.mem_append.1 hd with hd | hd
      · exact h d hd
      · rw [List.mem_singleton.1 hd]
        by_contra hmany
        obtain ⟨b, hb, -⟩ := hle (by omega)
        cases hb
    · obtain ⟨i, hi, hmany, hmost⟩ := h
      have hlt := (List.getElem?_eq_some_iff.1 hi).1
      refine ⟨i, by rw [List.getElem?_append_left hlt, hi], hmany, fun j d hd => ?_⟩
      rw [List.getElem?_append] at hd
      split_ifs at hd with hj
      · exact hmost j d hd
      · rw [List.mem_singleton.1 (List.mem_of_getElem? hd)]
        refine ⟨?_, fun hji => by omega⟩
        by_contra hmore
        obtain ⟨b', hb', hle'⟩ := hle (by omega)
        cases hb'
        exact hmore hle'

theorem isBestOf_foldl (cs : List (Float × Nat)) : IsBestOf cs (cs.foldl better none) := by
  induction cs using List.reverseRecOn with
  | nil => simp [IsBestOf]
  | append_singleton cs c ih =>
    rw [List.foldl_append]
    exact ih.better c

/-- A NaN occurs never, and is passed over. -/
theorem mostFrequent?_filter (xs : List Float) :
    mostFrequent? (xs.filter fun x => !x.isNaN) = mostFrequent? xs := by
  have hcounted : counted (xs.filter fun x => !x.isNaN) = counted xs := by
    funext x
    rw [counted, counted, multiplicity_filter]
  have hstep : ∀ (best : Option (Float × Nat)) (x : Float),
      (if (!x.isNaN) = true then better best (counted xs x) else best)
        = better best (counted xs x) := by
    intro best x
    split_ifs with hx
    · rfl
    · rcases better_cases best (counted xs x) with ⟨-, hmany, -⟩ | ⟨heq, -⟩
      · rw [counted, multiplicity_of_isNaN (by simpa using hx)] at hmany
        exact absurd hmany (Nat.not_lt_zero 1)
      · exact heq.symm
  rw [mostFrequent?_eq, mostFrequent?_eq, hcounted, List.foldl_map, List.foldl_map,
    List.foldl_filter]
  simp only [hstep]

/-! ## The mode -/

/-- Whether a number occurs most often among some numbers, at least twice, and stands before all
others that occur as often. -/
structure IsMode (xs : List Float) (x : Float) : Prop where
  twice : 2 ≤ multiplicity xs x
  most : ∀ y ∈ xs, multiplicity xs y ≤ multiplicity xs x
  first : ∃ i : Nat, xs[i]? = some x ∧ ∀ (j : Nat) (y : Float), xs[j]? = some y →
    multiplicity xs y = multiplicity xs x → i ≤ j ∧ ((y == x) = false → i < j)

section Mode

variable {xs : List Float} {x y : Float}

theorem IsMode.unique (hx : IsMode xs x) (hy : IsMode xs y) : x = y := by
  obtain ⟨i, hi, hfirst⟩ := hx.first
  obtain ⟨j, hj, hfirst'⟩ := hy.first
  have hequal : multiplicity xs x = multiplicity xs y :=
    Nat.le_antisymm (hy.most x (List.mem_of_getElem? hi)) (hx.most y (List.mem_of_getElem? hj))
  have hij : i = j :=
    Nat.le_antisymm (hfirst j y hj hequal.symm).1 (hfirst' i x hi hequal).1
  rw [hij, hj] at hi
  exact (Option.some.inj hi).symm

theorem isMode_of_mostFrequent? (h : mostFrequent? xs = some x) : IsMode xs x := by
  have hbest := isBestOf_foldl (xs.map (counted xs))
  rw [mostFrequent?_eq, Option.map_eq_some_iff] at h
  obtain ⟨b, hb, hfst⟩ := h
  rw [hb] at hbest
  obtain ⟨i, hi, hmany, hmost⟩ := hbest
  rw [List.getElem?_map, Option.map_eq_some_iff] at hi
  obtain ⟨x', hx, rfl⟩ := hi
  obtain rfl : x' = x := hfst
  have hat : ∀ (j : Nat) (y : Float), xs[j]? = some y →
      multiplicity xs y ≤ multiplicity xs x' ∧ (j < i → multiplicity xs y < multiplicity xs x') :=
    fun j y hy => hmost j (counted xs y) (by rw [List.getElem?_map, hy]; rfl)
  refine ⟨hmany, fun y hy => ?_, i, hx, fun j y hy hequal => ?_⟩
  · obtain ⟨j, hj⟩ := List.mem_iff_getElem?.1 hy
    exact (hat j y hj).1
  · have hle : i ≤ j := by
      by_contra hlt
      exact absurd hequal ((hat j y hy).2 (by omega)).ne
    refine ⟨hle, fun hne => Nat.lt_of_le_of_ne hle ?_⟩
    rintro rfl
    obtain rfl : x' = y := Option.some.inj (hx.symm.trans hy)
    rw [beq_self_of_multiplicity (Nat.zero_lt_of_lt hmany)] at hne
    cases hne

/-- Nothing is found only where no two numbers are equal. -/
theorem mostFrequent?_eq_none_iff :
    mostFrequent? xs = none ↔ xs.Pairwise fun x y => (x == y) = false := by
  rw [pairwise_iff_multiplicity]
  constructor
  · intro h x hx
    have hbest := isBestOf_foldl (xs.map (counted xs))
    rw [mostFrequent?_eq, Option.map_eq_none_iff] at h
    rw [h] at hbest
    exact hbest (counted xs x) (List.mem_map_of_mem hx)
  · intro h
    rcases hfound : mostFrequent? xs with _ | x
    · rfl
    · have hmode := isMode_of_mostFrequent? hfound
      obtain ⟨i, hi, -⟩ := hmode.first
      exact absurd hmode.twice (Nat.not_le.2 (Nat.lt_succ_of_le (h x (List.mem_of_getElem? hi))))

theorem mostFrequent?_eq_some_iff : mostFrequent? xs = some x ↔ IsMode xs x := by
  refine ⟨isMode_of_mostFrequent?, fun h => ?_⟩
  rcases hfound : mostFrequent? xs with _ | y
  · obtain ⟨i, hi, -⟩ := h.first
    rw [mostFrequent?_eq_none_iff, pairwise_iff_multiplicity] at hfound
    exact absurd h.twice (Nat.not_le.2 (Nat.lt_succ_of_le (hfound x (List.mem_of_getElem? hi))))
  · rw [(isMode_of_mostFrequent? hfound).unique h]

end Mode

end Functions

open Functions

/-- What it is for a value to be the mode of some numbers: `#N/A` if no two of them are equal, and
otherwise the first of those that occur most often. -/
structure FindsMode (xs : List Float) (v : Value) : Prop where
  notAvailable : v = .error .notAvailable ↔ xs.Pairwise fun x y => (x == y) = false
  number : ∀ x, v = .number x ↔ IsMode xs x
  noOther : v = .error .notAvailable ∨ ∃ x, v = .number x

theorem findsMode_settle (args : List Argument) :
    FindsMode (numbers args) (settle (mode args)) := by
  have hnone : mostFrequent? (numbers args) = none
      ↔ (numbers args).Pairwise fun x y => (x == y) = false := mostFrequent?_eq_none_iff
  have hsome : ∀ x, mostFrequent? (numbers args) = some x ↔ IsMode (numbers args) x :=
    fun _ => mostFrequent?_eq_some_iff
  unfold mode
  rcases hfound : mostFrequent? (numbers args) with _ | y
  · rw [hfound] at hnone
    refine ⟨by simpa [settle] using hnone, fun x => ?_, .inl rfl⟩
    rw [← hsome, hfound]
    simp [settle]
  · rw [hfound] at hnone
    refine ⟨by simpa [settle] using hnone, fun x => ?_, .inr ⟨y, rfl⟩⟩
    rw [← hsome, hfound]
    simp [settle]

/-- `MODE` of any arguments is the mode of the numbers among them.  Arguments whose numbers are the
same in the same order, NaNs apart, have the same mode. -/
theorem finds_mode (now : Moment) (args : List Argument) :
    FindsMode (numbers args) (Builtin.mode.value now args)
      ∧ (∀ args' : List Argument,
          ((numbers args').filter fun x => !x.isNaN) = (numbers args).filter (fun x => !x.isNaN) →
          Builtin.mode.value now args' = Builtin.mode.value now args)
      ∧ ∀ (t : Table) (es : List Expression), es.map (Expression.evaluate t now) = args →
          Expression.evaluateCall t now .mode es = .ok (Builtin.mode.value now args) := by
  refine ⟨findsMode_settle args, fun args' hsame => ?_, fun t es hes => ?_⟩
  · have hfound : mostFrequent? (numbers args') = mostFrequent? (numbers args) := by
      rw [← mostFrequent?_filter, hsame, mostFrequent?_filter]
    rw [Builtin.value, Builtin.value, mode, mode, hfound]
  · rw [Expression.evaluateCall_pooling rfl, hes]

/-- Two zeros with a text and a NaN between them. -/
def zerosApart : List Argument :=
  [.block 4 [.number (-0.0), .text "0", .number (0.0 / 0.0), .number 0.0]]

theorem mode_zerosApart :
    ((numbers [.scalar (.number (-0.0)), .scalar (.number 0.0)]).filter fun x => !x.isNaN)
        = (numbers zerosApart).filter (fun x => !x.isNaN)
      ∧ Builtin.mode.value (.midnight .epoch) [.scalar (.number (-0.0)), .scalar (.number 0.0)]
        = Builtin.mode.value (.midnight .epoch) zerosApart
      ∧ Builtin.mode.value (.midnight .epoch) zerosApart = .number (-0.0) := by
  have hsame : ((numbers [.scalar (.number (-0.0)), .scalar (.number 0.0)]).filter
      fun x => !x.isNaN) = (numbers zerosApart).filter (fun x => !x.isNaN) := by decide +kernel
  exact ⟨hsame, (finds_mode _ zerosApart).2.1 _ hsame, by decide +kernel⟩

end Worksheet
