import Mathlib.Tactic.SplitIfs
import Worksheet.Text.Case

/-!
# Case forms of single characters

Where a case form is a single character it is a letter that has no other form of that case, and so
is its own (`lowerChar_of_lowerChar`, `upperChar_of_upperChar`).  These are questions about finite
sets of code points: the forms in a table have to be among the letters and apart from the code
points that have a form.  A set of code points is a number here, with the bits of its members, so
that one operation on numbers settles each question for a whole table (`isSettled_lowerStretches`,
`isSettled_upperStretches`).
-/

namespace Worksheet.Text

/-! ## Sets of code points -/

/-- The union of the sets of some things. -/
def unionBits {α : Type} (bits : α → Nat) (l : List α) : Nat :=
  l.foldr (fun a union => bits a ||| union) 0

/-- The set of some code points. -/
def bitsOf (codes : List Nat) : Nat :=
  unionBits (1 <<< ·) codes

theorem testBit_unionBits {α : Type} {bits : α → Nat} {l : List α} {n : Nat} :
    (unionBits bits l).testBit n = true ↔ ∃ a ∈ l, (bits a).testBit n = true := by
  induction l with
  | nil => simp [unionBits]
  | cons a rest ih =>
    rw [unionBits, List.foldr_cons, ← unionBits, Nat.testBit_or, Bool.or_eq_true, ih]
    simp

theorem testBit_bitsOf {codes : List Nat} {n : Nat} :
    (bitsOf codes).testBit n = true ↔ n ∈ codes := by
  rw [bitsOf, testBit_unionBits]
  simp [Nat.one_shiftLeft, Nat.testBit_two_pow]

/-- The set of code points in some stretches. -/
def withinBits : List (Nat × Nat) → Nat
  | [] => 0
  | (first, last) :: rest => ((1 <<< (last + 1) - 1) ||| withinBits rest) >>> first <<< first

theorem testBit_withinBits {n : Nat} : ∀ {stretches : List (Nat × Nat)},
    (withinBits stretches).testBit n = within stretches n
  | [] => Nat.zero_testBit n
  | (first, last) :: rest => by
    have ih : (withinBits rest).testBit n = within rest n := testBit_withinBits
    rw [withinBits, within, Nat.testBit_shiftLeft, Nat.testBit_shiftRight, Nat.testBit_or,
      Nat.one_shiftLeft, Nat.testBit_two_pow_sub_one]
    by_cases hfirst : first ≤ n
    · rw [Nat.add_sub_cancel' hfirst, ih, decide_eq_decide.2 (Nat.lt_succ_iff (n := last))]
    · simp [hfirst]

theorem exists_of_within {n : Nat} : ∀ {stretches : List (Nat × Nat)},
    within stretches n = true → ∃ p ∈ stretches, p.1 ≤ n ∧ n ≤ p.2
  | (first, last) :: rest, h => by
    rw [within, Bool.and_eq_true, Bool.or_eq_true, decide_eq_true_iff, decide_eq_true_iff] at h
    rcases h.2 with hlast | hrest
    · exact ⟨(first, last), List.mem_cons_self, h.1, hlast⟩
    · obtain ⟨p, hp, hn⟩ := exists_of_within hrest
      exact ⟨p, List.mem_cons_of_mem _ hp, hn⟩

theorem isValidChar_of_within {n : Nat} (h : within letterStretches n = true) :
    n.isValidChar := by
  have hletters : ∀ p ∈ letterStretches, p.2 < 0xD800 ∨ 0xDFFF < p.1 ∧ p.2 < 0x110000 := by
    decide +kernel
  obtain ⟨p, hp, hfirst, hlast⟩ := exists_of_within h
  rcases hletters p hp with hlow | ⟨hhigh, hmax⟩
  · exact .inl (by omega)
  · exact .inr ⟨by omega, by omega⟩

/-! ## Tables of forms -/

namespace CaseStretch

def count (s : CaseStretch) : Nat :=
  (s.last - s.first) / s.step + 1

/-- The code points that a stretch moves. -/
def codes (s : CaseStretch) : List Nat :=
  List.range' s.first s.count s.step

/-- The code points that it moves them to. -/
def forms (s : CaseStretch) : List Nat :=
  List.range' ((s.first : Int) + s.shift).toNat s.count s.step

def codeBits (table : List CaseStretch) : Nat :=
  unionBits (fun s => bitsOf s.codes) table

def formBits (table : List CaseStretch) : Nat :=
  unionBits (fun s => bitsOf s.forms) table

theorem exists_of_find? {n m : Nat} : ∀ {table : List CaseStretch}, find? table n = some m →
    ∃ s ∈ table, ∃ i < s.count, n = s.first + s.step * i ∧ m = ((n : Int) + s.shift).toNat
  | s :: rest, h => by
    unfold find? at h
    split_ifs at h with hfirst hin
    · rw [Bool.and_eq_true, decide_eq_true_iff, decide_eq_true_iff] at hin
      have hindex : s.step * ((n - s.first) / s.step) = n - s.first :=
        Nat.mul_div_cancel' (Nat.dvd_of_mod_eq_zero hin.2)
      refine ⟨s, List.mem_cons_self, (n - s.first) / s.step, ?_, by omega,
        (Option.some.inj h).symm⟩
      exact Nat.lt_succ_of_le (Nat.div_le_div_right (Nat.sub_le_sub_right hin.1 _))
    · obtain ⟨s', hs', hfound⟩ := exists_of_find? h
      exact ⟨s', List.mem_cons_of_mem s hs', hfound⟩

theorem find?_eq_none {table : List CaseStretch} {n : Nat}
    (h : (codeBits table).testBit n = false) : find? table n = none := by
  rcases hfound : find? table n with _ | m
  · rfl
  obtain ⟨s, hs, i, hi, hn, -⟩ := exists_of_find? hfound
  have hbit : (codeBits table).testBit n = true :=
    testBit_unionBits.2 ⟨s, hs, testBit_bitsOf.2 (List.mem_range'.2 ⟨i, hi, hn⟩)⟩
  rw [h] at hbit
  cases hbit

theorem testBit_formBits {table : List CaseStretch}
    (hshift : ∀ s ∈ table, 0 ≤ (s.first : Int) + s.shift) {n m : Nat}
    (h : find? table n = some m) : (formBits table).testBit m = true := by
  obtain ⟨s, hs, i, hi, hn, hm⟩ := exists_of_find? h
  have hnonneg := hshift s hs
  exact testBit_unionBits.2
    ⟨s, hs, testBit_bitsOf.2 (List.mem_range'.2 ⟨i, hi, by omega⟩)⟩

end CaseStretch

open CaseStretch

/-- Whether all forms in a table are letters, and none of the code points in `taken`. -/
structure IsSettled (table : List CaseStretch) (taken : Nat) : Prop where
  shift_nonneg : ∀ s ∈ table, 0 ≤ (s.first : Int) + s.shift
  letters : formBits table &&& withinBits letterStretches = formBits table
  free : formBits table &&& taken = 0

theorem IsSettled.form {table : List CaseStretch} {taken n m : Nat} (h : IsSettled table taken)
    (hm : CaseStretch.find? table n = some m) :
    (Char.ofNat m).toNat = m ∧ isLetter (Char.ofNat m) = true ∧ taken.testBit m = false := by
  have hform := testBit_formBits h.shift_nonneg hm
  have hletter := Nat.testBit_and (formBits table) (withinBits letterStretches) m
  have hfree := Nat.testBit_and (formBits table) taken m
  rw [h.letters, hform, testBit_withinBits, Bool.true_and] at hletter
  rw [h.free, hform, Nat.zero_testBit, Bool.true_and] at hfree
  have hchar : (Char.ofNat m).toNat = m := by
    rw [Char.ofNat, dif_pos (isValidChar_of_within hletter.symm)]
    rfl
  exact ⟨hchar, by rw [isLetter, hchar, ← hletter], hfree.symm⟩

theorem isSettled_lowerStretches :
    IsSettled lowerStretches (bitsOf [304] ||| codeBits lowerStretches) :=
  ⟨by decide +kernel, by decide +kernel, by decide +kernel⟩

theorem isSettled_upperStretches :
    IsSettled upperStretches (bitsOf (upperSequences.map Prod.fst) ||| codeBits upperStretches) :=
  ⟨by decide +kernel, by decide +kernel, by decide +kernel⟩

/-! ## Forms of one character -/

variable {c d : Char}

theorem lowerChar_eq_singleton (h : lowerChar c = [d]) :
    d = c ∨ ∃ m, CaseStretch.find? lowerStretches c.toNat = some m ∧ d = Char.ofNat m := by
  unfold lowerChar at h
  split_ifs at h
  · cases h
  · split at h
    · rename_i m hm
      exact .inr ⟨m, hm, (List.singleton_inj.1 h).symm⟩
    · exact .inl (List.singleton_inj.1 h).symm

theorem two_le_length_of_lookup {n : Nat} {ns : List Nat}
    (h : upperSequences.lookup n = some ns) : 2 ≤ ns.length := by
  have hlong : ∀ p ∈ upperSequences, 2 ≤ p.2.length := by decide +kernel
  obtain ⟨l, r, hsplit, -⟩ := List.lookup_eq_some_iff.1 h
  exact hlong (n, ns) (hsplit ▸ List.mem_append_right l List.mem_cons_self)

theorem upperChar_eq_singleton (h : upperChar c = [d]) :
    d = c ∨ ∃ m, CaseStretch.find? upperStretches c.toNat = some m ∧ d = Char.ofNat m := by
  unfold upperChar at h
  split at h
  · rename_i m hm
    exact .inr ⟨m, hm, (List.singleton_inj.1 h).symm⟩
  · split at h
    · rename_i ns hns
      have hlength := two_le_length_of_lookup hns
      have hone := congrArg List.length h
      rw [List.length_map, List.length_singleton] at hone
      omega
    · exact .inl (List.singleton_inj.1 h).symm

/-- Only the small form of the dotted capital I is longer than one character. -/
theorem lowerChar_dotted_or_singleton (c : Char) :
    lowerChar c = lowerChar 'İ' ∨ ∃ d, lowerChar c = [d] := by
  by_cases hc : c.toNat = 304
  · rw [lowerChar, if_pos hc]
    exact .inl rfl
  · rw [lowerChar, if_neg hc]
    split <;> exact .inr ⟨_, rfl⟩

theorem lowerChar_ne_nil (c : Char) : lowerChar c ≠ [] := by
  rcases lowerChar_dotted_or_singleton c with h | ⟨d, h⟩ <;> rw [h] <;> exact List.cons_ne_nil _ _

theorem upperChar_ne_nil (c : Char) : upperChar c ≠ [] := by
  unfold upperChar
  split
  · exact List.cons_ne_nil _ _
  · split
    · rename_i ns hns
      have hlength := two_le_length_of_lookup hns
      rw [← List.length_pos_iff, List.length_map]
      omega
    · exact List.cons_ne_nil _ _

/-- A small form of one character is its own small form. -/
theorem lowerChar_of_lowerChar (h : lowerChar c = [d]) : lowerChar d = [d] := by
  obtain rfl | ⟨m, hm, rfl⟩ := lowerChar_eq_singleton h
  · exact h
  obtain ⟨htoNat, -, hfree⟩ := isSettled_lowerStretches.form hm
  rw [Nat.testBit_or, Bool.or_eq_false_iff] at hfree
  have hdotted : m ≠ 304 := by
    rintro rfl
    exact absurd hfree.1 (by decide)
  simp only [lowerChar, htoNat, hdotted, if_false, find?_eq_none hfree.2]

/-- A capital form of one character is its own capital form. -/
theorem upperChar_of_upperChar (h : upperChar c = [d]) : upperChar d = [d] := by
  obtain rfl | ⟨m, hm, rfl⟩ := upperChar_eq_singleton h
  · exact h
  obtain ⟨htoNat, -, hfree⟩ := isSettled_upperStretches.form hm
  rw [Nat.testBit_or, Bool.or_eq_false_iff] at hfree
  have hsequence : upperSequences.lookup m = none := by
    rw [List.lookup_eq_none_iff]
    intro p hp
    rw [bne_iff_ne]
    rintro rfl
    rw [testBit_bitsOf.2 (List.mem_map_of_mem hp)] at hfree
    cases hfree.1
  simp only [upperChar, htoNat, find?_eq_none hfree.2, hsequence]

theorem isLetter_of_lowerChar (hc : isLetter c = true) (h : lowerChar c = [d]) :
    isLetter d = true := by
  obtain rfl | ⟨m, hm, rfl⟩ := lowerChar_eq_singleton h
  · exact hc
  · exact (isSettled_lowerStretches.form hm).2.1

theorem isLetter_of_upperChar (hc : isLetter c = true) (h : upperChar c = [d]) :
    isLetter d = true := by
  obtain rfl | ⟨m, hm, rfl⟩ := upperChar_eq_singleton h
  · exact hc
  · exact (isSettled_upperStretches.form hm).2.1

end Worksheet.Text
