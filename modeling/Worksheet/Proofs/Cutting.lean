import Worksheet.Proofs.NumberUnits
import Worksheet.Proofs.Readings
import Worksheet.Proofs.Spreading

/-!
# Cutting texts

`LEFT`, `RIGHT` and `MID` count characters by numbers of which only the whole part matters, and a
number too large for a size counts as the largest size, which is still more characters than any text
in memory has.  So a number with the whole part `n` stands for `n` characters, whatever `n` is
(`Expression.evaluate_left`, `Expression.evaluate_right`, `Expression.evaluate_mid`), and the laws
of taking and dropping are laws of the three functions (`cuts_consistently`).
-/

namespace Worksheet

open Functions

namespace Functions

variable {args : List Argument} {s : List Char} {x y z : Float}

theorem countOr_eq {i : Nat} (h : numberOr args i z = .ok x) (hx : 0 ≤ Number.toInt x) :
    countOr args i z = .ok (Number.toSize x) := by
  rw [countOr, h]
  simp only [bind, Except.bind]
  rw [if_neg (Number.not_trunc_lt_zero hx), Number.toSize, Number.toInt_trunc]
  rfl

section Cuts

variable (hs : textAt args 0 = .ok s)

include hs

theorem left_eq (hx : numberOr args 1 1.0 = .ok x) (hcount : 0 ≤ Number.toInt x) :
    settle (left args) = .text (String.ofList (s.take (Number.toSize x))) := by
  rw [left, hs, countOr_eq hx hcount]
  rfl

theorem right_eq (hx : numberOr args 1 1.0 = .ok x) (hcount : 0 ≤ Number.toInt x) :
    settle (right args) = .text (String.ofList (s.drop (s.length - Number.toSize x))) := by
  rw [right, hs, countOr_eq hx hcount]
  rfl

/-- Cutting out begins at a position and takes so many characters. -/
theorem mid_eq (hx : numberAt args 1 = .ok x) (hy : numberOr args 2 0.0 = .ok y)
    (hpos : 1 ≤ Number.toInt x) (hcount : 0 ≤ Number.toInt y) :
    settle (mid args)
      = .text (String.ofList ((s.drop (Number.toSize x - 1)).take (Number.toSize y))) := by
  rw [mid, hs, hx, countOr_eq hy hcount]
  simp only [bind, Except.bind]
  rw [if_neg (Number.not_trunc_lt_one hpos), Number.toOffset_eq hpos]
  rfl

end Cuts

end Functions

namespace Expression

variable {t : Table} {now : Moment} {a b c : Expression} {s : List Char}

/-- Whether an expression comes to a value that is read as a number with the whole part `n`. -/
def ReadsCount (t : Table) (now : Moment) (e : Expression) (n : Nat) : Prop :=
  ∃ x, e.ReadsNumber t now x ∧ Number.toInt x = n

theorem readsCount_of_evaluate_eq {n : Nat} (hn : n < 2 ^ 53)
    (h : a.evaluate t now = .scalar (.number (Float.ofNat n))) : a.ReadsCount t now n :=
  ⟨_, readsNumber_of_evaluate_eq h, Number.toInt_ofNat hn⟩

theorem evaluate_len (ha : a.ReadsText t now s) :
    (call .len [a]).evaluate t now = .scalar (.number (Float.ofNat s.length)) := by
  rw [evaluate_call_eq_value (by exact Nat.le_refl 1) (by exact Nat.le_refl 1) (by decide),
    Builtin.value, len, List.map_singleton, (readsText_iff rfl).1 ha]
  rfl

theorem evaluate_concat_texts {u v : List Char}
    (ha : a.evaluate t now = .scalar (.text (String.ofList u)))
    (hb : b.evaluate t now = .scalar (.text (String.ofList v))) :
    (call .concat [a, b]).evaluate t now = .scalar (.text (String.ofList (u ++ v))) := by
  rw [evaluate_call (evaluateCall_pooling rfl _), Builtin.value, concat, List.map_cons,
    List.map_singleton, ha, hb]
  simp [flatten, Argument.values, Value.toText, ofChars]

section Text

variable (ha : a.ReadsText t now s) (hlength : s.length < 2 ^ 63) {n p : Nat}

include ha hlength

theorem evaluate_left (hb : b.ReadsCount t now n) :
    (call .left [a, b]).evaluate t now = .scalar (.text (String.ofList (s.take n))) := by
  obtain ⟨x, hx, hn⟩ := hb
  -- A count that is cut down to the largest size still goes beyond the text.
  have hsize := Number.toSize_eq_min x
  have htake : s.take (Number.toSize x) = s.take n := List.take_eq_take_iff.2 (by omega)
  rw [evaluate_call_eq_value (by exact Nat.le_succ 1) (by exact Nat.le_refl 2) (by decide),
    Builtin.value, left_eq ((readsText_iff rfl).1 ha) (hx.numberOr rfl 1.0) (by omega), htake]

theorem evaluate_right (hb : b.ReadsCount t now n) :
    (call .right [a, b]).evaluate t now
      = .scalar (.text (String.ofList (s.drop (s.length - n)))) := by
  obtain ⟨x, hx, hn⟩ := hb
  have hsize := Number.toSize_eq_min x
  have hdrop : s.length - Number.toSize x = s.length - n := by omega
  rw [evaluate_call_eq_value (by exact Nat.le_succ 1) (by exact Nat.le_refl 2) (by decide),
    Builtin.value, right_eq ((readsText_iff rfl).1 ha) (hx.numberOr rfl 1.0) (by omega), hdrop]

theorem evaluate_mid (hb : b.ReadsCount t now p) (hc : c.ReadsCount t now n) (hpos : 1 ≤ p) :
    (call .mid [a, b, c]).evaluate t now
      = .scalar (.text (String.ofList ((s.drop (p - 1)).take n))) := by
  obtain ⟨x, hx, hp⟩ := hb
  obtain ⟨y, hy, hn⟩ := hc
  have hstart := Number.toSize_eq_min x
  have hcount := Number.toSize_eq_min y
  have hdrop : s.drop (Number.toSize x - 1) = s.drop (p - 1) := List.drop_eq_drop_iff.2 (by omega)
  have htake : (s.drop (p - 1)).take (Number.toSize y) = (s.drop (p - 1)).take n := by
    rw [List.take_eq_take_iff, List.length_drop]
    omega
  rw [evaluate_call_eq_value (by exact Nat.le_refl 3) (by exact Nat.le_refl 3) (by decide),
    Builtin.value, mid_eq ((readsText_iff rfl).1 ha) ((readsNumber_iff rfl).1 hx)
      (hy.numberOr rfl 0.0) (by omega) (by omega), hdrop, htake]

end Text

end Expression

open Expression in
/-- What it is for the three functions to cut a text consistently, counts and positions being any
expressions that are read as numbers, of which only the whole parts matter.  Whole numbers below
`2 ^ 53` are their own whole parts. -/
structure CutsConsistently (t : Table) (now : Moment) (a : Expression) (s : List Char) : Prop where
  written : ∀ n < 2 ^ 53, (number (Float.ofNat n)).ReadsCount t now n
  halves : ∀ (b c : Expression) (k : Nat), k ≤ s.length → b.ReadsCount t now k →
    c.ReadsCount t now (s.length - k) →
    (call .concat [call .left [a, b], call .right [a, c]]).evaluate t now
      = .scalar (.text (String.ofList s))
  whole : ∀ (b : Expression) (k : Nat), s.length ≤ k → b.ReadsCount t now k →
    (call .left [a, b]).evaluate t now = .scalar (.text (String.ofList s))
    ∧ (call .right [a, b]).evaluate t now = .scalar (.text (String.ofList s))
  start : ∀ (one b : Expression) (k : Nat), one.ReadsCount t now 1 → b.ReadsCount t now k →
    (call .mid [a, one, b]).evaluate t now = (call .left [a, b]).evaluate t now
  parts : ∀ (first next b c both : Expression) (p j k : Nat), 1 ≤ p →
    first.ReadsCount t now p → next.ReadsCount t now (p + j) → b.ReadsCount t now j →
    c.ReadsCount t now k → both.ReadsCount t now (j + k) →
    (call .concat [call .mid [a, first, b], call .mid [a, next, c]]).evaluate t now
      = (call .mid [a, first, both]).evaluate t now
  length : ∀ (first b : Expression) (p k : Nat), 1 ≤ p → first.ReadsCount t now p →
    b.ReadsCount t now k → (call .len [call .mid [a, first, b]]).evaluate t now
      = .scalar (.number (Float.ofNat (min k (s.length + 1 - p))))
  beyond : ∀ (first b c : Expression) (p j k : Nat), 1 ≤ p → first.ReadsCount t now p →
    s.length ≤ j → s.length ≤ k → b.ReadsCount t now j → c.ReadsCount t now k →
    (call .left [a, b]).evaluate t now = (call .left [a, c]).evaluate t now
    ∧ (call .right [a, b]).evaluate t now = (call .right [a, c]).evaluate t now
    ∧ (call .mid [a, first, b]).evaluate t now = (call .mid [a, first, c]).evaluate t now

open Expression in
/-- A text in memory has fewer than `2 ^ 63` characters. -/
theorem cuts_consistently (t : Table) (now : Moment) {a : Expression} {s : List Char}
    (ha : a.ReadsText t now s) (hlength : s.length < 2 ^ 63) : CutsConsistently t now a s where
  written := fun n hn => ⟨_, readsNumber_number _, Number.toInt_ofNat hn⟩
  halves := by
    intro b c k hk hb hc
    rw [evaluate_concat_texts (evaluate_left ha hlength hb) (evaluate_right ha hlength hc),
      Nat.sub_sub_self hk, List.take_append_drop]
  whole := by
    intro b k hk hb
    rw [evaluate_left ha hlength hb, evaluate_right ha hlength hb, List.take_of_length_le hk,
      Nat.sub_eq_zero_of_le hk, List.drop_zero]
    exact ⟨rfl, rfl⟩
  start := by
    intro one b k hone hb
    rw [evaluate_mid ha hlength hone hb (Nat.le_refl 1), evaluate_left ha hlength hb,
      Nat.sub_self, List.drop_zero]
  parts := by
    intro first next b c both p j k hpos hfirst hnext hb hc hboth
    have hdrop : s.drop (p + j - 1) = (s.drop (p - 1)).drop j := by
      rw [List.drop_drop, Nat.sub_add_comm hpos]
    rw [evaluate_concat_texts (evaluate_mid ha hlength hfirst hb hpos)
        (evaluate_mid ha hlength hnext hc (Nat.le_add_right_of_le hpos)),
      evaluate_mid ha hlength hfirst hboth hpos, hdrop, List.take_add]
  length := by
    intro first b p k hpos hfirst hb
    have hmid := evaluate_mid ha hlength hfirst hb hpos
    have hend : s.length - (p - 1) = s.length + 1 - p := by omega
    rw [evaluate_len (readsText_of_evaluate_eq hmid), List.length_take, List.length_drop, hend]
  beyond := by
    intro first b c p j k hpos hfirst hj hk hb hc
    have htake : ∀ m, (s.drop m).take j = (s.drop m).take k := by
      intro m
      rw [List.take_eq_take_iff, List.length_drop]
      omega
    refine ⟨?_, ?_, ?_⟩
    · rw [evaluate_left ha hlength hb, evaluate_left ha hlength hc, List.take_of_length_le hj,
        List.take_of_length_le hk]
    · rw [evaluate_right ha hlength hb, evaluate_right ha hlength hc, Nat.sub_eq_zero_of_le hj,
        Nat.sub_eq_zero_of_le hk]
    · rw [evaluate_mid ha hlength hfirst hb hpos, evaluate_mid ha hlength hfirst hc hpos, htake]

/-- Cuts of a text that is written out, and one by a number beyond the largest size. -/
theorem cuts_written :
    CutsConsistently Table.empty (.midnight .epoch) (.text "Hello") ['H', 'e', 'l', 'l', 'o']
      ∧ (Expression.call .right [.text "Hello", .number 1e20]).evaluate Table.empty
          (.midnight .epoch) = .scalar (.text "Hello") := by
  have hcuts := cuts_consistently Table.empty (.midnight .epoch)
    (Expression.readsText_text ['H', 'e', 'l', 'l', 'o']) (by decide)
  have hlarge : (Expression.number 1e20).ReadsCount Table.empty (.midnight .epoch) (10 ^ 20) :=
    ⟨1e20, Expression.readsNumber_number _, by decide +kernel⟩
  exact ⟨hcuts, (hcuts.whole _ _ (by decide) hlarge).2⟩

end Worksheet
