import Mathlib.Algebra.Ring.Parity
import Mathlib.Data.List.Induction
import Worksheet.Proofs.Nesting

/-!
# The commas that divide arguments

What a scan comes to after a text can be said without it: it is inside quotes if it has met an odd
number of them, and its depth is the number of parentheses opened outside quotes less the number of
those closed there (`Scan.after_start`).  So it is back at its start after the texts that are level
and after no others (`Scan.after_start_eq_start_iff`).

An argument list is divided at the commas that a level text stands before, at all of these and at no
others (`Scan.cutsFrom_pieces`), and with a comma between each two the pieces are the list again
(`Scan.intercalate_pieces`).  Hence texts that are level and have no such comma of their own are
found again when they are written one after the other with commas between them (`divides_at_cuts`).
-/

namespace Worksheet

namespace Text

/-- How often a character stands outside quotes in a text: at places with an even number of double
quotes before them. -/
def countOutside (c : Char) (u : List Char) : Nat :=
  (List.range u.length).countP fun i => u[i]? = some c ∧ Even ((u.take i).count '"')

/-- Whether a text leaves no quotation open and has as many opening as closing parentheses outside
quotes, in whatever order. -/
def IsLevel (u : List Char) : Prop :=
  Even (u.count '"') ∧ countOutside '(' u = countOutside ')' u

instance (u : List Char) : Decidable (IsLevel u) :=
  inferInstanceAs (Decidable (_ ∧ _))

theorem countOutside_concat (c d : Char) (u : List Char) :
    countOutside c (u ++ [d])
      = countOutside c u + if d = c ∧ Even (u.count '"') then 1 else 0 := by
  have hbefore : (List.range u.length).countP (fun i => (u ++ [d])[i]? = some c
        ∧ Even (((u ++ [d]).take i).count '"')) = countOutside c u := by
    refine List.countP_congr fun i hi => ?_
    have hi := List.mem_range.1 hi
    rw [List.getElem?_append_left hi, List.take_append_of_le_length (Nat.le_of_lt hi)]
  rw [countOutside, List.length_append, List.length_singleton, List.range_succ, List.countP_append,
    hbefore, List.countP_singleton, List.getElem?_concat_length, List.take_left]
  simp

theorem countOutside_le_count (c : Char) (u : List Char) : countOutside c u ≤ u.count c := by
  induction u using List.reverseRecOn with
  | nil => exact Nat.le_refl 0
  | append_singleton u d ih =>
    rw [countOutside_concat, List.count_append, List.count_singleton]
    refine Nat.add_le_add ih ?_
    split_ifs <;> simp_all

end Text

open Text

/-! ## How far a scan has come -/

namespace Scan

theorem after_start (u : List Char) :
    start.after u = ⟨!decide (Even (u.count '"')), countOutside '(' u - countOutside ')' u⟩ := by
  induction u using List.reverseRecOn with
  | nil => rfl
  | append_singleton u c ih =>
    rw [after_append, ih, after_cons, after_nil, next, countOutside_concat, countOutside_concat,
      List.count_append, List.count_singleton]
    by_cases heven : Even (u.count '"')
    · by_cases hquote : c = '"'
      · subst hquote
        simp [Nat.even_add_one, heven]
      by_cases hopen : c = '('
      · subst hopen
        simp [heven]
        omega
      by_cases hclose : c = ')'
      · subst hclose
        simp [heven]
        omega
      simp [heven, hquote, hopen, hclose]
    · -- inside quotes nothing but a quote makes a difference
      by_cases hquote : c = '"'
      · subst hquote
        simp [Nat.even_add_one, heven]
      simp [heven, hquote]

/-- Only at its start a scan is outside quotes and parentheses. -/
theorem atTop_iff {s : Scan} : s.atTop = true ↔ s = start := by
  obtain ⟨quoted, depth⟩ := s
  cases quoted <;> simp [atTop, start]

theorem after_start_eq_start_iff {u : List Char} : start.after u = start ↔ IsLevel u := by
  rw [after_start, start, mk.injEq, IsLevel]
  simp only [Bool.not_eq_false', decide_eq_true_eq, Int.sub_eq_zero, Int.ofNat_inj]

/-- A scan is never deeper, nor further below its start, than there are parentheses. -/
theorem natAbs_depth_after_le (u : List Char) :
    (start.after u).depth.natAbs ≤ u.count '(' + u.count ')' := by
  have hopen := countOutside_le_count '(' u
  have hclose := countOutside_le_count ')' u
  rw [after_start]
  dsimp only
  omega

end Scan

/-! ## Cuts -/

/-- Whether a text is divided at a place: there is a comma, and what stands before it is level. -/
def IsCut (text : List Char) (i : Nat) : Prop :=
  text[i]? = some ',' ∧ IsLevel (text.take i)

instance (text : List Char) (i : Nat) : Decidable (IsCut text i) :=
  inferInstanceAs (Decidable (_ ∧ _))

/-- Whether a text is level and not divided anywhere. -/
structure IsWhole (p : List Char) : Prop where
  isLevel : IsLevel p
  not_isCut : ∀ i, ¬ IsCut p i

theorem isWhole_iff {p : List Char} : IsWhole p ↔ IsLevel p ∧ ∀ i < p.length, ¬ IsCut p i := by
  refine ⟨fun h => ⟨h.isLevel, fun i _ => h.not_isCut i⟩, fun ⟨hlevel, hcut⟩ => ⟨hlevel, ?_⟩⟩
  intro i hi
  exact hcut i (List.getElem?_eq_some_iff.1 hi.1).1 hi

instance (p : List Char) : Decidable (IsWhole p) :=
  decidable_of_iff _ isWhole_iff.symm

/-- The places of the commas between pieces, where the first piece begins at the place `n`. -/
def cutsFrom : Nat → List (List Char) → List Nat
  | n, p :: q :: more => (n + p.length) :: cutsFrom (n + p.length + 1) (q :: more)
  | _, _ => []

theorem cutsFrom_cons_cons (n : Nat) (c : Char) (p : List Char) (more : List (List Char)) :
    cutsFrom n ((c :: p) :: more) = cutsFrom (n + 1) (p :: more) := by
  cases more with
  | nil => rfl
  | cons q more => simp only [cutsFrom, List.length_cons, Nat.add_assoc, Nat.add_comm 1]

namespace Scan

theorem isCut_length_iff {before rest : List Char} {c : Char} :
    IsCut (before ++ c :: rest) before.length ↔ c = ',' ∧ (start.after before).atTop = true := by
  rw [IsCut, List.getElem?_append_right (Nat.le_refl _), Nat.sub_self, List.getElem?_cons_zero,
    List.take_left, Option.some.injEq, atTop_iff, after_start_eq_start_iff]

/-- What follows a text is divided at the cuts that both together have there. -/
theorem cutsFrom_pieces : ∀ u before : List Char,
    cutsFrom before.length ((start.after before).pieces u)
      = (List.range' before.length u.length).filter (IsCut (before ++ u))
  | [], before => rfl
  | c :: u, before => by
    have ih := cutsFrom_pieces u (before ++ [c])
    obtain ⟨piece, more, hu⟩ := exists_pieces_eq_cons ((start.after before).next c) u
    rw [after_append, after_cons, after_nil, hu, List.length_append, List.length_singleton,
      List.append_assoc, List.singleton_append] at ih
    rw [List.length_cons, List.range'_succ, List.filter_cons, ← ih]
    by_cases hcut : c = ',' ∧ (start.after before).atTop = true
    · have hplace : decide (IsCut (before ++ c :: u) before.length) = true :=
        decide_eq_true (isCut_length_iff.2 hcut)
      obtain ⟨rfl, htop⟩ := hcut
      rw [next_comma] at hu
      rw [pieces_cons_comma htop, hu, hplace]
      rfl
    · have hplace : decide (IsCut (before ++ c :: u) before.length) = false :=
        decide_eq_false (mt isCut_length_iff.1 hcut)
      rw [pieces_cons (by simpa using hcut) hu, hplace, cutsFrom_cons_cons]
      rfl

/-- With a comma between each two of them the pieces of a text are the text again. -/
theorem intercalate_pieces : ∀ (u : List Char) (s : Scan), [','].intercalate (s.pieces u) = u
  | [], _ => rfl
  | c :: u, s => by
    have ih := intercalate_pieces u (s.next c)
    obtain ⟨piece, more, hu⟩ := exists_pieces_eq_cons (s.next c) u
    rw [hu] at ih
    by_cases hcut : c = ',' ∧ s.atTop = true
    · obtain ⟨rfl, htop⟩ := hcut
      rw [next_comma] at hu
      rw [pieces_cons_comma htop, hu, List.intercalate_cons_cons, ih]
      rfl
    · rw [pieces_cons (by simpa using hcut) hu]
      cases more with
      | nil => simpa using ih
      | cons q more => simpa [List.intercalate_cons_cons] using ih

end Scan

/-! ## Argument lists -/

theorem splitArguments_of_not_allBlank {s : List Char} (h : Text.allBlank s = false) :
    splitArguments s = Scan.start.pieces s := by
  rw [splitArguments, h]
  rfl

theorem IsWhole.pieces_eq {p : List Char} (h : IsWhole p) : Scan.start.pieces p = [p] := by
  have hjoined := Scan.intercalate_pieces p Scan.start
  have hcuts : cutsFrom 0 (Scan.start.pieces p) = [] := by
    refine (Scan.cutsFrom_pieces p []).trans (List.filter_eq_nil_iff.2 fun i _ => ?_)
    simpa using h.not_isCut i
  obtain ⟨piece, more, hpieces⟩ := Scan.exists_pieces_eq_cons Scan.start p
  rw [hpieces] at hjoined hcuts ⊢
  cases more with
  | nil => rw [← hjoined, List.intercalate_singleton]
  | cons q more => cases hcuts

theorem pieces_intercalate : ∀ {ps : List (List Char)}, ps ≠ [] → (∀ p ∈ ps, IsWhole p) →
    Scan.start.pieces ([','].intercalate ps) = ps
  | [], hne, _ => absurd rfl hne
  | [p], _, h => by
    rw [List.intercalate_singleton]
    exact (h p List.mem_cons_self).pieces_eq
  | p :: q :: more, _, h => by
    have hp := h p List.mem_cons_self
    have hafter := Scan.after_start_eq_start_iff.2 hp.isLevel
    have ih := pieces_intercalate (List.cons_ne_nil q more)
      fun r hr => h r (List.mem_cons_of_mem p hr)
    rw [List.intercalate_cons_cons, List.append_assoc, List.singleton_append,
      Scan.pieces_append_comma (Scan.atTop_iff.2 hafter), hafter, hp.pieces_eq, ih]
    rfl

/-- Only a single piece can be blank, since a comma is not. -/
theorem allBlank_intercalate {ps : List (List Char)} (hne : ps ≠ [])
    (h : ∀ p, ps = [p] → Text.allBlank p = false) :
    Text.allBlank ([','].intercalate ps) = false := by
  match ps with
  | [] => exact absurd rfl hne
  | [p] =>
    rw [List.intercalate_singleton]
    exact h p rfl
  | p :: q :: more =>
    have hcomma : Text.isBlank ',' = false := rfl
    simp [List.intercalate_cons_cons, Text.allBlank, hcomma]

/-- An argument list that is not blank is divided at its cuts and nowhere else, and nothing of it is
lost.  What is written with commas between texts that are whole is divided into these.  And a scan
is never farther from its start than there are parentheses, so that fewer than `2 ^ 31` of them can
be counted in 32 bits. -/
theorem divides_at_cuts :
    (∀ s, Text.allBlank s = false →
        [','].intercalate (splitArguments s) = s
          ∧ cutsFrom 0 (splitArguments s) = (List.range s.length).filter (IsCut s))
      ∧ (∀ ps, ps ≠ [] → (∀ p, ps = [p] → Text.allBlank p = false) → (∀ p ∈ ps, IsWhole p) →
          splitArguments ([','].intercalate ps) = ps)
      ∧ ∀ s u, s.count '(' + s.count ')' < 2 ^ 31 → u <+: s →
          (Scan.start.after u).depth.natAbs < 2 ^ 31 := by
  refine ⟨fun s h => ?_, fun ps hne hblank h => ?_, fun s u hcount hu => ?_⟩
  · rw [splitArguments_of_not_allBlank h, List.range_eq_range']
    exact ⟨Scan.intercalate_pieces s Scan.start, Scan.cutsFrom_pieces s []⟩
  · rw [splitArguments_of_not_allBlank (allBlank_intercalate hne hblank)]
    exact pieces_intercalate hne h
  · have hopen := hu.sublist.count_le '('
    have hclose := hu.sublist.count_le ')'
    have hdepth := Scan.natAbs_depth_after_le u
    omega

/-- A comma below the start, one in quotes, and two that divide. -/
theorem divides_unmatched :
    Text.allBlank "x),1(,\"a,(\",é".toList = false
      ∧ [','].intercalate (splitArguments "x),1(,\"a,(\",é".toList) = "x),1(,\"a,(\",é".toList
      ∧ cutsFrom 0 (splitArguments "x),1(,\"a,(\",é".toList) = [5, 11]
      ∧ (∀ p ∈ ["x),1(".toList, "\"a,(\"".toList, ['é']], IsWhole p)
      ∧ splitArguments ([','].intercalate ["x),1(".toList, "\"a,(\"".toList, ['é']])
        = ["x),1(".toList, "\"a,(\"".toList, ['é']]
      ∧ (Scan.start.after ['x', ')']).depth.natAbs < 2 ^ 31 := by
  have hblank : Text.allBlank "x),1(,\"a,(\",é".toList = false := by decide
  have hwhole : ∀ p ∈ ["x),1(".toList, "\"a,(\"".toList, ['é']], IsWhole p := by decide
  obtain ⟨hjoined, hcuts⟩ := divides_at_cuts.1 _ hblank
  have hplaces : (List.range "x),1(,\"a,(\",é".toList.length).filter
      (IsCut "x),1(,\"a,(\",é".toList) = [5, 11] := by decide
  exact ⟨hblank, hjoined, hcuts.trans hplaces, hwhole,
    divides_at_cuts.2.1 _ (List.cons_ne_nil _ _) (fun p hp => by simp at hp) hwhole,
    divides_at_cuts.2.2 ['x', ')', ','] _ (by decide) ⟨[','], rfl⟩⟩

end Worksheet
