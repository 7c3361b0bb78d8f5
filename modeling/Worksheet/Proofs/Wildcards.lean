import Worksheet.Criterion

/-!
# What patterns match

A pattern is meant to match the texts that come from it when each star is replaced by some row of
characters and each question mark by one character (`Glob.Matches`).  Matching tries a character of
the text against the same character of the pattern before it looks for a star, so a star of the
pattern that meets a star of the text stands for that one and for nothing else
(`Glob.MatchesTightly`).  This is the only restriction (`Glob.accepts_iff`): giving more of the text
to the last star alone loses nothing, since whatever an earlier star could take the last one can
take as well (`Glob.afterStar_iff`).  So the texts that are wrongly passed over are those that match
only with a star of the pattern in place of more or less than the star that it meets, and none of
them is without a star (`Criterion.selectsByGlob_iff`).
-/

namespace Worksheet

namespace Glob

/-- Whether a text comes from a pattern by putting some row of characters in the place of each star
and one character in the place of each question mark. -/
inductive Matches : List Char → List Char → Prop
  | nil : Matches [] []
  | same {c : Char} {p t : List Char} (hc : c ≠ '?' ∧ c ≠ '*') (h : Matches p t) :
      Matches (c :: p) (c :: t)
  | one {c : Char} {p t : List Char} (h : Matches p t) : Matches ('?' :: p) (c :: t)
  | many {p t : List Char} (u : List Char) (h : Matches p t) : Matches ('*' :: p) (u ++ t)

/-- Whether a text comes from a pattern in this way and each star of the pattern that meets a star
of the text is replaced by just that one. -/
inductive MatchesTightly : List Char → List Char → Prop
  | nil : MatchesTightly [] []
  | same {c : Char} {p t : List Char} (hc : c ≠ '?' ∧ c ≠ '*') (h : MatchesTightly p t) :
      MatchesTightly (c :: p) (c :: t)
  | one {c : Char} {p t : List Char} (h : MatchesTightly p t) :
      MatchesTightly ('?' :: p) (c :: t)
  | star {p t : List Char} (h : MatchesTightly p t) : MatchesTightly ('*' :: p) ('*' :: t)
  | many {p t : List Char} (u : List Char) (hu : (u ++ t).head? ≠ some '*')
      (h : MatchesTightly p t) : MatchesTightly ('*' :: p) (u ++ t)

section Tightly

variable {p t : List Char}

theorem MatchesTightly.matches (h : MatchesTightly p t) : Matches p t := by
  induction h with
  | nil => exact .nil
  | same hc _ ih => exact .same hc ih
  | one _ ih => exact .one ih
  | star _ ih => exact .many ['*'] ih
  | many u _ _ ih => exact .many u ih

/-- In a text without stars there is nothing to restrict. -/
theorem Matches.tightly (h : Matches p t) (ht : '*' ∉ t) : MatchesTightly p t := by
  induction h with
  | nil => exact .nil
  | same hc _ ih => exact .same hc (ih (List.not_mem_of_not_mem_cons ht))
  | one _ ih => exact .one (ih (List.not_mem_of_not_mem_cons ht))
  | many u _ ih =>
    have hhead : ∀ s : List Char, '*' ∉ s → s.head? ≠ some '*' := fun s hs h =>
      hs (List.mem_of_mem_head? h)
    exact .many u (hhead _ ht) (ih fun hmem => ht (List.mem_append_right u hmem))

theorem matchesTightly_nil_iff : MatchesTightly p [] ↔ p.all (· = '*') = true := by
  constructor
  · generalize ht : ([] : List Char) = t
    intro h
    induction h with
    | nil => rfl
    | same => cases ht
    | one => cases ht
    | star => cases ht
    | many u _ _ ih => simpa using ih (List.append_eq_nil_iff.1 ht.symm).2.symm
  · induction p with
    | nil => exact fun _ => .nil
    | cons c p ih =>
      intro h
      simp only [List.all_cons, Bool.and_eq_true, decide_eq_true_eq] at h
      obtain ⟨rfl, hp⟩ := h
      exact .many [] (by simp) (ih hp)

theorem matchesTightly_cons_iff {q c : Char} (hqc : q = '?' ∨ q = c) :
    MatchesTightly (q :: p) (c :: t) ↔ MatchesTightly p t := by
  constructor
  · generalize hs : c :: t = s
    intro h
    cases h with
    | same _ h => cases hs; exact h
    | one h => cases hs; exact h
    | star h => cases hs; exact h
    | many u hu h =>
      rw [← hs] at hu
      rcases hqc with hq | rfl
      · simp at hq
      · simp at hu
  · intro h
    rcases hqc with rfl | rfl
    · exact .one h
    · by_cases hq : q = '?'
      · rw [hq]; exact .one h
      by_cases hs : q = '*'
      · rw [hs]; exact .star h
      exact .same ⟨hq, hs⟩ h

theorem MatchesTightly.exists_suffix_of_star (h : MatchesTightly ('*' :: p) t) :
    ∃ v, v <:+ t ∧ MatchesTightly p v := by
  cases h with
  | same hc => exact absurd rfl hc.2
  | star h => exact ⟨_, List.suffix_cons _ _, h⟩
  | many u _ h => exact ⟨_, List.suffix_append u _, h⟩

/-- A star that does not meet a star goes on from any end of the text. -/
theorem matchesTightly_star_iff (ht : t.head? ≠ some '*') :
    MatchesTightly ('*' :: p) t ↔ ∃ v, v <:+ t ∧ MatchesTightly p v := by
  refine ⟨MatchesTightly.exists_suffix_of_star, ?_⟩
  rintro ⟨v, ⟨u, rfl⟩, h⟩
  exact .many u ht h

/-- What matches an end of a text goes on, after its first item, from an end of the rest. -/
theorem MatchesTightly.exists_suffix {q c : Char} {v : List Char}
    (h : MatchesTightly (q :: p) v) (hqc : q = '?' ∨ q = c) (hv : v <:+ c :: t) :
    ∃ w, w <:+ t ∧ MatchesTightly p w := by
  rcases List.suffix_cons_iff.1 hv with rfl | hv
  · exact ⟨t, List.suffix_rfl, (matchesTightly_cons_iff hqc).1 h⟩
  · cases h with
    | same _ h => exact ⟨_, (List.suffix_cons _ _).trans hv, h⟩
    | one h => exact ⟨_, (List.suffix_cons _ _).trans hv, h⟩
    | star h => exact ⟨_, (List.suffix_cons _ _).trans hv, h⟩
    | many u _ h => exact ⟨_, (List.suffix_append u _).trans hv, h⟩

end Tightly

/-! ## One step -/

/-- What is left to match after a step. -/
def Step.Holds : Step → Prop
  | .finished matched => matched = true
  | .star p t => MatchesTightly ('*' :: p) t
  | .differs => False

/-- What is left to match after a step if the text may be cut off anywhere before. -/
def Step.HoldsLater : Step → Prop
  | .finished matched => matched = true
  | .star p t => ∃ v, v <:+ t ∧ MatchesTightly p v
  | .differs => True

theorem step_holds_iff (pattern text : List Char) :
    MatchesTightly pattern text ↔ (step pattern text).Holds := by
  fun_induction step pattern text with
  | case1 p => exact matchesTightly_nil_iff
  | case2 c t =>
    refine ⟨fun h => ?_, False.elim⟩
    cases h
  | case3 q p c t hqc ih => exact (matchesTightly_cons_iff hqc).trans ih
  | case4 p c t hne => rfl
  | case5 q p c t hne hstar =>
    refine ⟨?_, False.elim⟩
    generalize hs : c :: t = s
    intro h
    cases h with
    | same => cases hs; exact hne (.inr rfl)
    | one => exact hne (.inl rfl)
    | star => exact hstar rfl
    | many => exact hstar rfl

theorem head?_of_step_eq_star {pattern text p t : List Char} (h : step pattern text = .star p t) :
    t.head? ≠ some '*' := by
  fun_induction step pattern text with
  | case3 _ _ _ _ _ ih => exact ih h
  | case4 p c t hne =>
    simp only [Step.star.injEq] at h
    obtain ⟨rfl, rfl⟩ := h
    simpa using fun hc : c = '*' => hne (.inr hc.symm)
  | _ => simp at h

/-- Whatever end of a text a pattern matches, the part before the next star matches no earlier than
where it is found first. -/
theorem step_holdsLater {pattern text v : List Char} (hv : v <:+ text)
    (h : MatchesTightly pattern v) : (step pattern text).HoldsLater := by
  fun_induction step pattern text generalizing v with
  | case1 p =>
    rw [List.suffix_nil] at hv
    subst hv
    exact matchesTightly_nil_iff.1 h
  | case2 c t => trivial
  | case3 q p c t hqc ih =>
    obtain ⟨w, hw, hp⟩ := h.exists_suffix hqc hv
    exact ih hw hp
  | case4 p c t hne =>
    obtain ⟨w, hw, hp⟩ := h.exists_suffix_of_star
    exact ⟨w, hw.trans hv, hp⟩
  | case5 q p c t hne hstar => trivial

/-! ## The whole matching -/

/-- After a star it is enough to take the first place where the part before the next star fits. -/
theorem afterStar_iff (pattern text : List Char) :
    afterStar pattern text = true ↔ ∃ v, v <:+ text ∧ MatchesTightly pattern v := by
  fun_induction afterStar pattern text with
  | case1 pattern text matched hstep =>
    have hholds := step_holds_iff pattern text
    rw [hstep] at hholds
    refine ⟨fun h => ⟨text, List.suffix_rfl, hholds.2 h⟩, fun ⟨v, hv, h⟩ => ?_⟩
    have hlater := step_holdsLater hv h
    rwa [hstep] at hlater
  | case2 pattern text p t hstep ih =>
    have hholds := step_holds_iff pattern text
    rw [hstep] at hholds
    rw [ih, ← matchesTightly_star_iff (head?_of_step_eq_star hstep)]
    refine ⟨fun h => ⟨text, List.suffix_rfl, hholds.2 h⟩, fun ⟨v, hv, h⟩ => ?_⟩
    have hlater := step_holdsLater hv h
    rw [hstep] at hlater
    exact (matchesTightly_star_iff (head?_of_step_eq_star hstep)).2 hlater
  | case3 pattern hstep => simp [step] at hstep
  | case4 pattern c rest hstep ih =>
    have hholds := step_holds_iff pattern (c :: rest)
    rw [hstep] at hholds
    rw [ih]
    refine ⟨fun ⟨v, hv, h⟩ => ⟨v, hv.trans (List.suffix_cons c rest), h⟩, fun ⟨v, hv, h⟩ => ?_⟩
    rcases List.suffix_cons_iff.1 hv with rfl | hv
    · exact absurd h hholds.1
    · exact ⟨v, hv, h⟩

theorem accepts_iff (pattern text : List Char) :
    accepts pattern text = true ↔ MatchesTightly pattern text := by
  have hholds := step_holds_iff pattern text
  unfold accepts
  rcases hstep : step pattern text with matched | ⟨p, t⟩ | _ <;> rw [hstep] at hholds
  · exact hholds.symm
  · rw [hholds, afterStar_iff]
    exact (matchesTightly_star_iff (head?_of_step_eq_star hstep)).symm
  · exact ⟨fun h => absurd h Bool.false_ne_true, fun h => absurd h hholds.1⟩

end Glob

/-! ## Text criteria -/

namespace Criterion

/-- The small form of the text of a value, which patterns are matched against. -/
def form (v : Value) : List Char :=
  Text.lower v.toText.toList

/-- What a criterion with a pattern is meant to be: it selects the values whose small form comes
from the pattern, or the others if it is negated. -/
def SelectsByGlob (criterion v : Value) : Prop :=
  ∀ p negated, ofValue criterion = .pattern p negated →
    ((ofValue criterion).selects v = !negated ↔ Glob.Matches p (form v))

theorem selects_pattern_iff (p : List Char) (negated : Bool) (v : Value) :
    (pattern p negated).selects v = !negated ↔ Glob.MatchesTightly p (form v) := by
  have hselects : (pattern p negated).selects v = (Glob.accepts p (form v) != negated) := by
    cases v <;> rfl
  rw [hselects, ← Glob.accepts_iff]
  cases negated <;> simp

/-- A criterion with a pattern goes by it, but for the values that match only with a star in place
of something else than the star that it meets.  There are none whose text has no star. -/
theorem selectsByGlob_iff (criterion v : Value) :
    (SelectsByGlob criterion v ↔ ∀ p negated, ofValue criterion = .pattern p negated →
        Glob.Matches p (form v) → Glob.MatchesTightly p (form v))
      ∧ (∀ p negated, ofValue criterion = .pattern p negated →
          ((ofValue criterion).selects v = !negated ↔ Glob.MatchesTightly p (form v)))
      ∧ ('*' ∉ form v → SelectsByGlob criterion v) := by
  have htight : ∀ p negated, ofValue criterion = .pattern p negated →
      ((ofValue criterion).selects v = !negated ↔ Glob.MatchesTightly p (form v)) := by
    intro p negated h
    rw [h]
    exact selects_pattern_iff p negated v
  have hiff : SelectsByGlob criterion v ↔ ∀ p negated, ofValue criterion = .pattern p negated →
      Glob.Matches p (form v) → Glob.MatchesTightly p (form v) := by
    refine ⟨fun hglob p negated h hmatches => ?_, fun h p negated hp => ?_⟩
    · exact (htight p negated h).1 ((hglob p negated h).2 hmatches)
    · rw [htight p negated hp]
      exact ⟨Glob.MatchesTightly.matches, h p negated hp⟩
  exact ⟨hiff, htight, fun hstar => hiff.2 fun p _ _ hmatches => hmatches.tightly hstar⟩

/-- A star alone passes over a text that begins with a star and goes on. -/
theorem not_selectsByGlob_star :
    ¬ SelectsByGlob (.text "*") (.text "*x")
      ∧ (ofValue (.text "*")).selects (.text "*x") = false := by
  have hselects : (ofValue (.text "*")).selects (.text "*x") = false := by decide
  refine ⟨fun hglob => ?_, hselects⟩
  have hmatches : Glob.Matches ['*'] (form (.text "*x")) := .many ['*', 'x'] .nil
  have htrue := (hglob ['*'] false rfl).2 hmatches
  rw [hselects] at htrue
  cases htrue

end Criterion

end Worksheet
