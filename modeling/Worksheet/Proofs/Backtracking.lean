import Worksheet.Proofs.Wildcards

/-!
# Matching as a loop

A pattern can be matched with a text in a loop that keeps a cursor in either of them and the place
of the last star it has met.  A round passes over a character of both, or over a star of the
pattern, or it goes back to the last star and gives it one more character of the text
(`Cursors.Moves`).  Then both cursors move back, and yet the loop ends: with every round a bound on
the rounds that are left gets smaller (`Cursors.Moves.roundsLeft_lt`).  What the loop is going to
say stays as it was (`Cursors.Moves.answer_eq`), and at the start it is what the pattern says of the
text.  So the loop says it too, after no more rounds than there are pairs of a place in the pattern
and a place in the text (`Cursors.run_start`).

Only the last star is kept.  Nothing is accepted wrongly for that, and in a text without stars
nothing is lost (`backtracking_ends_rightly`).
-/

namespace Worksheet.Glob

/-- How far the loop has come: what is left of the pattern and of the text and, once a star has been
met, the pattern behind the last one and the text from where it was matched last. -/
structure Cursors where
  pattern : List Char
  text : List Char
  lastStar : Option (List Char × List Char)

/-- What a round comes to: the answer, or cursors to go on from. -/
inductive Round where
  | ended (matched : Bool)
  | moved (c : Cursors)

namespace Cursors

def start (pattern text : List Char) : Cursors :=
  ⟨pattern, text, none⟩

/-- Gives the last star one more character. -/
def fallBack : Option (List Char × List Char) → Round
  | some (pattern, text) => .moved ⟨pattern, text.tail, some (pattern, text.tail)⟩
  | none => .ended false

/-- One round of the loop.  At the end of the text nothing but stars may be left of the pattern. -/
def round : Cursors → Round
  | ⟨pattern, [], _⟩ => .ended (pattern.all (· = '*'))
  | ⟨[], _ :: _, lastStar⟩ => fallBack lastStar
  | ⟨p :: pattern, c :: text, lastStar⟩ =>
    if p = '?' ∨ p = c then .moved ⟨pattern, text, lastStar⟩
    else if p = '*' then .moved ⟨pattern, c :: text, some (pattern, c :: text)⟩
    else fallBack lastStar

/-- The answer of the loop, if it comes within so many rounds. -/
def run : Nat → Cursors → Option Bool
  | 0, _ => none
  | n + 1, c =>
    match c.round with
    | .ended matched => some matched
    | .moved next => run n next

/-- What the loop is going to say: what matching says of the pattern that is left or, if it differs
from the text before the next star, of the last star with one more character. -/
def answer (c : Cursors) : Bool :=
  match step c.pattern c.text with
  | .finished matched => matched
  | .star pattern text => afterStar pattern text
  | .differs =>
    match c.lastStar with
    | some (pattern, text) => afterStar pattern text.tail
    | none => false

/-! ## One round -/

/-- The rounds that do not end the loop. -/
inductive Moves : Cursors → Cursors → Prop
  | pass {p c : Char} {pattern text : List Char} {lastStar : Option (List Char × List Char)}
      (h : p = '?' ∨ p = c) :
      Moves ⟨p :: pattern, c :: text, lastStar⟩ ⟨pattern, text, lastStar⟩
  | star {c : Char} {pattern text : List Char} {lastStar : Option (List Char × List Char)}
      (h : c ≠ '*') :
      Moves ⟨'*' :: pattern, c :: text, lastStar⟩
        ⟨pattern, c :: text, some (pattern, c :: text)⟩
  | back {c : Char} {pattern text p t : List Char} (h : step pattern (c :: text) = .differs) :
      Moves ⟨pattern, c :: text, some (p, t)⟩ ⟨p, t.tail, some (p, t.tail)⟩

variable {c next : Cursors}

/-- Where the pattern differs from the text, either the loop ends or the last star goes on. -/
theorem fallBack_cases {d : Char} {pattern text : List Char}
    (h : step pattern (d :: text) = .differs) (lastStar : Option (List Char × List Char)) :
    (∃ matched, fallBack lastStar = .ended matched
        ∧ answer ⟨pattern, d :: text, lastStar⟩ = matched)
      ∨ ∃ next, fallBack lastStar = .moved next ∧ Moves ⟨pattern, d :: text, lastStar⟩ next := by
  cases lastStar with
  | none => exact .inl ⟨false, rfl, by simp only [answer, h]⟩
  | some place => exact .inr ⟨_, rfl, .back h⟩

/-- A round says what the loop was going to say, or it is one of the moves. -/
theorem round_cases (c : Cursors) :
    (∃ matched, c.round = .ended matched ∧ c.answer = matched)
      ∨ ∃ next, c.round = .moved next ∧ Moves c next := by
  fun_cases round c with
  | case1 pattern lastStar => exact .inl ⟨_, rfl, by rw [answer, step]⟩
  | case2 d text lastStar => exact fallBack_cases rfl lastStar
  | case3 p pattern d text lastStar hpd => exact .inr ⟨_, rfl, .pass hpd⟩
  | case4 pattern d text lastStar hpd => exact .inr ⟨_, rfl, .star fun hd => hpd (.inr hd.symm)⟩
  | case5 p pattern d text lastStar hpd hp =>
    exact fallBack_cases (by rw [step, if_neg hpd, if_neg hp]) lastStar

/-- Where a star has just been met or given one more character, the loop is going to say what
matching says behind it. -/
theorem answer_lastStar (pattern text : List Char) :
    answer ⟨pattern, text, some (pattern, text)⟩ = afterStar pattern text := by
  fun_cases afterStar pattern text with
  | case1 _ matched h => simp only [answer, h]
  | case2 _ p t h => simp only [answer, h]
  | case3 h => simp [step] at h
  | case4 d rest h => simp only [answer, h, List.tail_cons]

theorem Moves.answer_eq (h : Moves c next) : next.answer = c.answer := by
  cases h with
  | pass h => simp only [answer, step, if_pos h]
  | @star d pattern text lastStar h =>
    have hmeet : step ('*' :: pattern) (d :: text) = .star pattern (d :: text) := by
      rw [step, if_neg (by simp [h.symm]), if_pos rfl]
    rw [answer_lastStar]
    simp only [answer, hmeet]
  | back h =>
    rw [answer_lastStar]
    simp only [answer, h]

/-! ## Rounds that are left -/

/-- The pattern and the text at the last star or, before the first one, at the cursors. -/
def lastPlace (c : Cursors) : List Char × List Char :=
  c.lastStar.getD (c.pattern, c.text)

/-- Whether the cursors are not before the last star, neither in the pattern nor in the text. -/
def IsBehind (c : Cursors) : Prop :=
  c.pattern.length ≤ c.lastPlace.1.length ∧ c.text.length ≤ c.lastPlace.2.length

/-- A bound on the rounds that are left.  What is left of the pattern takes a round for each
character and one to go back.  After that the last star can be given each character of the text from
where it was matched last, and each time the pattern behind it is left again. -/
def roundsLeft (c : Cursors) : Nat :=
  (c.pattern.length + 1) + (c.lastPlace.1.length + 1) * c.lastPlace.2.length

theorem isBehind_start (pattern text : List Char) : (start pattern text).IsBehind :=
  ⟨Nat.le_refl _, Nat.le_refl _⟩

theorem roundsLeft_start (pattern text : List Char) :
    (start pattern text).roundsLeft = (pattern.length + 1) * (text.length + 1) := by
  rw [Nat.mul_succ, Nat.add_comm]
  rfl

theorem Moves.isBehind (h : Moves c next) (hc : c.IsBehind) : next.IsBehind := by
  cases h with
  | @pass p d pattern text lastStar h =>
    cases lastStar with
    | none => exact ⟨Nat.le_refl _, Nat.le_refl _⟩
    | some place => exact ⟨Nat.le_of_succ_le hc.1, Nat.le_of_succ_le hc.2⟩
  | star | back => exact ⟨Nat.le_refl _, Nat.le_refl _⟩

/-- Every round but the last leaves fewer rounds than before. -/
theorem Moves.roundsLeft_lt (h : Moves c next) (hc : c.IsBehind) :
    next.roundsLeft < c.roundsLeft := by
  cases h with
  | @pass p d pattern text lastStar h =>
    cases lastStar with
    | none =>
      -- before the first star the place moves along with the cursors
      have hmul : (pattern.length + 1) * text.length
          ≤ (pattern.length + 1 + 1) * (text.length + 1) :=
        Nat.mul_le_mul (Nat.le_succ _) (Nat.le_succ _)
      exact Nat.add_lt_add_of_lt_of_le (Nat.lt_succ_self _) hmul
    | some place => exact Nat.add_lt_add_right (Nat.lt_succ_self _) _
  | @star d pattern text lastStar h =>
    have hmul := Nat.mul_le_mul (Nat.le_succ_of_le hc.1) hc.2
    exact Nat.add_lt_add_of_lt_of_le (Nat.lt_succ_self _) hmul
  | @back d pattern text p t h =>
    -- the cursor is in the text behind the place of the last star, so there is some
    obtain ⟨e, rest, rfl⟩ :=
      List.exists_cons_of_length_pos (Nat.lt_of_lt_of_le (Nat.succ_pos _) hc.2)
    calc (p.length + 1) + (p.length + 1) * rest.length
        = (p.length + 1) * (rest.length + 1) := by rw [Nat.mul_succ, Nat.add_comm]
      _ < (pattern.length + 1) + (p.length + 1) * (rest.length + 1) :=
        Nat.lt_add_of_pos_left (Nat.succ_pos _)

/-! ## Whole runs -/

theorem roundsLeft_pos (c : Cursors) : 0 < c.roundsLeft := by
  unfold roundsLeft
  omega

/-- However many rounds it takes, the loop says what it was going to say. -/
theorem answer_of_run : ∀ {n : Nat} {c : Cursors} {matched : Bool}, run n c = some matched →
    c.answer = matched
  | 0, _, _, h => by cases h
  | n + 1, c, matched, h => by
    rw [run] at h
    rcases c.round_cases with ⟨said, hround, hanswer⟩ | ⟨next, hround, hmoves⟩ <;> rw [hround] at h
    · rw [hanswer]
      exact Option.some.inj h
    · rw [← hmoves.answer_eq]
      exact answer_of_run h

theorem run_eq_some_answer : ∀ {n : Nat} {c : Cursors}, c.IsBehind → c.roundsLeft ≤ n →
    run n c = some c.answer
  | 0, c, _, hn => absurd hn (Nat.not_le_of_lt c.roundsLeft_pos)
  | n + 1, c, hc, hn => by
    rw [run]
    rcases c.round_cases with ⟨said, hround, hanswer⟩ | ⟨next, hround, hmoves⟩ <;> rw [hround]
    · rw [hanswer]
    · have hless := hmoves.roundsLeft_lt hc
      rw [← hmoves.answer_eq]
      exact run_eq_some_answer (hmoves.isBehind hc) (by omega)

theorem answer_start (pattern text : List Char) :
    (start pattern text).answer = accepts pattern text := rfl

theorem run_start {pattern text : List Char} {n : Nat}
    (hn : (pattern.length + 1) * (text.length + 1) ≤ n) :
    run n (start pattern text) = some (accepts pattern text) := by
  rw [← answer_start]
  exact run_eq_some_answer (isBehind_start pattern text) (by rwa [roundsLeft_start])

end Cursors

/-! ## Patterns without wildcards -/

theorem matchesTightly_iff_eq : ∀ {pattern text : List Char}, '*' ∉ pattern → '?' ∉ pattern →
    (MatchesTightly pattern text ↔ pattern = text)
  | [], text, _, _ => by
    refine ⟨fun h => ?_, fun h => h ▸ .nil⟩
    cases h
    rfl
  | p :: pattern, text, hstar, hone => by
    simp only [List.mem_cons, not_or] at hstar hone
    have ih : ∀ t, MatchesTightly pattern t ↔ pattern = t := fun t =>
      matchesTightly_iff_eq hstar.2 hone.2
    constructor
    · intro h
      cases h with
      | same _ h => rw [(ih _).1 h]
      | one => exact absurd rfl hone.1
      | star | many => exact absurd rfl hstar.1
    · rintro rfl
      exact .same ⟨Ne.symm hone.1, Ne.symm hstar.1⟩ ((ih _).2 rfl)

/-- The loop ends, after no more rounds than there are pairs of a place in the pattern and one in
the text, and says what matching says.  If that is yes the text comes from the pattern, and in a
text without stars it is yes whenever the text does.  A pattern without wildcards matches itself and
nothing else, so that it can be compared without a loop. -/
theorem backtracking_ends_rightly (pattern text : List Char) :
    (∀ n, (pattern.length + 1) * (text.length + 1) ≤ n →
        (Cursors.start pattern text).run n = some (accepts pattern text))
      ∧ (∀ n matched, (Cursors.start pattern text).run n = some matched →
          accepts pattern text = matched)
      ∧ (accepts pattern text = true → Matches pattern text)
      ∧ ('*' ∉ text → Matches pattern text → accepts pattern text = true)
      ∧ ('*' ∉ pattern → '?' ∉ pattern → (accepts pattern text = true ↔ pattern = text)) := by
  refine ⟨fun n hn => Cursors.run_start hn, fun n matched h => ?_, fun h => ?_, fun hstar h => ?_,
    fun hstar hone => ?_⟩
  · rw [← Cursors.answer_start, Cursors.answer_of_run h]
  · exact ((accepts_iff pattern text).1 h).matches
  · exact (accepts_iff pattern text).2 (h.tightly hstar)
  · rw [accepts_iff, matchesTightly_iff_eq hstar hone]

/-- The star is given three characters before the rest of the pattern fits. -/
theorem backtracking_last_fit :
    '*' ∉ ['b', 'b', 'a', 'b', 'c'] ∧ Matches ['*', 'b', '?'] ['b', 'b', 'a', 'b', 'c']
      ∧ accepts ['*', 'b', '?'] ['b', 'b', 'a', 'b', 'c'] = true
      ∧ (3 + 1) * (5 + 1) ≤ 24
      ∧ (Cursors.start ['*', 'b', '?'] ['b', 'b', 'a', 'b', 'c']).run 24 = some true
      ∧ '*' ∉ ['b', '!'] ∧ '?' ∉ ['b', '!']
      ∧ (accepts ['b', '!'] ['b', 'c'] = true ↔ ['b', '!'] = ['b', 'c']) := by
  have hstar : '*' ∉ ['b', 'b', 'a', 'b', 'c'] := by decide
  have hmatches : Matches ['*', 'b', '?'] ['b', 'b', 'a', 'b', 'c'] :=
    .many ['b', 'b', 'a'] (.same (by decide) (.one .nil))
  obtain ⟨hends, -, -, hfits, -⟩ :=
    backtracking_ends_rightly ['*', 'b', '?'] ['b', 'b', 'a', 'b', 'c']
  have haccepts := hfits hstar hmatches
  have hrun := hends 24 (Nat.le_refl _)
  rw [haccepts] at hrun
  have hplain := (backtracking_ends_rightly ['b', '!'] ['b', 'c']).2.2.2.2 (by decide) (by decide)
  exact ⟨hstar, hmatches, haccepts, Nat.le_refl _, hrun, by decide, by decide, hplain⟩

end Worksheet.Glob
