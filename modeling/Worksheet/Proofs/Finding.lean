import Worksheet.Proofs.Cutting

/-!
# Finding a text in another one

The search for a text comes to the least position, not before the one where it begins, at which the
other text goes on with it (`Functions.positionFrom?_eq_some_iff`).  A start that is no position
of the text is refused, and a start that is too large for a size lies past every text that can be
held (`Expression.evaluate_findBy`).  So the text is found where it is, its next occurrence is found
by beginning one position later, and cutting as many characters out there gives it back
(`finds_least`).
-/

namespace Worksheet

open Functions

/-- Whether a text goes on with another one at a position, the first position being 1. -/
def BeginsAt (needle text : List Char) (p : Nat) : Prop :=
  needle <+: text.drop (p - 1)

namespace Functions

/-! ## The search -/

variable {needle text : List Char}

theorem indexOf?_eq_some_iff {i : Nat} :
    indexOf? needle text = some i ↔ needle <+: text.drop i ∧ ∀ j < i, ¬ needle <+: text.drop j := by
  induction text generalizing i with
  | nil =>
    by_cases hneedle : needle = []
    · subst hneedle
      cases i with
      | zero => simp [indexOf?]
      | succ i => simpa [indexOf?] using ⟨0, Nat.zero_le i⟩
    · simp [indexOf?, hneedle]
  | cons c rest ih =>
    rw [indexOf?]
    split_ifs with hhere <;> rw [List.isPrefixOf_iff_prefix] at hhere
    · constructor
      · rintro ⟨⟩
        exact ⟨hhere, by simp⟩
      · rintro ⟨-, hnot⟩
        cases i with
        | zero => rfl
        | succ i => exact absurd hhere (hnot 0 (Nat.succ_pos i))
    · rw [Option.map_eq_some_iff]
      constructor
      · rintro ⟨i, hi, rfl⟩
        obtain ⟨hat, hnot⟩ := ih.1 hi
        refine ⟨hat, fun j hj => ?_⟩
        cases j with
        | zero => exact hhere
        | succ j => exact hnot j (by omega)
      · rintro ⟨hat, hnot⟩
        cases i with
        | zero => exact absurd hat hhere
        | succ i => exact ⟨i, ih.2 ⟨hat, fun j hj => hnot (j + 1) (by omega)⟩, rfl⟩

/-- The search comes to the least position from the start on. -/
theorem positionFrom?_eq_some_iff {start p : Nat} (hpos : 1 ≤ start)
    (hstart : start ≤ text.length + 1) :
    positionFrom? needle text start = some p
      ↔ IsLeast {p | start ≤ p ∧ BeginsAt needle text p} p := by
  have hdrop : ∀ i, (text.drop (start - 1)).drop i = text.drop (start + i - 1) := by
    intro i
    rw [List.drop_drop]
    congr 1
    omega
  rw [positionFrom?, if_neg (by omega), Option.map_eq_some_iff]
  constructor
  · rintro ⟨i, hi, rfl⟩
    obtain ⟨hat, hnot⟩ := indexOf?_eq_some_iff.1 hi
    rw [hdrop] at hat
    refine ⟨⟨Nat.le_add_right start i, hat⟩, fun q ⟨hq, hqat⟩ => ?_⟩
    by_contra hlt
    refine hnot (q - start) (by omega) ?_
    rw [hdrop, Nat.add_sub_cancel' hq]
    exact hqat
  · rintro ⟨⟨hp, hat⟩, hleast⟩
    refine ⟨p - start, indexOf?_eq_some_iff.2 ⟨?_, fun j hj hjat => ?_⟩, Nat.add_sub_cancel' hp⟩
    · rw [hdrop, Nat.add_sub_cancel' hp]
      exact hat
    · rw [hdrop] at hjat
      have hle := hleast ⟨Nat.le_add_right start j, hjat⟩
      omega

theorem positionFrom?_eq_none_iff {start : Nat} : positionFrom? needle text start = none
    ↔ ¬ (1 ≤ start ∧ start ≤ text.length + 1 ∧ ∃ p, start ≤ p ∧ BeginsAt needle text p) := by
  classical
  constructor
  · rintro hnone ⟨hpos, hstart, hex⟩
    have hleast : IsLeast {p | start ≤ p ∧ BeginsAt needle text p} (Nat.find hex) :=
      ⟨Nat.find_spec hex, fun q hq => Nat.find_min' hex hq⟩
    rw [(positionFrom?_eq_some_iff hpos hstart).2 hleast] at hnone
    cases hnone
  · intro h
    by_cases hstart : 1 ≤ start ∧ start ≤ text.length + 1
    · refine Option.eq_none_iff_forall_ne_some.2 fun p hp => h ⟨hstart.1, hstart.2, p, ?_⟩
      exact ((positionFrom?_eq_some_iff hstart.1 hstart.2).1 hp).1
    · rw [positionFrom?, if_pos (by omega)]

section Found

variable {start p : Nat} (h : positionFrom? needle text start = some p)

include h

theorem start_of_positionFrom? : 1 ≤ start ∧ start ≤ text.length + 1 := by
  by_contra hnot
  rw [positionFrom?, if_pos (by omega)] at h
  cases h

theorem isLeast_of_positionFrom? : IsLeast {p | start ≤ p ∧ BeginsAt needle text p} p :=
  (positionFrom?_eq_some_iff (start_of_positionFrom? h).1 (start_of_positionFrom? h).2).1 h

/-- What is found ends inside the text. -/
theorem add_length_of_positionFrom? : p + needle.length ≤ text.length + 1 := by
  obtain ⟨⟨-, hat⟩, hleast⟩ := isLeast_of_positionFrom? h
  have hstart := start_of_positionFrom? h
  have hlength := hat.length_le
  rw [List.length_drop] at hlength
  rcases Nat.eq_zero_or_pos needle.length with hzero | hpos
  · have hnil : BeginsAt needle text start := by
      rw [List.length_eq_zero_iff.1 hzero]
      exact List.nil_prefix
    have := hleast ⟨Nat.le_refl start, hnil⟩
    omega
  · omega

end Found

end Functions

/-! ## Calls -/

/-- The form in which a function compares texts, if it looks for one in another. -/
def Builtin.form? : Builtin → Option (List Char → List Char)
  | .find => some id
  | .search => some Text.lower
  | _ => none

/-- What a search comes to: a position, or `#VALUE!`. -/
def foundValue : Option Nat → Value
  | some p => .number (Float.ofNat p)
  | none => .error .badValue

namespace Functions

/-- A start below 1 is no position, so that refusing it first decides nothing. -/
theorem findBy_eq {form : List Char → List Char} {args : List Argument} {needle text : List Char}
    {x : Float} (hneedle : textAt args 0 = .ok needle) (htext : textAt args 1 = .ok text)
    (hx : numberOr args 2 1.0 = .ok x) : settle (findBy form args)
      = foundValue (positionFrom? (form needle) (form text) (Number.toSize x)) := by
  rw [findBy, hneedle, htext, hx]
  simp only [bind, Except.bind]
  split_ifs with hlow
  · have hint := Number.toInt_lt_one hlow
    have hsize : Number.toSize x = 0 := by
      rw [Number.toSize_eq_min]
      omega
    rw [hsize, positionFrom?_eq_none_iff.2 (by omega)]
    rfl
  · rcases positionFrom? (form needle) (form text) (Number.toSize x) with _ | p <;> rfl

end Functions

namespace Expression

variable {t : Table} {now : Moment}

/-- Whether a call that looks for `a` in `b` is read as looking for a text in another one from a
start on.  Without a third argument it starts at 1. -/
structure ReadsSearch (t : Table) (now : Moment) (a b : Expression) (rest : List Expression)
    (needle text : List Char) (x : Float) : Prop where
  needle : a.ReadsText t now needle
  text : b.ReadsText t now text
  atMostOne : rest.length ≤ 1
  start : numberOr (rest.map (evaluate t now)) 0 1.0 = .ok x

section Search

variable {a b : Expression} {rest : List Expression} {needle text : List Char} {x : Float}
  (h : ReadsSearch t now a b rest needle text x)

include h

theorem evaluate_findBy {f : Builtin} {form : List Char → List Char} (hf : f.form? = some form) :
    (call f (a :: b :: rest)).evaluate t now
      = .scalar (foundValue (positionFrom? (form needle) (form text) (Number.toSize x))) := by
  have hvalue : ∀ args, f.value now args = settle (findBy form args) := by
    intro args
    cases f <;> cases hf <;> rfl
  have hne : f ≠ .ifElse := by rintro rfl; cases hf
  have harity : f.arity = ⟨2, some 3⟩ := by cases f <;> first | rfl | cases hf
  have hlength : (a :: b :: rest).length ≤ 3 := Nat.add_le_add_right h.atMostOne 2
  have hused : (a :: b :: rest).length ≤ f.arity.used (a :: b :: rest).length := by
    rw [harity]
    exact Nat.le_min.2 ⟨Nat.le_refl _, hlength⟩
  rw [evaluate_call_eq_value (by rw [harity]; simp) hused hne, hvalue,
    findBy_eq ((readsText_iff rfl).1 h.needle) ((readsText_iff rfl).1 h.text) h.start]

theorem evaluate_find : (call .find (a :: b :: rest)).evaluate t now
    = .scalar (foundValue (positionFrom? needle text (Number.toSize x))) :=
  evaluate_findBy h (show Builtin.find.form? = some id from rfl)

theorem evaluate_find_of_isLeast (hlength : text.length < 2 ^ 63) (hlow : 1 ≤ Number.toInt x)
    (hhigh : Number.toInt x ≤ text.length + 1) {p : Nat}
    (hp : IsLeast {p : Nat | Number.toInt x ≤ p ∧ BeginsAt needle text p} p) :
    (call .find (a :: b :: rest)).evaluate t now = .scalar (.number (Float.ofNat p)) := by
  have hsize : Number.toSize x = (Number.toInt x).toNat := by
    rw [Number.toSize_eq_min]
    omega
  have hset : {p : Nat | Number.toInt x ≤ p ∧ BeginsAt needle text p}
      = {p | Number.toSize x ≤ p ∧ BeginsAt needle text p} := by
    ext p
    simp only [Set.mem_ofPred_eq, hsize, Int.toNat_le]
  rw [hset] at hp
  rw [evaluate_find h, (positionFrom?_eq_some_iff (by omega) (by omega)).2 hp]
  rfl

theorem evaluate_find_eq_badValue (hlength : text.length < 2 ^ 63)
    (hnone : ¬ (1 ≤ Number.toInt x ∧ Number.toInt x ≤ text.length + 1
      ∧ ∃ p : Nat, Number.toInt x ≤ p ∧ BeginsAt needle text p)) :
    (call .find (a :: b :: rest)).evaluate t now = .scalar (.error .badValue) := by
  rw [evaluate_find h, positionFrom?_eq_none_iff.2]
  · rfl
  · rintro ⟨hlow, hhigh, p, hp, hat⟩
    rw [Number.toSize_eq_min] at hlow hhigh hp
    exact hnone ⟨by omega, by omega, p, by omega, hat⟩

theorem exists_of_evaluate_findBy_eq {f : Builtin} {form : List Char → List Char}
    (hf : f.form? = some form) {y : Float}
    (hfound : (call f (a :: b :: rest)).evaluate t now = .scalar (.number y)) :
    ∃ p, y = Float.ofNat p
      ∧ positionFrom? (form needle) (form text) (Number.toSize x) = some p := by
  rw [evaluate_findBy h hf] at hfound
  rcases hp : positionFrom? (form needle) (form text) (Number.toSize x) with _ | p <;>
    rw [hp] at hfound
  · cases hfound
  · cases hfound
    exact ⟨p, rfl, rfl⟩

section Found

variable {y : Float} (hfound : (call .find (a :: b :: rest)).evaluate t now = .scalar (.number y))

include hfound

theorem exists_of_evaluate_find_eq :
    ∃ p, y = Float.ofNat p ∧ positionFrom? needle text (Number.toSize x) = some p :=
  exists_of_evaluate_findBy_eq h (show Builtin.find.form? = some id from rfl) hfound

/-- What is cut out where a text is found is the text. -/
theorem evaluate_mid_find (hlength : text.length + 1 < 2 ^ 53) :
    (call .mid [b, call .find (a :: b :: rest), call .len [a]]).evaluate t now
      = .scalar (.text (String.ofList needle)) := by
  obtain ⟨p, rfl, hp⟩ := exists_of_evaluate_find_eq h hfound
  obtain ⟨⟨hle, hat⟩, -⟩ := isLeast_of_positionFrom? hp
  have hstart := start_of_positionFrom? hp
  have hend := add_length_of_positionFrom? hp
  rw [evaluate_mid h.text (by omega) (readsCount_of_evaluate_eq (by omega) hfound)
    (readsCount_of_evaluate_eq (by omega) (evaluate_len h.needle)) (by omega),
    ← List.prefix_iff_eq_take.1 hat]

/-- Beginning one position after what was found, the next occurrence is found, or there is none. -/
theorem evaluate_find_next (hlength : text.length + 1 < 2 ^ 53) {rest' : List Expression}
    {x' : Float} (h' : ReadsSearch t now a b rest' needle text x')
    (hnext : Number.toInt x' = Number.toInt y + 1) :
    (∀ q : Nat, Number.toInt x ≤ q → q ≤ text.length + 1 → BeginsAt needle text q →
      q ≠ Number.toInt y →
      ∃ p : Nat, (call .find (a :: b :: rest')).evaluate t now = .scalar (.number (Float.ofNat p))
        ∧ Number.toInt y < p ∧ p ≤ q ∧ BeginsAt needle text p)
    ∧ ((∀ q : Nat, Number.toInt y < q → q ≤ text.length + 1 → ¬ BeginsAt needle text q) →
      (call .find (a :: b :: rest')).evaluate t now = .scalar (.error .badValue)) := by
  obtain ⟨p, rfl, hp⟩ := exists_of_evaluate_find_eq h hfound
  obtain ⟨⟨hle, hat⟩, hleast⟩ := isLeast_of_positionFrom? hp
  have hend := add_length_of_positionFrom? hp
  have hint := Number.toInt_ofNat (n := p) (by omega)
  rw [hint] at hnext ⊢
  have hsize : Number.toSize x' = p + 1 := by
    rw [Number.toSize_eq_min]
    omega
  rw [evaluate_find h', hsize]
  constructor
  · intro q hxq hq hqat hne
    have hstart : Number.toSize x ≤ q := by
      rw [Number.toSize_eq_min]
      omega
    have hpq : p ≤ q := hleast ⟨hstart, hqat⟩
    have hex : ∃ r, p + 1 ≤ r ∧ BeginsAt needle text r := ⟨q, by omega, hqat⟩
    rcases hr : positionFrom? needle text (p + 1) with _ | r
    · exact absurd ⟨by omega, by omega, hex⟩ (positionFrom?_eq_none_iff.1 hr)
    · obtain ⟨⟨hpr, hrat⟩, hrleast⟩ := isLeast_of_positionFrom? hr
      exact ⟨r, rfl, by omega, hrleast ⟨by omega, hqat⟩, hrat⟩
  · intro hnone
    rcases hr : positionFrom? needle text (p + 1) with _ | r
    · rfl
    · obtain ⟨⟨hpr, hrat⟩, -⟩ := isLeast_of_positionFrom? hr
      have hrend := add_length_of_positionFrom? hr
      exact absurd hrat (hnone r (by omega) (by omega))

end Found

end Search

end Expression

open Expression in
/-- What it is for a search to find the least position: if the start is a position of the text and
the other text goes on from some position after it, the least such position is found, and otherwise
nothing is.  What is cut out where a text is found is that text, and no occurrence is skipped when
the search goes on one position later.  A text in memory has fewer than `2 ^ 63` characters, and a
position below `2 ^ 53` is a number without being rounded. -/
structure FindsLeast (t : Table) (now : Moment) : Prop where
  least : ∀ (a b : Expression) (rest : List Expression) (needle text : List Char) (x : Float),
    ReadsSearch t now a b rest needle text x → text.length < 2 ^ 63 → 1 ≤ Number.toInt x →
    Number.toInt x ≤ text.length + 1 → ∀ p : Nat,
    IsLeast {p : Nat | Number.toInt x ≤ p ∧ BeginsAt needle text p} p →
    (call .find (a :: b :: rest)).evaluate t now = .scalar (.number (Float.ofNat p))
  missing : ∀ (a b : Expression) (rest : List Expression) (needle text : List Char) (x : Float),
    ReadsSearch t now a b rest needle text x → text.length < 2 ^ 63 →
    ¬ (1 ≤ Number.toInt x ∧ Number.toInt x ≤ text.length + 1
      ∧ ∃ p : Nat, Number.toInt x ≤ p ∧ BeginsAt needle text p) →
    (call .find (a :: b :: rest)).evaluate t now = .scalar (.error .badValue)
  cutOut : ∀ (a b : Expression) (rest : List Expression) (needle text : List Char) (x y : Float),
    ReadsSearch t now a b rest needle text x → text.length + 1 < 2 ^ 53 →
    (call .find (a :: b :: rest)).evaluate t now = .scalar (.number y) →
    (call .mid [b, call .find (a :: b :: rest), call .len [a]]).evaluate t now
      = .scalar (.text (String.ofList needle))
  next : ∀ (a b : Expression) (rest rest' : List Expression) (needle text : List Char)
    (x x' y : Float), ReadsSearch t now a b rest needle text x →
    ReadsSearch t now a b rest' needle text x' → text.length + 1 < 2 ^ 53 →
    (call .find (a :: b :: rest)).evaluate t now = .scalar (.number y) →
    Number.toInt x' = Number.toInt y + 1 →
    (∀ q : Nat, Number.toInt x ≤ q → q ≤ text.length + 1 → BeginsAt needle text q →
      q ≠ Number.toInt y →
      ∃ p : Nat, (call .find (a :: b :: rest')).evaluate t now = .scalar (.number (Float.ofNat p))
        ∧ Number.toInt y < p ∧ p ≤ q ∧ BeginsAt needle text p)
    ∧ ((∀ q : Nat, Number.toInt y < q → q ≤ text.length + 1 → ¬ BeginsAt needle text q) →
      (call .find (a :: b :: rest')).evaluate t now = .scalar (.error .badValue))

theorem finds_least (t : Table) (now : Moment) : FindsLeast t now where
  least := fun _ _ _ _ _ _ h hlength hlow hhigh _ =>
    Expression.evaluate_find_of_isLeast h hlength hlow hhigh
  missing := fun _ _ _ _ _ _ => Expression.evaluate_find_eq_badValue
  cutOut := fun _ _ _ _ _ _ _ h hlength hfound => Expression.evaluate_mid_find h hfound hlength
  next := fun _ _ _ _ _ _ _ _ _ h h' hlength hfound =>
    Expression.evaluate_find_next h hfound hlength h'

open Expression in
/-- In a text with an accented letter at both ends the first one is found and cut out again, the
search after it comes to the other one, and a search past that to none. -/
theorem finds_accents :
    (call .find [.text "é", .text "été"]).evaluate Table.empty (.midnight .epoch)
        = .scalar (.number (Float.ofNat 1))
      ∧ (call .mid [.text "été", call .find [.text "é", .text "été"],
          call .len [.text "é"]]).evaluate Table.empty (.midnight .epoch) = .scalar (.text "é")
      ∧ (∃ p : Nat, (call .find [.text "é", .text "été", number 2.0]).evaluate Table.empty
            (.midnight .epoch) = .scalar (.number (Float.ofNat p))
          ∧ 1 < p ∧ p ≤ 3 ∧ BeginsAt ['é'] ['é', 't', 'é'] p)
      ∧ (call .find [.text "é", .text "été", number 4.0]).evaluate Table.empty (.midnight .epoch)
        = .scalar (.error .badValue) := by
  have hfinds := finds_least Table.empty (.midnight .epoch)
  have hneedle : (text "é").ReadsText Table.empty (.midnight .epoch) ['é'] := readsText_text _
  have htext : (text "été").ReadsText Table.empty (.midnight .epoch) ['é', 't', 'é'] :=
    readsText_text _
  have hreads : ReadsSearch Table.empty (.midnight .epoch) (.text "é") (.text "été") [] ['é']
      ['é', 't', 'é'] 1.0 := ⟨hneedle, htext, by decide, rfl⟩
  have hreads' : ∀ x, ReadsSearch Table.empty (.midnight .epoch) (.text "é") (.text "été")
      [number x] ['é'] ['é', 't', 'é'] x := fun x =>
    ⟨hneedle, htext, Nat.le_refl 1, (readsNumber_number x).numberOr rfl 1.0⟩
  have hone : Number.toInt 1.0 = 1 := by decide +kernel
  have htwo : Number.toInt 2.0 = 2 := by decide +kernel
  have hfour : Number.toInt 4.0 = 4 := by decide +kernel
  have hfirst := hfinds.least _ _ _ _ _ _ hreads (by decide) (by omega) (by omega) 1
    ⟨⟨by omega, ['t', 'é'], rfl⟩, fun q hq => by have hstart := hq.1; omega⟩
  have hfound : Number.toInt (Float.ofNat 1) = 1 := hone
  have hnext := hfinds.next _ _ _ _ _ _ _ _ _ hreads (hreads' 2.0) (by decide) hfirst
    (by rw [htwo, hfound]; rfl)
  refine ⟨hfirst, hfinds.cutOut _ _ _ _ _ _ _ hreads (by decide) hfirst, ?_, ?_⟩
  · obtain ⟨p, hp, hlt, hle, hat⟩ := hnext.1 3 (by omega) (by decide) ⟨[], rfl⟩ (by omega)
    exact ⟨p, hp, by omega, hle, hat⟩
  · refine hfinds.missing _ _ _ _ _ _ (hreads' 4.0) (by decide) ?_
    rintro ⟨-, -, p, hp, hat⟩
    have hlength := hat.length_le
    simp only [List.length_drop, List.length_cons, List.length_nil] at hlength
    omega

end Worksheet
