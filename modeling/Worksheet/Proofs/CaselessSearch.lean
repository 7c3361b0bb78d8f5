import Worksheet.Proofs.Finding

/-!
# Searching without regard to case

A search without regard to case looks for the small form of one text in that of another, and its
result is a position in the small form.  The characters of a text keep their places in its small
form unless one of them is a dotted capital I, which takes two characters
(`Text.length_lowerAfter`).  The small form of what is left from a place on can then still differ at
a capital sigma, which is final only where something stands before it (`Text.drop_lowerAfter`).
These two are all that can go wrong (`searchesIn_iff`).
-/

namespace Worksheet

namespace Text

/-! ## Small forms -/

/-- The small form of a character between others, those before it with the nearest first. -/
def smallForm (before : List Char) (c : Char) (rest : List Char) : List Char :=
  if c = 'Σ' then if casedAhead before && !casedAhead rest then ['ς'] else ['σ'] else lowerChar c

variable {before before' s rest w : List Char} {c : Char}

theorem lowerAfter_cons :
    lowerAfter before (c :: rest) = smallForm before c rest ++ lowerAfter (c :: before) rest :=
  rfl

theorem smallForm_of_ne (hc : c ≠ 'Σ') : smallForm before c rest = lowerChar c :=
  if_neg hc

theorem smallForm_sigma : smallForm before 'Σ' rest
    = if casedAhead before && !casedAhead rest then ['ς'] else ['σ'] :=
  if_pos rfl

theorem casedAhead_append (h : casedAhead s = true) (r : List Char) :
    casedAhead (s ++ r) = true := by
  unfold casedAhead at h ⊢
  rw [List.dropWhile_append]
  cases hs : s.dropWhile isCaseIgnorable with
  | nil =>
    rw [hs] at h
    cases h
  | cons c more =>
    rw [hs] at h
    exact h

theorem toNat_eq_iff_dotted : c.toNat = 304 ↔ c = 'İ' := by
  rw [← Char.toNat_inj]
  rfl

/-- Only the dotted capital I takes two characters. -/
theorem length_smallForm (before : List Char) (c : Char) (rest : List Char) :
    (smallForm before c rest).length = 1 + if c = 'İ' then 1 else 0 := by
  by_cases hsigma : c = 'Σ'
  · subst hsigma
    rw [smallForm_sigma]
    split_ifs <;> first | rfl | contradiction
  · rw [smallForm_of_ne hsigma, lowerChar]
    simp only [toNat_eq_iff_dotted]
    split_ifs
    · rfl
    · split <;> rfl

theorem length_lowerAfter (before s : List Char) :
    (lowerAfter before s).length = s.length + s.count 'İ' := by
  induction s generalizing before with
  | nil => rfl
  | cons c rest ih =>
    rw [lowerAfter_cons, List.length_append, length_smallForm, ih, List.length_cons,
      List.count_cons]
    simp only [beq_iff_eq]
    omega

/-- Without dotted capital I the small form goes on from a place with that of what is left, given
all that stands before it. -/
theorem drop_lowerAfter (hs : 'İ' ∉ s) (k : Nat) :
    (lowerAfter before s).drop k = lowerAfter ((s.take k).reverse ++ before) (s.drop k) := by
  induction s generalizing before k with
  | nil => simp [lowerAfter]
  | cons c rest ih =>
    rw [List.mem_cons, not_or] at hs
    cases k with
    | zero => rfl
    | succ k =>
      have hlength := length_smallForm before c rest
      rw [if_neg (Ne.symm hs.1)] at hlength
      rw [lowerAfter_cons, Nat.add_comm, ← List.drop_drop, List.drop_left' hlength, ih hs.2,
        Nat.add_comm, List.take_succ_cons, List.drop_succ_cons, List.reverse_cons,
        List.append_assoc, List.singleton_append]

/-- What stands further ahead can only make a capital sigma final. -/
theorem smallForm_append (before : List Char) (c : Char) (rest further : List Char) :
    smallForm (before ++ further) c rest = smallForm before c rest
      ∨ smallForm (before ++ further) c rest = ['ς']
        ∧ c = 'Σ' ∧ casedAhead (before ++ further) = true ∧ casedAhead rest = false := by
  by_cases hsigma : c = 'Σ'
  · subst hsigma
    rw [smallForm_sigma, smallForm_sigma]
    rcases hfurther : casedAhead (before ++ further) with _ | _
    · have hbefore : casedAhead before = false := by
        by_contra hcased
        rw [casedAhead_append (Bool.not_eq_false _ ▸ hcased)] at hfurther
        cases hfurther
      rw [hbefore]
      exact Or.inl rfl
    · rcases casedAhead rest with _ | _
      · exact Or.inr ⟨rfl, rfl, rfl, rfl⟩
      · simp
  · rw [smallForm_of_ne hsigma, smallForm_of_ne hsigma]
    exact Or.inl rfl

theorem isPrefix_lowerAfter_of_append (before : List Char) {further : List Char} (hw : 'ς' ∉ w)
    (h : w <+: lowerAfter (before ++ further) s) : w <+: lowerAfter before s := by
  induction s generalizing before w with
  | nil => exact h
  | cons c rest ih =>
    rw [lowerAfter_cons] at h ⊢
    rcases smallForm_append before c rest further with heq | ⟨hfinal, -⟩
    · rw [heq] at h
      rcases List.prefix_or_prefix_of_prefix h (List.prefix_append _ _) with hle | ⟨v, rfl⟩
      · exact hle.trans (List.prefix_append _ _)
      · rw [List.prefix_append_right_inj] at h ⊢
        exact ih _ (fun hv => hw (List.mem_append_right _ hv)) h
    · rw [hfinal, List.singleton_append, List.prefix_cons_iff] at h
      rcases h with rfl | ⟨v, rfl, -⟩
      · exact List.nil_prefix
      · exact absurd List.mem_cons_self hw

/-- Whether no capital sigma of `s` is final where `before` stands before it, the nearest first. -/
def IsMedial (before s : List Char) : Prop :=
  ∀ x y, s = x ++ 'Σ' :: y → casedAhead (x.reverse ++ before) = true → casedAhead y = true

theorem lowerAfter_append_of_isMedial (before : List Char) {further : List Char}
    (h : IsMedial (before ++ further) s) :
    lowerAfter (before ++ further) s = lowerAfter before s := by
  induction s generalizing before with
  | nil => rfl
  | cons c rest ih =>
    rw [lowerAfter_cons, lowerAfter_cons]
    rcases smallForm_append before c rest further with heq | ⟨-, rfl, hcased, hnot⟩
    · rw [heq, ← List.cons_append, ih (c :: before)]
      intro x y hxy hcased
      refine h (c :: x) y (by rw [hxy, List.cons_append]) ?_
      rw [List.reverse_cons, List.append_assoc]
      exact hcased
    · rw [h [] rest rfl hcased] at hnot
      cases hnot

theorem IsMedial.drop (h : IsMedial [] s) (k : Nat) :
    IsMedial (s.take k).reverse (s.drop k) := by
  intro x y hxy hcased
  refine h (s.take k ++ x) y ?_ ?_
  · rw [List.append_assoc, ← hxy, List.take_append_drop]
  · rw [List.append_nil, List.reverse_append]
    exact hcased

end Text

/-- Whether the characters of a text keep their places and their small forms when the text is cut
off before one of them. -/
structure KeepsPlaces (text : List Char) : Prop where
  undotted : 'İ' ∉ text
  medial : Text.IsMedial [] text

namespace Text

theorem drop_lower {text : List Char} (h : KeepsPlaces text) (k : Nat) :
    (lower text).drop k = lower (text.drop k) := by
  rw [lower, drop_lowerAfter h.undotted, List.append_nil]
  exact lowerAfter_append_of_isMedial [] (h.medial.drop k)

theorem isPrefix_lower_drop {text : List Char} (htext : 'İ' ∉ text) (hw : 'ς' ∉ w) {k : Nat}
    (h : w <+: (lower text).drop k) : w <+: lower (text.drop k) := by
  rw [lower, drop_lowerAfter htext, List.append_nil] at h
  exact isPrefix_lowerAfter_of_append [] hw h

end Text

open Expression Functions

/-- What it is for a search without regard to case to come to a position in the text itself: from
there on the text begins with the other one but for case, and so does what is cut out there. -/
structure SearchesIn (t : Table) (now : Moment) (needle text : List Char) : Prop where
  position : ∀ (a b : Expression) (rest : List Expression) (x y : Float),
    ReadsSearch t now a b rest needle text x →
    (call .search (a :: b :: rest)).evaluate t now = .scalar (.number y) →
    ∃ p : Nat, y = Float.ofNat p ∧ 1 ≤ p ∧ Number.toInt x ≤ p ∧ p ≤ text.length + 1
      ∧ Text.lower needle <+: Text.lower (text.drop (p - 1))
  cutOut : ∀ (a b : Expression) (rest : List Expression) (x y : Float),
    ReadsSearch t now a b rest needle text x →
    (call .search (a :: b :: rest)).evaluate t now = .scalar (.number y) →
    ∃ s, (call .mid [b, call .search (a :: b :: rest), call .len [b]]).evaluate t now
        = .scalar (.text (String.ofList s))
      ∧ Text.lower needle <+: Text.lower s

section Search

variable {t : Table} {now : Moment} {needle text : List Char}

theorem length_lower_lt (hlength : text.length < 2 ^ 52) :
    (Text.lower text).length + 1 < 2 ^ 53 := by
  have hcount := List.count_le_length (a := 'İ') (l := text)
  rw [Text.lower, Text.length_lowerAfter]
  omega

/-- A text can be looked for from any position of the small form on, and is found there if it is
there. -/
theorem evaluate_search_at (t : Table) (now : Moment) {k : Nat} (hk : k ≤ (Text.lower text).length)
    (hlt : k + 1 < 2 ^ 53) (hat : Text.lower needle <+: (Text.lower text).drop k) :
    ∃ a b rest, ReadsSearch t now a b rest needle text (Float.ofNat (k + 1))
      ∧ (call .search (a :: b :: rest)).evaluate t now
        = .scalar (.number (Float.ofNat (k + 1))) := by
  have hreads : ReadsSearch t now (.text (String.ofList needle)) (.text (String.ofList text))
      [number (Float.ofNat (k + 1))] needle text (Float.ofNat (k + 1)) :=
    ⟨readsText_text needle, readsText_text text, Nat.le_refl 1,
      (readsNumber_number _).numberOr rfl 1.0⟩
  have hleast :
      IsLeast {p | k + 1 ≤ p ∧ BeginsAt (Text.lower needle) (Text.lower text) p} (k + 1) :=
    ⟨⟨Nat.le_refl _, hat⟩, fun p hp => hp.1⟩
  refine ⟨_, _, _, hreads, ?_⟩
  rw [evaluate_findBy hreads (show Builtin.search.form? = some Text.lower from rfl),
    Number.toSize_ofNat hlt,
    (positionFrom?_eq_some_iff (Nat.succ_pos k) (Nat.add_le_add_right hk 1)).2 hleast]
  rfl

variable (hlength : text.length < 2 ^ 52)

include hlength

/-- What is found is found in the small form, not before the start. -/
theorem exists_of_evaluate_search_eq {a b : Expression} {rest : List Expression} {x y : Float}
    (hreads : ReadsSearch t now a b rest needle text x)
    (hfound : (call .search (a :: b :: rest)).evaluate t now = .scalar (.number y)) :
    ∃ k : Nat, y = Float.ofNat (k + 1) ∧ Number.toInt x ≤ k + 1 ∧ k ≤ (Text.lower text).length
      ∧ Text.lower needle <+: (Text.lower text).drop k := by
  have hbound := length_lower_lt hlength
  obtain ⟨p, rfl, hp⟩ := exists_of_evaluate_findBy_eq hreads
    (show Builtin.search.form? = some Text.lower from rfl) hfound
  obtain ⟨⟨hle, hat⟩, -⟩ := isLeast_of_positionFrom? hp
  have hstart := start_of_positionFrom? hp
  have hend := add_length_of_positionFrom? hp
  rw [Number.toSize_eq_min] at hstart hle
  exact ⟨p - 1, by rw [Nat.sub_add_cancel (by omega)], by omega, by omega, hat⟩

theorem SearchesIn.of_forall
    (h : ∀ k ≤ (Text.lower text).length, Text.lower needle <+: (Text.lower text).drop k →
      k ≤ text.length ∧ Text.lower needle <+: Text.lower (text.drop k)) :
    SearchesIn t now needle text where
  position := fun a b rest x y hreads hfound => by
    obtain ⟨k, rfl, hx, hk, hat⟩ := exists_of_evaluate_search_eq hlength hreads hfound
    obtain ⟨hle, hat'⟩ := h k hk hat
    exact ⟨k + 1, rfl, Nat.succ_pos k, hx, Nat.succ_le_succ hle, hat'⟩
  cutOut := fun a b rest x y hreads hfound => by
    obtain ⟨k, rfl, -, hk, hat⟩ := exists_of_evaluate_search_eq hlength hreads hfound
    obtain ⟨hle, hat'⟩ := h k hk hat
    refine ⟨_, evaluate_mid hreads.text (by omega) (readsCount_of_evaluate_eq (by omega) hfound)
      (readsCount_of_evaluate_eq (by omega) (evaluate_len hreads.text)) (Nat.succ_pos k), ?_⟩
    rw [Nat.add_sub_cancel, List.take_of_length_le (by rw [List.length_drop]; omega)]
    exact hat'

theorem SearchesIn.forall (h : SearchesIn t now needle text) {k : Nat}
    (hk : k ≤ (Text.lower text).length)
    (hat : Text.lower needle <+: (Text.lower text).drop k) :
    k ≤ text.length ∧ Text.lower needle <+: Text.lower (text.drop k) := by
  have hbound := length_lower_lt hlength
  obtain ⟨a, b, rest, hreads, hfound⟩ := evaluate_search_at t now hk (by omega) hat
  obtain ⟨p, hp, -, -, hle, hpat⟩ := h.position a b rest _ _ hreads hfound
  rw [Number.ofNat_inj (by omega) (by omega)] at hp
  subst hp
  exact ⟨by omega, hpat⟩

/-- The empty text is found at the end of the small form, which is past that of a text with a
dotted capital I. -/
theorem SearchesIn.undotted (h : SearchesIn t now [] text) : 'İ' ∉ text := by
  intro hmem
  have hcount := List.count_pos_iff.2 hmem
  have hend := (h.forall hlength (Nat.le_refl _) List.nil_prefix).1
  rw [Text.lower, Text.length_lowerAfter] at hend
  omega

/-- A final sigma is found where a capital one is final, which it is not when the text is cut off
before it. -/
theorem SearchesIn.isMedial (h : SearchesIn t now ['ς'] text) (hundotted : 'İ' ∉ text) :
    Text.IsMedial [] text := by
  intro x y hxy hcased
  by_contra hnot
  rw [Bool.not_eq_true] at hnot
  rw [List.append_nil] at hcased
  have hneedle : Text.lower ['ς'] = ['ς'] := by decide
  have hle : x.length ≤ (Text.lower text).length := by
    rw [Text.lower, Text.length_lowerAfter, hxy, List.length_append]
    omega
  have hat : Text.lower ['ς'] <+: (Text.lower text).drop x.length := by
    rw [hneedle, Text.lower, Text.drop_lowerAfter hundotted, hxy, List.take_left, List.drop_left,
      List.append_nil, Text.lowerAfter_cons, Text.smallForm_sigma, hcased, hnot]
    exact List.prefix_append _ _
  have hbad := (h.forall hlength hle hat).2
  rw [hneedle, hxy, List.drop_left] at hbad
  have hsigma : 'ς' = 'σ' := (List.cons_prefix_cons.1 hbad).1
  exact absurd hsigma (by decide)

end Search

/-- A search without regard to case comes to positions in the text, whatever it looks for, exactly
if the characters of the text keep their places.  In a text without dotted capital I it still does
so for everything whose small form has no final sigma. -/
theorem searchesIn_iff (t : Table) (now : Moment) {text : List Char}
    (hlength : text.length < 2 ^ 52) :
    ((∀ needle, SearchesIn t now needle text) ↔ KeepsPlaces text)
      ∧ ('İ' ∉ text → ∀ needle, 'ς' ∉ Text.lower needle → SearchesIn t now needle text) := by
  have hplaces : 'İ' ∉ text → (Text.lower text).length = text.length := fun hundotted => by
    rw [Text.lower, Text.length_lowerAfter, List.count_eq_zero.2 hundotted, Nat.add_zero]
  refine ⟨⟨fun h => ?_, fun h needle => ?_⟩, fun h needle hneedle => ?_⟩
  · have hundotted := (h []).undotted hlength
    exact ⟨hundotted, (h ['ς']).isMedial hlength hundotted⟩
  · refine .of_forall hlength fun k hk hat => ⟨hplaces h.undotted ▸ hk, ?_⟩
    rw [← Text.drop_lower h]
    exact hat
  · exact .of_forall hlength fun k hk hat =>
      ⟨hplaces h ▸ hk, Text.isPrefix_lower_drop h hneedle hat⟩

theorem searchesIn_sharp : ['S', 't', 'r', 'a', 'ß', 'e'].length < 2 ^ 52
    ∧ ∀ needle, SearchesIn .empty (.midnight .epoch) needle ['S', 't', 'r', 'a', 'ß', 'e'] := by
  have hsigma : 'Σ' ∉ ['S', 't', 'r', 'a', 'ß', 'e'] := by decide
  refine ⟨by decide, (searchesIn_iff .empty (.midnight .epoch) (by decide)).1.2 ⟨by decide, ?_⟩⟩
  intro x y hxy
  exact absurd (hxy ▸ List.mem_append_right x List.mem_cons_self) hsigma

/-- What comes after a dotted capital I is found one position later than it is, and from there on
the text does not begin with it. -/
theorem not_searchesIn_dotted :
    ¬ SearchesIn .empty (.midnight .epoch) ['b'] ['İ', 'b']
      ∧ evaluate .empty 64 (.midnight .epoch) "=SEARCH(\"b\",\"İb\")"
        = .computed (.number 3.0) := by
  refine ⟨fun h => ?_, rfl⟩
  have hat : Text.lower ['b'] <+: (Text.lower ['İ', 'b']).drop 2 := by decide
  exact absurd (h.forall (by decide) (by decide) hat).2 (by decide)

end Worksheet
