import Worksheet.Proofs.CaseForms
import Worksheet.Proofs.Readings

/-!
# Words with a capital

Letters and numerals make up a word, whose first letter gets its capital form and the others their
small ones.  The forms of a text follow on each other, so a second pass changes the text exactly if
it changes one of the forms where it stands (`capitalize_capitalize_iff`).  It can do so in two
ways.  In a capital form of several letters only the first one begins a word for the second pass;
and behind a form that ends in a mark, which is no letter, the next letter begins a word for the
second pass but not for the first one.  Nothing else goes wrong, and nothing at all in a text that
gets no longer (`proper_settles_iff`).
-/

namespace Worksheet

namespace Functions

open Text

/-! ## Words -/

/-- Whether a letter behind `c` begins a word. -/
def endsWord (c : Char) : Bool :=
  !isLetter c && !isNumeral c

/-- Whether a letter behind `s` begins a word, if `b` says so for one before it. -/
def beginsWord (b : Bool) (s : List Char) : Bool :=
  s.foldl (fun _ c => endsWord c) b

/-- The form of a character in a text with capitals at the beginning of words. -/
def wordForm (b : Bool) (c : Char) : List Char :=
  if isLetter c then if b then upperChar c else lowerChar c else [c]

variable {b b' : Bool} {c d : Char} {s x y : List Char}

theorem capitalize_cons : capitalize b (c :: s) = wordForm b c ++ capitalize (endsWord c) s := by
  rcases hc : isLetter c with _ | _ <;> simp [capitalize, wordForm, endsWord, hc]

theorem capitalize_singleton : capitalize b [c] = wordForm b c := by
  rw [capitalize_cons, capitalize, List.append_nil]

theorem beginsWord_append : beginsWord b (x ++ y) = beginsWord (beginsWord b x) y :=
  List.foldl_append

theorem beginsWord_concat : beginsWord b (s ++ [c]) = endsWord c :=
  beginsWord_append

theorem capitalize_append :
    capitalize b (x ++ y) = capitalize b x ++ capitalize (beginsWord b x) y := by
  induction x generalizing b with
  | nil => rfl
  | cons c rest ih =>
    rw [List.cons_append, capitalize_cons, capitalize_cons, ih, List.append_assoc]
    rfl

theorem wordForm_ne_nil (b : Bool) (c : Char) : wordForm b c ≠ [] := by
  unfold wordForm
  split_ifs
  · exact upperChar_ne_nil c
  · exact lowerChar_ne_nil c
  · exact List.cons_ne_nil c []

theorem length_le_length_capitalize (b : Bool) (s : List Char) :
    s.length ≤ (capitalize b s).length := by
  induction s generalizing b with
  | nil => exact Nat.le_refl 0
  | cons c rest ih =>
    have hform := List.length_pos_iff.2 (wordForm_ne_nil b c)
    have hrest := ih (endsWord c)
    rw [capitalize_cons, List.length_append, List.length_cons]
    omega

/-- No pass makes a part of a text shorter, so it keeps the text only if it keeps the parts. -/
theorem capitalize_append_eq_iff :
    capitalize b (x ++ y) = x ++ y ↔ capitalize b x = x ∧ capitalize (beginsWord b x) y = y := by
  rw [capitalize_append]
  refine ⟨fun h => List.append_inj h ?_, fun ⟨hx, hy⟩ => by rw [hx, hy]⟩
  have hlength := congrArg List.length h
  rw [List.length_append, List.length_append] at hlength
  have hx := length_le_length_capitalize b x
  have hy := length_le_length_capitalize (beginsWord b x) y
  omega

/-! ## Places in a text -/

theorem forall_place_cons_iff {P : List Char → Char → Prop} :
    (∀ u d, u ++ [d] <+: c :: s → P u d) ↔ P [] c ∧ ∀ u d, u ++ [d] <+: s → P (c :: u) d := by
  constructor
  · refine fun h => ⟨h [] c (List.prefix_append [c] s), fun u d hd => h (c :: u) d ?_⟩
    exact List.cons_prefix_cons.2 ⟨rfl, hd⟩
  · rintro ⟨hc, hs⟩ u d hd
    cases u with
    | nil =>
      obtain rfl : d = c := (List.cons_prefix_cons.1 hd).1
      exact hc
    | cons a u =>
      obtain ⟨rfl, hrest⟩ := List.cons_prefix_cons.1 hd
      exact hs u d hrest

theorem capitalize_eq_self_iff :
    capitalize b s = s ↔ ∀ u c, u ++ [c] <+: s → wordForm (beginsWord b u) c = [c] := by
  induction s generalizing b with
  | nil => simp [capitalize]
  | cons c rest ih =>
    rw [forall_place_cons_iff, ← List.singleton_append, capitalize_append_eq_iff,
      capitalize_singleton, ih]
    rfl

/-- A second pass keeps the forms that the first one has given exactly if it keeps each of them
where it stands. -/
theorem capitalize_capitalize_iff :
    capitalize b' (capitalize b s) = capitalize b s ↔ ∀ u c, u ++ [c] <+: s →
      capitalize (beginsWord b' (capitalize b u)) (wordForm (beginsWord b u) c)
        = wordForm (beginsWord b u) c := by
  induction s generalizing b b' with
  | nil => simp [capitalize]
  | cons c rest ih =>
    rw [forall_place_cons_iff, capitalize_cons, capitalize_append_eq_iff, ih]
    simp only [capitalize_cons, beginsWord_append]
    rfl

/-! ## What a second pass changes -/

/-- Whether every word of a text begins with a capital form and has small ones for the rest. -/
structure IsProper (s : List Char) : Prop where
  capital : ∀ u c, u ++ [c] <+: s → isLetter c = true → beginsWord true u = true → upperChar c = [c]
  small : ∀ u c, u ++ [c] <+: s → isLetter c = true → beginsWord true u = false → lowerChar c = [c]

/-- Whether those forms that begin a word for the second pass are proper by themselves: the capital
form of a letter that begins a word, and the small form of one that does not but is behind a form
that ends a word. -/
structure SettlesAtOnce (s : List Char) : Prop where
  capital : ∀ u c, u ++ [c] <+: s → isLetter c = true → beginsWord true u = true →
    IsProper (upperChar c)
  small : ∀ u c, u ++ [c] <+: s → isLetter c = true → beginsWord true u = false →
    beginsWord true (capitalize true u) = true → IsProper (lowerChar c)

theorem wordForm_of_not_isLetter (hc : isLetter c = false) : wordForm b c = [c] := by
  rw [wordForm, hc]
  rfl

theorem wordForm_of_isLetter (hc : isLetter c = true) :
    wordForm b c = if b then upperChar c else lowerChar c := by
  rw [wordForm, if_pos hc]

theorem not_isLetter_of_endsWord (h : endsWord c = true) : isLetter c = false := by
  rw [endsWord, Bool.and_eq_true, Bool.not_eq_true'] at h
  exact h.1

theorem isProper_iff : IsProper s ↔ capitalize true s = s := by
  rw [capitalize_eq_self_iff]
  constructor
  · intro h u c hc
    rcases hletter : isLetter c with _ | _
    · exact wordForm_of_not_isLetter hletter
    · rw [wordForm_of_isLetter hletter]
      split_ifs with hb
      · exact h.capital u c hc hletter hb
      · exact h.small u c hc hletter (Bool.not_eq_true _ ▸ hb)
  · intro h
    refine ⟨fun u c hc hletter hb => ?_, fun u c hc hletter hb => ?_⟩
    · have hform := h u c hc
      rwa [wordForm_of_isLetter hletter, if_pos hb] at hform
    · have hform := h u c hc
      rwa [wordForm_of_isLetter hletter, hb] at hform

/-- What begins a word for the first pass does so for the second one. -/
theorem beginsWord_capitalize (h : beginsWord true s = true) :
    beginsWord true (capitalize true s) = true := by
  rcases List.eq_nil_or_concat s with rfl | ⟨u, c, rfl⟩
  · rfl
  · rw [List.concat_eq_append, beginsWord_concat] at h
    rw [List.concat_eq_append, capitalize_append, capitalize_singleton,
      wordForm_of_not_isLetter (not_isLetter_of_endsWord h), beginsWord_concat, h]

theorem capitalize_lowerChar (c : Char) : capitalize false (lowerChar c) = lowerChar c := by
  rcases lowerChar_dotted_or_singleton c with h | ⟨d, h⟩
  · rw [h]
    decide
  · rw [h, capitalize_singleton]
    rcases hletter : isLetter d with _ | _
    · exact wordForm_of_not_isLetter hletter
    · rw [wordForm_of_isLetter hletter]
      exact lowerChar_of_lowerChar h

theorem capitalize_wordForm_iff {u : List Char} :
    capitalize (beginsWord true (capitalize true u)) (wordForm (beginsWord true u) c)
        = wordForm (beginsWord true u) c
      ↔ (isLetter c = true → beginsWord true u = true → IsProper (upperChar c))
        ∧ (isLetter c = true → beginsWord true u = false →
          beginsWord true (capitalize true u) = true → IsProper (lowerChar c)) := by
  rw [isProper_iff, isProper_iff]
  rcases hletter : isLetter c with _ | _
  · simp [wordForm_of_not_isLetter hletter, capitalize_singleton]
  rw [wordForm_of_isLetter hletter]
  -- the passes can only differ in that a word begins for the second one alone
  rcases hfirst : beginsWord true u with _ | _
  · rcases beginsWord true (capitalize true u) with _ | _
    · simp [capitalize_lowerChar]
    · simp
  · rw [beginsWord_capitalize hfirst]
    simp

theorem settlesAtOnce_iff :
    SettlesAtOnce s ↔ capitalize true (capitalize true s) = capitalize true s := by
  simp only [capitalize_capitalize_iff, capitalize_wordForm_iff]
  exact ⟨fun h u c hc => ⟨h.capital u c hc, h.small u c hc⟩,
    fun h => ⟨fun u c hc => (h u c hc).1, fun u c hc => (h u c hc).2⟩⟩

/-! ## Texts that keep their length -/

theorem length_wordForm_of_length_eq (hs : (capitalize true s).length = s.length) {u : List Char}
    (hc : u ++ [c] <+: s) :
    (capitalize true u).length = u.length ∧ (wordForm (beginsWord true u) c).length = 1 := by
  obtain ⟨v, rfl⟩ := hc
  rw [capitalize_append, capitalize_append, capitalize_singleton] at hs
  have hu := length_le_length_capitalize true u
  have hform := List.length_pos_iff.2 (wordForm_ne_nil (beginsWord true u) c)
  have hv := length_le_length_capitalize (beginsWord true (u ++ [c])) v
  simp only [List.length_append, List.length_singleton] at hs
  omega

theorem isLetter_of_wordForm (hc : isLetter c = true) (h : wordForm b c = [d]) :
    isLetter d = true := by
  rw [wordForm_of_isLetter hc] at h
  cases b with
  | false => exact isLetter_of_lowerChar hc h
  | true => exact isLetter_of_upperChar hc h

/-- Behind single characters a word begins for the second pass only where one does for the first. -/
theorem beginsWord_of_length_eq (hs : (capitalize true s).length = s.length)
    (h : beginsWord true (capitalize true s) = true) : beginsWord true s = true := by
  rcases List.eq_nil_or_concat s with rfl | ⟨u, c, rfl⟩
  · rfl
  rw [List.concat_eq_append] at hs h ⊢
  obtain ⟨d, hd⟩ := List.length_eq_one_iff.1
    (length_wordForm_of_length_eq hs (List.prefix_refl (u ++ [c]))).2
  rw [capitalize_append, capitalize_singleton, hd, beginsWord_concat] at h
  rw [beginsWord_concat]
  rcases hletter : isLetter c with _ | _
  · rw [wordForm_of_not_isLetter hletter, List.singleton_inj] at hd
    rwa [hd]
  · have hdletter := isLetter_of_wordForm hletter hd
    rw [not_isLetter_of_endsWord h] at hdletter
    cases hdletter

theorem settlesAtOnce_of_length_eq (hs : (capitalize true s).length = s.length) :
    SettlesAtOnce s where
  capital := by
    intro u c hc hletter hfirst
    obtain ⟨d, hd⟩ := List.length_eq_one_iff.1 (length_wordForm_of_length_eq hs hc).2
    rw [hfirst, wordForm_of_isLetter hletter, if_pos rfl] at hd
    rw [isProper_iff, hd, capitalize_singleton,
      wordForm_of_isLetter (isLetter_of_upperChar hletter hd)]
    exact upperChar_of_upperChar hd
  small := by
    intro u c hc _ hinside hmark
    rw [beginsWord_of_length_eq (length_wordForm_of_length_eq hs hc).1 hmark] at hinside
    cases hinside

end Functions

open Expression Functions

variable {t : Table} {now : Moment} {e : Expression} {text : List Char}

theorem evaluate_proper (h : e.ReadsText t now text) :
    (call .proper [e]).evaluate t now
      = .scalar (.text (String.ofList (capitalize true text))) := by
  rw [evaluate_call_eq_value (by exact Nat.le_refl 1) (by exact Nat.le_refl 1) (by decide),
    Builtin.value, proper, List.map_singleton, (readsText_iff rfl).1 h]
  rfl

/-- PROPER changes its own result no more, and every word of that result is proper, exactly for the
texts that settle at once.  Every text that PROPER makes no longer is one of them. -/
theorem proper_settles_iff (h : e.ReadsText t now text) :
    ((call .proper [call .proper [e]]).evaluate t now = (call .proper [e]).evaluate t now
      ↔ SettlesAtOnce text)
    ∧ (∃ s, (call .proper [e]).evaluate t now = .scalar (.text (String.ofList s))
      ∧ (IsProper s ↔ SettlesAtOnce text))
    ∧ ((capitalize true text).length = text.length → SettlesAtOnce text) := by
  have hproper := evaluate_proper h
  have hagain := evaluate_proper (readsText_of_evaluate_eq hproper)
  refine ⟨?_, ⟨_, hproper, isProper_iff.trans settlesAtOnce_iff.symm⟩, settlesAtOnce_of_length_eq⟩
  rw [hagain, hproper, settlesAtOnce_iff, Argument.scalar.injEq, Value.text.injEq,
    String.ofList_inj]

theorem proper_settles_street : (Expression.text "neue STRAßE 2B").ReadsText .empty
      (.midnight .epoch) "neue STRAßE 2B".toList
    ∧ (call .proper [.text "neue STRAßE 2B"]).evaluate .empty (.midnight .epoch)
      = .scalar (.text "Neue Straße 2b")
    ∧ SettlesAtOnce "neue STRAßE 2B".toList := by
  have hreads : (Expression.text "neue STRAßE 2B").ReadsText .empty (.midnight .epoch)
      "neue STRAßE 2B".toList := readsText_text "neue STRAßE 2B".toList
  refine ⟨hreads, (evaluate_proper hreads).trans (by rfl), (proper_settles_iff hreads).2.2 ?_⟩
  decide

/-- A ligature at the beginning of a word becomes two capitals, of which one is left.  And the mark
of a dotted capital I inside a word stands before the next letter as the end of a word. -/
theorem not_proper_settles : ¬ SettlesAtOnce "ﬁsh".toList ∧ ¬ SettlesAtOnce "aİb".toList
    ∧ (call .proper [.text "ﬁsh"]).evaluate .empty (.midnight .epoch) = .scalar (.text "FIsh")
    ∧ (call .proper [call .proper [.text "ﬁsh"]]).evaluate .empty (.midnight .epoch)
      = .scalar (.text "Fish") := by
  have honce : capitalize true "ﬁsh".toList = "FIsh".toList := by decide +kernel
  have htwice : capitalize true "FIsh".toList = "Fish".toList := by decide
  have hreads : (Expression.text "ﬁsh").ReadsText .empty (.midnight .epoch) "ﬁsh".toList :=
    readsText_text "ﬁsh".toList
  have hproper := evaluate_proper hreads
  have hagain := evaluate_proper (readsText_of_evaluate_eq hproper)
  rw [honce] at hproper hagain
  rw [htwice] at hagain
  refine ⟨fun h => ?_, fun h => ?_, hproper, hagain⟩
  · rw [settlesAtOnce_iff, honce, htwice] at h
    exact absurd h (by decide)
  · exact absurd (settlesAtOnce_iff.1 h) (by decide)

end Worksheet
