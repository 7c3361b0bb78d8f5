import Worksheet.Proofs.NumberUnits
import Worksheet.Proofs.Readings

/-!
# Replacing a text in another one

Taking the occurrences of a text from left to right, each as early as it can be taken after the one
before, cuts another text in just one way (`IsCutBy.unique`, `isCutBy_cuts`).  Replacing all
occurrences joins the parts with the new text, and replacing one of them joins the parts up to it
and those after it as they were (`Expression.evaluate_substitute_all`,
`Expression.evaluate_substitute_one`).  Where the cuts are up to an occurrence does not depend on
what comes after it (`IsCutBy.replace_tail`), so the occurrences may as well be replaced one after
the other, the last one first (`replaces_at_cuts`).
-/

namespace Worksheet

open Functions

/-- Whether a text is cut into parts where another text first occurs in it, first occurs in what is
left, and so on until it does not occur any more. -/
inductive IsCutBy (old : List Char) : List Char → List (List Char) → Prop
  | last {s : List Char} (h : ¬ old <:+: s) : IsCutBy old s [s]
  | first {x rest : List Char} {xs : List (List Char)}
      (h : ∀ i < x.length, ¬ old <+: (x ++ old ++ rest).drop i) (hrest : IsCutBy old rest xs) :
      IsCutBy old (x ++ old ++ rest) (x :: xs)

namespace IsCutBy

variable {old s : List Char} {xs ys : List (List Char)}

theorem ne_nil (h : IsCutBy old s xs) : xs ≠ [] := by
  cases h <;> simp

theorem old_ne_nil (h : IsCutBy old s xs) : old ≠ [] := by
  induction h with
  | last h =>
    rintro rfl
    exact h List.nil_infix
  | first _ _ ih => exact ih

theorem intercalate_eq (h : IsCutBy old s xs) : old.intercalate xs = s := by
  induction h with
  | last h => exact List.intercalate_singleton
  | first _ hrest ih => rw [List.intercalate_cons_of_ne_nil hrest.ne_nil, ih]

/-- There is at most one part more than there are characters. -/
theorem length_le (h : IsCutBy old s xs) : xs.length ≤ s.length + 1 := by
  induction h with
  | last h => simp
  | first _ hrest ih =>
    have hpos := List.length_pos_iff.2 hrest.old_ne_nil
    simp only [List.length_append, List.length_cons]
    omega

theorem unique (h : IsCutBy old s xs) (h' : IsCutBy old s ys) : xs = ys := by
  induction h generalizing ys with
  | last h =>
    cases h' with
    | last => rfl
    | first => exact absurd (List.infix_append _ _ _) h
  | @first x rest xs h hrest ih =>
    generalize hs : x ++ old ++ rest = s at h h'
    cases h' with
    | last h' => exact absurd (hs ▸ List.infix_append _ _ _) h'
    | @first y rest' ys h' hrest' =>
      have hlength : x.length = y.length := by
        rcases Nat.lt_trichotomy x.length y.length with hlt | heq | hgt
        · refine absurd ?_ (h' x.length hlt)
          rw [← hs, List.append_assoc, List.drop_left]
          exact List.prefix_append _ _
        · exact heq
        · refine absurd ?_ (h y.length hgt)
          rw [List.append_assoc, List.drop_left]
          exact List.prefix_append _ _
      rw [List.append_assoc, List.append_assoc] at hs
      obtain ⟨rfl, htails⟩ := List.append_inj hs hlength
      obtain rfl := List.append_cancel_left htails
      rw [ih hrest']

/-- An occurrence that begins before the end of `x` in `x ++ old` does not reach what follows. -/
theorem not_isPrefix_drop_congr {x rest rest' : List Char} {i : Nat} (hi : i < x.length) :
    old <+: (x ++ old ++ rest).drop i ↔ old <+: (x ++ old ++ rest').drop i := by
  have hle : i ≤ (x ++ old).length := by
    rw [List.length_append]
    omega
  have hlength : old.length ≤ ((x ++ old).drop i).length := by
    rw [List.length_drop, List.length_append]
    omega
  have hreach : ∀ r, old <+: (x ++ old ++ r).drop i ↔ old <+: (x ++ old).drop i := by
    intro r
    rw [List.drop_append_of_le_length hle]
    exact ⟨fun h => List.prefix_of_prefix_length_le h (List.prefix_append _ _) hlength,
      fun h => h.trans (List.prefix_append _ _)⟩
  rw [hreach, hreach]

/-- The first cuts of a text stay where they are whatever comes after them. -/
theorem replace_tail {tail : List Char} (htail : IsCutBy old tail ys) :
    ∀ {us vs : List (List Char)} {s : List Char}, vs ≠ [] → IsCutBy old s (us ++ vs) →
    IsCutBy old (old.intercalate (us ++ [tail])) (us ++ ys)
  | [], _, _, _, _ => by
    rw [List.nil_append, List.intercalate_singleton]
    exact htail
  | u :: us, vs, s, hvs, h => by
    rw [List.cons_append] at h ⊢
    generalize hws : us ++ vs = ws at h
    cases h with
    | last => exact absurd (List.append_eq_nil_iff.1 hws).2 hvs
    | first h hrest =>
      subst hws
      rw [List.cons_append, List.intercalate_cons_of_ne_nil (by simp)]
      exact .first (fun i hi => by rw [not_isPrefix_drop_congr hi]; exact h i hi)
        (replace_tail htail hvs hrest)

theorem cons {c : Char} (hc : ¬ old <+: c :: s) (h : IsCutBy old s xs) :
    ∃ x more, xs = x :: more ∧ IsCutBy old (c :: s) ((c :: x) :: more) := by
  cases h with
  | last h => exact ⟨_, _, rfl, .last (by rw [List.infix_cons_iff]; exact not_or.2 ⟨hc, h⟩)⟩
  | @first x rest xs h hrest =>
    refine ⟨x, _, rfl, .first (x := c :: x) (fun i hi => ?_) hrest⟩
    cases i with
    | zero => exact hc
    | succ i => exact h i (Nat.lt_of_succ_lt_succ hi)

end IsCutBy

namespace Functions

variable {old new : List Char}

theorem cuts_eq_drop : ∀ (skip : Nat) (s : List Char),
    cuts old skip s = cuts old 0 (s.drop skip)
  | _, [] => by simp [cuts]
  | 0, _ :: _ => rfl
  | skip + 1, c :: rest => by rw [cuts, cuts_eq_drop skip rest, List.drop_succ_cons]

theorem drop_of_append_eq {c : Char} {r rest : List Char} (hold : old ≠ [])
    (h : old ++ r = c :: rest) : rest.drop (old.length - 1) = r := by
  cases old with
  | nil => exact absurd rfl hold
  | cons d more =>
    rw [List.cons_append, List.cons.injEq] at h
    rw [← h.2, List.length_cons, Nat.add_sub_cancel, List.drop_left]

/-- A text is cut where it should be. -/
theorem isCutBy_cuts (hold : old ≠ []) (s : List Char) : IsCutBy old s (cuts old 0 s) := by
  induction hn : s.length using Nat.strong_induction_on generalizing s with
  | _ n ih =>
    cases s with
    | nil =>
      rw [cuts]
      exact .last fun h => hold (List.infix_nil.1 h)
    | cons c rest =>
      rw [List.length_cons] at hn
      rw [cuts]
      split_ifs with hhere <;> rw [List.isPrefixOf_iff_prefix] at hhere
      · obtain ⟨r, hr⟩ := hhere
        have hlength := congrArg List.length hr
        have hpos := List.length_pos_iff.2 hold
        rw [List.length_append, List.length_cons] at hlength
        rw [cuts_eq_drop, drop_of_append_eq hold hr, ← hr]
        exact .first (x := []) (by simp) (ih r.length (by omega) r rfl)
      · obtain ⟨x, more, hcuts, hcons⟩ := (ih rest.length (by omega) rest rfl).cons hhere
        rw [hcuts]
        exact hcons

example : cuts ['a', 'a'] 0 ['a', 'a', 'a', 'b'] = [[], ['a', 'b']] := rfl

theorem rejoin_cons_cons {x y : List Char} {more : List (List Char)} {i : Nat} :
    rejoin old new (i + 1) (x :: y :: more) = x ++ old ++ rejoin old new i (y :: more) :=
  rfl

theorem rejoin_of_lt : ∀ {xs : List (List Char)} {i : Nat}, i + 1 < xs.length →
    rejoin old new i xs
      = old.intercalate (xs.take (i + 1)) ++ new ++ old.intercalate (xs.drop (i + 1))
  | [], _, h => absurd h (Nat.not_lt_zero _)
  | [_], _, h => absurd h (by simp)
  | x :: y :: more, 0, _ => by simp [rejoin]
  | x :: y :: more, i + 1, h => by
    have hlt : i + 1 < (y :: more).length := Nat.lt_of_succ_lt_succ h
    have htake : (x :: y :: more).take (i + 1 + 1) = x :: (y :: more).take (i + 1) := rfl
    have hdrop : (x :: y :: more).drop (i + 1 + 1) = (y :: more).drop (i + 1) := rfl
    rw [rejoin_cons_cons, rejoin_of_lt hlt, htake, hdrop,
      List.intercalate_cons_of_ne_nil (by simp : (y :: more).take (i + 1) ≠ [])]
    simp only [List.append_assoc]

theorem rejoin_of_le : ∀ {xs : List (List Char)} {i : Nat}, xs.length ≤ i + 1 →
    rejoin old new i xs = old.intercalate xs
  | [], _, _ => by simp [rejoin]
  | [_], _, _ => by simp [rejoin]
  | x :: y :: more, 0, h => absurd h (by simp)
  | x :: y :: more, i + 1, h => by
    rw [rejoin_cons_cons, rejoin_of_le (Nat.le_of_succ_le_succ h), List.intercalate_cons_cons]

theorem intercalate_concat_append (x y : List Char) : ∀ us : List (List Char),
    old.intercalate (us ++ [x ++ y]) = old.intercalate (us ++ [x]) ++ y
  | [] => by rw [List.nil_append, List.nil_append, List.intercalate_singleton,
      List.intercalate_singleton]
  | u :: us => by
    rw [List.cons_append, List.cons_append, List.intercalate_cons_of_ne_nil (by simp),
      List.intercalate_cons_of_ne_nil (by simp), intercalate_concat_append x y us,
      List.append_assoc _ _ y]

/-- The text in which the occurrences after the first `k` are replaced. -/
def replacedAfter (old new : List Char) (k : Nat) (xs : List (List Char)) : List Char :=
  old.intercalate (xs.take k ++ [new.intercalate (xs.drop k)])

section ReplacedAfter

variable {xs : List (List Char)} {k : Nat}

theorem replacedAfter_zero : replacedAfter old new 0 xs = new.intercalate xs :=
  List.intercalate_singleton

theorem replacedAfter_last (hk : k + 1 = xs.length) :
    replacedAfter old new k xs = old.intercalate xs := by
  have hdrop := List.drop_eq_getElem_cons (i := k) (l := xs) (by omega)
  rw [List.drop_of_length_le hk.ge] at hdrop
  rw [replacedAfter, hdrop, List.intercalate_singleton, ← hdrop, List.take_append_drop]

/-- Replacing one occurrence more goes on from the part before it. -/
theorem replacedAfter_eq (hk : k + 1 < xs.length) : replacedAfter old new k xs
    = old.intercalate (xs.take (k + 1)) ++ new ++ new.intercalate (xs.drop (k + 1)) := by
  have hrest : xs.drop (k + 1) ≠ [] := List.drop_eq_nil_iff.not.2 (by omega)
  rw [replacedAfter, List.drop_eq_getElem_cons (Nat.lt_of_succ_lt hk),
    List.intercalate_cons_of_ne_nil hrest, List.append_assoc xs[k], intercalate_concat_append,
    List.take_append_getElem (Nat.lt_of_succ_lt hk), List.append_assoc]

end ReplacedAfter

theorem substitute_eq {args : List Argument} {text : List Char} (htext : textAt args 0 = .ok text)
    (hold : textAt args 1 = .ok old) (hnew : textAt args 2 = .ok new) (hne : old ≠ [])
    (hlength : args.length < 4) :
    settle (substitute args) = .text (String.ofList (new.intercalate (cuts old 0 text))) := by
  rw [substitute, htext, hold, hnew]
  simp only [bind, Except.bind]
  rw [if_neg hne, if_pos hlength]
  rfl

/-- What replacing one occurrence comes to. -/
theorem substitute_instance_eq {args : List Argument} {text : List Char} {x : Float}
    (htext : textAt args 0 = .ok text) (hold : textAt args 1 = .ok old)
    (hnew : textAt args 2 = .ok new) (hx : numberAt args 3 = .ok x) (hne : old ≠ [])
    (hlength : ¬ args.length < 4) : settle (substitute args)
      = if Number.trunc x < 1.0 then .error .badValue
        else .text (String.ofList (rejoin old new (Number.toOffset x) (cuts old 0 text))) := by
  rw [substitute, htext, hold, hnew, hx]
  simp only [bind, Except.bind]
  rw [if_neg hne, if_neg hlength]
  split_ifs <;> rfl

end Functions

namespace Expression

variable {t : Table} {now : Moment}

/-- Whether three expressions are read as a text, what is replaced in it and what replaces it. -/
structure ReadsReplacement (t : Table) (now : Moment) (a b c : Expression)
    (text old new : List Char) : Prop where
  text : a.ReadsText t now text
  old : b.ReadsText t now old
  new : c.ReadsText t now new

/-- Replaces the occurrences with the indices `k` to 1 one after the other, where the expression
`d i` is read as the index `i`. -/
def replaceDown (b c : Expression) (d : Nat → Expression) : Nat → Expression → Expression
  | 0, a => a
  | k + 1, a => replaceDown b c d k (call .substitute [a, b, c, d (k + 1)])

section Replacement

variable {a b c d : Expression} {text old new : List Char} {xs : List (List Char)} {x : Float}
  (h : ReadsReplacement t now a b c text old new) (hcut : IsCutBy old text xs)

include h hcut

theorem evaluate_substitute_all : (call .substitute [a, b, c]).evaluate t now
    = .scalar (.text (String.ofList (new.intercalate xs))) := by
  rw [evaluate_call_eq_value (by exact Nat.le_refl 3) (by exact Nat.le_refl 3) (by decide),
    Builtin.value, substitute_eq ((readsText_iff rfl).1 h.text) ((readsText_iff rfl).1 h.old)
      ((readsText_iff rfl).1 h.new) hcut.old_ne_nil (by exact Nat.lt_succ_self 3),
    (isCutBy_cuts hcut.old_ne_nil text).unique hcut]

variable (hd : d.ReadsNumber t now x)

include hd

theorem evaluate_substitute_instance : (call .substitute [a, b, c, d]).evaluate t now
    = .scalar (if Number.trunc x < 1.0 then .error .badValue
        else .text (String.ofList (rejoin old new (Number.toOffset x) xs))) := by
  rw [evaluate_call_eq_value (by exact Nat.le_succ 3) (by exact Nat.le_refl 4) (by decide),
    Builtin.value, substitute_instance_eq ((readsText_iff rfl).1 h.text)
      ((readsText_iff rfl).1 h.old) ((readsText_iff rfl).1 h.new) ((readsNumber_iff rfl).1 hd)
      hcut.old_ne_nil (by exact Nat.lt_irrefl 4),
    (isCutBy_cuts hcut.old_ne_nil text).unique hcut]

theorem evaluate_substitute_one {i : Nat} (hi : Number.toInt x = i) (hpos : 1 ≤ i)
    (hlt : i < xs.length) (hsize : i ≤ 0xFFFFFFFFFFFFFFFF) :
    (call .substitute [a, b, c, d]).evaluate t now = .scalar (.text (String.ofList
      (old.intercalate (xs.take i) ++ new ++ old.intercalate (xs.drop i)))) := by
  have hoffset : Number.toOffset x = i - 1 := by
    rw [Number.toOffset_eq (by omega), Number.toSize_eq_min, hi, Int.toNat_natCast]
    omega
  rw [evaluate_substitute_instance h hcut hd, if_neg (Number.not_trunc_lt_one (by omega)), hoffset,
    rejoin_of_lt (by omega), Nat.sub_add_cancel hpos]

theorem evaluate_substitute_past (hlength : text.length < 2 ^ 63)
    (hpast : xs.length ≤ Number.toInt x) : (call .substitute [a, b, c, d]).evaluate t now
      = .scalar (.text (String.ofList text)) := by
  have hpos := List.length_pos_iff.2 hcut.ne_nil
  have hparts := hcut.length_le
  have hoffset : xs.length ≤ Number.toOffset x + 1 := by
    rw [Number.toOffset_eq (by omega), Number.toSize_eq_min]
    omega
  rw [evaluate_substitute_instance h hcut hd, if_neg (Number.not_trunc_lt_one (by omega)),
    rejoin_of_le hoffset, hcut.intercalate_eq]

theorem evaluate_substitute_below (hx : x.isNaN = false) (hlow : Number.toInt x < 1) :
    (call .substitute [a, b, c, d]).evaluate t now = .scalar (.error .badValue) := by
  rw [evaluate_substitute_instance h hcut hd, if_pos ((Number.trunc_lt_one_iff hx).2 hlow)]

end Replacement

section Stepwise

variable {a b c : Expression} {d : Nat → Expression} {text old new : List Char}
  {xs : List (List Char)} (hb : b.ReadsText t now old) (hc : c.ReadsText t now new)
  (hcut : IsCutBy old text xs)

include hb hc hcut

/-- Each step leaves the parts before an occurrence as they are and what comes after it as the
replacement of all occurrences makes it. -/
theorem readsText_replaceDown {k : Nat} (hk : k < xs.length) (hsize : k ≤ 0xFFFFFFFFFFFFFFFF)
    (hd : ∀ i, 1 ≤ i → i ≤ k → ∃ x, (d i).ReadsNumber t now x ∧ Number.toInt x = i)
    (ha : a.ReadsText t now (replacedAfter old new k xs)) :
    (replaceDown b c d k a).ReadsText t now (new.intercalate xs) := by
  induction k generalizing a with
  | zero =>
    rw [replacedAfter_zero] at ha
    exact ha
  | succ k ih =>
    obtain ⟨x, hdx, hx⟩ := hd (k + 1) (Nat.succ_pos k) (Nat.le_refl _)
    refine ih (Nat.lt_of_succ_lt hk) (Nat.le_of_succ_le hsize)
      (fun i hi hik => hd i hi (Nat.le_succ_of_le hik)) (readsText_of_evaluate_eq ?_)
    have hrest : xs.drop (k + 1) ≠ [] := List.drop_eq_nil_iff.not.2 (by omega)
    have htail := isCutBy_cuts hcut.old_ne_nil (new.intercalate (xs.drop (k + 1)))
    have hcut' := htail.replace_tail hrest (by rw [List.take_append_drop]; exact hcut)
    have htake : (xs.take (k + 1)).length = k + 1 := List.length_take_of_le hk.le
    rw [evaluate_substitute_one ⟨ha, hb, hc⟩ hcut' hdx hx (Nat.succ_pos k) ?_ hsize,
      List.take_left' htake, List.drop_left' htake, htail.intercalate_eq, replacedAfter_eq hk]
    rw [List.length_append, htake]
    exact Nat.lt_add_of_pos_right (List.length_pos_iff.2 htail.ne_nil)

/-- Replacing the occurrences one by one from the last to the first replaces them all. -/
theorem readsText_replaceDown_all (ha : a.ReadsText t now text) (hlength : text.length < 2 ^ 63)
    (hd : ∀ i, 1 ≤ i → i < xs.length → ∃ x, (d i).ReadsNumber t now x ∧ Number.toInt x = i) :
    (replaceDown b c d (xs.length - 1) a).ReadsText t now (new.intercalate xs) := by
  have hpos := List.length_pos_iff.2 hcut.ne_nil
  have hparts := hcut.length_le
  refine readsText_replaceDown hb hc hcut (by omega) (by omega)
    (fun i hi hik => hd i hi (by omega)) ?_
  rw [replacedAfter_last (Nat.sub_add_cancel hpos), hcut.intercalate_eq]
  exact ha

end Stepwise

end Expression

open Expression in
/-- What it is for the calls that replace a text to agree on where they cut.  A text is cut in just
one way.  With three arguments all occurrences are replaced; with four the one with an index from 1
to their number, so that an index past it leaves the text as it is and one below 1 is refused.
Replacing one occurrence after the other from the last to the first replaces them all.  A text in
memory has fewer than `2 ^ 63` characters. -/
structure ReplacesAtCuts (t : Table) (now : Moment) : Prop where
  cut : ∀ old text : List Char, old ≠ [] →
    ∃! xs, IsCutBy old text xs ∧ old.intercalate xs = text
  all : ∀ (a b c : Expression) (text old new : List Char) (xs : List (List Char)),
    ReadsReplacement t now a b c text old new → IsCutBy old text xs →
    (call .substitute [a, b, c]).evaluate t now
      = .scalar (.text (String.ofList (new.intercalate xs)))
  one : ∀ (a b c d : Expression) (text old new : List Char) (xs : List (List Char)) (x : Float)
    (i : Nat), ReadsReplacement t now a b c text old new → IsCutBy old text xs →
    d.ReadsNumber t now x → Number.toInt x = i → 1 ≤ i → i < xs.length → text.length < 2 ^ 63 →
    (call .substitute [a, b, c, d]).evaluate t now = .scalar (.text (String.ofList
      (old.intercalate (xs.take i) ++ new ++ old.intercalate (xs.drop i))))
  past : ∀ (a b c d : Expression) (text old new : List Char) (xs : List (List Char)) (x : Float),
    ReadsReplacement t now a b c text old new → IsCutBy old text xs → d.ReadsNumber t now x →
    xs.length ≤ Number.toInt x → text.length < 2 ^ 63 →
    (call .substitute [a, b, c, d]).evaluate t now = .scalar (.text (String.ofList text))
  below : ∀ (a b c d : Expression) (text old new : List Char) (x : Float),
    ReadsReplacement t now a b c text old new → old ≠ [] → d.ReadsNumber t now x →
    x.isNaN = false → Number.toInt x < 1 →
    (call .substitute [a, b, c, d]).evaluate t now = .scalar (.error .badValue)
  stepwise : ∀ (a b c : Expression) (d : Nat → Expression) (text old new : List Char)
    (xs : List (List Char)), ReadsReplacement t now a b c text old new → IsCutBy old text xs →
    text.length < 2 ^ 63 →
    (∀ i, 1 ≤ i → i < xs.length → ∃ x, (d i).ReadsNumber t now x ∧ Number.toInt x = i) →
    (replaceDown b c d (xs.length - 1) a).ReadsText t now (new.intercalate xs)

theorem replaces_at_cuts (t : Table) (now : Moment) : ReplacesAtCuts t now where
  cut := fun old text hold => ⟨cuts old 0 text,
    ⟨isCutBy_cuts hold text, (isCutBy_cuts hold text).intercalate_eq⟩,
    fun _ h => h.1.unique (isCutBy_cuts hold text)⟩
  all := fun _ _ _ _ _ _ _ => Expression.evaluate_substitute_all
  one := fun _ _ _ _ _ _ _ _ _ _ h hcut hd hi hpos hlt hlength => by
    have hparts := hcut.length_le
    exact Expression.evaluate_substitute_one h hcut hd hi hpos hlt (by omega)
  past := fun _ _ _ _ _ _ _ _ _ h hcut hd hpast hlength =>
    Expression.evaluate_substitute_past h hcut hd hlength hpast
  below := fun _ _ _ _ text _ _ _ h hold =>
    Expression.evaluate_substitute_below h (isCutBy_cuts hold text)
  stepwise := fun _ _ _ _ _ _ _ _ h hcut hlength =>
    Expression.readsText_replaceDown_all h.old h.new hcut h.text hlength

open Expression in
/-- In a word with two occurrences next to one another both are replaced, or one, or none, and both
again if first the second is replaced and then the first. -/
theorem replaces_banana :
    (call .substitute [.text "banana", .text "an", .text "x"]).evaluate Table.empty
        (.midnight .epoch) = .scalar (.text "bxxa")
      ∧ (call .substitute [.text "banana", .text "an", .text "x", number 2.0]).evaluate Table.empty
        (.midnight .epoch) = .scalar (.text "banxa")
      ∧ (call .substitute [.text "banana", .text "an", .text "x", number 3.0]).evaluate Table.empty
        (.midnight .epoch) = .scalar (.text "banana")
      ∧ (call .substitute [.text "banana", .text "an", .text "x", number 0.0]).evaluate Table.empty
        (.midnight .epoch) = .scalar (.error .badValue)
      ∧ (call .substitute [call .substitute [.text "banana", .text "an", .text "x",
          number (Float.ofNat 2)], .text "an", .text "x", number (Float.ofNat 1)]).ReadsText
          Table.empty (.midnight .epoch) ['b', 'x', 'x', 'a'] := by
  have hreplaces := replaces_at_cuts Table.empty (.midnight .epoch)
  have hnumber : ∀ x, (number x).ReadsNumber Table.empty (.midnight .epoch) x := readsNumber_number
  have hreads : ReadsReplacement Table.empty (.midnight .epoch) (.text "banana") (.text "an")
      (.text "x") ['b', 'a', 'n', 'a', 'n', 'a'] ['a', 'n'] ['x'] :=
    ⟨readsText_text _, readsText_text _, readsText_text _⟩
  have hcut : IsCutBy ['a', 'n'] ['b', 'a', 'n', 'a', 'n', 'a'] [['b'], [], ['a']] :=
    isCutBy_cuts (List.cons_ne_nil _ _) _
  refine ⟨hreplaces.all _ _ _ _ _ _ _ hreads hcut, ?_, ?_, ?_, ?_⟩
  · exact hreplaces.one _ _ _ _ _ _ _ _ _ 2 hreads hcut (hnumber 2.0) (by decide +kernel)
      (by decide) (by decide) (by decide)
  · exact hreplaces.past _ _ _ _ _ _ _ _ _ hreads hcut (hnumber 3.0) (by decide +kernel)
      (by decide)
  · exact hreplaces.below _ _ _ _ _ _ _ _ hreads (List.cons_ne_nil _ _) (hnumber 0.0)
      (by decide +kernel) (by rw [Number.toInt_zero]; decide)
  · exact hreplaces.stepwise _ _ _ (fun i => number (Float.ofNat i)) _ _ _ _ hreads hcut
      (by decide) fun i _ hi => ⟨_, hnumber _, Number.toInt_ofNat (Nat.lt_trans hi (by decide))⟩

end Worksheet
