import Worksheet.Proofs.AddressNames
import Worksheet.Proofs.Quotations

/-!
# Words

An argument that is neither quoted nor a comparison nor a call is a word.  The words that mean
something are the decimal numerals of finite numbers, the truth values, the names of cells and two
of these around a colon.  None has a blank, a quote, a comma, a parenthesis or an operator in it, so
it is its own text wherever it stands (`Shape.ofArgument_word`), and none can be taken for another.
-/

namespace Worksheet

/-- The characters of the numerals of finite numbers. -/
def IsNumeralChar (c : Char) : Prop :=
  Number.isDigit c = true ∨ c = '.' ∨ c = 'e' ∨ c = 'E' ∨ c = '+' ∨ c = '-'

/-- The characters of words. -/
def IsWordChar (c : Char) : Prop :=
  c.isAlpha = true ∨ c = ':' ∨ IsNumeralChar c

instance : DecidablePred IsNumeralChar := fun c =>
  inferInstanceAs (Decidable (_ ∨ c = '.' ∨ c = 'e' ∨ c = 'E' ∨ c = '+' ∨ c = '-'))

instance : DecidablePred IsWordChar := fun c =>
  inferInstanceAs (Decidable (_ ∨ c = ':' ∨ IsNumeralChar c))

namespace IsWordChar

variable {c : Char}

theorem isPlain (h : IsWordChar c) : Scan.IsPlain c := by
  refine ⟨?_, ?_, ?_⟩ <;> rintro rfl <;> exact absurd h (by decide)

theorem not_isSign (h : IsWordChar c) : ¬ Scan.IsSign c := by
  rintro (rfl | rfl | rfl | rfl) <;> exact absurd h (by decide)

theorem ne_comma (h : IsWordChar c) : c ≠ ',' := by
  rintro rfl
  exact absurd h (by decide)

theorem not_isBlank (h : IsWordChar c) : Text.isBlank c = false := by
  have hcode : (43 ≤ c.toNat ∧ c.toNat ≤ 58) ∨ (65 ≤ c.toNat ∧ c.toNat ≤ 122) := by
    rcases h with h | rfl | h | rfl | rfl | rfl | rfl | rfl
    · rw [isAlpha_iff_toNat] at h
      omega
    · decide
    · rw [isDigit_iff_toNat] at h
      omega
    all_goals decide
  simp only [Text.isBlank, Text.isBlankCode, Bool.or_eq_false_iff, Bool.and_eq_false_iff,
    decide_eq_false_iff_not, beq_eq_false_iff_ne]
  omega

end IsWordChar

/-- A text that begins with a word is no quotation. -/
theorem quotation?_word {u : List Char} (hne : u ≠ []) (h : ∀ c ∈ u, IsWordChar c)
    (rest : List Char) : quotation? (u ++ rest) = none := by
  obtain ⟨c, more, rfl⟩ := List.exists_cons_of_ne_nil hne
  exact quotation?_eq_none (h c List.mem_cons_self).isPlain.1 _

theorem Scan.hides_sign_word {u : List Char} (h : ∀ c ∈ u, IsWordChar c) :
    Hides IsSign start u :=
  hides_of_isPlain (fun c hc => (h c hc).isPlain) fun c hc _ => (h c hc).not_isSign

theorem Text.trim_word {s : List Char} (h : ∀ c ∈ s, IsWordChar c) : trim s = s :=
  trim_eq_self (fun c hc => (h c (List.mem_of_mem_head? hc)).not_isBlank)
    fun c hc => (h c (List.mem_of_getLast? hc)).not_isBlank

theorem Builtin.isWordChar_of_map_toUpper {f : Builtin} {name : List Char}
    (h : name.map Char.toUpper = f.name.toList) : name ≠ [] ∧ ∀ c ∈ name, IsWordChar c := by
  obtain ⟨hne, halpha⟩ := isAlpha_of_map_toUpper h
  exact ⟨hne, fun c hc => .inl (halpha c hc)⟩

/-! ## Numerals -/

namespace Number

theorem splitSign_eq (s : List Char) :
    s = (splitSign s).2 ∨ ∃ c, (c = '+' ∨ c = '-') ∧ s = c :: (splitSign s).2 := by
  unfold splitSign
  split <;> simp

theorem isNumeralChar_of_mem_splitSign {s : List Char}
    (h : ∀ c ∈ (splitSign s).2, IsNumeralChar c) : ∀ c ∈ s, IsNumeralChar c := by
  rcases splitSign_eq s with hs | ⟨a, ha, hs⟩
  · rwa [← hs] at h
  · intro c hc
    rw [hs, List.mem_cons] at hc
    rcases hc with rfl | hc
    · exact .inr (.inr (.inr (.inr ha)))
    · exact h c hc

theorem isNumeralChar_of_exponent? {s : List Char} {e : Int} (h : exponent? s = some e) :
    ∀ c ∈ s, IsNumeralChar c := by
  cases s with
  | nil => simp
  | cons a rest =>
    simp only [exponent?] at h
    obtain ⟨ha, hdigits⟩ :
        (a = 'e' ∨ a = 'E') ∧ (splitSign rest).2.all isDigit = true := by
      split_ifs at h with ha hdigits
      all_goals exact ⟨ha, hdigits.2⟩
    have hrest : ∀ c ∈ rest, IsNumeralChar c := isNumeralChar_of_mem_splitSign fun c hc =>
      .inl (List.all_eq_true.1 hdigits c hc)
    intro c hc
    rcases List.mem_cons.1 hc with rfl | hc
    · rcases ha with rfl | rfl <;> decide
    · exact hrest c hc

theorem isNumeralChar_of_mem_takeWhile {s : List Char} : ∀ c ∈ s.takeWhile isDigit,
    IsNumeralChar c := fun _ hc =>
  .inl (List.mem_takeWhile_imp hc)

/-- What is read as a number without a sign begins with a digit or a point. -/
theorem isNumeralChar_of_unsigned? {s : List Char} {x : Float} (h : unsigned? s = some x) :
    (∀ c ∈ s, IsNumeralChar c) ∧ ∃ c rest, s = c :: rest ∧ (isDigit c = true ∨ c = '.') := by
  have hs := List.takeWhile_append_dropWhile (p := isDigit) (l := s)
  have hexp : ∀ {rest : List Char} {f : Int → Float}, (exponent? rest).map f = some x →
      ∀ c ∈ rest, IsNumeralChar c := by
    intro rest f hf
    obtain ⟨e, he, -⟩ := Option.map_eq_some_iff.1 hf
    exact isNumeralChar_of_exponent? he
  have hhead : s.takeWhile isDigit ≠ [] →
      ∃ c rest, s = c :: rest ∧ (isDigit c = true ∨ c = '.') := by
    intro hne
    obtain ⟨c, whole, hc⟩ := List.exists_cons_of_ne_nil hne
    rw [hc] at hs
    exact ⟨c, _, hs.symm, .inl (List.mem_takeWhile_imp (l := s) (by simp [hc]))⟩
  simp only [unsigned?] at h
  split at h
  · rename_i r hpoint
    split_ifs at h
    have hr := List.takeWhile_append_dropWhile (p := isDigit) (l := r)
    rw [hpoint] at hs
    refine ⟨fun c hc => ?_, ?_⟩
    · rw [← hs, ← hr, List.mem_append, List.mem_cons, List.mem_append] at hc
      rcases hc with hc | rfl | hc | hc
      · exact isNumeralChar_of_mem_takeWhile c hc
      · decide
      · exact isNumeralChar_of_mem_takeWhile c hc
      · exact hexp h c hc
    · by_cases hne : s.takeWhile isDigit = []
      · rw [hne] at hs
        exact ⟨'.', r, hs.symm, .inr rfl⟩
      · exact hhead hne
  · split_ifs at h with hnil
    refine ⟨fun c hc => ?_, hhead (by simpa using hnil)⟩
    rw [← hs, List.mem_append] at hc
    rcases hc with hc | hc
    · exact isNumeralChar_of_mem_takeWhile c hc
    · exact hexp h c hc

/-- A number without a sign, unless it is one of the words for what is not finite. -/
theorem unsigned?_of_read? {s : List Char} {x : Float} (h : read? s = some x)
    (hx : x.isFinite = true) : ∃ y, unsigned? (splitSign s).2 = some y := by
  have hinf : ∀ negative : Bool,
      (if negative then -(1.0 / 0.0 : Float) else 1.0 / 0.0).isFinite = false := by decide
  have hnan : ∀ negative : Bool,
      (if negative then -(0.0 / 0.0 : Float) else 0.0 / 0.0).isFinite = false := by decide
  rw [read?] at h
  obtain ⟨y, hy, rfl⟩ := Option.map_eq_some_iff.1 h
  split at hy
  · cases hy
    rw [hinf] at hx
    cases hx
  · cases hy
    rw [hinf] at hx
    cases hx
  · cases hy
    rw [hnan] at hx
    cases hx
  · exact ⟨y, hy⟩

/-- The numeral of a finite number has no letters but an E, and does not begin with it. -/
theorem isNumeralChar_of_finite? {s : List Char} {x : Float} (h : finite? s = some x)
    (htrim : Text.trim s = s) :
    (∀ c ∈ s, IsNumeralChar c) ∧ ∃ c rest, s = c :: rest ∧ c.isAlpha = false := by
  rw [finite?, htrim, Option.filter_eq_some_iff] at h
  obtain ⟨y, hy⟩ := unsigned?_of_read? h.1 h.2
  obtain ⟨hchars, c, rest, hc, hfirst⟩ := isNumeralChar_of_unsigned? hy
  refine ⟨isNumeralChar_of_mem_splitSign hchars, ?_⟩
  rcases splitSign_eq s with hs | ⟨a, ha, hs⟩
  · refine ⟨c, rest, by rw [hs, hc], ?_⟩
    rcases hfirst with hdigit | rfl
    · exact not_isAlpha_of_isDigit hdigit
    · rfl
  · refine ⟨a, _, hs, ?_⟩
    rcases ha with rfl | rfl <;> rfl

end Number

/-! ## Names -/

theorem Address.isWordChar_of_isSpelling {a : Address} {s : List Char} (ha : a.IsIndexed)
    (h : a.IsSpelling s) : ∀ c ∈ s, IsWordChar c ∧ c ≠ ':' := by
  intro c hc
  rcases mem_of_reference? (reference?_of_isSpelling ha h) hc with halpha | hdigit
  · refine ⟨.inl halpha, ?_⟩
    rintro rfl
    exact absurd halpha (by decide)
  · refine ⟨.inr (.inr (.inl hdigit)), ?_⟩
    rintro rfl
    exact absurd hdigit (by decide)

theorem Address.trim_of_isSpelling {a : Address} {s : List Char} (ha : a.IsIndexed)
    (h : a.IsSpelling s) : Text.trim s = s :=
  Text.trim_word fun c hc => (isWordChar_of_isSpelling ha h c hc).1

theorem Region.parse_of_isSpelling {a b : Address} {u v : List Char} (ha : a.IsIndexed)
    (hb : b.IsIndexed) (hu : a.IsSpelling u) (hv : b.IsSpelling v) :
    parse (String.ofList (u ++ ':' :: v)) = .ok (spanning a b) := by
  have hbefore : ∀ c ∈ u, (decide (c ≠ ':')) = true := fun c hc => by
    simpa using (Address.isWordChar_of_isSpelling ha hu c hc).2
  have htake : (u ++ ':' :: v).takeWhile (· ≠ ':') = u := by
    rw [List.takeWhile_append_of_pos hbefore]
    simp
  have hdrop : (u ++ ':' :: v).dropWhile (· ≠ ':') = ':' :: v := by
    rw [List.dropWhile_append_of_pos hbefore]
    simp
  simp only [parse, String.toList_ofList, htake, hdrop, Address.trim_of_isSpelling ha hu,
    Address.trim_of_isSpelling hb hv, Address.parse_of_isSpelling ha hu,
    Address.parse_of_isSpelling hb hv]
  rfl

theorem Region.ofParts?_of_isSpelling {a b : Address} {u v : List Char} (ha : a.IsIndexed)
    (hb : b.IsIndexed) (hu : a.IsSpelling u) (hv : b.IsSpelling v) :
    ofParts? (u ++ ':' :: v) = some (spanning a b) := by
  have hcu : ':' ∉ u := fun hmem => (Address.isWordChar_of_isSpelling ha hu _ hmem).2 rfl
  have hcv : ':' ∉ v := fun hmem => (Address.isWordChar_of_isSpelling hb hv _ hmem).2 rfl
  have hsplit : (u ++ ':' :: v).splitOn ':' = [u, v] := by
    rw [List.splitOn_append_cons_self_of_not_mem hcu, List.splitOn_eq_singleton hcv]
  simp only [ofParts?, hsplit, Address.trim_of_isSpelling ha hu, Address.trim_of_isSpelling hb hv,
    parse_of_isSpelling ha hb hu hv]
  rfl

/-! ## Words -/

/-- The words for an expression. -/
inductive IsWord : Expression → List Char → Prop
  /-- Any numeral of a finite number.  Blanks around it would belong to the padding. -/
  | number {x : Float} {s : List Char} (hread : Number.finite? s = some x)
      (htrim : Text.trim s = s) : IsWord (.number x) s
  | boolean {b : Bool} {s : List Char}
      (hs : s.map Char.toUpper = (if b then "TRUE" else "FALSE").toList) : IsWord (.boolean b) s
  | cell {a : Address} {s : List Char} (ha : a.IsIndexed) (hs : a.IsSpelling s) :
      IsWord (.cell a) s
  /-- Any two opposite corners of a rectangle, in either order. -/
  | region {a b : Address} {u v : List Char} (ha : a.IsIndexed) (hb : b.IsIndexed)
      (hu : a.IsSpelling u) (hv : b.IsSpelling v) :
      IsWord (.region (.spanning a b)) (u ++ ':' :: v)

theorem isAlpha_of_mem_boolean {b : Bool} {s : List Char}
    (h : s.map Char.toUpper = (if b then "TRUE" else "FALSE").toList) :
    ∀ c ∈ s, c.isAlpha = true := by
  intro c hc
  have hupper : ∀ b : Bool,
      (if b then "TRUE" else "FALSE").toList.all Char.isUpper = true := by decide
  refine isAlpha_of_isUpper_toUpper (List.all_eq_true.1 (hupper b) _ ?_)
  rw [← h]
  exact List.mem_map_of_mem hc

namespace IsWord

variable {e : Expression} {s : List Char}

theorem isWordChar (h : IsWord e s) : ∀ c ∈ s, IsWordChar c := by
  intro c hc
  cases h with
  | number hread htrim => exact .inr (.inr ((Number.isNumeralChar_of_finite? hread htrim).1 c hc))
  | boolean hs => exact .inl (isAlpha_of_mem_boolean hs c hc)
  | cell ha hs => exact (Address.isWordChar_of_isSpelling ha hs c hc).1
  | region ha hb hu hv =>
    rcases List.mem_append.1 hc with hc | hc
    · exact (Address.isWordChar_of_isSpelling ha hu c hc).1
    rcases List.mem_cons.1 hc with rfl | hc
    · exact .inr (.inl rfl)
    · exact (Address.isWordChar_of_isSpelling hb hv c hc).1

theorem ne_nil (h : IsWord e s) : s ≠ [] := by
  cases h with
  | number hread htrim =>
    obtain ⟨-, c, rest, rfl, -⟩ := Number.isNumeralChar_of_finite? hread htrim
    simp
  | @boolean b _ hs =>
    rintro rfl
    cases b <;> simp at hs
  | cell ha hs =>
    obtain ⟨letters, digits, rfl, hname, -⟩ := Address.exists_of_isSpelling ha hs
    simp [hname.letters_ne_nil]
  | region => simp

end IsWord

namespace Shape

theorem ofArgument_word {s : List Char} (hne : s ≠ []) (h : ∀ c ∈ s, IsWordChar c) :
    ofArgument s = .leaf (word s) := by
  have htrim := Text.trim_word h
  have hquote : quotation? s = none := by
    rw [← List.append_nil s]
    exact quotation?_word hne h []
  have hcomparison : comparison? s = none := by
    rw [comparison?, Scan.comparison?_eq_none (Scan.hides_sign_word h)]
  have hcall : call? s = none := call?_eq_none fun hmem => (h '(' hmem).isPlain.2.1 rfl
  simp only [ofArgument, htrim, if_neg hne, hquote, hcomparison, hcall]

theorem word_boolean {b : Bool} {s : List Char}
    (h : s.map Char.toUpper = (if b then "TRUE" else "FALSE").toList) : word s = .boolean b := by
  have halpha := isAlpha_of_mem_boolean h
  have hcolon : ':' ∉ s := fun hmem => absurd (halpha ':' hmem) (by decide)
  have href : Address.reference? s = none := by
    have hdrop : s.dropWhile Char.isAlpha = [] := by
      simpa using @dropWhile_isAlpha s [] halpha (by simp)
    simp [Address.reference?, Address.isShaped, hdrop]
  rw [word, if_neg hcolon, href]
  cases b <;> simp [h]

theorem word_number {x : Float} {s : List Char} (h : Number.finite? s = some x)
    (htrim : Text.trim s = s) : word s = .number x := by
  obtain ⟨hchars, c, rest, rfl, hfirst⟩ := Number.isNumeralChar_of_finite? h htrim
  have hcolon : ':' ∉ c :: rest := fun hmem => absurd (hchars ':' hmem) (by decide)
  have href : Address.reference? (c :: rest) = none := by
    simp [Address.reference?, Address.isShaped, hfirst]
  -- a truth value begins with a letter
  have hupper : c.toUpper.isUpper ≠ true := by
    intro hu
    rw [isAlpha_of_isUpper_toUpper hu] at hfirst
    cases hfirst
  have htrue : (c :: rest).map Char.toUpper ≠ ['T', 'R', 'U', 'E'] := fun hmap =>
    hupper (by rw [(List.cons.inj hmap).1]; rfl)
  have hfalse : (c :: rest).map Char.toUpper ≠ ['F', 'A', 'L', 'S', 'E'] := fun hmap =>
    hupper (by rw [(List.cons.inj hmap).1]; rfl)
  rw [word, if_neg hcolon, href]
  simp only [if_neg htrue, if_neg hfalse, h]

/-- A word is read as what it is a word for. -/
theorem word_eq {e : Expression} {s : List Char} (h : IsWord e s) : word s = e := by
  cases h with
  | number hread htrim => exact word_number hread htrim
  | boolean hs => exact word_boolean hs
  | cell ha hs =>
    have hcolon : ':' ∉ s := fun hmem => (Address.isWordChar_of_isSpelling ha hs _ hmem).2 rfl
    rw [word, if_neg hcolon, Address.reference?_of_isSpelling ha hs]
  | region ha hb hu hv =>
    rw [word, if_pos (by simp), Region.ofParts?_of_isSpelling ha hb hu hv]

end Shape

end Worksheet
