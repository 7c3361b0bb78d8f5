import Worksheet.Proofs.Shapes

/-!
# The names of cells

Letters of either case stand for the number they count up to in base 26 without a zero, unless it
has more than 64 bits (`lettersValue_eq_ok_iff`), and every number has letters (`lettersOf_number`).
A text is read as an address exactly if it is letters and digits whose numbers have 64 bits and are
not zero (`Address.parse_eq_ok_iff`), and a formula refers to the same texts
(`Address.reference?_eq_some_iff`).  So the name of an address whose indices have a successor of 64
bits is read back as that address, in whatever case its letters are written
(`Address.parse_of_isSpelling`).
-/

namespace Worksheet

/-! ## Letters -/

/-- The number that letters stand for, `n` being that of the letters before them. -/
def lettersNumber (n : Nat) (letters : List Char) : Nat :=
  letters.foldl (fun m c => 26 * m + letterValue c) n

theorem le_lettersNumber : ∀ (letters : List Char) (n : Nat), n ≤ lettersNumber n letters
  | [], n => Nat.le_refl n
  | c :: letters, n => by
    have htail := le_lettersNumber letters (26 * n + letterValue c)
    rw [lettersNumber, List.foldl_cons]
    exact Nat.le_trans (by omega) htail

/-- Reading letters counts them up, as long as the number fits. -/
theorem lettersValue_eq_ok_iff {text : String} {m : Nat} : ∀ {letters : List Char} {n : Nat},
    n < indexBound → (lettersValue text n letters = .ok m ↔
      (∀ c ∈ letters, c.isAlpha = true) ∧ lettersNumber n letters = m ∧ m < indexBound)
  | [], n, hn => by
    simp only [lettersValue, lettersNumber, Except.ok.injEq, List.foldl_nil]
    refine ⟨fun h => ⟨by simp, h, h ▸ hn⟩, fun h => h.2.1⟩
  | c :: letters, n, hn => by
    have hcons : lettersNumber n (c :: letters)
        = lettersNumber (26 * n + letterValue c) letters := rfl
    rw [lettersValue, hcons]
    split_ifs with halpha hfits
    · rw [lettersValue_eq_ok_iff hfits]
      simp [halpha]
    · -- the number only grows from here
      have hle := le_lettersNumber letters (26 * n + letterValue c)
      simp only [false_iff]
      rintro ⟨-, rfl, hm⟩
      omega
    · simp [halpha]

theorem toNat_ofNat_letter {k : Nat} (h : k < 26) : (Char.ofNat (65 + k)).toNat = 65 + k := by
  have hall : ∀ k : Fin 26, (Char.ofNat (65 + k.val)).toNat = 65 + k.val := by decide
  exact hall ⟨k, h⟩

theorem isUpper_ofNat_letter {k : Nat} (h : k < 26) : (Char.ofNat (65 + k)).isUpper = true := by
  rw [isUpper_iff_toNat, toNat_ofNat_letter h]
  omega

theorem isUpper_of_mem_lettersOf {n : Nat} : ∀ c ∈ lettersOf n, c.isUpper = true := by
  induction n using lettersOf.induct with
  | case1 => simp [lettersOf]
  | case2 n ih =>
    intro c hc
    rw [lettersOf, List.mem_append, List.mem_singleton] at hc
    rcases hc with hc | rfl
    · exact ih c hc
    · exact isUpper_ofNat_letter (Nat.mod_lt n (by omega))

theorem lettersOf_ne_nil {n : Nat} (h : 0 < n) : lettersOf n ≠ [] := by
  obtain ⟨m, rfl⟩ := Nat.exists_eq_succ_of_ne_zero (Nat.ne_of_gt h)
  simp [lettersOf]

/-- The letters of a number, in whatever case they are written, stand for it. -/
theorem lettersOf_number {n : Nat} : ∀ {letters : List Char},
    letters.map Char.toUpper = lettersOf n → lettersNumber 0 letters = n := by
  have hcapitals : (lettersOf n).foldl (fun m c => 26 * m + (c.toNat - 64)) 0 = n := by
    induction n using lettersOf.induct with
    | case1 => simp [lettersOf]
    | case2 n ih =>
      have hlast := toNat_ofNat_letter (Nat.mod_lt n (show 0 < 26 by omega))
      rw [lettersOf, List.foldl_append, ih, List.foldl_cons, List.foldl_nil, hlast]
      omega
  intro letters h
  rw [← h, List.foldl_map] at hcapitals
  exact hcapitals

/-! ## Digits -/

theorem isDigit_toDigits {n : Nat} : ∀ c ∈ Nat.toDigits 10 n, Number.isDigit c = true := fun _ hc =>
  Nat.isDigit_of_mem_toDigits (by omega) (by omega) hc

theorem ofDigits_toDigits (n : Nat) : Number.ofDigits (Nat.toDigits 10 n) = n := by
  have h := Nat.ofDigitChars_toDigits (b := 10) (n := n) (by omega) (by omega)
  rw [Nat.ofDigitChars_eq_foldl] at h
  exact h

theorem map_toUpper_digits {digits : List Char} {n : Nat}
    (h : digits.map Char.toUpper = Nat.toDigits 10 n) : digits = Nat.toDigits 10 n := by
  have hself : ∀ c ∈ digits, c.toUpper = c := by
    intro c hc
    refine toUpper_of_isDigit_toUpper (isDigit_toDigits (n := n) _ ?_)
    rw [← h]
    exact List.mem_map_of_mem hc
  rw [← h, List.map_congr_left hself, List.map_id']

/-! ## What is read as a name -/

theorem columnOfLetters_eq_ok_iff {letters : List Char} {col : Nat} :
    columnOfLetters (String.ofList letters) = .ok col ↔
      letters ≠ [] ∧ (∀ c ∈ letters, c.isAlpha = true) ∧ lettersNumber 0 letters < indexBound
        ∧ lettersNumber 0 letters - 1 = col := by
  rw [columnOfLetters, String.toList_ofList]
  split_ifs with hnil
  · simp [hnil]
  · rcases hvalue : lettersValue (String.ofList letters) 0 letters with e | n
    · simp only [Except.map, reduceCtorEq, false_iff]
      rintro ⟨-, halpha, hlt, -⟩
      rw [(lettersValue_eq_ok_iff (by decide)).2 ⟨halpha, rfl, hlt⟩] at hvalue
      cases hvalue
    · obtain ⟨halpha, rfl, hlt⟩ := (lettersValue_eq_ok_iff (by decide)).1 hvalue
      simp only [Except.map, Except.ok.injEq]
      exact ⟨fun h => ⟨hnil, halpha, hlt, h⟩, fun h => h.2.2.2⟩

namespace Address

theorem rowOfDigits_eq_ok_iff {text : String} {digits : List Char} {row : Nat} :
    rowOfDigits text digits = .ok row ↔
      digits ≠ [] ∧ (∀ c ∈ digits, Number.isDigit c = true) ∧ 0 < Number.ofDigits digits
        ∧ Number.ofDigits digits < indexBound ∧ Number.ofDigits digits - 1 = row := by
  simp only [rowOfDigits]
  split_ifs with hnil hdigit hlarge hzero
  · simp [hnil]
  · have hno : ¬ ∀ c ∈ digits, Number.isDigit c = true := by simpa using hdigit
    simp [hno]
  · simp only [false_iff]
    omega
  · simp [hzero]
  · have hall : ∀ c ∈ digits, Number.isDigit c = true := by simpa using hdigit
    simp only [Except.ok.injEq]
    exact ⟨fun h => ⟨hnil, hall, by omega, by omega, h⟩, fun h => h.2.2.2.2⟩

/-- Letters and digits that name a cell. Both numbers have 64 bits and neither is zero. -/
structure IsName (letters digits : List Char) : Prop where
  letters_ne_nil : letters ≠ []
  isAlpha : ∀ c ∈ letters, c.isAlpha = true
  letters_lt : lettersNumber 0 letters < indexBound
  digits_ne_nil : digits ≠ []
  isDigit : ∀ c ∈ digits, Number.isDigit c = true
  digits_pos : 0 < Number.ofDigits digits
  digits_lt : Number.ofDigits digits < indexBound

/-- The cell that letters and digits name. -/
def named (letters digits : List Char) : Address :=
  ⟨Number.ofDigits digits - 1, lettersNumber 0 letters - 1⟩

namespace IsName

variable {letters digits : List Char}

theorem head?_digits (h : IsName letters digits) : ∀ c ∈ digits.head?, c.isAlpha = false :=
  fun c hc => not_isAlpha_of_isDigit (h.isDigit c (List.mem_of_mem_head? hc))

theorem parse_eq {s : String} (h : IsName letters digits) (hs : s.toList = letters ++ digits) :
    parse s = .ok (named letters digits) := by
  have hne : letters ++ digits ≠ [] := by simp [h.letters_ne_nil]
  have hcol := columnOfLetters_eq_ok_iff.2 ⟨h.letters_ne_nil, h.isAlpha, h.letters_lt, rfl⟩
  have hrow : ∀ text, rowOfDigits text digits = .ok (Number.ofDigits digits - 1) := fun text =>
    rowOfDigits_eq_ok_iff.2 ⟨h.digits_ne_nil, h.isDigit, h.digits_pos, h.digits_lt, rfl⟩
  simp only [parse, hs, if_neg hne, takeWhile_isAlpha h.isAlpha h.head?_digits,
    dropWhile_isAlpha h.isAlpha h.head?_digits, if_neg h.letters_ne_nil, hcol, hrow]
  rfl

theorem reference?_eq (h : IsName letters digits) :
    reference? (letters ++ digits) = some (named letters digits) := by
  have hshape : isShaped (letters ++ digits) = true := by
    simp only [isShaped, takeWhile_isAlpha h.isAlpha h.head?_digits,
      dropWhile_isAlpha h.isAlpha h.head?_digits, List.all_eq_true.2 h.isDigit]
    simp [h.letters_ne_nil, h.digits_ne_nil]
  rw [reference?, if_pos hshape, h.parse_eq String.toList_ofList]
  rfl

end IsName

/-- The texts that name a cell are letters and digits, and nothing else. -/
theorem parse_eq_ok_iff {s : String} {a : Address} :
    parse s = .ok a ↔
      ∃ letters digits, s.toList = letters ++ digits ∧ IsName letters digits
        ∧ named letters digits = a := by
  constructor
  · intro h
    have hs := List.takeWhile_append_dropWhile (p := Char.isAlpha) (l := s.toList)
    simp only [parse] at h
    split_ifs at h
    rcases hcol : columnOfLetters (String.ofList (s.toList.takeWhile Char.isAlpha)) with e | col
    · rw [hcol] at h
      cases h
    rcases hrow : rowOfDigits s (s.toList.dropWhile Char.isAlpha) with e | row
    · rw [hcol, hrow] at h
      cases h
    rw [hcol, hrow] at h
    obtain ⟨hne, halpha, hlt, rfl⟩ := columnOfLetters_eq_ok_iff.1 hcol
    obtain ⟨hne', hdigit, hpos, hlt', rfl⟩ := rowOfDigits_eq_ok_iff.1 hrow
    exact ⟨_, _, hs.symm, ⟨hne, halpha, hlt, hne', hdigit, hpos, hlt'⟩, Except.ok.inj h⟩
  · rintro ⟨letters, digits, hs, hname, rfl⟩
    exact hname.parse_eq hs

theorem reference?_eq_some_iff {s : List Char} {a : Address} :
    reference? s = some a ↔ parse (String.ofList s) = .ok a := by
  constructor
  · intro h
    rw [reference?] at h
    split_ifs at h
    rcases hparse : parse (String.ofList s) with e | b <;> rw [hparse] at h
    · cases h
    · rw [Option.some.inj h]
  · intro h
    obtain ⟨letters, digits, hs, hname, rfl⟩ := parse_eq_ok_iff.1 h
    rw [String.toList_ofList] at hs
    rw [hs, hname.reference?_eq]

/-! ## Names -/

/-- Whether both indices have a successor of 64 bits. -/
def IsIndexed (a : Address) : Prop :=
  a.row + 1 < indexBound ∧ a.col + 1 < indexBound

/-- Whether a text is the name of an address, with its letters in any case. -/
def IsSpelling (a : Address) (s : List Char) : Prop :=
  s.map Char.toUpper = a.name.toList

theorem toList_name {a : Address} (ha : a.IsIndexed) :
    a.name.toList = lettersOf (a.col + 1) ++ Nat.toDigits 10 (a.row + 1) := by
  rw [name, columnLetters, Nat.mod_eq_of_lt ha.1, Nat.mod_eq_of_lt ha.2, String.toList_append,
    String.toList_ofList, Nat.toString_eq_repr, Nat.toList_repr]

/-- A spelling is letters that stand for the column and the digits of the row. -/
theorem exists_of_isSpelling {a : Address} {s : List Char} (ha : a.IsIndexed)
    (h : a.IsSpelling s) :
    ∃ letters digits, s = letters ++ digits ∧ IsName letters digits ∧ named letters digits = a := by
  rw [IsSpelling, toList_name ha, List.map_eq_append_iff] at h
  obtain ⟨letters, digits, rfl, hletters, hdigits⟩ := h
  rw [map_toUpper_digits hdigits]
  have hcol := lettersOf_number hletters
  have hrow := ofDigits_toDigits (a.row + 1)
  refine ⟨letters, _, rfl, ⟨?_, fun c hc => ?_, ?_, Nat.toDigits_ne_nil, isDigit_toDigits, ?_, ?_⟩,
    ?_⟩
  · rintro rfl
    exact lettersOf_ne_nil (Nat.succ_pos a.col) hletters.symm
  · refine isAlpha_of_isUpper_toUpper (isUpper_of_mem_lettersOf (n := a.col + 1) _ ?_)
    rw [← hletters]
    exact List.mem_map_of_mem hc
  · rw [hcol]
    exact ha.2
  · rw [hrow]
    exact Nat.succ_pos a.row
  · rw [hrow]
    exact ha.1
  · rw [named, hcol, hrow]
    rfl

/-- An address is read back from its name, in whatever case the letters are written. -/
theorem parse_of_isSpelling {a : Address} {s : List Char} (ha : a.IsIndexed)
    (h : a.IsSpelling s) : parse (String.ofList s) = .ok a := by
  rw [parse_eq_ok_iff, String.toList_ofList]
  exact exists_of_isSpelling ha h

theorem reference?_of_isSpelling {a : Address} {s : List Char} (ha : a.IsIndexed)
    (h : a.IsSpelling s) : reference? s = some a :=
  reference?_eq_some_iff.2 (parse_of_isSpelling ha h)

end Address

end Worksheet
