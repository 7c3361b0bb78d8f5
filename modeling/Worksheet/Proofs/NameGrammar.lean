import Mathlib.Data.List.Induction
import Worksheet.Proofs.Writable

/-!
# The grammar of names

A name is read in one way and written in one way.  Base 26 without a zero has one numeral for each
number (`lettersOf_lettersNumber`), so the name of what is read from letters and digits is the same
letters as capitals and the same digits without the zeros in front of them (`Address.name_named`).
-/

namespace Worksheet

/-! ## Letters -/

theorem ofNat_letterValue {c : Char} (h : c.isAlpha = true) :
    1 ≤ letterValue c ∧ letterValue c ≤ 26 ∧ Char.ofNat (64 + letterValue c) = c.toUpper := by
  obtain ⟨hA, hZ⟩ := isUpper_iff_toNat.1 (isUpper_toUpper_of_isAlpha h)
  have hsum : 64 + letterValue c = c.toUpper.toNat := by
    rw [letterValue]
    omega
  refine ⟨by omega, by omega, ?_⟩
  rw [hsum, Char.ofNat_toNat]

/-- Letters are the numeral of the number they stand for. -/
theorem lettersOf_lettersNumber {letters : List Char} (h : ∀ c ∈ letters, c.isAlpha = true) :
    lettersOf (lettersNumber 0 letters) = letters.map Char.toUpper := by
  induction letters using List.reverseRecOn with
  | nil => simp [lettersNumber, lettersOf]
  | append_singleton letters c ih =>
    obtain ⟨hpos, hle, hc⟩ := ofNat_letterValue (h c (by simp))
    have hnumber : lettersNumber 0 (letters ++ [c])
        = 26 * lettersNumber 0 letters + (letterValue c - 1) + 1 := by
      simp only [lettersNumber, List.foldl_append, List.foldl_cons, List.foldl_nil]
      omega
    have hdiv : (26 * lettersNumber 0 letters + (letterValue c - 1)) / 26
        = lettersNumber 0 letters := by omega
    have hmod : 65 + (26 * lettersNumber 0 letters + (letterValue c - 1)) % 26
        = 64 + letterValue c := by omega
    rw [hnumber, lettersOf, hdiv, hmod, hc, ih fun d hd => h d (by simp [hd]), List.map_append]
    rfl

theorem lettersNumber_pos {letters : List Char} (hne : letters ≠ [])
    (h : ∀ c ∈ letters, c.isAlpha = true) : 0 < lettersNumber 0 letters := by
  obtain ⟨c, rest, rfl⟩ := List.exists_cons_of_ne_nil hne
  have hle := le_lettersNumber rest (letterValue c)
  obtain ⟨hpos, -⟩ := ofNat_letterValue (h c List.mem_cons_self)
  simp only [lettersNumber, List.foldl_cons, Nat.mul_zero, Nat.zero_add] at hle ⊢
  omega

theorem lettersOf_injective : Function.Injective lettersOf := by
  intro m n h
  have hself : ∀ k, (lettersOf k).map Char.toUpper = lettersOf k := fun k =>
    map_toUpper_of_capitals fun c hc => .inl (isUpper_of_mem_lettersOf c hc)
  rw [← lettersOf_number (hself m), h, lettersOf_number (hself n)]

/-- Columns go by different letters, the last of them by none. -/
theorem columnLetters_inj {i j : Nat} (hi : i < indexBound) (hj : j < indexBound)
    (h : columnLetters i = columnLetters j) : i = j := by
  have hsucc : (i + 1) % indexBound = (j + 1) % indexBound :=
    lettersOf_injective (String.ofList_injective h)
  simp only [indexBound] at hi hj hsucc
  omega

/-! ## Digits -/

namespace Number

theorem digitChar_of_isDigit {c : Char} (h : isDigit c = true) :
    c.toNat - 48 < 10 ∧ (c.toNat - 48).digitChar = c := by
  rw [isDigit_iff_toNat] at h
  have hlt : c.toNat - 48 < 10 := by omega
  refine ⟨hlt, ?_⟩
  rw [← Char.toNat_inj, Nat.toNat_digitChar_of_lt_ten hlt]
  omega

/-- Without the zeros in front of them, digits are the numeral of the number they stand for. -/
theorem toDigits_ofDigits {digits : List Char} (h : ∀ c ∈ digits, isDigit c = true) :
    digits.dropWhile (· = '0')
      = if ofDigits digits = 0 then [] else Nat.toDigits 10 (ofDigits digits) := by
  -- from the back, where both numerals grow
  induction digits using List.reverseRecOn with
  | nil => simp [ofDigits]
  | append_singleton digits c ih =>
    obtain ⟨hlt, hc⟩ := digitChar_of_isDigit (h c (by simp))
    have hnumber : ofDigits (digits ++ [c]) = 10 * ofDigits digits + (c.toNat - 48) := by
      simp [ofDigits]
    have hlast : Nat.toDigits 10 (c.toNat - 48) = [c] := by
      rw [Nat.toDigits_of_lt_base hlt, hc]
    rw [List.dropWhile_append, ih fun d hd => h d (by simp [hd]), hnumber]
    by_cases hzero : ofDigits digits = 0
    · have hself : c = '0' ↔ c.toNat - 48 = 0 := by rw [← hc, Nat.digitChar_eq_zero, hc]
      simp [hzero, hself, hlast, List.dropWhile_cons]
    · have hpos : 0 < ofDigits digits := Nat.pos_of_ne_zero hzero
      have hsum : 10 * ofDigits digits + (c.toNat - 48) ≠ 0 := by omega
      have hne : Nat.toDigits 10 (ofDigits digits) ≠ [] := Nat.toDigits_ne_nil
      simp only [if_neg hzero, if_neg hsum, List.isEmpty_iff, if_neg hne]
      rw [← Nat.toDigits_append_toDigits (by omega) hpos hlt, hlast]

end Number

/-! ## Names -/

namespace Address

variable {letters digits : List Char}

theorem IsName.isIndexed (h : IsName letters digits) : (named letters digits).IsIndexed := by
  have hpos := lettersNumber_pos h.letters_ne_nil h.isAlpha
  refine ⟨?_, ?_⟩
  · rw [named, Nat.sub_add_cancel h.digits_pos]
    exact h.digits_lt
  · rw [named, Nat.sub_add_cancel hpos]
    exact h.letters_lt

/-- What is read from a name has the letters of it as capitals and its digits without the zeros in
front of them. -/
theorem IsName.toList_name (h : IsName letters digits) :
    (named letters digits).name.toList
      = letters.map Char.toUpper ++ digits.dropWhile (· = '0') := by
  have hcol := lettersNumber_pos h.letters_ne_nil h.isAlpha
  have hrow : Number.ofDigits digits ≠ 0 := Nat.ne_of_gt h.digits_pos
  rw [Address.toList_name h.isIndexed, named, Nat.sub_add_cancel hcol,
    Nat.sub_add_cancel h.digits_pos, lettersOf_lettersNumber h.isAlpha,
    Number.toDigits_ofDigits h.isDigit, if_neg hrow]

end Address

namespace Region

/-- A region is read back from its name. -/
theorem parse_name {r : Region} (h : r.last.IsIndexed) : parse r.name = .ok r := by
  have hfirst : r.first.IsIndexed :=
    ⟨Nat.lt_of_le_of_lt (Nat.succ_le_succ r.row_le) h.1,
      Nat.lt_of_le_of_lt (Nat.succ_le_succ r.col_le) h.2⟩
  have hspell := r.first.isSpelling_name
  rw [name]
  split_ifs with hsame
  · have hcolon : r.first.name.toList.dropWhile (· ≠ ':') = [] := by
      simpa [List.dropWhile_eq_nil_iff] using fun c hc =>
        (Address.isWordChar_of_isSpelling hfirst hspell c hc).2
    have hread := Address.parse_of_isSpelling hfirst hspell
    simp only [parse, hcolon, trimText, Address.trim_of_isSpelling hfirst hspell, hread]
    have hcorners := r.spanning_corners
    rw [← hsame] at hcorners
    exact congrArg Except.ok hcorners
  · have htext : s!"{r.first.name}:{r.last.name}"
        = String.ofList (r.first.name.toList ++ ':' :: r.last.name.toList) := by
      simp [← String.toList_inj, toString]
    rw [htext, parse_of_isSpelling hfirst h hspell r.last.isSpelling_name, spanning_corners]

end Region

/-! ## The grammar -/

namespace Address

/-- A text is the name of a cell exactly if it is letters and digits whose numbers fit in 64 bits
and are not zero, and formulas refer to the same texts.  What is read from a name goes by that name
with its letters as capitals and no zeros in front of its digits.  What goes by a name is read back
from it, so no two cells, columns or regions go by the same one. -/
theorem names_exact :
    (∀ (a : Address) (s : String), a.IsIndexed → a.IsSpelling s.toList → parse s = .ok a)
    ∧ (∀ s : String, (∃ a, parse s = .ok a) ↔
        ∃ letters digits, s.toList = letters ++ digits ∧ IsName letters digits)
    ∧ (∀ (s : String) (letters digits : List Char) (a : Address),
        s.toList = letters ++ digits → IsName letters digits → parse s = .ok a →
          a.name.toList = letters.map Char.toUpper ++ digits.dropWhile (· = '0'))
    ∧ (∀ (s : String) (a : Address), reference? s.toList = some a ↔ parse s = .ok a)
    ∧ (∀ i < indexBound, ∀ j < indexBound, columnLetters i = columnLetters j → i = j)
    ∧ ∀ r : Region, r.last.IsIndexed → Region.parse r.name = .ok r := by
  refine ⟨?spelling, ?grammar, ?name, ?reference, ?columns, ?regions⟩
  case spelling =>
    intro a s ha hs
    exact parse_eq_ok_iff.2 (exists_of_isSpelling ha hs)
  case grammar =>
    intro s
    constructor
    · rintro ⟨a, ha⟩
      obtain ⟨letters, digits, hs, hname, -⟩ := parse_eq_ok_iff.1 ha
      exact ⟨letters, digits, hs, hname⟩
    · rintro ⟨letters, digits, hs, hname⟩
      exact ⟨_, hname.parse_eq hs⟩
  case name =>
    intro s letters digits a hs hname ha
    rw [hname.parse_eq hs] at ha
    rw [← Except.ok.inj ha, hname.toList_name]
  case reference =>
    intro s a
    rw [reference?_eq_some_iff, String.ofList_toList]
  case columns =>
    intro i hi j hj
    exact columnLetters_inj hi hj
  case regions =>
    intro r
    exact Region.parse_name

-- The last column that can be named, and the first that cannot.
example : parse "gkgwbylwrxtlpo007" = .ok ⟨6, indexBound - 2⟩
    ∧ parse "GKGWBYLWRXTLPP7" = .error (.columnTooLarge "GKGWBYLWRXTLPP") := by
  decide

end Address

end Worksheet
