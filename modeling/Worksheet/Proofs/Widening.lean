import Worksheet.Delimited.Load
import Worksheet.Proofs.NameGrammar

/-!
# Columns that no header names

Columns are only ever added at the end, so adding as many as the longest record needs is the same
as adding what each record needs when it comes (`widen_cons`).  A column behind the header is
called by the letters of its position in small letters, which are different for different positions
(`letteredColumn_inj`).
-/

namespace Worksheet.Delimited

/-! ## Columns -/

/-- The columns, with as many more as `n` fields need. -/
def grow (columns : List Column) (n : Nat) : List Column :=
  columns ++ (List.range' columns.length (n - columns.length)).map letteredColumn

variable {columns : List Column}

theorem widen_eq_grow (records : List (List String)) :
    widen columns records = grow columns ((records.map List.length).foldl max columns.length) :=
  rfl

theorem length_grow (n : Nat) : (grow columns n).length = max columns.length n := by
  simp only [grow, List.length_append, List.length_map, List.length_range']
  omega

theorem getElem?_grow_of_lt {n c : Nat} (h : c < columns.length) :
    (grow columns n)[c]? = columns[c]? :=
  List.getElem?_append_left h

theorem getElem?_grow_of_le {n c : Nat} (h : columns.length ≤ c) (hc : c < n) :
    (grow columns n)[c]? = some (letteredColumn c) := by
  have hindex : c - columns.length < n - columns.length := by omega
  rw [grow, List.getElem?_append_right h, List.getElem?_map, List.getElem?_range' hindex]
  simp only [Option.map_some, Option.some.injEq]
  congr 1
  omega

theorem grow_grow (m n : Nat) : grow (grow columns m) n = grow columns (max m n) := by
  refine List.ext_getElem? fun c => ?_
  by_cases hold : c < columns.length
  · rw [getElem?_grow_of_lt hold, getElem?_grow_of_lt, getElem?_grow_of_lt hold]
    rw [length_grow]
    omega
  · have hold' : columns.length ≤ c := Nat.le_of_not_lt hold
    by_cases hm : c < m
    · rw [getElem?_grow_of_lt, getElem?_grow_of_le hold' hm, getElem?_grow_of_le hold' (by omega)]
      rw [length_grow]
      omega
    · by_cases hn : c < n
      · rw [getElem?_grow_of_le _ hn, getElem?_grow_of_le hold' (by omega)]
        rw [length_grow]
        omega
      · rw [List.getElem?_eq_none, List.getElem?_eq_none] <;> simp only [length_grow] <;> omega

theorem widen_cons (record : List String) (records : List (List String)) :
    widen columns (record :: records) = widen (grow columns record.length) records := by
  simp only [widen_eq_grow, List.map_cons, List.foldl_cons, grow_grow, length_grow]
  congr 1
  rw [Nat.max_comm columns.length, List.foldl_assoc]
  omega

theorem length_widen_le_iff : ∀ {records : List (List String)} {columns : List Column} {n : Nat},
    (widen columns records).length ≤ n ↔
      columns.length ≤ n ∧ ∀ record ∈ records, record.length ≤ n
  | [], columns, n => by simp [widen]
  | record :: records, columns, n => by
    rw [widen_cons, length_widen_le_iff, length_grow, List.forall_mem_cons, ← and_assoc,
      Nat.max_le]

theorem getElem?_widen_of_lt {c : Nat} (records : List (List String)) (h : c < columns.length) :
    (widen columns records)[c]? = columns[c]? :=
  getElem?_grow_of_lt h

theorem getElem?_widen_of_le {records : List (List String)} {c : Nat} (h : columns.length ≤ c)
    (hc : c < (widen columns records).length) :
    (widen columns records)[c]? = some (letteredColumn c) := by
  rw [widen_eq_grow, length_grow] at hc
  exact getElem?_grow_of_le h (by omega)

/-! ## Letters -/

theorem map_toUpper_lowerChar {c : Char} (h : c.isUpper = true) :
    (Text.lowerChar c).map Char.toUpper = [c] := by
  have hall : ∀ k : Fin 26, (Text.lowerChar (Char.ofNat (65 + k))).map Char.toUpper
      = [Char.ofNat (65 + k)] := by decide
  obtain ⟨hA, hZ⟩ := isUpper_iff_toNat.1 h
  have hc := hall ⟨c.toNat - 65, by omega⟩
  have hsum : 65 + (c.toNat - 65) = c.toNat := by omega
  simp only [hsum, Char.ofNat_toNat] at hc
  exact hc

theorem map_toUpper_lowerAfter : ∀ {letters : List Char} (before : List Char),
    (∀ c ∈ letters, c.isUpper = true) →
      (Text.lowerAfter before letters).map Char.toUpper = letters
  | [], _, _ => rfl
  | c :: letters, before, h => by
    rw [List.forall_mem_cons] at h
    have hsigma : c ≠ 'Σ' := by
      rintro rfl
      exact absurd h.1 (by decide)
    rw [Text.lowerAfter, if_neg hsigma, List.map_append, map_toUpper_lowerChar h.1,
      map_toUpper_lowerAfter (c :: before) h.2, List.singleton_append]

theorem letteredColumn_inj {i j : Nat} (hi : i < indexBound) (hj : j < indexBound)
    (h : (letteredColumn i).id = (letteredColumn j).id) : i = j := by
  have hupper : ∀ k, (Text.lower (columnLetters k).toList).map Char.toUpper
      = (columnLetters k).toList := by
    intro k
    refine map_toUpper_lowerAfter [] ?_
    rw [columnLetters, String.toList_ofList]
    exact isUpper_of_mem_lettersOf
  have hlower : Text.lower (columnLetters i).toList = Text.lower (columnLetters j).toList :=
    String.ofList_injective h
  refine columnLetters_inj hi hj (String.toList_injective ?_)
  rw [← hupper i, ← hupper j, hlower]

theorem nodup_widen_nil {records : List (List String)}
    (h : ∀ record ∈ records, record.length ≤ indexBound) :
    ((widen [] records).map Column.id).Nodup := by
  have hwidth : (widen [] records).length ≤ indexBound :=
    length_widen_le_iff.2 ⟨Nat.zero_le indexBound, h⟩
  have hlettered : ∀ i (hi : i < (widen [] records).length),
      (widen [] records)[i] = letteredColumn i := by
    intro i hi
    have hsome := getElem?_widen_of_le (Nat.zero_le i) hi
    rw [List.getElem?_eq_getElem hi] at hsome
    exact Option.some.inj hsome
  rw [List.Nodup, List.pairwise_map, List.pairwise_iff_getElem]
  intro i j hi hj hij hid
  rw [hlettered i hi, hlettered j hj] at hid
  have hsame := letteredColumn_inj (Nat.lt_of_lt_of_le hi hwidth) (Nat.lt_of_lt_of_le hj hwidth) hid
  omega

end Worksheet.Delimited
