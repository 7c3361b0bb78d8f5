import Worksheet.Formula.Reading
import Worksheet.Proofs.Nesting

/-!
# Quotations

A text is quoted by writing its quotes twice and one more at either end.  A quotation is read back
as its text (`quotation?_quotation`), and with anything but a quote after it it is no quotation any
more (`quotation?_quotation_append`).  A scan passes over it whatever it has inside: only its quotes
can be at the top level (`Scan.hides_quotation`).
-/

namespace Worksheet

/-- A text with every quote in it written twice. -/
def doubled : List Char → List Char
  | [] => []
  | c :: rest => if c = '"' then '"' :: '"' :: doubled rest else c :: doubled rest

def quotation (text : List Char) : List Char :=
  '"' :: (doubled text ++ ['"'])

theorem mem_doubled {c : Char} : ∀ {text : List Char}, c ∈ doubled text ↔ c ∈ text
  | [] => by simp [doubled]
  | d :: rest => by
    rw [doubled]
    split_ifs with hd <;> simp [hd, @mem_doubled c rest]

/-! ## Reading -/

theorem unquoted?_cons {c : Char} (h : c ≠ '"') (rest : List Char) :
    unquoted? (c :: rest) = (unquoted? rest).map (c :: ·) := by
  cases rest <;> simp [unquoted?, h]

theorem unquoted?_doubled : ∀ text : List Char, unquoted? (doubled text) = some text
  | [] => rfl
  | c :: rest => by
    rw [doubled]
    split_ifs with hc
    · simp [unquoted?, unquoted?_doubled rest, hc]
    · rw [unquoted?_cons hc, unquoted?_doubled rest]
      rfl

/-- A quote that stands alone ends a quotation too early. -/
theorem unquoted?_eq_none {c : Char} (h : c ≠ '"') (rest : List Char) : ∀ text : List Char,
    unquoted? (doubled text ++ '"' :: c :: rest) = none
  | [] => by simp [doubled, unquoted?, h]
  | d :: text => by
    rw [doubled]
    split_ifs with hd
    · simp [unquoted?, unquoted?_eq_none h rest text]
    · rw [List.cons_append, unquoted?_cons hd, unquoted?_eq_none h rest text]
      rfl

theorem quotation?_quotation (text : List Char) : quotation? (quotation text) = some text := by
  simp [quotation?, quotation, unquoted?_doubled]

theorem quotation?_eq_none {c : Char} (h : c ≠ '"') (rest : List Char) :
    quotation? (c :: rest) = none := by
  unfold quotation?
  split
  · rename_i heq
    exact absurd (List.cons.inj heq).1 h
  · rfl

theorem quotation?_quotation_append {c : Char} (h : c ≠ '"') (text rest : List Char) :
    quotation? (quotation text ++ c :: rest) = none := by
  have hinner : doubled text ++ ['"'] ++ c :: rest = doubled text ++ '"' :: c :: rest := by simp
  rw [quotation, List.cons_append, hinner]
  simp only [quotation?]
  split_ifs with hlast
  · rcases List.eq_nil_or_concat rest with rfl | ⟨init, d, rfl⟩
    · simp at hlast
      exact absurd hlast h
    · have hdrop : (doubled text ++ '"' :: c :: (init ++ [d])).dropLast
          = doubled text ++ '"' :: c :: init := by
        rw [← List.cons_append, ← List.cons_append, ← List.append_assoc, List.dropLast_concat]
      rw [List.concat_eq_append, hdrop, unquoted?_eq_none h]
  · rfl

/-! ## Scanning -/

namespace Scan

variable {P : Char → Prop} {d : Int}

theorem after_doubled (d : Int) : ∀ text : List Char, after ⟨true, d⟩ (doubled text) = ⟨true, d⟩
  | [] => rfl
  | c :: rest => by
    rw [doubled]
    split_ifs with hc
    · simp [next, after_doubled d rest]
    · simp [next, hc, after_doubled d rest]

/-- Between the two quotes of a pair a scan is outside of the quotation. -/
theorem hides_doubled (hP : d = 0 → ¬ P '"') : ∀ text : List Char,
    Hides P ⟨true, d⟩ (doubled text)
  | [] => trivial
  | c :: rest => by
    have ih := hides_doubled hP rest
    rw [doubled]
    split_ifs with hc
    · simpa [Hides, next, atTop, ih] using hP
    · simp [Hides, next, atTop, hc, ih]

theorem hides_quotation (hP : d = 0 → ¬ P '"') (text : List Char) :
    Hides P ⟨false, d⟩ (quotation text) := by
  have hopen : next ⟨false, d⟩ '"' = ⟨true, d⟩ := rfl
  rw [quotation, Hides, hopen, hides_append, after_doubled]
  refine ⟨fun htop => hP (by simpa [atTop] using htop), hides_doubled hP text, ?_⟩
  exact ⟨fun htop => by simp [atTop] at htop, trivial⟩

theorem closed_quotation (text : List Char) : Closed (quotation text) where
  after_eq := by
    intro d
    have hopen : next ⟨false, d⟩ '"' = ⟨true, d⟩ := rfl
    rw [quotation, after_cons, hopen, after_append, after_doubled]
    rfl
  below := fun d hd => hides_quotation (fun h0 => absurd h0 (by omega)) text

end Scan

end Worksheet
