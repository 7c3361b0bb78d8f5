import Worksheet.Proofs.Rectangles
import Worksheet.Proofs.Writing

/-!
# Which expressions can be written

An expression can be written if its numbers have numerals, its texts lie in one line, its addresses
are indexed and no operand or argument in it would be taken for something else
(`exists_writes_iff`). The names of functions and cells are spellings of themselves, and a region
can be written from its first corner to its last.
-/

namespace Worksheet

/-! ## Spellings -/

theorem Builtin.map_toUpper_name (f : Builtin) : f.name.toList.map Char.toUpper = f.name.toList :=
  map_toUpper_of_capitals fun c hc => .inl (f.isUpper_of_mem_name c hc)

theorem Address.isSpelling_name (a : Address) : a.IsSpelling a.name.toList := by
  refine map_toUpper_of_capitals fun c hc => ?_
  rw [name, columnLetters, String.toList_append, String.toList_ofList, Nat.toString_eq_repr,
    Nat.toList_repr, List.mem_append] at hc
  exact hc.imp (isUpper_of_mem_lettersOf c) (isDigit_toDigits c)

/-! ## Expressions -/

namespace Expression

mutual

/-- Whether an expression can be written down. -/
def IsWritable : Expression → Prop
  | .empty => True
  | .number x => ∃ s, Number.finite? s = some x
  | .text s => '\n' ∉ s.toList
  | .boolean _ => True
  | .cell a => a.IsIndexed
  | .region r => r.first.IsIndexed ∧ r.last.IsIndexed
  | .badRegion _ => False
  | .comparison _ left right =>
    (left ≠ .empty ∧ ¬ left.IsComparison) ∧ right ≠ .empty ∧ left.IsWritable ∧ right.IsWritable
  | .call _ args => args ≠ [.empty] ∧ AreWritable args
  | .unrecognized _ => False

def AreWritable : List Expression → Prop
  | [] => True
  | e :: rest => e.IsWritable ∧ AreWritable rest

end

end Expression

section Exists

open Expression

mutual

theorem Writes.isWritable : ∀ {e : Expression} {s : List Char}, Writes e s → e.IsWritable
  | _, _, .empty => by simp [IsWritable]
  | _, _, .word hs => by
    cases hs with
    | number hread => exact (IsWritable.eq_def _).mpr ⟨_, hread⟩
    | boolean => simp [IsWritable]
    | cell ha => simpa [IsWritable] using ha
    | region ha hb =>
      simp only [IsWritable, Region.spanning, Address.IsIndexed] at ha hb ⊢
      omega
  | _, _, .text hline => by simpa [IsWritable] using hline
  | _, _, .comparison hleft hright hu hv _ _ _ => by
    rw [IsWritable]
    exact ⟨hleft, hright, hu.isWritable, hv.isWritable⟩
  | _, _, .call _ hargs hinner => by
    rw [IsWritable]
    exact ⟨hargs, hinner.areWritable⟩

theorem WritesAll.areWritable : ∀ {es : List Expression} {t : List Char}, WritesAll es t →
    AreWritable es
  | _, _, .nil => by simp [AreWritable]
  | _, _, .last _ hs _ => by
    rw [AreWritable]
    exact ⟨hs.isWritable, by simp [AreWritable]⟩
  | _, _, .cons _ hs _ _ ht => by
    rw [AreWritable]
    exact ⟨hs.isWritable, ht.areWritable⟩

end

mutual

theorem exists_writes : ∀ {e : Expression}, e.IsWritable → ∃ s, Writes e s
  | .empty, _ => ⟨_, .empty⟩
  | .number x, h => by
    rw [IsWritable] at h
    obtain ⟨s, hs⟩ := h
    have htrim := (Text.isTrimmed_trim s).trim_eq
    refine ⟨Text.trim s, .word (.number ?_ htrim)⟩
    rw [Number.finite?, htrim]
    exact hs
  | .text s, h => by
    rw [IsWritable] at h
    rw [← @String.ofList_toList s]
    exact ⟨_, .text h⟩
  | .boolean b, _ =>
    ⟨(if b then "TRUE" else "FALSE").toList, .word (.boolean (by cases b <;> decide))⟩
  | .cell a, h => by
    rw [IsWritable] at h
    exact ⟨_, .word (.cell h a.isSpelling_name)⟩
  | .region r, h => by
    rw [IsWritable] at h
    rw [← r.spanning_corners]
    exact ⟨_, .word (.region h.1 h.2 r.first.isSpelling_name r.last.isSpelling_name)⟩
  | .badRegion _, h => by simp [IsWritable] at h
  | .comparison op left right, h => by
    rw [IsWritable] at h
    obtain ⟨hleft, hright, hl, hr⟩ := h
    obtain ⟨u, hu⟩ := exists_writes hl
    obtain ⟨v, hv⟩ := exists_writes hr
    exact ⟨_, .comparison hleft hright hu hv isPadding_nil isPadding_nil (.inl rfl)⟩
  | .call f args, h => by
    rw [IsWritable] at h
    obtain ⟨t, ht⟩ := exists_writesAll h.2
    exact ⟨_, .call f.map_toUpper_name h.1 ht⟩
  | .unrecognized _, h => by simp [IsWritable] at h

theorem exists_writesAll : ∀ {es : List Expression}, AreWritable es → ∃ t, WritesAll es t
  | [], _ => ⟨_, .nil⟩
  | [e], h => by
    rw [AreWritable] at h
    obtain ⟨s, hs⟩ := exists_writes h.1
    exact ⟨_, .last isPadding_nil hs isPadding_nil⟩
  | e :: d :: rest, h => by
    rw [AreWritable] at h
    obtain ⟨s, hs⟩ := exists_writes h.1
    obtain ⟨t, ht⟩ := exists_writesAll h.2
    exact ⟨_, .cons isPadding_nil hs isPadding_nil (by simp) ht⟩

end

/-- What can be written at all. -/
theorem exists_writes_iff {e : Expression} : (∃ s, Writes e s) ↔ e.IsWritable :=
  ⟨fun ⟨_, h⟩ => h.isWritable, exists_writes⟩

end Exists

end Worksheet
