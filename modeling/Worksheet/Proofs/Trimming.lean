import Mathlib.Data.List.TakeWhile
import Worksheet.Text.Blank

/-!
# Trimming

A text without blanks at its two ends is what trimming leaves of it, whatever blanks are put around
it (`IsTrimmed.trim_padded`), and trimming always leaves such a text.  So blanks around a text never
matter once it is trimmed (`trim_padded`).
-/

namespace Worksheet.Text

/-- Whether a text has no blank at either end. -/
structure IsTrimmed (s : List Char) : Prop where
  head : ∀ c ∈ s.head?, isBlank c = false
  last : ∀ c ∈ s.getLast?, isBlank c = false

variable {s u v p q : List Char}

theorem IsTrimmed.append (hu : IsTrimmed u) (hv : IsTrimmed v) (hune : u ≠ []) (hvne : v ≠ [])
    (middle : List Char) : IsTrimmed (u ++ (middle ++ v)) where
  head := by
    obtain ⟨c, u, rfl⟩ := List.exists_cons_of_ne_nil hune
    exact hu.head
  last := by
    intro c hc
    rw [← List.append_assoc, List.getLast?_append, List.getLast?_eq_some_getLast hvne,
      Option.some_or] at hc
    exact hv.last c (by rwa [List.getLast?_eq_some_getLast hvne])

theorem IsTrimmed.trim_eq (h : IsTrimmed s) : trim s = s :=
  trim_eq_self h.head h.last

theorem isTrimmed_of_forall (h : ∀ c ∈ s, isBlank c = false) : IsTrimmed s where
  head := fun c hc => h c (List.mem_of_mem_head? hc)
  last := fun c hc => h c (List.mem_of_getLast? hc)

theorem isTrimmed_singleton {c : Char} (h : isBlank c = false) : IsTrimmed [c] :=
  isTrimmed_of_forall (by simpa using h)

theorem IsTrimmed.trim_padded (hs : IsTrimmed s) (hp : ∀ c ∈ p, isBlank c = true)
    (hq : ∀ c ∈ q, isBlank c = true) : trim (p ++ s ++ q) = s := by
  rcases List.eq_nil_or_concat s with rfl | ⟨init, d, rfl⟩
  · have hblank : allBlank (p ++ [] ++ q) = true := by
      refine List.all_eq_true.2 fun c hc => ?_
      rw [List.append_nil] at hc
      exact (List.mem_append.1 hc).elim (hp c) (hq c)
    rw [trim, trimStart_eq_nil_iff.2 hblank]
    rfl
  · rw [List.concat_eq_append] at hs ⊢
    have hstart : trimStart (p ++ (init ++ [d]) ++ q) = init ++ [d] ++ q := by
      rw [List.append_assoc, trimStart, List.dropWhile_append_of_pos hp]
      refine trimStart_eq_self fun c hc => hs.head c ?_
      cases init <;> exact hc
    have hend : trimStart (init ++ [d] ++ q).reverse = (init ++ [d]).reverse := by
      rw [List.reverse_append, trimStart,
        List.dropWhile_append_of_pos fun c hc => hq c (List.mem_reverse.1 hc)]
      refine trimStart_eq_self fun c hc => hs.last c ?_
      rwa [List.head?_reverse] at hc
    rw [trim, hstart, trimEnd, hend, List.reverse_reverse]

/-! ## What trimming takes away -/

theorem isBlank_head_trimStart (s : List Char) :
    ∀ c ∈ (trimStart s).head?, isBlank c = false := by
  intro c hc
  have hnot := List.head?_dropWhile_not isBlank s
  rw [trimStart] at hc
  rw [hc] at hnot
  simpa using hnot

@[simp]
theorem trimStart_trimStart (s : List Char) : trimStart (trimStart s) = trimStart s :=
  trimStart_eq_self (isBlank_head_trimStart s)

theorem exists_trimEnd (s : List Char) :
    ∃ q, (∀ c ∈ q, isBlank c = true) ∧ trimEnd s ++ q = s := by
  refine ⟨(s.reverse.takeWhile isBlank).reverse, fun c hc => ?_, ?_⟩
  · exact List.mem_takeWhile_imp (List.mem_reverse.1 hc)
  · rw [trimEnd, trimStart, ← List.reverse_append, List.takeWhile_append_dropWhile,
      List.reverse_reverse]

theorem exists_trim (s : List Char) :
    ∃ p q, (∀ c ∈ p, isBlank c = true) ∧ (∀ c ∈ q, isBlank c = true) ∧ p ++ trim s ++ q = s := by
  obtain ⟨q, hq, hend⟩ := exists_trimEnd (trimStart s)
  refine ⟨s.takeWhile isBlank, q, fun c hc => List.mem_takeWhile_imp hc, hq, ?_⟩
  rw [trim, List.append_assoc, hend, trimStart, List.takeWhile_append_dropWhile]

theorem trim_eq_nil_iff {s : List Char} : trim s = [] ↔ allBlank s = true := by
  refine ⟨fun h => ?_, fun h => ?_⟩
  · obtain ⟨p, q, hp, hq, hs⟩ := exists_trim s
    rw [h, List.append_nil] at hs
    rw [← hs, allBlank, List.all_eq_true]
    exact fun c hc => (List.mem_append.1 hc).elim (hp c) (hq c)
  · rw [trim, trimStart_eq_nil_iff.2 h]
    rfl

theorem isTrimmed_trim (s : List Char) : IsTrimmed (trim s) := by
  constructor
  · intro c hc
    obtain ⟨q, -, hend⟩ := exists_trimEnd (trimStart s)
    refine isBlank_head_trimStart s c ?_
    rw [← hend, List.head?_append]
    rw [trim] at hc
    rw [hc]
    rfl
  · intro c hc
    rw [trim, trimEnd, List.getLast?_reverse] at hc
    exact isBlank_head_trimStart _ c hc

/-- Blanks around a text make no difference to what trimming leaves of it. -/
theorem trim_padded (s : List Char) (hp : ∀ c ∈ p, isBlank c = true)
    (hq : ∀ c ∈ q, isBlank c = true) : trim (p ++ s ++ q) = trim s := by
  obtain ⟨p', q', hp', hq', hs⟩ := exists_trim s
  have hpad : p ++ s ++ q = (p ++ p') ++ trim s ++ (q' ++ q) :=
    calc p ++ s ++ q = p ++ (p' ++ trim s ++ q') ++ q := by rw [hs]
      _ = (p ++ p') ++ trim s ++ (q' ++ q) := by simp only [List.append_assoc]
  rw [hpad]
  refine (isTrimmed_trim s).trim_padded (fun c hc => ?_) fun c hc => ?_
  · exact (List.mem_append.1 hc).elim (hp c) (hp' c)
  · exact (List.mem_append.1 hc).elim (hq' c) (hq c)

/-- After a character that is not blank only blanks at the end are taken away. -/
theorem trimEnd_cons {c : Char} (hc : isBlank c = false) (s : List Char) :
    trimEnd (c :: s) = c :: trimEnd s := by
  rw [trimEnd, trimEnd, trimStart, List.reverse_cons, List.dropWhile_append]
  split
  · rename_i hnil
    have hempty : trimStart s.reverse = [] := by simpa [trimStart] using hnil
    simp [hempty, hc]
  · simp [trimStart]

theorem trim_cons {c : Char} (hc : isBlank c = false) (s : List Char) :
    trim (c :: s) = c :: trimEnd s := by
  rw [trim, trimStart_eq_self (by simpa using hc), trimEnd_cons hc]

theorem trim_trimEnd (s : List Char) : trim (trimEnd s) = trim s := by
  obtain ⟨q, hq, hend⟩ := exists_trimEnd s
  have hpadded := trim_padded (p := []) (trimEnd s) (by simp) hq
  rwa [List.nil_append, hend, eq_comm] at hpadded

end Worksheet.Text
