import Worksheet.Proofs.Trimming
import Worksheet.Proofs.Words

/-!
# Writing formulas down

An expression can be written in many ways: names, column letters and truth values in letters of
either case, numbers in any of their numerals, regions from either end of either diagonal, an
inequality with either sign, and blanks around every argument and every operand.  Not every
expression can be written.  What stands before an operator is no comparison, since operators are
read from left to right, an empty operand makes no comparison, and a single empty argument is none.

Whatever is written is one piece (`Writes.isPiece`): a scan passes over it and finds no comma of it
at the top level, nor an operator unless it is a comparison (`Writes.hides_sign`).  It begins and
ends with something that is not blank (`Writes.isTrimmed`).
-/

namespace Worksheet

/-- Whether a text is blanks that may stand inside a call: any but line feeds. -/
def IsPadding (p : List Char) : Prop :=
  ∀ c ∈ p, Text.isBlank c = true ∧ c ≠ '\n'

/-- Whether a text is one of the signs of an operator. -/
def Comparator.IsSpelling (op : Comparator) (sign : List Char) : Prop :=
  sign = op.symbol.toList ∨ op = .notEqual ∧ sign = ['!', '=']

namespace Expression

def IsComparison : Expression → Prop
  | .comparison _ _ _ => True
  | _ => False

mutual

/-- How many comparisons and calls lie inside one another at most. -/
def depth : Expression → Nat
  | .comparison _ left right => max left.depth right.depth + 1
  | .call _ args => depthOfAll args + 1
  | _ => 0

def depthOfAll : List Expression → Nat
  | [] => 0
  | e :: rest => max e.depth (depthOfAll rest)

end

end Expression

mutual

/-- The ways to write an expression down, without blanks around it. -/
inductive Writes : Expression → List Char → Prop
  | empty : Writes .empty []
  | word {e : Expression} {s : List Char} (hs : IsWord e s) : Writes e s
  | text {t : List Char} (hline : '\n' ∉ t) : Writes (.text (String.ofList t)) (quotation t)
  | comparison {op : Comparator} {left right : Expression} {u v p q sign : List Char}
      (hleft : left ≠ .empty ∧ ¬ left.IsComparison) (hright : right ≠ .empty)
      (hu : Writes left u) (hv : Writes right v) (hp : IsPadding p) (hq : IsPadding q)
      (hsign : op.IsSpelling sign) :
      Writes (.comparison op left right) (u ++ (p ++ (sign ++ (q ++ v))))
  | call {f : Builtin} {args : List Expression} {name inner : List Char}
      (hname : name.map Char.toUpper = f.name.toList) (hargs : args ≠ [.empty])
      (hinner : WritesAll args inner) : Writes (.call f args) (name ++ '(' :: (inner ++ [')']))

/-- The ways to write down the arguments of a call, with commas between them. -/
inductive WritesAll : List Expression → List Char → Prop
  | nil : WritesAll [] []
  | last {e : Expression} {s p q : List Char} (hp : IsPadding p) (hs : Writes e s)
      (hq : IsPadding q) : WritesAll [e] (p ++ s ++ q)
  | cons {e : Expression} {rest : List Expression} {s t p q : List Char} (hp : IsPadding p)
      (hs : Writes e s) (hq : IsPadding q) (hne : rest ≠ []) (ht : WritesAll rest t) :
      WritesAll (e :: rest) (p ++ s ++ q ++ ',' :: t)

end

theorem isPadding_nil : IsPadding [] := fun c hc => by cases hc

namespace IsPadding

variable {p : List Char} {c : Char}

theorem not_mem (hp : IsPadding p) (hc : Text.isBlank c = false) : c ∉ p := by
  intro hmem
  rw [(hp c hmem).1] at hc
  cases hc

theorem isPlain (hp : IsPadding p) (hc : c ∈ p) : Scan.IsPlain c := by
  refine ⟨?_, ?_, ?_⟩ <;> rintro rfl <;> exact hp.not_mem rfl hc

theorem not_isSign (hp : IsPadding p) (hc : c ∈ p) : ¬ Scan.IsSign c := by
  rintro (rfl | rfl | rfl | rfl) <;> exact hp.not_mem rfl hc

end IsPadding

/-! ## Pieces -/

/-- Whether a text is one piece wherever it stands: a scan passes over it and finds no comma at the
top level, and it lies in one line. -/
structure IsPiece (s : List Char) : Prop where
  closed : Scan.Closed s
  hides_comma : Scan.Hides (· = ',') Scan.start s
  newline : '\n' ∉ s

namespace IsPiece

variable {u v : List Char}

theorem of_isPlain (h : ∀ c ∈ u, Scan.IsPlain c ∧ c ≠ ',' ∧ c ≠ '\n') : IsPiece u where
  closed := Scan.closed_of_isPlain fun c hc => (h c hc).1
  hides_comma := Scan.hides_of_isPlain (fun c hc => (h c hc).1) fun c hc _ => (h c hc).2.1
  newline := fun hmem => (h _ hmem).2.2 rfl

theorem after_start (hu : IsPiece u) : Scan.start.after u = Scan.start :=
  hu.closed.after_eq 0

theorem append (hu : IsPiece u) (hv : IsPiece v) : IsPiece (u ++ v) where
  closed := hu.closed.append hv.closed
  hides_comma := by
    rw [Scan.hides_append, hu.after_start]
    exact ⟨hu.hides_comma, hv.hides_comma⟩
  newline := by simp [hu.newline, hv.newline]

theorem of_word (h : ∀ c ∈ u, IsWordChar c) : IsPiece u :=
  of_isPlain fun c hc => ⟨(h c hc).isPlain, (h c hc).ne_comma, by
    rintro rfl
    exact absurd (h _ hc) (by decide)⟩

theorem of_isPadding (h : IsPadding u) : IsPiece u := by
  refine of_isPlain fun c hc => ⟨h.isPlain hc, ?_, (h c hc).2⟩
  rintro rfl
  exact h.not_mem rfl hc

theorem of_quotation {t : List Char} (h : '\n' ∉ t) : IsPiece (quotation t) where
  closed := Scan.closed_quotation t
  hides_comma := Scan.hides_quotation (fun _ => by simp) t
  newline := by simpa [quotation, mem_doubled] using h

/-- In parentheses commas may be anywhere. -/
theorem parenthesized (hu : Scan.Closed u) (h : '\n' ∉ u) : IsPiece ('(' :: (u ++ [')'])) where
  closed := hu.parenthesized
  hides_comma := hu.hides_parenthesized (by omega) fun _ => by decide
  newline := by simp [h]

end IsPiece

theorem Comparator.IsSpelling.isSign {op : Comparator} {sign : List Char}
    (h : op.IsSpelling sign) : sign ≠ [] ∧ ∀ c ∈ sign, Scan.IsSign c := by
  rcases h with rfl | ⟨-, rfl⟩
  · cases op <;> simp [symbol, Scan.IsSign]
  · simp [Scan.IsSign]

theorem Comparator.IsSpelling.isPiece {op : Comparator} {sign : List Char}
    (h : op.IsSpelling sign) : IsPiece sign := by
  refine IsPiece.of_isPlain fun c hc => ?_
  rcases h.isSign.2 c hc with rfl | rfl | rfl | rfl <;> simp [Scan.IsPlain]

mutual

/-- Whatever is written is one piece. -/
theorem Writes.isPiece : ∀ {e : Expression} {s : List Char}, Writes e s → IsPiece s
  | _, _, .empty => .of_word (by simp)
  | _, _, .word hs => .of_word hs.isWordChar
  | _, _, .text hline => .of_quotation hline
  | _, _, .comparison _ _ hu hv hp hq hsign =>
    hu.isPiece.append ((IsPiece.of_isPadding hp).append
      (hsign.isPiece.append ((IsPiece.of_isPadding hq).append hv.isPiece)))
  | _, _, .call hname _ hinner => by
    obtain ⟨hclosed, hline⟩ := hinner.closed
    have hletters := IsPiece.of_word (Builtin.isWordChar_of_map_toUpper hname).2
    exact hletters.append (.parenthesized hclosed hline)

theorem WritesAll.closed : ∀ {es : List Expression} {t : List Char}, WritesAll es t →
    Scan.Closed t ∧ '\n' ∉ t
  | _, _, .nil => ⟨Scan.closed_nil, by simp⟩
  | _, _, .last hp hs hq => by
    have h := ((IsPiece.of_isPadding hp).append hs.isPiece).append (.of_isPadding hq)
    exact ⟨h.closed, h.newline⟩
  | _, _, .cons hp hs hq _ ht => by
    have h := ((IsPiece.of_isPadding hp).append hs.isPiece).append (.of_isPadding hq)
    obtain ⟨hclosed, hline⟩ := ht.closed
    have hcomma : Scan.Closed [','] := Scan.closed_of_isPlain (by simp [Scan.IsPlain])
    exact ⟨h.closed.append (hcomma.append hclosed), by simpa [hline] using h.newline⟩

end

namespace Writes

variable {e : Expression} {s : List Char}

theorem ne_nil (h : Writes e s) (he : e ≠ .empty) : s ≠ [] := by
  cases h with
  | empty => exact absurd rfl he
  | word hs => exact hs.ne_nil
  | text hline => simp [quotation]
  | comparison hleft hright hu hv hp hq hsign => simp [hsign.isSign.1]
  | call hname hargs hinner => simp

/-- An operator at the top level makes a comparison. -/
theorem hides_sign (h : Writes e s) (he : ¬ e.IsComparison) :
    Scan.Hides Scan.IsSign Scan.start s := by
  cases h with
  | empty => trivial
  | word hs => exact Scan.hides_sign_word hs.isWordChar
  | text hline => exact Scan.hides_quotation (fun _ => by simp [Scan.IsSign]) _
  | comparison => exact absurd trivial he
  | call hname hargs hinner =>
    have hletters := (Builtin.isWordChar_of_map_toUpper hname).2
    have hopen := hinner.closed.1.hides_parenthesized (P := Scan.IsSign) (d := 0) (by omega)
      fun _ => by simp [Scan.IsSign]
    rw [Scan.hides_append, (IsPiece.of_word hletters).after_start]
    exact ⟨Scan.hides_sign_word hletters, hopen⟩

/-- What is followed by something without quotes is no quotation. -/
theorem quotation?_append (h : Writes e s) (he : e ≠ .empty ∧ ¬ e.IsComparison)
    {middle : List Char} (hne : middle ≠ []) (hquote : '"' ∉ middle) (rest : List Char) :
    quotation? (s ++ (middle ++ rest)) = none := by
  cases h with
  | empty => exact absurd rfl he.1
  | word hs => exact quotation?_word hs.ne_nil hs.isWordChar _
  | text hline =>
    obtain ⟨c, more, rfl⟩ := List.exists_cons_of_ne_nil hne
    have hc : c ≠ '"' := fun heq => hquote (heq ▸ List.mem_cons_self)
    exact quotation?_quotation_append hc _ (more ++ rest)
  | comparison => exact absurd trivial he.2
  | @call f args name inner hname hargs hinner =>
    obtain ⟨hnil, hletters⟩ := Builtin.isWordChar_of_map_toUpper hname
    rw [List.append_assoc]
    exact quotation?_word hnil hletters _

/-- Whatever is written begins and ends with something that is not blank. -/
theorem isTrimmed : ∀ {e : Expression} {s : List Char}, Writes e s → Text.IsTrimmed s
  | _, _, .empty => ⟨by simp, by simp⟩
  | _, _, .word hs => Text.isTrimmed_of_forall fun c hc => (hs.isWordChar c hc).not_isBlank
  | _, _, .text hline => by
    have hquote : Text.IsTrimmed ['"'] := Text.isTrimmed_singleton rfl
    exact hquote.append hquote (by simp) (by simp) _
  | _, _, @comparison _ _ _ _ _ p q sign hleft hright hu hv _ _ _ => by
    have hends := hu.isTrimmed.append hv.isTrimmed (hu.ne_nil hleft.1) (hv.ne_nil hright)
    simpa using hends (p ++ (sign ++ q))
  | _, _, @call _ _ name inner hname _ _ => by
    obtain ⟨hne, hword⟩ := Builtin.isWordChar_of_map_toUpper hname
    have hletters : Text.IsTrimmed name :=
      Text.isTrimmed_of_forall fun c hc => (hword c hc).not_isBlank
    have hclose : Text.IsTrimmed [')'] := Text.isTrimmed_singleton rfl
    exact hletters.append hclose hne (by simp) ('(' :: inner)

end Writes

end Worksheet
