import Mathlib
import Worksheet.Proofs.Writing

/-!
# Reading back what is written

Three scans look for the outermost level of a text: one for its commas, one for its first operator
and one for the quote that ends it.  On whatever is written for an expression they agree with how it
was put together, so each argument has the shape of the expression it was written for
(`Shape.ofArgument_comparison`, `Shape.ofArgument_call`) and commas divide a list where they were
written (`WritesAll.mapM_pieces`).  Hence whatever is written for an expression is read as it, as
soon as there is room for its levels (`Writes.build_eq`), and so is a formula.
-/

namespace Worksheet

theorem Builtin.ofName?_of_map_toUpper {f : Builtin} {name : List Char}
    (h : name.map Char.toUpper = f.name.toList) : ofName? name = some f := by
  have hself : all.find? (fun g => g.name = f.name) = some f := by
    cases f <;> rfl
  rw [ofName?, h, String.ofList_toList]
  exact hself

theorem Text.allBlank_eq_false {s : List Char} {c : Char} (hc : c ∈ s)
    (h : isBlank c = false) : allBlank s = false := by
  by_contra hall
  rw [Bool.not_eq_false] at hall
  rw [List.all_eq_true.1 hall c hc] at h
  cases h

theorem Writes.exists_not_isBlank {e : Expression} {s : List Char} (h : Writes e s)
    (he : e ≠ .empty) : ∃ c ∈ s, Text.isBlank c = false := by
  obtain ⟨c, rest, rfl⟩ := List.exists_cons_of_ne_nil (h.ne_nil he)
  exact ⟨c, List.mem_cons_self, h.isTrimmed.head c rfl⟩

/-! ## Comparisons -/

theorem Scan.Hides.head {P : Char → Prop} {s : List Char} (h : Hides P start s) :
    ∀ c ∈ s.head?, ¬ P c := by
  intro c hc
  cases s with
  | nil => cases hc
  | cons d rest =>
    cases hc
    exact h.1 rfl

theorem Writes.head_not_isSign {e : Expression} {s : List Char} (h : Writes e s) :
    ∀ c ∈ s.head?, ¬ Scan.IsSign c := by
  by_cases he : e.IsComparison
  · cases h with
    | comparison hleft hright hu hv =>
      obtain ⟨c, rest, rfl⟩ := List.exists_cons_of_ne_nil (hu.ne_nil hleft.1)
      exact (hu.hides_sign hleft.2).head
    | word hs => cases hs <;> exact absurd he id
    | _ => exact absurd he id
  · exact (h.hides_sign he).head

/-- The sign of an operator is read whole, and no further. -/
theorem Comparator.leading?_of_isSpelling {op : Comparator} {sign rest : List Char}
    (h : op.IsSpelling sign) (hrest : ∀ c ∈ rest.head?, ¬ Scan.IsSign c) :
    leading? (sign ++ rest) = some (op, rest) := by
  rcases h with rfl | ⟨rfl, rfl⟩
  · -- a one-character sign could be continued by the next one
    cases rest with
    | nil => cases op <;> rfl
    | cons c rest =>
      have hc := hrest c rfl
      simp only [Scan.IsSign, not_or] at hc
      cases op <;> simp [symbol, leading?, hc]
  · rfl

theorem Scan.comparison?_sign {op : Comparator} {sign rest : List Char}
    (h : op.IsSpelling sign) (hrest : ∀ c ∈ rest.head?, ¬ IsSign c) :
    start.comparison? (sign ++ rest) = some ([], op, rest) := by
  have hleading := Comparator.leading?_of_isSpelling h hrest
  obtain ⟨c, more, rfl⟩ := List.exists_cons_of_ne_nil h.isSign.1
  rw [List.cons_append] at hleading ⊢
  have htop : start.atTop = true := rfl
  rw [comparison?, htop, if_pos rfl, hleading]

theorem Writes.head_padded {e : Expression} {s q : List Char} (h : Writes e s)
    (hq : IsPadding q) : ∀ c ∈ (q ++ s).head?, ¬ Scan.IsSign c := by
  cases q with
  | nil => exact h.head_not_isSign
  | cons d q =>
    intro c hc
    cases hc
    exact hq.not_isSign List.mem_cons_self

/-- The first operator after an operand is the one that was written there. -/
theorem Writes.comparison?_append {e : Expression} {u p sign rest : List Char} {op : Comparator}
    (hu : Writes e u) (he : ¬ e.IsComparison) (hp : IsPadding p) (hsign : op.IsSpelling sign)
    (hrest : ∀ c ∈ rest.head?, ¬ Scan.IsSign c) :
    Scan.start.comparison? (u ++ (p ++ (sign ++ rest))) = some (u ++ p, op, rest) := by
  have hhides : Scan.Hides Scan.IsSign Scan.start (u ++ p) := by
    rw [Scan.hides_append]
    exact ⟨hu.hides_sign he,
      Scan.hides_of_isPlain (fun _ => hp.isPlain) fun _ hc _ => hp.not_isSign hc⟩
  have hafter := (hu.isPiece.append (.of_isPadding hp)).after_start
  rw [← List.append_assoc, Scan.comparison?_append hhides, hafter,
    Scan.comparison?_sign hsign hrest]
  simp

namespace Shape

theorem ofArgument_padded {s p q : List Char} (hs : Text.IsTrimmed s) (hp : IsPadding p)
    (hq : IsPadding q) : ofArgument (p ++ s ++ q) = ofArgument s := by
  have hpadded := hs.trim_padded (fun c hc => (hp c hc).1) fun c hc => (hq c hc).1
  simp only [ofArgument, hpadded, hs.trim_eq]

theorem ofArgument_nil : ofArgument [] = .leaf .empty := rfl

theorem ofArgument_quotation {t : List Char} (hline : '\n' ∉ t) :
    ofArgument (quotation t) = .leaf (.text (String.ofList t)) := by
  have htrim := (Writes.text hline).isTrimmed.trim_eq
  have hne : quotation t ≠ [] := by simp [quotation]
  simp only [ofArgument, htrim, if_neg hne, quotation?_quotation]

theorem ofArgument_comparison {op : Comparator} {left right : Expression}
    {u v p q sign : List Char} (hleft : left ≠ .empty ∧ ¬ left.IsComparison)
    (hright : right ≠ .empty) (hu : Writes left u) (hv : Writes right v) (hp : IsPadding p)
    (hq : IsPadding q) (hsign : op.IsSpelling sign) :
    ofArgument (u ++ (p ++ (sign ++ (q ++ v)))) = .comparison op (u ++ p) (q ++ v) := by
  have htrim := (Writes.comparison hleft hright hu hv hp hq hsign).isTrimmed.trim_eq
  have hne : u ++ (p ++ (sign ++ (q ++ v))) ≠ [] := by simp [hsign.isSign.1]
  have hquote : quotation? (u ++ (p ++ (sign ++ (q ++ v)))) = none := by
    have hmiddle : '"' ∉ p ++ sign := by
      intro hmem
      rcases List.mem_append.1 hmem with hmem | hmem
      · exact hp.not_mem rfl hmem
      · exact absurd (hsign.isSign.2 _ hmem) (by simp [Scan.IsSign])
    rw [← List.append_assoc p]
    exact hu.quotation?_append hleft (by simp [hsign.isSign.1]) hmiddle _
  have hcomparison : comparison? (u ++ (p ++ (sign ++ (q ++ v))))
      = some (.comparison op (u ++ p) (q ++ v)) := by
    obtain ⟨c, hc, hcb⟩ := hu.exists_not_isBlank hleft.1
    obtain ⟨d, hd, hdb⟩ := hv.exists_not_isBlank hright
    simp only [comparison?, hu.comparison?_append hleft.2 hp hsign (hv.head_padded hq),
      Text.allBlank_eq_false (List.mem_append_left p hc) hcb,
      Text.allBlank_eq_false (List.mem_append_right q hd) hdb]
    rfl
  simp only [ofArgument, htrim, if_neg hne, hquote, hcomparison]

theorem ofArgument_call {f : Builtin} {args : List Expression} {name inner : List Char}
    (hname : name.map Char.toUpper = f.name.toList) (hargs : args ≠ [.empty])
    (hinner : WritesAll args inner) :
    ofArgument (name ++ '(' :: (inner ++ [')'])) = .call f (splitArguments inner) := by
  have hwrites := Writes.call hname hargs hinner
  have htrim := hwrites.isTrimmed.trim_eq
  obtain ⟨hnil, halpha⟩ := Builtin.isAlpha_of_map_toUpper hname
  have hcall := call?_eq_some_iff.2 ⟨rfl, hnil, halpha, hinner.closed.2⟩
  have hquote : quotation? (name ++ '(' :: (inner ++ [')'])) = none :=
    quotation?_word hnil (Builtin.isWordChar_of_map_toUpper hname).2 _
  have hcomparison : comparison? (name ++ '(' :: (inner ++ [')'])) = none := by
    rw [comparison?, Scan.comparison?_eq_none (hwrites.hides_sign id)]
  have hne : name ++ '(' :: (inner ++ [')']) ≠ [] := by simp
  simp only [ofArgument, htrim, if_neg hne, hquote, hcomparison, hcall,
    Builtin.ofName?_of_map_toUpper hname]

end Shape

/-! ## Arguments -/

theorem WritesAll.allBlank_eq_false {es : List Expression} {t : List Char} (h : WritesAll es t)
    (hne : es ≠ []) (hes : es ≠ [.empty]) : Text.allBlank t = false := by
  cases h with
  | nil => exact absurd rfl hne
  | last hp hs hq =>
    obtain ⟨c, hc, hblank⟩ := hs.exists_not_isBlank fun he => hes (by rw [he])
    exact Text.allBlank_eq_false (by simp [hc]) hblank
  | cons => exact Text.allBlank_eq_false (c := ',') (by simp) rfl

/-- After one argument and a comma the scan for commas starts anew. -/
theorem IsPiece.pieces_append_comma {u : List Char} (h : IsPiece u) (t : List Char) :
    Scan.start.pieces (u ++ ',' :: t) = u :: Scan.start.pieces t := by
  have hcomma : (Scan.start.after u).pieces (',' :: t) = [] :: Scan.start.pieces t := by
    rw [h.after_start]
    rfl
  simpa using Scan.pieces_append h.hides_comma hcomma

theorem IsPiece.padded {s p q : List Char} (hs : IsPiece s) (hp : IsPadding p)
    (hq : IsPadding q) : IsPiece (p ++ s ++ q) :=
  ((IsPiece.of_isPadding hp).append hs).append (.of_isPadding hq)

mutual

/-- Whatever is written for an expression is read as it, given room for its levels. -/
theorem Writes.build_eq : ∀ {e : Expression} {s : List Char}, Writes e s → ∀ {room : Nat},
    e.depth ≤ room → (Shape.ofArgument s).build room = some e
  | _, _, .empty, _, _ => by rw [Shape.ofArgument_nil, Shape.build]
  | _, _, .word hs, room, _ => by
    rw [Shape.ofArgument_word hs.ne_nil hs.isWordChar, Shape.word_eq hs, Shape.build]
  | _, _, .text hline, room, _ => by
    rw [Shape.ofArgument_quotation hline, Shape.build]
  | _, _, .comparison _ _ _ _ _ _ _, 0, hroom => by simp [Expression.depth] at hroom
  | _, _, @Writes.comparison _ left right u v p q _ hleft hright hu hv hp hq hsign, room + 1,
      hroom => by
    rw [Expression.depth] at hroom
    have hl : (Shape.ofArgument (u ++ p)).build room = some left := by
      rw [← hu.build_eq (show left.depth ≤ room by omega)]
      exact congrArg _ (Shape.ofArgument_padded hu.isTrimmed isPadding_nil hp)
    have hr : (Shape.ofArgument (q ++ v)).build room = some right := by
      rw [← hv.build_eq (show right.depth ≤ room by omega),
        ← Shape.ofArgument_padded hv.isTrimmed hq isPadding_nil, List.append_nil]
    rw [Shape.ofArgument_comparison hleft hright hu hv hp hq hsign, Shape.build, hl, hr]
    rfl
  | _, _, .call _ _ _, 0, hroom => by simp [Expression.depth] at hroom
  | _, _, @Writes.call f args _ inner hname hargs hinner, room + 1, hroom => by
    rw [Expression.depth] at hroom
    have hes : (splitArguments inner).mapM (fun arg => (Shape.ofArgument arg).build room)
        = some args := by
      by_cases hne : args = []
      · subst hne
        cases hinner
        rfl
      · rw [splitArguments, hinner.allBlank_eq_false hne hargs]
        exact hinner.mapM_pieces hne (by omega)
    rw [Shape.ofArgument_call hname hargs hinner, Shape.build, hes]
    rfl

/-- Commas divide what is written for the arguments of a call where they were written. -/
theorem WritesAll.mapM_pieces : ∀ {es : List Expression} {t : List Char}, WritesAll es t →
    es ≠ [] → ∀ {room : Nat}, Expression.depthOfAll es ≤ room →
      (Scan.start.pieces t).mapM (fun arg => (Shape.ofArgument arg).build room) = some es
  | _, _, .nil, hne, _, _ => absurd rfl hne
  | _, _, .last hp hs hq, _, room, hroom => by
    rw [Expression.depthOfAll] at hroom
    have he := @Writes.build_eq _ _ hs room (by omega)
    rw [Scan.pieces_eq_singleton (hs.isPiece.padded hp hq).hides_comma, List.mapM_cons,
      Shape.ofArgument_padded hs.isTrimmed hp hq, he]
    rfl
  | _, _, .cons hp hs hq hne ht, _, room, hroom => by
    rw [Expression.depthOfAll] at hroom
    have he := @Writes.build_eq _ _ hs room (by omega)
    have hes := @WritesAll.mapM_pieces _ _ ht hne room (by omega)
    rw [(hs.isPiece.padded hp hq).pieces_append_comma, List.mapM_cons,
      Shape.ofArgument_padded hs.isTrimmed hp hq, he, hes]
    rfl

end

/-! ## Formulas -/

/-- Whether an expression may be a formula of its own. -/
def Expression.IsRoot : Expression → Prop
  | .call _ _ => True
  | .cell _ => True
  | _ => False

theorem Shape.ofBody?_of_writes {e : Expression} {s : List Char} (he : e.IsRoot)
    (h : Writes e s) : ofBody? s = some (ofArgument s) := by
  cases h with
  | word hs =>
    have hcall : call? s = none := call?_eq_none fun hmem =>
      (hs.isWordChar _ hmem).isPlain.2.1 rfl
    rw [ofBody?_of_no_call hcall, ofArgument_word hs.ne_nil hs.isWordChar, word_eq hs]
    cases hs with
    | cell ha hs => rw [Address.reference?_of_isSpelling ha hs, Option.map_some]
    | _ => exact absurd he id
  | call hname hargs hinner =>
    obtain ⟨hnil, halpha⟩ := Builtin.isAlpha_of_map_toUpper hname
    have hcall := call?_eq_some_iff.2 ⟨rfl, hnil, halpha, hinner.closed.2⟩
    rw [ofBody?_call hcall, Builtin.ofName?_of_map_toUpper hname, Option.map_some,
      ofArgument_call hname hargs hinner]
  | _ => exact absurd he id

/-- A formula is read as the expression it was written for, however it was written, if as many
levels are allowed as the expression has. -/
theorem Formula.parse_of_writes {e : Expression} {s p q : List Char} {limit : Nat}
    (he : e.IsRoot) (h : Writes e s) (hp : IsPadding p) (hq : IsPadding q)
    (hlimit : e.depth ≤ limit) :
    parse limit (String.ofList ('=' :: (p ++ s ++ q))) = .ok (.expression e) := by
  have htrim := h.isTrimmed.trim_padded (fun c hc => (hp c hc).1) fun c hc => (hq c hc).1
  have hbody : body? (String.ofList ('=' :: (p ++ s ++ q))) = some s :=
    body?_eq_some_iff.2 ⟨_, String.toList_ofList, htrim⟩
  rw [parse_of_body? hbody]
  simp only [Shape.ofBody?_of_writes he h, h.build_eq hlimit]

/-- A sum of two comparisons and a region, in letters of both cases and with blanks around. -/
theorem Formula.parse_nested_sum :
    parse 3 "= Sum( \"a,\"\"(\"  != 1e3 ,B2:a1,if(True,,-2.5 )>=c3) " = .ok (.expression
      (.call .sum [.comparison .notEqual (.text "a,\"(") (.number 1000.0),
        .region (.spanning ⟨1, 1⟩ ⟨0, 0⟩),
        .comparison .greaterEqual (.call .ifElse [.boolean true, .empty, .number (-2.5)])
          (.cell ⟨2, 2⟩)])) := by
  have hnone : IsPadding [] := isPadding_nil
  have hone : IsPadding [' '] := by simp [IsPadding]; decide
  have htwo : IsPadding [' ', ' '] := by simp [IsPadding]; decide
  have htext : Writes (.text "a,\"(") "\"a,\"\"(\"".toList :=
    @Writes.text "a,\"(".toList (by decide)
  have hthousand : Writes (.number 1000.0) "1e3".toList := .word (.number (by decide) (by decide))
  have hfraction : Writes (.number (-2.5)) "-2.5".toList := .word (.number (by decide) (by decide))
  have htrue : Writes (.boolean true) "True".toList := .word (.boolean (by decide))
  have hc3 : Address.IsSpelling ⟨2, 2⟩ "c3".toList := by unfold Address.IsSpelling; cbv
  have hb2 : Address.IsSpelling ⟨1, 1⟩ "B2".toList := by unfold Address.IsSpelling; cbv
  have ha1 : Address.IsSpelling ⟨0, 0⟩ "a1".toList := by unfold Address.IsSpelling; cbv
  have hcell : Writes (.cell ⟨2, 2⟩) "c3".toList := .word (.cell ⟨by decide, by decide⟩ hc3)
  have hregion : Writes (.region (.spanning ⟨1, 1⟩ ⟨0, 0⟩)) "B2:a1".toList :=
    .word (.region ⟨by decide, by decide⟩ ⟨by decide, by decide⟩ hb2 ha1)
  have hif : Writes (.call .ifElse [.boolean true, .empty, .number (-2.5)])
      "if(True,,-2.5 )".toList :=
    @Writes.call .ifElse _ "if".toList _ (by decide) (by simp)
      (.cons hnone htrue hnone (by simp)
        (.cons hnone .empty hnone (by simp) (.last hnone hfraction hone)))
  have hinequality : Writes (.comparison .notEqual (.text "a,\"(") (.number 1000.0))
      "\"a,\"\"(\"  != 1e3".toList :=
    .comparison ⟨by simp, id⟩ (by simp) htext hthousand htwo hone (.inr ⟨rfl, rfl⟩)
  have horder : Writes (.comparison .greaterEqual
      (.call .ifElse [.boolean true, .empty, .number (-2.5)]) (.cell ⟨2, 2⟩))
      "if(True,,-2.5 )>=c3".toList :=
    .comparison ⟨by simp, id⟩ (by simp) hif hcell hnone hnone (.inl rfl)
  have hsum := @Writes.call .sum _ "Sum".toList _ (by decide) (by simp)
    (.cons hone hinequality hone (by simp)
      (.cons hnone hregion hnone (by simp) (.last hnone horder hnone)))
  exact Formula.parse_of_writes (e := .call .sum _) trivial hsum hone hone (by decide)

end Worksheet
