import Mathlib.Data.List.Forall2
import Worksheet.Proofs.Writing

/-!
# The levels of a formula

A limit on the levels of a formula decides whether it is read, and nothing about what it is read as.
A text stands for one formula whatever the limit is: where the limit is not below the depth of that
formula it is read, and everywhere else it is refused (`Formula.parse_eq_ite_depth`).

Reading goes down to shorter and shorter texts (`Shape.isWithin_ofArgument`), so a text never has
more levels than characters, and a shape can be built as far as the shapes inside it can
(`Shape.exists_builds`).
-/

namespace Worksheet

/-! ## Texts inside a text -/

theorem Text.length_trim_le (s : List Char) : (trim s).length ≤ s.length := by
  have hstart : ∀ t : List Char, (trimStart t).length ≤ t.length := fun t =>
    (List.dropWhile_sublist isBlank).length_le
  calc (trim s).length = (trimStart (trimStart s).reverse).length := List.length_reverse
    _ ≤ (trimStart s).reverse.length := hstart _
    _ = (trimStart s).length := List.length_reverse
    _ ≤ s.length := hstart s

theorem Comparator.length_of_leading? {s rest : List Char} {op : Comparator}
    (h : leading? s = some (op, rest)) : rest.length < s.length := by
  unfold leading? at h
  split at h <;> simp only [Option.some.injEq, Prod.mk.injEq, reduceCtorEq] at h
  all_goals
    obtain ⟨-, rfl⟩ := h
    simp only [List.length_cons]
    omega

namespace Scan

/-- The two sides of a comparison do not overlap and leave out its operator. -/
theorem length_of_comparison? : ∀ {s : Scan} {text left right : List Char} {op : Comparator},
    s.comparison? text = some (left, op, right) → left.length + right.length < text.length
  | _, [], _, _, _, h => by simp [comparison?] at h
  | s, c :: rest, left, right, op, h => by
    rw [comparison?] at h
    split at h
    · rename_i op' right' hleading
      simp only [Option.some.injEq, Prod.mk.injEq] at h
      obtain ⟨rfl, rfl, rfl⟩ := h
      split_ifs at hleading
      simpa using Comparator.length_of_leading? hleading
    · obtain ⟨⟨left', op', right'⟩, htail, heq⟩ := Option.map_eq_some_iff.1 h
      simp only [Prod.mk.injEq] at heq
      obtain ⟨rfl, rfl, rfl⟩ := heq
      have hlength := length_of_comparison? htail
      simp only [List.length_cons]
      omega

theorem length_of_mem_pieces : ∀ {s : Scan} {text piece : List Char},
    piece ∈ s.pieces text → piece.length ≤ text.length
  | _, [], _, h => by simpa [pieces] using h
  | s, c :: rest, piece, h => by
    have htail : ∀ {s : Scan} {p : List Char}, p ∈ s.pieces rest → p.length ≤ rest.length :=
      length_of_mem_pieces
    rw [pieces] at h
    split_ifs at h with hcut
    · rcases List.mem_cons.1 h with rfl | h
      · simp
      · exact Nat.le_succ_of_le (htail h)
    · split at h
      · simp only [List.mem_singleton] at h
        simp [h]
      · rename_i first more hpieces
        rw [List.mem_cons] at h
        rcases h with rfl | h
        · have hfirst := htail (hpieces ▸ List.mem_cons_self)
          simpa using hfirst
        · exact Nat.le_succ_of_le (htail (hpieces ▸ List.mem_cons_of_mem first h))

end Scan

theorem length_of_mem_splitArguments {s arg : List Char} (h : arg ∈ splitArguments s) :
    arg.length ≤ s.length := by
  unfold splitArguments at h
  split_ifs at h
  · simp at h
  · exact Scan.length_of_mem_pieces h

theorem length_of_call? {s name inner : List Char} (h : call? s = some (name, inner)) :
    inner.length < s.length := by
  obtain ⟨rfl, -⟩ := call?_eq_some_iff.1 h
  simp only [List.length_append, List.length_cons]
  omega

/-! ## Shapes -/

namespace Shape

/-- Whether a shape has no levels of its own and only texts in it that are shorter than a bound. -/
def IsWithin (n : Nat) : Shape → Prop
  | .leaf e => e.depth = 0
  | .comparison _ left right => left.length < n ∧ right.length < n
  | .call _ args => ∀ arg ∈ args, arg.length < n

theorem depth_word (arg : List Char) : (word arg).depth = 0 := by
  unfold word
  split_ifs
  · split <;> simp [Expression.depth]
  · split
    · simp [Expression.depth]
    · simp only
      split_ifs <;> try split
      all_goals simp [Expression.depth]

theorem isWithin_comparison? {arg : List Char} {shape : Shape}
    (h : comparison? arg = some shape) : shape.IsWithin arg.length := by
  unfold comparison? at h
  split at h
  · rename_i left op right hscan
    split_ifs at h
    cases h
    have hlength := Scan.length_of_comparison? hscan
    exact ⟨by omega, by omega⟩
  · simp at h

theorem isWithin_call {s name inner : List Char} (h : call? s = some (name, inner))
    (f : Builtin) : (call f (splitArguments inner)).IsWithin s.length := fun _ harg =>
  Nat.lt_of_le_of_lt (length_of_mem_splitArguments harg) (length_of_call? h)

theorem IsWithin.mono {m n : Nat} (hmn : m ≤ n) : ∀ {s : Shape}, s.IsWithin m → s.IsWithin n
  | .leaf _, h => h
  | .comparison _ _ _, h => ⟨Nat.lt_of_lt_of_le h.1 hmn, Nat.lt_of_lt_of_le h.2 hmn⟩
  | .call _ _, h => fun arg harg => Nat.lt_of_lt_of_le (h arg harg) hmn

theorem isWithin_ofArgument (text : List Char) : (ofArgument text).IsWithin text.length := by
  refine IsWithin.mono (Text.length_trim_le text) ?_
  simp only [ofArgument]
  generalize Text.trim text = arg
  split_ifs
  · simp [IsWithin, Expression.depth]
  · split
    · simp [IsWithin, Expression.depth]
    · split
      · rename_i shape hshape
        exact isWithin_comparison? hshape
      · split
        · rename_i name inner hcall
          split
          · exact isWithin_call hcall _
          · simp [IsWithin, Expression.depth]
        · exact depth_word arg

theorem isWithin_ofBody? {body : List Char} {shape : Shape} (h : ofBody? body = some shape) :
    shape.IsWithin body.length := by
  rcases hcall : call? body with _ | ⟨name, inner⟩
  · rw [ofBody?_of_no_call hcall] at h
    obtain ⟨a, -, rfl⟩ := Option.map_eq_some_iff.1 h
    simp [IsWithin, Expression.depth]
  · rw [ofBody?_call hcall] at h
    obtain ⟨f, -, rfl⟩ := Option.map_eq_some_iff.1 h
    exact isWithin_call hcall f

/-! ## Building -/

/-- Whether a shape is built as an expression where there is room for its levels and not built
anywhere else. -/
def Builds (s : Shape) (e : Expression) : Prop :=
  ∀ room, s.build room = if e.depth ≤ room then some e else none

theorem builds_leaf {e : Expression} (h : e.depth = 0) : (leaf e).Builds e := fun room => by
  rw [build, if_pos (by omega)]

theorem bind_ite_max {α β γ : Type} (f : α → β → γ) (x : α) (y : β) (m n room : Nat) :
    (do
      let x ← (if m ≤ room then some x else none)
      let y ← (if n ≤ room then some y else none)
      return f x y)
      = if max m n ≤ room then some (f x y) else none := by
  by_cases hm : m ≤ room
  · by_cases hn : n ≤ room
    · rw [if_pos hm, if_pos hn, if_pos (Nat.max_le.2 ⟨hm, hn⟩)]
      rfl
    · rw [if_pos hm, if_neg hn, if_neg fun h => hn (Nat.max_le.1 h).2]
      rfl
  · rw [if_neg hm, if_neg fun h => hm (Nat.max_le.1 h).1]
    rfl

theorem builds_comparison {op : Comparator} {left right : List Char} {l r : Expression}
    (hl : (ofArgument left).Builds l) (hr : (ofArgument right).Builds r) :
    (comparison op left right).Builds (.comparison op l r)
  | 0 => by simp [build, Expression.depth]
  | room + 1 => by
    rw [build, hl room, hr room, Expression.depth]
    simp only [Nat.add_le_add_iff_right]
    exact bind_ite_max (Expression.comparison op) l r l.depth r.depth room

theorem mapM_build {args : List (List Char)} {es : List Expression}
    (h : List.Forall₂ (fun arg e => (ofArgument arg).Builds e) args es) (room : Nat) :
    args.mapM (fun arg => (ofArgument arg).build room)
      = if Expression.depthOfAll es ≤ room then some es else none := by
  induction h with
  | nil => simp [Expression.depthOfAll]
  | @cons arg e args es he _ ih =>
    rw [List.mapM_cons, ih, he room, Expression.depthOfAll]
    exact bind_ite_max List.cons e es e.depth (Expression.depthOfAll es) room

theorem builds_call {f : Builtin} {args : List (List Char)} {es : List Expression}
    (h : List.Forall₂ (fun arg e => (ofArgument arg).Builds e) args es) :
    (call f args).Builds (.call f es)
  | 0 => by simp [build, Expression.depth]
  | room + 1 => by
    rw [build, mapM_build h room, Expression.depth]
    simp only [Nat.add_le_add_iff_right]
    split_ifs <;> rfl

theorem exists_forall₂_builds {n : Nat} : ∀ {args : List (List Char)},
    (∀ arg ∈ args, ∃ e, (ofArgument arg).Builds e ∧ e.depth ≤ n) →
      ∃ es, List.Forall₂ (fun arg e => (ofArgument arg).Builds e) args es
        ∧ Expression.depthOfAll es ≤ n
  | [], _ => ⟨[], .nil, by simp [Expression.depthOfAll]⟩
  | arg :: args, h => by
    obtain ⟨e, he, hdepth⟩ := h arg List.mem_cons_self
    obtain ⟨es, hes, hdepths⟩ :=
      exists_forall₂_builds fun arg harg => h arg (List.mem_cons_of_mem _ harg)
    refine ⟨e :: es, .cons he hes, ?_⟩
    rw [Expression.depthOfAll]
    omega

/-- Every shape is built as one expression, which has no more levels than there are characters. -/
theorem exists_builds {n : Nat} :
    ∀ {s : Shape}, s.IsWithin n → ∃ e, s.Builds e ∧ e.depth ≤ n + 1 := by
  -- on the bound, as a shape has no shapes in it but only the texts of them
  induction n using Nat.strong_induction_on with
  | _ n ih =>
    have hpart : ∀ part : List Char, part.length < n →
        ∃ e, (ofArgument part).Builds e ∧ e.depth ≤ n := by
      intro part hpart
      obtain ⟨e, he, hdepth⟩ := ih part.length hpart (isWithin_ofArgument part)
      exact ⟨e, he, by omega⟩
    intro s h
    cases s with
    | leaf e => exact ⟨e, builds_leaf h, by rw [IsWithin] at h; omega⟩
    | comparison op left right =>
      obtain ⟨l, hl, hldepth⟩ := hpart left h.1
      obtain ⟨r, hr, hrdepth⟩ := hpart right h.2
      refine ⟨_, builds_comparison hl hr, ?_⟩
      rw [Expression.depth]
      omega
    | call f args =>
      obtain ⟨es, hes, hdepth⟩ := exists_forall₂_builds fun arg harg => hpart arg (h arg harg)
      refine ⟨_, builds_call hes, ?_⟩
      rw [Expression.depth]
      omega

end Shape

/-! ## Formulas -/

namespace Formula

/-- How many comparisons and calls lie inside one another in a formula at most. -/
def depth : Formula → Nat
  | .expression e => e.depth
  | _ => 0

/-- A text stands for one formula, which is read where the limit is not below its depth. -/
theorem exists_parse_eq_ite (text : String) :
    ∃ u : Formula, u.depth ≤ text.length
      ∧ ∀ limit, parse limit text
        = if u.depth ≤ limit then .ok u else .error (.nestingTooDeep limit) := by
  rcases hbody : body? text with _ | body
  · exact ⟨.literal, Nat.zero_le _, fun limit => by simp [parse_of_body?_eq_none hbody, depth]⟩
  rcases hshape : Shape.ofBody? body with _ | shape
  · exact ⟨.unrecognized, Nat.zero_le _, fun limit => by
      simp [parse_of_body? hbody, hshape, depth]⟩
  obtain ⟨e, he, hdepth⟩ := Shape.exists_builds (Shape.isWithin_ofBody? hshape)
  have hlength : body.length + 1 ≤ text.length := by
    obtain ⟨rest, hrest, rfl⟩ := body?_eq_some_iff.1 hbody
    rw [← String.length_toList, hrest, List.length_cons]
    exact Nat.succ_le_succ (Text.length_trim_le rest)
  refine ⟨.expression e, Nat.le_trans hdepth hlength, fun limit => ?_⟩
  have hbuild : shape.build limit = if (expression e).depth ≤ limit then some e else none :=
    he limit
  rw [parse_of_body? hbody]
  simp only [hshape, hbuild]
  by_cases hlimit : (expression e).depth ≤ limit
  · rw [if_pos hlimit, if_pos hlimit]
  · rw [if_neg hlimit, if_neg hlimit]

/-- The limit is exact: it refuses the formulas that are deeper and changes no other.  So a higher
limit keeps what a lower one allows, too many levels are the only reason to refuse a formula, and no
expression that is read has more levels than the limit. -/
theorem parse_eq_ite_depth (text : String) :
    (∃ u : Formula, (∀ n, text.length ≤ n → parse n text = .ok u)
      ∧ ∀ limit, parse limit text
        = if u.depth ≤ limit then .ok u else .error (.nestingTooDeep limit))
    ∧ (∀ limit more u, limit ≤ more → parse limit text = .ok u → parse more text = .ok u)
    ∧ (∀ limit e, parse limit text = .error e → e = .nestingTooDeep limit)
    ∧ ∀ limit e, parse limit text = .ok (.expression e) → e.depth ≤ limit := by
  obtain ⟨u, hlength, hparse⟩ := exists_parse_eq_ite text
  have hok : ∀ {limit v}, parse limit text = .ok v → v = u ∧ u.depth ≤ limit := by
    intro limit v h
    rw [hparse] at h
    split_ifs at h with hlimit
    exact ⟨(Except.ok.inj h).symm, hlimit⟩
  refine ⟨⟨u, fun n hn => ?_, hparse⟩, fun limit more v hmore h => ?_, fun limit e h => ?_,
    fun limit e h => ?_⟩
  · rw [hparse, if_pos (Nat.le_trans hlength hn)]
  · obtain ⟨rfl, hlimit⟩ := hok h
    rw [hparse, if_pos (Nat.le_trans hlimit hmore)]
  · rw [hparse] at h
    split_ifs at h
    exact (Except.error.inj h).symm
  · obtain ⟨rfl, hlimit⟩ := hok h
    exact hlimit

-- Every operator of a chain takes one more level, and a call without arguments takes one.
example : parse 2 "=NOT(1=1=1)" = .error (.nestingTooDeep 2)
    ∧ parse 0 "=NA()" = .error (.nestingTooDeep 0)
    ∧ parse 0 "=FOO(NOT(1))" = .ok .unrecognized := by
  refine ⟨rfl, rfl, rfl⟩

end Formula

end Worksheet
