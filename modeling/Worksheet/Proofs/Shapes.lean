import Mathlib.Data.List.TakeWhile
import Worksheet.Formula.Reading
import Worksheet.Proofs.Characters

/-!
# What the readers of a formula accept

A text is read as a call exactly if it is letters, a parenthesis, a text without line feeds and a
closing parenthesis at the end (`call?_eq_some_iff`); which parenthesis that last one closes does
not matter.  A reference has nothing but letters and digits in it (`mem_of_reference?`).  The result
of reading a formula follows from its body (`parse_of_body?`).
-/

namespace Worksheet

theorem takeWhile_isAlpha {letters rest : List Char} (h : ∀ c ∈ letters, c.isAlpha = true)
    (hrest : ∀ c ∈ rest.head?, c.isAlpha = false) :
    (letters ++ rest).takeWhile Char.isAlpha = letters := by
  rw [List.takeWhile_append_of_pos h]
  cases rest with
  | nil => simp
  | cons c rest => simp [hrest c rfl]

theorem dropWhile_isAlpha {letters rest : List Char} (h : ∀ c ∈ letters, c.isAlpha = true)
    (hrest : ∀ c ∈ rest.head?, c.isAlpha = false) :
    (letters ++ rest).dropWhile Char.isAlpha = rest := by
  rw [List.dropWhile_append_of_pos h]
  cases rest with
  | nil => rfl
  | cons c rest => simp [hrest c rfl]

theorem head?_parenthesis (rest : List Char) :
    ∀ c ∈ ('(' :: rest).head?, c.isAlpha = false := by
  simp

/-- A text is a call of letters in one way at most. -/
theorem inner_eq_of_call_eq {name name' inner inner' : List Char}
    (h : ∀ c ∈ name, c.isAlpha = true) (h' : ∀ c ∈ name', c.isAlpha = true)
    (heq : name ++ '(' :: (inner ++ [')']) = name' ++ '(' :: (inner' ++ [')'])) :
    inner = inner' := by
  have hdrop := congrArg (List.dropWhile Char.isAlpha) heq
  rw [dropWhile_isAlpha h (head?_parenthesis _),
    dropWhile_isAlpha h' (head?_parenthesis _)] at hdrop
  exact List.append_cancel_right (List.cons.inj hdrop).2

theorem call?_eq_some_iff {s name inner : List Char} :
    call? s = some (name, inner) ↔
      s = name ++ '(' :: (inner ++ [')']) ∧ name ≠ [] ∧ (∀ c ∈ name, c.isAlpha = true)
        ∧ '\n' ∉ inner := by
  constructor
  · intro h
    have hs := List.takeWhile_append_dropWhile (p := Char.isAlpha) (l := s)
    have halpha : ∀ c ∈ s.takeWhile Char.isAlpha, c.isAlpha = true := fun c hc =>
      List.mem_takeWhile_imp hc
    unfold call? at h
    split at h
    · rename_i c letters rest hletters hrest
      split_ifs at h with hlast
      obtain ⟨hend, hlf⟩ := hlast
      simp only [Option.some.injEq, Prod.mk.injEq] at h
      obtain ⟨rfl, rfl⟩ := h
      have hne : rest ≠ [] := by
        rintro rfl
        simp at hend
      have hlastc : rest.getLast hne = ')' := by
        rw [List.getLast?_eq_some_getLast hne] at hend
        exact Option.some.inj hend
      have hrest' : rest.dropLast ++ [')'] = rest := by
        rw [← hlastc]
        exact List.dropLast_concat_getLast hne
      rw [hletters] at hs halpha
      rw [hrest] at hs
      exact ⟨by rw [hrest', ← hs], by simp, halpha, hlf⟩
    · simp at h
  · rintro ⟨rfl, hne, halpha, hlf⟩
    have htake := takeWhile_isAlpha halpha (head?_parenthesis (inner ++ [')']))
    have hdrop := dropWhile_isAlpha halpha (head?_parenthesis (inner ++ [')']))
    obtain ⟨c, letters, rfl⟩ := List.exists_cons_of_ne_nil hne
    unfold call?
    rw [htake, hdrop]
    simp [hlf]

/-- A text without an opening parenthesis is no call. -/
theorem call?_eq_none {s : List Char} (h : '(' ∉ s) : call? s = none := by
  rcases hc : call? s with _ | ⟨name, inner⟩
  · rfl
  · obtain ⟨rfl, -⟩ := call?_eq_some_iff.1 hc
    simp at h

namespace Address

theorem mem_of_reference? {s : List Char} {a : Address} (h : reference? s = some a) {c : Char}
    (hc : c ∈ s) : c.isAlpha = true ∨ Number.isDigit c = true := by
  have hshape : isShaped s = true := by
    by_contra hno
    simp [reference?, hno] at h
  simp only [isShaped, Bool.and_eq_true, List.all_eq_true] at hshape
  rw [← List.takeWhile_append_dropWhile (p := Char.isAlpha) (l := s), List.mem_append] at hc
  exact hc.imp (fun hm => List.mem_takeWhile_imp hm) (hshape.2 c)

theorem reference?_call {name inner : List Char} :
    reference? (name ++ '(' :: (inner ++ [')'])) = none := by
  rcases hr : reference? (name ++ '(' :: (inner ++ [')'])) with _ | a
  · rfl
  · rcases mem_of_reference? hr (c := '(') (by simp) with h | h <;> simp [Number.isDigit] at h

end Address

namespace Builtin

theorem isUpper_of_mem_name (f : Builtin) : ∀ c ∈ f.name.toList, c.isUpper = true := by
  have h : f.name.toList.all Char.isUpper = true := by
    cases f <;> rfl
  exact List.all_eq_true.mp h

theorem name_ne_nil (f : Builtin) : f.name.toList ≠ [] := by
  cases f <;> decide

theorem map_toUpper_of_ofName? {name : List Char} {f : Builtin} (h : ofName? name = some f) :
    name.map Char.toUpper = f.name.toList := by
  have hname := List.find?_some h
  simp only [decide_eq_true_eq] at hname
  rw [hname, String.toList_ofList]

/-- A spelling of the name of a function consists of letters. -/
theorem isAlpha_of_map_toUpper {name : List Char} {f : Builtin}
    (h : name.map Char.toUpper = f.name.toList) : name ≠ [] ∧ ∀ c ∈ name, c.isAlpha = true := by
  refine ⟨fun hnil => f.name_ne_nil (by rw [← h, hnil]; rfl), fun c hc => ?_⟩
  refine isAlpha_of_isUpper_toUpper (f.isUpper_of_mem_name _ ?_)
  rw [← h]
  exact List.mem_map_of_mem hc

end Builtin

namespace Formula

/-- The text after the equals sign that a formula begins with, without the blanks around it. -/
def body? (text : String) : Option (List Char) :=
  match text.toList with
  | '=' :: body => some (Text.trim body)
  | _ => none

theorem body?_eq_some_iff {text : String} {body : List Char} :
    body? text = some body ↔ ∃ rest, text.toList = '=' :: rest ∧ Text.trim rest = body := by
  unfold body?
  split
  · rename_i rest hrest
    simp [hrest]
  · rename_i hno
    simp only [reduceCtorEq, false_iff]
    rintro ⟨rest, hrest, -⟩
    exact hno rest hrest

theorem parse_of_body?_eq_none {text : String} (h : body? text = none) (limit : Nat) :
    parse limit text = .ok .literal := by
  unfold parse
  split
  · rename_i rest hrest
    simp [body?, hrest] at h
  · rfl

/-- Reading a formula is reading its body and building the shape found there. -/
theorem parse_of_body? {text : String} {body : List Char} (h : body? text = some body)
    (limit : Nat) :
    parse limit text =
      match Shape.ofBody? body with
      | none => .ok .unrecognized
      | some shape =>
        match shape.build limit with
        | none => .error (.nestingTooDeep limit)
        | some e => .ok (.expression e) := by
  obtain ⟨rest, hrest, rfl⟩ := body?_eq_some_iff.1 h
  rw [parse, hrest]
  rfl

end Formula

namespace Shape

theorem ofBody?_call {body name inner : List Char} (h : call? body = some (name, inner)) :
    ofBody? body = (Builtin.ofName? name).map fun f => .call f (splitArguments inner) := by
  rw [ofBody?, h]

theorem ofBody?_of_no_call {body : List Char} (h : call? body = none) :
    ofBody? body = (Address.reference? body).map fun a => .leaf (.cell a) := by
  rw [ofBody?, h]

/-- What is built from the shape of a call is a call of the same function. -/
theorem build_call {f : Builtin} {args : List (List Char)} {limit : Nat} {e : Expression}
    (h : (call f args).build limit = some e) : ∃ es, e = .call f es := by
  cases limit with
  | zero => simp [build] at h
  | succ limit =>
    rw [build] at h
    rcases hes : args.mapM fun arg => build limit (ofArgument arg) with _ | es
    · rw [hes] at h
      simp at h
    · rw [hes] at h
      exact ⟨es, (Option.some.inj h).symm⟩

end Shape

end Worksheet
