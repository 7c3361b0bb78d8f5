import Worksheet.Evaluation
import Worksheet.Proofs.Nesting
import Worksheet.Proofs.Shapes

/-!
# Which formulas are read as calls

A formula is meant to be one call: a name and a text in parentheses, the last of which closes the
first.  Reading takes the first parenthesis and the last one without asking whether they belong
together, so the name of a function and two calls with something between them, as in
`=SUM(1)+SUM(2)`, are read as one call too.  These are the only formulas that are misread: wherever
the parentheses in between match, or the name is no function's, or a line feed stands between them,
exactly the single calls are read as calls and what is neither a call nor a reference stays a text
(`readsSingleCalls_of_not_isMisread`).
-/

namespace Worksheet

/-- Whether the parentheses outside quotes match: none is closed before it is opened, and none is
left open. -/
def Balanced (text : List Char) : Prop :=
  (∀ before, before <+: text → 0 ≤ (Scan.start.after before).depth)
    ∧ (Scan.start.after text).depth = 0

/-- Whether a text is letters and a text in parentheses, the last of which closes the first. -/
def IsSingleCall (body : List Char) : Prop :=
  ∃ name inner, body = name ++ '(' :: (inner ++ [')']) ∧ name ≠ []
    ∧ (∀ c ∈ name, c.isAlpha = true) ∧ Balanced inner

/-- What a formula is meant to be read as: only a single call is a call, and what is neither a
single call nor a reference stays the text it is. -/
structure ReadsSingleCalls (limit : Nat) (text : String) : Prop where
  isSingleCall : ∀ f args, Formula.parse limit text = .ok (.expression (.call f args)) →
    ∃ body, Formula.body? text = some body ∧ IsSingleCall body
  unrecognized : ∀ body, Formula.body? text = some body → Address.reference? body = none →
    ¬ IsSingleCall body → Formula.parse limit text = .ok .unrecognized
      ∧ ∀ t now, evaluate t limit now text = .unrecognized text

/-- Whether a formula is the name of a function and a text between parentheses that do not belong
together. -/
def IsMisread (text : String) : Prop :=
  ∃ name inner f, Formula.body? text = some (name ++ '(' :: (inner ++ [')']))
    ∧ Builtin.ofName? name = some f ∧ '\n' ∉ inner ∧ ¬ Balanced inner

/-- A formula of a function's name, a parenthesis and, at its end, another one is a call of that
function, unless it is nested too deeply. -/
theorem parse_call {limit : Nat} {text : String} {name inner : List Char} {f : Builtin}
    (hbody : Formula.body? text = some (name ++ '(' :: (inner ++ [')'])))
    (hname : Builtin.ofName? name = some f) (hlf : '\n' ∉ inner) :
    (∃ args, Formula.parse limit text = .ok (.expression (.call f args)))
      ∨ Formula.parse limit text = .error (.nestingTooDeep limit) := by
  obtain ⟨hne, halpha⟩ := Builtin.isAlpha_of_map_toUpper (Builtin.map_toUpper_of_ofName? hname)
  have hcall := call?_eq_some_iff.2 ⟨rfl, hne, halpha, hlf⟩
  have hshape := Shape.ofBody?_call hcall
  rw [hname, Option.map_some] at hshape
  rw [Formula.parse_of_body? hbody]
  simp only [hshape]
  rcases hbuild : (Shape.call f (splitArguments inner)).build limit with _ | e
  · exact .inr rfl
  · obtain ⟨args, rfl⟩ := Shape.build_call hbuild
    exact .inl ⟨args, rfl⟩

/-- What is read as a call has the name of a function before its first parenthesis. -/
theorem call_of_parse {limit : Nat} {text : String} {g : Builtin} {args : List Expression}
    (h : Formula.parse limit text = .ok (.expression (.call g args))) :
    ∃ name inner f, Formula.body? text = some (name ++ '(' :: (inner ++ [')'])) ∧ name ≠ []
      ∧ (∀ c ∈ name, c.isAlpha = true) ∧ Builtin.ofName? name = some f ∧ '\n' ∉ inner := by
  rcases hbody : Formula.body? text with _ | body
  · rw [Formula.parse_of_body?_eq_none hbody] at h
    simp at h
  rw [Formula.parse_of_body? hbody] at h
  rcases hcall : call? body with _ | ⟨name, inner⟩
  · -- a body that is no call can only be a reference
    rw [Shape.ofBody?_of_no_call hcall] at h
    rcases href : Address.reference? body with _ | a <;> rw [href] at h <;> simp [Shape.build] at h
  · obtain ⟨rfl, hne, halpha, hlf⟩ := call?_eq_some_iff.1 hcall
    rcases hname : Builtin.ofName? name with _ | f
    · rw [Shape.ofBody?_call hcall, hname] at h
      simp at h
    · exact ⟨name, inner, f, rfl, hne, halpha, hname, hlf⟩

theorem readsSingleCalls_of_not_isMisread {limit : Nat} {text : String} (h : ¬ IsMisread text) :
    ReadsSingleCalls limit text where
  isSingleCall := by
    intro g args hparse
    obtain ⟨name, inner, f, hbody, hne, halpha, hname, hlf⟩ := call_of_parse hparse
    refine ⟨_, hbody, name, inner, rfl, hne, halpha, ?_⟩
    by_contra hbal
    exact h ⟨name, inner, f, hbody, hname, hlf, hbal⟩
  unrecognized := by
    intro body hbody href hno
    have hshape : Shape.ofBody? body = none := by
      rcases hcall : call? body with _ | ⟨name, inner⟩
      · rw [Shape.ofBody?_of_no_call hcall, href]
        rfl
      · obtain ⟨rfl, hne, halpha, hlf⟩ := call?_eq_some_iff.1 hcall
        rcases hname : Builtin.ofName? name with _ | f
        · rw [Shape.ofBody?_call hcall, hname]
          rfl
        · have hbal : Balanced inner := by
            by_contra hbal
            exact h ⟨name, inner, f, hbody, hname, hlf, hbal⟩
          exact absurd ⟨name, inner, rfl, hne, halpha, hbal⟩ hno
    have hparse := Formula.parse_of_body? hbody limit
    rw [hshape] at hparse
    exact ⟨hparse, fun t now => by rw [evaluate, hparse]⟩

/-- A misread formula is no single call and no reference. -/
theorem IsMisread.not_isSingleCall {text : String} (h : IsMisread text) :
    ∃ body, Formula.body? text = some body ∧ Address.reference? body = none
      ∧ ¬ IsSingleCall body := by
  obtain ⟨name, inner, f, hbody, hname, -, hbal⟩ := h
  refine ⟨_, hbody, Address.reference?_call, ?_⟩
  rintro ⟨name', inner', heq, -, halpha', hbal'⟩
  obtain ⟨-, halpha⟩ := Builtin.isAlpha_of_map_toUpper (Builtin.map_toUpper_of_ofName? hname)
  exact hbal (inner_eq_of_call_eq halpha halpha' heq ▸ hbal')

/-- Formulas are read as they are meant to be, except that the name of a function and two
parentheses that do not belong together are read as a call of it. -/
theorem readsSingleCalls_iff (limit : Nat) (text : String) :
    (ReadsSingleCalls limit text ↔ ¬ IsMisread text)
    ∧ (IsMisread text → ∃ f, (∃ args, Formula.parse limit text = .ok (.expression (.call f args)))
        ∨ Formula.parse limit text = .error (.nestingTooDeep limit)) := by
  have hmis : IsMisread text →
      ∃ f, (∃ args, Formula.parse limit text = .ok (.expression (.call f args)))
        ∨ Formula.parse limit text = .error (.nestingTooDeep limit) := by
    rintro ⟨name, inner, f, hbody, hname, hlf, -⟩
    exact ⟨f, parse_call hbody hname hlf⟩
  refine ⟨⟨fun hreads h => ?_, readsSingleCalls_of_not_isMisread⟩, hmis⟩
  obtain ⟨body, hbody, href, hno⟩ := h.not_isSingleCall
  have hparse := (hreads.unrecognized body hbody href hno).1
  obtain ⟨f, ⟨args, hcall⟩ | herror⟩ := hmis h
  · rw [hparse] at hcall
    simp at hcall
  · rw [hparse] at herror
    simp at herror

/-- Two sums with a plus sign between them are read as one sum, of a text. -/
theorem not_readsSingleCalls_sum_plus_sum :
    ¬ ReadsSingleCalls 64 "=SUM(1)+SUM(2)"
      ∧ Formula.parse 64 "=SUM(1)+SUM(2)" = .ok (.expression (.call .sum [.text "1)+SUM(2"])) := by
  have hparse : Formula.parse 64 "=SUM(1)+SUM(2)"
      = .ok (.expression (.call .sum [.text "1)+SUM(2"])) := by rfl
  refine ⟨fun hreads => ?_, hparse⟩
  obtain ⟨body, hbody, name, inner, rfl, -, halpha, hbal⟩ := hreads.isSingleCall _ _ hparse
  have hname : ∀ c ∈ ['S', 'U', 'M'], c.isAlpha = true := List.all_eq_true.mp rfl
  have hinner : "1)+SUM(2".toList = inner :=
    inner_eq_of_call_eq hname halpha (Option.some.inj hbody)
  -- the first closing parenthesis comes before the second opening one
  have hneg := hbal.1 ['1', ')'] ⟨"+SUM(2".toList, by rw [← hinner]; rfl⟩
  exact absurd hneg (by decide)

end Worksheet
