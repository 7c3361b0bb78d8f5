/-!
# Patterns with wildcards

In a pattern a question mark stands for any one character and a star for any row of characters.
Matching reads the text from the left.  Of the stars met so far only the last one is ever given more
of the text: what the earlier ones took never needs to change.  A character of the text that is the
same as the next one of the pattern is always matched with it, even where that is a star.
-/

namespace Worksheet.Glob

/-- How far a pattern without stars to fall back on goes. -/
inductive Step where
  /-- The text has come to its end, with or without the pattern. -/
  | finished (matched : Bool)
  /-- A star comes next, with the rest of the pattern and of the text. -/
  | star (pattern text : List Char)
  /-- The next characters differ. -/
  | differs

/-- Matches character by character up to the next star. -/
def step : List Char → List Char → Step
  | pattern, [] => .finished (pattern.all (· = '*'))
  | [], _ :: _ => .differs
  | p :: pattern, c :: text =>
    if p = '?' ∨ p = c then step pattern text
    else if p = '*' then .star pattern (c :: text)
    else .differs

theorem length_lt_of_step_eq_star {pattern text p t : List Char}
    (h : step pattern text = .star p t) :
    p.length < pattern.length := by
  fun_induction step pattern text with
  | case1 => simp at h
  | case2 => simp at h
  | case3 q pattern c text hc ih => exact Nat.lt_succ_of_lt (ih h)
  | case4 => simp_all
  | case5 => simp at h

/-- Matches what follows a star, which takes one more character whenever the rest differs. -/
def afterStar (pattern text : List Char) : Bool :=
  match _h : step pattern text with
  | .finished matched => matched
  | .star p t => afterStar p t
  | .differs =>
    match text with
    | [] => false
    | _ :: rest => afterStar pattern rest
termination_by (pattern.length, text.length)
decreasing_by
  · exact Prod.Lex.left _ _ (length_lt_of_step_eq_star ‹_›)
  · exact Prod.Lex.right _ (Nat.lt_succ_self _)

/-- Whether a pattern matches a whole text. -/
def accepts (pattern text : List Char) : Bool :=
  match step pattern text with
  | .finished matched => matched
  | .star p t => afterStar p t
  | .differs => false

end Worksheet.Glob
