/-!
# Blank characters

What counts as blank is what Unicode counts as white space: the ASCII separators, the next-line
control, the no-break spaces and the typographic spaces, but neither the zero-width space nor the
byte order mark.  Trimming takes blanks away at both ends of a text and leaves a text alone that
has none there (`trim_eq_self`).
-/

namespace Worksheet.Text

/-- Code points of the property `White_Space`. -/
def isBlankCode (n : Nat) : Bool :=
  (9 ≤ n && n ≤ 13) || n == 32 || n == 0x85 || n == 0xA0 || n == 0x1680
    || (0x2000 ≤ n && n ≤ 0x200A) || n == 0x2028 || n == 0x2029 || n == 0x202F || n == 0x205F
    || n == 0x3000

def isBlank (c : Char) : Bool :=
  isBlankCode c.toNat

def trimStart (s : List Char) : List Char :=
  s.dropWhile isBlank

def trimEnd (s : List Char) : List Char :=
  (trimStart s.reverse).reverse

/-- A text without the blanks at its two ends. -/
def trim (s : List Char) : List Char :=
  trimEnd (trimStart s)

def allBlank (s : List Char) : Bool :=
  s.all isBlank

theorem trimStart_eq_nil_iff {s : List Char} : trimStart s = [] ↔ allBlank s = true := by
  induction s with
  | nil => simp [trimStart, allBlank]
  | cons c r ih =>
    by_cases hc : isBlank c = true
    · rw [trimStart, List.dropWhile_cons_of_pos hc, ← trimStart, ih, allBlank, allBlank,
        List.all_cons, hc, Bool.true_and]
    · simp [trimStart, allBlank, hc]

theorem trimStart_eq_self {s : List Char} (h : ∀ c ∈ s.head?, isBlank c = false) :
    trimStart s = s := by
  cases s with
  | nil => rfl
  | cons c r => simp [trimStart, h c (by simp)]

/-- A text with no blank at either end stays as it is. -/
theorem trim_eq_self {s : List Char} (hhead : ∀ c ∈ s.head?, isBlank c = false)
    (hlast : ∀ c ∈ s.getLast?, isBlank c = false) : trim s = s := by
  rw [trim, trimStart_eq_self hhead, trimEnd, trimStart_eq_self (by simpa using hlast),
    List.reverse_reverse]

end Worksheet.Text

namespace Worksheet

/-- A string without the blanks at its two ends. -/
def trimText (s : String) : String :=
  String.ofList (Text.trim s.toList)

end Worksheet
