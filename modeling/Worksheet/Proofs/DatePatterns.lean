import Worksheet.Calendar.Reading
import Worksheet.Proofs.Trimming

/-!
# The patterns of dates and times

The plain notation of a moment stands for four patterns of a date with a time and one of a date
alone, which are tried one after the other: what is read is what the first of them reads
(`Calendar.Plain.read?_eq_findSome?`).  No text is read by two of the four
(`Calendar.Plain.Pattern.eq_of_read?`), because blanks do not stand for a letter and a time with
seconds goes on where one without them ends.
-/

namespace Worksheet

namespace Calendar

theorem after?_eq_some_iff {c : Char} {s rest : List Char} :
    after? c s = some rest ↔ s = c :: rest := by
  cases s with
  | nil => simp [after?]
  | cons d s => simp [after?, ite_eq_iff]

namespace Plain

/-- Reads a whole text as a time of day that has seconds, perhaps with a fraction, or has none. -/
def timeOf? (seconds : Bool) (d : Date) (s : List Char) : Option Moment := do
  let (hour, minute, s) ← clock? s
  if seconds then
    let (second, s) ← field? (← after? ':' s)
    let (nanosecond, s) ← fraction? s
    if s = [] then Moment.ofTime? d hour minute second nanosecond else none
  else if s = [] then Moment.ofTime? d hour minute 0 0
  else none

/-- A pattern of a date and a time: there is a letter T between them or any blanks, and the time has
seconds or none. -/
structure Pattern where
  letter : Bool
  seconds : Bool

namespace Pattern

/-- The patterns in the order in which they are tried. -/
def all : List Pattern :=
  [⟨true, true⟩, ⟨false, true⟩, ⟨true, false⟩, ⟨false, false⟩]

/-- What follows the letter or the blanks. -/
def separated? (p : Pattern) (s : List Char) : Option (List Char) :=
  if p.letter then after? 'T' s else some (Text.trimStart s)

def read? (p : Pattern) (s : List Char) : Option Moment := do
  let (d, s) ← date? s
  timeOf? p.seconds d (← p.separated? s)

end Pattern

/-- Reads a whole text as a date. -/
def midnight? (s : List Char) : Option Moment := do
  let (d, s) ← date? s
  if s = [] then some (.midnight d) else none

section Times

variable {d : Date} {s : List Char}

theorem time?_eq_or : time? d s = (timeOf? true d s).or (timeOf? false d s) := by
  unfold time? timeOf?
  rcases clock? s with _ | ⟨hour, minute, rest⟩
  · rfl
  simp only [Option.bind_eq_bind, Option.bind_some, if_true, Bool.false_eq_true, if_false]
  cases rest with
  | nil => rfl
  | cons c rest =>
    by_cases hc : c = ':'
    · subst hc
      simp [after?]
    · simp [after?, hc]

theorem timeOf?_trimStart (seconds : Bool) :
    timeOf? seconds d (Text.trimStart s) = timeOf? seconds d s := by
  have hfield : field? (Text.trimStart s) = field? s := by
    rw [field?, field?, Text.trimStart_trimStart]
  rw [timeOf?, timeOf?, clock?, clock?, hfield]

/-- A letter is no time of day. -/
theorem timeOf?_letter (seconds : Bool) : timeOf? seconds d ('T' :: s) = none :=
  rfl

theorem seconds_eq_of_timeOf? {seconds seconds' : Bool} {m m' : Moment}
    (h : timeOf? seconds d s = some m) (h' : timeOf? seconds' d s = some m') :
    seconds = seconds' := by
  have hnone : ∀ {m m' : Moment}, timeOf? true d s = some m → timeOf? false d s ≠ some m' := by
    intro m m' h
    rcases hclock : clock? s with _ | ⟨hour, minute, rest⟩
    · simp [timeOf?, hclock]
    · cases rest with
      | nil => simp [timeOf?, hclock, after?] at h
      | cons c rest => simp [timeOf?, hclock]
  cases seconds <;> cases seconds'
  · rfl
  · exact absurd h (hnone h')
  · exact absurd h' (hnone h)
  · rfl

end Times

namespace Pattern

variable {p q : Pattern} {s : List Char} {m m' : Moment}

/-- No text is read by two patterns, so that their order does not matter. -/
theorem eq_of_read? (hp : p.read? s = some m) (hq : q.read? s = some m') : p = q := by
  obtain ⟨letter, seconds⟩ := p
  obtain ⟨letter', seconds'⟩ := q
  simp only [read?, separated?, Option.bind_eq_bind, Option.bind_eq_some_iff] at hp hq
  obtain ⟨⟨d, rest⟩, hdate, r, hr, htime⟩ := hp
  obtain ⟨⟨d', rest'⟩, hdate', r', hr', htime'⟩ := hq
  obtain ⟨rfl, rfl⟩ : d = d' ∧ rest = rest' := by simpa [hdate] using hdate'
  have hexclusive : ∀ {t : List Char} {seconds : Bool} {m : Moment}, rest = 'T' :: t →
      timeOf? seconds d (Text.trimStart rest) ≠ some m := by
    intro t seconds m hrest
    rw [timeOf?_trimStart, hrest, timeOf?_letter]
    nofun
  have hletter : letter = letter' := by
    cases letter <;> cases letter'
    · rfl
    · obtain rfl := Option.some.inj hr
      exact absurd htime (hexclusive (after?_eq_some_iff.1 hr'))
    · obtain rfl := Option.some.inj hr'
      exact absurd htime' (hexclusive (after?_eq_some_iff.1 hr))
    · rfl
  subst hletter
  obtain rfl : r = r' := Option.some.inj (hr.symm.trans hr')
  rw [seconds_eq_of_timeOf? htime htime']

end Pattern

theorem read?_eq_findSome? (s : List Char) :
    read? s = (Pattern.all.findSome? (·.read? s)).or (midnight? s) := by
  have hfirst : ∀ (p : Pattern) (ps : List Pattern), (p :: ps).findSome? (·.read? s)
      = (p.read? s).or (ps.findSome? (·.read? s)) := by
    intro p ps
    rw [List.findSome?_cons]
    cases p.read? s <;> rfl
  rw [Pattern.all, hfirst, hfirst, hfirst, hfirst, List.findSome?_nil, Option.or_none]
  unfold read? Pattern.read? Pattern.separated? midnight?
  rcases date? s with _ | ⟨d, rest⟩
  · rfl
  simp only [Option.bind_eq_bind, Option.bind_some, if_true, Bool.false_eq_true, if_false]
  -- Behind the date stands nothing, a letter, or something else, which blanks may begin.
  cases rest with
  | nil => rfl
  | cons c rest =>
    by_cases hc : c = 'T'
    · subst hc
      simp [after?, timeOf?_trimStart, timeOf?_letter, time?_eq_or]
    · simp [after?, hc, timeOf?_trimStart, time?_eq_or]

end Plain

end Calendar

/-- The strict notation is tried first, then the patterns and last a date alone. -/
theorem Moment.read?_eq_or (s : List Char) :
    read? s = (Calendar.Strict.read? (Text.trim s)).or
      ((Calendar.Plain.Pattern.all.findSome? (·.read? (Text.trim s))).or
        (Calendar.Plain.midnight? (Text.trim s))) := by
  rw [← Calendar.Plain.read?_eq_findSome?, read?]
  cases Calendar.Strict.read? (Text.trim s) <;> rfl

end Worksheet
