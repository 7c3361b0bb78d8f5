import Worksheet.Calendar.Reading
import Worksheet.Proofs.Trimming
import Worksheet.Proofs.Words

/-!
# Dates and moments are read back

A number with zeros in front is read back up to the first character that is no digit, whatever
follows (`Calendar.digits?_zeroPadded`).  So is a year, whose sign, where it has one, lets the
reader take more than four digits (`Calendar.Plain.year?_yearText`), and with it a whole date
(`Calendar.Plain.date?_text`).  The strict notation is tried first and gets in the way of nothing
that is written: it has no signs, and it asks for an offset from universal time after the time of
day (`Calendar.Strict.read?_clockChars`).  So every date is read back as its midnight and every
moment to the second (`Moment.read?_dateText`, `Moment.read?_text`).
-/

namespace Worksheet

/-! ## Numbers with zeros in front -/

section ZeroPadded

variable {width n : Nat}

theorem toList_zeroPadded (width n : Nat) : (zeroPadded width n).toList
    = List.replicate (width - (Nat.toDigits 10 n).length) '0' ++ Nat.toDigits 10 n := by
  rw [zeroPadded, String.toList_ofList, Number.digitsOf]

theorem isDigit_of_mem_zeroPadded : ∀ c ∈ (zeroPadded width n).toList, Number.isDigit c = true := by
  intro c hc
  rw [toList_zeroPadded, List.mem_append] at hc
  rcases hc with hc | hc
  · rw [List.eq_of_mem_replicate hc]
    rfl
  · exact isDigit_toDigits c hc

theorem ofDigits_zeroPadded : Number.ofDigits (zeroPadded width n).toList = n := by
  have hzeros : ∀ k, Number.ofDigits (List.replicate k '0') = 0 := by
    intro k
    induction k with
    | zero => rfl
    | succ k ih => exact ih
  have hdigits := ofDigits_toDigits n
  unfold Number.ofDigits at hzeros hdigits ⊢
  rw [toList_zeroPadded, List.foldl_append, hzeros, hdigits]

theorem length_zeroPadded (width n : Nat) :
    (zeroPadded width n).toList.length = max width (Nat.toDigits 10 n).length := by
  rw [toList_zeroPadded, List.length_append, List.length_replicate]
  omega

theorem length_zeroPadded_of_lt (hwidth : 0 < width) (h : n < Nat.pow 10 width) :
    (zeroPadded width n).toList.length = width := by
  have hle := (Nat.length_toDigits_le_iff (by omega) hwidth).2 h
  rw [length_zeroPadded]
  omega

theorem length_zeroPadded_year {year : Int} (h : 0 ≤ year ∧ year ≤ 9999) :
    (zeroPadded 4 year.toNat).toList.length = 4 := by
  have hlt : year.toNat < 10000 := by omega
  exact length_zeroPadded_of_lt (by omega) hlt

theorem length_zeroPadded_pos (width n : Nat) : 0 < (zeroPadded width n).toList.length := by
  have hpos := List.length_pos_iff.2 (Nat.toDigits_ne_nil (n := n) (b := 10))
  rw [length_zeroPadded]
  omega

end ZeroPadded

/-! ## Reading digits -/

/-- Whether a text does not go on with a digit. -/
def NoDigitAhead (s : List Char) : Prop :=
  ∀ c ∈ s.head?, Number.isDigit c = false

theorem noDigitAhead_cons {c : Char} (h : Number.isDigit c = false) (s : List Char) :
    NoDigitAhead (c :: s) := by
  simpa [NoDigitAhead] using h

theorem noDigitAhead_nil : NoDigitAhead [] := by
  simp [NoDigitAhead]

theorem isWordChar_of_isDigit {c : Char} (h : Number.isDigit c = true) : IsWordChar c :=
  .inr (.inr (.inl h))

theorem exists_zeroPadded_eq_cons (width n : Nat) :
    ∃ c s, Number.isDigit c = true ∧ (zeroPadded width n).toList = c :: s := by
  obtain ⟨c, s, hs⟩ := List.exists_cons_of_length_pos (length_zeroPadded_pos width n)
  exact ⟨c, s, isDigit_of_mem_zeroPadded c (hs ▸ List.mem_cons_self), hs⟩

namespace Calendar

variable {least most width n : Nat} {rest : List Char}

theorem digits?_zeroPadded (hrest : NoDigitAhead rest)
    (hleast : least ≤ (zeroPadded width n).toList.length)
    (hmost : (zeroPadded width n).toList.length ≤ most) :
    digits? least most ((zeroPadded width n).toList ++ rest) = some (n, rest) := by
  have hstop : rest.takeWhile Number.isDigit = [] := by
    cases rest with
    | nil => rfl
    | cons c rest => simp [hrest c rfl]
  have htaken : (((zeroPadded width n).toList ++ rest).takeWhile Number.isDigit).take most
      = (zeroPadded width n).toList := by
    rw [List.takeWhile_append_of_pos isDigit_of_mem_zeroPadded, hstop, List.append_nil,
      List.take_of_length_le hmost]
  rw [digits?]
  simp only [htaken, if_neg (Nat.not_lt.2 hleast), ofDigits_zeroPadded, List.drop_left]

theorem digits?_two (hrest : NoDigitAhead rest) (hn : n < 100) :
    digits? 2 2 ((zeroPadded 2 n).toList ++ rest) = some (n, rest) := by
  have hlength : (zeroPadded 2 n).toList.length = 2 := length_zeroPadded_of_lt (by omega) hn
  exact digits?_zeroPadded hrest hlength.ge hlength.le

theorem trimStart_of_isWordChar {c : Char} (hc : IsWordChar c) (s : List Char) :
    Text.trimStart (c :: s) = c :: s :=
  Text.trimStart_eq_self (by simpa using hc.not_isBlank)

theorem after?_self (c : Char) (s : List Char) : after? c (c :: s) = some s :=
  if_pos rfl

namespace Plain

theorem field?_zeroPadded (hrest : NoDigitAhead rest) (hn : n < 100) :
    field? ((zeroPadded 2 n).toList ++ rest) = some (n, rest) := by
  have hlength : (zeroPadded 2 n).toList.length = 2 := length_zeroPadded_of_lt (by omega) hn
  have hread : digits? 1 2 ((zeroPadded 2 n).toList ++ rest) = some (n, rest) :=
    digits?_zeroPadded hrest (by omega) hlength.le
  obtain ⟨c, s, hc, hs⟩ := exists_zeroPadded_eq_cons 2 n
  rw [hs, List.cons_append] at hread ⊢
  rw [field?, trimStart_of_isWordChar (isWordChar_of_isDigit hc), hread]

theorem year?_minus (s : List Char) :
    year? ('-' :: s) = (digits? 1 s.length s).map fun (n, r) => (-(n : Int), r) := by
  rw [year?, trimStart_of_isWordChar (by decide)]
  rfl

theorem year?_plus (s : List Char) :
    year? ('+' :: s) = (digits? 1 s.length s).map fun (n, r) => ((n : Int), r) := by
  rw [year?, trimStart_of_isWordChar (by decide)]
  rfl

theorem year?_of_isDigit {c : Char} (hc : Number.isDigit c = true) (s : List Char) :
    year? (c :: s) = (digits? 1 4 (c :: s)).map fun (n, r) => ((n : Int), r) := by
  rw [year?, trimStart_of_isWordChar (isWordChar_of_isDigit hc)]
  split
  · rename_i h
    cases h
    cases hc
  · rename_i h
    cases h
    cases hc
  · rfl

/-- A year is read back, with as many digits as it has. -/
theorem year?_yearText (hrest : NoDigitAhead rest) (year : Int) :
    year? ((Date.yearText year).toList ++ rest) = some (year, rest) := by
  have hdigits : digits? 1 ((zeroPadded 4 year.natAbs).toList ++ rest).length
      ((zeroPadded 4 year.natAbs).toList ++ rest) = some (year.natAbs, rest) :=
    digits?_zeroPadded hrest (length_zeroPadded_pos _ _) (by simp)
  unfold Date.yearText
  split_ifs with hshort hneg
  · obtain ⟨c, s, hc, hs⟩ := exists_zeroPadded_eq_cons 4 year.toNat
    have hlength := length_zeroPadded_year hshort
    have hread : digits? 1 4 ((zeroPadded 4 year.toNat).toList ++ rest) = some (year.toNat, rest) :=
      digits?_zeroPadded hrest (by omega) hlength.le
    rw [hs, List.cons_append] at hread ⊢
    rw [year?_of_isDigit hc, hread, Option.map_some]
    simp only [Int.toNat_of_nonneg hshort.1]
  · have htext : ("-" ++ zeroPadded 4 year.natAbs).toList ++ rest
        = '-' :: ((zeroPadded 4 year.natAbs).toList ++ rest) := by simp
    have hyear : -(year.natAbs : Int) = year := by omega
    rw [htext, year?_minus, hdigits, Option.map_some]
    simp only [hyear]
  · have htext : ("+" ++ zeroPadded 4 year.natAbs).toList ++ rest
        = '+' :: ((zeroPadded 4 year.natAbs).toList ++ rest) := by simp
    have hyear : (year.natAbs : Int) = year := by omega
    rw [htext, year?_plus, hdigits, Option.map_some]
    simp only [hyear]

end Plain

end Calendar

/-! ## Dates -/

namespace Date

theorem toList_text (d : Date) : d.text.toList = (yearText d.year).toList
    ++ '-' :: ((zeroPadded 2 d.month).toList ++ '-' :: (zeroPadded 2 d.day).toList) := by
  simp [text]

theorem ofParts?_eq_self (d : Date) : ofParts? d.year d.month d.day = some d :=
  dif_pos d.exists_day

theorem month_lt (d : Date) : d.month < 100 := by
  have h := d.exists_day
  simp only [isDate, Bool.and_eq_true, decide_eq_true_eq] at h
  omega

theorem day_lt (d : Date) : d.day < 100 := by
  have h := d.exists_day
  have hdays : daysInMonth d.year d.month ≤ 31 := by
    unfold daysInMonth
    split_ifs <;> omega
  simp only [isDate, Bool.and_eq_true, decide_eq_true_eq] at h
  omega

end Date

/-- A time of day to the second. -/
def clockChars (hour minute second : Nat) : List Char :=
  (zeroPadded 2 hour).toList
    ++ ':' :: ((zeroPadded 2 minute).toList ++ ':' :: (zeroPadded 2 second).toList)

theorem Moment.toList_text (m : Moment) : m.text.toList = m.date.text.toList ++ 'T' ::
    clockChars m.hour.val m.minute.val (m.second.val + m.nanosecond.val / 1000000000) := by
  simp [text, clockText, clockChars]

namespace Calendar

variable {rest : List Char} {hour minute second : Nat}

namespace Plain

theorem date?_text (d : Date) (hrest : NoDigitAhead rest) :
    date? (d.text.toList ++ rest) = some (d, rest) := by
  have hminus : ∀ s, NoDigitAhead ('-' :: s) := noDigitAhead_cons rfl
  rw [Date.toList_text, List.append_assoc, List.cons_append, List.append_assoc, List.cons_append,
    date?, year?_yearText (hminus _)]
  dsimp only [Option.bind_eq_bind, Option.bind_some]
  rw [after?_self, Option.bind_some, field?_zeroPadded (hminus _) d.month_lt, Option.bind_some,
    after?_self, Option.bind_some, field?_zeroPadded hrest d.day_lt, Option.bind_some,
    Date.ofParts?_eq_self]
  rfl

theorem clock?_clockChars (hhour : hour < 100) (hminute : minute < 100) :
    clock? (clockChars hour minute second)
      = some (hour, minute, ':' :: (zeroPadded 2 second).toList) := by
  have hcolon : ∀ s, NoDigitAhead (':' :: s) := noDigitAhead_cons rfl
  rw [clockChars, clock?, field?_zeroPadded (hcolon _) hhour]
  dsimp only [Option.bind_eq_bind, Option.bind_some]
  rw [after?_self, Option.bind_some, field?_zeroPadded (hcolon _) hminute]
  rfl

theorem time?_clockChars (d : Date) (hhour : hour < 100) (hminute : minute < 100)
    (hsecond : second < 100) :
    time? d (clockChars hour minute second) = Moment.ofTime? d hour minute second 0 := by
  have hend := field?_zeroPadded noDigitAhead_nil hsecond
  rw [List.append_nil] at hend
  rw [time?, clock?_clockChars hhour hminute]
  simp only [hend, fraction?, Option.bind_eq_bind, Option.bind_some, if_true]

theorem read?_clockChars (d : Date) (hhour : hour < 100) (hminute : minute < 100)
    (hsecond : second < 100) :
    read? (d.text.toList ++ 'T' :: clockChars hour minute second)
      = Moment.ofTime? d hour minute second 0 := by
  rw [read?, date?_text d (noDigitAhead_cons rfl _)]
  simp only [Option.bind_eq_bind, Option.bind_some]
  exact time?_clockChars d hhour hminute hsecond

end Plain

namespace Strict

theorem digits?_yearText (year : Int) (hrest : NoDigitAhead rest) :
    digits? 4 4 ((Date.yearText year).toList ++ rest) = none
      ∨ digits? 4 4 ((Date.yearText year).toList ++ rest) = some (year.toNat, rest) := by
  have hsign : ∀ (c : Char) (s : List Char), Number.isDigit c = false →
      digits? 4 4 (c :: s) = none := by
    intro c s hc
    simp [digits?, hc]
  unfold Date.yearText
  split_ifs with hshort hneg
  · have hlength := length_zeroPadded_year hshort
    exact .inr (digits?_zeroPadded hrest hlength.ge hlength.le)
  · rw [String.toList_append, List.append_assoc]
    exact .inl (hsign '-' _ rfl)
  · rw [String.toList_append, List.append_assoc]
    exact .inl (hsign '+' _ rfl)

theorem separator?_letter (s : List Char) : separator? ('T' :: s) = some s :=
  rfl

theorem read?_dateText (d : Date) : read? d.text.toList = none := by
  have hminus : ∀ s, NoDigitAhead ('-' :: s) := noDigitAhead_cons rfl
  have hend := digits?_two noDigitAhead_nil d.day_lt
  rw [List.append_nil] at hend
  rw [Date.toList_text, read?]
  rcases digits?_yearText d.year (hminus _) with hyear | hyear <;> rw [hyear]
  · rfl
  · dsimp only [Option.bind_eq_bind, Option.bind_some]
    rw [after?_self, Option.bind_some, digits?_two (hminus _) d.month_lt, Option.bind_some,
      after?_self, Option.bind_some, hend]
    rfl

/-- After the time of day an offset is missing. -/
theorem read?_clockChars (d : Date) (hhour : hour < 100) (hminute : minute < 100)
    (hsecond : second < 100) :
    read? (d.text.toList ++ 'T' :: clockChars hour minute second) = none := by
  have hminus : ∀ s, NoDigitAhead ('-' :: s) := noDigitAhead_cons rfl
  have hletter : ∀ s, NoDigitAhead ('T' :: s) := noDigitAhead_cons rfl
  have hcolon : ∀ s, NoDigitAhead (':' :: s) := noDigitAhead_cons rfl
  have hend := digits?_two noDigitAhead_nil hsecond
  rw [List.append_nil] at hend
  rw [Date.toList_text, List.append_assoc, List.cons_append, List.append_assoc, List.cons_append,
    read?]
  rcases digits?_yearText d.year (hminus _) with hyear | hyear <;> rw [hyear]
  · rfl
  · dsimp only [Option.bind_eq_bind, Option.bind_some]
    rw [after?_self, Option.bind_some, digits?_two (hminus _) d.month_lt, Option.bind_some,
      after?_self, Option.bind_some, digits?_two (hletter _) d.day_lt, Option.bind_some,
      separator?_letter, Option.bind_some, clockChars, digits?_two (hcolon _) hhour,
      Option.bind_some, after?_self, Option.bind_some, digits?_two (hcolon _) hminute,
      Option.bind_some, after?_self, Option.bind_some, hend]
    rfl

end Strict

end Calendar

/-! ## Moments -/

namespace Moment

/-- Blanks around a text do not matter. -/
theorem read?_padded (s : List Char) {p q : List Char} (hp : ∀ c ∈ p, Text.isBlank c = true)
    (hq : ∀ c ∈ q, Text.isBlank c = true) : read? (p ++ s ++ q) = read? s := by
  rw [read?, read?, Text.trim_padded s hp hq]

theorem read?_of_isWordChar {s : List Char} (hs : ∀ c ∈ s, IsWordChar c)
    (hstrict : Calendar.Strict.read? s = none) : read? s = Calendar.Plain.read? s := by
  rw [read?, Text.trim_word hs]
  simp only [hstrict]

theorem isWordChar_of_mem_zeroPadded {width n : Nat} :
    ∀ c ∈ (zeroPadded width n).toList, IsWordChar c :=
  fun c hc => isWordChar_of_isDigit (isDigit_of_mem_zeroPadded c hc)

theorem isWordChar_of_mem_yearText {year : Int} :
    ∀ c ∈ (Date.yearText year).toList, IsWordChar c := by
  intro c hc
  unfold Date.yearText at hc
  split_ifs at hc
  · exact isWordChar_of_mem_zeroPadded c hc
  all_goals
    rw [String.toList_append, List.mem_append] at hc
    rcases hc with hc | hc
    · obtain rfl := List.mem_singleton.1 hc
      decide
    · exact isWordChar_of_mem_zeroPadded c hc

theorem isWordChar_of_mem_dateText {d : Date} : ∀ c ∈ d.text.toList, IsWordChar c := by
  intro c hc
  simp only [Date.toList_text, List.mem_append, List.mem_cons] at hc
  rcases hc with hc | rfl | hc | rfl | hc
  · exact isWordChar_of_mem_yearText c hc
  · decide
  · exact isWordChar_of_mem_zeroPadded c hc
  · decide
  · exact isWordChar_of_mem_zeroPadded c hc

theorem isWordChar_of_mem_text {m : Moment} : ∀ c ∈ m.text.toList, IsWordChar c := by
  intro c hc
  simp only [toList_text, clockChars, List.mem_append, List.mem_cons] at hc
  rcases hc with hc | rfl | hc | rfl | hc | rfl | hc
  · exact isWordChar_of_mem_dateText c hc
  · decide
  · exact isWordChar_of_mem_zeroPadded c hc
  · decide
  · exact isWordChar_of_mem_zeroPadded c hc
  · decide
  · exact isWordChar_of_mem_zeroPadded c hc

/-- A date is read back as its midnight. -/
theorem read?_dateText (d : Date) : read? d.text.toList = some (midnight d) := by
  have hdate := Calendar.Plain.date?_text d noDigitAhead_nil
  rw [List.append_nil] at hdate
  rw [read?_of_isWordChar isWordChar_of_mem_dateText (Calendar.Strict.read?_dateText d),
    Calendar.Plain.read?, hdate]
  rfl

theorem ofTime?_parts (m : Moment) :
    ofTime? m.date m.hour.val m.minute.val m.second.val 0 = some { m with nanosecond := 0 } := by
  have hsecond : m.second.val ≠ 60 := by omega
  have htime : m.hour.val < 24 ∧ m.minute.val < 60 ∧ m.second.val ≤ 60 ∧ 0 < 1000000000 := by omega
  have hmin : min m.second.val 59 = m.second.val := by omega
  rw [ofTime?, dif_pos htime]
  simp only [if_neg hsecond, hmin, Nat.add_zero, Fin.eta]
  rfl

/-- A moment outside a leap second is read back without the fraction of its second. -/
theorem read?_text {m : Moment} (h : m.nanosecond.val < 1000000000) :
    read? m.text.toList = some { m with nanosecond := 0 } := by
  have hhour : m.hour.val < 100 := by omega
  have hminute : m.minute.val < 100 := by omega
  have hsecond : m.second.val < 100 := by omega
  have htext : m.text.toList
      = m.date.text.toList ++ 'T' :: clockChars m.hour.val m.minute.val m.second.val := by
    rw [toList_text, Nat.div_eq_of_lt h, Nat.add_zero]
  have hstrict := Calendar.Strict.read?_clockChars m.date hhour hminute hsecond
  have hplain := Calendar.Plain.read?_clockChars m.date hhour hminute hsecond
  rw [← htext] at hstrict hplain
  rw [read?_of_isWordChar isWordChar_of_mem_text hstrict, hplain, ofTime?_parts]

end Moment

end Worksheet
