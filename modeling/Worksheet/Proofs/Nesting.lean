import Mathlib.Tactic.SplitIfs
import Worksheet.Formula.Scan

/-!
# Texts that a scan passes over

A scan goes on over the end of a text (`after_append`), so what it does with a long text is settled
by what it does with the parts.  A text that hides a class of characters has none of them at the top
level: where it hides commas it is one piece of an argument list (`pieces_append`), and where it
hides operators the first comparison lies behind it (`comparison?_append`).  At a comma at the top
level the pieces before it end (`pieces_append_comma`).

A closed text leaves a scan where it was and never brings one that is inside parentheses back to the
top level.  Texts without quotes and parentheses are closed, and so is a closed text in parentheses
or followed by another one.
-/

namespace Worksheet

namespace Scan

/-- How far a scan has come after a text. -/
def after (s : Scan) (text : List Char) : Scan :=
  text.foldl next s

@[simp]
theorem after_nil (s : Scan) : s.after [] = s := rfl

@[simp]
theorem after_cons (s : Scan) (c : Char) (text : List Char) :
    s.after (c :: text) = (s.next c).after text := rfl

@[simp]
theorem after_append (s : Scan) (u v : List Char) : s.after (u ++ v) = (s.after u).after v :=
  List.foldl_append

/-- Whether no character of a class stands at the top level of a text. -/
def Hides (P : Char → Prop) : Scan → List Char → Prop
  | _, [] => True
  | s, c :: rest => (s.atTop = true → ¬ P c) ∧ Hides P (s.next c) rest

variable {P Q : Char → Prop}

theorem hides_append : ∀ (s : Scan) (u v : List Char),
    Hides P s (u ++ v) ↔ Hides P s u ∧ Hides P (s.after u) v
  | s, [], v => by simp [Hides]
  | s, c :: u, v => by simp [Hides, hides_append (s.next c) u v, and_assoc]

theorem Hides.mono (hPQ : ∀ c, Q c → P c) : ∀ {s : Scan} {u : List Char}, Hides P s u → Hides Q s u
  | _, [], _ => trivial
  | _, _ :: _, h => ⟨fun htop hc => h.1 htop (hPQ _ hc), h.2.mono hPQ⟩

/-! ## Pieces and comparisons -/

/-- A text that hides commas belongs to one piece, together with what comes before the next cut. -/
theorem pieces_append : ∀ {s : Scan} {u : List Char}, Hides (· = ',') s u →
    ∀ {v piece : List Char} {more : List (List Char)}, (s.after u).pieces v = piece :: more →
      s.pieces (u ++ v) = (u ++ piece) :: more
  | _, [], _, _, _, _, hv => hv
  | s, c :: u, h, v, piece, more, hv => by
    have htail := pieces_append h.2 hv
    have hcut : (decide (c = ',') && s.atTop) = false := by
      rcases htop : s.atTop with _ | _
      · simp
      · simpa using h.1 htop
    rw [List.cons_append, pieces, hcut, htail]
    rfl

theorem pieces_eq_singleton {s : Scan} {u : List Char} (h : Hides (· = ',') s u) :
    s.pieces u = [u] := by
  have hnil : (s.after u).pieces [] = [[]] := rfl
  simpa using pieces_append h hnil

/-- The characters that a comparison operator may begin with. -/
def IsSign (c : Char) : Prop :=
  c = '<' ∨ c = '>' ∨ c = '=' ∨ c = '!'

theorem leading?_eq_none {c : Char} (h : ¬ IsSign c) (rest : List Char) :
    Comparator.leading? (c :: rest) = none := by
  simp only [IsSign, not_or] at h
  unfold Comparator.leading?
  split <;> simp_all

/-- A text that hides operators lies before the first comparison. -/
theorem comparison?_append : ∀ {s : Scan} {u : List Char}, Hides IsSign s u → ∀ v : List Char,
    s.comparison? (u ++ v)
      = ((s.after u).comparison? v).map fun (left, op, right) => (u ++ left, op, right)
  | s, [], _, v => by
    rw [List.nil_append, after_nil]
    rcases s.comparison? v with _ | ⟨left, op, right⟩ <;> rfl
  | s, c :: u, h, v => by
    have htail := comparison?_append h.2 v
    have hnone : (if s.atTop then Comparator.leading? (c :: (u ++ v)) else none) = none := by
      split_ifs with htop
      · exact leading?_eq_none (h.1 htop) _
      · rfl
    rw [List.cons_append, comparison?, hnone]
    simp only [htail, after_cons, Option.map_map]
    rfl

theorem comparison?_eq_none {s : Scan} {u : List Char} (h : Hides IsSign s u) :
    s.comparison? u = none := by
  have hnil : (s.after u).comparison? [] = none := rfl
  simpa [hnil] using comparison?_append h []

/-! ## Closed texts -/

/-- Whether a scan that is outside quotes passes over a text: it is where it was at the end, and
inside parentheses nothing of the text is at the top level. -/
structure Closed (u : List Char) : Prop where
  after_eq : ∀ d : Int, after ⟨false, d⟩ u = ⟨false, d⟩
  below : ∀ d : Int, 0 < d → Hides (fun _ => True) ⟨false, d⟩ u

/-- Whether a character is no quote and no parenthesis. -/
def IsPlain (c : Char) : Prop :=
  c ≠ '"' ∧ c ≠ '(' ∧ c ≠ ')'

theorem next_of_isPlain (s : Scan) {c : Char} (h : IsPlain c) : s.next c = s := by
  simp [next, h.1, h.2.1, h.2.2]

theorem after_of_isPlain (s : Scan) : ∀ {u : List Char}, (∀ c ∈ u, IsPlain c) → s.after u = s
  | [], _ => rfl
  | c :: u, h => by
    rw [after_cons, next_of_isPlain s (h c List.mem_cons_self)]
    exact after_of_isPlain s fun d hd => h d (List.mem_cons_of_mem c hd)

theorem hides_of_isPlain {s : Scan} : ∀ {u : List Char}, (∀ c ∈ u, IsPlain c) →
    (∀ c ∈ u, s.atTop = true → ¬ P c) → Hides P s u
  | [], _, _ => trivial
  | c :: u, h, hP => by
    refine ⟨hP c List.mem_cons_self, ?_⟩
    rw [next_of_isPlain s (h c List.mem_cons_self)]
    exact hides_of_isPlain (fun d hd => h d (List.mem_cons_of_mem c hd))
      fun d hd => hP d (List.mem_cons_of_mem c hd)

theorem not_atTop {d : Int} (h : 0 < d) (quoted : Bool) : (Scan.mk quoted d).atTop = false := by
  have hd : (d == 0) = false := by simpa using Int.ne_of_gt h
  simp [atTop, hd]

theorem closed_of_isPlain {u : List Char} (h : ∀ c ∈ u, IsPlain c) : Closed u where
  after_eq := fun _ => after_of_isPlain _ h
  below := fun _ hd => hides_of_isPlain h fun _ _ htop => by simp [not_atTop hd] at htop

theorem closed_nil : Closed [] :=
  closed_of_isPlain fun c hc => by simp at hc

theorem Closed.append {u v : List Char} (hu : Closed u) (hv : Closed v) : Closed (u ++ v) where
  after_eq := fun d => by rw [after_append, hu.after_eq, hv.after_eq]
  below := by
    intro d hd
    rw [hides_append, hu.after_eq]
    exact ⟨hu.below d hd, hv.below d hd⟩

/-- A closed text in parentheses has nothing but the opening one at the top level. -/
theorem Closed.hides_parenthesized {u : List Char} (h : Closed u) {d : Int} (hd : 0 ≤ d)
    (hP : d = 0 → ¬ P '(') : Hides P ⟨false, d⟩ ('(' :: u ++ [')']) := by
  have hopen : next ⟨false, d⟩ '(' = ⟨false, d + 1⟩ := rfl
  have hpos : 0 < d + 1 := by omega
  rw [List.cons_append, Hides, hopen, hides_append, h.after_eq]
  refine ⟨fun htop => hP (by simpa [atTop] using htop),
    (h.below _ hpos).mono fun _ _ => trivial, ?_⟩
  exact ⟨fun htop => by simp [not_atTop hpos] at htop, trivial⟩

theorem Closed.parenthesized {u : List Char} (h : Closed u) : Closed ('(' :: u ++ [')']) where
  after_eq := by
    intro d
    have hopen : next ⟨false, d⟩ '(' = ⟨false, d + 1⟩ := rfl
    rw [List.cons_append, after_cons, hopen, after_append, h.after_eq]
    simp [next]
  below := fun _ hd => h.hides_parenthesized (Int.le_of_lt hd) fun h0 => absurd h0 (by omega)

/-! ## Dividing at commas -/

theorem next_comma (s : Scan) : s.next ',' = s :=
  next_of_isPlain s (by simp [IsPlain])

theorem pieces_cons_comma {s : Scan} (h : s.atTop = true) (u : List Char) :
    s.pieces (',' :: u) = [] :: s.pieces u := by
  simp [pieces, h]

theorem exists_pieces_eq_cons (s : Scan) (u : List Char) :
    ∃ piece more, s.pieces u = piece :: more := by
  cases u with
  | nil => exact ⟨[], [], rfl⟩
  | cons c u =>
    unfold pieces
    split_ifs
    · exact ⟨_, _, rfl⟩
    · split <;> exact ⟨_, _, rfl⟩

theorem pieces_cons {s : Scan} {c : Char} (h : c = ',' → s.atTop = false) {u piece : List Char}
    {more : List (List Char)} (hu : (s.next c).pieces u = piece :: more) :
    s.pieces (c :: u) = (c :: piece) :: more := by
  have hcut : (decide (c = ',') && s.atTop) = false := by simpa using h
  rw [pieces, hcut, hu]
  rfl

/-- At a comma at the top level the pieces before it end and those after it begin. -/
theorem pieces_append_comma : ∀ {u : List Char} {s : Scan}, (s.after u).atTop = true →
    ∀ v : List Char, s.pieces (u ++ ',' :: v) = s.pieces u ++ (s.after u).pieces v
  | [], s, h, v => pieces_cons_comma h v
  | c :: u, s, h, v => by
    have ih := pieces_append_comma (u := u) (s := s.next c) h v
    by_cases hcut : c = ',' ∧ s.atTop = true
    · obtain ⟨rfl, htop⟩ := hcut
      rw [next_comma] at ih
      rw [List.cons_append, pieces_cons_comma htop, pieces_cons_comma htop, ih, after_cons,
        next_comma, List.cons_append]
    · have hcut' : c = ',' → s.atTop = false := by simpa using hcut
      obtain ⟨piece, more, hu⟩ := exists_pieces_eq_cons (s.next c) u
      rw [hu, List.cons_append] at ih
      rw [List.cons_append, pieces_cons hcut' ih, pieces_cons hcut' hu, after_cons,
        List.cons_append]

end Scan

end Worksheet
