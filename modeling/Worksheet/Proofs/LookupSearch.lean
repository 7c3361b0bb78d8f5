import Worksheet.Proofs.Blocks
import Worksheet.Proofs.Readings
import Worksheet.Proofs.ValueOrder

/-!
# Looking up as one search

A block holds a grid of values as a flat list and a width.  Looking up by columns searches the first
column of the grid, and looking up by rows is the same search in the transposed grid
(`Functions.vLookup_eq`, `Functions.hLookup_eq`).  The search stops at the first key of the needle's
kind that is greater, and everything before it that is of another kind is passed over
(`Functions.lastNotGreater_eq`).  Every argument in a formula comes to a table of values, so this is
what the two calls come to there (`Expression.evaluate_lookups`).
-/

namespace Worksheet

/-- A rectangular table of values. -/
structure Grid where
  height : Nat
  width : Nat
  cell : Nat → Nat → Value

namespace Grid

/-- The table with rows and columns exchanged. -/
def transpose (g : Grid) : Grid :=
  ⟨g.width, g.height, fun i j => g.cell j i⟩

def row (g : Grid) (i : Nat) : List Value :=
  (List.range g.width).map (g.cell i)

/-- All values, row by row. -/
def values (g : Grid) : List Value :=
  (List.range g.height).flatMap g.row

/-- The values of the first column. -/
def keys (g : Grid) : List Value :=
  (List.range g.height).map fun i => g.cell i 0

def IsEmpty (g : Grid) : Prop :=
  g.height = 0 ∨ g.width = 0

instance (g : Grid) : Decidable g.IsEmpty :=
  inferInstanceAs (Decidable (g.height = 0 ∨ g.width = 0))

/-- Whether an argument is a table of values. -/
structure Holds (g : Grid) (a : Argument) : Prop where
  values : a.values = g.values
  width : ¬ g.IsEmpty → a.width = g.width

variable {g : Grid} {a : Argument}

theorem length_row (i : Nat) : (g.row i).length = g.width := by
  simp [row]

theorem values_eq_nil_iff : g.values = [] ↔ g.IsEmpty := by
  simp only [values, List.flatMap_eq_nil_iff, List.mem_range, IsEmpty]
  constructor
  · intro h
    rcases Nat.eq_zero_or_pos g.height with hheight | hheight
    · exact .inl hheight
    · rw [← length_row 0, h 0 hheight]
      exact .inr rfl
  · rintro (h | h) i hi
    · omega
    · rw [← List.length_eq_zero_iff, length_row, h]

section Holds

variable (h : g.Holds a)

include h

theorem Holds.values_eq_nil_iff : a.values = [] ↔ g.IsEmpty := by
  rw [h.values, Grid.values_eq_nil_iff]

variable (hne : ¬ g.IsEmpty)

include hne

theorem Holds.colCount : a.colCount = g.width := by
  rw [Argument.colCount, if_neg (h.values_eq_nil_iff.not.2 hne), h.width hne]

theorem Holds.rowCount : a.rowCount = g.height := by
  have hpos : 0 < g.width := Nat.pos_of_ne_zero fun hw => hne (.inr hw)
  have hlength := length_flatMap_of_length (l := List.range g.height) fun i _ => g.length_row i
  rw [Argument.rowCount, h.colCount hne, h.values, Grid.values, hlength, List.length_range,
    Nat.mul_div_cancel _ hpos]

theorem Holds.rows : a.rows = (List.range g.height).map g.row := by
  have hpos : 0 < g.width := Nat.pos_of_ne_zero fun hw => hne (.inr hw)
  rw [Argument.rows, h.width hne, h.values, Grid.values, Nat.max_eq_left hpos,
    chunks_flatMap hpos fun i _ => length_row i]

theorem Holds.get? {i j : Nat} (hi : i < g.height) (hj : j < g.width) :
    a.get? i j = some (g.cell i j) := by
  have hget : g.values[i * g.width + j]? = (List.range g.height)[i]?.bind fun i => (g.row i)[j]? :=
    getElem?_flatMap hj i fun i _ => length_row i
  rw [Argument.get?, h.colCount hne, if_neg (Nat.not_le.2 hj), h.values, h.width hne, hget,
    List.getElem?_range hi, Option.bind_some, row, List.getElem?_map, List.getElem?_range hj]
  rfl

/-- The heads of the rows are the keys. -/
theorem Holds.heads : a.rows.filterMap List.head? = g.keys := by
  have hpos : 0 < g.width := Nat.pos_of_ne_zero fun hw => hne (.inr hw)
  have hhead : ∀ i, (g.row i).head? = some (g.cell i 0) := by
    intro i
    rw [row, List.head?_map, List.head?_range]
    simp [hpos.ne']
  rw [h.rows hne, List.filterMap_map, keys, ← List.filterMap_eq_map]
  exact List.filterMap_congr fun i _ => hhead i

/-- The first row holds the keys of the transposed table. -/
theorem Holds.firstRow : a.rows.head?.getD [] = g.transpose.keys := by
  have hpos : 0 < g.height := Nat.pos_of_ne_zero fun hh => hne (.inl hh)
  rw [h.rows hne, List.head?_map, List.head?_range]
  simp [hpos.ne', row, keys, transpose]

end Holds

theorem holds_block (g : Grid) : g.Holds (.block g.width g.values) :=
  ⟨rfl, fun _ => rfl⟩

theorem isEmpty_transpose : g.transpose.IsEmpty ↔ g.IsEmpty :=
  Or.comm

end Grid

namespace Functions

/-! ## The search -/

/-- What a search among the keys of a table comes to. -/
def searchIn (g : Grid) (q : Query) : Outcome :=
  if g.IsEmpty then .error .notAvailable
  else if g.width ≤ q.offset then .error .badReference
  else match matchPosition? q.needle g.keys q.approximate with
  | some row => .ok (g.cell row q.offset)
  | none => .error .notAvailable

theorem lt_of_lastNotGreater {needle : Value} {n : Nat} : ∀ {keys : List Value} {found : Option Nat}
    {i p : Nat}, (∀ q ∈ found, q < n) → i + keys.length ≤ n →
    lastNotGreater needle found i keys = some p → p < n
  | [], found, i, p, hfound, _, h => hfound p h
  | key :: rest, found, i, p, hfound, hlength, h => by
    rw [List.length_cons] at hlength
    rw [lastNotGreater] at h
    split_ifs at h
    · exact hfound p h
    · refine lt_of_lastNotGreater ?_ (by omega) h
      rintro q ⟨rfl⟩
      omega
    · exact lt_of_lastNotGreater hfound (by omega) h

theorem lt_of_matchPosition? {needle : Value} {keys : List Value} {approximate : Bool} {p : Nat}
    (h : matchPosition? needle keys approximate = some p) : p < keys.length := by
  unfold matchPosition? at h
  split_ifs at h
  · exact lt_of_lastNotGreater (by simp) (by simp) h
  · exact (List.findIdx?_eq_some_iff_getElem.1 h).1

variable {g : Grid} {args : List Argument}

/-- Looking up by columns is a search among the rows. -/
theorem vLookup_eq (h : g.Holds (blockAt args 1)) :
    vLookup args = (queryOf args).bind (searchIn g) := by
  unfold vLookup
  rcases queryOf args with e | q
  · rfl
  simp only [bind, Except.bind, searchIn]
  by_cases hempty : g.IsEmpty
  · rw [if_pos (h.values_eq_nil_iff.2 hempty), if_pos hempty]
  rw [if_neg (h.values_eq_nil_iff.not.2 hempty), if_neg hempty, h.colCount hempty, h.heads hempty]
  split_ifs with hoffset
  · rfl
  rcases hmatch : matchPosition? q.needle g.keys q.approximate with _ | p
  · rfl
  have hp := lt_of_matchPosition? hmatch
  rw [Grid.keys, List.length_map, List.length_range] at hp
  simp only [h.get? hempty hp (Nat.not_le.1 hoffset)]
  rfl

/-- Looking up by rows is the same search among the columns. -/
theorem hLookup_eq (h : g.Holds (blockAt args 1)) :
    hLookup args = (queryOf args).bind (searchIn g.transpose) := by
  unfold hLookup
  rcases queryOf args with e | q
  · rfl
  simp only [bind, Except.bind, searchIn]
  by_cases hempty : g.IsEmpty
  · rw [if_pos (h.values_eq_nil_iff.2 hempty), if_pos (Grid.isEmpty_transpose.2 hempty)]
  rw [if_neg (h.values_eq_nil_iff.not.2 hempty), if_neg (Grid.isEmpty_transpose.not.2 hempty),
    h.rowCount hempty, h.firstRow hempty]
  split_ifs with hoffset hoffset' hoffset'
  · rfl
  · exact absurd hoffset hoffset'
  · exact absurd hoffset' hoffset
  rcases hmatch : matchPosition? q.needle g.transpose.keys q.approximate with _ | p
  · rfl
  have hp := lt_of_matchPosition? hmatch
  rw [Grid.keys, List.length_map, List.length_range] at hp
  simp only [h.get? hempty (Nat.not_le.1 hoffset) hp]
  rfl

/-- A column and a row with the same keys are looked up in alike. -/
theorem vLookup_eq_hLookup {needle table table' : Argument} {rest : List Argument}
    (h : g.Holds table) (h' : g.transpose.Holds table') :
    vLookup (needle :: table :: rest) = hLookup (needle :: table' :: rest) := by
  have hleft : g.Holds (blockAt (needle :: table :: rest) 1) := h
  have hright : g.transpose.Holds (blockAt (needle :: table' :: rest) 1) := h'
  rw [vLookup_eq hleft, hLookup_eq hright]
  rfl

end Functions

/-! ## Keys -/

namespace Value

/-- Whether two values are equal numbers, the same boolean, both empty, or texts that differ at most
in the case of their letters. -/
inductive SameAs : Value → Value → Prop
  | number {x y : Float} (h : (x == y) = true) : SameAs (.number x) (.number y)
  | boolean (b : Bool) : SameAs (.boolean b) (.boolean b)
  | empty : SameAs .empty .empty
  | text {s t : String} (h : lowerText s = lowerText t) : SameAs (.text s) (.text t)

/-- Whether two values are both numbers, both texts or both booleans. -/
inductive OfKind : Value → Value → Prop
  | number (x y : Float) : OfKind (.number x) (.number y)
  | text (s t : String) : OfKind (.text s) (.text t)
  | boolean (a b : Bool) : OfKind (.boolean a) (.boolean b)

/-- Whether a value is greater than another one of its kind. -/
inductive Exceeds : Value → Value → Prop
  | number {x y : Float} (h : y < x) : Exceeds (.number x) (.number y)
  | text {s t : String} (h : lowerText t < lowerText s) : Exceeds (.text s) (.text t)
  | boolean : Exceeds (.boolean true) (.boolean false)

/-- Whether a value is less than another one of its kind or equal to it. -/
inductive AtMost : Value → Value → Prop
  | number {x y : Float} (h : x ≤ y) : AtMost (.number x) (.number y)
  | text {s t : String} (h : lowerText s ≤ lowerText t) : AtMost (.text s) (.text t)
  | boolean {a b : Bool} (h : a ≤ b) : AtMost (.boolean a) (.boolean b)

theorem Exceeds.ofKind {v w : Value} (h : v.Exceeds w) : w.OfKind v := by
  cases h <;> constructor

theorem Exceeds.of_atMost {v w needle : Value} (h : v.AtMost w) (hv : v.Exceeds needle) :
    w.Exceeds needle := by
  cases hv with
  | number hlt =>
    cases h with
    | number hle => exact .number (Number.lt_of_lt_of_le hlt hle)
  | text hlt =>
    cases h with
    | text hle => exact .text (lt_of_lt_of_le hlt hle)
  | boolean =>
    cases h with
    | boolean hle =>
      rw [Bool.eq_true_of_true_le hle]
      exact .boolean

end Value

namespace Functions

theorem isSame_iff {v w : Value} : isSame v w = true ↔ v.SameAs w := by
  constructor
  · intro h
    unfold isSame at h
    split at h
    · exact .number h
    · rw [beq_iff_eq] at h
      rw [h]
      exact .boolean _
    · exact .text (beq_iff_eq.1 h)
    · exact .empty
    · cases h
  · rintro (h | _ | _ | h)
    · exact h
    · exact beq_self_eq_true _
    · rfl
    · exact beq_iff_eq.2 h

theorem isSameKind_iff {v w : Value} : isSameKind v w = true ↔ v.OfKind w := by
  constructor
  · intro h
    unfold isSameKind at h
    split at h
    · constructor
    · constructor
    · constructor
    · cases h
  · rintro (_ | _ | _) <;> rfl

/-- Among values of one kind the order of values is that of their kind. -/
theorem compare_eq_gt_iff {v w : Value} (h : w.OfKind v) : v.compare w = .gt ↔ v.Exceeds w := by
  cases h with
  | number y x =>
    refine Value.compareNumbers_eq_gt_iff.trans ⟨.number, fun h => ?_⟩
    cases h with
    | number h => exact h
  | text t s =>
    have hcompare : (Value.text s).compare (.text t) = compare (lowerText s) (lowerText t) := rfl
    rw [hcompare, compare_gt_iff_gt]
    refine ⟨.text, fun h => ?_⟩
    cases h with
    | text h => exact h
  | boolean b a =>
    have hcompare : (Value.boolean a).compare (.boolean b) = compare a b := rfl
    rw [hcompare]
    refine ⟨fun h => ?_, fun h => ?_⟩
    · cases a <;> cases b <;> first | exact .boolean | cases h
    · cases h
      rfl

/-! ## Searching for the nearest key -/

section Nearest

variable {needle : Value}

theorem lastNotGreater_append_of_other {r : List Value} : ∀ {l : List Value} (found : Option Nat)
    (i : Nat), (∀ key ∈ l, ¬ needle.OfKind key) →
    lastNotGreater needle found i (l ++ r) = lastNotGreater needle found (i + l.length) r
  | [], _, _, _ => rfl
  | key :: l, found, i, h => by
    have hkey : ¬ isSameKind needle key = true := isSameKind_iff.not.2 (h key List.mem_cons_self)
    have htail := lastNotGreater_append_of_other (r := r) found (i + 1)
      fun k hk => h k (List.mem_cons_of_mem key hk)
    rw [List.cons_append, lastNotGreater, if_neg hkey, htail, List.length_cons]
    congr 1
    omega

theorem exists_lastNotGreater_append {r : List Value} : ∀ {l : List Value} (found : Option Nat)
    (i : Nat), (∀ key ∈ l, ¬ key.Exceeds needle) →
    ∃ found', lastNotGreater needle found i (l ++ r)
      = lastNotGreater needle found' (i + l.length) r
  | [], found, _, _ => ⟨found, rfl⟩
  | key :: l, found, i, h => by
    have hlength : i + 1 + l.length = i + (key :: l).length := by
      rw [List.length_cons]
      omega
    have htail : ∀ k ∈ l, ¬ k.Exceeds needle := fun k hk => h k (List.mem_cons_of_mem key hk)
    rw [List.cons_append, lastNotGreater, ← hlength]
    split_ifs with hkind hgreater
    · rw [isSameKind_iff] at hkind
      rw [beq_iff_eq, compare_eq_gt_iff hkind] at hgreater
      exact absurd hgreater (h key List.mem_cons_self)
    · exact exists_lastNotGreater_append (some i) (i + 1) htail
    · exact exists_lastNotGreater_append found (i + 1) htail

theorem lastNotGreater_stop {r : List Value} (h : ∀ key ∈ r.head?, key.Exceeds needle)
    (found : Option Nat) (i : Nat) : lastNotGreater needle found i r = found := by
  cases r with
  | nil => rfl
  | cons key r =>
    have hgreater := h key rfl
    rw [lastNotGreater, if_pos (isSameKind_iff.2 hgreater.ofKind),
      if_pos (beq_iff_eq.2 ((compare_eq_gt_iff hgreater.ofKind).2 hgreater))]

/-- The search finds the last key of the needle's kind before the first greater one. -/
theorem lastNotGreater_eq {l l' r : List Value} {key : Value} (hl : ∀ k ∈ l, ¬ k.Exceeds needle)
    (hkind : needle.OfKind key) (hkey : ¬ key.Exceeds needle) (hl' : ∀ k ∈ l', ¬ needle.OfKind k)
    (hr : ∀ k ∈ r.head?, k.Exceeds needle) :
    lastNotGreater needle none 0 (l ++ key :: (l' ++ r)) = some l.length := by
  obtain ⟨found, hfound⟩ := exists_lastNotGreater_append (r := key :: (l' ++ r)) none 0 hl
  have hgreater : ¬ (key.compare needle == .gt) = true := by
    rw [beq_iff_eq, compare_eq_gt_iff hkind]
    exact hkey
  rw [hfound, lastNotGreater, if_pos (isSameKind_iff.2 hkind), if_neg hgreater,
    lastNotGreater_append_of_other _ _ hl', lastNotGreater_stop hr, Nat.zero_add]

end Nearest

/-! ## Positions in a table -/

/-- Whether the keys of a table that are of a needle's kind ascend. -/
def Ascending (g : Grid) (needle : Value) : Prop :=
  ∀ i j, i < j → j < g.height → needle.OfKind (g.cell i 0) → needle.OfKind (g.cell j 0) →
    (g.cell i 0).AtMost (g.cell j 0)

section Positions

variable {g : Grid} {needle : Value} {c i : Nat}

/-- The row at which the search for the nearest key ends: that of the first greater key, or the end
of the table. -/
structure EndsAt (g : Grid) (needle : Value) (c : Nat) : Prop where
  le : c ≤ g.height
  before : ∀ i < c, ¬ (g.cell i 0).Exceeds needle
  greater : c < g.height → (g.cell c 0).Exceeds needle

theorem exists_endsAt (g : Grid) (needle : Value) : ∃ c, EndsAt g needle c := by
  classical
  by_cases h : ∃ c < g.height, (g.cell c 0).Exceeds needle
  · have hfind := Nat.find_spec h
    refine ⟨Nat.find h, hfind.1.le, fun i hi hex => ?_, fun _ => hfind.2⟩
    exact Nat.find_min h hi ⟨hi.trans hfind.1, hex⟩
  · push Not at h
    exact ⟨g.height, le_rfl, h, fun hlt => absurd hlt (lt_irrefl _)⟩

theorem keys_eq_append (h : c ≤ g.height) : g.keys
    = (List.Ico 0 c).map (g.cell · 0) ++ (List.Ico c g.height).map (g.cell · 0) := by
  rw [Grid.keys, ← List.map_append, List.Ico.append_consecutive (Nat.zero_le c) h,
    List.Ico.zero_bot]

theorem head?_map_Ico (h : EndsAt g needle c) :
    ∀ k ∈ ((List.Ico c g.height).map (g.cell · 0)).head?, k.Exceeds needle := by
  intro k hk
  by_cases hc : c < g.height
  · rw [List.Ico.eq_cons hc] at hk
    cases hk
    exact h.greater hc
  · rw [List.Ico.eq_nil_of_le (Nat.not_lt.1 hc)] at hk
    cases hk

/-- The nearest key is the last one of its kind before the end of the search. -/
theorem matchPosition?_nearest (h : EndsAt g needle c) (hi : i < c)
    (hkind : needle.OfKind (g.cell i 0))
    (hlast : ∀ j, i < j → j < c → ¬ needle.OfKind (g.cell j 0)) :
    matchPosition? needle g.keys true = some i := by
  have hsplit : List.Ico 0 c = List.Ico 0 i ++ i :: List.Ico (i + 1) c := by
    rw [← List.Ico.eq_cons hi, List.Ico.append_consecutive (Nat.zero_le i) hi.le]
  have hbefore : ∀ k ∈ (List.Ico 0 i).map (g.cell · 0), ¬ k.Exceeds needle := by
    intro k hk
    obtain ⟨j, hj, rfl⟩ := List.mem_map.1 hk
    exact h.before j ((List.Ico.mem.1 hj).2.trans hi)
  have hafter : ∀ k ∈ (List.Ico (i + 1) c).map (g.cell · 0), ¬ needle.OfKind k := by
    intro k hk
    obtain ⟨j, hj, rfl⟩ := List.mem_map.1 hk
    exact hlast j (List.Ico.mem.1 hj).1 (List.Ico.mem.1 hj).2
  have hfound := lastNotGreater_eq hbefore hkind (h.before i hi) hafter (head?_map_Ico h)
  rw [List.length_map, List.Ico.length, Nat.sub_zero] at hfound
  rw [matchPosition?, if_pos rfl, keys_eq_append h.le, hsplit, List.map_append, List.map_cons,
    List.append_assoc, List.cons_append]
  exact hfound

theorem matchPosition?_nearest_eq_none (h : EndsAt g needle c)
    (hnone : ∀ i < c, ¬ needle.OfKind (g.cell i 0)) :
    matchPosition? needle g.keys true = none := by
  have hbefore : ∀ k ∈ (List.Ico 0 c).map (g.cell · 0), ¬ needle.OfKind k := by
    intro k hk
    obtain ⟨j, hj, rfl⟩ := List.mem_map.1 hk
    exact hnone j (List.Ico.mem.1 hj).2
  rw [matchPosition?, if_pos rfl, keys_eq_append h.le, lastNotGreater_append_of_other _ _ hbefore,
    lastNotGreater_stop (head?_map_Ico h)]

theorem getElem_keys (hi : i < g.keys.length) : g.keys[i] = g.cell i 0 := by
  simp [Grid.keys]

theorem matchPosition?_exact (hi : i < g.height) (hsame : needle.SameAs (g.cell i 0))
    (hfirst : ∀ j < i, ¬ needle.SameAs (g.cell j 0)) :
    matchPosition? needle g.keys false = some i := by
  have hlength : g.keys.length = g.height := by simp [Grid.keys]
  refine List.findIdx?_eq_some_iff_getElem.2 ⟨hlength ▸ hi, ?_, fun j hj => ?_⟩
  · rw [getElem_keys, isSame_iff]
    exact hsame
  · rw [getElem_keys, isSame_iff]
    exact hfirst j hj

theorem matchPosition?_exact_eq_none (h : ∀ i < g.height, ¬ needle.SameAs (g.cell i 0)) :
    matchPosition? needle g.keys false = none := by
  refine List.findIdx?_eq_none_iff.2 fun k hk => ?_
  obtain ⟨i, hi, rfl⟩ := List.mem_map.1 hk
  rw [← Bool.not_eq_true, isSame_iff]
  exact h i (List.mem_range.1 hi)

end Positions

/-! ## Reading a lookup -/

/-- Whether the arguments of a lookup can be read: a needle that is no error, a number as index and
whether to look for the nearest key. -/
structure ReadsLookup (args : List Argument) (v : Value) (k : Float) (nearest : Bool) : Prop where
  needle : (valueAt? args 0).getD .empty = v
  noError : ∀ e, v ≠ .error e
  index : numberAt args 2 = .ok k
  isNumber : k.isNaN = false
  mode : approximateAt args 3 = .ok nearest

theorem exists_approximateAt {args : List Argument} {i : Nat}
    (h : ∀ e, valueAt? args i ≠ some (.error e)) :
    ∃ nearest, approximateAt args i = .ok nearest := by
  unfold approximateAt
  split
  · exact ⟨_, rfl⟩
  · exact ⟨_, rfl⟩
  · rename_i e he
    exact absurd he (h e)
  · exact ⟨_, rfl⟩

theorem lt_one_iff {k : Float} (hk : k.isNaN = false) : k < 1.0 ↔ Number.toInt k < 1 := by
  have hone : (1.0 : Float) = Float.ofNat 1 := rfl
  have hlt := Number.toInt_lt_iff hk Nat.one_pos (show 1 < 2 ^ 53 by decide)
  rw [hone, ← hlt, Nat.cast_one]

theorem toSize_eq {k : Float} (hk : k.isNaN = false) (hpos : ¬ k < 1.0) :
    (Number.toSize k : Int) = Min.min (Number.toInt k) 0xFFFFFFFFFFFFFFFF := by
  rw [lt_one_iff hk] at hpos
  unfold Number.toSize Number.clamp
  omega

variable {g : Grid} {args : List Argument} {v : Value} {k : Float} {nearest : Bool}

theorem queryOf_of_reads (h : ReadsLookup args v k nearest) :
    queryOf args = if k < 1.0 then .error .badValue
      else .ok ⟨v, Number.toSize k - 1, nearest⟩ := by
  have hindex : Number.toOffset k = Number.toSize k - 1 := by
    rw [Number.toOffset, h.isNumber, if_neg Bool.false_ne_true]
  have hlt : Number.trunc k < 1.0 ↔ k < 1.0 :=
    (Number.trunc_lt_one_iff h.isNumber).trans (lt_one_iff h.isNumber).symm
  have hneedle := h.needle
  unfold queryOf
  rcases hvalue : valueAt? args 0 with _ | w <;> rw [hvalue] at hneedle
  · obtain rfl : .empty = v := hneedle
    simp only [bind, Except.bind, pure, Except.pure, h.index, h.mode, hlt, hindex]
  · obtain rfl : w = v := hneedle
    cases w with
    | error e => exact absurd rfl (h.noError e)
    | _ => simp only [bind, Except.bind, pure, Except.pure, h.index, h.mode, hlt, hindex]

/-- What a lookup comes to whose arguments can be read. -/
theorem vLookup_of_reads (hg : g.Holds (blockAt args 1)) (h : ReadsLookup args v k nearest) :
    vLookup args = if k < 1.0 then .error .badValue
      else searchIn g ⟨v, Number.toSize k - 1, nearest⟩ := by
  rw [vLookup_eq hg, queryOf_of_reads h]
  split_ifs <;> rfl

theorem hLookup_of_reads (hg : g.Holds (blockAt args 1)) (h : ReadsLookup args v k nearest) :
    hLookup args = if k < 1.0 then .error .badValue
      else searchIn g.transpose ⟨v, Number.toSize k - 1, nearest⟩ := by
  rw [hLookup_eq hg, queryOf_of_reads h]
  split_ifs <;> rfl

theorem searchIn_of_match {q : Query} {i : Nat} (hoffset : q.offset < g.width) (hi : i < g.height)
    (h : matchPosition? q.needle g.keys q.approximate = some i) :
    searchIn g q = .ok (g.cell i q.offset) := by
  have hne : ¬ g.IsEmpty := by
    rintro (hheight | hwidth) <;> omega
  rw [searchIn, if_neg hne, if_neg (Nat.not_le.2 hoffset)]
  simp only [h]

theorem searchIn_of_no_match {q : Query} (hoffset : q.offset < g.width)
    (h : matchPosition? q.needle g.keys q.approximate = none) :
    searchIn g q = .error .notAvailable := by
  rw [searchIn, if_neg (Nat.not_le.2 hoffset)]
  simp only [h, ite_self]

theorem offset_lt {n : Nat} (hk : k.isNaN = false) (hpos : ¬ k < 1.0) (hn : Number.toSize k ≤ n) :
    Number.toSize k - 1 < n := by
  have hsize := toSize_eq hk hpos
  rw [lt_one_iff hk] at hpos
  omega

section Nearest

variable {c offset : Nat}

/-- In the nearest mode, the search comes to the last key of the needle's kind before its end. -/
theorem searchIn_nearest (hoffset : offset < g.width) (hends : EndsAt g v c) :
    (∀ i < c, v.OfKind (g.cell i 0) → (∀ j, i < j → j < c → ¬ v.OfKind (g.cell j 0)) →
      searchIn g ⟨v, offset, true⟩ = .ok (g.cell i offset))
    ∧ ((∀ i < c, ¬ v.OfKind (g.cell i 0)) →
      searchIn g ⟨v, offset, true⟩ = .error .notAvailable) :=
  ⟨fun _ hi hkind hlast => searchIn_of_match hoffset (Nat.lt_of_lt_of_le hi hends.le)
      (matchPosition?_nearest hends hi hkind hlast),
    fun hnone => searchIn_of_no_match hoffset (matchPosition?_nearest_eq_none hends hnone)⟩

/-- Where the keys ascend, no key after the end of the search is any less than the one there. -/
theorem searchIn_ascending (hoffset : offset < g.width) (hascending : Ascending g v) :
    (∀ i < g.height, v.OfKind (g.cell i 0) → ¬ (g.cell i 0).Exceeds v →
      (∀ j, i < j → j < g.height → v.OfKind (g.cell j 0) → (g.cell j 0).Exceeds v) →
      searchIn g ⟨v, offset, true⟩ = .ok (g.cell i offset))
    ∧ ((∀ i < g.height, v.OfKind (g.cell i 0) → (g.cell i 0).Exceeds v) →
      searchIn g ⟨v, offset, true⟩ = .error .notAvailable) := by
  obtain ⟨c, hends⟩ := exists_endsAt g v
  obtain ⟨hfound, hnone⟩ := searchIn_nearest hoffset hends
  constructor
  · intro i hi hkind hkey hgreater
    have hic : i < c := by
      by_contra hci
      have hc : c < g.height := by omega
      have hexceeds := hends.greater hc
      rcases Nat.lt_or_eq_of_le (Nat.not_lt.1 hci) with hlt | rfl
      · exact hkey (hexceeds.of_atMost (hascending c i hlt hi hexceeds.ofKind hkind))
      · exact hkey hexceeds
    refine hfound i hic hkind fun j hij hjc hkind' => ?_
    have hle := hends.le
    exact hends.before j hjc (hgreater j hij (by omega) hkind')
  · intro hall
    have hle := hends.le
    exact hnone fun i hi hkind => hends.before i hi (hall i (by omega) hkind)

end Nearest

end Functions

/-! ## Tables in formulas -/

namespace Table

variable {t : Table} {a b : Address}

theorem valuesBetween_eq_values : t.valuesBetween a b
    = Grid.values ⟨(t.rowsBetween a b).length, (t.colsBetween a b).length, fun i j =>
        (t.value? ⟨min a.row b.row + i, min a.col b.col + j⟩).getD .empty⟩ :=
  valuesBetween_eq_flatMap_range

/-- A region of a table is a table of values. -/
theorem exists_holds_block (r : Region) : ∃ g : Grid, g.Holds (t.block r) := by
  have hblock := t.block_spanning r.first r.last
  rw [r.spanning_corners] at hblock
  refine ⟨_, hblock.values.trans valuesBetween_eq_values, fun hne => ?_⟩
  by_cases hmiss : t.Misses r
  · rw [← Grid.values_eq_nil_iff, ← valuesBetween_eq_values] at hne
    rw [← r.spanning_corners] at hmiss
    exact absurd (valuesBetween_of_misses hmiss) hne
  · exact hblock.width (by rwa [r.spanning_corners])

end Table

/-- Every argument in a formula is a table of values. -/
theorem Expression.exists_holds (t : Table) (now : Moment) (e : Expression) :
    ∃ g : Grid, g.Holds (e.evaluate t now) := by
  have hscalar : ∀ v : Value, Grid.Holds ⟨1, 1, fun _ _ => v⟩ (.scalar v) := fun v =>
    ⟨rfl, fun _ => rfl⟩
  have hnothing : Grid.Holds ⟨0, 0, fun _ _ => .empty⟩ (.block 0 []) := ⟨rfl, fun _ => rfl⟩
  cases e with
  | region r => exact t.exists_holds_block r
  | badRegion text => exact ⟨_, hnothing⟩
  | call f args =>
    rw [evaluate]
    split <;> exact ⟨_, hscalar _⟩
  | _ => exact ⟨_, hscalar _⟩

namespace Expression

open Functions

variable {t : Table} {now : Moment} {g : Grid} {needle table table' index : Expression}
  {rest : List Expression} {v : Value} {k : Float} {nearest : Bool}

/-- A lookup takes three arguments and perhaps a fourth. -/
theorem evaluate_lookup {f : Builtin} (harity : f.arity = ⟨3, some 4⟩) (hf : f ≠ .ifElse) :
    (call f (needle :: table :: index :: rest)).evaluate t now
      = .scalar (f.value now (needle.evaluate t now :: table.evaluate t now :: index.evaluate t now
          :: (rest.take 1).map (evaluate t now))) := by
  have hleast : f.arity.least ≤ (needle :: table :: index :: rest).length := by
    rw [harity]
    exact Nat.le_add_left 3 rest.length
  have hmost : f.arity.most = some 4 := by rw [harity]
  rw [evaluate_call (evaluateCall_eq_value hleast hf), usedArguments_eq hmost]
  rfl

/-- In a formula, the call that looks up by columns searches what its second argument comes to, and
the one that looks up by rows searches the same table transposed. -/
theorem evaluate_lookups (hg : g.Holds (table.evaluate t now))
    (h : ReadsLookup (needle.evaluate t now :: table.evaluate t now :: index.evaluate t now
      :: (rest.take 1).map (evaluate t now)) v k nearest) :
    (call .vLookup (needle :: table :: index :: rest)).evaluate t now
        = .scalar (settle (if k < 1.0 then .error .badValue
            else searchIn g ⟨v, Number.toSize k - 1, nearest⟩))
      ∧ (call .hLookup (needle :: table :: index :: rest)).evaluate t now
        = .scalar (settle (if k < 1.0 then .error .badValue
            else searchIn g.transpose ⟨v, Number.toSize k - 1, nearest⟩)) := by
  rw [evaluate_lookup rfl (by decide), evaluate_lookup rfl (by decide), Builtin.value,
    Builtin.value, vLookup_of_reads hg h, hLookup_of_reads hg h]
  exact ⟨rfl, rfl⟩

/-- So two calls on a table and on the transposed one come to the same. -/
theorem evaluate_vLookup_eq_hLookup (h : g.Holds (table.evaluate t now))
    (h' : g.transpose.Holds (table'.evaluate t now)) :
    (call .vLookup (needle :: table :: index :: rest)).evaluate t now
      = (call .hLookup (needle :: table' :: index :: rest)).evaluate t now := by
  rw [evaluate_lookup rfl (by decide), evaluate_lookup rfl (by decide), Builtin.value,
    Builtin.value, vLookup_eq_hLookup h h']

end Expression

open Functions in
/-- What it is for lookups to be one search: by rows in a table and by columns in the transposed one
they come to the same, and by columns they come to the entry in the row of the key that is found,
in the column of the index. -/
structure LookupsAreOneSearch : Prop where
  transposed : ∀ (g : Grid) (needle table table' : Argument) (rest : List Argument),
    g.Holds table → g.transpose.Holds table' →
    vLookup (needle :: table :: rest) = hLookup (needle :: table' :: rest)
  tables : ∀ (t : Table) (now : Moment) (e : Expression), ∃ g : Grid, g.Holds (e.evaluate t now)
  modes : ∀ args, (∀ e, valueAt? args 3 ≠ some (.error e)) →
    ∃ nearest, approximateAt args 3 = .ok nearest
  column : ∀ k : Float, k.isNaN = false → ¬ k < 1.0 →
    (Number.toSize k : Int) = min (Number.toInt k) 0xFFFFFFFFFFFFFFFF
  belowOne : ∀ (g : Grid) (args : List Argument) (v : Value) (k : Float) (nearest : Bool),
    g.Holds (blockAt args 1) → ReadsLookup args v k nearest → k < 1.0 →
    vLookup args = .error .badValue
  emptyTable : ∀ (g : Grid) (args : List Argument) (v : Value) (k : Float) (nearest : Bool),
    g.Holds (blockAt args 1) → ReadsLookup args v k nearest → ¬ k < 1.0 → g.IsEmpty →
    vLookup args = .error .notAvailable
  pastWidth : ∀ (g : Grid) (args : List Argument) (v : Value) (k : Float) (nearest : Bool),
    g.Holds (blockAt args 1) → ReadsLookup args v k nearest → ¬ k < 1.0 → ¬ g.IsEmpty →
    g.width < Number.toSize k → vLookup args = .error .badReference
  exact : ∀ (g : Grid) (args : List Argument) (v : Value) (k : Float),
    g.Holds (blockAt args 1) → ReadsLookup args v k false → ¬ k < 1.0 →
    Number.toSize k ≤ g.width →
    (∀ i < g.height, v.SameAs (g.cell i 0) → (∀ j < i, ¬ v.SameAs (g.cell j 0)) →
      vLookup args = .ok (g.cell i (Number.toSize k - 1)))
    ∧ ((∀ i < g.height, ¬ v.SameAs (g.cell i 0)) → vLookup args = .error .notAvailable)
  ends : ∀ (g : Grid) (v : Value), ∃ c, EndsAt g v c
  nearest : ∀ (g : Grid) (args : List Argument) (v : Value) (k : Float) (c : Nat),
    g.Holds (blockAt args 1) → ReadsLookup args v k true → ¬ k < 1.0 →
    Number.toSize k ≤ g.width → EndsAt g v c →
    (∀ i < c, v.OfKind (g.cell i 0) → (∀ j, i < j → j < c → ¬ v.OfKind (g.cell j 0)) →
      vLookup args = .ok (g.cell i (Number.toSize k - 1)))
    ∧ ((∀ i < c, ¬ v.OfKind (g.cell i 0)) → vLookup args = .error .notAvailable)
  ascending : ∀ (g : Grid) (args : List Argument) (v : Value) (k : Float),
    g.Holds (blockAt args 1) → ReadsLookup args v k true → ¬ k < 1.0 →
    Number.toSize k ≤ g.width → Ascending g v →
    (∀ i < g.height, v.OfKind (g.cell i 0) → ¬ (g.cell i 0).Exceeds v →
      (∀ j, i < j → j < g.height → v.OfKind (g.cell j 0) → (g.cell j 0).Exceeds v) →
      vLookup args = .ok (g.cell i (Number.toSize k - 1)))
    ∧ ((∀ i < g.height, v.OfKind (g.cell i 0) → (g.cell i 0).Exceeds v) →
      vLookup args = .error .notAvailable)

open Functions in
theorem lookups_are_one_search : LookupsAreOneSearch where
  transposed := fun _ _ _ _ _ => vLookup_eq_hLookup
  tables := Expression.exists_holds
  modes := fun _ => exists_approximateAt
  column := fun _ => toSize_eq
  belowOne := by
    intro g args v k nearest hg h hk
    rw [vLookup_of_reads hg h, if_pos hk]
  emptyTable := by
    intro g args v k nearest hg h hk hempty
    rw [vLookup_of_reads hg h, if_neg hk, searchIn, if_pos hempty]
  pastWidth := by
    intro g args v k nearest hg h hk hempty hwidth
    rw [vLookup_of_reads hg h, if_neg hk, searchIn, if_neg hempty,
      if_pos (Nat.le_sub_one_of_lt hwidth)]
  exact := by
    intro g args v k hg h hk hwidth
    have hoffset := offset_lt h.isNumber hk hwidth
    rw [vLookup_of_reads hg h, if_neg hk]
    exact ⟨fun i hi hsame hfirst =>
      searchIn_of_match hoffset hi (matchPosition?_exact hi hsame hfirst),
      fun hnone => searchIn_of_no_match hoffset (matchPosition?_exact_eq_none hnone)⟩
  ends := exists_endsAt
  nearest := by
    intro g args v k c hg h hk hwidth hends
    rw [vLookup_of_reads hg h, if_neg hk]
    exact searchIn_nearest (offset_lt h.isNumber hk hwidth) hends
  ascending := by
    intro g args v k hg h hk hwidth hascending
    rw [vLookup_of_reads hg h, if_neg hk]
    exact searchIn_ascending (offset_lt h.isNumber hk hwidth) hascending

/-- Two numbers beside their names. -/
def namedNumbers : Grid :=
  ⟨2, 2, fun i j => ([.number 1.0, .text "one", .number 2.0, .text "two"][2 * i + j]?).getD .empty⟩

open Functions in
/-- The name of a number is looked up by columns and by rows, and that of the nearest number where
there is none of its own.  A third column, an index of zero and a table without values are
refused. -/
theorem looks_up_namedNumbers :
    vLookup [.scalar (.number 2.0), .block 2 namedNumbers.values, .scalar (.number 2.0),
        .scalar (.boolean false)] = .ok (.text "two")
      ∧ hLookup [.scalar (.number 2.0), .block 2 namedNumbers.transpose.values,
        .scalar (.number 2.0), .scalar (.boolean false)] = .ok (.text "two")
      ∧ vLookup [.scalar (.number 3.0), .block 2 namedNumbers.values, .scalar (.number 2.0)]
        = .ok (.text "two")
      ∧ vLookup [.scalar (.number 1.5), .block 2 namedNumbers.values, .scalar (.number 2.0)]
        = .ok (.text "one")
      ∧ vLookup [.scalar (.number 2.0), .block 2 namedNumbers.values, .scalar (.number 3.0)]
        = .error .badReference
      ∧ vLookup [.scalar (.number 2.0), .block 2 namedNumbers.values, .scalar (.number 0.0)]
        = .error .badValue
      ∧ vLookup [.scalar (.number 2.0), .block 0 [], .scalar (.number 2.0)]
        = .error .notAvailable := by
  have hlookups := lookups_are_one_search
  have hg : ∀ needle rest, namedNumbers.Holds
      (blockAt (needle :: .block 2 namedNumbers.values :: rest) 1) := fun _ _ =>
    namedNumbers.holds_block
  have hnothing : ∀ needle rest, Grid.Holds ⟨0, 0, fun _ _ => .empty⟩
      (blockAt (needle :: .block 0 [] :: rest) 1) := fun _ _ => Grid.holds_block ⟨0, 0, _⟩
  have hnumber : ∀ y : Float, y.isNaN = false → ∀ (x : Float) (table : Argument),
      ReadsLookup [.scalar (.number x), table, .scalar (.number y)] (.number x) y true :=
    fun y hy x _ => ⟨rfl, by rintro e ⟨⟩, rfl, hy, rfl⟩
  have htwo : (2.0 : Float).isNaN = false := by decide
  have hcolumn : ¬ (2.0 : Float) < 1.0 := by decide +kernel
  have hwidth : Number.toSize 2.0 ≤ namedNumbers.width := by decide +kernel
  have hnearest := hnumber 2.0 htwo
  have hexact : ReadsLookup [.scalar (.number 2.0), .block 2 namedNumbers.values,
      .scalar (.number 2.0), .scalar (.boolean false)] (.number 2.0) 2.0 false :=
    ⟨rfl, by rintro e ⟨⟩, rfl, htwo, rfl⟩
  have hrow : ∀ i < namedNumbers.height, i = 0 ∨ i = 1 := fun i hi => by
    have hheight : i < 2 := hi
    omega
  have hfound := (hlookups.exact _ _ _ _ (hg _ _) hexact hcolumn hwidth).1 1 Nat.one_lt_two
    (.number (by decide +kernel)) fun j hj => by
      obtain rfl := Nat.lt_one_iff.1 hj
      exact isSame_iff.not.1 (by decide +kernel)
  have hends : EndsAt namedNumbers (.number 3.0) 2 := by
    refine ⟨Nat.le_refl 2, fun i hi => ?_, fun h => absurd h (Nat.lt_irrefl 2)⟩
    rcases hrow i hi with rfl | rfl
    · exact (compare_eq_gt_iff (.number 3.0 1.0)).not.1 (by decide +kernel)
    · exact (compare_eq_gt_iff (.number 3.0 2.0)).not.1 (by decide +kernel)
  have hascending : Ascending namedNumbers (.number 1.5) := by
    intro i j hij hj _ _
    obtain ⟨rfl, rfl⟩ : i = 0 ∧ j = 1 := by
      have hlast := hrow j hj
      omega
    exact .number (by decide +kernel)
  refine ⟨hfound, (hlookups.transposed _ _ _ _ _ (hg (.scalar .empty) [])
    namedNumbers.transpose.holds_block).symm.trans hfound, ?_, ?_, ?_, ?_, ?_⟩
  · exact (hlookups.nearest _ _ _ _ _ (hg _ _) (hnearest 3.0 _) hcolumn hwidth hends).1 1
      Nat.one_lt_two (.number 3.0 2.0) (by omega)
  · refine (hlookups.ascending _ _ _ _ (hg _ _) (hnearest 1.5 _) hcolumn hwidth hascending).1 0
      Nat.two_pos (.number 1.5 1.0)
      ((compare_eq_gt_iff (.number 1.5 1.0)).not.1 (by decide +kernel)) fun j hpos hj _ => ?_
    obtain rfl : j = 1 := by
      have hlast := hrow j hj
      omega
    exact .number (by decide +kernel)
  · have hthree : (3.0 : Float).isNaN = false := by decide
    have hnonempty : ¬ namedNumbers.IsEmpty := by decide
    exact hlookups.pastWidth _ _ _ _ _ (hg _ _) (hnumber 3.0 hthree 2.0 _) (by decide +kernel)
      hnonempty (by decide +kernel)
  · have hzero : (0.0 : Float).isNaN = false := by decide
    exact hlookups.belowOne _ _ _ _ _ (hg _ _) (hnumber 0.0 hzero 2.0 _) (by decide +kernel)
  · exact hlookups.emptyTable _ _ _ _ _ (hnothing _ _) (hnearest 2.0 _) hcolumn (.inl rfl)

end Worksheet
