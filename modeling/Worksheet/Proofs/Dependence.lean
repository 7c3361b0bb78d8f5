import Mathlib.Data.List.Basic
import Mathlib.Logic.Relation
import Worksheet.Evaluation
import Worksheet.Proofs.Edits
import Worksheet.Proofs.Rectangles

/-!
# What the result of a formula depends on

Evaluating an expression visits its parts, without the arguments that a function drops.  It reads
the cells that these parts name, alone or in a region, and it reads the clock where one of them
calls a volatile function.  Two tables and two clocks that look alike there give the same result
(`evaluate_congr`): what a region comes to, its width included, is settled by its own cells
(`block_congr`), and no function but the volatile ones looks at the clock (`value_congr`).  So edits
that spare what a formula reads leave its result alone, however many they are
(`evaluate_eq_of_alike`).
-/

namespace Worksheet

namespace Expression

mutual

/-- The expressions that are evaluated on the way to the value of an expression, itself included.
The arguments that a function drops are not among them. -/
def parts : Expression → List Expression
  | .comparison op left right => .comparison op left right :: (left.parts ++ right.parts)
  | .call f args => .call f args :: partsOfFirst (f.arity.used args.length) args
  | e => [e]

def partsOfFirst : Nat → List Expression → List Expression
  | 0, _ => []
  | _, [] => []
  | n + 1, e :: rest => e.parts ++ partsOfFirst n rest

end

/-- Whether an expression is a reference to a cell or a region around it. -/
def Names (a : Address) : Expression → Prop
  | .cell b => b = a
  | .region r => r.Contains a
  | _ => False

/-- Whether an expression is a call of a volatile function. -/
def IsClock : Expression → Prop
  | .call f _ => f.isVolatile = true
  | _ => False

/-- Whether the value of an expression depends on a cell. -/
def Reads (e : Expression) (a : Address) : Prop :=
  ∃ p ∈ e.parts, p.Names a

/-- Whether the value of an expression depends on the clock. -/
def ReadsClock (e : Expression) : Prop :=
  ∃ p ∈ e.parts, p.IsClock

end Expression

/-! ## One expression -/

section Congr

variable {t t' : Table} {now now' : Moment}

namespace Table

theorem inside_congr {a : Address} (h : t.cell? a = t'.cell? a) :
    (a.row < t.rowCount ∧ a.col < t.colCount ↔ a.row < t'.rowCount ∧ a.col < t'.colCount) := by
  have h1 := t.cell?_eq_none_iff (a := a)
  have h2 := t'.cell?_eq_none_iff (a := a)
  rw [h] at h1
  have := h1.symm.trans h2
  omega

theorem value?_congr {a : Address} (h : t.cell? a = t'.cell? a) : t.value? a = t'.value? a := by
  rw [value?, value?, h]

/-- A region comes to the same block, in values and in width, in tables that agree on its cells. -/
theorem block_congr {r : Region} (h : ∀ a, r.Contains a → t.cell? a = t'.cell? a) :
    t.block r = t'.block r := by
  have hclip : r.clip t.rowCount t.colCount = r.clip t'.rowCount t'.colCount :=
    Region.clip_congr fun a ha => inside_congr (h a ha)
  unfold block
  rw [← hclip]
  rcases hv : r.clip t.rowCount t.colCount with _ | v
  · rfl
  · have hcells : v.cells.filterMap t.value? = v.cells.filterMap t'.value? := by
      refine List.filterMap_congr fun a ha => value?_congr (h a ?_)
      exact ((Region.contains_clip_iff hv).1 (Region.mem_cells_iff.1 ha)).1
    simp only [hcells]

end Table

/-- Only the volatile functions look at the clock. -/
theorem Builtin.value_congr {f : Builtin} (hf : f.isVolatile = true → now = now')
    (args : List Argument) : f.value now args = f.value now' args := by
  cases f with
  | today => rw [hf rfl]
  | now => rw [hf rfl]
  | _ => rfl

namespace Expression

theorem callWith_congr {f : Builtin} (hf : f.isVolatile = true → now = now') (given : Nat)
    (used : List Argument) : callWith f now given used = callWith f now' given used := by
  have hvalue : f.apply now used = f.apply now' used := by
    by_cases hif : f = .ifElse
    · rw [hif]
      rfl
    · rw [Builtin.apply_of_ne hif, Builtin.apply_of_ne hif, Builtin.value_congr hf]
  rw [callWith, callWith, hvalue]

/-- Whether two tables and two readings of the clock look the same to one part of an expression. -/
def Alike (t t' : Table) (now now' : Moment) (p : Expression) : Prop :=
  (∀ a, p.Names a → t.cell? a = t'.cell? a) ∧ (p.IsClock → now = now')

mutual

theorem evaluate_congr : ∀ e : Expression, (∀ p ∈ e.parts, Alike t t' now now' p) →
    e.evaluate t now = e.evaluate t' now'
  | .empty, _ => rfl
  | .number _, _ => rfl
  | .text _, _ => rfl
  | .boolean _, _ => rfl
  | .unrecognized _, _ => rfl
  | .badRegion _, _ => rfl
  | .cell a, h => by
    have ha := (h (.cell a) (by simp [parts])).1 a rfl
    simp only [evaluate, Table.value?_congr ha]
  | .region r, h => by
    have hr := (h (.region r) (by simp [parts])).1
    simp only [evaluate, Table.block_congr hr]
  | .comparison op left right, h => by
    have hl := evaluate_congr left fun p hp => h p (by simp [parts, hp])
    have hr := evaluate_congr right fun p hp => h p (by simp [parts, hp])
    simp only [evaluate, hl, hr]
  | .call f args, h => by
    have hf := (h (.call f args) (by simp [parts])).2
    have hargs := evaluateFirst_congr (f.arity.used args.length) args
      fun p hp => h p (by simp [parts, hp])
    simp only [evaluate, hargs, callWith_congr hf]

theorem evaluateFirst_congr : ∀ (n : Nat) (es : List Expression),
    (∀ p ∈ partsOfFirst n es, Alike t t' now now' p) →
      evaluateFirst t now n es = evaluateFirst t' now' n es
  | 0, _, _ => by simp [evaluateFirst]
  | _ + 1, [], _ => by simp [evaluateFirst]
  | n + 1, e :: rest, h => by
    have he := evaluate_congr e fun p hp => h p (by simp [partsOfFirst, hp])
    have hrest := evaluateFirst_congr n rest fun p hp => h p (by simp [partsOfFirst, hp])
    simp only [evaluateFirst, he, hrest]

end

theorem evaluateCall_congr {f : Builtin} {args : List Expression}
    (h : ∀ p ∈ (call f args).parts, Alike t t' now now' p) :
    evaluateCall t now f args = evaluateCall t' now' f args := by
  have hf := (h (.call f args) (by simp [parts])).2
  have hargs := evaluateFirst_congr (f.arity.used args.length) args
    fun p hp => h p (by simp [parts, hp])
  simp only [evaluateCall, hargs, callWith_congr hf]

end Expression

/-! ## A formula -/

/-- Whether the result of a formula depends on a cell. -/
def FormulaReads (limit : Nat) (text : String) (a : Address) : Prop :=
  ∃ e, Formula.parse limit text = .ok (.expression e) ∧ e.Reads a

/-- Whether the result of a formula depends on the clock. -/
def FormulaReadsClock (limit : Nat) (text : String) : Prop :=
  ∃ e, Formula.parse limit text = .ok (.expression e) ∧ e.ReadsClock

theorem evaluate_eq_of_alike {limit : Nat} {text : String}
    (hcells : ∀ a, FormulaReads limit text a → t.cell? a = t'.cell? a)
    (hclock : FormulaReadsClock limit text → now = now') :
    evaluate t limit now text = evaluate t' limit now' text := by
  unfold evaluate
  rcases hp : Formula.parse limit text with err | f
  · rfl
  rcases f with _ | e | _
  · rfl
  · have halike : ∀ p ∈ e.parts, Expression.Alike t t' now now' p := fun p hp' =>
      ⟨fun a ha => hcells a ⟨e, hp, p, hp', ha⟩, fun hc => hclock ⟨e, hp, p, hp', hc⟩⟩
    cases e with
    | call f args => simp only [Expression.evaluateCall_congr halike]
    | _ => simp only [Expression.evaluate_congr _ halike]
  · rfl

end Congr

/-! ## Edits that spare a formula -/

/-- A successful edit that changes no cell of a set and brings none of them into the table. -/
inductive Spares (S : Address → Prop) (t : Table) : Table → Prop
  | setAt {t' : Table} {row col : Nat} {cell : Cell} (hS : ¬ S ⟨row, col⟩)
      (h : t.setAt row col cell = .ok t') : Spares S t t'
  | setNamed {t' : Table} {name : String} {cell : Cell}
      (hS : ∀ a, Address.parse name = .ok a → ¬ S a) (h : t.setNamed name cell = .ok t') :
      Spares S t t'
  | edit {t' : Table} {row : Nat} {id : String} {cell : Cell}
      (hS : ∀ col, t.columnIndex? id = some col → ¬ S ⟨row, col⟩)
      (h : t.edit row id cell = .ok t') : Spares S t t'
  | pushRow {row : Row} (hS : ∀ a, S a → t.cell? a = none → (t.pushRow row).cell? a = none) :
      Spares S t (t.pushRow row)
  | addColumn {t' : Table} {c : Column} (hS : ∀ a, S a → t.cell? a = none → t'.cell? a = none)
      (h : t.addColumn c = .ok t') : Spares S t t'

theorem Spares.cell?_eq {S : Address → Prop} {t t' : Table} (h : Spares S t t') {a : Address}
    (ha : S a) : t'.cell? a = t.cell? a := by
  -- an address inside the table stays as it was, and one outside stays outside
  have happend : (∀ cell, t.cell? a = some cell → t'.cell? a = some cell) →
      (t.cell? a = none → t'.cell? a = none) → t'.cell? a = t.cell? a := by
    intro hin hout
    rcases hc : t.cell? a with _ | cell
    · exact hout hc
    · exact hin cell hc
  cases h with
  | setAt hS h => exact Table.cell?_setAt_of_ne h fun he => hS (he ▸ ha)
  | setNamed hS h =>
    obtain ⟨b, hb, h⟩ := Table.setNamed_ok h
    exact Table.cell?_setAt_of_ne h fun (he : a = b) => hS b hb (he ▸ ha)
  | edit hS h =>
    obtain ⟨col, hcol, h⟩ := Table.edit_ok h
    exact Table.cell?_setAt_of_ne h fun he => hS col hcol (he ▸ ha)
  | pushRow hS => exact happend (fun _ => Table.cell?_pushRow_of_some _) (hS a ha)
  | addColumn hS h => exact happend (fun _ => Table.cell?_addColumn_of_some h) (hS a ha)

theorem cell?_eq_of_spared {S : Address → Prop} {t t' : Table}
    (h : Relation.ReflTransGen (Spares S) t t') {a : Address} (ha : S a) :
    t'.cell? a = t.cell? a := by
  induction h with
  | refl => rfl
  | tail _ hstep ih => exact (hstep.cell?_eq ha).trans ih

/-- The result of a formula is settled by the cells it reads and, if it reads the clock, by the
clock.  So no run of edits that spares these cells changes it. -/
theorem evaluate_noninterference (limit : Nat) (text : String) :
    (∀ (t t' : Table) (now now' : Moment),
      (∀ a, FormulaReads limit text a → t.cell? a = t'.cell? a) →
      (FormulaReadsClock limit text → now = now') →
        evaluate t limit now text = evaluate t' limit now' text)
    ∧ ∀ (t t' : Table) (now : Moment),
      Relation.ReflTransGen (Spares (FormulaReads limit text)) t t' →
        evaluate t' limit now text = evaluate t limit now text := by
  refine ⟨fun t t' now now' => evaluate_eq_of_alike, fun t t' now h => ?_⟩
  exact evaluate_eq_of_alike (fun a ha => cell?_eq_of_spared h ha) fun _ => rfl

end Worksheet
