import Worksheet.Session
import Worksheet.Proofs.Dependence

/-!
# A cache changes no answer

A session runs a list of steps with a cache; a table runs the same steps with none, evaluating every
formula afresh.  Both give the same answers and end with the same table (`run_eq`), whatever the
steps are, whether edits succeed or are refused, and whatever a running clock reads at each of them.

What carries this is that the values kept for the present version are those of the present table
(`Cache.Sound`).  An edit that succeeds raises the version past every one the cache has seen, so the
values kept before it are never asked for again; a value is only kept if it is the same for every
reading of the clock (`evaluate_eq_of_kept`).
-/

namespace Worksheet

/-! ## Runs -/

/-- What evaluation is set to throughout a run: the most levels, and the moment that the clock is
pinned to, if it is. -/
structure Options where
  limit : Nat
  pinned : Option Moment

/-- The settings of a step at which the running clock reads this moment. -/
def Options.settings (o : Options) (reading : Moment) : Settings :=
  match o.pinned with
  | some m => ⟨o.limit, ⟨true, m⟩⟩
  | none => ⟨o.limit, ⟨false, reading⟩⟩

/-- A step of a run, the way it shows cells and what the running clock reads at it. -/
structure Step where
  action : Action
  format : DisplayFormat
  reading : Moment

namespace Session

/-- Takes steps one after the other and lists their answers. -/
def run (o : Options) (s : Session) : List Step → List Answer × Session
  | [] => ([], s)
  | step :: rest =>
    let (answer, s) := s.act (o.settings step.reading) step.format step.action
    let (answers, s) := run o s rest
    (answer :: answers, s)

end Session

namespace Table

/-- The table after an edit, or as it was if the edit was refused. -/
def edited (t : Table) : Except TableError Table → Answer × Table
  | .ok t' => (.done, t')
  | .error e => (.refused e, t)

/-- Takes a step without a cache. -/
def act (t : Table) (settings : Settings) (format : DisplayFormat) : Action → Answer × Table
  | .addColumn c => t.edited (t.addColumn c)
  | .pushRow r => t.edited (.ok (t.pushRow r))
  | .replaceRows rows => t.edited (.ok (t.withRows rows))
  | .setNamed name cell => t.edited (t.setNamed name cell)
  | .setAt row col cell => t.edited (t.setAt row col cell)
  | .edit row id cell => t.edited (t.edit row id cell)
  | .evaluate text => (.value (settings.evaluate t text), t)
  | .display a => (.text (t.display settings format a), t)
  | .displayAll => (.grid (t.grid settings format), t)
  | .clear => (.done, t)

/-- Takes steps one after the other without a cache and lists their answers. -/
def run (o : Options) (t : Table) : List Step → List Answer × Table
  | [] => ([], t)
  | step :: rest =>
    let (answer, t) := t.act (o.settings step.reading) step.format step.action
    let (answers, t) := run o t rest
    (answer :: answers, t)

end Table

/-! ## What may be kept -/

namespace Expression

mutual

theorem mem_functions_of_mem_parts {f : Builtin} {args : List Expression} :
    ∀ e : Expression, call f args ∈ e.parts → f ∈ e.functions
  | .comparison op left right, h => by
    simp only [parts, List.mem_cons, reduceCtorEq, List.mem_append, false_or] at h
    simp only [functions, List.mem_append]
    exact h.imp (mem_functions_of_mem_parts left) (mem_functions_of_mem_parts right)
  | .call g es, h => by
    simp only [parts, List.mem_cons, call.injEq] at h
    simp only [functions, List.mem_cons]
    exact h.imp (fun he => he.1) (mem_functionsOfAll_of_mem_parts _ es)
  | .empty, h => by simp [parts] at h
  | .number _, h => by simp [parts] at h
  | .text _, h => by simp [parts] at h
  | .boolean _, h => by simp [parts] at h
  | .unrecognized _, h => by simp [parts] at h
  | .badRegion _, h => by simp [parts] at h
  | .cell _, h => by simp [parts] at h
  | .region _, h => by simp [parts] at h

theorem mem_functionsOfAll_of_mem_parts {f : Builtin} {args : List Expression} :
    ∀ (n : Nat) (es : List Expression), call f args ∈ partsOfFirst n es → f ∈ functionsOfAll es
  | 0, _, h => by simp [partsOfFirst] at h
  | _ + 1, [], h => by simp [partsOfFirst] at h
  | n + 1, e :: rest, h => by
    simp only [partsOfFirst, List.mem_append] at h
    simp only [functionsOfAll, List.mem_append]
    exact h.imp (mem_functions_of_mem_parts e) (mem_functionsOfAll_of_mem_parts n rest)

end

end Expression

/-- A formula that calls no volatile function does not depend on the clock. -/
theorem not_formulaReadsClock {limit : Nat} {text : String}
    (h : Cache.isVolatile limit text = false) : ¬ FormulaReadsClock limit text := by
  rintro ⟨e, hparse, p, hp, hclock⟩
  cases p with
  | call f args =>
    have hf : f ∈ e.functions := Expression.mem_functions_of_mem_parts e hp
    simp only [Cache.isVolatile, hparse, Formula.functions, List.any_eq_false] at h
    exact h f hf hclock
  | _ => exact hclock

section Kept

variable {o : Options} {t : Table} {text : String}

/-- What a cache keeps is the same for every reading of the clock. -/
theorem evaluate_eq_of_kept {reading : Moment}
    (h : (!(o.settings reading).clock.pinned && Cache.isVolatile o.limit text) = false)
    (other : Moment) :
    (o.settings other).evaluate t text = (o.settings reading).evaluate t text := by
  unfold Options.settings at h ⊢
  split
  · rfl
  · rename_i hnone
    simp only [hnone, Bool.not_false, Bool.true_and] at h
    have hclock := not_formulaReadsClock h
    simp only [Settings.evaluate]
    rw [evaluate_eq_of_alike (fun _ _ => rfl) fun hc => absurd hc hclock]

end Kept

/-! ## The invariant -/

namespace Cache

/-- Whether a cache is right for a table: it has seen no later version, and what it keeps for the
present version is what evaluation comes to, whatever the clock reads. -/
structure Sound (o : Options) (c : Cache) (t : Table) : Prop where
  version_le : ∀ v ∈ c.version, v ≤ t.version
  value_eq : c.version = some t.version → ∀ text v,
    c.entries.lookup (text, t.version) = some v →
      ∀ reading, (o.settings reading).evaluate t text = v

variable {o : Options} {c : Cache} {t : Table}

theorem sound_empty : empty.Sound o t :=
  ⟨fun v hv => by simp [empty] at hv, fun h => by simp [empty] at h⟩

theorem sound_clear : c.clear.Sound o t :=
  ⟨fun v hv => by simp [clear] at hv, fun h => by simp [clear] at h⟩

/-- A later version asks for nothing that a cache keeps. -/
theorem Sound.of_lt (h : c.Sound o t) {t' : Table} (hlt : t.version < t'.version) :
    c.Sound o t' := by
  refine ⟨fun v hv => Nat.le_trans (h.version_le v hv) (Nat.le_of_lt hlt), fun he => ?_⟩
  have := h.version_le t'.version (by rw [he]; rfl)
  omega

theorem Sound.forVersion (h : c.Sound o t) : (c.forVersion t.version).Sound o t := by
  unfold Cache.forVersion
  split_ifs
  · exact h
  · exact ⟨fun v hv => Nat.le_of_eq (Option.some.inj hv).symm, fun _ text v hv => by simp at hv⟩

theorem version_forVersion (version : Nat) : (c.forVersion version).version = some version := by
  unfold Cache.forVersion
  split_ifs with h
  · exact h
  · rfl

/-- Evaluation with a cache gives the value of evaluation without one, and keeps the cache right. -/
theorem evaluate_sound (h : c.Sound o t) (reading : Moment) (text : String) :
    (c.evaluate (o.settings reading) t text).1 = (o.settings reading).evaluate t text
      ∧ (c.evaluate (o.settings reading) t text).2.Sound o t := by
  have hv := h.forVersion
  have hversion := version_forVersion (c := c) t.version
  unfold evaluate
  generalize c.forVersion t.version = d at hv hversion
  simp only []
  split
  · rename_i v hhit
    exact ⟨(hv.value_eq hversion text v hhit reading).symm, hv.version_le, hv.value_eq⟩
  · split_ifs with hvol
    · exact ⟨rfl, hv.version_le, hv.value_eq⟩
    · have hlimit : (o.settings reading).limit = o.limit := by
        unfold Options.settings
        split <;> rfl
      rw [hlimit, Bool.not_eq_true] at hvol
      refine ⟨rfl, hv.version_le, fun _ other v hlookup r => ?_⟩
      simp only [List.lookup_cons] at hlookup
      split at hlookup
      · rename_i hkey
        simp only [beq_iff_eq, Prod.mk.injEq, and_true] at hkey
        simp only [Option.some.injEq] at hlookup
        rw [hkey, ← hlookup]
        exact evaluate_eq_of_kept hvol r
      · exact hv.value_eq hversion other v hlookup r

theorem display_sound (h : c.Sound o t) (reading : Moment) (format : DisplayFormat) (a : Address) :
    (c.display (o.settings reading) format t a).1 = t.display (o.settings reading) format a
      ∧ (c.display (o.settings reading) format t a).2.Sound o t := by
  unfold display Table.display
  rcases t.shown a with _ | ⟨kind, text⟩ | ⟨kind, cell⟩
  · exact ⟨rfl, h⟩
  · obtain ⟨hvalue, hsound⟩ := evaluate_sound h reading text
    exact ⟨by simp only [hvalue], hsound⟩
  · exact ⟨rfl, h⟩

theorem displayAll_sound (reading : Moment) (format : DisplayFormat) :
    ∀ (as : List Address) {c : Cache}, c.Sound o t →
      (c.displayAll (o.settings reading) format t as).1
          = as.map (t.display (o.settings reading) format)
        ∧ (c.displayAll (o.settings reading) format t as).2.Sound o t
  | [], _, h => ⟨rfl, h⟩
  | a :: rest, _, h => by
    obtain ⟨hvalue, hsound⟩ := display_sound h reading format a
    obtain ⟨hmore, hsound⟩ := displayAll_sound reading format rest hsound
    exact ⟨by simp only [displayAll, hvalue, hmore, List.map_cons], hsound⟩

theorem displayRows_sound (reading : Moment) (format : DisplayFormat) :
    ∀ (rows : List (List Address)) {c : Cache}, c.Sound o t →
      (c.displayRows (o.settings reading) format t rows).1
          = rows.map (·.map (t.display (o.settings reading) format))
        ∧ (c.displayRows (o.settings reading) format t rows).2.Sound o t
  | [], _, h => ⟨rfl, h⟩
  | row :: rest, _, h => by
    obtain ⟨hvalue, hsound⟩ := displayAll_sound reading format row h
    obtain ⟨hmore, hsound⟩ := displayRows_sound reading format rest hsound
    exact ⟨by simp only [displayRows, hvalue, hmore, List.map_cons], hsound⟩

end Cache

/-! ## Steps and runs -/

namespace Session

variable {o : Options} {s : Session}

/-- What one step keeps: the answer and the table of the step without a cache, and a cache that is
right. -/
def Follows (o : Options) (withCache : Answer × Session) (without : Answer × Table) : Prop :=
  withCache.1 = without.1 ∧ withCache.2.table = without.2
    ∧ withCache.2.cache.Sound o withCache.2.table

theorem follows_edited (h : s.cache.Sound o s.table) {r : Except TableError Table}
    (hr : ∀ t', r = .ok t' → t'.version = s.table.version + 1) :
    Follows o (s.edited r) (s.table.edited r) := by
  rcases r with e | t'
  · exact ⟨rfl, rfl, h⟩
  · have hlt : s.table.version < t'.version := by
      rw [hr t' rfl]
      exact Nat.lt_succ_self _
    exact ⟨rfl, rfl, h.of_lt hlt⟩

theorem follows_act (h : s.cache.Sound o s.table) (reading : Moment) (format : DisplayFormat)
    (action : Action) :
    Follows o (s.act (o.settings reading) format action)
      (s.table.act (o.settings reading) format action) := by
  cases action with
  | addColumn c => exact follows_edited h fun t' ht => (Table.addColumn_ok ht).2.2
  | pushRow r =>
    refine follows_edited h fun t' ht => ?_
    rw [← Except.ok.inj ht]
    rfl
  | replaceRows rows =>
    refine follows_edited h fun t' ht => ?_
    rw [← Except.ok.inj ht]
    rfl
  | setNamed name cell => exact follows_edited h fun t' ht => Table.version_setNamed ht
  | setAt row col cell => exact follows_edited h fun t' ht => Table.version_setAt ht
  | edit row id cell => exact follows_edited h fun t' ht => Table.version_edit ht
  | evaluate text =>
    obtain ⟨hvalue, hsound⟩ := Cache.evaluate_sound h reading text
    exact ⟨by simp only [act, Table.act, hvalue], rfl, hsound⟩
  | display a =>
    obtain ⟨hvalue, hsound⟩ := Cache.display_sound h reading format a
    exact ⟨by simp only [act, Table.act, hvalue], rfl, hsound⟩
  | displayAll =>
    obtain ⟨hvalue, hsound⟩ := Cache.displayRows_sound reading format s.table.positions h
    exact ⟨by simp only [act, Table.act, Cache.grid, hvalue, Table.grid], rfl, hsound⟩
  | clear => exact ⟨rfl, rfl, Cache.sound_clear⟩

theorem run_eq : ∀ (steps : List Step) {s : Session}, s.cache.Sound o s.table →
    (s.run o steps).1 = (s.table.run o steps).1
      ∧ (s.run o steps).2.table = (s.table.run o steps).2
  | [], _, _ => ⟨rfl, rfl⟩
  | step :: rest, s, h => by
    obtain ⟨hanswer, htable, hsound⟩ := follows_act h step.reading step.format step.action
    obtain ⟨hanswers, hend⟩ := run_eq rest hsound
    simp only [run, Table.run]
    rw [hanswer, hanswers, hend, htable]
    exact ⟨rfl, rfl⟩

/-- A run with a cache that starts empty gives the answers of the run without one, at every step,
and ends with the same table. -/
theorem run_empty_eq (o : Options) (t : Table) (steps : List Step) :
    (run o ⟨t, Cache.empty⟩ steps).1 = (t.run o steps).1
      ∧ (run o ⟨t, Cache.empty⟩ steps).2.table = (t.run o steps).2 :=
  run_eq steps Cache.sound_empty

end Session

end Worksheet
