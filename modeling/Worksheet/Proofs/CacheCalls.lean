import Worksheet.Proofs.Lineage
import Worksheet.Proofs.Transparency

/-!
# Calls of a cache

All that a session does to its cache is to call it: each evaluation is one call, each display of a
cell is one if a formula stands there and none otherwise, and edits are none (`Session.cache_run`).
Versions of a table only go up, so calls are made at later and later versions
(`Table.versions_callsOfAll`).
-/

namespace Worksheet

/-- What is asked of a cache. -/
inductive Call where
  | evaluate (t : Table) (reading : Moment) (text : String)
  | clear

namespace Cache

/-- The cache after a call. -/
def after (o : Options) (c : Cache) : Call → Cache
  | .evaluate t reading text => (c.evaluate (o.settings reading) t text).2
  | .clear => c.clear

def afterAll (o : Options) (c : Cache) (calls : List Call) : Cache :=
  calls.foldl (after o) c

end Cache

namespace Table

/-- The formula that stands at a position. -/
def formula? (t : Table) (a : Address) : Option String :=
  (t.cell? a).bind Cell.formula?

theorem shown_cases (t : Table) (a : Address) :
    (t.shown a = .nothing ∧ t.formula? a = none)
    ∨ (∃ kind text, t.shown a = .formula kind text ∧ t.formula? a = some text)
    ∨ ∃ kind cell, t.shown a = .stored kind cell ∧ t.formula? a = none := by
  unfold shown formula?
  rcases hcell : t.cell? a with _ | cell
  · exact .inl ⟨by split <;> simp_all, rfl⟩
  · obtain ⟨column, row, hc, -, -⟩ := exists_of_cell? hcell
    rw [hc]
    rcases hformula : cell.formula? with _ | text
    · exact .inr (.inr ⟨column.kind, cell, by simp [hformula], by simpa using hformula⟩)
    · exact .inr (.inl ⟨column.kind, text, by simp [hformula], by simpa using hformula⟩)

/-- The calls that a step makes, the table being this one and the clock reading this moment. -/
def calls (t : Table) (reading : Moment) : Action → List Call
  | .evaluate text => [.evaluate t reading text]
  | .display a => (t.formula? a).toList.map (.evaluate t reading)
  | .displayAll => (t.positions.flatten.filterMap t.formula?).map (.evaluate t reading)
  | .clear => [.clear]
  | _ => []

/-- The calls that steps make, one after the other. -/
def callsOfAll (o : Options) (t : Table) : List Step → List Call
  | [] => []
  | step :: rest => t.calls step.reading step.action
      ++ callsOfAll o (t.act (o.settings step.reading) step.format step.action).2 rest

end Table

namespace Cache

variable {o : Options} {t : Table} {reading : Moment} {format : DisplayFormat}

theorem afterAll_append (c : Cache) (calls more : List Call) :
    c.afterAll o (calls ++ more) = (c.afterAll o calls).afterAll o more :=
  List.foldl_append

theorem display_snd (c : Cache) (a : Address) :
    (c.display (o.settings reading) format t a).2
      = c.afterAll o ((t.formula? a).toList.map (.evaluate t reading)) := by
  unfold display
  rcases t.shown_cases a with ⟨hs, hf⟩ | ⟨kind, text, hs, hf⟩ | ⟨kind, cell, hs, hf⟩
  all_goals
    rw [hs, hf]
    rfl

theorem displayAll_snd : ∀ (as : List Address) (c : Cache),
    (c.displayAll (o.settings reading) format t as).2
      = c.afterAll o ((as.filterMap t.formula?).map (.evaluate t reading))
  | [], _ => rfl
  | a :: as, c => by
    simp only [displayAll, display_snd, displayAll_snd as]
    rw [← afterAll_append, ← List.map_append]
    rcases hformula : t.formula? a with _ | text <;> simp [hformula]

theorem displayRows_snd : ∀ (rows : List (List Address)) (c : Cache),
    (c.displayRows (o.settings reading) format t rows).2
      = c.afterAll o ((rows.flatten.filterMap t.formula?).map (.evaluate t reading))
  | [], _ => rfl
  | row :: rows, c => by
    simp only [displayRows, displayAll_snd, displayRows_snd rows]
    rw [← afterAll_append, ← List.map_append, List.flatten_cons, List.filterMap_append]

end Cache

namespace Session

variable {o : Options}

theorem table_edited (s : Session) (r : Except TableError Table) :
    (s.edited r).2 = ⟨(s.table.edited r).2, s.cache⟩ := by
  rcases r with e | t <;> rfl

/-- A step makes its calls and does nothing else to the cache. -/
theorem act_snd (s : Session) (step : Step) :
    (s.act (o.settings step.reading) step.format step.action).2
      = ⟨(s.table.act (o.settings step.reading) step.format step.action).2,
          s.cache.afterAll o (s.table.calls step.reading step.action)⟩ := by
  rcases step with ⟨action, format, reading⟩
  cases action with
  | evaluate text => rfl
  | display a => simp only [act, Table.act, Table.calls, Cache.display_snd]
  | displayAll => simp only [act, Table.act, Table.calls, Cache.grid, Cache.displayRows_snd]
  | clear => rfl
  | _ => exact table_edited s _

/-- The cache at the end of a run is that after the calls of its steps. -/
theorem cache_run : ∀ (steps : List Step) (s : Session),
    (s.run o steps).2.cache = s.cache.afterAll o (s.table.callsOfAll o steps)
  | [], _ => rfl
  | step :: steps, s => by
    have hstep := act_snd (o := o) s step
    simp only [run, Table.callsOfAll, Cache.afterAll_append]
    rw [cache_run steps, hstep]

end Session

/-! ## Versions only go up -/

namespace Call

/-- The versions that calls are made at. -/
def versions (calls : List Call) : List Nat :=
  calls.filterMap fun
    | .evaluate t _ _ => some t.version
    | .clear => none

theorem versions_evaluate (t : Table) (reading : Moment) (text : String) (past : List Call) :
    versions (.evaluate t reading text :: past) = t.version :: versions past :=
  rfl

/-- Whether later calls are made at later versions, the latest call being the first. -/
def InOrder (past : List Call) : Prop :=
  (versions past).Pairwise fun later earlier => earlier ≤ later

end Call

namespace Table

theorem version_le_act (t : Table) (settings : Settings) (format : DisplayFormat)
    (action : Action) : t.version ≤ (t.act settings format action).2.version := by
  have hedit : ∀ e : Edit, t.version ≤ (t.edited (e.apply t)).2.version := by
    intro e
    have hle := (Edit.version_le_after (t := t) (e := e)).1
    unfold Edit.after at hle
    rcases h : e.apply t with reason | t' <;> rw [h] at hle <;> exact hle
  cases action with
  | addColumn c => exact hedit (.addColumn c)
  | pushRow r => exact hedit (.pushRow r)
  | replaceRows rows => exact hedit (.replaceRows rows)
  | setNamed name cell => exact hedit (.setNamed name cell)
  | setAt row col cell => exact hedit (.setAt row col cell)
  | edit row id cell => exact hedit (.byUser row id cell)
  | _ => exact Nat.le_refl _

theorem eq_of_mem_versions_calls {t : Table} {reading : Moment} {action : Action} {v : Nat}
    (h : v ∈ Call.versions (t.calls reading action)) : v = t.version := by
  have heval : ∀ texts : List String,
      v ∈ Call.versions (texts.map (Call.evaluate t reading)) → v = t.version := by
    intro texts hmem
    simp only [Call.versions, List.filterMap_map, List.mem_filterMap, Function.comp_apply,
      Option.some.injEq] at hmem
    obtain ⟨text, -, hv⟩ := hmem
    exact hv.symm
  cases action with
  | evaluate text => exact heval [text] h
  | display a => exact heval _ h
  | displayAll => exact heval _ h
  | _ => simp [calls, Call.versions] at h

theorem versions_callsOfAll (o : Options) : ∀ (steps : List Step) (t : Table),
    (∀ v ∈ Call.versions (t.callsOfAll o steps), t.version ≤ v)
      ∧ (Call.versions (t.callsOfAll o steps)).Pairwise (· ≤ ·)
  | [], _ => ⟨by simp [callsOfAll, Call.versions], .nil⟩
  | step :: steps, t => by
    have hle := t.version_le_act (o.settings step.reading) step.format step.action
    obtain ⟨hleast, hpairwise⟩ := versions_callsOfAll o steps
      (t.act (o.settings step.reading) step.format step.action).2
    rw [callsOfAll, Call.versions, List.filterMap_append]
    refine ⟨fun v hv => ?_, List.pairwise_append.2 ⟨?_, hpairwise, fun v hv w hw => ?_⟩⟩
    · rcases List.mem_append.1 hv with hv | hv
      · exact Nat.le_of_eq (eq_of_mem_versions_calls hv).symm
      · exact Nat.le_trans hle (hleast v hv)
    · refine List.pairwise_of_forall_mem_list fun v hv w hw => Nat.le_of_eq ?_
      rw [eq_of_mem_versions_calls hv, eq_of_mem_versions_calls hw]
    · rw [eq_of_mem_versions_calls hv]
      exact Nat.le_trans hle (hleast w hw)

end Table

end Worksheet
