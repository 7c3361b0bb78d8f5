import Mathlib.Data.List.Dedup
import Worksheet.Proofs.CacheCalls

/-!
# What a cache counts and keeps

What a call of a cache is counted as can be read off the calls before it (`Call.outcome?`).  A
formula that calls the clock bypasses a cache unless the clock is pinned; any other text is a hit if
it was asked for at the same version since the cache was last emptied, and a miss if it was not.

What carries this is that a cache keeps the texts asked for at the version it saw last, and these
are all that it could find again, because versions only go up (`Cache.Remembers`).
-/

namespace Worksheet

/-! ## Formulas that call the clock -/

/-- Whether an expression calls a function, however far inside. -/
inductive Expression.Calls (f : Builtin) : Expression → Prop
  | here {args : List Expression} : Calls f (.call f args)
  | argument {g : Builtin} {args : List Expression} {e : Expression} (he : e ∈ args)
      (h : Calls f e) : Calls f (.call g args)
  | left {op : Comparator} {l r : Expression} (h : Calls f l) : Calls f (.comparison op l r)
  | right {op : Comparator} {l r : Expression} (h : Calls f r) : Calls f (.comparison op l r)

/-- Whether a text is a formula that calls a function of the clock. -/
def CallsClock (limit : Nat) (text : String) : Prop :=
  ∃ e, Formula.parse limit text = .ok (.expression e) ∧ (e.Calls .today ∨ e.Calls .now)

namespace Expression

variable {f : Builtin}

mutual

theorem mem_functions_iff : ∀ e : Expression, f ∈ e.functions ↔ e.Calls f
  | .comparison op left right => by
    rw [functions, List.mem_append, mem_functions_iff left, mem_functions_iff right]
    constructor
    · rintro (h | h)
      · exact .left h
      · exact .right h
    · intro h
      cases h with
      | left h => exact .inl h
      | right h => exact .inr h
  | .call g args => by
    rw [functions, List.mem_cons, mem_functionsOfAll_iff args]
    constructor
    · rintro (rfl | ⟨e, he, h⟩)
      · exact .here
      · exact .argument he h
    · intro h
      cases h with
      | here => exact .inl rfl
      | argument he h => exact .inr ⟨_, he, h⟩
  | .empty => by simpa [functions] using nofun
  | .number _ => by simpa [functions] using nofun
  | .text _ => by simpa [functions] using nofun
  | .boolean _ => by simpa [functions] using nofun
  | .cell _ => by simpa [functions] using nofun
  | .region _ => by simpa [functions] using nofun
  | .badRegion _ => by simpa [functions] using nofun
  | .unrecognized _ => by simpa [functions] using nofun

theorem mem_functionsOfAll_iff : ∀ es : List Expression,
    f ∈ functionsOfAll es ↔ ∃ e ∈ es, e.Calls f
  | [] => by simp [functionsOfAll]
  | e :: rest => by
    rw [functionsOfAll, List.mem_append, mem_functions_iff e, mem_functionsOfAll_iff rest,
      List.exists_mem_cons_iff]

end

end Expression

theorem Cache.isVolatile_iff {limit : Nat} {text : String} :
    isVolatile limit text = true ↔ CallsClock limit text := by
  unfold isVolatile CallsClock
  rcases hparse : Formula.parse limit text with err | u
  · simp
  · have hclock : ∀ f : Builtin, f.isVolatile = true ↔ f = .today ∨ f = .now := by
      intro f
      cases f <;> simp [Builtin.isVolatile]
    cases u with
    | expression e =>
      simp only [Formula.functions, List.any_eq_true, Expression.mem_functions_iff, hclock,
        Except.ok.injEq, Formula.expression.injEq]
      constructor
      · rintro ⟨f, hf, rfl | rfl⟩
        · exact ⟨e, rfl, .inl hf⟩
        · exact ⟨e, rfl, .inr hf⟩
      · rintro ⟨_, rfl, h | h⟩
        · exact ⟨_, h, .inl rfl⟩
        · exact ⟨_, h, .inr rfl⟩
    | _ => simp [Formula.functions]

/-- Whether a text is evaluated past the cache. -/
def Options.Bypasses (o : Options) (text : String) : Prop :=
  o.pinned = none ∧ CallsClock o.limit text

instance (o : Options) (text : String) : Decidable (o.Bypasses text) :=
  have : Decidable (CallsClock o.limit text) := decidable_of_iff _ Cache.isVolatile_iff
  inferInstanceAs (Decidable (_ ∧ _))

theorem Options.bypasses_iff {o : Options} {reading : Moment} {text : String} :
    (!(o.settings reading).clock.pinned
      && Cache.isVolatile (o.settings reading).limit text) = true ↔ o.Bypasses text := by
  unfold Bypasses settings
  rcases o.pinned with _ | m <;> simp [Cache.isVolatile_iff]

/-! ## What calls are counted as -/

/-- How a cache comes to an answer. -/
inductive Outcome where
  | hit
  | miss
  | uncached
  deriving DecidableEq

namespace Call

def isEvaluation : Call → Bool
  | .evaluate _ _ _ => true
  | .clear => false

/-- The texts and versions asked for since the cache was last emptied, the latest first.  So are the
calls. -/
def keys : List Call → List (String × Nat)
  | [] => []
  | .clear :: _ => []
  | .evaluate t _ text :: past => (text, t.version) :: keys past

/-- The texts asked for since the cache was last emptied or, if that is later, since it last found
that the version had changed. -/
def currentTexts (past : List Call) : List String :=
  match keys past with
  | [] => []
  | key :: before => ((key :: before).takeWhile (·.2 = key.2)).map Prod.fst

/-- What a call is counted as that comes after other calls, the latest of them first. -/
def outcome? (o : Options) (past : List Call) : Call → Option Outcome
  | .clear => none
  | .evaluate t _ text =>
    if o.Bypasses text then some .uncached
    else if (text, t.version) ∈ keys past then some .hit
    else some .miss

/-- What calls are counted as, the latest first. -/
def outcomes (o : Options) : List Call → List Outcome
  | [] => []
  | call :: past => (call.outcome? o past).toList ++ outcomes o past

theorem mem_versions_of_mem_keys {key : String × Nat} : ∀ {past : List Call}, key ∈ keys past →
    key.2 ∈ versions past
  | .evaluate t reading text :: past, h => by
    rw [keys, List.mem_cons] at h
    rw [versions_evaluate, List.mem_cons]
    rcases h with rfl | h
    · exact .inl rfl
    · exact .inr (mem_versions_of_mem_keys h)

theorem InOrder.keys : ∀ {past : List Call}, InOrder past →
    (keys past).Pairwise fun later earlier => earlier.2 ≤ later.2
  | [], _ => .nil
  | .clear :: _, _ => .nil
  | .evaluate t reading text :: past, h => by
    rw [InOrder, versions_evaluate, List.pairwise_cons] at h
    rw [Call.keys, List.pairwise_cons]
    exact ⟨fun key hkey => h.1 _ (mem_versions_of_mem_keys hkey), InOrder.keys h.2⟩

end Call

/-! ## What a cache remembers -/

namespace Cache

/-- Whether the texts that a cache keeps are those asked for at the version it saw last, without
those that bypass it. -/
structure Remembers (o : Options) (past : List Call) (c : Cache) : Prop where
  version_eq : c.version = (Call.keys past).head?.map Prod.snd
  nodup : (c.entries.map Prod.fst).Nodup
  mem_iff : ∀ key, key ∈ c.entries.map Prod.fst ↔
    c.version = some key.2 ∧ key ∈ Call.keys past ∧ ¬ o.Bypasses key.1

/-- The number of calls that are counted as an outcome. -/
def count (c : Cache) : Outcome → Nat
  | .hit => c.hits
  | .miss => c.misses
  | .uncached => c.uncached

variable {o : Options} {past : List Call} {c : Cache}

theorem count_forVersion (version : Nat) (kind : Outcome) :
    (c.forVersion version).count kind = c.count kind := by
  unfold Cache.forVersion
  split_ifs
  · rfl
  · cases kind <;> rfl

/-- What is kept of one version or dropped for a later one is what was asked for at that version. -/
theorem Remembers.forVersion (h : c.Remembers o past) {version : Nat}
    (horder : (Call.keys past).Pairwise fun later earlier => earlier.2 ≤ later.2)
    (hle : ∀ key ∈ Call.keys past, key.2 ≤ version) :
    ((c.forVersion version).entries.map Prod.fst).Nodup
      ∧ ∀ key, key ∈ (c.forVersion version).entries.map Prod.fst ↔
        key.2 = version ∧ key ∈ Call.keys past ∧ ¬ o.Bypasses key.1 := by
  unfold Cache.forVersion
  split_ifs with hversion
  · refine ⟨h.nodup, fun key => ?_⟩
    rw [h.mem_iff, hversion, Option.some.injEq, eq_comm]
  · refine ⟨by simp, fun key => ?_⟩
    simp only [List.map_nil, List.not_mem_nil, false_iff]
    rintro ⟨rfl, hkey, -⟩
    -- the latest version asked for is an earlier one, and no version is later than that
    rcases hkeys : Call.keys past with _ | ⟨latest, before⟩
    · rw [hkeys] at hkey
      cases hkey
    · have hseen := h.version_eq
      rw [hkeys] at hseen hkey horder hle
      have hne : latest.2 ≠ key.2 := by
        intro heq
        exact hversion (by rw [hseen, ← heq]; rfl)
      have hlatest := hle latest List.mem_cons_self
      rcases List.mem_cons.1 hkey with rfl | hkey
      · exact hne rfl
      · have := (List.pairwise_cons.1 horder).1 key hkey
        omega

section Evaluate

variable {t : Table} {reading : Moment} {text : String}

theorem lookup_eq_none_iff_notMem {key : String × Nat} :
    c.entries.lookup key = none ↔ key ∉ c.entries.map Prod.fst := by
  rw [List.lookup_eq_none_iff]
  simp only [List.mem_map, not_exists, not_and, bne_iff_ne, ne_eq]
  exact forall₂_congr fun _ _ => not_congr eq_comm

theorem after_of_kept
    (h : (text, t.version) ∈ (c.forVersion t.version).entries.map Prod.fst) :
    c.after o (.evaluate t reading text)
      = { c.forVersion t.version with hits := (c.forVersion t.version).hits + 1 } := by
  rw [after, evaluate]
  rcases hlookup : (c.forVersion t.version).entries.lookup (text, t.version) with _ | v
  · exact absurd h (lookup_eq_none_iff_notMem.1 hlookup)
  · rfl

theorem after_of_bypasses (hb : o.Bypasses text)
    (h : (text, t.version) ∉ (c.forVersion t.version).entries.map Prod.fst) :
    c.after o (.evaluate t reading text)
      = { c.forVersion t.version with uncached := (c.forVersion t.version).uncached + 1 } := by
  rw [after, evaluate]
  simp only [lookup_eq_none_iff_notMem.2 h, if_pos (Options.bypasses_iff.2 hb)]

theorem after_of_new (hb : ¬ o.Bypasses text)
    (h : (text, t.version) ∉ (c.forVersion t.version).entries.map Prod.fst) :
    c.after o (.evaluate t reading text)
      = { c.forVersion t.version with
        entries := ((text, t.version), (o.settings reading).evaluate t text)
          :: (c.forVersion t.version).entries
        misses := (c.forVersion t.version).misses + 1 } := by
  rw [after, evaluate]
  simp only [lookup_eq_none_iff_notMem.2 h, if_neg (Options.bypasses_iff.not.2 hb)]

theorem remembers_evaluate (hversion : c.version = some t.version)
    (hnodup : (c.entries.map Prod.fst).Nodup)
    (hmem : ∀ key, key ∈ c.entries.map Prod.fst ↔ key.2 = t.version
      ∧ (key = (text, t.version) ∨ key ∈ Call.keys past) ∧ ¬ o.Bypasses key.1) :
    c.Remembers o (.evaluate t reading text :: past) := by
  refine ⟨hversion, hnodup, fun key => ?_⟩
  rw [hmem, hversion, Call.keys, List.mem_cons, Option.some.injEq, eq_comm (a := key.2)]

/-- A call that stores nothing is of a text that bypasses the cache or was asked for before. -/
theorem remembers_of_no_entry (hversion : c.version = some t.version)
    (hnodup : (c.entries.map Prod.fst).Nodup)
    (hmem : ∀ key, key ∈ c.entries.map Prod.fst ↔
      key.2 = t.version ∧ key ∈ Call.keys past ∧ ¬ o.Bypasses key.1)
    (hold : ¬ o.Bypasses text → (text, t.version) ∈ Call.keys past) :
    c.Remembers o (.evaluate t reading text :: past) := by
  refine remembers_evaluate hversion hnodup fun key => ?_
  rw [hmem]
  refine and_congr_right fun _ => and_congr_left fun hno => ⟨.inr, ?_⟩
  rintro (rfl | hk)
  · exact hold hno
  · exact hk

end Evaluate

/-- One call keeps what is known of a cache and is counted as what it is. -/
theorem Remembers.after (h : c.Remembers o past) {call : Call}
    (horder : Call.InOrder (call :: past)) :
    (c.after o call).Remembers o (call :: past)
      ∧ ∀ kind, (c.after o call).count kind
          = c.count kind + (call.outcome? o past).toList.count kind := by
  cases call with
  | clear =>
    refine ⟨⟨rfl, List.nodup_nil, fun key => ?_⟩, fun kind => by cases kind <;> rfl⟩
    simp [Cache.after, clear, Call.keys]
  | evaluate t reading text =>
    have hpairwise := List.pairwise_cons.1 horder.keys
    have hle : ∀ key ∈ Call.keys past, key.2 ≤ t.version := hpairwise.1
    obtain ⟨hnodup, hmem⟩ := h.forVersion hpairwise.2 hle
    have hversion := version_forVersion (c := c) t.version
    have hcount := count_forVersion (c := c) t.version
    by_cases hkept : (text, t.version) ∈ (c.forVersion t.version).entries.map Prod.fst
    · obtain ⟨-, hseen, hno⟩ := (hmem _).1 hkept
      have hhit : Call.outcome? o past (.evaluate t reading text) = some .hit := by
        rw [Call.outcome?, if_neg hno, if_pos hseen]
      rw [after_of_kept hkept, hhit]
      refine ⟨remembers_of_no_entry hversion hnodup hmem fun _ => hseen, fun kind => ?_⟩
      rw [← hcount]
      cases kind <;> rfl
    · by_cases hb : o.Bypasses text
      · have huncached : Call.outcome? o past (.evaluate t reading text) = some .uncached := by
          rw [Call.outcome?, if_pos hb]
        rw [after_of_bypasses hb hkept, huncached]
        refine ⟨remembers_of_no_entry hversion hnodup hmem fun hno => absurd hb hno,
          fun kind => ?_⟩
        rw [← hcount]
        cases kind <;> rfl
      · have hunseen : (text, t.version) ∉ Call.keys past := fun hk =>
          hkept ((hmem _).2 ⟨rfl, hk, hb⟩)
        have hmiss : Call.outcome? o past (.evaluate t reading text) = some .miss := by
          rw [Call.outcome?, if_neg hb, if_neg hunseen]
        rw [after_of_new hb hkept, hmiss]
        have hnodup' := List.nodup_cons.2 ⟨hkept, hnodup⟩
        refine ⟨remembers_evaluate hversion hnodup' fun key => ?_, fun kind => ?_⟩
        · rw [List.map_cons, List.mem_cons, hmem]
          constructor
          · rintro (rfl | ⟨hv, hk, hno⟩)
            · exact ⟨rfl, .inl rfl, hb⟩
            · exact ⟨hv, .inr hk, hno⟩
          · rintro ⟨hv, rfl | hk, hno⟩
            · exact .inl rfl
            · exact .inr ⟨hv, hk, hno⟩
        · rw [← hcount]
          cases kind <;> rfl

/-- What is known of a cache after any calls that are made at later and later versions. -/
theorem remembers_afterAll : ∀ {past : List Call}, Call.InOrder past →
    (empty.afterAll o past.reverse).Remembers o past
      ∧ ∀ kind, (empty.afterAll o past.reverse).count kind = (Call.outcomes o past).count kind
  | [], _ => ⟨⟨rfl, List.nodup_nil, fun key => by simp [afterAll, empty]⟩, fun kind => by
      cases kind <;> rfl⟩
  | call :: past, h => by
    have hpast : Call.InOrder past := by
      refine h.sublist ?_
      rw [Call.versions, Call.versions]
      exact (List.sublist_cons_self call past).filterMap _
    obtain ⟨hremembers, hcount⟩ := remembers_afterAll hpast
    obtain ⟨hnext, hcount'⟩ := hremembers.after h
    have hcons : empty.afterAll o (call :: past).reverse
        = (empty.afterAll o past.reverse).after o call := by
      rw [List.reverse_cons, afterAll_append]
      rfl
    rw [hcons]
    refine ⟨hnext, fun kind => ?_⟩
    rw [hcount', hcount, Call.outcomes, List.count_append, Nat.add_comm]

theorem mem_takeWhile_version {version : Nat} {key : String × Nat} :
    ∀ {keys : List (String × Nat)}, (keys.Pairwise fun later earlier => earlier.2 ≤ later.2) →
      (∀ k ∈ keys, k.2 ≤ version) →
        (key ∈ keys.takeWhile (·.2 = version) ↔ key ∈ keys ∧ key.2 = version)
  | [], _, _ => by simp
  | latest :: keys, horder, hle => by
    rw [List.pairwise_cons] at horder
    have htail : key ∈ keys.takeWhile (·.2 = version) ↔ key ∈ keys ∧ key.2 = version :=
      mem_takeWhile_version horder.2 fun k hk => hle k (List.mem_cons_of_mem _ hk)
    by_cases hlatest : latest.2 = version
    · rw [List.takeWhile_cons_of_pos (by simpa using hlatest), List.mem_cons, List.mem_cons, htail]
      constructor
      · rintro (rfl | ⟨hk, hv⟩)
        · exact ⟨.inl rfl, hlatest⟩
        · exact ⟨.inr hk, hv⟩
      · rintro ⟨rfl | hk, hv⟩
        · exact .inl rfl
        · exact .inr ⟨hk, hv⟩
    · rw [List.takeWhile_cons_of_neg (by simpa using hlatest)]
      simp only [List.not_mem_nil, false_iff]
      rintro ⟨hk, rfl⟩
      -- the latest version is below this one, and all others are not above the latest
      have hlt := hle latest List.mem_cons_self
      rcases List.mem_cons.1 hk with rfl | hk
      · exact hlatest rfl
      · have := horder.1 key hk
        omega

theorem Remembers.mem_texts_iff (h : c.Remembers o past) (hpast : Call.InOrder past)
    {text : String} :
    text ∈ (c.entries.map Prod.fst).map Prod.fst ↔
      text ∈ Call.currentTexts past ∧ ¬ o.Bypasses text := by
  have hversion := h.version_eq
  have hmem := h.mem_iff
  have horder := hpast.keys
  unfold Call.currentTexts
  generalize c.entries.map Prod.fst = kept at hmem
  rcases hkeys : Call.keys past with _ | ⟨latest, before⟩
  · rw [hkeys] at hmem
    simp [hmem]
  · rw [hkeys] at hversion hmem horder
    have hle : ∀ k ∈ latest :: before, k.2 ≤ latest.2 := by
      intro k hk
      rcases List.mem_cons.1 hk with rfl | hk
      · exact Nat.le_refl _
      · exact (List.pairwise_cons.1 horder).1 k hk
    simp only [List.mem_map, hmem, mem_takeWhile_version horder hle, hversion, List.head?_cons,
      Option.map_some, Option.some.injEq]
    constructor
    · rintro ⟨key, ⟨hv, hk, hno⟩, rfl⟩
      exact ⟨⟨key, ⟨hk, hv.symm⟩, rfl⟩, hno⟩
    · rintro ⟨⟨key, ⟨hk, hv⟩, rfl⟩, hno⟩
      exact ⟨key, ⟨hv.symm, hk, hno⟩, rfl⟩

theorem Remembers.size_eq (h : c.Remembers o past) (hpast : Call.InOrder past) :
    c.size = ((Call.currentTexts past).filter fun text => ¬ o.Bypasses text).dedup.length := by
  have hnodup : ((c.entries.map Prod.fst).map Prod.fst).Nodup := by
    refine h.nodup.map_on fun k hk l hl htext => Prod.ext htext ?_
    exact Option.some.inj (((h.mem_iff k).1 hk).1.symm.trans ((h.mem_iff l).1 hl).1)
  have hperm := (List.perm_ext_iff_of_nodup hnodup (List.nodup_dedup
    ((Call.currentTexts past).filter fun text => ¬ o.Bypasses text))).2 fun text => by
      rw [h.mem_texts_iff hpast, List.mem_dedup, List.mem_filter]
      simp
  rw [size, ← hperm.length_eq, List.length_map, List.length_map]

/-- Whether the counters and contents of a cache are what the calls so far make them, the latest
call being the first. -/
structure Counts (o : Options) (past : List Call) (c : Cache) : Prop where
  total : c.hits + c.misses + c.uncached = past.countP Call.isEvaluation
  hits : c.hits = (Call.outcomes o past).count .hit
  misses : c.misses = (Call.outcomes o past).count .miss
  uncached : c.uncached = (Call.outcomes o past).count .uncached
  size : c.size = ((Call.currentTexts past).filter fun text => ¬ o.Bypasses text).dedup.length
  version : c.version = (Call.keys past).head?.map Prod.snd
  entries : ∀ entry ∈ c.entries, c.version = some entry.1.2

theorem length_outcomes (o : Options) : ∀ past : List Call,
    (Call.outcomes o past).length = past.countP Call.isEvaluation
  | [] => rfl
  | call :: past => by
    rw [Call.outcomes, List.length_append, length_outcomes o past, List.countP_cons, Nat.add_comm]
    congr 1
    cases call with
    | clear => rfl
    | evaluate t reading text =>
      rw [Call.outcome?, if_pos (show (Call.evaluate t reading text).isEvaluation = true from rfl)]
      split_ifs <;> rfl

theorem count_add_count_add_count : ∀ l : List Outcome,
    l.count .hit + l.count .miss + l.count .uncached = l.length
  | [] => rfl
  | kind :: l => by
    have htail := count_add_count_add_count l
    cases kind <;> simp <;> omega

theorem counts_afterAll (h : Call.InOrder past) :
    (empty.afterAll o past.reverse).Counts o past := by
  obtain ⟨hremembers, hcount⟩ := remembers_afterAll (o := o) h
  refine ⟨?_, hcount .hit, hcount .miss, hcount .uncached, hremembers.size_eq h,
    hremembers.version_eq, fun entry he => ?_⟩
  · rw [← length_outcomes o, ← count_add_count_add_count, ← hcount, ← hcount, ← hcount]
    rfl
  · exact ((hremembers.mem_iff entry.1).1 (List.mem_map_of_mem he)).1

end Cache

/-- The cache of a session has been called by the steps so far and by nothing else, and its counters
and contents are at any time what its calls make them. -/
theorem Session.run_counts (o : Options) (t : Table) (steps : List Step) :
    (run o ⟨t, Cache.empty⟩ steps).2.cache = Cache.empty.afterAll o (t.callsOfAll o steps)
    ∧ ∀ before, before <+: t.callsOfAll o steps →
      (Cache.empty.afterAll o before).Counts o before.reverse := by
  refine ⟨cache_run steps _, fun before hbefore => ?_⟩
  have horder : Call.InOrder before.reverse := by
    have hall := (t.versions_callsOfAll o steps).2
    rw [Call.InOrder, Call.versions, List.filterMap_reverse, List.pairwise_reverse]
    exact hall.sublist (hbefore.sublist.filterMap _)
  simpa only [List.reverse_reverse] using Cache.counts_afterAll horder

example (m : Moment) : Call.outcomes ⟨64, none⟩ [.evaluate Table.empty m "x",
    .evaluate Table.empty m "=NA(NOW())", .evaluate Table.empty m "x"]
      = [.hit, .uncached, .miss] := rfl

end Worksheet
