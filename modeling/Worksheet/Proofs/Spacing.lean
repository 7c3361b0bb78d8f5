import Worksheet.Proofs.SingleCall
import Worksheet.Proofs.Trimming
import Worksheet.Proofs.Words

/-!
# Blanks between arguments

The arguments of a call are trimmed after they have been cut apart, and blanks neither cut nor join
them.  So blanks can be put in at every gap between arguments, which is at either end of their text
and on either side of a comma between two of them, and the arguments still have the same shapes
(`map_trim_splitArguments_gap`).  What is lost is the call itself if there is a line feed among the
blanks: the text of a call has none between its parentheses.  That is the only exception
(`ignoresBlanks_iff`).
-/

namespace Worksheet

/-! ## Cutting at gaps -/

namespace Scan

variable {s : Scan} {u v w : List Char}

theorem isPlain_of_isBlank {c : Char} (h : Text.isBlank c = true) : IsPlain c ∧ c ≠ ',' := by
  refine ⟨⟨?_, ?_, ?_⟩, ?_⟩ <;> rintro rfl <;> exact absurd h (by decide)

theorem after_blanks (s : Scan) (hw : ∀ c ∈ w, Text.isBlank c = true) : s.after w = s :=
  after_of_isPlain s fun c hc => (isPlain_of_isBlank (hw c hc)).1

theorem hides_comma_blanks (hw : ∀ c ∈ w, Text.isBlank c = true) : Hides (· = ',') s w :=
  hides_of_isPlain (fun c hc => (isPlain_of_isBlank (hw c hc)).1)
    fun c hc _ => (isPlain_of_isBlank (hw c hc)).2

theorem map_trim_pieces_blanks_append (s : Scan) (hw : ∀ c ∈ w, Text.isBlank c = true)
    (v : List Char) : (s.pieces (w ++ v)).map Text.trim = (s.pieces v).map Text.trim := by
  obtain ⟨piece, more, hv⟩ := exists_pieces_eq_cons s v
  have htrim := Text.trim_padded (q := []) piece hw (by simp)
  rw [List.append_nil] at htrim
  rw [pieces_append (hides_comma_blanks hw) (by rw [after_blanks s hw, hv]), hv, List.map_cons,
    List.map_cons, htrim]

theorem exists_pieces_append_blanks (hw : ∀ c ∈ w, Text.isBlank c = true) :
    ∀ (u : List Char) (s : Scan), ∃ front last,
      s.pieces u = front ++ [last] ∧ s.pieces (u ++ w) = front ++ [last ++ w]
  | [], s => ⟨[], [], rfl, pieces_eq_singleton (hides_comma_blanks hw)⟩
  -- only a comma at the top level begins a new piece, all else goes to the first one
  | c :: u, s => by
    by_cases hcut : c = ',' ∧ s.atTop = true
    · obtain ⟨rfl, htop⟩ := hcut
      obtain ⟨front, last, hu, huw⟩ := exists_pieces_append_blanks hw u s
      refine ⟨[] :: front, last, ?_, ?_⟩
      · rw [pieces_cons_comma htop, hu, List.cons_append]
      · rw [List.cons_append, pieces_cons_comma htop, huw, List.cons_append]
    · have hcut' : c = ',' → s.atTop = false := by simpa using hcut
      obtain ⟨front, last, hu, huw⟩ := exists_pieces_append_blanks hw u (s.next c)
      cases front with
      | nil => exact ⟨[], c :: last, pieces_cons hcut' hu, pieces_cons hcut' huw⟩
      | cons piece front =>
        exact ⟨(c :: piece) :: front, last, pieces_cons hcut' hu, pieces_cons hcut' huw⟩

theorem map_trim_pieces_append_blanks (s : Scan) (hw : ∀ c ∈ w, Text.isBlank c = true)
    (u : List Char) : (s.pieces (u ++ w)).map Text.trim = (s.pieces u).map Text.trim := by
  obtain ⟨front, last, hu, huw⟩ := exists_pieces_append_blanks hw u s
  have htrim := Text.trim_padded (p := []) last (by simp) hw
  rw [List.nil_append] at htrim
  rw [hu, huw, List.map_append, List.map_append, List.map_singleton, List.map_singleton, htrim]

end Scan

/-- Whether there is a gap between arguments, or before the first or behind the last of them, where
`u` stands before it and `v` behind. -/
inductive IsGap : List Char → List Char → Prop
  | first (v : List Char) : IsGap [] v
  | last (u : List Char) : IsGap u []
  | beforeComma {u : List Char} (h : (Scan.start.after u).atTop = true) (v : List Char) :
      IsGap u (',' :: v)
  | afterComma {u : List Char} (h : (Scan.start.after u).atTop = true) (v : List Char) :
      IsGap (u ++ [',']) v

/-- Blanks in a gap make no difference to the arguments once they are trimmed. -/
theorem map_trim_splitArguments_gap {u v w : List Char} (h : IsGap u v)
    (hw : ∀ c ∈ w, Text.isBlank c = true) :
    (splitArguments (u ++ w ++ v)).map Text.trim = (splitArguments (u ++ v)).map Text.trim := by
  have hblank : Text.allBlank (u ++ w ++ v) = Text.allBlank (u ++ v) := by
    have hall : w.all Text.isBlank = true := List.all_eq_true.2 hw
    simp [Text.allBlank, hall]
  have hpieces : (Scan.start.pieces (u ++ w ++ v)).map Text.trim
      = (Scan.start.pieces (u ++ v)).map Text.trim := by
    cases h with
    | first => exact Scan.map_trim_pieces_blanks_append _ hw v
    | last => simpa using Scan.map_trim_pieces_append_blanks _ hw u
    | beforeComma htop v =>
      have hafter : Scan.start.after (u ++ w) = Scan.start.after u := by
        rw [Scan.after_append, Scan.after_blanks _ hw]
      rw [Scan.pieces_append_comma (hafter ▸ htop), Scan.pieces_append_comma htop, hafter,
        List.map_append, List.map_append, Scan.map_trim_pieces_append_blanks _ hw u]
    | @afterComma u htop =>
      rw [List.append_assoc, List.append_assoc, List.append_assoc, List.singleton_append,
        List.singleton_append, Scan.pieces_append_comma htop, Scan.pieces_append_comma htop,
        List.map_append, List.map_append, Scan.map_trim_pieces_blanks_append _ hw v]
  rw [splitArguments, splitArguments, hblank]
  split_ifs
  · rfl
  · exact hpieces

/-! ## Reading calls with gaps -/

namespace Shape

theorem ofArgument_congr {arg arg' : List Char} (h : Text.trim arg = Text.trim arg') :
    ofArgument arg = ofArgument arg' := by
  simp only [ofArgument, h]

theorem build_call_congr {args args' : List (List Char)} (f : Builtin) (limit : Nat)
    (h : args.map Text.trim = args'.map Text.trim) :
    (call f args).build limit = (call f args').build limit := by
  have hshapes : args.map ofArgument = args'.map ofArgument := by
    have hself : ∀ arg, ofArgument (Text.trim arg) = ofArgument arg := fun arg =>
      ofArgument_congr (Text.isTrimmed_trim arg).trim_eq
    have hmap := congrArg (List.map ofArgument) h
    simpa only [List.map_map, Function.comp_def, hself] using hmap
  cases limit with
  | zero => rfl
  | succ room =>
    have hbuild : ∀ l : List (List Char), l.mapM (fun arg => build room (ofArgument arg))
        = (l.map ofArgument).mapM (build room) := fun l => (List.mapM_map ..).symm
    rw [build, build, hbuild, hbuild, hshapes]

end Shape

/-- A formula that calls a function, taken apart at a place in the text of its arguments. -/
structure CallParts where
  lead : List Char
  name : List Char
  before : List Char
  after : List Char
  trail : List Char

namespace CallParts

/-- The formula with a text put in at the place. -/
def textWith (p : CallParts) (w : List Char) : String :=
  String.ofList
    ('=' :: (p.lead ++ (p.name ++ '(' :: (p.before ++ w ++ p.after ++ [')'])) ++ p.trail))

/-- Whether the formula is the call of a function that exists, with nothing but blanks around it. -/
structure IsCall (p : CallParts) : Prop where
  blank_lead : ∀ c ∈ p.lead, Text.isBlank c = true
  blank_trail : ∀ c ∈ p.trail, Text.isBlank c = true
  isBuiltin : ∃ f, Builtin.ofName? p.name = some f
  no_lineFeed : '\n' ∉ p.before ++ p.after

variable {p : CallParts} {w : List Char} {limit : Nat}

theorem body?_textWith (hp : p.IsCall) (w : List Char) : Formula.body? (p.textWith w)
    = some (p.name ++ '(' :: (p.before ++ w ++ p.after ++ [')'])) := by
  obtain ⟨f, hf⟩ := hp.isBuiltin
  obtain ⟨hne, halpha⟩ := Builtin.isAlpha_of_map_toUpper (Builtin.map_toUpper_of_ofName? hf)
  have hname : Text.IsTrimmed p.name :=
    Text.isTrimmed_of_forall fun c hc => IsWordChar.not_isBlank (.inl (halpha c hc))
  have hclosing : Text.IsTrimmed [')'] := Text.isTrimmed_singleton rfl
  have hbody := hname.append hclosing hne (List.cons_ne_nil _ _) ('(' :: (p.before ++ w ++ p.after))
  exact Formula.body?_eq_some_iff.2
    ⟨_, String.toList_ofList, hbody.trim_padded hp.blank_lead hp.blank_trail⟩

theorem ofBody?_textWith {f : Builtin} (hp : p.IsCall) (hf : Builtin.ofName? p.name = some f)
    (hw : '\n' ∉ w) : Shape.ofBody? (p.name ++ '(' :: (p.before ++ w ++ p.after ++ [')']))
      = some (.call f (splitArguments (p.before ++ w ++ p.after))) := by
  obtain ⟨hne, halpha⟩ := Builtin.isAlpha_of_map_toUpper (Builtin.map_toUpper_of_ofName? hf)
  have hlf : '\n' ∉ p.before ++ w ++ p.after := by
    have hparts := hp.no_lineFeed
    simp only [List.mem_append, not_or] at hparts ⊢
    exact ⟨⟨hparts.1, hw⟩, hparts.2⟩
  rw [Shape.ofBody?_call (call?_eq_some_iff.2 ⟨rfl, hne, halpha, hlf⟩), hf]
  rfl

/-- A line feed between the parentheses makes the formula a text. -/
theorem parse_textWith_of_lineFeed (hp : p.IsCall) (hw : '\n' ∈ w) (limit : Nat) :
    Formula.parse limit (p.textWith w) = .ok .unrecognized := by
  obtain ⟨f, hf⟩ := hp.isBuiltin
  obtain ⟨-, halpha⟩ := Builtin.isAlpha_of_map_toUpper (Builtin.map_toUpper_of_ofName? hf)
  have hcall : call? (p.name ++ '(' :: (p.before ++ w ++ p.after ++ [')'])) = none := by
    rw [Option.eq_none_iff_forall_ne_some]
    rintro ⟨name, inner⟩ h
    obtain ⟨heq, -, halpha', hlf⟩ := call?_eq_some_iff.1 h
    rw [← inner_eq_of_call_eq halpha halpha' heq] at hlf
    exact hlf (by simp [hw])
  rw [Formula.parse_of_body? (body?_textWith hp w), Shape.ofBody?_of_no_call hcall,
    Address.reference?_call]
  rfl

theorem parse_textWith_gap (hp : p.IsCall) (hgap : IsGap p.before p.after)
    (hw : ∀ c ∈ w, Text.isBlank c = true) (hlf : '\n' ∉ w) (limit : Nat) :
    Formula.parse limit (p.textWith w) = Formula.parse limit (p.textWith []) := by
  obtain ⟨f, hf⟩ := hp.isBuiltin
  have hargs := map_trim_splitArguments_gap hgap hw
  have hplain := ofBody?_textWith hp hf (List.not_mem_nil (a := '\n'))
  rw [List.append_nil] at hplain
  rw [Formula.parse_of_body? (body?_textWith hp w), Formula.parse_of_body? (body?_textWith hp []),
    ofBody?_textWith hp hf hlf, List.append_nil, hplain]
  simp only [Shape.build_call_congr f limit hargs]

end CallParts

/-- Whether a formula is read as a call, or would be if it were not nested too deeply. -/
def ReadsAsCall (limit : Nat) (text : String) : Prop :=
  (∃ f args, Formula.parse limit text = .ok (.expression (.call f args)))
    ∨ Formula.parse limit text = .error (.nestingTooDeep limit)

theorem exists_of_readsAsCall {limit : Nat} {text : String} (h : ReadsAsCall limit text) :
    ∃ name inner f, Formula.body? text = some (name ++ '(' :: (inner ++ [')']))
      ∧ Builtin.ofName? name = some f ∧ '\n' ∉ inner := by
  rcases h with ⟨f, args, h⟩ | h
  · obtain ⟨name, inner, f, hbody, -, -, hname, hlf⟩ := call_of_parse h
    exact ⟨name, inner, f, hbody, hname, hlf⟩
  · rcases hbody : Formula.body? text with _ | body
    · rw [Formula.parse_of_body?_eq_none hbody] at h
      cases h
    rw [Formula.parse_of_body? hbody] at h
    rcases hcall : call? body with _ | ⟨name, inner⟩
    · -- a reference is built at any limit
      rw [Shape.ofBody?_of_no_call hcall] at h
      rcases href : Address.reference? body with _ | a <;> rw [href] at h <;>
        simp [Shape.build] at h
    · obtain ⟨rfl, -, -, hlf⟩ := call?_eq_some_iff.1 hcall
      rcases hname : Builtin.ofName? name with _ | f
      · rw [Shape.ofBody?_call hcall, hname] at h
        cases h
      · exact ⟨name, inner, f, rfl, hname, hlf⟩

theorem readsAsCall_iff {limit : Nat} {text : String} :
    ReadsAsCall limit text ↔ ∃ p : CallParts, p.IsCall ∧ p.textWith [] = text := by
  constructor
  · intro h
    obtain ⟨name, inner, f, hbody, hname, hlf⟩ := exists_of_readsAsCall h
    obtain ⟨rest, htext, hrest⟩ := Formula.body?_eq_some_iff.1 hbody
    obtain ⟨lead, trail, hlead, htrail, hpadded⟩ := Text.exists_trim rest
    refine ⟨⟨lead, name, inner, [], trail⟩, ⟨hlead, htrail, ⟨f, hname⟩, by simpa using hlf⟩, ?_⟩
    rw [CallParts.textWith, ← String.toList_inj, String.toList_ofList, htext, ← hpadded, hrest]
    simp
  · rintro ⟨p, hp, rfl⟩
    obtain ⟨f, hf⟩ := hp.isBuiltin
    have hbody := CallParts.body?_textWith hp []
    rw [List.append_nil] at hbody
    have hread : (∃ args, Formula.parse limit (p.textWith []) = .ok (.expression (.call f args)))
        ∨ Formula.parse limit (p.textWith []) = .error (.nestingTooDeep limit) :=
      parse_call hbody hf hp.no_lineFeed
    exact hread.imp_left fun ⟨args, h⟩ => ⟨f, args, h⟩

/-- What it is for a text put in between arguments not to matter. -/
structure IgnoresBlanks (limit : Nat) (p : CallParts) (w : List Char) : Prop where
  parse_eq : Formula.parse limit (p.textWith w) = Formula.parse limit (p.textWith [])
  evaluate_eq : ∀ t now,
    evaluate t limit now (p.textWith w) = evaluate t limit now (p.textWith [])

theorem evaluate_eq_of_parse_eq {limit : Nat} {text text' : String} (h : ReadsAsCall limit text)
    (hparse : Formula.parse limit text' = Formula.parse limit text) (t : Table) (now : Moment) :
    evaluate t limit now text' = evaluate t limit now text := by
  rcases h with ⟨f, args, h⟩ | h <;> rw [h] at hparse <;> simp only [evaluate, h, hparse]

/-- The formulas that are read as calls are those that can be taken apart as a call, and blanks in a
gap between the arguments of such a formula do not matter exactly if there is no line feed among
them.  With one the formula is a text. -/
theorem ignoresBlanks_iff (limit : Nat) :
    (∀ text, ReadsAsCall limit text ↔ ∃ p : CallParts, p.IsCall ∧ p.textWith [] = text)
    ∧ ∀ (p : CallParts) (w : List Char), p.IsCall → IsGap p.before p.after →
        (∀ c ∈ w, Text.isBlank c = true) →
      (IgnoresBlanks limit p w ↔ '\n' ∉ w)
      ∧ ('\n' ∈ w → Formula.parse limit (p.textWith w) = .ok .unrecognized
        ∧ ∀ t now, evaluate t limit now (p.textWith w) = .unrecognized (p.textWith w)) := by
  refine ⟨fun text => readsAsCall_iff, fun p w hp hgap hw => ?_⟩
  have hcall : ReadsAsCall limit (p.textWith []) := readsAsCall_iff.2 ⟨p, hp, rfl⟩
  refine ⟨⟨fun h hlf => ?_, fun hlf => ?_⟩, fun hlf => ?_⟩
  · have hparse := h.parse_eq
    rw [CallParts.parse_textWith_of_lineFeed hp hlf limit] at hparse
    rcases hcall with ⟨f, args, h⟩ | h <;> rw [h] at hparse <;> cases hparse
  · have hparse := CallParts.parse_textWith_gap hp hgap hw hlf limit
    exact ⟨hparse, evaluate_eq_of_parse_eq hcall hparse⟩
  · have hparse := CallParts.parse_textWith_of_lineFeed hp hlf limit
    exact ⟨hparse, fun t now => by rw [evaluate, hparse]⟩

/-- The sum of one and two, taken apart behind the comma. -/
def oneAndTwo : CallParts :=
  ⟨[], ['S', 'U', 'M'], ['1', ','], ['2'], []⟩

theorem oneAndTwo_ignoresBlanks :
    oneAndTwo.IsCall ∧ IsGap oneAndTwo.before oneAndTwo.after
      ∧ (∀ c ∈ ['\t', '\r', '\u2003'], Text.isBlank c = true)
      ∧ IgnoresBlanks 64 oneAndTwo ['\t', '\r', '\u2003'] := by
  have hcall : oneAndTwo.IsCall :=
    ⟨List.forall_mem_nil _, List.forall_mem_nil _, ⟨.sum, rfl⟩, by decide⟩
  have hgap : IsGap oneAndTwo.before oneAndTwo.after := .afterComma (u := ['1']) rfl ['2']
  have hblank : ∀ c ∈ ['\t', '\r', '\u2003'], Text.isBlank c = true :=
    List.all_eq_true.1 rfl
  exact ⟨hcall, hgap, hblank, ((ignoresBlanks_iff 64).2 _ _ hcall hgap hblank).1.2 (by decide)⟩

/-- With a line feed behind the comma, the sum of one and two is a text. -/
theorem not_oneAndTwo_ignoresBlanks :
    ¬ IgnoresBlanks 64 oneAndTwo ['\n']
      ∧ evaluate .empty 64 (.midnight .epoch) "=SUM(1,\n2)" = .unrecognized "=SUM(1,\n2)"
      ∧ evaluate .empty 64 (.midnight .epoch) "=SUM(1,2)" = .computed (.number 3.0) := by
  have hspaced : evaluate .empty 64 (.midnight .epoch) "=SUM(1,\n2)"
      = .unrecognized "=SUM(1,\n2)" := rfl
  have hplain : evaluate .empty 64 (.midnight .epoch) "=SUM(1,2)" = .computed (.number 3.0) := rfl
  refine ⟨fun h => ?_, hspaced, hplain⟩
  have heq := h.evaluate_eq .empty (.midnight .epoch)
  have htexts : oneAndTwo.textWith ['\n'] = "=SUM(1,\n2)" ∧ oneAndTwo.textWith [] = "=SUM(1,2)" :=
    ⟨rfl, rfl⟩
  rw [htexts.1, htexts.2, hspaced, hplain] at heq
  cases heq

end Worksheet
