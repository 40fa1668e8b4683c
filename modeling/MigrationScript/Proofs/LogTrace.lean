import MigrationScript.Proofs.Continuation
import MigrationScript.Proofs.EventLines
import MigrationScript.Proofs.SteadyNames

/-!
What a script's work leaves where every event is shown. A script that is made leaves a line if its
dialect has no rules of its own, a line for every statement and one for all of them; when its
statements are performed, each call follows a line of its own, which carries nothing of the context
in which the script was made. Main statement: this holds of every source, under all settings but
those for a dialect whose name is white space alone.
-/
namespace MigrationScript

open Loggers (Logs)

theorem Outcome.andThen_ok {α β : Type} (acts : List Loggers.Act) (a : α) (f : α → Outcome β) :
    (⟨acts, .ok a⟩ : Outcome α).andThen f = ⟨acts ++ (f a).acts, (f a).result⟩ :=
  rfl

namespace Script

/-- The line that tells of a name without rules of its own. -/
def fallbackLines (context : Fields) (name : Text) : List (Text → Text) :=
  if Dialect.ofName? name = none then
    [eventLine "dialects" "dialects.fallback" context
      [("dialect".toList, .text name), ("builder".toList, .text "SQLStatementBuilder".toList)]]
  else
    []

def foundLine (context : Fields) (f : Found) : Text → Text :=
  eventLine "core.splitter" "splitter.statement.found" context
    [("line_number".toList, .int f.statement.line), ("sql".toList, .text f.statement.sql),
     ("terminated".toList, .bool f.terminated)]

def parsedLine (context : Fields) (lines statements : Nat) : Text → Text :=
  eventLine "script" "script.parsed" context
    [("lines".toList, .int lines), ("statements".toList, .int statements)]

def performLine (context : Fields) (x : Statement) : Text → Text :=
  eventLine "script" "script.statement.execute" context [("line_number".toList, .int x.line)]

/-- What the making of a script under some settings comes to, and all that it writes. The fallback
that the lines tell of is that of a name; all lines carry a context. -/
structure LogsMaking (s : Loggers) (settings : Settings) (name : Text) (context : Fields)
    (source : Source) (o : Outcome Script) : Prop where
  unread : ∀ e, source.read = .error e →
    o.result = .error e ∧ Logs s o.acts (fallbackLines context name)
  unfilled : ∀ lines e, source.read = .ok lines →
    Placeholders.fillLines settings.filling lines = .error e →
    o.result = .error e ∧ Logs s o.acts (fallbackLines context name)
  made : ∀ lines filled, source.read = .ok lines →
    Placeholders.fillLines settings.filling lines = .ok filled →
    let cutting : Cutting := ⟨(Dialect.ofName? settings.dialect).getD .generic, settings.strip⟩
    let found := cutting.find filled
    o.result = .ok ⟨cutting, found.map Found.statement⟩ ∧
      (∀ f ∈ found.dropLast, f.terminated = true) ∧
      Logs s o.acts (fallbackLines context name ++
        (found.map (foundLine context) ++ [parsedLine context filled.length found.length]))

/-- Calls that all succeed lead from one state to another. -/
inductive Succeeds {σ ε : Type} (run : σ → Text → σ × Option ε) : σ → List Statement → σ → Prop
  | none (x : σ) : Succeeds run x [] x
  | first {x y z : σ} {s : Statement} {rest : List Statement} (call : run x s.sql = (y, .none))
      (others : Succeeds run y rest z) : Succeeds run x (s :: rest) z

/-- What is seen of deeds from outside: what they write, or the calls that they are. -/
def seen (s : Loggers) : List Deed → List (Output ⊕ Text)
  | [] => []
  | .logged a :: deeds => .inl (s.output a) :: seen (s.step a).1 deeds
  | .called sql :: deeds => .inr sql :: seen s deeds

/-- For each statement a line, and then the call that it tells of. The lines have the times that are
read off the clock from the `n`-th reading on. -/
def told (times : Nat → Text) (context : Fields) : Nat → List Statement → List (Output ⊕ Text)
  | _, [] => []
  | n, x :: rest =>
    .inl { lines := [performLine context x (times n)] } :: .inr x.sql ::
      told times context (n + 1) rest

/-- What is seen while statements are performed: each call behind its line, up to the end or to the
call that fails. -/
structure LogsPerforming {σ ε : Type} (s : Loggers) (context : Fields)
    (run : σ → Text → σ × Option ε) (state : σ) (statements : List Statement) : Prop where
  completed : ∀ last, (performing run state statements).1 = (last, none) →
    Succeeds run state statements last ∧
      seen s (performing run state statements).2 = told s.times context s.made statements
  failed : ∀ last e, (performing run state statements).1 = (last, some e) →
    ∃ before x after state', statements = before ++ x :: after ∧
      Succeeds run state before state' ∧ run state' x.sql = (last, some e) ∧
      seen s (performing run state statements).2 =
        told s.times context s.made (before ++ [x])

section performing

variable {σ ε : Type} {run : σ → Text → σ × Option ε} {state next : σ} {x : Statement}

theorem performing_succeeded (h : run state x.sql = (next, none)) (rest : List Statement) :
    performing run state (x :: rest) = ((performing run next rest).1,
      .logged (performEvent x) :: .called x.sql :: (performing run next rest).2) := by
  rw [performing, h]
  rfl

theorem performing_failed {e : ε} (h : run state x.sql = (next, some e)) (rest : List Statement) :
    performing run state (x :: rest) =
      ((next, some e), [.logged (performEvent x), .called x.sql]) := by
  rw [performing, h]

/-- The event of a statement is seen as its line, and what is seen behind it is seen in the same
context and with the times that follow. -/
theorem seen_told {s : Loggers} (h : s.Follows (some .all)) (x : Statement) (deeds : List Deed) :
    ∃ s' : Loggers, s'.Follows (some .all) ∧ s'.context = s.context ∧ s'.times = s.times ∧
      s'.made = s.made + 1 ∧
      seen s (.logged (performEvent x) :: .called x.sql :: deeds) =
        .inl { lines := [performLine s.context x (s.times s.made)] } :: .inr x.sql ::
          seen s' deeds := by
  have hpart : "script" ∈ Loggers.parts := by decide
  have hevent := Logs.event h hpart "script.statement.execute" [("line_number".toList, .int x.line)]
  have houtput : s.output (performEvent x) =
      { lines := [performLine s.context x (s.times s.made)] } :=
    Loggers.snd_log_event h hpart _ _
  refine ⟨_, hevent.follows, hevent.context, hevent.times, hevent.made, ?_⟩
  rw [seen, houtput]
  rfl

theorem logsPerforming {s : Loggers} {context : Fields} (h : s.Follows (some .all))
    (hcontext : s.context = context) (run : σ → Text → σ × Option ε) (state : σ)
    (statements : List Statement) : LogsPerforming s context run state statements := by
  induction statements generalizing s state with
  | nil =>
    constructor
    · intro last h
      obtain rfl : state = last := (Prod.mk.inj h).1
      exact ⟨.none state, rfl⟩
    · intro last e h
      cases (Prod.mk.inj h).2
  | cons x rest ih =>
    subst hcontext
    rcases hcall : run state x.sql with ⟨next, _ | e⟩
    · obtain ⟨s', hfollows, hcontext, htimes, hmade, hseen⟩ :=
        seen_told h x (performing run next rest).2
      obtain ⟨completed, failed⟩ := ih hfollows hcontext next
      rw [htimes, hmade] at completed failed
      constructor
      · intro last hlast
        rw [performing_succeeded hcall] at hlast ⊢
        obtain ⟨hall, hrest⟩ := completed last hlast
        exact ⟨.first hcall hall, by rw [hseen, hrest, told]⟩
      · intro last e hlast
        rw [performing_succeeded hcall] at hlast ⊢
        obtain ⟨before, y, after, mid, rfl, hall, hfail, hrest⟩ := failed last e hlast
        refine ⟨x :: before, y, after, mid, rfl, .first hcall hall, hfail, ?_⟩
        rw [hseen, hrest, List.cons_append, told]
    · constructor
      · intro last hlast
        rw [performing_failed hcall] at hlast
        cases (Prod.mk.inj hlast).2
      · intro last e' hlast
        rw [performing_failed hcall] at hlast ⊢
        refine ⟨[], x, rest, state, rfl, .none state, hcall.trans hlast, ?_⟩
        obtain ⟨s', -, -, -, -, hseen⟩ := seen_told h x []
        rw [hseen]
        rfl

end performing

section making

variable {r : Dialect.Registry} {s : Loggers} {settings : Settings} {name : Text}

/-- A name that is looked up leads to rules, and that it has none of its own is written. -/
theorem logs_findRules {asked : Option Text} (h : Dialect.resolve r asked = .ok name)
    (hs : s.Follows (some .all)) :
    ∃ acts, findRules r asked = ⟨acts, .ok ((Dialect.ofName? name).getD .generic)⟩ ∧
      Logs s acts (fallbackLines s.context name) := by
  refine ⟨if (Dialect.ofName? name).isNone then [fallbackEvent name] else [], ?_, ?_⟩
  · rw [findRules, Rules.find, h]
    rfl
  · unfold fallbackLines
    cases Dialect.ofName? name with
    | none => exact .event hs (by decide) _ _
    | some d => exact .nil hs

theorem logs_parsed (hs : s.Follows (some .all)) (found : List Found) (lines statements : Nat) :
    Logs s (found.map foundEvent ++ [parsedEvent lines statements])
      (found.map (foundLine s.context) ++ [parsedLine s.context lines statements]) := by
  induction found generalizing s with
  | nil => exact .event hs (by decide) _ _
  | cons f found ih =>
    have hfirst : Logs s [foundEvent f] [foundLine s.context f] := .event hs (by decide) _ _
    have hrest := ih hfirst.follows
    rw [hfirst.context] at hrest
    exact hfirst.append hrest

theorem ofSource_eq (cutting : Cutting) (filling : Option Placeholders) (source : Source) :
    ofSource cutting filling source = ⟨(parse cutting filling source).acts,
      (parse cutting filling source).result.map fun statements => ⟨cutting, statements⟩⟩ := by
  unfold ofSource
  rcases parse cutting filling source with ⟨acts, e | statements⟩
  · rfl
  · simp [Outcome.andThen, Outcome.ofExcept, Except.map]

variable {source : Source} {context : Fields} {o : Outcome Script}

/-- What is worked on in a context of its own is told in that context. -/
theorem LogsMaking.within {fields : Fields}
    (h : LogsMaking (s.enter fields) settings name context source o) :
    LogsMaking s settings name context source (.within fields o) where
  unread := by
    intro e hread
    obtain ⟨hresult, hlogs⟩ := h.unread e hread
    exact ⟨hresult, hlogs.block⟩
  unfilled := by
    intro lines e hread hfill
    obtain ⟨hresult, hlogs⟩ := h.unfilled lines e hread hfill
    exact ⟨hresult, hlogs.block⟩
  made := by
    intro lines filled hread hfill
    obtain ⟨hresult, hended, hlogs⟩ := h.made lines filled hread hfill
    exact ⟨hresult, hended, hlogs.block⟩

/-- The making of a script tells of the name that its dialect's name leads to. -/
theorem logsMaking (hname : Dialect.resolve r (some settings.dialect) = .ok settings.usedName)
    (hs : s.Follows (some .all)) (source : Source) :
    LogsMaking s settings settings.usedName
      (Fields.put "dialect".toList (.text settings.dialect) s.context) source
      (ofSettings r settings source) := by
  apply LogsMaking.within
  have hinside : (s.enter [("dialect".toList, .text settings.dialect)]).Follows (some .all) :=
    hs.step (.enter _)
  obtain ⟨acts, hrules, hfallback⟩ := logs_findRules hname hinside
  have hbare := hfallback
  rw [← List.append_nil acts] at hbare
  rw [hrules, Settings.ofName?_usedName, Outcome.andThen_ok, ofSource_eq, parse]
  constructor
  · intro e hread
    rw [hread]
    exact ⟨rfl, hbare⟩
  · intro lines e hread hfill
    rw [hread, Except.bind, hfill]
    exact ⟨rfl, hbare⟩
  · intro lines filled hread hfill cutting found
    rw [hread, Except.bind, hfill]
    refine ⟨rfl, fun f hf => cutting.terminated_of_mem_dropLast filled hf, ?_⟩
    have hparsed := logs_parsed hfallback.follows found filled.length found.length
    rw [hfallback.context] at hparsed
    exact hfallback.append hparsed

/-- What the making of a script writes of its lines and statements, if they can be had. -/
def sourceLines (settings : Settings) (context : Fields) (source : Source) :
    List (Text → Text) :=
  match source.read.bind (Placeholders.fillLines settings.filling) with
  | .error _ => []
  | .ok filled =>
    let dialect := (Dialect.ofName? settings.dialect).getD .generic
    let found := Cutting.find ⟨dialect, settings.strip⟩ filled
    found.map (foundLine context) ++ [parsedLine context filled.length found.length]

theorem LogsMaking.logs (h : LogsMaking s settings name context source o) :
    Logs s o.acts (fallbackLines context name ++ sourceLines settings context source) := by
  unfold sourceLines
  cases hread : source.read with
  | error e =>
    rw [Except.bind, List.append_nil]
    exact (h.unread e hread).2
  | ok lines =>
    cases hfill : Placeholders.fillLines settings.filling lines with
    | error e =>
      rw [Except.bind, hfill, List.append_nil]
      exact (h.unfilled lines e hread hfill).2
    | ok filled =>
      rw [Except.bind, hfill]
      exact (h.made lines filled hread hfill).2.2

/-- How much is written tells whether a name without rules of its own is told of. -/
theorem LogsMaking.length_fallbackLines {other : Text}
    (h : LogsMaking s settings name context source o)
    (hother : LogsMaking s settings other context source o) :
    (fallbackLines context name).length = (fallbackLines context other).length := by
  have hmade := h.logs.made.symm.trans hother.logs.made
  rw [List.length_append, List.length_append] at hmade
  omega

/-- Whatever a making comes to that tells of the name which is looked up, it tells of the name that
the settings hold unless that one is empty: the empty name has no rules of its own, but it is the
generic one that is looked up for it. -/
theorem LogsMaking.held_iff (h : LogsMaking s settings settings.usedName context source o) :
    LogsMaking s settings settings.dialect context source o ↔ settings.dialect ≠ [] := by
  unfold Settings.usedName at h
  constructor
  · intro hheld hempty
    rw [if_pos hempty] at h
    rw [hempty] at hheld
    have hlength : 0 = 1 := h.length_fallbackLines hheld
    contradiction
  · intro hne
    rwa [if_neg hne] at h

end making

end Script

open Script

variable {r : Dialect.Registry} {w : Wishes} {settings : Settings} {s : Loggers}
  {times : Nat → Text} {acts : List Loggers.Act}

/-- All that is written about a script whose dialect was asked for by some name. -/
structure LogsItsWork (s : Loggers) (asked : Option Text) (settings : Settings) (context : Fields)
    (source : Source) (o : Outcome Script) : Prop where
  /-- Its making tells of the dialect by whose rules it is cut. -/
  used : LogsMaking s settings settings.usedName context source o
  /-- That is the dialect which the settings hold, unless white space alone was asked for. -/
  held : LogsMaking s settings settings.dialect context source o ↔ ¬ Dialect.IsBlankName asked
  /-- When statements are performed thereafter, nothing is left of the context of the making. -/
  performing : ∀ {σ ε : Type} (run : σ → Text → σ × Option ε) (state : σ)
    (statements : List Statement), LogsPerforming (s.run o.acts) s.context run state statements

/-- Where every event is shown, structured, all that is written about a script is known: about one
from any source, in the context of its dialect, and about one from a file that opens, in the context
of the file, too. -/
theorem logsItsWork (hs : s = (Loggers.fresh times).run acts)
    (hlast : Loggers.lastSetting? acts = some .all) (hmake : Settings.make r w = .ok settings) :
    (∀ source, LogsItsWork s w.dialect settings
      (Fields.put "dialect".toList (.text settings.dialect) s.context) source
      (ofSettings r settings source)) ∧
    ∀ folder path source, openFile folder (Path.normal path) settings.encoding = .ok source →
      LogsItsWork s w.dialect settings
        (Fields.put "dialect".toList (.text settings.dialect)
          (Fields.put "script".toList (.text (Path.normal path)) s.context)) source
        (ofFile r folder path settings) := by
  have hall : s.Follows (some .all) := by
    rw [hs, ← hlast]
    exact Loggers.follows_fresh times acts
  have hname := Settings.resolve_dialect hmake
  have hheld : settings.dialect ≠ [] ↔ ¬ Dialect.IsBlankName w.dialect :=
    not_congr (Dialect.resolved_eq_nil_iff (Settings.dialect_of_make hmake))
  have hwork : ∀ {context source o}, LogsMaking s settings settings.usedName context source o →
      LogsItsWork s w.dialect settings context source o := by
    intro context source o hmaking
    have hlogs := hmaking.logs
    exact ⟨hmaking, hmaking.held_iff.trans hheld, logsPerforming hlogs.follows hlogs.context⟩
  constructor
  · exact fun source => hwork (logsMaking hname hall source)
  · intro folder path source hopen
    have hfile : ofFile r folder path settings =
        .within [("script".toList, .text (Path.normal path))] (ofSettings r settings source) := by
      rw [ofFile, hopen]
      rfl
    rw [hfile]
    exact hwork (LogsMaking.within (logsMaking hname (hall.step (.enter _)) source))

/-- Two statements of a file for a dialect without rules of its own, the last left open, in a block
of somebody else: what their making writes, and what is seen of performing them in the same block
when the second call fails. -/
theorem logsItsWork_duckdb :
    let settings : Settings := ⟨"duckdb".toList, {}, false, false, "utf8".toList⟩
    let acts : List Loggers.Act :=
      [.configure "debug".toList "structured".toList [], .enter [("run".toList, .int 7)]]
    let s := (Loggers.fresh Text.ofNat).run acts
    let line (time part event more : String) : Text :=
      "\x7b\"timestamp\":\"".toList ++ time.toList ++
        "\",\"level\":\"DEBUG\",\"logger\":\"sqlscript.".toList ++ part.toList ++
        "\",\"event\":\"".toList ++ event.toList ++ "\",\"run\":7".toList ++ more.toList ++ ['\x7d']
    let there := ",\"script\":\"a/b\",\"dialect\":\"duckdb\""
    let bytes := "SELECT 1;\nSELECT 2".toList.map fun c => c.toNat.toUInt8
    let o := ofFile .standard (Folder.add {} "a/b".toList bytes) "a//b".toList settings
    let statements : List Statement := [⟨1, "SELECT 1;".toList⟩, ⟨2, "SELECT 2".toList⟩]
    let secondFails (n : Nat) (_ : Text) : Nat × Option Unit :=
      (n + 1, if n = 1 then some () else none)
    let w : Wishes :=
      { dialect := some "DuckDB".toList, replacing := false, encoding := "utf8".toList }
    Settings.make .standard w = .ok settings ∧
      Loggers.lastSetting? acts = some .all ∧
      o.result = .ok ⟨⟨.generic, false⟩, statements⟩ ∧
      s.written o.acts = { lines := [
        line "0" "dialects" "dialects.fallback" (there ++ ",\"builder\":\"SQLStatementBuilder\""),
        line "1" "core.splitter" "splitter.statement.found"
          (there ++ ",\"line_number\":1,\"sql\":\"SELECT 1;\",\"terminated\":true"),
        line "2" "core.splitter" "splitter.statement.found"
          (there ++ ",\"line_number\":2,\"sql\":\"SELECT 2\",\"terminated\":false"),
        line "3" "script" "script.parsed" (there ++ ",\"lines\":2,\"statements\":2")] } ∧
      seen (s.run o.acts) (performing secondFails 0 statements).2 = [
        .inl { lines := [line "4" "script" "script.statement.execute" ",\"line_number\":1"] },
        .inr "SELECT 1;".toList,
        .inl { lines := [line "5" "script" "script.statement.execute" ",\"line_number\":2"] },
        .inr "SELECT 2".toList] := by
  intro settings acts s line there bytes o statements secondFails w
  have hmake : Settings.make .standard w = .ok settings := rfl
  have hlast : Loggers.lastSetting? acts = some .all := rfl
  have hname : ¬ Dialect.IsBlankName w.dialect := by
    rintro ⟨t, ht, -, hblank⟩
    obtain rfl := Option.some.inj ht
    exact absurd hblank (by decide)
  have hopen : openFile (Folder.add {} "a/b".toList bytes) (Path.normal "a//b".toList)
      settings.encoding = .ok (.bytes bytes .utf8) := rfl
  have hwork := (logsItsWork (s := s) rfl hlast hmake).2 _ _ _ hopen
  obtain ⟨hresult, -, hlogs⟩ := (hwork.held.mpr hname).made
    ["SELECT 1;".toList, "SELECT 2".toList] _ rfl rfl
  obtain ⟨before, x, after, mid, hsplit, hall, hfail, hseen⟩ :=
    (hwork.performing secondFails 0 statements).failed 2 () rfl
  refine ⟨hmake, hlast, hresult.trans (congrArg Except.ok (by decide +kernel)),
    hlogs.written.trans (by decide +kernel), hseen.trans ?_⟩
  rcases before with _ | ⟨y, _ | ⟨z, before⟩⟩
  · cases hall
    simp [secondFails] at hfail
  · simp only [List.cons_append, List.nil_append, List.cons.injEq, statements] at hsplit
    obtain ⟨rfl, rfl, -⟩ := hsplit
    rw [hlogs.times, hlogs.made]
    decide +kernel
  · have := congrArg List.length hsplit
    simp [statements] at this

/-- For white space alone the settings hold the empty name. It has no rules of its own, but that is
not written. -/
theorem not_logsItsWork_blank :
    let settings : Settings := ⟨[], {}, true, false, "utf-8".toList⟩
    let s := (Loggers.fresh fun _ => ['T']).run
      [.configure "DEBUG".toList "structured".toList []]
    let line (part event more : String) : Text :=
      "\x7b\"timestamp\":\"T\",\"level\":\"DEBUG\",\"logger\":\"sqlscript.".toList ++ part.toList ++
        "\",\"event\":\"".toList ++ event.toList ++ "\",\"dialect\":\"\",".toList ++
        more.toList ++ ['\x7d']
    let source : Source := .text "SELECT 1;".toList
    let o := ofSettings .standard settings source
    Settings.make .standard { dialect := some [' '] } = .ok settings ∧
      Dialect.ofName? settings.dialect = none ∧
      s.written o.acts = { lines := [
        line "core.splitter" "splitter.statement.found"
          "\"line_number\":1,\"sql\":\"SELECT 1;\",\"terminated\":true",
        line "script" "script.parsed" "\"lines\":1,\"statements\":1"] } ∧
      ¬ LogsMaking s settings settings.dialect
        (Fields.put "dialect".toList (.text settings.dialect) s.context) source o := by
  intro settings s line source o
  have hmake : Settings.make .standard { dialect := some [' '] } = .ok settings := rfl
  have hall : s.Follows (some .all) := Loggers.follows_fresh _ _
  have hmaking := logsMaking (Settings.resolve_dialect hmake) hall source
  exact ⟨hmake, rfl, by decide +kernel, fun hheld => hmaking.held_iff.mp hheld rfl⟩

end MigrationScript
