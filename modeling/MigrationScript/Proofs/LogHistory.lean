import MigrationScript.Proofs.ContextBlocks
import MigrationScript.Proofs.JsonText
import MigrationScript.Proofs.Lineage
import MigrationScript.Proofs.Lines
import MigrationScript.Proofs.TextOrder

/-!
What loggers do is told by what was done with them before: by the last configuration that succeeded
and by the contexts that were entered and not left. Main statement: after any acts, logging goes by
these two and by nothing else.
-/
namespace MigrationScript

/-- The logger is as loggers are at first, filters apart. -/
structure Logger.Bare (l : Logger) : Prop where
  level : l.level = 0
  handlers : l.handlers = []
  passesOn : l.passesOn = true

namespace Loggers

/-- What the last configuration that succeeded set. -/
def lastSetting? : List Act → Option Setting
  | [] => none
  | a :: acts => (lastSetting? acts).or a.setting?

/-- The level from which a logger of some name hears anything. -/
def Setting.reach (last : Option Setting) (name : Text) : Int :=
  if isBelowRoot name then (last.map threshold).getD Level.standard else Level.standard

/-- The root is as the last configuration set it, and no other logger was set up. -/
structure Follows (s : Loggers) (last : Option Setting) : Prop where
  others : ∀ n ≠ rootLogger, (s.get n).Bare
  level : (s.get rootLogger).level = (last.map Setting.level).getD 0
  handlers : (s.get rootLogger).handlers = (last.map Setting.handlers).getD []
  passesOn : (s.get rootLogger).passesOn = last.isNone
  known : last.isSome = true → (s.known rootLogger).isSome = true
  /-- What a logger said it would say again, unless two points may hide the root from it. -/
  answers : ∀ n level b, s.answers n level = some b → last = none ∨ PointsApart n →
    b = decide (Setting.reach last n ≤ level)

variable {s : Loggers} {last : Option Setting} {name : Option Text} {n : Text}
  {f : Logger → Logger} {acts : List Act}

theorem follows_nothing (times : Nat → Text) : Follows { times } none :=
  ⟨fun _ _ => ⟨rfl, rfl, rfl⟩, rfl, rfl, rfl, (fun h => nomatch h), fun _ _ _ h => nomatch h⟩

/-- Filters are no part of what was set. -/
theorem Follows.change (h : Follows s last)
    (hf : ∀ l, (f l).level = l.level ∧ (f l).handlers = l.handlers ∧ (f l).passesOn = l.passesOn) :
    Follows (s.change n f) last := by
  have hget : ∀ k, ((s.change n f).get k).level = (s.get k).level ∧
      ((s.change n f).get k).handlers = (s.get k).handlers ∧
      ((s.change n f).get k).passesOn = (s.get k).passesOn := by
    intro k
    rw [get_change]
    split
    next hk => exact hk ▸ hf _
    next => exact ⟨rfl, rfl, rfl⟩
  constructor
  · intro k hk
    obtain ⟨hlevel, hhandlers, hpasses⟩ := hget k
    obtain ⟨hl, hh, hp⟩ := h.others k hk
    exact ⟨hlevel.trans hl, hhandlers.trans hh, hpasses.trans hp⟩
  · exact (hget rootLogger).1.trans h.level
  · exact (hget rootLogger).2.1.trans h.handlers
  · exact (hget rootLogger).2.2.trans h.passesOn
  · exact fun hlast => known_change (h.known hlast)
  · exact h.answers

theorem Follows.ask (h : Follows s last) (name : Option Text) : Follows (s.ask name) last := by
  apply h.change
  intro l
  split
  · rw [Logger.addFilter_eq]
    exact ⟨rfl, rfl, rfl⟩
  · exact ⟨rfl, rfl, rfl⟩

theorem Follows.configured (h : Follows s last) (c : Setting) :
    Follows (s.forget.change rootLogger c.apply) (some c) := by
  have hroot : (s.forget.change rootLogger c.apply).get rootLogger =
      c.apply (s.get rootLogger) := by
    rw [get_change, if_pos rfl]
    rfl
  constructor
  · intro k hk
    rw [get_change, if_neg hk]
    exact h.others k hk
  · rw [hroot]
    rfl
  · rw [hroot]
    rfl
  · rw [hroot]
    rfl
  · exact fun _ => known_change_self
  · exact fun _ _ _ hanswer => nomatch hanswer

/-- The level that holds is the root's, if the root is on the way and has one. -/
theorem Follows.threshold_map (h : Follows s last) (names : List Text) :
    Logger.threshold (names.map s.get) =
      if rootLogger ∈ names then (last.map Setting.threshold).getD Level.standard
      else Level.standard := by
  induction names with
  | nil => rfl
  | cons k names ih =>
    rw [List.map_cons, Logger.threshold, ih]
    by_cases hk : k = rootLogger
    · subst hk
      rw [h.level, if_pos List.mem_cons_self]
      cases last with
      | none => simp
      | some c =>
        by_cases hc : c.level = 0 <;> simp [Setting.threshold, hc]
    · rw [(h.others k hk).level]
      simp [Ne.symm hk]

/-- Where no points hide the root, a name tells by itself from which level it is heard. -/
theorem Follows.threshold (h : Follows s last) (hn : last = none ∨ PointsApart n) :
    s.threshold n = Setting.reach last n := by
  unfold Loggers.threshold Setting.reach
  rw [h.threshold_map]
  cases last with
  | none =>
    rw [Option.map_none, Option.getD_none, ite_self, ite_self]
  | some c =>
    have hpoints := hn.resolve_left (Option.some_ne_none c)
    have hroot : rootLogger ∈ s.lineage n ↔ isBelowRoot n = true :=
      ⟨isBelowRoot_of_mem_lineage, mem_lineage_of_isBelowRoot (h.known rfl) hpoints⟩
    simp only [hroot]

theorem Follows.hears (h : Follows s last) (hn : last = none ∨ PointsApart n) (level : Int) :
    s.hears n level = decide (Setting.reach last n ≤ level) := by
  unfold Loggers.hears
  cases hanswer : s.answers n level with
  | none =>
    rw [h.threshold hn]
    rfl
  | some b => exact h.answers n level b hanswer hn

/-- What a logger says is kept for the next time that it is asked. -/
theorem Follows.log (h : Follows s last) (name : Option Text) (level : Int) (event : Text)
    (fields : Fields) : Follows (s.log name level event fields).1 last := by
  have hask := h.ask name
  rw [fst_log]
  refine ⟨hask.others, hask.level, hask.handlers, hask.passesOn, hask.known, ?_⟩
  intro n l b hanswer hn
  by_cases hsame : n = loggerName name ∧ l = level
  · obtain ⟨rfl, rfl⟩ := hsame
    rw [← hask.hears hn]
    exact (Option.some.inj ((if_pos ⟨rfl, rfl⟩).symm.trans hanswer)).symm
  · exact hask.answers n l b ((if_neg hsame).symm.trans hanswer) hn

/-- Only a configuration that succeeds is followed from then on. -/
theorem Follows.step (h : Follows s last) (a : Act) :
    Follows (s.step a).1 (a.setting?.or last) := by
  cases a with
  | ask name => exact h.ask name
  | enter fields => exact ⟨h.others, h.level, h.handlers, h.passesOn, h.known, h.answers⟩
  | leave => exact ⟨h.others, h.level, h.handlers, h.passesOn, h.known, h.answers⟩
  | log name level event fields => exact h.log name level event fields
  | configure level style others =>
    rw [fst_step_configure]
    cases Act.setting? (.configure level style others) with
    | none => exact h.change fun l => ⟨rfl, rfl, rfl⟩
    | some c => exact h.configured c

theorem Follows.run (h : Follows s last) (acts : List Act) :
    Follows (s.run acts) ((lastSetting? acts).or last) := by
  induction acts generalizing s last with
  | nil => exact h
  | cons a acts ih =>
    rw [lastSetting?, Option.or_assoc]
    exact ih (h.step a)

theorem follows_fresh (times : Nat → Text) (acts : List Act) :
    Follows ((fresh times).run acts) (lastSetting? acts) := by
  have hfresh : Follows (fresh times) none := (follows_nothing times).run loading
  have := hfresh.run acts
  rwa [Option.or_none] at this

/-- An entry meets the root's handlers if the root is on its way, and no others. -/
theorem Follows.reached (h : Follows s last) (names : List Text) :
    Logger.reached (names.map s.get) =
      if rootLogger ∈ names then (last.map Setting.handlers).getD [] else [] := by
  induction names with
  | nil => rfl
  | cons k names ih =>
    rw [List.map_cons, Logger.reached, ih]
    by_cases hk : k = rootLogger
    · subst hk
      rw [h.handlers, h.passesOn, if_pos List.mem_cons_self]
      cases last <;> simp
    · have hbare := h.others k hk
      rw [hbare.handlers, hbare.passesOn]
      simp [Ne.symm hk]

variable {e : Entry} {level : Int} {event : Text} {fields : Fields}

theorem step_log (s : Loggers) (name : Option Text) (level : Int) (event : Text)
    (fields : Fields) :
    s.step (.log name level event fields) =
      ((s.log name level event fields).1, .ok (s.log name level event fields).2) :=
  rfl

theorem Setting.mem_handlers (c : Setting) {h : Handler} : h ∈ c.handlers ↔
    h = .console c.style ∨ ∃ o ∈ c.others, h = .other o.1 o.2 := by
  unfold handlers
  rw [List.mem_eraseDups, List.mem_cons, List.mem_map]
  simp only [eq_comm]

theorem Setting.ofEntry_handlers (c : Setting) (e : Entry) :
    Output.ofEntry e c.handlers = { lines := c.handlers.flatMap (·.lines e) } := by
  unfold handlers
  rw [List.eraseDups_cons]
  rfl

/-- What is logged on the way to the root is written by the handlers of the configuration. -/
theorem Follows.snd_log {c : Setting} (h : Follows s (some c))
    (hroot : rootLogger ∈ (s.ask name).lineage (loggerName name)) :
    (s.log name level event fields).2 =
      { lines := if (s.ask name).hears (loggerName name) level then
          c.handlers.flatMap (·.lines ((s.ask name).entry name level event fields))
        else [] } := by
  rw [Loggers.snd_log]
  unfold Loggers.handlers
  rw [(h.ask name).reached, if_pos hroot]
  show (if _ then Output.ofEntry _ c.handlers else {}) = _
  rw [c.ofEntry_handlers]
  split <;> rfl

/-- Nothing else is written; of what is urgent the event is shown. -/
theorem Follows.snd_log_elsewhere (h : Follows s last)
    (hroot : last = none ∨ rootLogger ∉ (s.ask name).lineage (loggerName name)) :
    (s.log name level event fields).2 =
      { strays := if (s.ask name).hears (loggerName name) level = true ∧ Level.urgent ≤ level then
          Text.pieces (· == '\n') event
        else [] } := by
  have hnobody : (s.ask name).handlers (loggerName name) = [] := by
    unfold Loggers.handlers
    rw [(h.ask name).reached]
    rcases hroot with rfl | hroot
    · exact ite_self []
    · exact if_neg hroot
  rw [Loggers.snd_log, hnobody]
  show (if _ then ({ strays := if Level.urgent ≤ level then _ else [] } : Output) else {}) = _
  by_cases hhears : (s.ask name).hears (loggerName name) level = true
  · rw [if_pos hhears]
    simp only [hhears, true_and]
    rfl
  · rw [if_neg hhears, if_neg (fun hboth => hhears hboth.1)]

theorem Follows.mem_lineage (h : Follows s last) (hlast : last.isSome = true)
    (hbelow : isBelowRoot (loggerName name) = true) (hpoints : PointsApart (loggerName name)) :
    rootLogger ∈ (s.ask name).lineage (loggerName name) :=
  mem_lineage_of_isBelowRoot ((h.ask name).known hlast) hpoints hbelow

/-- Only a configuration that succeeds makes a logger find out anew what it hears. -/
theorem answers_step {a : Act} {b : Bool} (ha : a.setting? = none)
    (h : s.answers n level = some b) : (s.step a).1.answers n level = some b := by
  cases a with
  | ask name => exact h
  | enter fields => exact h
  | leave => exact h
  | log name l event fields =>
    rw [step_log, answers_log]
    split
    next hsame =>
      obtain ⟨rfl, rfl⟩ := hsame
      exact congrArg (fun o : Option Bool => some (o.getD _)) h
    next => exact h
  | configure level style others =>
    rw [fst_step_configure, ha]
    exact h

theorem hears_run {b : Bool} (hacts : lastSetting? acts = none) (h : s.answers n level = some b) :
    (s.run acts).hears n level = b := by
  induction acts generalizing s with
  | nil => exact congrArg (fun o : Option Bool => o.getD _) h
  | cons a acts ih =>
    obtain ⟨hrest, ha⟩ := Option.or_eq_none_iff.mp hacts
    exact ih hrest (answers_step ha h)

/-- A logger that was asked for by its name adds the context to its entries. -/
theorem context_entry (s : Loggers) (name : Text) (level : Int) (event : Text)
    (fields : Fields) :
    ((s.ask (some name)).entry (some name) level event fields).context = s.context :=
  if_neg (filters_ask_self s name)

end Loggers

/-- How many lines a style takes for an entry. Plain lines hold the line feeds of the event, of the
logger's name and of the time, if there are any. -/
def Entry.height (e : Entry) : Style → Nat
  | .structured => 1
  | .plain => 1 + e.time.count '\n' + e.logger.count '\n' + e.event.count '\n'

theorem Text.length_pieces (t : Text) :
    (pieces (· == '\n') t).length = 1 + t.count '\n' := by
  induction t with
  | nil => rfl
  | cons c t ih =>
    unfold pieces
    split
    next hc =>
      rw [List.length_cons, ih, eq_of_beq hc, List.count_cons_self]
      omega
    next hc => rw [List.length_modifyHead, ih, List.count_cons_of_ne (by simpa using hc)]

theorem Level.noControls_text (n : Int) : Text.NoControls (text n) := by
  have hnames : ∀ e ∈ names, Text.NoControls e.1 := by decide
  unfold text
  split
  next e he => exact hnames e (List.mem_of_find?_eq_some he)
  next => exact Text.noControls_append.mpr ⟨by decide, Text.noControls_ofInt n⟩

/-- An entry takes one line, but for line feeds in plain lines. -/
theorem Handler.length_lines (h : Handler) (e : Entry) :
    (h.lines e).length = e.height h.style := by
  unfold lines
  cases h.style with
  | structured =>
    show (Text.pieces _ (Json.ofValue _)).length = 1
    rw [Text.pieces_line (Json.noControls_ofValue _).newline_notMem]
    rfl
  | plain =>
    have hlevel := List.count_eq_zero.mpr (Level.noControls_text e.level).newline_notMem
    rw [Text.length_pieces]
    simp [Entry.write, Entry.height, List.intercalate_cons_cons, List.count_append, hlevel]
    omega

namespace Loggers

/-- What is logged after some acts goes by the last configuration that succeeded, and carries what
the open blocks bind. -/
structure GoesBy (s : Loggers) (acts : List Act) : Prop where
  /-- Before any configuration nothing is written by a handler; of what is urgent the event is
  shown. -/
  unset : lastSetting? acts = none → ∀ name level event fields,
    (s.step (.log name level event fields)).2 =
      .ok { strays := if Level.urgent ≤ level then Text.pieces (· == '\n') event else [] }
  /-- The console and the other handlers of the last configuration write an entry, each of them
  once, if its level is heard, and nothing else is shown. -/
  written : ∀ c, lastSetting? acts = some c → ∀ name level event fields,
    rootLogger ∈ (s.ask name).lineage (loggerName name) →
    (s.step (.log name level event fields)).2 =
      .ok { lines := if (s.ask name).hears (loggerName name) level then
              c.handlers.flatMap (·.lines ((s.ask name).entry name level event fields))
            else [] }
  /-- These handlers are the console's and the others, and none is there twice. -/
  once : ∀ c : Setting, c.handlers.Nodup ∧ ∀ h, h ∈ c.handlers ↔
    h = .console c.style ∨ ∃ o ∈ c.others, h = .other o.1 o.2
  elsewhere : ∀ name level event fields,
    rootLogger ∉ (s.ask name).lineage (loggerName name) →
    (s.step (.log name level event fields)).2 =
      .ok { strays :=
              if (s.ask name).hears (loggerName name) level = true ∧ Level.urgent ≤ level then
                Text.pieces (· == '\n') event
              else [] }
  /-- Loggers below the root reach it and hear what the last configuration says, unless two points
  behind its name hide it. -/
  below : ∀ c, lastSetting? acts = some c → ∀ name, isBelowRoot (loggerName name) = true →
    PointsApart (loggerName name) → rootLogger ∈ (s.ask name).lineage (loggerName name) ∧
      ∀ level, (s.ask name).hears (loggerName name) level = true ↔ c.threshold ≤ level
  /-- All others do not reach it, and hear what is heard where nothing is set. -/
  outside : ∀ name, isBelowRoot (loggerName name) = false →
    rootLogger ∉ (s.ask name).lineage (loggerName name) ∧
      ∀ level, (s.ask name).hears (loggerName name) level = true ↔ Level.standard ≤ level
  /-- What a logger says about a level it says again, until a configuration succeeds. -/
  kept : ∀ name level event fields more, lastSetting? more = none →
    ((s.step (.log name level event fields)).1.run more).hears (loggerName name) level =
      (s.ask name).hears (loggerName name) level
  height : ∀ (h : Handler) (e : Entry), (h.lines e).length = e.height h.style
  /-- An unknown level changes no logger. -/
  refused : ∀ level style others, Level.names.lookup (Text.upper level) = none →
    (s.step (.configure level style others)).2 = .error (.unknownLevel (Text.upper level)) ∧
    (∀ n, (s.step (.configure level style others)).1.get n = s.get n) ∧
    (s.step (.configure level style others)).1.contexts = s.contexts
  bound : ∀ name level event fields key,
    ((s.ask (some name)).entry (some name) level event fields).context.lookup key =
      (openBlocks [] acts).findSome? (Fields.value? key)
  restored : ∀ fields body, Nested body →
    (s.run (.enter fields :: body ++ [.leave])).contexts = s.contexts

theorem goesBy (times : Nat → Text) (acts : List Act) : GoesBy ((fresh times).run acts) acts := by
  have hfollows := follows_fresh times acts
  have hcontexts := contexts_fresh times acts
  constructor
  case unset =>
    intro hlast name level event fields
    have hreach : Setting.reach none (loggerName name) = Level.urgent := ite_self _
    have hhears : (((fresh times).run acts).ask name).hears (loggerName name) level = true ↔
        Level.urgent ≤ level := by
      rw [(hfollows.ask name).hears (.inl hlast), hlast, hreach, decide_eq_true_iff]
    rw [step_log, hfollows.snd_log_elsewhere (.inl hlast)]
    simp only [hhears, and_self]
  case written =>
    intro c hlast name level event fields hroot
    rw [hlast] at hfollows
    rw [step_log, hfollows.snd_log hroot]
  case once => exact fun c => ⟨nodup_eraseDups _, fun h => c.mem_handlers⟩
  case elsewhere =>
    intro name level event fields hroot
    rw [step_log, hfollows.snd_log_elsewhere (.inr hroot)]
  case below =>
    intro c hlast name hbelow hpoints
    rw [hlast] at hfollows
    refine ⟨hfollows.mem_lineage rfl hbelow hpoints, fun level => ?_⟩
    rw [(hfollows.ask name).hears (.inr hpoints), decide_eq_true_iff]
    unfold Setting.reach
    rw [if_pos hbelow]
    rfl
  case outside =>
    intro name houtside
    have hbelow : ¬ isBelowRoot (loggerName name) = true := ne_true_of_eq_false houtside
    refine ⟨mt isBelowRoot_of_mem_lineage hbelow, fun level => ?_⟩
    rw [(hfollows.ask name).hears (.inr (mt isBelowRoot_of_points hbelow)), decide_eq_true_iff]
    unfold Setting.reach
    rw [if_neg hbelow]
  case kept =>
    intro name level event fields more hmore
    exact hears_run hmore (answers_log.trans (if_pos ⟨rfl, rfl⟩))
  case height => exact Handler.length_lines
  case refused =>
    intro level style others hlevel
    rw [step_configure_of_unknown hlevel]
    refine ⟨rfl, fun n => ?_, rfl⟩
    rw [get_change]
    split
    next h => rw [h, id]
    next => rfl
  case bound =>
    intro name level event fields key
    rw [context_entry, lookup_context hcontexts]
  case restored => exact fun fields body hbody => contexts_block hcontexts fields hbody

/-- An event of two lines takes two lines of the plain style, though there is only the console. An
urgent event is shown before anything is set up. And two points hide the root from a logger whose
name goes on from the root's. -/
theorem not_one_line_each :
    let acts : List Act := [.configure "INFO".toList "simple".toList []]
    let c : Setting := ⟨20, .plain, []⟩
    let start := fresh fun _ => ['T']
    let s := start.run acts
    lastSetting? acts = some c ∧ c.threshold = 20 ∧ c.handlers.length = 1 ∧
    isBelowRoot (loggerName (some "a".toList)) = true ∧
    (s.step (.log (some "a".toList) 20 "x\ny".toList [])).2 =
      .ok { lines := ["T - sqlscript.a - INFO - x".toList, "y".toList] } ∧
    (start.step (.log (some "a".toList) 30 "x".toList [])).2 = .ok { strays := ["x".toList] } ∧
    isBelowRoot (loggerName (some "sqlscript..a".toList)) = true ∧
    (s.step (.log (some "sqlscript..a".toList) 20 "x".toList [])).2 = .ok {} :=
  ⟨rfl, rfl, rfl, rfl, rfl, rfl, rfl, rfl⟩

end Loggers
end MigrationScript
