import MigrationScript.Proofs.LogHistory

/-!
Whether an event comes to the console with the context it was logged in. It has to be logged below
the root, and by a logger that was asked for by its name: that is what adds the context. Main
statement: these two decide it, unless the context has nothing to add.
-/
namespace MigrationScript

namespace Entry

variable {e : Entry}

/-- The entry holds what a context binds, where its own fields do not bind it anew. -/
def Shows (e : Entry) (context : Fields) : Prop :=
  ∀ f ∈ context, Fields.value? f.1 e.fields = none → f ∈ e.members

theorem shows_context (hfault : e.fault = none) (hcontext : e.context.Distinct) :
    e.Shows e.context := by
  intro f hf hnone
  apply mem_of_lookup
  unfold members
  rw [hfault]
  show (Fields.merge (Fields.merge _ e.context) e.fields).lookup f.1 = some f.2
  rw [Fields.lookup_merge, hnone, Option.none_or, Fields.lookup_merge, hcontext.value? hf,
    Option.some_or]

theorem distinct_members (e : Entry) : e.members.Distinct := by
  have hown : Fields.Distinct
      [("timestamp".toList, .text e.time), ("level".toList, .text (Level.text e.level)),
       ("logger".toList, .text e.logger), ("event".toList, .text e.event)] := by
    show ["timestamp".toList, "level".toList, "logger".toList, "event".toList].Nodup
    decide
  have hall := (hown.merge e.context).merge e.fields
  unfold members
  cases e.fault with
  | none => exact hall
  | some t => exact hall.put _ _

end Entry

namespace Loggers

/-- The act asks for the root by its name. -/
def Act.asksRoot : Act → Bool
  | .ask name => name == some rootLogger
  | .log name _ _ _ => name == some rootLogger
  | _ => false

variable {s : Loggers} {acts : List Act} {name : Option Text} {level : Int} {event : Text}
  {fields : Fields} {c : Setting} {e : Entry}

theorem loggerName_eq_root {n : Text} : loggerName (some n) = rootLogger ↔ n = rootLogger := by
  show (if rootLogger.isPrefixOf n then n else rootLogger ++ '.' :: n) = rootLogger ↔ _
  split
  next => rfl
  next hprefix =>
    constructor
    · intro h
      have := congrArg List.length h
      simp at this
    · rintro rfl
      exact absurd (by decide) hprefix

theorem filters_ask : ((s.ask name).get rootLogger).filters = 0 ↔
    (s.get rootLogger).filters = 0 ∧ (name == some rootLogger) = false := by
  cases name with
  | none =>
    unfold Loggers.ask
    rw [get_change]
    simp [loggerName]
  | some n =>
    by_cases hn : n = rootLogger
    · subst hn
      have hself := filters_ask_self s rootLogger
      rw [loggerName_eq_root.mpr rfl] at hself
      simp [hself]
    · unfold Loggers.ask
      rw [get_change, if_neg (Ne.symm (mt loggerName_eq_root.mp hn))]
      simp [hn]

theorem filters_step (s : Loggers) (a : Act) : ((s.step a).1.get rootLogger).filters = 0 ↔
    (s.get rootLogger).filters = 0 ∧ a.asksRoot = false := by
  cases a with
  | ask name => exact filters_ask
  | log name level event fields =>
    have hget : (s.log name level event fields).1.get rootLogger = (s.ask name).get rootLogger := by
      unfold Loggers.get
      rw [known_log]
    show ((s.log name level event fields).1.get rootLogger).filters = 0 ↔ _
    rw [hget]
    exact filters_ask
  | enter fields => exact (and_iff_left rfl).symm
  | leave => exact (and_iff_left rfl).symm
  | configure level style others =>
    apply Iff.trans _ (and_iff_left rfl).symm
    rw [fst_step_configure]
    cases Act.setting? (.configure level style others) with
    | none =>
      show ((s.change rootLogger id).get rootLogger).filters = 0 ↔ _
      rw [get_change, if_pos rfl, id]
    | some c =>
      show ((s.forget.change rootLogger c.apply).get rootLogger).filters = 0 ↔ _
      rw [get_change, if_pos rfl]
      rfl

theorem filters_run (s : Loggers) (acts : List Act) :
    ((s.run acts).get rootLogger).filters = 0 ↔
      (s.get rootLogger).filters = 0 ∧ ∀ a ∈ acts, a.asksRoot = false := by
  induction acts generalizing s with
  | nil => simp [run]
  | cons a acts ih =>
    show (((s.step a).1.run acts).get rootLogger).filters = 0 ↔ _
    rw [ih, filters_step, and_assoc, List.forall_mem_cons]

/-- The root adds the context once it was asked for by its name. -/
theorem filters_fresh (times : Nat → Text) (acts : List Act) :
    (((fresh times).run acts).get rootLogger).filters = 0 ↔ ∀ a ∈ acts, a.asksRoot = false := by
  rw [filters_run]
  exact and_iff_right rfl

/-- The root, if it is asked for without a name. -/
theorem entry_root : (s.ask none).entry none level event fields =
    { time := s.times s.made, logger := rootLogger, level, event,
      context := if (s.get rootLogger).filters = 0 then [] else s.context, fields } := by
  have hget : (s.ask none).get rootLogger = s.get rootLogger := by
    unfold Loggers.ask
    rw [get_change]
    exact if_pos rfl
  unfold entry
  show ({ time := s.times s.made, logger := rootLogger, level, event, context :=
    if ((s.ask none).get rootLogger).filters = 0 then [] else (s.ask none).context, fields } :
      Entry) = _
  rw [hget]
  rfl

/-- The console comes first of all handlers, and writes an entry as one line if it is structured. -/
theorem Setting.lines_structured (hstyle : c.style = .structured) (e : Entry) :
    ∃ more, c.handlers.flatMap (·.lines e) = Json.ofValue (.fields e.members) :: more := by
  have hconsole : (Handler.console c.style).lines e = [Json.ofValue (.fields e.members)] := by
    unfold Handler.lines Handler.style
    dsimp only
    rw [hstyle]
    exact Text.pieces_line (Json.noControls_ofValue _).newline_notMem
  unfold handlers
  rw [List.eraseDups_cons, List.flatMap_cons, hconsole]
  exact ⟨_, rfl⟩

/-- What is logged is written on the console, structured and with no key twice, and holds the
context. -/
structure Attended (s : Loggers) (name : Option Text) (level : Int) (event : Text)
    (fields : Fields) : Prop where
  written : ∃ output more, (s.step (.log name level event fields)).2 = .ok output ∧
    output.lines =
      Json.ofValue (.fields ((s.ask name).entry name level event fields).members) :: more
  distinct : ((s.ask name).entry name level event fields).members.Distinct
  shown : ((s.ask name).entry name level event fields).Shows s.context

theorem attended_iff_shows (h : s.Follows (some c)) (hstyle : c.style = .structured) :
    Attended s name level event fields ↔
      rootLogger ∈ (s.ask name).lineage (loggerName name) ∧
      (s.ask name).hears (loggerName name) level = true ∧
      ((s.ask name).entry name level event fields).Shows s.context := by
  constructor
  · intro hattended
    obtain ⟨output, more, houtput, hlines⟩ := hattended.written
    rw [step_log] at houtput
    obtain rfl := Except.ok.inj houtput
    by_cases hroot : rootLogger ∈ (s.ask name).lineage (loggerName name)
    · refine ⟨hroot, ?_, hattended.shown⟩
      rw [h.snd_log hroot] at hlines
      cases hdeaf : (s.ask name).hears (loggerName name) level with
      | true => rfl
      | false =>
        rw [hdeaf] at hlines
        contradiction
    · rw [h.snd_log_elsewhere (.inr hroot)] at hlines
      contradiction
  · rintro ⟨hroot, hhears, hshown⟩
    refine ⟨?_, Entry.distinct_members _, hshown⟩
    obtain ⟨more, hmore⟩ :=
      c.lines_structured hstyle ((s.ask name).entry name level event fields)
    refine ⟨(s.log name level event fields).2, more, rfl, ?_⟩
    rw [h.snd_log hroot]
    exact (if_pos hhears).trans hmore

/-- An entry carries the context if its logger was asked for by a name, be it the root's and
before. -/
theorem shows_entry_iff (hcontext : s.context.Distinct) :
    ((s.ask name).entry name level event fields).Shows s.context ↔
      name.isSome = true ∨ (s.get rootLogger).filters ≠ 0 ∨
        Entry.Shows { time := s.times s.made, logger := rootLogger, level, event, fields }
          s.context := by
  have hcarried : ∀ e : Entry, e.fault = none → e.context = s.context → e.Shows s.context := by
    intro e hfault he
    rw [← he] at hcontext ⊢
    exact Entry.shows_context hfault hcontext
  cases name with
  | some n =>
    apply iff_of_true
    · exact hcarried _ rfl (context_entry s n level event fields)
    · exact .inl rfl
  | none =>
    rw [entry_root]
    by_cases hzero : (s.get rootLogger).filters = 0
    · rw [if_pos hzero]
      simp [hzero]
    · rw [if_neg hzero]
      apply iff_of_true
      · exact hcarried _ rfl rfl
      · exact .inr (.inl hzero)

/-- What is logged is attended to if the root stands above its logger, the logger hears its level,
and the logger was asked for by a name. The root that is asked for without its name adds the context
once somebody named it; until then its entry has to hold the context by itself. A name that goes on
from the root's with a single point always leads to a logger that has the root above it and hears
the level. -/
theorem attended_iff {times : Nat → Text} (hs : s = (fresh times).run acts)
    (hlast : lastSetting? acts = some c) (hstyle : c.style = .structured) (hset : c.level ≠ 0)
    (hlevel : c.level ≤ level) :
    (Attended s name level event fields ↔
      rootLogger ∈ (s.ask name).lineage (loggerName name) ∧
      (s.ask name).hears (loggerName name) level = true ∧
      (name.isSome = true ∨ (∃ a ∈ acts, a.asksRoot = true) ∨
        Entry.Shows { time := s.times s.made, logger := rootLogger, level, event, fields }
          s.context)) ∧
    (isBelowRoot (loggerName name) = true → PointsApart (loggerName name) →
      rootLogger ∈ (s.ask name).lineage (loggerName name) ∧
      (s.ask name).hears (loggerName name) level = true) ∧
    (isBelowRoot (loggerName name) = false →
      rootLogger ∉ (s.ask name).lineage (loggerName name)) := by
  subst hs
  have hfollows := follows_fresh times acts
  rw [hlast] at hfollows
  have hfilters : (((fresh times).run acts).get rootLogger).filters ≠ 0 ↔
      ∃ a ∈ acts, a.asksRoot = true := by
    rw [Ne, filters_fresh]
    simp
  refine ⟨?_, ?_, ?_⟩
  · rw [attended_iff_shows hfollows hstyle,
      shows_entry_iff (distinct_context (contexts_fresh times acts)), hfilters]
  · intro hbelow hpoints
    refine ⟨hfollows.mem_lineage rfl hbelow hpoints, ?_⟩
    have hreach : Setting.reach (some c) (loggerName name) = c.level := by
      unfold Setting.reach Setting.threshold
      rw [if_pos hbelow, Option.map_some, if_neg hset]
      rfl
    rw [(hfollows.ask name).hears (.inr hpoints), hreach]
    exact decide_eq_true hlevel
  · intro hbelow hroot
    rw [isBelowRoot_of_mem_lineage hroot] at hbelow
    contradiction

/-- Two blocks, one inside the other, and a logger that goes by a name of its own. -/
theorem attended_iff_two_blocks :
    let acts : List Act := [.configure "INFO".toList "structured".toList [],
      .enter [("script".toList, .text "a.sql".toList)],
      .enter [("dialect".toList, .text "mysql".toList)]]
    let s := (fresh fun _ => ['T']).run acts
    lastSetting? acts = some ⟨20, .structured, []⟩ ∧
    Attended s (some "splitter".toList) 20 "e".toList [("script".toList, .null)] := by
  intro acts s
  have hlast : lastSetting? acts = some ⟨20, .structured, []⟩ := rfl
  refine ⟨hlast, ?_⟩
  exact (attended_iff (s := s) rfl hlast rfl (by decide) (by decide)).1.mpr
    ⟨by decide, by decide, .inl rfl⟩

/-- What is logged without a name inside a block comes without the block's fields, and a name that
goes on from the root's with no point at all leads to a logger that the console never hears. -/
theorem not_attended_unnamed :
    let acts : List Act := [.configure "INFO".toList "structured".toList [],
      .enter [("script".toList, .text "a.sql".toList)]]
    let s := (fresh fun _ => ['T']).run acts
    lastSetting? acts = some ⟨20, .structured, []⟩ ∧
    ¬ Attended s none 20 "e".toList [] ∧
    ¬ Attended s (some "sqlscriptx".toList) 20 "e".toList [] := by
  refine ⟨rfl, ?_, ?_⟩
  · intro h
    have hscript := h.shown _ List.mem_cons_self rfl
    have hkey := List.mem_map_of_mem (f := Prod.fst) hscript
    exact absurd hkey (by decide)
  · intro h
    obtain ⟨output, more, houtput, hlines⟩ := h.written
    obtain rfl := Except.ok.inj houtput
    contradiction

end Loggers
end MigrationScript
