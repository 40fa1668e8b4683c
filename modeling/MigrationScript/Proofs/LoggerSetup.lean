import MigrationScript.Log.Loggers

/-!
Loggers that are changed one after the other, what logging leaves as it was, and what a
configuration comes to: all of it, or nothing at all if nobody knows the level.
-/
namespace MigrationScript

/-- Handlers that are added stand behind those that were there, each of them once. -/
theorem Logger.foldl_add (hs : List Handler) (l : Logger) :
    hs.foldl (fun l h => l.add h) l =
      { l with handlers := l.handlers ++ (hs.filter fun h => h ∉ l.handlers).eraseDups } := by
  induction hs generalizing l with
  | nil => simp
  | cons h hs ih =>
    rw [List.foldl_cons, ih]
    unfold add
    split
    next hmem => simp [hmem]
    next hmem =>
      have hfilter : (hs.filter fun k => k ∉ l.handlers ++ [h]) =
          (hs.filter fun k => k ∉ l.handlers).filter fun k => !k == h := by
        rw [List.filter_filter]
        apply List.filter_congr
        intro k _
        by_cases hk : k = h <;> simp [hk, hmem]
      rw [List.filter_cons_of_pos (by simpa using hmem), List.eraseDups_cons, hfilter,
        List.append_assoc]
      rfl

theorem Logger.addFilter_eq (l : Logger) : l.addFilter = { l with filters := max l.filters 1 } := by
  unfold addFilter
  split
  next h => rw [h, Nat.zero_max]
  next h => rw [Nat.max_eq_left (Nat.one_le_iff_ne_zero.mpr h)]

namespace Loggers

/-- What a configuration sets. -/
structure Setting where
  level : Int
  style : Style
  others : List (Nat × Style)

namespace Setting

/-- The console's handler and the others, each once. -/
def handlers (c : Setting) : List Handler :=
  (.console c.style :: c.others.map fun h => .other h.1 h.2).eraseDups

/-- The level from which entries are written. -/
def threshold (c : Setting) : Int :=
  if c.level = 0 then Level.standard else c.level

def apply (c : Setting) (l : Logger) : Logger :=
  { l with level := c.level, handlers := c.handlers, passesOn := false }

theorem apply_eq (c : Setting) (l : Logger) :
    { c.others.foldl (fun l h => l.add (.other h.1 h.2))
        (Logger.add (.console c.style) { l with level := c.level, handlers := [] }) with
      passesOn := false } = c.apply l := by
  have hfold := Logger.foldl_add (c.others.map fun h => .other h.1 h.2)
    { l with level := c.level, handlers := [.console c.style] }
  rw [List.foldl_map] at hfold
  show { List.foldl _ { l with level := c.level, handlers := [.console c.style] } _ with
    passesOn := false } = _
  rw [hfold]
  simp [apply, handlers, List.eraseDups_cons]
  rfl

end Setting

variable {s s' : Loggers} {name n : Text} {f g : Logger → Logger}

theorem get_change : (s.change name f).get n = if n = name then f (s.get name) else s.get n := by
  unfold change get
  dsimp only
  split <;> rfl

theorem filters_ask_self (s : Loggers) (name : Text) :
    ((s.ask (some name)).get (loggerName (some name))).filters ≠ 0 := by
  unfold ask
  rw [get_change, if_pos rfl]
  show (Logger.addFilter _).filters ≠ 0
  rw [Logger.addFilter_eq]
  exact Nat.ne_zero_of_lt (Nat.le_max_right _ 1)

theorem known_change (h : (s.known n).isSome = true) :
    ((s.change name f).known n).isSome = true := by
  unfold change
  dsimp only
  split
  · rfl
  · exact h

theorem known_change_self : ((s.change name f).known name).isSome = true := by
  simp [change]

theorem change_change : (s.change name f).change name g = s.change name (g ∘ f) := by
  unfold change get
  congr 1
  funext n
  dsimp only
  by_cases h : n = name <;> simp [h]

section log

variable {asked : Option Text} {level : Int} {event : Text} {fields : Fields}

/-- Logging asks for the logger, keeps what it said, and counts the entry if there is one. -/
theorem fst_log (s : Loggers) (asked : Option Text) (level : Int) (event : Text)
    (fields : Fields) :
    (s.log asked level event fields).1 =
      { (s.ask asked).keepAnswer (loggerName asked) level with
        made := s.made + if (s.ask asked).hears (loggerName asked) level then 1 else 0 } := by
  unfold Loggers.log
  dsimp only
  split <;> rfl

theorem snd_log (s : Loggers) (asked : Option Text) (level : Int) (event : Text)
    (fields : Fields) :
    (s.log asked level event fields).2 =
      if (s.ask asked).hears (loggerName asked) level then
        .ofEntry ((s.ask asked).entry asked level event fields)
          ((s.ask asked).handlers (loggerName asked))
      else {} := by
  unfold Loggers.log
  dsimp only
  split <;> rfl

theorem known_log : (s.log asked level event fields).1.known = (s.ask asked).known := by
  rw [fst_log]
  rfl

theorem contexts_log : (s.log asked level event fields).1.contexts = s.contexts := by
  rw [fst_log]
  rfl

theorem times_log : (s.log asked level event fields).1.times = s.times := by
  rw [fst_log]
  rfl

theorem answers_log {l : Int} : (s.log asked level event fields).1.answers n l =
    if n = loggerName asked ∧ l = level then some ((s.ask asked).hears (loggerName asked) level)
    else s.answers n l := by
  rw [fst_log]
  rfl

end log

theorem forget_change : (s.change name f).forget = s.forget.change name f :=
  rfl

theorem run_forget : (modify forget : Setup Unit).run s = .ok () s.forget :=
  rfl

theorem run_changeRoot : (changeRoot f).run s = .ok () (s.change rootLogger f) :=
  rfl

section bind

variable {α β : Type} {x : Setup α} {next : α → Setup β}

theorem run_bind {a : α} (h : x.run s = .ok a s') : (x >>= next).run s = (next a).run s' := by
  show EStateM.bind x next s = _
  unfold EStateM.bind
  rw [show x s = .ok a s' from h]
  rfl

theorem run_bind_error {e : Failure} (h : x.run s = .error e s') :
    (x >>= next).run s = .error e s' := by
  show EStateM.bind x next s = _
  unfold EStateM.bind
  rw [show x s = .error e s' from h]

end bind

theorem run_forM_add (hs : List (Nat × Style)) (f : Logger → Logger) (s : Loggers) :
    (hs.forM fun h => changeRoot (Logger.add (.other h.1 h.2))).run (s.change rootLogger f) =
      .ok () (s.change rootLogger fun l => hs.foldl (fun l h => l.add (.other h.1 h.2)) (f l)) := by
  induction hs generalizing f with
  | nil => rfl
  | cons h hs ih =>
    show (changeRoot _ >>= fun _ => hs.forM _).run _ = _
    rw [run_bind run_changeRoot, change_change, ih]
    rfl

variable {level : Text}

theorem run_levelNumber {k : Int} (h : Level.names.lookup (Text.upper level) = some k) :
    (levelNumber level).run s = .ok k s := by
  unfold levelNumber
  rw [h]
  rfl

theorem run_levelNumber_of_unknown (h : Level.names.lookup (Text.upper level) = none) :
    (levelNumber level).run s = .error (.unknownLevel (Text.upper level)) s := by
  unfold levelNumber
  rw [h]
  rfl

/-- A configuration with a level that is known changes nothing but the root, and makes loggers find
out anew what they hear. -/
theorem run_configure {k : Int} (h : Level.names.lookup (Text.upper level) = some k)
    (style : Text) (others : List (Nat × Style)) (s : Loggers) :
    (configure level style others).run s =
      .ok () (s.forget.change rootLogger (Setting.apply ⟨k, Style.ofName style, others⟩)) := by
  unfold configure
  rw [run_bind run_changeRoot, run_bind (run_levelNumber h), run_bind run_changeRoot,
    run_bind run_forget, forget_change, forget_change, run_bind run_changeRoot,
    run_bind run_changeRoot, change_change, change_change, change_change,
    run_bind (run_forM_add _ _ _), run_changeRoot, change_change]
  congr 2
  funext l
  exact Setting.apply_eq ⟨k, Style.ofName style, others⟩ l

/-- A level that nobody knows is noticed before anything is changed. -/
theorem run_configure_of_unknown (h : Level.names.lookup (Text.upper level) = none) (style : Text)
    (others : List (Nat × Style)) (s : Loggers) :
    (configure level style others).run s =
      .error (.unknownLevel (Text.upper level)) (s.change rootLogger id) := by
  unfold configure
  rw [run_bind run_changeRoot, run_bind_error (run_levelNumber_of_unknown h)]

theorem step_configure {k : Int} (h : Level.names.lookup (Text.upper level) = some k)
    (style : Text) (others : List (Nat × Style)) (s : Loggers) :
    s.step (.configure level style others) =
      (s.forget.change rootLogger (Setting.apply ⟨k, Style.ofName style, others⟩), .ok {}) := by
  unfold step
  dsimp only
  rw [run_configure h]

theorem step_configure_of_unknown (h : Level.names.lookup (Text.upper level) = none)
    (style : Text) (others : List (Nat × Style)) (s : Loggers) :
    s.step (.configure level style others) =
      (s.change rootLogger id, .error (.unknownLevel (Text.upper level))) := by
  unfold step
  dsimp only
  rw [run_configure_of_unknown h]

/-- What an act sets, if it is a configuration that succeeds. -/
def Act.setting? : Act → Option Setting
  | .configure level style others =>
    (Level.names.lookup (Text.upper level)).map fun n => ⟨n, Style.ofName style, others⟩
  | _ => none

/-- What a configuration does: all of a setting, or nothing but to make the root known. -/
theorem fst_step_configure (level style : Text) (others : List (Nat × Style)) (s : Loggers) :
    (s.step (.configure level style others)).1 =
      (Act.setting? (.configure level style others)).elim (s.change rootLogger id)
        fun c => s.forget.change rootLogger c.apply := by
  unfold Act.setting?
  dsimp only
  cases h : Level.names.lookup (Text.upper level) with
  | none =>
    rw [step_configure_of_unknown h]
    rfl
  | some k =>
    rw [step_configure h]
    rfl

end Loggers
end MigrationScript
