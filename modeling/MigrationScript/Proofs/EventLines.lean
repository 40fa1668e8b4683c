import MigrationScript.Proofs.LogHistory
import MigrationScript.Script

/-!
The lines that the library's own events bring to a console that shows every event. Main statements:
an event brings one line with the context that is open, what is written by some acts and then by
others is written one after the other, and a context that is entered and left again is in all lines
between, and in none behind.
-/
namespace MigrationScript

namespace Output

variable {o a b : Output}

theorem empty_append : ({} : Output) ++ o = o :=
  rfl

theorem append_empty : o ++ {} = o := by
  obtain ⟨lines, strays⟩ := o
  show Output.mk (lines ++ []) (strays ++ []) = _
  rw [List.append_nil, List.append_nil]

theorem append_assoc (a b c : Output) : a ++ b ++ c = a ++ (b ++ c) := by
  show Output.mk (_ ++ _ ++ _) (_ ++ _ ++ _) = Output.mk (_ ++ (_ ++ _)) (_ ++ (_ ++ _))
  rw [List.append_assoc, List.append_assoc]

end Output

/-- The line of an event of this library. Of two fields with one key the later is written, in the
earlier's place. -/
def eventLine (part event : String) (context fields : Fields) (time : Text) : Text :=
  let own : Fields :=
    [("timestamp".toList, .text time), ("level".toList, .text "DEBUG".toList),
     ("logger".toList, .text ("sqlscript." ++ part).toList), ("event".toList, .text event.toList)]
  Json.ofValue (.fields (Fields.merge (Fields.merge own context) fields))

/-- Lines with the times that are read off the clock from the `n`-th reading on. -/
def timed (times : Nat → Text) : Nat → List (Text → Text) → List Text
  | _, [] => []
  | n, line :: lines => line (times n) :: timed times (n + 1) lines

section timed

variable {times : Nat → Text}

theorem timed_append (n : Nat) (a b : List (Text → Text)) :
    timed times n (a ++ b) = timed times n a ++ timed times (n + a.length) b := by
  induction a generalizing n with
  | nil => rfl
  | cons line a ih =>
    rw [List.cons_append, timed, timed, ih, List.length_cons, Nat.add_assoc, Nat.add_comm 1]
    rfl

end timed

namespace Loggers

/-- Every event is shown, structured, and on the console only. -/
def Setting.all : Setting :=
  ⟨Level.debug, .structured, []⟩

variable {s : Loggers} {acts a b : List Act} {lines l m : List (Text → Text)}

theorem run_append (s : Loggers) (a b : List Act) : s.run (a ++ b) = (s.run a).run b :=
  List.foldl_append

theorem written_append (s : Loggers) (a b : List Act) :
    s.written (a ++ b) = s.written a ++ (s.run a).written b := by
  induction a generalizing s with
  | nil => rfl
  | cons x a ih =>
    rw [List.cons_append, written, written, ih, Output.append_assoc]
    rfl

theorem part_names : ∀ part ∈ parts,
    loggerName (some part.toList) = ("sqlscript." ++ part).toList ∧
    isBelowRoot (loggerName (some part.toList)) = true ∧
    ¬ rootLogger ++ ['.', '.'] <+: loggerName (some part.toList) := by
  decide

/-- Where every event is shown, the loggers of the library hear what they log. -/
theorem hears_event (h : s.Follows (some .all)) {part : String} (hpart : part ∈ parts) :
    (s.ask (some part.toList)).hears (loggerName (some part.toList)) Level.debug = true := by
  obtain ⟨-, hbelow, hpoints⟩ := part_names part hpart
  rw [(h.ask _).hears (.inr hpoints), Setting.reach, if_pos hbelow]
  rfl

/-- Where every event is shown, an event of the library is written as one line. -/
theorem snd_log_event (h : s.Follows (some .all)) {part : String} (hpart : part ∈ parts)
    (event : String) (fields : Fields) :
    (s.log (some part.toList) Level.debug event.toList fields).2 =
      { lines := [eventLine part event s.context fields (s.times s.made)] } := by
  obtain ⟨hname, hbelow, hpoints⟩ := part_names part hpart
  have hroot := h.mem_lineage rfl hbelow hpoints
  have hline : ((s.ask (some part.toList)).entry (some part.toList) Level.debug event.toList
      fields).write .structured = eventLine part event s.context fields (s.times s.made) := by
    unfold Loggers.entry
    rw [if_neg (filters_ask_self s part.toList), hname]
    rfl
  rw [h.snd_log hroot, if_pos (hears_event h hpart)]
  show Output.mk (Text.pieces _ (Entry.write _ .structured) ++ []) [] = _
  rw [hline, List.append_nil, eventLine,
    Text.pieces_line (Json.noControls_ofValue _).newline_notMem]

/-- Some acts write these lines, one for every entry that they make. They leave the context as it
was, and every event goes on being shown. -/
structure Logs (s : Loggers) (acts : List Act) (lines : List (Text → Text)) : Prop where
  written : s.written acts = { lines := timed s.times s.made lines }
  made : (s.run acts).made = s.made + lines.length
  times : (s.run acts).times = s.times
  contexts : (s.run acts).contexts = s.contexts
  follows : (s.run acts).Follows (some .all)

theorem Logs.context (h : Logs s acts lines) : (s.run acts).context = s.context := by
  unfold Loggers.context
  rw [h.contexts]

theorem Logs.nil (h : s.Follows (some .all)) : Logs s [] [] :=
  ⟨rfl, rfl, rfl, rfl, h⟩

theorem Logs.append (ha : Logs s a l) (hb : Logs (s.run a) b m) : Logs s (a ++ b) (l ++ m) := by
  refine ⟨?_, ?_, ?_, ?_, ?_⟩
  · rw [written_append, ha.written, hb.written, timed_append, ha.made, ha.times]
    rfl
  · rw [run_append, hb.made, ha.made, List.length_append, Nat.add_assoc]
  · rw [run_append, hb.times, ha.times]
  · rw [run_append, hb.contexts, ha.contexts]
  · rw [run_append]
    exact hb.follows

theorem Logs.event (h : s.Follows (some .all)) {part : String} (hpart : part ∈ parts)
    (event : String) (fields : Fields) :
    Logs s [happened part event fields] [eventLine part event s.context fields] := by
  refine ⟨?_, ?_, times_log, contexts_log, h.log _ _ _ _⟩
  · show (s.log _ _ _ _).2 ++ {} = _
    rw [snd_log_event h hpart, Output.append_empty]
    rfl
  · show (s.log _ _ _ _).1.made = _
    rw [fst_log, if_pos (hears_event h hpart)]
    rfl

/-- What is written inside a block carries the block's fields, and the block is left with no trace
of them. -/
theorem Logs.block {fields : Fields} (h : Logs (s.enter fields) acts lines) :
    Logs s (.enter fields :: (acts ++ [.leave])) lines := by
  have hrun : s.run (.enter fields :: (acts ++ [.leave])) = ((s.enter fields).run acts).leave :=
    run_append (s.enter fields) acts [.leave]
  refine ⟨?_, ?_, ?_, ?_, ?_⟩
  · show {} ++ (s.enter fields).written (acts ++ [.leave]) = _
    rw [Output.empty_append, written_append, h.written]
    exact Output.append_empty
  · rw [hrun]
    exact h.made
  · rw [hrun]
    exact h.times
  · rw [hrun]
    exact congrArg List.tail h.contexts
  · rw [hrun]
    exact h.follows.step .leave

end Loggers
end MigrationScript
