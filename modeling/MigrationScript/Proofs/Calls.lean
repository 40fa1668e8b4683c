import MigrationScript.Call
import MigrationScript.Proofs.Recognition

/-!
Drafts under any calls, in any order and also after the statement has ended. Main statement: no
comment is open together with a literal, blocks are open only where they are counted, what has ended
stays ended, and the delimiter is the one that was set last or, if none was, changes once at most.

That a comment and a literal exclude each other is built into `Mode`, and that a delimiter which was
set stands above the dialect's own is built into `Draft.delimiter`. So the one is shown of a scan
that remembers the two apart, the other of a state that has one place for the delimiter; and that
these give what the draft gives.
-/
namespace MigrationScript

namespace Draft

variable {c : Cutting} {s : Draft}

theorem calls_append (a b : List Call) : s.calls c (a ++ b) = (s.calls c a).calls c b :=
  List.foldl_append

theorem calls_concat (cs : List Call) (a : Call) :
    s.calls c (cs ++ [a]) = ((s.calls c cs).call c a).1 :=
  calls_append cs [a]

/-- A state that is kept beside a draft, after several calls. A step looks at the draft as it was
before the call. -/
def beside {σ : Type} (c : Cutting) (step : Draft → σ → Call → σ) : Draft → σ → List Call → σ
  | _, x, [] => x
  | s, x, a :: cs => beside c step (s.call c a).1 (step s x a) cs

variable {σ : Type} {step : Draft → σ → Call → σ} {x : σ}

theorem beside_concat (cs : List Call) (a : Call) :
    beside c step s x (cs ++ [a]) = step (s.calls c cs) (beside c step s x cs) a := by
  induction cs generalizing s x with
  | nil => rfl
  | cons b cs ih => exact ih

/-- What relates a state to the draft before every call relates it to the draft at the end. -/
theorem beside_keeps {p : σ → Draft → Prop} (hstep : ∀ s x a, p x s → p (step s x a) (s.call c a).1)
    (h : p x s) (cs : List Call) : p (beside c step s x cs) (s.calls c cs) := by
  induction cs generalizing s x with
  | nil => exact h
  | cons a cs ih => exact ih (hstep s x a h)

theorem delimiter_of_override {d : Dialect} {x : Delimiter} (h : s.override = some x) :
    s.delimiter d = x := by
  simp [delimiter, h]

/-- As long as no delimiter is set, the dialect gives it. -/
theorem delimiter_of_own {d : Dialect} (h : s.override = none) :
    s.delimiter d = if s.special then d.specialDelimiter else d.delimiter := by
  simp [delimiter, h]

end Draft

/-- What a scan carries on if it remembers by themselves whether a block comment is open and which
literal is. -/
structure Memory where
  inComment : Bool := false
  literal : Option Literal := none
  deriving DecidableEq, Repr

namespace Memory

/-- A comment and a literal are not open together. -/
def Apart (m : Memory) : Prop :=
  m.inComment = true → m.literal = none

/-- What is open; a comment hides a literal. -/
def mode (m : Memory) : Mode :=
  if m.inComment then .comment
  else match m.literal with
    | some l => .literal l
    | none => .code

/-- The code of the rest of a line, and what is remembered at its end. -/
def scan (d : Dialect) (m : Memory) (before : Option Char) (t : Text) : Text × Memory :=
  match t with
  | [] => ([], m)
  | c :: rest =>
    if m.inComment then
      match Text.find? ['*', '/'] (c :: rest) with
      | none => ([], m)
      | some n => scan d { m with inComment := false } (some '/') (rest.drop (n + 1))
    else match m.literal with
      | some l =>
        match l.close? (c :: rest) with
        | none => ([], m)
        | some n =>
          let (code, last) := scan d { m with literal := none } l.closer.text.getLast?
            (rest.drop (n + l.closer.more.length))
          (l.closer.text ++ code, last)
      | none =>
        if d.startsLineComment (c :: rest) then ([], m)
        else if startsBlockComment (c :: rest) then
          scan d { m with inComment := true } (some '*') (rest.drop 1)
        else match d.opener? before (c :: rest) with
          | some o =>
            let (code, last) := scan d { m with literal := some o.literal } o.mark.text.getLast?
              (rest.drop o.mark.more.length)
            (o.mark.text ++ code, last)
          | none =>
            let (code, last) := scan d m (some c) rest
            (c :: code, last)
termination_by t.length
decreasing_by all_goals (simp only [List.length_drop, List.length_cons]; omega)

variable {d : Dialect} {m : Memory} {before : Option Char} {t : Text}

theorem mode_of_comment (h : m.inComment = true) : m.mode = .comment := by
  simp [mode, h]

theorem mode_of_literal {l : Literal} (hc : ¬ m.inComment = true) (hl : m.literal = some l) :
    m.mode = .literal l := by
  simp [mode, hc, hl]

theorem mode_of_code (hc : ¬ m.inComment = true) (hl : m.literal = none) : m.mode = .code := by
  simp [mode, hc, hl]

/-- Remembering the two apart gives the code and the mode of a scan by modes, and keeps them
apart. -/
theorem scan_eq (h : m.Apart) :
    d.read m.mode before t = ((m.scan d before t).1, (m.scan d before t).2.mode) ∧
      (m.scan d before t).2.Apart := by
  fun_induction scan d m before t with
  | case1 => exact ⟨Dialect.read_nil, h⟩
  | case2 m before c rest hc hf =>
    rw [mode_of_comment hc]
    exact ⟨Dialect.read_comment_none hf, h⟩
  | case3 m before c rest hc n hf ih =>
    have hl := h hc
    rw [mode_of_comment hc, Dialect.read_comment_some hf]
    rw [hl] at ih ⊢
    exact ih (fun _ => rfl)
  | case4 m before c rest hc l hl hf =>
    rw [mode_of_literal hc hl]
    exact ⟨Dialect.read_literal_none hf, h⟩
  | case5 m before c rest hc l hl n hf code last he ih =>
    have hm : ({ m with literal := none } : Memory).mode = .code := mode_of_code hc rfl
    obtain ⟨hr, ha⟩ := ih (fun _ => rfl)
    rw [hm, he] at hr
    rw [he] at ha
    refine ⟨?_, ha⟩
    rw [mode_of_literal hc hl, Dialect.read_literal_some hf]
    exact congrArg (prepend l.closer.text) hr
  | case6 m before c rest hc hl hs =>
    rw [mode_of_code hc hl, Dialect.read_token (.lineComment hs)]
    exact ⟨by rw [Dialect.read_nil]; rfl, h⟩
  | case7 m before c rest hc hl hs hb ih =>
    obtain ⟨r, hr⟩ := List.isPrefixOf_iff_prefix.mp hb
    obtain ⟨rfl, rfl⟩ := List.cons.inj hr
    have hr : d.read .code before ('/' :: '*' :: r) = d.read .comment (some '*') r :=
      Dialect.read_token (.commentStart r)
    rw [mode_of_code hc hl]
    exact ⟨hr.trans (ih (fun _ => hl)).1, (ih (fun _ => hl)).2⟩
  | case8 m before c rest hc hl hs hb o ho code last he ih =>
    have hm : ({ m with literal := some o.literal } : Memory).mode = .literal o.literal :=
      mode_of_literal hc rfl
    obtain ⟨hr, ha⟩ := ih (fun hi => absurd hi hc)
    rw [hm, he] at hr
    rw [he] at ha
    obtain ⟨r, ht⟩ := Dialect.eq_append_of_opener? ho
    have hd : rest.drop o.mark.more.length = r := by
      rw [(List.cons.inj ht).2]
      exact List.drop_left
    rw [hd] at hr
    rw [ht] at hs hb ho ⊢
    rw [mode_of_code hc hl, Dialect.read_token
      (.literalStart r (eq_false_of_ne_true hs) (eq_false_of_ne_true hb) ho), hr]
    exact ⟨rfl, ha⟩
  | case9 m before c rest hc hl hs hb ho code last he ih =>
    obtain ⟨hr, ha⟩ := ih h
    rw [mode_of_code hc hl, he] at hr
    rw [he] at ha
    rw [mode_of_code hc hl, Dialect.read_token
      (.inCode (eq_false_of_ne_true hs) (eq_false_of_ne_true hb) ho), hr]
    exact ⟨rfl, ha⟩

/-- What is remembered after a call on the draft `s`: lines are scanned, but no data. -/
def call (c : Cutting) (s : Draft) (m : Memory) : Call → Memory
  | .add line => if s.readsData c.dialect then m else (m.scan c.dialect none line).2
  | _ => m

/-- What is remembered after several calls. -/
def calls (c : Cutting) : Draft → Memory → List Call → Memory :=
  Draft.beside c fun s m a => m.call c s a

/-- What is remembered is what the draft takes to be open. -/
structure Tracks (m : Memory) (s : Draft) : Prop where
  apart : m.Apart
  mode : m.mode = s.mode

variable {c : Cutting} {s : Draft}

theorem Tracks.call (h : m.Tracks s) (a : Call) : (m.call c s a).Tracks (s.call c a).1 := by
  cases a with
  | add line =>
    rw [Memory.call]
    split_ifs with hd
    · exact ⟨h.apart, h.mode.trans (Draft.mode_add_of_data hd line).symm⟩
    · obtain ⟨hr, ha⟩ : c.dialect.read m.mode none line = _ ∧ _ := scan_eq h.apart
      rw [h.mode] at hr
      have hm := (Draft.scan_of_code (eq_false_of_ne_true hd) line).2
      exact ⟨ha, (hm.trans (congrArg Prod.snd hr)).symm⟩
  | _ => exact ⟨h.apart, h.mode⟩

theorem Tracks.calls (h : m.Tracks s) (cs : List Call) : (calls c s m cs).Tracks (s.calls c cs) :=
  Draft.beside_keeps (p := Tracks) (fun _ _ a h => h.call a) h cs

end Memory

/-- The delimiter that a call sets. -/
def Call.delimiter? : Call → Option Delimiter
  | .setDelimiter x => some x
  | _ => none

/-- The delimiter that was set last. -/
def lastDelimiter? (cs : List Call) : Option Delimiter :=
  cs.reverse.findSome? Call.delimiter?

theorem lastDelimiter?_append (a b : List Call) :
    lastDelimiter? (a ++ b) = (lastDelimiter? b).or (lastDelimiter? a) := by
  rw [lastDelimiter?, List.reverse_append, List.findSome?_append]
  rfl

theorem lastDelimiter?_eq_none_of_front {a b : List Call} (hab : a <+: b)
    (h : lastDelimiter? b = none) : lastDelimiter? a = none := by
  obtain ⟨e, rfl⟩ := hab
  rw [lastDelimiter?_append, Option.or_eq_none_iff] at h
  exact h.2

/-- A delimiter that has one place, where the dialect's own is written over by the one that is set,
and the note that one was set. -/
structure Ending where
  delimiter : Delimiter
  given : Bool := false
  deriving DecidableEq, Repr

namespace Ending

/-- A line may bring the special delimiter, but only as long as none was set. -/
def call (c : Cutting) (s : Draft) (e : Ending) : Call → Ending
  | .add line =>
    let head := Draft.extendHead s.head (s.scan c.dialect line).plainCode
    if !e.given && c.dialect.isSpecial head then { e with delimiter := c.dialect.specialDelimiter }
    else e
  | .setDelimiter x => ⟨x, true⟩
  | _ => e

/-- The delimiter after several calls on a new draft. -/
def calls (c : Cutting) : List Call → Ending :=
  Draft.beside c (fun s e a => e.call c s a) {} ⟨c.dialect.delimiter, false⟩

/-- The delimiter is the draft's, and it is noted whether it was set. -/
structure Tracks (d : Dialect) (e : Ending) (s : Draft) : Prop where
  delimiter : e.delimiter = s.delimiter d
  given : e.given = s.override.isSome

variable {c : Cutting} {e : Ending} {s : Draft} {cs : List Call} {x : Delimiter}

theorem call_add_of_given (h : e.given = true) (line : Text) : e.call c s (.add line) = e := by
  simp [call, h]

theorem given_call_add (line : Text) : (e.call c s (.add line)).given = e.given := by
  unfold call
  dsimp only
  split <;> rfl

/-- Where none was set, the line decides that brings the statement's head. -/
theorem delimiter_call_add (h : e.given = false) (line : Text) :
    (e.call c s (.add line)).delimiter =
      if c.dialect.isSpecial (Draft.extendHead s.head (s.scan c.dialect line).plainCode) then
        c.dialect.specialDelimiter
      else
        e.delimiter := by
  unfold call
  dsimp only
  rw [h, Bool.not_false, Bool.true_and]
  exact apply_ite Ending.delimiter _ _ _

theorem Tracks.call (h : e.Tracks c.dialect s) (a : Call) :
    (e.call c s a).Tracks c.dialect (s.call c a).1 := by
  cases a with
  | add line =>
    refine ⟨?_, (given_call_add line).trans h.given⟩
    show _ = (s.add c.dialect line).delimiter c.dialect
    cases ho : s.override with
    | some x =>
      have hgiven : e.given = true := by rw [h.given, ho]; rfl
      have hnext : (s.add c.dialect line).override = some x := ho
      rw [call_add_of_given hgiven, h.delimiter, Draft.delimiter_of_override ho,
        Draft.delimiter_of_override hnext]
    | none =>
      have hgiven : e.given = false := by rw [h.given, ho]; rfl
      have hnext : (s.add c.dialect line).override = none := ho
      rw [delimiter_call_add hgiven, h.delimiter, Draft.delimiter_of_own ho,
        Draft.delimiter_of_own hnext, Draft.special_add_eq ho, Draft.head_add ho]
      cases s.special <;> simp
  | setDelimiter x => exact ⟨rfl, rfl⟩
  | _ => exact ⟨h.delimiter, h.given⟩

theorem tracks_calls (c : Cutting) (cs : List Call) :
    (calls c cs).Tracks c.dialect (Draft.calls c {} cs) :=
  Draft.beside_keeps (p := Tracks c.dialect) (fun _ _ a h => h.call a) ⟨rfl, rfl⟩ cs

/-- Once a delimiter was set, there is no other but the one that was set last. -/
theorem calls_of_lastDelimiter (h : lastDelimiter? cs = some x) : calls c cs = ⟨x, true⟩ := by
  induction cs using List.reverseRecOn with
  | nil => contradiction
  | append_singleton cs a ih =>
    rw [calls, Draft.beside_concat]
    rw [lastDelimiter?_append] at h
    cases a with
    | setDelimiter y =>
      obtain rfl : y = x := Option.some.inj h
      rfl
    | add line => exact (call_add_of_given (congrArg given (ih h)) line).trans (ih h)
    | _ => exact ih h

end Ending

namespace Draft

variable {c : Cutting} {s : Draft}

/-- What every call keeps is kept by any calls. -/
theorem calls_keep {p : Draft → Prop} (step : ∀ s a, p s → p (s.call c a).1) (h : p s)
    (cs : List Call) : p (s.calls c cs) := by
  induction cs generalizing s with
  | nil => exact h
  | cons a cs ih => exact ih (step s a h)

/-- What has ended stays ended. -/
theorem terminated_calls (h : s.terminated = true) (cs : List Call) :
    (s.calls c cs).terminated = true := by
  refine calls_keep (p := fun s => s.terminated = true) (fun s a h => ?_) h cs
  cases a with
  | add line => exact terminated_add_iff.mpr (.inl h)
  | _ => exact h

theorem special_calls (h : s.special = true) (cs : List Call) : (s.calls c cs).special = true := by
  refine calls_keep (p := fun s => s.special = true) (fun s a h => ?_) h cs
  cases a with
  | add line => exact special_add h
  | _ => exact h

/-- Blocks are open only where they are counted. -/
def Counts (d : Dialect) (s : Draft) : Prop :=
  s.depth ≠ 0 → s.tracksBlocks d = true

theorem Counts.add {d : Dialect} (h : s.Counts d) (line : Text) : (s.add d line).Counts d := by
  intro hn
  rw [depth_add] at hn
  by_cases ht : (s.add d line).tracksBlocks d = true
  · exact ht
  · rw [if_neg ht] at hn
    obtain ⟨hd, hs⟩ := Bool.and_eq_true_iff.mp (h hn)
    exact Bool.and_eq_true_iff.mpr ⟨hd, special_add hs⟩

theorem Counts.calls (h : s.Counts c.dialect) (cs : List Call) :
    (s.calls c cs).Counts c.dialect := by
  refine calls_keep (p := Counts c.dialect) (fun s a h => ?_) h cs
  cases a with
  | add line => exact h.add line
  | _ => exact h

/-- Only a call that sets the delimiter changes the one that is set. -/
theorem override_calls (cs : List Call) :
    (s.calls c cs).override = (lastDelimiter? cs).or s.override := by
  induction cs using List.reverseRecOn with
  | nil => rfl
  | append_singleton cs a ih =>
    rw [calls_concat, lastDelimiter?_append]
    cases a with
    | setDelimiter x => rfl
    | _ => exact ih

theorem delimiter_calls {cs : List Call} (hs : s.override = none) (h : lastDelimiter? cs = none) :
    (s.calls c cs).delimiter c.dialect =
      if (s.calls c cs).special then c.dialect.specialDelimiter else c.dialect.delimiter := by
  refine delimiter_of_own ?_
  rw [override_calls, h, hs]
  rfl

/-- A statement becomes special at one line, if it does. -/
theorem exists_switch (h : s.special = false) (cs : List Call) : (s.calls c cs).special = false ∨
    ∃ front line back, cs = front ++ .add line :: back ∧ (s.calls c front).special = false ∧
      (s.calls c (front ++ [.add line])).special = true := by
  induction cs using List.reverseRecOn with
  | nil => exact .inl h
  | append_singleton cs a ih =>
    rcases ih with hf | ⟨front, line, back, rfl, hf, ht⟩
    · cases a with
      | add line =>
        by_cases ht : (s.calls c (cs ++ [.add line])).special = true
        · exact .inr ⟨cs, line, [], rfl, hf, ht⟩
        · exact .inl (eq_false_of_ne_true ht)
      | _ => exact .inl (by rw [calls_concat]; exact hf)
    · exact .inr ⟨front, line, back ++ [a], by simp, hf, ht⟩

/-- A statement that is not special after some calls was not special before the last of them. -/
theorem not_special_of_prefix {a b : List Call} (hab : a <+: b)
    (h : (s.calls c b).special = false) : (s.calls c a).special = false := by
  obtain ⟨e, rfl⟩ := hab
  rw [calls_append] at h
  rw [← Bool.not_eq_true]
  intro ha
  simp [special_calls ha] at h

/-- How a new draft stands after some calls. -/
structure Consistent (c : Cutting) (cs : List Call) : Prop where
  /-- No literal is open in a comment. -/
  apart : (Memory.calls c {} {} cs).inComment = true → (Memory.calls c {} {} cs).literal = none
  /-- What is remembered there is the draft's own mode. -/
  mode : (Memory.calls c {} {} cs).mode = (calls c {} cs).mode
  counted : (calls c {} cs).depth ≠ 0 → (calls c {} cs).tracksBlocks c.dialect = true
  stays : (calls c {} cs).terminated = true →
    ∀ more, (calls c {} (cs ++ more)).terminated = true
  given : ∀ x, lastDelimiter? cs = some x → (calls c {} cs).delimiter c.dialect = x
  /-- So it is where a delimiter that was set stands in the place of the dialect's own. -/
  kept : ∀ x, lastDelimiter? cs = some x → (Ending.calls c cs).delimiter = x
  /-- The delimiter there is the draft's own. -/
  ending : (Ending.calls c cs).delimiter = (calls c {} cs).delimiter c.dialect
  /-- Without a given delimiter it is the usual one all the time, or the usual one before some line
  and the special one ever after. -/
  own : lastDelimiter? cs = none →
    (∀ a, a <+: cs → (calls c {} a).delimiter c.dialect = c.dialect.delimiter) ∨
    ∃ front line back, cs = front ++ .add line :: back ∧
      (∀ a, a <+: front → (calls c {} a).delimiter c.dialect = c.dialect.delimiter) ∧
      ∀ more, lastDelimiter? more = none →
        (calls c {} (front ++ .add line :: more)).delimiter c.dialect = c.dialect.specialDelimiter

/-- Before a statement becomes special its delimiter is the usual one. -/
theorem usual_delimiter {a cs : List Call} (ha : a <+: cs) (hn : lastDelimiter? cs = none)
    (hs : (calls c {} cs).special = false) :
    (calls c {} a).delimiter c.dialect = c.dialect.delimiter := by
  rw [delimiter_calls rfl (lastDelimiter?_eq_none_of_front ha hn), not_special_of_prefix ha hs]
  rfl

/-- Whatever is called, in any order and also after the end of the statement, the parts of a draft
fit together. -/
theorem consistent_calls (c : Cutting) (cs : List Call) : Consistent c cs where
  apart := (Memory.Tracks.calls (s := {}) ⟨fun _ => rfl, rfl⟩ cs).apart
  mode := (Memory.Tracks.calls (s := {}) ⟨fun _ => rfl, rfl⟩ cs).mode
  counted := Counts.calls (s := {}) (fun h => absurd rfl h) cs
  stays h more := by
    rw [calls_append]
    exact terminated_calls h more
  given x hx := delimiter_of_override (by rw [override_calls, hx]; rfl)
  kept x hx := congrArg Ending.delimiter (Ending.calls_of_lastDelimiter hx)
  ending := (Ending.tracks_calls c cs).delimiter
  own hn := by
    rcases exists_switch (c := c) (s := {}) rfl cs with hs | ⟨front, line, back, rfl, hf, ht⟩
    · exact .inl fun a ha => usual_delimiter ha hn hs
    · have hn' := lastDelimiter?_eq_none_of_front (List.prefix_append front _) hn
      refine .inr ⟨front, line, back, rfl, fun a ha => usual_delimiter ha hn' hf, ?_⟩
      intro more hm
      have hall : lastDelimiter? (front ++ .add line :: more) = none := by
        rw [List.append_cons, lastDelimiter?_append, lastDelimiter?_append, hm, hn']
        rfl
      have hs : (calls c {} (front ++ .add line :: more)).special = true := by
        rw [List.append_cons, calls_append]
        exact special_calls ht more
      rw [delimiter_calls rfl hall, hs]
      rfl

end Draft
end MigrationScript
