import MigrationScript.Dialect.Head
import MigrationScript.Proofs.Words

/-!
Patterns of the code that special statements begin with, character by character. A head of words is
that of a special statement exactly where the pattern of its dialect fits the words, written side by
side. Main statement: this equivalence, for every dialect that has special statements.
-/
namespace MigrationScript

open Text

/-- A place in a text: the character in front of it, if any, and what follows. -/
structure Spot where
  before : Option Char
  rest : Text
  deriving DecidableEq, Repr

/-- The place behind a text, if the text stands here. -/
def Spot.pass? (x : Spot) (t : Text) : Option Spot :=
  (after? t x.rest).map fun r => ⟨t.getLast?.or x.before, r⟩

/-- Every place that any number of characters of a kind lead to. -/
def Spot.passing (kind : Char → Bool) : Option Char → Text → List Spot
  | b, [] => [⟨b, []⟩]
  | b, c :: t => ⟨b, c :: t⟩ :: if kind c then passing kind (some c) t else []

inductive Pattern where
  /-- One of some texts. -/
  | oneOf (ts : List String)
  /-- A character of a kind. -/
  | one (kind : Char → Bool)
  /-- Any number of characters of a kind. -/
  | many (kind : Char → Bool)
  /-- A place where word characters begin or end. -/
  | border
  | seq (p q : Pattern)
  | alt (p q : Pattern)
  | opt (p : Pattern)

namespace Pattern

/-- The pattern fits at a place and can end where `goal` holds. -/
def leadsTo : Pattern → (Spot → Bool) → Spot → Bool
  | oneOf ts, goal, x => ts.any fun t => (x.pass? t.toList).any goal
  | one kind, goal, x =>
    match x.rest with
    | [] => false
    | c :: r => kind c && goal ⟨some c, r⟩
  | many kind, goal, x => (Spot.passing kind x.before x.rest).any goal
  | border, goal, x => (x.before.any isWordChar != x.rest.head?.any isWordChar) && goal x
  | seq p q, goal, x => p.leadsTo (q.leadsTo goal) x
  | alt p q, goal, x => p.leadsTo goal x || q.leadsTo goal x
  | opt p, goal, x => goal x || p.leadsTo goal x

/-- The pattern fits a beginning of the text. -/
def fits (p : Pattern) (t : Text) : Bool :=
  p.leadsTo (fun _ => true) ⟨none, t⟩

def word (w : String) : Pattern :=
  .oneOf [w]

def blanks : Pattern :=
  .seq (.one isBlank) (.many isBlank)

/-- An anonymous block, or the creation of a stored program unit. -/
def programUnit : Pattern :=
  .seq
    (.alt (.oneOf ["DECLARE", "BEGIN"]) <|
      .seq (word "CREATE") <| .seq blanks <|
      .seq (.opt <| .seq (word "OR") <| .seq blanks <| .seq (word "REPLACE") blanks) <|
      .seq (.opt <| .seq (.oneOf ["EDITIONABLE", "NONEDITIONABLE"]) blanks) <|
      .oneOf ["FUNCTION", "PROCEDURE", "PACKAGE", "TYPE", "TRIGGER", "LIBRARY", "JAVA"])
    .border

/-- A copy whose data follow the statement, whatever it is that is copied. -/
def inlineCopy : Pattern :=
  .seq (word "COPY") <| .seq (.one isBlank) <| .seq (.many (· != '\n')) <| .seq (.one isBlank) <|
    .seq (word "FROM") <| .seq blanks <| .seq (word "STDIN") .border

/-- The creation of a trigger. -/
def trigger : Pattern :=
  .seq (word "CREATE") <| .seq blanks <|
    .seq (.opt <| .seq (.oneOf ["TEMP", "TEMPORARY"]) blanks) <| .seq (word "TRIGGER") .border

variable {x y : Spot} {goal : Spot → Bool} {ts : List String} {b : Option Char} {kind : Char → Bool}
  {t : Text} {ws : List Text}

theorem leadsTo_oneOf : (oneOf ts).leadsTo goal x = true ↔
    ∃ t ∈ ts, ∃ r, x.rest = t.toList ++ r ∧ goal ⟨t.toList.getLast?.or x.before, r⟩ = true := by
  simp only [leadsTo, List.any_eq_true, Option.any_eq_true, Spot.pass?, Option.map_eq_some_iff]
  constructor
  · rintro ⟨t, ht, _, ⟨r, hr, rfl⟩, hgoal⟩
    exact ⟨t, ht, r, eq_append_of_after? hr, hgoal⟩
  · rintro ⟨t, ht, r, hr, hgoal⟩
    exact ⟨t, ht, _, ⟨r, by rw [hr, after?_append], rfl⟩, hgoal⟩

theorem leadsTo_one : (one kind).leadsTo goal x = true ↔
    ∃ c r, x.rest = c :: r ∧ kind c = true ∧ goal ⟨some c, r⟩ = true := by
  obtain ⟨b, t⟩ := x
  cases t with
  | nil => simp [leadsTo]
  | cons c r =>
    rw [leadsTo, Bool.and_eq_true]
    constructor
    · rintro ⟨hc, hgoal⟩
      exact ⟨c, r, rfl, hc, hgoal⟩
    · rintro ⟨c, r, heq, hc, hgoal⟩
      obtain ⟨rfl, rfl⟩ := List.cons.inj heq
      exact ⟨hc, hgoal⟩

theorem any_passing : (Spot.passing kind b t).any goal = true ↔ ∃ u r, t = u ++ r ∧
    (∀ c ∈ u, kind c = true) ∧ goal ⟨u.getLast?.or b, r⟩ = true := by
  induction t generalizing b with
  | nil =>
    simp only [Spot.passing, List.any_cons, List.any_nil, Bool.or_false]
    constructor
    · intro hgoal
      exact ⟨[], [], rfl, by simp, hgoal⟩
    · rintro ⟨u, r, hu, -, hgoal⟩
      obtain ⟨rfl, rfl⟩ := List.append_eq_nil_iff.mp hu.symm
      exact hgoal
  | cons c t ih =>
    rw [Spot.passing, List.any_cons, Bool.or_eq_true]
    constructor
    · rintro (hgoal | hmore)
      · exact ⟨[], c :: t, rfl, by simp, hgoal⟩
      · split at hmore
        next hc =>
          obtain ⟨u, r, rfl, hu, hgoal⟩ := ih.mp hmore
          refine ⟨c :: u, r, rfl, List.forall_mem_cons.mpr ⟨hc, hu⟩, ?_⟩
          rw [List.getLast?_cons]
          cases hlast : u.getLast? <;> simpa [hlast] using hgoal
        next => contradiction
    · rintro ⟨u, r, heq, hkind, hgoal⟩
      cases u with
      | nil =>
        obtain rfl : c :: t = r := heq
        exact .inl hgoal
      | cons e u =>
        obtain ⟨rfl, rfl⟩ := List.cons.inj heq
        obtain ⟨hc, hu⟩ := List.forall_mem_cons.mp hkind
        right
        rw [if_pos hc]
        refine ih.mpr ⟨u, r, rfl, hu, ?_⟩
        rw [List.getLast?_cons] at hgoal
        cases hlast : u.getLast? <;> simpa [hlast] using hgoal

/-- Behind a word character there is a border where no word character follows. -/
theorem leadsTo_border {c : Char} (hc : isWordChar c = true) :
    border.leadsTo goal ⟨some c, t⟩ = (endsWord t && goal ⟨some c, t⟩) := by
  simp [leadsTo, endsWord, hc]

theorem nextWord_eq {w : String} (hne : w.toList ≠ []) (hw : ∀ c ∈ w.toList, isBlank c = false) :
    Dialect.nextWord w ws = startsWithWord w.toList (joinWords ws) := by
  cases ws with
  | nil =>
    obtain ⟨c, u, hu⟩ := List.exists_cons_of_ne_nil hne
    simp [Dialect.nextWord, startsWithWord, hu, after?]
  | cons v ws =>
    obtain ⟨tail, htail, hjoin⟩ := joinWords_tail v ws
    rw [hjoin, startsWithWord_append_blank hw htail, Dialect.nextWord]

/-- Where only words follow, a pattern's `goal` holds if the words are such that `P` does, and `P`
does not hold where none follow. -/
structure Decides (goal : Spot → Bool) (P : List Text → Prop) : Prop where
  empty : ¬ P []
  words : ∀ (b : Option Char) {ws : List Text}, AreWords ws → (goal ⟨b, joinWords ws⟩ = true ↔ P ws)

/-- A text of word characters that has a border behind it starts the first of the words. -/
theorem decides_border (ts : List String)
    (hts : ∀ t ∈ ts, t.toList ≠ [] ∧ ∀ c ∈ t.toList, isWordChar c = true) :
    Decides ((oneOf ts).leadsTo (border.leadsTo fun _ => true))
      fun ws => ∃ t ∈ ts, Dialect.nextWord t ws = true where
  empty := by simp [Dialect.nextWord]
  words := by
    intro b ws _
    rw [leadsTo_oneOf]
    refine exists_congr fun t => and_congr_right fun ht => ?_
    obtain ⟨hne, hword⟩ := hts t ht
    have hsolid : ∀ c ∈ t.toList, isBlank c = false := by
      intro c hc
      rw [← Bool.not_eq_true]
      intro hb
      have := isWordChar_of_isBlank hb
      simp [hword c hc] at this
    obtain ⟨c, hlast⟩ : ∃ c, t.toList.getLast? = some c := ⟨_, List.getLast?_eq_some_getLast hne⟩
    have hc : isWordChar c = true := hword c (List.mem_of_getLast? hlast)
    rw [nextWord_eq hne hsolid, startsWithWord_iff, hlast]
    simp only [Option.some_or, leadsTo_border hc, Bool.and_true]

section Words

variable (hws : AreWords ws)
include hws

/-- A text without white space that a blank follows is the first of the words. -/
theorem leadsTo_oneOf_blank (hts : ∀ t ∈ ts, ∀ c ∈ t.toList, isBlank c = false) :
    (oneOf ts).leadsTo ((one isBlank).leadsTo goal) ⟨b, joinWords ws⟩ = true ↔
      ∃ t ∈ ts, ∃ more, more ≠ [] ∧ ws = t.toList :: more ∧
        goal ⟨some ' ', joinWords more⟩ = true := by
  simp only [leadsTo_oneOf, leadsTo_one]
  constructor
  · rintro ⟨t, ht, _, htext, c, r, rfl, hc, hgoal⟩
    obtain ⟨front, more, hfront, hmore, rfl, hjoin, rfl, rfl⟩ := exists_of_joinWords hws hc htext
    refine ⟨t, ht, more, hmore, ?_, hgoal⟩
    -- With more words than one there would be a blank in the text.
    obtain ⟨w, front, rfl⟩ := List.exists_cons_of_ne_nil hfront
    by_cases hone : front = []
    · rw [hjoin, hone, joinWords_singleton]
      rfl
    · rw [joinWords_cons hone] at hjoin
      have := hts t ht ' ' (by simp [hjoin])
      contradiction
  · rintro ⟨t, ht, more, hmore, rfl, hgoal⟩
    exact ⟨t, ht, _, joinWords_cons hmore _, ' ', _, rfl, by decide, hgoal⟩

theorem leadsTo_many_blank :
    (many isBlank).leadsTo goal ⟨b, joinWords ws⟩ = goal ⟨b, joinWords ws⟩ := by
  cases ws with
  | nil => simp [leadsTo, Spot.passing]
  | cons w ws =>
    obtain ⟨hne, hw⟩ := hws w List.mem_cons_self
    obtain ⟨c, w, rfl⟩ := List.exists_cons_of_ne_nil hne
    obtain ⟨tail, -, hjoin⟩ := joinWords_tail (c :: w) ws
    have hc : isBlank c = false := hw c List.mem_cons_self
    simp [leadsTo, hjoin, Spot.passing, hc]

/-- Behind anything and a blank there are the words from some word on, which is not the first. -/
theorem leadsTo_many_one :
    (many (· != '\n')).leadsTo ((one isBlank).leadsTo goal) ⟨b, joinWords ws⟩ = true ↔ ∃ front back,
      front ≠ [] ∧ back ≠ [] ∧ ws = front ++ back ∧ goal ⟨some ' ', joinWords back⟩ = true := by
  rw [leadsTo, any_passing]
  constructor
  · rintro ⟨u, r, hjoin, -, hgoal⟩
    obtain ⟨c, r, rfl, hc, hgoal⟩ := leadsTo_one.mp hgoal
    obtain ⟨front, back, hfront, hback, hsplit, -, rfl, rfl⟩ := exists_of_joinWords hws hc hjoin
    exact ⟨front, back, hfront, hback, hsplit, hgoal⟩
  · rintro ⟨front, back, hfront, hback, rfl, hgoal⟩
    have hline : '\n' ∉ joinWords front :=
      newline_joinWords fun w hw => hws w (List.mem_append_left _ hw)
    refine ⟨joinWords front, ' ' :: joinWords back, joinWords_append hfront hback, ?_,
      leadsTo_one.mpr ⟨' ', _, rfl, by decide, hgoal⟩⟩
    intro c hc
    rw [bne_iff_ne]
    rintro rfl
    exact hline hc

end Words

section Decides

variable {P : List Text → Prop} (h : Decides goal P)
include h

/-- One word goes first. -/
theorem Decides.word_blank (ts : List String) (hts : ∀ t ∈ ts, ∀ c ∈ t.toList, isBlank c = false) :
    Decides ((oneOf ts).leadsTo ((one isBlank).leadsTo goal))
      fun ws => ∃ t ∈ ts, ∃ more, ws = t.toList :: more ∧ P more where
  empty := by simp
  words := by
    intro b ws hws
    rw [leadsTo_oneOf_blank hws hts]
    refine exists_congr fun t => and_congr_right fun _ => exists_congr fun more => ?_
    constructor
    · rintro ⟨-, rfl, hgoal⟩
      exact ⟨rfl, (h.words _ fun w hw => hws w (List.mem_cons_of_mem _ hw)).mp hgoal⟩
    · rintro ⟨rfl, hP⟩
      refine ⟨?_, rfl, (h.words _ fun w hw => hws w (List.mem_cons_of_mem _ hw)).mpr hP⟩
      rintro rfl
      exact h.empty hP

theorem Decides.blanks : Decides ((many isBlank).leadsTo goal) P where
  empty := h.empty
  words := by
    intro b ws hws
    rw [leadsTo_many_blank hws]
    exact h.words b hws

theorem Decides.word (ts : List String) (hts : ∀ t ∈ ts, ∀ c ∈ t.toList, isBlank c = false) :
    Decides ((oneOf ts).leadsTo (Pattern.blanks.leadsTo goal))
      fun ws => ∃ t ∈ ts, ∃ more, ws = t.toList :: more ∧ P more :=
  h.blanks.word_blank ts hts

/-- Some words may go first. -/
theorem Decides.opt {p : Pattern} {Q : List Text → Prop} (hp : Decides (p.leadsTo goal) Q) :
    Decides ((Pattern.opt p).leadsTo goal) fun ws => P ws ∨ Q ws where
  empty := not_or.mpr ⟨h.empty, hp.empty⟩
  words := by
    intro b ws hws
    rw [← h.words b hws, ← hp.words b hws]
    exact Bool.or_eq_true_iff

/-- Any words go first, at least one. -/
theorem Decides.anywhere : Decides ((many (· != '\n')).leadsTo ((one isBlank).leadsTo goal))
    fun ws => ∃ front back, front ≠ [] ∧ ws = front ++ back ∧ P back where
  empty := by simp +contextual
  words := by
    intro b ws hws
    rw [leadsTo_many_one hws]
    refine exists_congr fun front => exists_congr fun back => and_congr_right fun _ => ?_
    constructor
    · rintro ⟨-, rfl, hgoal⟩
      exact ⟨rfl, (h.words _ fun w hw => hws w (List.mem_append_right _ hw)).mp hgoal⟩
    · rintro ⟨rfl, hP⟩
      refine ⟨?_, rfl, (h.words _ fun w hw => hws w (List.mem_append_right _ hw)).mpr hP⟩
      rintro rfl
      exact h.empty hP

end Decides

end Pattern

namespace Dialect

variable {ws : List Text}

/-- A kind of stored program units is named first. -/
def NamesUnit (ws : List Text) : Prop :=
  ∃ kind ∈ unitKinds, nextWord kind ws = true

/-- The words that may stand before the kind of a program unit start with none of the kinds. -/
theorem not_namesUnit_option {w : String} (h : w ∈ ["OR", "EDITIONABLE", "NONEDITIONABLE"]) :
    ¬ NamesUnit (w.toList :: ws) := by
  have hkinds : ∀ w ∈ ["OR", "EDITIONABLE", "NONEDITIONABLE"], ∀ kind ∈ unitKinds,
      startsWithWord kind.toList w.toList = false := by
    decide
  rintro ⟨kind, hkind, hnext⟩
  rw [nextWord, hkinds w h kind hkind] at hnext
  contradiction

/-- The head without a word on editions. -/
def dropEdition (ws : List Text) : List Text :=
  match ws with
  | w :: more => if w = "EDITIONABLE".toList ∨ w = "NONEDITIONABLE".toList then more else ws
  | [] => []

theorem dropOptions_eq (ws : List Text) : dropOptions ws =
    dropEdition (if ["OR".toList, "REPLACE".toList].isPrefixOf ws then ws.drop 2 else ws) := rfl

theorem namesUnit_dropEdition : NamesUnit (dropEdition ws) ↔ NamesUnit ws ∨
    ∃ w ∈ ["EDITIONABLE", "NONEDITIONABLE"], ∃ more, ws = w.toList :: more ∧ NamesUnit more := by
  cases ws with
  | nil => simp [dropEdition]
  | cons v ws =>
    rw [dropEdition]
    split
    next hv =>
      obtain ⟨w, hw, rfl⟩ : ∃ w ∈ ["EDITIONABLE", "NONEDITIONABLE"], v = w.toList := by
        simpa using hv
      constructor
      · intro h
        exact .inr ⟨w, hw, ws, rfl, h⟩
      · rintro (h | ⟨_, _, more, heq, h⟩)
        · exact absurd h (not_namesUnit_option (List.mem_cons_of_mem _ hw))
        · obtain ⟨-, rfl⟩ := List.cons.inj heq
          exact h
    next hv =>
      refine ⟨.inl, ?_⟩
      rintro (h | ⟨w, hw, more, heq, -⟩)
      · exact h
      · obtain ⟨rfl, -⟩ := List.cons.inj heq
        refine absurd ?_ hv
        simpa only [List.mem_cons, List.not_mem_nil, or_false, String.toList_inj] using hw

theorem namesUnit_dropOptions : NamesUnit (dropOptions ws) ↔ NamesUnit (dropEdition ws) ∨
    ∃ more, ws = "OR".toList :: "REPLACE".toList :: more ∧ NamesUnit (dropEdition more) := by
  rw [dropOptions_eq]
  split
  next h =>
    obtain ⟨more, rfl⟩ := List.isPrefixOf_iff_prefix.mp h
    constructor
    · intro h
      exact .inr ⟨more, rfl, h⟩
    · rintro (h | ⟨_, heq, h⟩)
      · exact absurd h (not_namesUnit_option (w := "OR") (by decide))
      · obtain rfl := List.append_cancel_left heq
        exact h
  next hor =>
    refine ⟨.inl, ?_⟩
    rintro (h | ⟨more, rfl, -⟩)
    · exact h
    · exact absurd (List.isPrefixOf_iff_prefix.mpr ⟨more, rfl⟩) hor

theorem readsInput_iff : readsInput ws = true ↔ ∃ front back,
    front ≠ [] ∧ ws = front ++ "FROM".toList :: back ∧ nextWord "STDIN" back = true := by
  fun_induction readsInput ws with
  | case1 v w ws ih =>
    rw [Bool.or_eq_true, Bool.and_eq_true, beq_iff_eq, ih]
    constructor
    · rintro (⟨rfl, hnext⟩ | ⟨front, back, -, heq, hnext⟩)
      · exact ⟨[v], ws, by simp, rfl, hnext⟩
      · exact ⟨v :: front, back, by simp, congrArg (v :: ·) heq, hnext⟩
    · rintro ⟨front, back, hfront, heq, hnext⟩
      obtain ⟨u, front, rfl⟩ := List.exists_cons_of_ne_nil hfront
      obtain ⟨-, hmore⟩ := List.cons.inj heq
      cases front with
      | nil =>
        obtain ⟨rfl, rfl⟩ := List.cons.inj hmore
        exact .inl ⟨rfl, hnext⟩
      | cons u front => exact .inr ⟨u :: front, back, by simp, hmore, hnext⟩
  | case2 ws hshort =>
    simp only [Bool.false_eq_true, false_iff]
    rintro ⟨front, back, hfront, rfl, -⟩
    obtain ⟨u, front, rfl⟩ := List.exists_cons_of_ne_nil hfront
    cases front with
    | nil => exact hshort _ _ _ rfl
    | cons w front => exact hshort _ _ _ rfl

theorem isProgramUnit_iff : isProgramUnit ws = true ↔
    (nextWord "DECLARE" ws = true ∨ nextWord "BEGIN" ws = true) ∨
      ∃ more, ws = "CREATE".toList :: more ∧ NamesUnit (dropOptions more) := by
  cases ws with
  | nil => simp [isProgramUnit, nextWord]
  | cons w more => simp [isProgramUnit, NamesUnit, and_assoc]

theorem isInlineCopy_iff : isInlineCopy ws = true ↔
    ∃ more, ws = "COPY".toList :: more ∧ readsInput more = true := by
  cases ws with
  | nil => simp [isInlineCopy]
  | cons w more => simp [isInlineCopy, and_assoc]

theorem isTrigger_iff : isTrigger ws = true ↔ ∃ more, ws = "CREATE".toList :: more ∧
    (nextWord "TRIGGER" more = true ∨ ∃ w ∈ ["TEMP", "TEMPORARY"], ∃ rest,
      more = w.toList :: rest ∧ nextWord "TRIGGER" rest = true) := by
  rcases ws with _ | ⟨u, _ | ⟨v, rest⟩⟩
  · simp [isTrigger]
  · simp [isTrigger, and_assoc]
  · simp [isTrigger, and_assoc, or_and_right, exists_or]

/-- The pattern of the code that special statements of a dialect begin with. -/
def headPattern? : Dialect → Option Pattern
  | oracle => some .programUnit
  | postgres => some .inlineCopy
  | sqlite => some .trigger
  | _ => none

end Dialect

namespace Pattern

open Dialect

variable {ws : List Text}

theorem fits_programUnit (hws : AreWords ws) :
    programUnit.fits (joinWords ws) = true ↔ isProgramUnit ws = true := by
  have hkind : Decides ((oneOf unitKinds).leadsTo (border.leadsTo fun _ => true)) NamesUnit :=
    decides_border unitKinds (by decide)
  have hedition := hkind.opt (p := .seq (.oneOf ["EDITIONABLE", "NONEDITIONABLE"]) blanks)
    (hkind.word _ (by decide))
  have hoption := hedition.opt
    (p := .seq (.oneOf ["OR"]) <| .seq blanks <| .seq (.oneOf ["REPLACE"]) blanks)
    ((hedition.word _ (by decide)).word _ (by decide))
  have hcreate := (hoption.word ["CREATE"] (by decide)).words none hws
  have hblock := (decides_border ["DECLARE", "BEGIN"] (by decide)).words none hws
  rw [isProgramUnit_iff]
  refine Bool.or_eq_true_iff.trans (or_congr ?_ ?_)
  · refine hblock.trans ?_
    simp
  · refine hcreate.trans ?_
    simp only [List.mem_singleton, exists_eq_left, namesUnit_dropOptions, namesUnit_dropEdition]
    refine exists_congr fun more => and_congr_right fun _ => or_congr_right ?_
    constructor
    · rintro ⟨_, rfl, rest, rfl, h⟩
      exact ⟨rest, rfl, h⟩
    · rintro ⟨rest, rfl, h⟩
      exact ⟨_, rfl, rest, rfl, h⟩

theorem fits_inlineCopy (hws : AreWords ws) :
    inlineCopy.fits (joinWords ws) = true ↔ isInlineCopy ws = true := by
  have hinput := decides_border ["STDIN"] (by decide)
  have hfrom := hinput.word ["FROM"] (by decide)
  have hcopy := (hfrom.anywhere.word_blank ["COPY"] (by decide)).words none hws
  rw [isInlineCopy_iff]
  refine hcopy.trans ?_
  simp only [List.mem_singleton, exists_eq_left, readsInput_iff]
  refine exists_congr fun more => and_congr_right fun _ => exists_congr fun front => ?_
  constructor
  · rintro ⟨_, hfront, rfl, back, rfl, h⟩
    exact ⟨back, hfront, rfl, h⟩
  · rintro ⟨back, hfront, rfl, h⟩
    exact ⟨_, hfront, rfl, back, rfl, h⟩

theorem fits_trigger (hws : AreWords ws) :
    trigger.fits (joinWords ws) = true ↔ isTrigger ws = true := by
  have hname := decides_border ["TRIGGER"] (by decide)
  have hoption := hname.opt (p := .seq (.oneOf ["TEMP", "TEMPORARY"]) blanks)
    (hname.word _ (by decide))
  have hcreate := (hoption.word ["CREATE"] (by decide)).words none hws
  rw [isTrigger_iff]
  refine hcreate.trans ?_
  simp

end Pattern

/-- The words of a text are the head of a special statement exactly where the pattern of the dialect
fits the text with plain white space. -/
theorem Dialect.isSpecial_words (d : Dialect) (t : Text) :
    d.isSpecial (words t) = d.headPattern?.any fun p => p.fits (spaced t) := by
  have hws := areWords_words t
  cases d with
  | oracle => exact Bool.eq_iff_iff.mpr (Pattern.fits_programUnit hws).symm
  | postgres => exact Bool.eq_iff_iff.mpr (Pattern.fits_inlineCopy hws).symm
  | sqlite => exact Bool.eq_iff_iff.mpr (Pattern.fits_trigger hws).symm
  | _ => rfl

end MigrationScript
