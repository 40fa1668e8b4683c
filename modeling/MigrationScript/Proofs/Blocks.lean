import MigrationScript.Proofs.Recognition

/-!
Blocks in the body of a trigger. The words `BEGIN`, `CASE` and `END` are counted from the line on
that makes the statement a trigger, but the lines before it hold none of them. Main statement: a
trigger ends with the first line that ends with a semicolon and leaves nothing open, which for
properly nested blocks is the line that closes the body.
-/
namespace MigrationScript

open Text

/-- What stands before the word that makes a statement a trigger. -/
theorem Dialect.mem_of_not_trigger {ws more : List Text} (h : isTrigger (ws ++ more) = true)
    (hno : isTrigger ws = false) : ws ∈ [[], ["CREATE".toList], ["CREATE".toList, "TEMP".toList],
      ["CREATE".toList, "TEMPORARY".toList]] := by
  rw [← Bool.not_eq_true, isTrigger_iff] at hno
  obtain ⟨back, heq, hname⟩ := isTrigger_iff.mp h
  rcases ws with _ | ⟨u, ws⟩
  · simp
  obtain ⟨rfl, rfl⟩ := List.cons.inj heq
  rcases ws with _ | ⟨v, ws⟩
  · simp
  rcases hname with hname | ⟨w, hw, rest, heq, hname⟩
  · exact absurd ⟨v :: ws, rfl, .inl hname⟩ hno
  obtain ⟨rfl, rfl⟩ := List.cons.inj heq
  rcases ws with _ | ⟨x, ws⟩
  · simp only [List.mem_cons, List.not_mem_nil, or_false] at hw
    rcases hw with rfl | rfl <;> simp
  exact absurd ⟨_, rfl, .inr ⟨w, hw, x :: ws, rfl, hname⟩⟩ hno

namespace Draft

variable {d : Dialect} {a b lines front : List Text} {last : Text}

/-- How many blocks are open behind some words. -/
def openBlocks (ws : List Text) : Nat :=
  ws.foldl countWord 0

theorem openBlocks_append (vs ws : List Text) :
    openBlocks (vs ++ ws) = ws.foldl countWord (openBlocks vs) :=
  List.foldl_append

theorem wordRuns_wholeCode_append (a b : List Text) : wordRuns (wholeCode d (a ++ b)) =
    wordRuns (wholeCode d a) ++
      ((ofLines d a).scans d b).flatMap fun x => wordRuns x.plainCode :=
  runs_wholeCode_append (fun c hc => by simp [isWordChar_of_isBlank hc]) a b

theorem wordRuns_wholeCode_concat (a : List Text) (line : Text) :
    wordRuns (wholeCode d (a ++ [line])) =
      wordRuns (wholeCode d a) ++ wordRuns ((ofLines d a).scan d line).plainCode := by
  rw [wordRuns_wholeCode_append]
  simp [scans]

theorem tracksBlocks_ofLines (lines : List Text) : (ofLines .sqlite lines).tracksBlocks .sqlite =
    Dialect.isTrigger (words (wholeCode .sqlite lines)) :=
  special_ofLines rfl lines

/-- The lines of a trigger before it is recognised open no block. -/
theorem openBlocks_untracked (hpre : a <+: lines)
    (h : (ofLines .sqlite lines).tracksBlocks .sqlite = true)
    (hno : (ofLines .sqlite a).tracksBlocks .sqlite = false) :
    openBlocks (wordRuns (wholeCode .sqlite a)) = 0 := by
  obtain ⟨more, hmore⟩ := words_prefix_wholeCode (d := .sqlite) hpre
  rw [tracksBlocks_ofLines, ← hmore] at h
  rw [tracksBlocks_ofLines] at hno
  have hmem := Dialect.mem_of_not_trigger h hno
  have hruns : wordRuns (wholeCode .sqlite a) =
      (words (wholeCode .sqlite a)).flatMap wordRuns :=
    runs_eq_flatMap (fun c hc => by simp [isWordChar_of_isBlank hc]) _
  rw [hruns]
  revert hmem
  generalize words (wholeCode .sqlite a) = ws
  revert ws
  decide

/-- After every line of a trigger, as many blocks are open as all words so far leave open. -/
theorem depth_of_tracked (h : (ofLines .sqlite lines).tracksBlocks .sqlite = true)
    (hpre : a <+: lines) :
    (ofLines .sqlite a).depth = openBlocks (wordRuns (wholeCode .sqlite a)) := by
  induction a using List.reverseRecOn with
  | nil => rfl
  | append_singleton a line ih =>
    have ha := (List.prefix_append a [line]).trans hpre
    rw [ofLines_concat, depth_add, ih ha, ← ofLines_concat]
    split
    next =>
      rw [wordRuns_wholeCode_concat, openBlocks_append]
    next hno =>
      have hno := eq_false_of_ne_true hno
      rw [openBlocks_untracked hpre h hno]
      refine openBlocks_untracked ha h ?_
      rw [← Bool.not_eq_true] at hno ⊢
      intro hyes
      rw [ofLines_concat] at hno
      refine hno ?_
      exact special_add hyes

/-- A statement is ended by the first line that leaves nothing open and whose code ends with the
delimiter. -/
theorem terminated_ofLines_iff (lines : List Text) : (ofLines d lines).terminated = true ↔
    ∃ a line, a ++ [line] <+: lines ∧
      (ofLines d (a ++ [line])).mode = .code ∧ (ofLines d (a ++ [line])).depth = 0 ∧
      ((ofLines d (a ++ [line])).delimiter d).ends ((ofLines d a).scan d line).plainCode =
        true := by
  induction lines using List.reverseRecOn with
  | nil => simp [ofLines]
  | append_singleton lines last ih =>
    rw [ofLines_concat, terminated_add_iff, ih, ← ofLines_concat]
    constructor
    · rintro (⟨a, line, hpre, h⟩ | h)
      · exact ⟨a, line, hpre.trans (List.prefix_append lines [last]), h⟩
      · exact ⟨lines, last, List.prefix_rfl, h⟩
    · rintro ⟨a, line, hpre, h⟩
      rcases List.prefix_concat_iff.mp hpre with heq | hpre
      · obtain ⟨rfl, rfl⟩ := List.append_singleton_inj.mp heq
        exact .inr h
      · exact .inl ⟨a, line, hpre, h⟩

end Draft

/-- Words in which every `BEGIN` and every `CASE` has an `END` of its own. -/
inductive Nested : List Text → Prop where
  | nil : Nested []
  | word {w : Text} {ws : List Text}
      (plain : w ∉ ["BEGIN".toList, "CASE".toList, "END".toList]) (rest : Nested ws) :
      Nested (w :: ws)
  | block {w : Text} {body ws : List Text} (opens : w ∈ ["BEGIN".toList, "CASE".toList])
      (inside : Nested body) (rest : Nested ws) : Nested (w :: (body ++ "END".toList :: ws))

theorem nested_of_plain (ws : List Text)
    (h : ∀ w ∈ ws, w ∉ ["BEGIN".toList, "CASE".toList, "END".toList]) : Nested ws := by
  induction ws with
  | nil => exact .nil
  | cons w ws ih =>
    obtain ⟨hw, hws⟩ := List.forall_mem_cons.mp h
    exact .word hw (ih hws)

namespace Draft

variable {d : Dialect} {a b lines front ws p : List Text} {last w : Text} {n : Nat}

theorem countWord_plain (h : w ∉ ["BEGIN".toList, "CASE".toList, "END".toList]) :
    countWord n w = n := by
  simp only [List.mem_cons, List.not_mem_nil, or_false, not_or] at h
  rw [countWord, if_neg (not_or.mpr ⟨h.1, h.2.1⟩), if_neg h.2.2]

theorem countWord_open (h : w ∈ ["BEGIN".toList, "CASE".toList]) : countWord n w = n + 1 := by
  simp only [List.mem_cons, List.not_mem_nil, or_false] at h
  exact if_pos h

theorem countWord_close : countWord (n + 1) "END".toList = n := by
  simp [countWord]

/-- Nested words leave as many blocks open as were open before. -/
theorem count_nested (h : Nested ws) : ws.foldl countWord n = n := by
  induction h generalizing n with
  | nil => rfl
  | word plain rest ih => rw [List.foldl_cons, countWord_plain plain, ih]
  | block opens inside rest ihinside ihrest =>
    rw [List.foldl_cons, countWord_open opens, List.foldl_append, ihinside, List.foldl_cons,
      countWord_close, ihrest]

/-- Among nested words no block is closed that was open before them. -/
theorem le_count_of_prefix (h : Nested ws) (hp : p <+: ws) : n ≤ p.foldl countWord n := by
  induction h generalizing n p with
  | nil =>
    obtain rfl := List.prefix_nil.mp hp
    exact Nat.le_refl n
  | @word w ws plain rest ih =>
    rcases List.prefix_cons_iff.mp hp with rfl | ⟨p, rfl, hmore⟩
    · exact Nat.le_refl n
    · rw [List.foldl_cons, countWord_plain plain]
      exact ih hmore
  | @block w body ws opens inside rest ihinside ihrest =>
    rcases List.prefix_cons_iff.mp hp with rfl | ⟨p, rfl, t, ht⟩
    · exact Nat.le_refl n
    rw [List.foldl_cons, countWord_open opens]
    rcases List.append_eq_append_iff.mp ht with ⟨u, hbody, -⟩ | ⟨u, rfl, hu⟩
    · have := ihinside (n := n + 1) ⟨u, hbody.symm⟩
      omega
    · rw [List.foldl_append, count_nested inside]
      rcases List.cons_eq_append_iff.mp hu with ⟨rfl, -⟩ | ⟨u, rfl, hrest⟩
      · exact Nat.le_succ n
      · rw [List.foldl_cons, countWord_close]
        exact ihrest ⟨t, hrest.symm⟩

/-- Between the word that opens the outermost block and the one that closes it, a block is open. -/
theorem openBlocks_inside {before inside : List Text} (hbefore : Nested before)
    (hinside : Nested inside) (hp : p <+: before ++ "BEGIN".toList :: inside)
    (hno : ¬ p <+: before) : 0 < openBlocks p := by
  obtain ⟨t, ht⟩ := hp
  rcases List.append_eq_append_iff.mp ht with ⟨u, hfront, -⟩ | ⟨u, rfl, hu⟩
  · exact absurd ⟨u, hfront.symm⟩ hno
  rcases List.cons_eq_append_iff.mp hu with ⟨rfl, -⟩ | ⟨u, rfl, hrest⟩
  · rw [List.append_nil] at hno
    exact absurd List.prefix_rfl hno
  · rw [openBlocks_append, openBlocks, count_nested hbefore, List.foldl_cons,
      countWord_open (by decide)]
    exact le_count_of_prefix hinside ⟨t, hrest.symm⟩

/-- The last of some lines closes the outermost block of properly nested ones, and no line of what
stands before that block ends with a semicolon. -/
structure WritesBody (front : List Text) (last : Text) (before inside : List Text) : Prop where
  words : wordRuns (wholeCode .sqlite (front ++ [last])) =
    before ++ "BEGIN".toList :: (inside ++ ["END".toList])
  nestedBefore : Nested before
  nestedInside : Nested inside
  quiet : ∀ a line, a ++ [line] <+: front → wordRuns (wholeCode .sqlite (a ++ [line])) <+: before →
    ¬ [';'] <:+ trimEnd ((ofLines .sqlite a).scan .sqlite line).code
  closes : "END;".toList <:+ ((ofLines .sqlite front).scan .sqlite last).plainCode

namespace WritesBody

variable {before inside : List Text}

theorem openBlocks_eq_zero (h : WritesBody front last before inside) :
    openBlocks (wordRuns (wholeCode .sqlite (front ++ [last]))) = 0 := by
  rw [h.words, openBlocks_append, openBlocks, count_nested h.nestedBefore, List.foldl_cons,
    countWord_open (by decide), List.foldl_append, count_nested h.nestedInside]
  exact countWord_close

/-- The word that closes the outermost block comes with the last line. -/
theorem words_front (h : WritesBody front last before inside) :
    wordRuns (wholeCode .sqlite front) <+: before ++ "BEGIN".toList :: inside := by
  have hwords := h.words
  rw [wordRuns_wholeCode_concat, ← List.cons_append, ← List.append_assoc] at hwords
  rcases List.prefix_concat_iff.mp ⟨_, hwords⟩ with heq | hpre
  · rw [heq, List.append_right_eq_self] at hwords
    obtain ⟨u, hu⟩ := h.closes
    have hmem : 'E' ∈ ((ofLines .sqlite front).scan .sqlite last).plainCode := by
      rw [← hu]
      simp
    exact absurd hwords (runs_ne_nil hmem (by decide))
  · exact hpre

theorem ends_semicolon (h : WritesBody front last before inside) :
    [';'] <:+ trimEnd ((ofLines .sqlite front).scan .sqlite last).code := by
  rw [← Scan.ends_semicolon_iff, Delimiter.ends, if_neg (by decide), List.isSuffixOf_iff_suffix]
  exact List.IsSuffix.trans (by decide) h.closes

end WritesBody

/-- How the blocks of a trigger are counted and where it ends: after each of its lines the depth is
the number of blocks that the words so far leave open; it is ended by the first line that leaves
neither a block nor a literal or a comment open and whose code ends with a semicolon; and a body of
nested blocks is ended by the line that closes it, if that line leaves no comment open. -/
structure CountsBlocks (lines : List Text) : Prop where
  depth : ∀ a, a <+: lines →
    (ofLines .sqlite a).depth = openBlocks (wordRuns (wholeCode .sqlite a))
  ends : ∀ a, a <+: lines → ((ofLines .sqlite a).terminated = true ↔
    ∃ b line, b ++ [line] <+: a ∧
      openBlocks (wordRuns (wholeCode .sqlite (b ++ [line]))) = 0 ∧
      (ofLines .sqlite (b ++ [line])).mode = .code ∧
      [';'] <:+ trimEnd ((ofLines .sqlite b).scan .sqlite line).code)
  body : ∀ front last before inside, lines = front ++ [last] →
    WritesBody front last before inside →
    (ofLines .sqlite front).terminated = false ∧
      ((ofLines .sqlite lines).mode = .code ↔ ({} : Draft).EndsAt .sqlite lines)

theorem ends_of_tracked (h : (ofLines .sqlite lines).tracksBlocks .sqlite = true)
    (hpre : a <+: lines) : (ofLines .sqlite a).terminated = true ↔
      ∃ b line, b ++ [line] <+: a ∧
        openBlocks (wordRuns (wholeCode .sqlite (b ++ [line]))) = 0 ∧
        (ofLines .sqlite (b ++ [line])).mode = .code ∧
        [';'] <:+ trimEnd ((ofLines .sqlite b).scan .sqlite line).code := by
  have hdelimiter (b : List Text) : (ofLines .sqlite b).delimiter .sqlite = .semicolon := by
    rw [delimiter_ofLines]
    exact ite_self _
  rw [terminated_ofLines_iff]
  refine exists_congr fun b => exists_congr fun line => and_congr_right fun hb => ?_
  rw [depth_of_tracked h (hb.trans hpre), hdelimiter, Scan.ends_semicolon_iff]
  exact and_left_comm

theorem countsBlocks (h : (ofLines .sqlite lines).tracksBlocks .sqlite = true) :
    CountsBlocks lines where
  depth := fun _ => depth_of_tracked h
  ends := fun _ => ends_of_tracked h
  body := by
    rintro front last before inside rfl hbody
    have hfront : (ofLines .sqlite front).terminated = false := by
      rw [← Bool.not_eq_true, ends_of_tracked h (List.prefix_append front [last])]
      rintro ⟨b, line, hb, hzero, -, hsemi⟩
      have hwords : wordRuns (wholeCode .sqlite (b ++ [line])) <+:
          wordRuns (wholeCode .sqlite front) := by
        obtain ⟨c, rfl⟩ := hb
        rw [wordRuns_wholeCode_append (b ++ [line])]
        exact List.prefix_append _ _
      have hpos := openBlocks_inside hbody.nestedBefore hbody.nestedInside
        (hwords.trans hbody.words_front) fun hbefore => hbody.quiet b line hb hbefore hsemi
      omega
    refine ⟨hfront, ?_⟩
    constructor
    · intro hmode
      refine ⟨(ends_of_tracked h List.prefix_rfl).mpr ?_, by rwa [List.dropLast_concat]⟩
      exact ⟨front, last, List.prefix_rfl, hbody.openBlocks_eq_zero, hmode, hbody.ends_semicolon⟩
    · intro hends
      obtain ⟨b, line, hb, hline⟩ := (ends_of_tracked h List.prefix_rfl).mp hends.last
      rcases List.prefix_concat_iff.mp hb with heq | hb
      · rw [← heq]
        exact hline.2.1
      · have := (ends_of_tracked h (List.prefix_append front [last])).mpr ⟨b, line, hb, hline⟩
        simp [hfront] at this

/-- A trigger that is recognised on its second line, with a block inside its body. -/
theorem countsBlocks_case_in_body :
    let front := ["CREATE TEMP".toList,
      "TRIGGER t DELETE ON a BEGIN SELECT CASE 1 WHEN 1 THEN 2 END;".toList]
    let last := "END; -- t".toList
    (ofLines .sqlite (front ++ [last])).tracksBlocks .sqlite = true ∧
      WritesBody front last
        (["CREATE", "TEMP", "TRIGGER", "T", "DELETE", "ON", "A"].map String.toList)
        (["SELECT", "CASE", "1", "WHEN", "1", "THEN", "2", "END"].map String.toList) ∧
      CountsBlocks (front ++ [last]) := by
  intro front last
  refine ⟨by decide +kernel, ⟨by decide +kernel, nested_of_plain _ (by decide), ?_, ?_,
    by decide +kernel⟩, countsBlocks (by decide +kernel)⟩
  · exact .word (by decide) (.block (by decide)
      (nested_of_plain (["1", "WHEN", "1", "THEN", "2"].map String.toList) (by decide)) .nil)
  · rintro a line ⟨rest, hrest⟩
    rcases a with _ | ⟨first, _ | ⟨second, a⟩⟩
    · obtain ⟨rfl, -⟩ := List.cons.inj hrest
      intro _
      decide +kernel
    · obtain ⟨rfl, hmore⟩ := List.cons.inj hrest
      obtain ⟨rfl, -⟩ := List.cons.inj hmore
      intro hbefore
      revert hbefore
      decide +kernel
    · simp [front] at hrest

end Draft
end MigrationScript
