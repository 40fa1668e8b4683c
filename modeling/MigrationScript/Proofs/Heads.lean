import MigrationScript.Proofs.Comments
import MigrationScript.Proofs.HeadPatterns
import MigrationScript.Proofs.Places
import MigrationScript.Proofs.Stripping
import MigrationScript.Proofs.WholeText

/-!
Which words a draft keeps as the head of its statement. They are the words of the lines up to the
one that makes them more than eight. Program units and triggers are known by their first five words,
so that they are recognised by the code of all lines, however it is laid out. Main statement: the
recognition of these statements against the patterns of their beginnings.
-/
namespace MigrationScript

open Text

namespace Scan

variable {cut : Char → Bool} {s : Scan} {t w : Text}

theorem map_plainBlanks (h : '\t' ∉ t) : t.map (fun c => if c = '\t' then ' ' else c) = t := by
  refine (List.map_congr_left fun c hc => if_neg ?_).trans (List.map_id t)
  rintro rfl
  exact h hc

private theorem upper_plainBlanks (t : Text) :
    upper (t.map fun c => if c = '\t' then ' ' else c) =
      (upper t).map fun c => if c = '\t' then ' ' else c := by
  induction t with
  | nil => rfl
  | cons c t ih =>
    have hc : upperChar (if c = '\t' then ' ' else c) =
        (upperChar c).map fun e => if e = '\t' then ' ' else e := by
      split
      next hc =>
        subst hc
        decide
      next hc =>
        refine (map_plainBlanks fun htab => ?_).symm
        exact hc (eq_of_mem_upperChar htab (by decide) (by decide))
    rw [upper, upper, List.map_cons, List.flatMap_cons, List.flatMap_cons, List.map_append, hc]
    exact congrArg _ ih

/-- The form in which code is compared has the same words as the code, put in upper case. -/
theorem runs_plainCode (hcut : ∀ c, isBlank c = true → cut c = true) (s : Scan) :
    runs cut s.plainCode = runs cut (upper s.code) := by
  have htab (c : Char) : cut (if c = '\t' then ' ' else c) = cut c ∧
      (cut c = false → (if c = '\t' then ' ' else c) = c) := by
    split
    next hc =>
      subst hc
      simp [hcut '\t' (by decide), hcut ' ' (by decide)]
    next => simp
  rw [plainCode, runs_upper_trim hcut, upper_plainBlanks, runs_map htab]

/-- The compared form is a text without letters and white space if the trimmed code is. -/
theorem plainCode_eq_iff
    (hw : ∀ e ∈ w, 0 < e.toNat ∧ isUncased e = true ∧ isBlank e = false) :
    s.plainCode = w ↔ trim s.code = w := by
  rw [plainCode, upper_eq_iff fun e he => ⟨(hw e he).1, (hw e he).2.1⟩,
    trim_map isBlank_plainBlank]
  constructor
  · intro h
    have hnone : '\t' ∉ trim s.code := by
      intro hmem
      have hblank := List.mem_map_of_mem (f := fun c => if c = '\t' then ' ' else c) hmem
      rw [h] at hblank
      have := (hw _ hblank).2.2
      contradiction
    rwa [map_plainBlanks hnone] at h
  · rintro rfl
    refine map_plainBlanks fun hmem => ?_
    have := (hw _ hmem).2.2
    contradiction

end Scan

namespace Dialect

/-- A property of heads that stays when words are added, and that the first `n` words decide. -/
structure FirstWords (n : Nat) (P : List Text → Prop) : Prop where
  stays : ∀ {h : List Text} (ws : List Text), P h → P (h ++ ws)
  decided : ∀ {h ws : List Text}, n ≤ h.length → P (h ++ ws) → P h

section FirstWords

variable {n m : Nat} {P Q : List Text → Prop}

theorem firstWords_next (w : String) : FirstWords 1 fun ws => nextWord w ws = true where
  stays := by
    intro h ws hnext
    cases h with
    | nil => contradiction
    | cons v h => exact hnext
  decided := by
    intro h ws hlen hnext
    cases h with
    | nil => contradiction
    | cons v h => exact hnext

theorem FirstWords.mono (h : FirstWords m P) (hmn : m ≤ n) : FirstWords n P where
  stays := h.stays
  decided := fun hlen => h.decided (Nat.le_trans hmn hlen)

theorem FirstWords.or (hP : FirstWords n P) (hQ : FirstWords n Q) :
    FirstWords n fun ws => P ws ∨ Q ws where
  stays := fun ws => Or.imp (hP.stays ws) (hQ.stays ws)
  decided := fun hlen => Or.imp (hP.decided hlen) (hQ.decided hlen)

theorem FirstWords.any {ts : List String} {P : String → List Text → Prop}
    (h : ∀ t ∈ ts, FirstWords n (P t)) : FirstWords n fun ws => ∃ t ∈ ts, P t ws where
  stays := by
    rintro u ws ⟨t, ht, hP⟩
    exact ⟨t, ht, (h t ht).stays ws hP⟩
  decided := by
    rintro u ws hlen ⟨t, ht, hP⟩
    exact ⟨t, ht, (h t ht).decided hlen hP⟩

/-- Words that come first are counted as well. -/
theorem FirstWords.behind (front : List Text) (h : FirstWords n P) :
    FirstWords (front.length + n) fun ws => ∃ more, ws = front ++ more ∧ P more where
  stays := by
    rintro _ ws ⟨more, rfl, hP⟩
    exact ⟨more ++ ws, List.append_assoc _ _ _, h.stays ws hP⟩
  decided := by
    rintro u ws hlen ⟨more, heq, hP⟩
    obtain ⟨rest, rfl⟩ : front <+: u :=
      List.prefix_of_prefix_length_le (List.prefix_append front more)
        (heq ▸ List.prefix_append u ws) (by omega)
    rw [List.append_assoc] at heq
    obtain rfl := List.append_cancel_left heq
    rw [List.length_append] at hlen
    exact ⟨rest, rfl, h.decided (by omega) hP⟩

/-- The longest beginning has five words: `CREATE OR REPLACE EDITIONABLE` and a kind of unit. -/
theorem firstWords_programUnit : FirstWords 5 fun ws => isProgramUnit ws = true := by
  have hkind : FirstWords 1 NamesUnit := .any fun kind _ => firstWords_next kind
  have hedition : FirstWords 2 fun ws => NamesUnit (dropEdition ws) := by
    simp only [namesUnit_dropEdition]
    exact (hkind.mono (by decide)).or (.any fun w _ => hkind.behind [w.toList])
  have hoption : FirstWords 4 fun ws => NamesUnit (dropOptions ws) := by
    simp only [namesUnit_dropOptions]
    exact (hedition.mono (by decide)).or (hedition.behind ["OR".toList, "REPLACE".toList])
  simp only [isProgramUnit_iff]
  exact (((firstWords_next _).or (firstWords_next _)).mono (by decide)).or
    (hoption.behind ["CREATE".toList])

theorem firstWords_trigger : FirstWords 3 fun ws => isTrigger ws = true := by
  have hname := firstWords_next "TRIGGER"
  have hoption : FirstWords 2 fun ws => nextWord "TRIGGER" ws = true ∨
      ∃ w ∈ ["TEMP", "TEMPORARY"], ∃ rest,
        ws = w.toList :: rest ∧ nextWord "TRIGGER" rest = true :=
    (hname.mono (by decide)).or (.any fun w _ => hname.behind [w.toList])
  simp only [isTrigger_iff]
  exact hoption.behind ["CREATE".toList]

/-- There is no such number for copies. -/
theorem isInlineCopy_append {h : List Text} (ws : List Text) (hcopy : isInlineCopy h = true) :
    isInlineCopy (h ++ ws) = true := by
  obtain ⟨more, rfl, hmore⟩ := isInlineCopy_iff.mp hcopy
  obtain ⟨front, back, hfront, rfl, hnext⟩ := readsInput_iff.mp hmore
  refine isInlineCopy_iff.mpr ⟨_, rfl, readsInput_iff.mpr ?_⟩
  exact ⟨front, back ++ ws, hfront, by simp, (firstWords_next _).stays ws hnext⟩

theorem isSpecial_append (d : Dialect) {h : List Text} (ws : List Text)
    (hs : d.isSpecial h = true) : d.isSpecial (h ++ ws) = true := by
  cases d with
  | oracle => exact firstWords_programUnit.stays ws hs
  | postgres => exact isInlineCopy_append ws hs
  | sqlite => exact firstWords_trigger.stays ws hs
  | _ => contradiction

/-- Where no data follow, heads of more than eight words need not be looked at in full. -/
theorem isSpecial_decided {d : Dialect} (hd : d.carriesData = false) {h ws : List Text}
    (hlen : 8 < h.length) : d.isSpecial (h ++ ws) = d.isSpecial h := by
  refine Bool.eq_iff_iff.mpr ⟨fun hs => ?_, d.isSpecial_append ws⟩
  cases d with
  | oracle => exact firstWords_programUnit.decided (by omega) hs
  | postgres => contradiction
  | sqlite => exact firstWords_trigger.decided (by omega) hs
  | _ => exact hs

end FirstWords

end Dialect

namespace Draft

variable {d : Dialect} {s s' : Draft} {a b lines : List Text} {cut : Char → Bool}

/-- The draft of a statement that some lines make up. -/
def ofLines (d : Dialect) (lines : List Text) : Draft :=
  ({} : Draft).addAll d lines

/-- The code of all lines of a statement, one below the other, in upper case. -/
def wholeCode (d : Dialect) (lines : List Text) : Text :=
  upper (joinLines ((({} : Draft).scans d lines).map Scan.code))

theorem ofLines_append (a b : List Text) : ofLines d (a ++ b) = (ofLines d a).addAll d b :=
  addAll_append a b

theorem ofLines_concat (a : List Text) (line : Text) :
    ofLines d (a ++ [line]) = (ofLines d a).add d line :=
  addAll_concat a

theorem override_ofLines (lines : List Text) : (ofLines d lines).override = none :=
  override_addAll lines

theorem scans_append (a b : List Text) :
    s.scans d (a ++ b) = s.scans d a ++ (s.addAll d a).scans d b := by
  induction a generalizing s with
  | nil => rfl
  | cons line a ih => simp [scans, ih]

/-- The runs of the whole code are those of the single lines. -/
theorem runs_wholeCode (hcut : ∀ c, isBlank c = true → cut c = true) (lines : List Text) :
    runs cut (wholeCode d lines) =
      (({} : Draft).scans d lines).flatMap fun x => runs cut x.plainCode := by
  rw [wholeCode, upper_joinLines, runs_joinLines (hcut '\n' (by decide)), List.map_map,
    List.flatMap_map]
  simp only [Scan.runs_plainCode hcut, Function.comp_apply]

theorem runs_wholeCode_append (hcut : ∀ c, isBlank c = true → cut c = true) (a b : List Text) :
    runs cut (wholeCode d (a ++ b)) = runs cut (wholeCode d a) ++
      ((ofLines d a).scans d b).flatMap fun x => runs cut x.plainCode := by
  rw [runs_wholeCode hcut, runs_wholeCode hcut, scans_append, List.flatMap_append]
  rfl

theorem words_wholeCode_append (a b : List Text) :
    words (wholeCode d (a ++ b)) = words (wholeCode d a) ++
      ((ofLines d a).scans d b).flatMap fun x => words x.plainCode :=
  runs_wholeCode_append (fun _ h => h) a b

theorem words_prefix_wholeCode (h : a <+: b) :
    words (wholeCode d a) <+: words (wholeCode d b) := by
  obtain ⟨c, rfl⟩ := h
  rw [words_wholeCode_append]
  exact List.prefix_append _ _

theorem head_add (ho : s.override = none) (line : Text) :
    (s.add d line).head = extendHead s.head (s.scan d line).plainCode := by
  simp [add, ho]

theorem special_add_eq (ho : s.override = none) (line : Text) :
    (s.add d line).special = (s.special || d.isSpecial (s.add d line).head) := by
  simp [add, ho]

/-- The first lines of a statement, `a`, give its head; before the last of them it was not full, and
the other lines, `b`, find it full. -/
structure FillsHead (d : Dialect) (a b : List Text) : Prop where
  head : (ofLines d (a ++ b)).head = words (wholeCode d a)
  room : (words (wholeCode d a.dropLast)).length ≤ 8
  full : b ≠ [] → 8 < (words (wholeCode d a)).length

/-- A line that comes next is one that fills the head, or finds it full. -/
theorem FillsHead.concat (h : FillsHead d a b) (line : Text) :
    ∃ a' b', a ++ b ++ [line] = a' ++ b' ∧ FillsHead d a' b' := by
  have hhead := head_add (d := d) (override_ofLines (d := d) (a ++ b)) line
  rw [← ofLines_concat, extendHead, h.head] at hhead
  split at hhead
  next hroom =>
    have hb : b = [] := by
      by_contra hb
      have := h.full hb
      omega
    subst hb
    rw [List.append_nil] at hhead ⊢
    refine ⟨a ++ [line], [], (List.append_nil _).symm, ?_, ?_, by simp⟩
    · rw [List.append_nil, hhead, words_wholeCode_append]
      simp [scans]
    · rwa [List.dropLast_concat]
  next hfull =>
    refine ⟨a, b ++ [line], List.append_assoc _ _ _, ?_, h.room, ?_⟩
    · rw [← List.append_assoc, hhead]
    · intro _
      omega

/-- What a draft keeps as the head of its statement are all words of the lines up to one, before
which there were at most eight. -/
theorem exists_fillsHead (d : Dialect) (lines : List Text) :
    ∃ a b, lines = a ++ b ∧ FillsHead d a b := by
  induction lines using List.reverseRecOn with
  | nil => exact ⟨[], [], rfl, rfl, by simp [wholeCode, scans, upper, words], by simp⟩
  | append_singleton lines line ih =>
    obtain ⟨a, b, rfl, h⟩ := ih
    exact h.concat line

/-- A statement is special as soon as its head is that of a special one, and not before. -/
theorem special_ofLines_head (d : Dialect) (lines : List Text) :
    (ofLines d lines).special = d.isSpecial (ofLines d lines).head := by
  induction lines using List.reverseRecOn with
  | nil => cases d <;> rfl
  | append_singleton lines line ih =>
    have ho : (ofLines d lines).override = none := override_ofLines lines
    rw [ofLines_concat, special_add_eq ho, head_add ho, ih, extendHead]
    split
    · rw [Bool.eq_iff_iff, Bool.or_eq_true]
      exact or_iff_right_of_imp (d.isSpecial_append _)
    · exact Bool.or_self _

/-- What makes a statement special are the words of some of its first lines, before the last of
which there were at most eight. -/
theorem special_ofLines_iff : (ofLines d lines).special = true ↔
    ∃ a, a <+: lines ∧ (words (wholeCode d a.dropLast)).length ≤ 8 ∧
      d.isSpecial (words (wholeCode d a)) = true := by
  obtain ⟨a, b, rfl, h⟩ := exists_fillsHead d lines
  rw [special_ofLines_head, h.head]
  constructor
  · intro hs
    exact ⟨a, List.prefix_append a b, h.room, hs⟩
  · rintro ⟨u, hu, hroom, hs⟩
    -- All lines that find room belong to those that fill the head.
    have hua : u <+: a := by
      rcases List.prefix_or_prefix_of_prefix hu (List.prefix_append a b) with hua | ⟨v, rfl⟩
      · exact hua
      · by_cases hv : v = []
        · simp [hv]
        · have hb : b ≠ [] := by
            rintro rfl
            rw [List.append_nil] at hu
            have := hu.length_le
            have := List.length_pos_iff.mpr hv
            rw [List.length_append] at *
            omega
          have hle := (words_prefix_wholeCode (d := d) (List.prefix_append a v.dropLast)).length_le
          rw [List.dropLast_append_of_ne_nil hv] at hroom
          have := h.full hb
          omega
    obtain ⟨ws, hws⟩ := words_prefix_wholeCode (d := d) hua
    rw [← hws]
    exact d.isSpecial_append ws hs

/-- Where no data follow, all words of the code decide. -/
theorem special_ofLines (hd : d.carriesData = false) (lines : List Text) :
    (ofLines d lines).special = d.isSpecial (words (wholeCode d lines)) := by
  obtain ⟨a, b, rfl, h⟩ := exists_fillsHead d lines
  rw [special_ofLines_head, h.head, words_wholeCode_append]
  by_cases hb : b = []
  · simp [hb, scans]
  · exact (Dialect.isSpecial_decided hd (h.full hb)).symm

end Draft
end MigrationScript
