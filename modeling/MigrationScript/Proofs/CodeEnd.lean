import MigrationScript.Proofs.Lines
import MigrationScript.Proofs.Reading
import MigrationScript.Proofs.UpperCase

/-!
The last piece of a line's code. A line that ends with a semicolon, by its trimmed code in upper
case, has a semicolon as the last piece that is not white space, comment or inside of a literal;
no mark of a literal and no other character is taken for it.
-/
namespace MigrationScript

open Text

/-- The last solid piece of some pieces, and those on its two sides. -/
structure LastSolid (all front : List Piece) (p : Piece) (back : List Piece) : Prop where
  eq : all = front ++ p :: back
  solid : p.isSolid = true
  gap : ∀ q ∈ back, q.isSolid = false

namespace Piece

variable {ps front back : List Piece} {p x : Piece}

@[simp] theorem text_code (c : Char) : (code c).text = [c] := rfl

@[simp] theorem text_mark (m : Mark) : (mark m).text = m.text := rfl

@[simp] theorem text_hidden (t : Text) : (hidden t).text = t := rfl

/-- There is a last solid piece if there is any. -/
theorem exists_lastSolid (ps : List Piece) :
    (∀ p ∈ ps, p.isSolid = false) ∨ ∃ front p back, LastSolid ps front p back := by
  induction ps with
  | nil => exact .inl (by simp)
  | cons x ps ih =>
    rcases ih with hgap | ⟨front, p, back, h⟩
    · cases hx : x.isSolid with
      | false => exact .inl (List.forall_mem_cons.mpr ⟨hx, hgap⟩)
      | true => exact .inr ⟨[], x, ps, rfl, hx, hgap⟩
    · exact .inr ⟨x :: front, p, back, by rw [h.eq]; rfl, h.solid, h.gap⟩

/-- The last solid piece comes first or later. -/
theorem lastSolid_cons (h : LastSolid (x :: ps) front p back) :
    (p = x ∧ front = [] ∧ back = ps) ∨ ∃ more, front = x :: more ∧ LastSolid ps more p back := by
  rcases List.cons_eq_append_iff.mp h.eq with ⟨hfront, he⟩ | ⟨more, hfront, he⟩
  · obtain ⟨rfl, rfl⟩ := List.cons.inj he
    exact .inl ⟨rfl, hfront, rfl⟩
  · exact .inr ⟨more, hfront, he, h.solid, h.gap⟩

/-- What is hidden in a comment or a literal is not solid. -/
theorem lastSolid_hidden {t : Text} (h : LastSolid (hidden t :: ps) front p back) :
    ∃ more, front = hidden t :: more ∧ LastSolid ps more p back := by
  rcases lastSolid_cons h with ⟨rfl, -⟩ | hmore
  · exact absurd h.solid Bool.false_ne_true
  · exact hmore

theorem not_lastSolid_nil : ¬ LastSolid [] front p back :=
  fun h => by simpa using h.eq

theorem kept_of_solid (h : p.isSolid = true) : p.kept = p.text := by
  cases p with
  | hidden t => contradiction
  | _ => rfl

theorem text_ne_nil_of_solid (h : p.isSolid = true) : p.text ≠ [] := by
  cases p with
  | code c => simp [text]
  | mark m => simp [text, Mark.text]
  | hidden t => contradiction

/-- Without solid pieces there is only white space in the code. -/
theorem isBlank_codeOf (h : ∀ q ∈ ps, q.isSolid = false) : ∀ c ∈ codeOf ps, isBlank c = true := by
  intro c hc
  obtain ⟨q, hq, hc⟩ := List.mem_flatMap.mp hc
  have hs := h q hq
  cases q with
  | code e =>
    obtain rfl := List.mem_singleton.mp hc
    simpa [isSolid] using hs
  | mark m => contradiction
  | hidden t => contradiction

theorem codeEnd_eq_zero (h : ∀ q ∈ ps, q.isSolid = false) : codeEnd ps = 0 := by
  induction ps with
  | nil => rfl
  | cons q ps ih =>
    obtain ⟨hq, hps⟩ := List.forall_mem_cons.mp h
    simp [codeEnd, ih hps, hq]

/-- The code ends where the last solid piece does. -/
theorem codeEnd_of_lastSolid (h : LastSolid ps front p back) :
    codeEnd ps = (front.flatMap text).length + p.text.length := by
  obtain ⟨rfl, hp, hgap⟩ := h
  have hpos := List.length_pos_iff.mpr (text_ne_nil_of_solid hp)
  induction front with
  | nil => simp [codeEnd, codeEnd_eq_zero hgap, hp]
  | cons x front ih =>
    rw [List.cons_append, codeEnd, ih, List.flatMap_cons, List.length_append]
    split <;> omega

/-- Behind the last solid piece the code holds white space only. -/
theorem codeOf_of_lastSolid (h : LastSolid ps front p back) :
    codeOf ps = codeOf front ++ p.text ++ codeOf back ∧ ∀ c ∈ codeOf back, isBlank c = true := by
  constructor
  · rw [h.eq]
    simp [codeOf, kept_of_solid h.solid]
  · exact isBlank_codeOf h.gap

end Piece

/-- A scan that leaves a literal meets the mark that closes it, which is solid. -/
theorem not_gap_of_literal {d : Dialect} {l : Literal} {b : Option Char} {t : Text}
    {ps : List Piece} (h : scanFrom d (.literal l) b t = (ps, .code)) :
    ¬ ∀ q ∈ ps, q.isSolid = false := by
  cases t with
  | nil =>
    rw [scanFrom] at h
    cases (Prod.mk.inj h).2
  | cons c t =>
    rw [scanFrom] at h
    split at h
    · cases (Prod.mk.inj h).2
    · intro hgap
      rw [← (Prod.mk.inj h).1] at hgap
      have hsolid := hgap (.mark l.closer) (by simp)
      contradiction

/-- Where a scan leaves no literal open, a mark that is the last solid piece closes one. -/
theorem closes_of_lastSolid {d : Dialect} {m : Mode} {b : Option Char} {t : Text}
    (hlast : (scanFrom d m b t).2 = .code) {front back : List Piece} {k : Mark}
    (h : LastSolid (scanFrom d m b t).1 front (.mark k) back) :
    ∃ l, k = l.closer ∧ (m = .literal l ∨ d.HasLiteral l) := by
  fun_induction scanFrom d m b t generalizing front with
  | case1 => exact absurd h Piece.not_lastSolid_nil
  | case2 => contradiction
  | case3 before c rest n hn ps last he ih =>
    rw [he] at ih
    obtain ⟨more, -, h⟩ := Piece.lastSolid_hidden h
    obtain ⟨l, hk, hl | hl⟩ := ih hlast h
    · contradiction
    · exact ⟨l, hk, .inr hl⟩
  | case4 => contradiction
  | case5 before c rest l n hn ps last he ih =>
    rw [he] at ih
    obtain ⟨more, -, h⟩ := Piece.lastSolid_hidden h
    rcases Piece.lastSolid_cons h with ⟨hx, -⟩ | ⟨more, -, h⟩
    · exact ⟨l, by simpa using hx, .inl rfl⟩
    · obtain ⟨l, hk, hl | hl⟩ := ih hlast h
      · contradiction
      · exact ⟨l, hk, .inr hl⟩
  | case6 =>
    obtain ⟨more, -, h⟩ := Piece.lastSolid_hidden h
    exact absurd h Piece.not_lastSolid_nil
  | case7 before c rest hl hb ps last he ih =>
    rw [he] at ih
    obtain ⟨more, -, h⟩ := Piece.lastSolid_hidden h
    obtain ⟨l, hk, hl | hl⟩ := ih hlast h
    · contradiction
    · exact ⟨l, hk, .inr hl⟩
  | case8 before c rest hl hb o ho ps last he ih =>
    rw [he] at ih
    rcases Piece.lastSolid_cons h with ⟨-, -, rfl⟩ | ⟨more, -, h⟩
    · -- The mark opens a literal, and the scan leaves that literal behind the mark.
      obtain rfl : last = .code := hlast
      exact absurd h.gap (not_gap_of_literal he)
    · obtain ⟨l, hk, hl | hl⟩ := ih hlast h
      · exact ⟨l, hk, .inr ⟨o, Dialect.opens_of_opener? ho, Mode.literal.inj hl⟩⟩
      · exact ⟨l, hk, .inr hl⟩
  | case9 before c rest hl hb ho ps last he ih =>
    rw [he] at ih
    rcases Piece.lastSolid_cons h with ⟨hx, -⟩ | ⟨more, -, h⟩
    · contradiction
    · exact ih hlast h

/-- No literal ends with white space or a semicolon. -/
private theorem literalEnds_solid : ∀ q ∈ literalEnds, isBlank q = false ∧ q ≠ ';' := by
  intro q hq
  simp only [literalEnds, List.mem_cons, List.not_mem_nil, or_false] at hq
  rcases hq with rfl | rfl | rfl | rfl | rfl <;> exact ⟨by decide, by decide⟩

namespace Scan

theorem isBlank_plainBlank (c : Char) : isBlank (if c = '\t' then ' ' else c) = isBlank c := by
  split
  next hc =>
    subst hc
    decide
  next => rfl

/-- Where the compared form of some code ends with a semicolon, the code does, but for white
space. -/
theorem code_of_semicolon {s : Scan} (h : Delimiter.semicolon.ends s.plainCode = true) :
    ∃ a w, s.code = a ++ ';' :: w ∧ ∀ c ∈ w, isBlank c = true := by
  have hu : upper Delimiter.semicolon.text = [';'] := by decide
  have hs : [';'] <:+ s.plainCode := by
    rw [← hu]
    exact List.isSuffixOf_iff_suffix.mp h
  obtain ⟨y, hy⟩ := Text.last_of_upper (by decide) (by decide) hs
  obtain ⟨-, w, hw, hblank⟩ := eq_append_of_trimEnd hy
  have hcode : s.code.map (fun c => if c = '\t' then ' ' else c) =
      ((s.code.map fun c => if c = '\t' then ' ' else c).takeWhile isBlank ++ y) ++ ';' :: w := by
    rw [List.append_assoc, ← hw]
    exact List.takeWhile_append_dropWhile.symm
  obtain ⟨a, b, hab, -, hb⟩ := List.map_eq_append_iff.mp hcode
  obtain ⟨c, v, rfl, hc, rfl⟩ := List.map_eq_cons_iff.mp hb
  have hc : c = ';' := by
    split at hc
    · contradiction
    · exact hc
  subst hc
  refine ⟨a, v, hab, ?_⟩
  intro e he
  have := hblank _ (List.mem_map_of_mem he)
  split at this
  next ht =>
    subst ht
    decide
  next => exact this

theorem ends_semicolon_iff (s : Scan) :
    Delimiter.semicolon.ends s.plainCode = true ↔ [';'] <:+ trimEnd s.code := by
  have hsemi : isBlank ';' = false := by decide
  constructor
  · intro h
    obtain ⟨a, w, hcode, hw⟩ := code_of_semicolon h
    rw [hcode, trimEnd_solid hsemi hw]
    exact List.suffix_append a [';']
  · rintro ⟨a, ha⟩
    obtain ⟨-, w, hcode, hw⟩ := eq_append_of_trimEnd ha.symm
    have hstart : trimStart s.code = trimStart a ++ ';' :: w := by
      rw [hcode, trimStart, List.dropWhile_append, List.dropWhile_cons_of_neg (by simp [hsemi])]
      split
      next hnil => simp [trimStart, List.isEmpty_iff.mp hnil]
      next => rfl
    have hu : upper Delimiter.semicolon.text = [';'] := by decide
    rw [Delimiter.ends, if_neg (by decide), hu, List.isSuffixOf_iff_suffix, plainCode,
      trim_map isBlank_plainBlank, trim, hstart, trimEnd_solid hsemi hw, List.map_append,
      upper_append]
    exact List.suffix_append _ [';']

/-- A line that leaves no literal and no comment open and whose code ends with a semicolon has that
semicolon as its last solid piece. -/
theorem exists_semicolon {d : Dialect} {m : Mode} {line : Text} (hm : m.Proper)
    (hlast : (ofLine d m line).mode = .code)
    (h : Delimiter.semicolon.ends (ofLine d m line).plainCode = true) :
    ∃ front back, LastSolid (scanFrom d m none line).1 front (.code ';') back := by
  obtain ⟨a, w, hcode, hw⟩ := code_of_semicolon h
  have hsemi : isBlank ';' = false := by decide
  have htrim : trimEnd (Piece.codeOf (scanFrom d m none line).1) = a ++ [';'] := by
    rw [show Piece.codeOf _ = _ from hcode, trimEnd_solid hsemi hw]
  rcases Piece.exists_lastSolid (scanFrom d m none line).1 with hgap | ⟨front, p, back, hp⟩
  · rw [trimEnd_of_blank (Piece.isBlank_codeOf hgap)] at htrim
    simp at htrim
  obtain ⟨hsplit, hback⟩ := Piece.codeOf_of_lastSolid hp
  rw [hsplit, trimEnd_append_blank hback] at htrim
  cases p with
  | code c =>
    have hc : isBlank c = false := by simpa [Piece.isSolid] using hp.solid
    rw [Piece.text, trimEnd_solid hc (by simp)] at htrim
    obtain rfl : c = ';' := by simpa using List.append_inj_right' htrim rfl
    exact ⟨front, back, hp⟩
  | mark k =>
    obtain ⟨l, rfl, hl⟩ := closes_of_lastSolid hlast hp
    have hproper : l.Proper := by
      rcases hl with rfl | hl
      · exact hm
      · exact hl.proper
    obtain ⟨q, hq, hk⟩ := hproper.last
    obtain ⟨z, hz⟩ := List.getLast?_eq_some_iff.mp hk
    obtain ⟨hblank, hne⟩ := literalEnds_solid q hq
    rw [Piece.text, hz, ← List.append_assoc, trimEnd_solid hblank (by simp)] at htrim
    have : q = ';' := by simpa using List.append_inj_right' htrim rfl
    exact absurd this hne
  | hidden t => exact absurd hp.solid (by simp [Piece.isSolid])

end Scan
end MigrationScript
