import MigrationScript.Proofs.Calls
import MigrationScript.Proofs.ClosingMarks

/-!
What stands behind the code of a line. The place where the code ends is the end of the last solid
piece, which the reading takes as one token. Main statement: up to that place the line gives its
code, but for white space, and from there on it holds nothing but white space, comments or the
inside of a literal that is left open.
-/
namespace MigrationScript

open Text

namespace Dialect

variable {d : Dialect} {m m' : Mode} {b b' : Option Char} {t k r : Text} {l : Literal} {n : Nat}

/-- A comment is passed up to its closing mark. -/
theorem reaches_commentEnd (h : find? ['*', '/'] t = some n) (b : Option Char) :
    d.Reaches .comment b t [] .code (some '/') (t.drop (n + 2)) := by
  induction t generalizing n b with
  | nil => simp [find?] at h
  | cons c t ih =>
    rw [find?] at h
    split at h
    next hs =>
      obtain rfl := Option.some.inj h
      obtain ⟨r, hr⟩ := List.isPrefixOf_iff_prefix.mp hs
      rw [← hr]
      exact (Token.commentEnd r).reaches
    next hs =>
      obtain ⟨k, hk, rfl⟩ := Option.map_eq_some_iff.mp h
      exact .token (.inComment (eq_false_of_ne_true hs)) (ih hk (some c))

/-- A literal is passed up to its closing mark, which no backslash hides. -/
theorem reaches_closer (h : l.close? t = some n) (b : Option Char) :
    (∃ b', d.Reaches (.literal l) b t [] (.literal l) b'
      (l.closer.text ++ t.drop (n + l.closer.text.length))) ∧
    (l.escapes && l.closer.first == '\\') = false := by
  fun_induction Literal.close? l t generalizing n b with
  | case1 => contradiction
  | case2 => contradiction
  | case3 c he e t ih =>
    obtain ⟨k, hk, rfl⟩ := Option.map_eq_some_iff.mp h
    obtain ⟨⟨b', hplace⟩, hshows⟩ := ih hk (some e)
    rw [Nat.add_right_comm]
    exact ⟨⟨b', .token (.hiddenChar e t he) hplace⟩, hshows⟩
  | case4 c t he hm =>
    obtain rfl := Option.some.inj h
    obtain ⟨r, hr⟩ := List.isPrefixOf_iff_prefix.mp hm
    obtain ⟨hc, -⟩ := List.cons.inj hr
    rw [← hr, Nat.zero_add, List.drop_left]
    exact ⟨⟨b, .here _ _ _⟩, by rw [hc]; exact eq_false_of_ne_true he⟩
  | case5 c t he hm ih =>
    obtain ⟨k, hk, rfl⟩ := Option.map_eq_some_iff.mp h
    obtain ⟨⟨b', hplace⟩, hshows⟩ := ih hk (some c)
    rw [Nat.add_right_comm]
    exact ⟨⟨b', .token (.inLiteral (eq_false_of_ne_true he) (eq_false_of_ne_true hm)) hplace⟩,
      hshows⟩

theorem Reaches.proper (h : d.Reaches m b t k m' b' r) (hm : m.Proper) : m'.Proper := by
  induction h with
  | here => exact hm
  | token first more ih => exact ih (first.proper hm)

/-- A token that gives code does not start a comment. -/
theorem Token.ne_comment (h : d.Token m b t k m' b' r) (hk : k ≠ []) : m' ≠ .comment := by
  cases h <;> first | contradiction | exact fun hn => nomatch hn

/-- The marks of literals are solid. -/
theorem Token.solid (h : d.Token m b t k m' b' r) (hm : m.Proper)
    (hmark : ¬ (m = .code ∧ m' = .code)) : ∀ c ∈ k, isBlank c = false := by
  cases h with
  | literalEnd r shows => exact hm.solid
  | literalStart r noLine noBlock opens => exact (proper_of_opener? opens).solid
  | inCode => exact absurd ⟨rfl, rfl⟩ hmark
  | _ => simp

end Dialect

theorem text_of_lastSolid {ps front back : List Piece} {p : Piece}
    (h : LastSolid ps front p back) : ps.flatMap Piece.text =
      front.flatMap Piece.text ++ (p.text ++ back.flatMap Piece.text) := by
  rw [h.eq, List.flatMap_append, List.flatMap_cons]

/-- The last solid piece of a scan is taken as one token, where the reading of the text comes to it.
It is a character of code exactly if there is code on both sides of it. -/
theorem exists_token_of_lastSolid {d : Dialect} {m : Mode} {b : Option Char} {t : Text}
    {front back : List Piece} {p : Piece} (h : LastSolid (scanFrom d m b t).1 front p back) :
    ∃ m₀ b₀ m' b',
      d.Reaches m b t (Piece.codeOf front) m₀ b₀ (p.text ++ back.flatMap Piece.text) ∧
      d.Token m₀ b₀ (p.text ++ back.flatMap Piece.text) p.text m' b' (back.flatMap Piece.text) ∧
      ((∃ c, p = .code c) ↔ m₀ = .code ∧ m' = .code) := by
  fun_induction scanFrom d m b t generalizing front with
  | case1 => exact absurd h Piece.not_lastSolid_nil
  | case2 | case4 | case6 =>
    obtain ⟨more, -, h⟩ := Piece.lastSolid_hidden h
    exact absurd h Piece.not_lastSolid_nil
  | case3 before c rest n hn ps last he ih =>
    rw [he] at ih
    obtain ⟨more, rfl, hmore⟩ := Piece.lastSolid_hidden h
    obtain ⟨m₀, b₀, m', b', hplace, htoken, hcode⟩ := ih hmore
    exact ⟨m₀, b₀, m', b', (Dialect.reaches_commentEnd hn before).trans hplace, htoken, hcode⟩
  | case5 before c rest l n hn ps last he ih =>
    have htext := text_scanFrom d .code l.closer.text.getLast?
      (rest.drop (n + l.closer.more.length))
    rw [he] at ih htext
    obtain ⟨⟨b₁, hopen⟩, hshows⟩ := Dialect.reaches_closer (d := d) hn before
    obtain ⟨more, rfl, hmore⟩ := Piece.lastSolid_hidden h
    rcases Piece.lastSolid_cons hmore with ⟨rfl, rfl, rfl⟩ | ⟨others, rfl, hothers⟩
    · rw [htext]
      exact ⟨_, b₁, _, _, hopen, .literalEnd _ hshows, by simp⟩
    · obtain ⟨m₀, b₀, m', b', hplace, htoken, hcode⟩ := ih hothers
      exact ⟨m₀, b₀, m', b', hopen.trans (.token (.literalEnd _ hshows) hplace), htoken, hcode⟩
  | case7 before c rest hl hb ps last he ih =>
    rw [he] at ih
    obtain ⟨more, rfl, hmore⟩ := Piece.lastSolid_hidden h
    obtain ⟨m₀, b₀, m', b', hplace, htoken, hcode⟩ := ih hmore
    obtain ⟨r, hr⟩ := List.isPrefixOf_iff_prefix.mp hb
    obtain ⟨rfl, rfl⟩ := List.cons.inj hr
    exact ⟨m₀, b₀, m', b', .token (.commentStart r) hplace, htoken, hcode⟩
  | case8 before c rest hl hb o ho ps last he ih =>
    obtain ⟨r, hr⟩ := Dialect.eq_append_of_opener? ho
    have hrest : rest.drop o.mark.more.length = r :=
      (congrArg (List.drop o.mark.more.length) (List.cons.inj hr).2).trans List.drop_left
    have htext := text_scanFrom d (.literal o.literal) o.mark.text.getLast?
      (rest.drop o.mark.more.length)
    rw [he] at ih htext
    rw [hrest] at htext
    rw [hr] at ho ⊢
    have hstart := Dialect.Token.start ho
    rcases Piece.lastSolid_cons h with ⟨rfl, rfl, rfl⟩ | ⟨more, rfl, hmore⟩
    · rw [htext]
      exact ⟨_, before, _, _, .here _ _ _, hstart, by simp⟩
    · obtain ⟨m₀, b₀, m', b', hplace, htoken, hcode⟩ := ih hmore
      rw [hrest] at hplace
      exact ⟨m₀, b₀, m', b', .token hstart hplace, htoken, hcode⟩
  | case9 before c rest hl hb ho ps last he ih =>
    have htext := text_scanFrom d .code (some c) rest
    rw [he] at ih htext
    have token := Dialect.Token.inCode (eq_false_of_ne_true hl) (eq_false_of_ne_true hb) ho
    rcases Piece.lastSolid_cons h with ⟨rfl, rfl, rfl⟩ | ⟨more, rfl, hmore⟩
    · rw [htext]
      exact ⟨_, before, _, _, .here _ _ _, token, by simp⟩
    · obtain ⟨m₀, b₀, m', b', hplace, htoken, hcode⟩ := ih hmore
      exact ⟨m₀, b₀, m', b', .token token hplace, htoken, hcode⟩

/-- The last solid piece ends with a character that is not white space. -/
theorem exists_last_of_lastSolid {d : Dialect} {m : Mode} {b : Option Char} {t : Text}
    (hm : m.Proper) {front back : List Piece} {p : Piece}
    (h : LastSolid (scanFrom d m b t).1 front p back) :
    ∃ u c, p.text = u ++ [c] ∧ isBlank c = false := by
  obtain ⟨u, c, hu⟩ := (List.eq_nil_or_concat' p.text).resolve_left
    (Piece.text_ne_nil_of_solid h.solid)
  refine ⟨u, c, hu, ?_⟩
  by_cases hp : ∃ e, p = .code e
  · obtain ⟨e, rfl⟩ := hp
    obtain rfl : e = c := by simpa using congrArg List.getLast? hu
    simpa [Piece.isSolid] using h.solid
  · obtain ⟨m₀, b₀, m', b', hplace, htoken, hcode⟩ := exists_token_of_lastSolid h
    have hm₀ : m₀.Proper := hplace.proper hm
    exact htoken.solid hm₀ (fun hc => hp (hcode.mpr hc)) c (by simp [hu])

/-- What can stand behind the code of a line, with the modes in front of it and at its end: comments
and white space, or the inside of a literal that is left open, in which no closing mark stands. -/
inductive Dialect.Trails (d : Dialect) : Mode → Text → Mode → Prop where
  | comments {inside o : Bool} {t : Text} (only : OnlyComments d inside t o) :
      Trails d (.ofComment inside) t (.ofComment o)
  | interior {l : Literal} {t : Text} (unended : ∀ i, ¬ l.StandsAt t 0 i) :
      Trails d (.literal l) t (.literal l)

/-- A literal that is open in some mode is one of the dialect. -/
def Dialect.HasMode (d : Dialect) (m : Mode) : Prop :=
  ∀ l, m = .literal l → d.HasLiteral l

namespace Dialect

variable {d : Dialect} {m m' : Mode} {b b' : Option Char} {t k r : Text}

theorem HasMode.proper (h : d.HasMode m) : m.Proper := by
  cases m with
  | literal l => exact (h l rfl).proper
  | _ => trivial

theorem HasMode.read (h : d.HasMode m) (b : Option Char) (t : Text) : d.HasMode (d.read m b t).2 := by
  intro l hl
  rcases d.literal_read hl with hm | hd
  · exact h l hm
  · exact hd

/-- A text that gives no code but white space trails. -/
theorem trails_of_blank (hm : d.HasMode m) (h : BlankCode (d.read m b t).1) :
    d.Trails m t (d.read m b t).2 := by
  have comments (inside : Bool) (h : BlankCode (d.read (.ofComment inside) b t).1) :
      d.Trails (.ofComment inside) t (d.read (.ofComment inside) b t).2 := by
    obtain ⟨o, ho⟩ := exists_onlyComments h
    rw [(ho.read b).2]
    exact .comments ho
  cases m with
  | code => exact comments false h
  | comment => exact comments true h
  | literal l =>
    cases hn : l.close? t with
    | none =>
      rw [read_literal_none hn]
      have hnone := (Literal.findsFirst_close? (hm l rfl).shows t).none_iff.mp hn
      exact .interior fun i => hnone i i.zero_le
    | some n =>
      have hsolid := (hm l rfl).proper.solid _ List.mem_cons_self
      rw [read_literal_some hn] at h
      have hblank := h l.closer.first (by simp [prepend, Mark.text])
      rw [hsolid] at hblank
      contradiction

end Dialect

/-- Behind the last solid piece, which leaves no comment open, nothing follows but what trails. -/
theorem trails_of_lastSolid {d : Dialect} {m : Mode} {b : Option Char} {t : Text}
    (hm : d.HasMode m) {front back : List Piece} {p : Piece}
    (h : LastSolid (scanFrom d m b t).1 front p back) :
    ∃ m', d.read m b (front.flatMap Piece.text ++ p.text) = (Piece.codeOf front ++ p.text, m') ∧
      m' ≠ .comment ∧ d.Trails m' (back.flatMap Piece.text) (scanFrom d m b t).2 := by
  obtain ⟨m₀, b₀, m', b', hplace, htoken, -⟩ := exists_token_of_lastSolid h
  have hreach := hplace.trans htoken.reaches
  have htext := text_of_lastSolid h
  rw [text_scanFrom, ← List.append_assoc] at htext
  have hfront : d.read m b (front.flatMap Piece.text ++ p.text) =
      (Piece.codeOf front ++ p.text, m') := by
    rw [htext] at hreach
    exact hreach.read_front
  have hm' : d.HasMode m' := by
    have hmode := hm.read b (front.flatMap Piece.text ++ p.text)
    rwa [hfront] at hmode
  obtain ⟨hcode, hblank⟩ := Piece.codeOf_of_lastSolid h
  have hread : d.read m b t = (Piece.codeOf (scanFrom d m b t).1, (scanFrom d m b t).2) := rfl
  rw [hreach.read, hcode, prepend, Prod.mk.injEq, List.append_cancel_left_eq] at hread
  obtain ⟨hrest, hlast⟩ := hread
  refine ⟨m', hfront, htoken.ne_comment (Piece.text_ne_nil_of_solid h.solid), ?_⟩
  rw [← hrest] at hblank
  rw [← hlast]
  exact Dialect.trails_of_blank hm' hblank

/-- Where a scan leaves no literal and no comment open, a reading up to the last solid piece leaves
none open either, and only comments follow. -/
theorem code_of_lastSolid {d : Dialect} {m : Mode} {b : Option Char} {t : Text}
    (hm : d.HasMode m) (hlast : (scanFrom d m b t).2 = .code) {front back : List Piece} {p : Piece}
    (h : LastSolid (scanFrom d m b t).1 front p back) :
    (d.read m b (front.flatMap Piece.text ++ p.text)).2 = .code ∧
      OnlyComments d false (back.flatMap Piece.text) false ∧
      ∀ c, p = .code c → (d.read m b (front.flatMap Piece.text)).2 = .code := by
  have before (c : Char) (hc : p = .code c) :
      (d.read m b (front.flatMap Piece.text)).2 = .code := by
    obtain ⟨m₀, b₀, m', b', hplace, -, hcode⟩ := exists_token_of_lastSolid h
    have htext := text_of_lastSolid h
    rw [text_scanFrom] at htext
    rw [htext] at hplace
    rw [hplace.read_front]
    exact (hcode.mp ⟨c, hc⟩).1
  obtain ⟨m', hfront, hne, htail⟩ := trails_of_lastSolid hm h
  rw [hfront]
  rw [hlast] at htail
  generalize hcode : Mode.code = last at htail
  cases htail with
  | @comments inside o _ only =>
    cases inside with
    | true => contradiction
    | false =>
      cases o with
      | true => contradiction
      | false => exact ⟨rfl, only, before⟩
  | interior unended => contradiction

/-- Where a scan of the line `t`, which is met in the mode `m`, takes the code to end. -/
structure Scan.StopsAtCode (d : Dialect) (m : Mode) (t : Text) (z : Scan) : Prop where
  inside : z.stop ≤ t.length
  zero_iff : z.stop = 0 ↔ BlankCode z.code
  /-- In front of that place stands the last character of the code that is not white space. -/
  last : z.stop ≠ 0 → ∃ k c w, z.code = k ++ c :: w ∧ isBlank c = false ∧ BlankCode w ∧
    t[z.stop - 1]? = some c
  /-- The front of the line gives all of the code but the white space at its end, and in the mode
  that it leaves no more code follows. -/
  behind : ∃ m', d.read m none (t.take z.stop) = (trimEnd z.code, m') ∧
    d.Trails m' (t.drop z.stop) z.mode

namespace Scan

variable {d : Dialect} {m : Mode} {t : Text}

theorem stop_le (d : Dialect) (m : Mode) (t : Text) : (ofLine d m t).stop ≤ t.length :=
  (Piece.codeEnd_le _).trans_eq (congrArg List.length (text_scanFrom d m none t))

private theorem stopsAtCode_of_gap (hm : d.HasMode m)
    (h : ∀ q ∈ (scanFrom d m none t).1, q.isSolid = false) :
    (ofLine d m t).StopsAtCode d m t := by
  have hstop : (ofLine d m t).stop = 0 := Piece.codeEnd_eq_zero h
  have hblank : BlankCode (ofLine d m t).code := Piece.isBlank_codeOf h
  constructor
  · exact stop_le d m t
  · exact iff_of_true hstop hblank
  · exact fun hne => absurd hstop hne
  · refine ⟨m, ?_, ?_⟩
    · rw [hstop, List.take_zero, Dialect.read_nil, trimEnd_of_blank hblank]
    · rw [hstop, List.drop_zero]
      exact Dialect.trails_of_blank (b := none) hm hblank

private theorem stopsAtCode_of_lastSolid (hm : d.HasMode m) {front back : List Piece} {p : Piece}
    (h : LastSolid (scanFrom d m none t).1 front p back) :
    (ofLine d m t).StopsAtCode d m t := by
  obtain ⟨u, c, hu, hc⟩ := exists_last_of_lastSolid hm.proper h
  obtain ⟨m', hfront, -, htail⟩ := trails_of_lastSolid hm h
  obtain ⟨hcode, hblank⟩ := Piece.codeOf_of_lastSolid h
  have htext := text_of_lastSolid h
  have hstop := Piece.codeEnd_of_lastSolid h
  rw [text_scanFrom, ← List.append_assoc] at htext
  rw [← List.length_append] at hstop
  rw [hu, ← List.append_assoc] at hcode htext hstop
  rw [hu, ← List.append_assoc, ← List.append_assoc] at hfront
  have hcode : (ofLine d m t).code = _ := hcode
  have hstop : (ofLine d m t).stop = _ := hstop
  have htail : d.Trails m' _ (ofLine d m t).mode := htail
  have hle := stop_le d m t
  -- The line is `a`, the last character of the code and the tail; its code is `k`, that character
  -- and white space.
  generalize front.flatMap Piece.text ++ u = a at hfront htext hstop
  generalize Piece.codeOf front ++ u = k at hcode hfront
  generalize ofLine d m t = z at hcode hstop htail hle ⊢
  constructor
  · exact hle
  · have hne : z.stop ≠ 0 := by simp [hstop]
    refine iff_of_false hne fun hall => ?_
    rw [hall c (by simp [hcode])] at hc
    contradiction
  · refine fun _ => ⟨k, c, Piece.codeOf back, by simp [hcode], hc, hblank, ?_⟩
    rw [hstop, htext]
    simp
  · have htrim : trimEnd z.code = k ++ [c] := by
      rw [hcode, List.append_assoc, List.singleton_append, trimEnd_solid hc hblank]
    refine ⟨m', ?_, ?_⟩
    · rw [htrim, hstop, htext, List.take_left, hfront]
    · rw [hstop, htext, List.drop_left]
      exact htail

end Scan

namespace Draft

/-- Whatever is called, a literal that is open is one of the dialect. -/
theorem hasMode_calls (c : Cutting) (cs : List Call) : c.dialect.HasMode (calls c {} cs).mode := by
  have start : c.dialect.HasMode ({} : Draft).mode := by
    rintro l ⟨⟩
  refine calls_keep (p := fun s => c.dialect.HasMode s.mode) (fun s a h => ?_) start cs
  cases a with
  | add line =>
    intro l hl
    rcases literal_add hl with hs | hd
    · exact h l hs
    · exact hd
  | _ => exact h

/-- However a draft came about, if it does not read data it knows where the code of the next line
ends. -/
theorem stopsAtCode (c : Cutting) (cs : List Call) (t : Text)
    (hdata : (calls c {} cs).readsData c.dialect = false) :
    Scan.StopsAtCode c.dialect (calls c {} cs).mode t
      ⟨((calls c {} cs).scan c.dialect t).code, ((calls c {} cs).add c.dialect t).stop,
        ((calls c {} cs).add c.dialect t).mode⟩ := by
  have hm := hasMode_calls c cs
  generalize calls c {} cs = s at hm hdata ⊢
  rw [stop_add, mode_add, scan, hdata, if_neg Bool.false_ne_true]
  rcases Piece.exists_lastSolid (scanFrom c.dialect s.mode none t).1 with hgap | ⟨_, _, _, hlast⟩
  · exact Scan.stopsAtCode_of_gap hm hgap
  · exact Scan.stopsAtCode_of_lastSolid hm hlast

/-- The end of a literal over two lines, a comment, and a literal that is left open with a comment's
mark in it: the code ends behind the mark that opens the second literal. -/
theorem stopsAtCode_open_literal :
    let s := calls ⟨.postgres, false⟩ {} [.add "SELECT $f$ a".toList]
    let t := "b $f$ /* c */ || $$ -- d".toList
    s.readsData .postgres = false ∧ (s.add .postgres t).stop = 19 ∧
      Scan.StopsAtCode .postgres s.mode t
        ⟨(s.scan .postgres t).code, (s.add .postgres t).stop, (s.add .postgres t).mode⟩ := by
  intro s t
  have hdata : s.readsData .postgres = false := by decide +kernel
  exact ⟨hdata, by decide +kernel, stopsAtCode ⟨.postgres, false⟩ _ t hdata⟩

end Draft
end MigrationScript
