import MigrationScript.Proofs.WrittenLiterals

/-!
Names in brackets. A closing bracket in such a name is written twice; but the first of the two
closes the name, and the second, which is no opening mark, does not open it anew. What follows is
read as code, and so the name is passed as one exactly if there is nothing in this rest but
brackets, further bracketed names and comments.
-/
namespace MigrationScript

open Text

/-- A name in brackets: closing brackets in it are doubled. -/
def Text.bracketed (w : Text) : Text :=
  '[' :: (doubled ']' w ++ [']'])

/-- Closing brackets, bracketed stretches and block comments, one behind the other. -/
inductive OnlyBrackets : Text → Prop where
  | nil : OnlyBrackets []
  | bracket {t : Text} (rest : OnlyBrackets t) : OnlyBrackets (']' :: t)
  | stretch {x t : Text} (unclosed : ']' ∉ x) (rest : OnlyBrackets t) :
      OnlyBrackets ('[' :: (x ++ ']' :: t))
  | comment {x t : Text} (unended : ¬ StartsIn ['*', '/'] x ['*', '/']) (rest : OnlyBrackets t) :
      OnlyBrackets ('/' :: '*' :: (x ++ '*' :: '/' :: t))

/-- What stands behind the first closing bracket of a name is, as it is written, nothing but
brackets, bracketed stretches and comments. A name without closing brackets is such a one. -/
def Text.EndsPlainly (w : Text) : Prop :=
  ∀ u v, w = u ++ ']' :: v → ']' ∉ u → OnlyBrackets (doubled ']' v ++ [']'])

namespace Dialect

/-- A name in brackets is passed: the reading comes to what follows it, outside of literals and
comments, and only brackets are code. -/
def PassesName (b : Option Char) (w z : Text) : Prop :=
  ∃ k, (∀ c ∈ k, c = '[' ∨ c = ']') ∧
    tsql.Reaches .code b (bracketed w ++ z) k .code (some ']') z

variable {b b' : Option Char} {t k x y z w : Text} {m : Mode}

/-- The way out of a bracketed stretch leads over the first closing bracket. -/
theorem Reaches.leave_bracket (h : tsql.Reaches (.literal ⟨⟨']', []⟩, false⟩) b t k .code b' z) :
    ∃ x t' k', t = x ++ ']' :: t' ∧ ']' ∉ x ∧ k = ']' :: k' ∧
      tsql.Reaches .code (some ']') t' k' .code b' z := by
  generalize hm : Mode.literal ⟨⟨']', []⟩, false⟩ = m at h
  generalize hm' : Mode.code = m' at h
  induction h with
  | here =>
    rw [← hm] at hm'
    contradiction
  | token first more ih =>
    subst hm hm'
    cases first with
    | hiddenChar e t hides => contradiction
    | lastBackslash hides => contradiction
    | literalEnd _ shows => exact ⟨[], _, _, rfl, List.not_mem_nil, rfl, more⟩
    | @inLiteral _ _ c t shows no =>
      obtain ⟨x, t', k', rfl, hx, rfl, hrest⟩ := ih rfl rfl
      refine ⟨c :: x, t', k', rfl, ?_, rfl, hrest⟩
      simp only [Mark.text, List.isPrefixOf, Bool.and_true, beq_eq_false_iff_ne] at no
      simp [no, hx]

theorem Reaches.leave_comment (h : tsql.Reaches .comment b t k .code b' z) :
    ∃ x t', t = x ++ '*' :: '/' :: t' ∧ ¬ StartsIn ['*', '/'] x ['*', '/'] ∧
      tsql.Reaches .code (some '/') t' k .code b' z := by
  generalize hm : Mode.comment = m at h
  generalize hm' : Mode.code = m' at h
  induction h with
  | here =>
    rw [← hm] at hm'
    contradiction
  | token first more ih =>
    subst hm hm'
    cases first with
    | commentEnd => exact ⟨[], _, rfl, not_startsIn_nil, more⟩
    | @inComment _ c t no =>
      obtain ⟨x, t', rfl, hx, hrest⟩ := ih rfl rfl
      refine ⟨c :: x, t', rfl, ?_, hrest⟩
      rw [startsIn_cons, not_or]
      refine ⟨fun hp => ?_, hx⟩
      rw [← Bool.not_eq_true, List.isPrefixOf_iff_prefix] at no
      refine no (hp.trans ?_)
      exact (List.prefix_append (c :: (x ++ ['*', '/'])) t').trans (by simp)

/-- Nothing stands behind the end of a text. -/
theorem Reaches.eq_of_nil (h : tsql.Reaches .code b [] k m b' z) : b' = b := by
  cases h with
  | here => rfl
  | token first more =>
    obtain ⟨u, hu, hnil⟩ := first.exists_front
    exact absurd (List.append_eq_nil_iff.mp hnil.symm).1 hu

/-- What is passed in code with only brackets as its code consists of brackets, bracketed stretches
and comments. -/
theorem onlyBrackets_of_reaches {b : Option Char} {k y z : Text}
    (h : tsql.Reaches .code b (y ++ z) k .code (some ']') z)
    (hk : ∀ c ∈ k, c = '[' ∨ c = ']') : OnlyBrackets y := by
  -- On the length of `y`: a stretch or a comment takes many tokens before it is code again.
  generalize ht : y ++ z = t at h
  generalize hm : Mode.code = m at h
  cases h with
  | here =>
    obtain rfl : y = [] := by simpa using ht
    exact .nil
  | @token _ m₁ _ _ b₁ _ _ k₁ r k₂ _ first more =>
    obtain ⟨hk₁, hk₂⟩ := List.forall_mem_append.mp hk
    subst hm
    cases first with
    | @lineComment _ c r line =>
      obtain rfl := Option.some.inj more.eq_of_nil
      simp [startsLineComment, List.isPrefixOf] at line
    | commentStart =>
      obtain ⟨x, t', rfl, hx, hrest⟩ := more.leave_comment
      obtain ⟨y', rfl⟩ := hrest.suffix
      have hy : y = '/' :: '*' :: (x ++ '*' :: '/' :: y') :=
        List.append_cancel_right (ht.trans (by simp))
      have hlt : y'.length < y.length := by
        simp only [hy, List.length_cons, List.length_append]
        omega
      rw [hy]
      exact .comment hx (onlyBrackets_of_reaches hrest hk₂)
    | @literalStart _ o _ noLine noBlock opens =>
      have hfirst := hk₁ o.mark.first List.mem_cons_self
      have hopens := opens_of_opener? opens
      -- These speak of `o`, which the cases take apart.
      clear noLine noBlock opens
      cases hopens with
      | quotation hc => rcases hc with rfl | rfl <;> simp at hfirst
      | backtick hd => simp at hd
      | bracket =>
        obtain ⟨x, t', k', rfl, hx, rfl, hrest⟩ := more.leave_bracket
        obtain ⟨y', rfl⟩ := hrest.suffix
        have hy : y = '[' :: (x ++ ']' :: y') :=
          List.append_cancel_right (ht.trans (by simp [Mark.text]))
        have hlt : y'.length < y.length := by
          simp only [hy, List.length_cons, List.length_append]
          omega
        rw [hy]
        exact .stretch hx (onlyBrackets_of_reaches hrest (List.forall_mem_cons.mp hk₂).2)
      | alternative hd => contradiction
      | national hd => contradiction
      | dollar hd => contradiction
    | @inCode _ c r noLine noBlock noOpener =>
      rcases hk₁ c List.mem_cons_self with rfl | rfl
      · rw [opener?_of_quote? (d := tsql) (c := '[') rfl] at noOpener
        contradiction
      · obtain ⟨y', rfl⟩ := more.suffix
        have hy : y = ']' :: y' := List.append_cancel_right ht
        have hlt : y'.length < y.length := by rw [hy, List.length_cons]; omega
        rw [hy]
        exact .bracket (onlyBrackets_of_reaches more hk₂)
termination_by y.length

private theorem getLast?_or (u t : Text) (c : Char) (b : Option Char) :
    (u ++ c :: t).getLast?.or b = t.getLast?.or (some c) := by
  rw [List.getLast?_append, List.getLast?_cons]
  cases t.getLast? <;> rfl

/-- Brackets, bracketed stretches and comments are passed in code. -/
theorem reaches_of_onlyBrackets (h : OnlyBrackets y) (z : Text) :
    ∃ k, (∀ c ∈ k, c = '[' ∨ c = ']') ∧
      ∀ b, tsql.Reaches .code b (y ++ z) k .code (y.getLast?.or b) z := by
  induction h with
  | nil => exact ⟨[], by simp, fun b => .here .code b z⟩
  | @bracket t rest ih =>
    obtain ⟨k, hk, hrest⟩ := ih
    refine ⟨[']'] ++ k, by simpa using hk, fun b => ?_⟩
    rw [← List.nil_append (']' :: t), getLast?_or]
    refine .token (.inCode rfl rfl ?_) (hrest (some ']'))
    simp [opener?, quote?]
  | @stretch x t unclosed rest ih =>
    obtain ⟨k, hk, hrest⟩ := ih
    refine ⟨['['] ++ ([] ++ ([']'] ++ k)), by simpa using hk, fun b => ?_⟩
    obtain ⟨b', hstretch⟩ := reaches_inLiteral (d := tsql) (l := ⟨⟨']', []⟩, false⟩)
      (not_startsIn_of_not_mem unclosed) (by simp) (some '[')
    have hopen := Token.start (o := ⟨⟨'[', []⟩, ⟨⟨']', []⟩, false⟩⟩)
      (opener?_of_quote? (d := tsql) (c := '[') rfl b (x ++ ']' :: (t ++ z)))
    have hclose : tsql.Token (.literal ⟨⟨']', []⟩, false⟩) b' (']' :: (t ++ z)) [']'] .code
        (some ']') (t ++ z) := .literalEnd (t ++ z) rfl
    rw [← List.cons_append, getLast?_or, List.append_assoc]
    exact .token hopen (hstretch.trans (.token hclose (hrest (some ']'))))
  | @comment x t unended rest ih =>
    obtain ⟨k, hk, hrest⟩ := ih
    refine ⟨[] ++ ([] ++ ([] ++ k)), by simpa using hk, fun b => ?_⟩
    obtain ⟨b', hcomment⟩ := reaches_inComment (d := tsql) (not_startsIn_append unended (t ++ z))
      (some '*')
    have hfront : '/' :: '*' :: (x ++ '*' :: '/' :: t) =
        ('/' :: '*' :: (x ++ ['*'])) ++ '/' :: t := by
      simp
    have hclose : tsql.Token .comment b' ('*' :: '/' :: (t ++ z)) [] .code (some '/') (t ++ z) :=
      .commentEnd (t ++ z)
    rw [hfront, getLast?_or, ← hfront, List.cons_append, List.cons_append, List.append_assoc]
    exact .token (.commentStart _) (hcomment.trans (.token hclose (hrest (some '/'))))

theorem passesName_iff_onlyBrackets (b : Option Char) (w z : Text) :
    PassesName b w z ↔ OnlyBrackets (bracketed w) := by
  constructor
  · rintro ⟨k, hk, h⟩
    exact onlyBrackets_of_reaches h hk
  · intro h
    obtain ⟨k, hk, hreaches⟩ := reaches_of_onlyBrackets h z
    refine ⟨k, hk, ?_⟩
    have hlast : (bracketed w).getLast?.or b = some ']' :=
      getLast?_or ('[' :: doubled ']' w) [] ']' b
    rw [← hlast]
    exact hreaches b

end Dialect

namespace Text

variable {u u' v v' w : Text}

theorem doubled_append (q : Char) (u v : Text) : doubled q (u ++ v) = doubled q u ++ doubled q v :=
  List.flatMap_append

theorem doubled_of_not_mem {q : Char} (h : q ∉ u) : doubled q u = u := by
  induction u with
  | nil => rfl
  | cons c u ih =>
    obtain ⟨hc, hu⟩ := List.ne_and_not_mem_of_not_mem_cons h
    have ih := ih hu
    rw [doubled] at ih ⊢
    rw [List.flatMap_cons, ih, if_neg (Ne.symm hc)]
    rfl

/-- The first place of a character is found in one way. -/
theorem eq_of_first {c : Char} (hu : c ∉ u) (hu' : c ∉ u') (h : u ++ c :: v = u' ++ c :: v') :
    u = u' ∧ v = v' := by
  induction u generalizing u' with
  | nil =>
    cases u' with
    | nil => exact ⟨rfl, (List.cons.inj h).2⟩
    | cons e u' => exact absurd ((List.cons.inj h).1 ▸ List.mem_cons_self) hu'
  | cons x u ih =>
    cases u' with
    | nil => exact absurd ((List.cons.inj h).1 ▸ List.mem_cons_self) hu
    | cons e u' =>
      obtain ⟨rfl, hrest⟩ := List.cons.inj h
      obtain ⟨rfl, rfl⟩ := ih (List.not_mem_of_not_mem_cons hu) (List.not_mem_of_not_mem_cons hu')
        hrest
      exact ⟨rfl, rfl⟩

theorem onlyBrackets_stretch_iff (hu : ']' ∉ u) :
    OnlyBrackets ('[' :: (u ++ ']' :: v)) ↔ OnlyBrackets v := by
  constructor
  · intro h
    generalize ht : '[' :: (u ++ ']' :: v) = t at h
    cases h with
    | stretch unclosed rest =>
      obtain ⟨-, rfl⟩ := eq_of_first hu unclosed (List.cons.inj ht).2
      exact rest
    | _ => simp at ht
  · exact .stretch hu

theorem onlyBrackets_bracket_iff : OnlyBrackets (']' :: v) ↔ OnlyBrackets v := by
  constructor
  · rintro (_ | rest)
    exact rest
  · exact .bracket

/-- As it is written, a name is made of brackets, stretches and comments if and only if what stands
behind its first closing bracket is. -/
theorem onlyBrackets_bracketed_iff (w : Text) : OnlyBrackets (bracketed w) ↔ w.EndsPlainly := by
  by_cases hw : ']' ∈ w
  · obtain ⟨u, v, rfl, hu⟩ := List.eq_append_cons_of_mem hw
    have hbracketed : bracketed (u ++ ']' :: v) =
        '[' :: (u ++ ']' :: ']' :: (doubled ']' v ++ [']'])) := by
      rw [bracketed, doubled_append, doubled_of_not_mem hu, doubled, List.flatMap_cons, ← doubled]
      simp
    rw [hbracketed, onlyBrackets_stretch_iff hu, onlyBrackets_bracket_iff]
    constructor
    · rintro h u' v' hsplit hu'
      obtain ⟨-, rfl⟩ := eq_of_first hu hu' hsplit
      exact h
    · exact fun h => h u v rfl hu
  · rw [bracketed, doubled_of_not_mem hw]
    constructor
    · rintro - u v rfl
      simp at hw
    · exact fun _ => .stretch hw .nil

end Text

namespace Draft

variable {s : Draft} {a ka w z : Text} {b : Option Char}

/-- What comes of a name in brackets on a line, `z` being what follows it. -/
structure ReadsName (s : Draft) (a ka : Text) (b : Option Char) (w z : Text) : Prop where
  passes : Dialect.PassesName b w z ↔ w.EndsPlainly
  /-- Then the line gives the brackets and the code of what follows, and leaves its mode. -/
  line : w.EndsPlainly → ∃ k, (∀ c ∈ k, c = '[' ∨ c = ']') ∧
    (s.scan .tsql (a ++ (bracketed w ++ z))).code =
      ka ++ (k ++ (Dialect.tsql.read .code (some ']') z).1) ∧
    (s.add .tsql (a ++ (bracketed w ++ z))).mode = (Dialect.tsql.read .code (some ']') z).2

/-- A name in brackets that starts in code is passed if and only if nothing but brackets, stretches
in brackets and comments stands behind its first closing bracket. -/
theorem readsName (hplace : Dialect.tsql.Reaches s.mode none (a ++ (bracketed w ++ z)) ka .code b
    (bracketed w ++ z)) : s.ReadsName a ka b w z where
  passes := (Dialect.passesName_iff_onlyBrackets b w z).trans (onlyBrackets_bracketed_iff w)
  line := by
    intro hw
    obtain ⟨k, hk, hname⟩ :=
      (Dialect.passesName_iff_onlyBrackets b w z).mpr ((onlyBrackets_bracketed_iff w).mpr hw)
    obtain ⟨hcode, hmode⟩ := scan_of_code (s := s) (d := .tsql) rfl (a ++ (bracketed w ++ z))
    rw [(hplace.trans hname).read] at hcode hmode
    exact ⟨k, hk, by rw [hcode, prepend, List.append_assoc], hmode⟩

/-- A quotation mark, a comment's mark and the end of a batch inside a name. -/
theorem readsName_quotation_mark :
    let w := "it's -- GO".toList
    Dialect.tsql.Reaches ({} : Draft).mode none ([] ++ (bracketed w ++ " AS x".toList)) [] .code
        none (bracketed w ++ " AS x".toList) ∧
      ({} : Draft).ReadsName [] [] none w " AS x".toList := by
  intro w
  have hplace : Dialect.tsql.Reaches ({} : Draft).mode none ([] ++ (bracketed w ++ " AS x".toList))
      [] .code none (bracketed w ++ " AS x".toList) := .here _ _ _
  exact ⟨hplace, readsName hplace⟩

/-- Behind the first closing bracket of a name a quotation mark opens a literal, so that the line
that ends the batch is not seen. -/
theorem not_passesName_quotation_mark :
    ¬ Dialect.PassesName none "a]'b".toList [] ∧ bracketed "a]'b".toList = "[a]]'b]".toList ∧
      Dialect.tsql.read .code none "[a]]'b]".toList =
        ("[]]'".toList, .literal ⟨⟨'\x27', []⟩, false⟩) ∧
      Cutting.split ⟨.tsql, false⟩
          (["SELECT [a]]'b] FROM t", "GO", "SELECT 2", "GO"].map String.toList) =
        [⟨1, "SELECT [a]]'b] FROM t\nGO\nSELECT 2\nGO".toList⟩] := by
  have hread : Dialect.tsql.read .code none "[a]]'b]".toList =
      ("[]]'".toList, .literal ⟨⟨'\x27', []⟩, false⟩) := by decide +kernel
  refine ⟨?_, by decide, hread, by decide +kernel⟩
  rintro ⟨k, -, h⟩
  have hcode := congrArg Prod.snd h.read
  rw [Dialect.read_nil, List.append_nil, show bracketed "a]'b".toList = "[a]]'b]".toList by decide,
    hread] at hcode
  contradiction

end Draft
end MigrationScript
