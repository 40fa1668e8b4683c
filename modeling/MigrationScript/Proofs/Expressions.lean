import MigrationScript.Placeholders

/-!
Placeholder expressions in a line: where one starts, which name it has, and the walk from one to the
next. Every line has exactly one walk, and it is the one that filling takes.
-/
namespace MigrationScript.Placeholders

/-- A text can be read as an expression with some name, and what follows it. -/
structure Starts (p : Placeholders) (t name rest : Text) : Prop where
  text : t = p.written name ++ rest
  named : name ≠ []
  oneLine : '\n' ∉ name

/-- No expression starts at the front of a text. -/
def Free (p : Placeholders) (t : Text) : Prop :=
  ∀ name rest, ¬ p.Starts t name rest

/-- Of all names that the expression at the front can be read with, the shortest. -/
structure Leads (p : Placeholders) (t name rest : Text) : Prop where
  starts : p.Starts t name rest
  shortest : ∀ name' rest', p.Starts t name' rest' → name.length ≤ name'.length

/-- Plain text, and the name of the expression that comes next. -/
structure Stretch where
  plain : Text
  name : Text

/-- The walk through a line: plain text up to the first place where an expression starts, the
expression with the shortest name, and on behind it until no place is left where one starts. -/
inductive Walk (p : Placeholders) : Text → List Stretch → Text → Prop
  | last {t : Text} (free : ∀ a b, t = a ++ b → p.Free b) : Walk p t [] t
  | next {plain t name rest last : Text} {more : List Stretch}
      (free : ∀ a b, plain = a ++ b → b ≠ [] → p.Free (b ++ t)) (leads : p.Leads t name rest)
      (on : Walk p rest more last) : Walk p (plain ++ t) (⟨plain, name⟩ :: more) last

variable {p : Placeholders} {t u name name' rest rest' last last' : Text}
  {ss ss' : List Stretch} {m : Mark}

theorem Starts.ne_nil (h : p.Starts t name rest) : t ≠ [] := by
  rw [h.text, written, Mark.text]
  simp

theorem free_nil : p.Free [] :=
  fun _ _ h => h.ne_nil rfl

/-- A name is found in one way. -/
theorem Leads.unique (h : p.Leads t name rest) (h' : p.Leads t name' rest') :
    name = name' ∧ rest = rest' := by
  have hlength : name.length = name'.length :=
    Nat.le_antisymm (h.shortest _ _ h'.starts) (h'.shortest _ _ h.starts)
  have htext := h.starts.text.symm.trans h'.starts.text
  simp only [written, List.append_assoc, List.append_cancel_left_eq] at htext
  obtain ⟨hname, hrest⟩ := List.append_inj htext hlength
  exact ⟨hname, List.append_cancel_left hrest⟩

/-- Two walks that both go on find the next expression at the same place. -/
private theorem plain_unique {a a' : Text} (h : a ++ t = a' ++ u) (ht : ¬ p.Free t)
    (hu : ¬ p.Free u) (ha : ∀ x y, a = x ++ y → y ≠ [] → p.Free (y ++ t))
    (ha' : ∀ x y, a' = x ++ y → y ≠ [] → p.Free (y ++ u)) : a = a' ∧ t = u := by
  rcases List.append_eq_append_iff.mp h with ⟨b, rfl, rfl⟩ | ⟨b, rfl, rfl⟩
  · by_cases hb : b = []
    · subst hb
      simp
    · exact absurd (ha' a b rfl hb) ht
  · by_cases hb : b = []
    · subst hb
      simp
    · exact absurd (ha a' b rfl hb) hu

theorem Leads.not_free (h : p.Leads t name rest) : ¬ p.Free t :=
  fun hfree => hfree name rest h.starts

theorem Walk.unique (h : p.Walk t ss last) (h' : p.Walk t ss' last') :
    ss = ss' ∧ last = last' := by
  induction h generalizing ss' last' with
  | last free =>
    cases h' with
    | last => exact ⟨rfl, rfl⟩
    | next _ leads => exact absurd (free _ _ rfl) leads.not_free
  | @next plain t name rest last more free leads on ih =>
    generalize hu : plain ++ t = u at h'
    cases h' with
    | last free' => exact absurd (free' plain t hu.symm) leads.not_free
    | next free' leads' on' =>
      obtain ⟨rfl, rfl⟩ := plain_unique hu leads.not_free leads'.not_free free free'
      obtain ⟨rfl, rfl⟩ := leads.unique leads'
      obtain ⟨rfl, rfl⟩ := ih on'
      exact ⟨rfl, rfl⟩

/-- What stands before the first closing mark is one line and the shortest such text. -/
theorem upToClosing?_eq_some {n : Text} (h : upToClosing? m t = some n) :
    '\n' ∉ n ∧ ∃ rest, t = n ++ (m.text ++ rest) := by
  induction t generalizing n with
  | nil => simp [upToClosing?] at h
  | cons c t ih =>
    unfold upToClosing? at h
    split at h
    next hm =>
      obtain ⟨rest, hrest⟩ := List.isPrefixOf_iff_prefix.mp hm
      obtain rfl := Option.some.inj h
      exact ⟨List.not_mem_nil, rest, hrest.symm⟩
    next hm =>
      split at h
      · contradiction
      next hc =>
        obtain ⟨n', hn', rfl⟩ := Option.map_eq_some_iff.mp h
        obtain ⟨hline, rest, rfl⟩ := ih hn'
        refine ⟨?_, rest, rfl⟩
        rw [List.mem_cons, not_or]
        exact ⟨Ne.symm hc, hline⟩

theorem upToClosing?_of_closed (hname : '\n' ∉ name) (rest : Text) :
    ∃ n, upToClosing? m (name ++ (m.text ++ rest)) = some n ∧ n.length ≤ name.length := by
  induction name with
  | nil =>
    refine ⟨[], ?_, Nat.le_refl 0⟩
    have hm : m.text.isPrefixOf (m.text ++ rest) = true :=
      List.isPrefixOf_iff_prefix.mpr (List.prefix_append _ _)
    rw [List.nil_append, Mark.text, List.cons_append, upToClosing?]
    rw [Mark.text, List.cons_append] at hm
    exact if_pos hm
  | cons c name ih =>
    obtain ⟨hc, hname⟩ := List.ne_and_not_mem_of_not_mem_cons hname
    obtain ⟨n, hn, hle⟩ := ih hname
    rw [List.cons_append, upToClosing?]
    split
    next => exact ⟨[], rfl, Nat.zero_le _⟩
    next =>
      rw [if_neg (Ne.symm hc), hn]
      exact ⟨c :: n, rfl, Nat.succ_le_succ hle⟩

/-- The name that is found at a place is the one that leads there. -/
theorem leads_of_name? (h : p.name? t = some name) :
    p.Leads t name (t.drop (p.opening.text.length + name.length + p.closing.text.length)) := by
  unfold name? at h
  split at h
  next c more hafter =>
    have ht := Text.eq_append_of_after? hafter
    split at h
    · contradiction
    next hc =>
      obtain ⟨n, hn, rfl⟩ := Option.map_eq_some_iff.mp h
      obtain ⟨hline, rest, rfl⟩ := upToClosing?_eq_some hn
      have htext : t = p.written (c :: n) ++ rest := by
        rw [ht, written]
        simp
      have hdrop : t.drop (p.opening.text.length + (c :: n).length + p.closing.text.length) =
          rest := by
        rw [htext]
        apply List.drop_left'
        simp only [written, List.length_append]
      rw [hdrop]
      constructor
      · exact ⟨htext, List.cons_ne_nil _ _, fun h => (List.mem_cons.mp h).elim (Ne.symm hc) hline⟩
      · intro name' rest' h'
        have hsame := htext.symm.trans h'.text
        obtain ⟨d, n', rfl⟩ := List.exists_cons_of_ne_nil h'.named
        simp only [written, List.append_assoc, List.append_cancel_left_eq, List.cons_append,
          List.cons.injEq] at hsame
        obtain ⟨-, hsame⟩ := hsame
        have hline' : '\n' ∉ n' := fun h => h'.oneLine (List.mem_cons_of_mem _ h)
        obtain ⟨k, hk, hle⟩ := upToClosing?_of_closed (m := p.closing) hline' rest'
        rw [← hsame, hn] at hk
        obtain rfl := Option.some.inj hk
        exact Nat.succ_le_succ hle
  next => contradiction

theorem free_of_name? (h : p.name? t = none) : p.Free t := by
  intro name rest hs
  obtain ⟨c, n, rfl⟩ := List.exists_cons_of_ne_nil hs.named
  obtain ⟨hc, hline⟩ := List.ne_and_not_mem_of_not_mem_cons hs.oneLine
  obtain ⟨k, hk, -⟩ := upToClosing?_of_closed (m := p.closing) hline rest
  have hafter : Text.after? p.opening.text t = some (c :: (n ++ (p.closing.text ++ rest))) := by
    rw [hs.text, written, List.append_assoc, List.append_assoc, Text.after?_append]
    rfl
  rw [name?, hafter] at h
  simp [Ne.symm hc, hk] at h

/-- An expression at the very front is the first of the walk. -/
theorem Walk.found (leads : p.Leads t name rest) (on : p.Walk rest ss last) :
    p.Walk t (⟨[], name⟩ :: ss) last := by
  rw [← List.nil_append t]
  refine .next ?_ leads on
  intro a b hab hb
  exact absurd (List.append_eq_nil_iff.mp hab.symm).2 hb

/-- The parts of a line that a walk leads along. -/
def segmentsOf (ss : List Stretch) (last : Text) : List Segment :=
  ss.flatMap (fun s => s.plain.map .plain ++ [.expression s.name]) ++ last.map .plain

/-- A character in front of a walk at which no expression starts is more plain text. -/
theorem Walk.cons {c : Char} (h : p.Walk t ss last) (hfree : p.Free (c :: t)) :
    ∃ ss' last', p.Walk (c :: t) ss' last' ∧
      segmentsOf ss' last' = .plain c :: segmentsOf ss last := by
  cases h with
  | last free =>
    refine ⟨[], c :: t, .last ?_, rfl⟩
    intro a b hab
    rcases List.cons_eq_append_iff.mp hab with ⟨-, rfl⟩ | ⟨a', -, rfl⟩
    · exact hfree
    · exact free a' b rfl
  | @next plain u name rest _ more free leads on =>
    refine ⟨⟨c :: plain, name⟩ :: more, last, ?_, rfl⟩
    rw [← List.cons_append]
    refine .next ?_ leads on
    intro a b hab hb
    rcases List.cons_eq_append_iff.mp hab with ⟨-, rfl⟩ | ⟨a', -, rfl⟩
    · exact hfree
    · exact free a' b rfl hb

/-- Every line has a walk, and it leads along the parts that the line is read in. -/
theorem exists_walk (p : Placeholders) (t : Text) :
    ∃ ss last, p.Walk t ss last ∧ p.segments t = segmentsOf ss last := by
  induction t using segments.induct p with
  | case1 =>
    refine ⟨[], [], .last ?_, by simp [segments, segmentsOf]⟩
    intro a b h
    obtain rfl := (List.append_eq_nil_iff.mp h.symm).2
    exact free_nil
  | case2 c t name hname ih =>
    obtain ⟨ss, last, hwalk, hsegments⟩ := ih
    have hleads := leads_of_name? hname
    have hdrop : (c :: t).drop (p.opening.text.length + name.length + p.closing.text.length) =
        t.drop (p.opening.more.length + name.length + p.closing.text.length) := by
      have hlength : p.opening.text.length + name.length + p.closing.text.length =
          p.opening.more.length + name.length + p.closing.text.length + 1 := by
        show p.opening.more.length + 1 + _ + _ = _
        omega
      rw [hlength]
      rfl
    rw [hdrop] at hleads
    refine ⟨⟨[], name⟩ :: ss, last, .found hleads hwalk, ?_⟩
    rw [segments, hname]
    simp [segmentsOf, hsegments]
  | case3 c t hname ih =>
    obtain ⟨ss, last, hwalk, hsegments⟩ := ih
    obtain ⟨ss', last', hwalk', hcons⟩ := hwalk.cons (free_of_name? hname)
    refine ⟨ss', last', hwalk', ?_⟩
    rw [segments, hname, hcons, hsegments]

theorem segments_of_walk (h : p.Walk t ss last) : p.segments t = segmentsOf ss last := by
  obtain ⟨ss', last', hwalk, hsegments⟩ := exists_walk p t
  obtain ⟨rfl, rfl⟩ := h.unique hwalk
  exact hsegments

end MigrationScript.Placeholders
