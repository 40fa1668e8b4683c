import MigrationScript.Log.Value

/-!
Reading JSON, character by character, with a stack of the lists and objects that are open. Main
statement: the text of any value is read back, and gives the value with its paths, failures and
bytes as texts. Numbers with a fraction or an exponent are no values here, and are refused.
-/
namespace MigrationScript

mutual

/-- The value as it is read back: paths and failures are their text, bytes their text in base 64. -/
def Value.readable : Value → Value
  | .path t => .text t
  | .fault t => .text t
  | .bytes b => .text (Base64.encode b)
  | .list vs => .list (Value.readables vs)
  | .fields fs => .fields (Value.readableFields fs)
  | .null => .null
  | .bool b => .bool b
  | .int n => .int n
  | .text t => .text t

def Value.readables : List Value → List Value
  | [] => []
  | v :: vs => v.readable :: Value.readables vs

def Value.readableFields : Fields → Fields
  | [] => []
  | (key, v) :: fs => (key, v.readable) :: Value.readableFields fs

end

namespace Json

/-- What a text is made of: six marks, and all else that stands between them. -/
inductive Token where
  | mark (c : Char)
  | leaf (v : Value)

/-- A list or an object that is open, with what it holds already; of an object also the key whose
value comes next. -/
inductive Frame where
  | list (done : List Value)
  | fields (done : Fields) (key : Text)

/-- What may come next, inside some lists and objects, the innermost first. -/
inductive State where
  | value (outer : List Frame)
  /-- The first value of a list, or its end. -/
  | firstValue (outer : List Frame)
  /-- The first key of an object, or its end. -/
  | firstKey (outer : List Frame)
  | nextKey (done : Fields) (outer : List Frame)
  | colon (done : Fields) (key : Text) (outer : List Frame)
  /-- A value has been read. -/
  | behind (v : Value) (outer : List Frame)

namespace State

/-- A value starts here. -/
def start (outer : List Frame) : Token → Option State
  | .leaf v => some (.behind v outer)
  | .mark c =>
    if c = '[' then some (.firstValue outer)
    else if c = '\x7b' then some (.firstKey outer)
    else none

/-- The mark behind a value: the list or object goes on, or ends. -/
def goOn (v : Value) (outer : List Frame) (c : Char) : Option State :=
  match outer with
  | [] => none
  | .list done :: outer =>
    if c = ',' then some (.value (.list (done ++ [v]) :: outer))
    else if c = ']' then some (.behind (.list (done ++ [v])) outer)
    else none
  | .fields done key :: outer =>
    if c = ',' then some (.nextKey (done ++ [(key, v)]) outer)
    else if c = '\x7d' then some (.behind (.fields (done ++ [(key, v)])) outer)
    else none

def step : State → Token → Option State
  | .value outer, k => start outer k
  | .firstValue outer, .mark c =>
    if c = ']' then some (.behind (.list []) outer) else start (.list [] :: outer) (.mark c)
  | .firstValue outer, .leaf v => start (.list [] :: outer) (.leaf v)
  | .firstKey outer, .mark c => if c = '\x7d' then some (.behind (.fields []) outer) else none
  | .firstKey outer, .leaf (.text t) => some (.colon [] t outer)
  | .nextKey done outer, .leaf (.text t) => some (.colon done t outer)
  | .colon done key outer, .mark c =>
    if c = ':' then some (.value (.fields done key :: outer)) else none
  | .behind v outer, .mark c => goOn v outer c
  | _, _ => none

end State

/-- White space between tokens. -/
def isGap (c : Char) : Bool :=
  c == ' ' || c == '\t' || c == '\n' || c == '\r'

def isMark (c : Char) : Bool :=
  "[]\x7b\x7d:,".toList.contains c

/-- Names and numbers end here. -/
def isBreak (c : Char) : Bool :=
  isGap c || isMark c || c == '"'

/-- The number that decimal digits without a leading zero stand for. -/
def nat? (w : Text) : Option Nat :=
  if w ≠ [] ∧ w.all Char.isDigit = true ∧ (w.head? = some '0' → w = ['0']) then
    some (Nat.ofDigitChars 10 w 0)
  else
    none

/-- What a word stands for: one of three names, or a whole number. -/
def word? : Text → Option Value
  | '-' :: w => (nat? w).map fun n : Nat => .int (-n)
  | w =>
    if w = "null".toList then some .null
    else if w = "true".toList then some (.bool true)
    else if w = "false".toList then some (.bool false)
    else (nat? w).map fun n : Nat => .int n

def hexDigit? (c : Char) : Option Nat :=
  if c.isDigit then some (c.toNat - '0'.toNat)
  else if 'a' ≤ c ∧ c ≤ 'f' then some (c.toNat - 'a'.toNat + 10)
  else if 'A' ≤ c ∧ c ≤ 'F' then some (c.toNat - 'A'.toNat + 10)
  else none

/-- The character that stands for itself or another one behind a backslash. -/
def escaped? (c : Char) : Option Char :=
  [('"', '"'), ('\\', '\\'), ('/', '/'), ('b', '\x08'), ('t', '\t'), ('n', '\n'), ('f', '\x0C'),
    ('r', '\r')].lookup c

/-- The token that is being read. Inside quotation marks, `half` is the first number of a pair that
stands for one character. -/
inductive Lexeme where
  | none
  | word (w : Text)
  | text (t : Text) (half : Option Nat)
  /-- Behind a backslash. -/
  | escape (t : Text) (half : Option Nat)
  /-- In a number of four digits: its value so far, and how many digits come after the next. -/
  | number (t : Text) (half : Option Nat) (n left : Nat)

/-- The text with the character that a number stands for, alone or as the second of a pair. -/
def Lexeme.ofNumber (t : Text) (half : Option Nat) (n : Nat) : Option Lexeme :=
  match half with
  | some m =>
    if 0xDC00 ≤ n ∧ n < 0xE000 then
      some (.text (t ++ [Char.ofNat (0x10000 + (m - 0xD800) * 0x400 + (n - 0xDC00))]) .none)
    else .none
  | .none =>
    if 0xD800 ≤ n ∧ n < 0xDC00 then some (.text t (some n))
    else if 0xDC00 ≤ n ∧ n < 0xE000 then .none
    else some (.text (t ++ [Char.ofNat n]) .none)

structure Reader where
  lexeme : Lexeme := .none
  state : State := .value []

namespace Reader

/-- A character between two tokens. -/
def enter (s : State) (c : Char) : Option Reader :=
  if isGap c then some { state := s }
  else if isMark c then (s.step (.mark c)).map fun s => { state := s }
  else if c = '"' then some ⟨.text [] none, s⟩
  else some ⟨.word [c], s⟩

/-- The state at the end of a token, which quotation marks would have to close. -/
def close (r : Reader) : Option State :=
  match r.lexeme with
  | .none => some r.state
  | .word w => (word? w).bind fun v => r.state.step (.leaf v)
  | _ => none

def step (r : Reader) (c : Char) : Option Reader :=
  match r.lexeme with
  | .none => enter r.state c
  | .word w =>
    if isBreak c then r.close.bind fun s => enter s c else some ⟨.word (w ++ [c]), r.state⟩
  | .text t half =>
    if c = '\\' then some ⟨.escape t half, r.state⟩
    else if half.isSome ∨ c.toNat < 0x20 then none
    else if c = '"' then (r.state.step (.leaf (.text t))).map fun s => { state := s }
    else some ⟨.text (t ++ [c]) none, r.state⟩
  | .escape t half =>
    if c = 'u' then some ⟨.number t half 0 3, r.state⟩
    else if half.isSome then none
    else (escaped? c).map fun c => ⟨.text (t ++ [c]) none, r.state⟩
  | .number t half n left =>
    (hexDigit? c).bind fun d =>
      match left with
      | 0 => (Lexeme.ofNumber t half (n * 16 + d)).map fun x => ⟨x, r.state⟩
      | left + 1 => some ⟨.number t half (n * 16 + d) left, r.state⟩

/-- What several characters make of a reader. -/
def run (r : Reader) (t : Text) : Option Reader :=
  t.foldlM step r

end Reader

/-- The value that a text stands for. -/
def read? (t : Text) : Option Value :=
  ((Reader.run {} t).bind Reader.close).bind fun
    | .behind v [] => some v
    | _ => none

/-- A value is awaited inside the lists and objects `outer`. -/
def State.Awaits (s : State) (outer : List Frame) : Prop :=
  ∀ k, k ≠ .mark ']' → s.step k = State.start outer k

/-- The key of the next member is awaited. -/
def State.AwaitsKey (s : State) (done : Fields) (outer : List Frame) : Prop :=
  ∀ t, s.step (.leaf (.text t)) = some (.colon done t outer)

theorem State.awaits_value (outer : List Frame) : (State.value outer).Awaits outer :=
  fun _ _ => rfl

theorem State.awaits_firstValue (outer : List Frame) :
    (State.firstValue outer).Awaits (.list [] :: outer) := by
  intro k hk
  cases k with
  | mark c =>
    have hc : c ≠ ']' := fun h => hk (h ▸ rfl)
    simp [step, hc]
  | leaf v => rfl

/-- Reading `t` in one state, between tokens, leads to another one where its last token ends. -/
def Leads (s : State) (t : Text) (s' : State) : Prop :=
  ∃ r, Reader.run { state := s } t = some r ∧ r.close = some s'

/-- Reading `t` leads from one state between tokens to another. -/
def Reaches (s : State) (t : Text) (s' : State) : Prop :=
  Reader.run { state := s } t = some { state := s' }

variable {s s' s'' : State} {r r' : Reader} {t u w : Text} {c : Char}

theorem Reader.run_append (h : r.run t = some r') (u : Text) : r.run (t ++ u) = r'.run u := by
  have hsplit : r.run (t ++ u) = (r.run t).bind fun r => r.run u := List.foldlM_append
  rw [hsplit, h, Option.bind_some]

theorem Reader.run_cons (h : r.step c = some r') (t : Text) : r.run (c :: t) = r'.run t := by
  have hsplit : r.run (c :: t) = (r.step c).bind fun r => r.run t := List.foldlM_cons
  rw [hsplit, h, Option.bind_some]

theorem Reaches.leads (h : Reaches s t s') : Leads s t s' :=
  ⟨_, h, rfl⟩

theorem Reaches.append (h : Reaches s t s') (h' : Reaches s' u s'') : Reaches s (t ++ u) s'' := by
  rw [Reaches, Reader.run_append h]
  exact h'

theorem Reaches.append_leads (h : Reaches s t s') (h' : Leads s' u s'') :
    Leads s (t ++ u) s'' := by
  obtain ⟨r, hr, hc⟩ := h'
  refine ⟨r, ?_, hc⟩
  rw [Reader.run_append h]
  exact hr

/-- Behind a token that can end, a break is read as if it stood between tokens. -/
theorem Reader.step_of_close (h : r.close = some s) (hc : isBreak c = true) :
    r.step c = enter s c := by
  obtain ⟨x, s₀⟩ := r
  cases x with
  | none => exact congrArg (enter · c) (Option.some.inj h)
  | word w =>
    show (if isBreak c then _ else _) = _
    rw [if_pos hc, h]
    rfl
  | _ => contradiction

theorem not_isGap_of_isMark (h : isMark c = true) : isGap c = false := by
  have hall : ∀ c ∈ "[]\x7b\x7d:,".toList, isGap c = false := by decide
  exact hall c (List.contains_iff_mem.mp h)

theorem Reader.enter_mark (hc : isMark c = true) (h : s.step (.mark c) = some s') :
    enter s c = some { state := s' } := by
  rw [enter, not_isGap_of_isMark hc, hc, h]
  rfl

/-- A mark is read behind any token that can end. -/
theorem Leads.mark (h : Leads s t s') (hc : isMark c = true)
    (hs : s'.step (.mark c) = some s'') : Reaches s (t ++ [c]) s'' := by
  obtain ⟨r, hr, hclose⟩ := h
  have hb : isBreak c = true := by simp [isBreak, hc]
  have hstep := (Reader.step_of_close hclose hb).trans (Reader.enter_mark hc hs)
  rw [Reaches, Reader.run_append hr, Reader.run_cons hstep]
  rfl

theorem reaches_mark (hc : isMark c = true) (hs : s.step (.mark c) = some s') :
    Reaches s [c] s' :=
  Leads.mark (t := []) ⟨_, rfl, rfl⟩ hc hs

/-! ### Words -/

theorem Reader.run_word (hu : ∀ c ∈ u, isBreak c = false) :
    Reader.run ⟨.word w, s⟩ u = some ⟨.word (w ++ u), s⟩ := by
  induction u generalizing w with
  | nil => simp [run]
  | cons c u ih =>
    obtain ⟨hc, hu⟩ := List.forall_mem_cons.mp hu
    have hstep : Reader.step ⟨.word w, s⟩ c = some ⟨.word (w ++ [c]), s⟩ := by
      simp [step, hc]
    rw [run_cons hstep, List.append_cons w c u]
    exact ih hu

theorem leads_word {v : Value} (hw : ∀ c ∈ w, isBreak c = false) (hv : word? w = some v)
    (hs : s.step (.leaf v) = some s') : Leads s w s' := by
  cases w with
  | nil => contradiction
  | cons c w =>
    obtain ⟨hc, hw⟩ := List.forall_mem_cons.mp hw
    refine ⟨⟨.word (c :: w), s⟩, ?_, ?_⟩
    · have hstep : Reader.step { state := s } c = some ⟨.word [c], s⟩ := by
        simp only [isBreak, Bool.or_eq_false_iff, beq_eq_false_iff_ne] at hc
        simp [Reader.step, Reader.enter, hc]
      rw [Reader.run_cons hstep]
      exact Reader.run_word (w := [c]) hw
    · simp [Reader.close, hv, hs]

theorem not_isBreak_of_isDigit (h : c.isDigit = true) : isBreak c = false := by
  rw [← Bool.not_eq_true]
  intro hb
  simp only [isBreak, isGap, isMark, Bool.or_eq_true, beq_iff_eq, List.contains_iff_mem] at hb
  have hall : ∀ c ∈ "[]\x7b\x7d:,".toList, c.isDigit = false := by decide
  rcases hb with ((((rfl | rfl) | rfl) | rfl) | hm) | rfl
  case inl.inr => simp [hall c hm] at h
  all_goals contradiction

theorem isDigit_of_mem_ofNat {n : Nat} (h : c ∈ Text.ofNat n) : c.isDigit = true :=
  Nat.isDigit_of_mem_toDigits (by decide) (by decide) h

theorem exists_cons_ofNat (n : Nat) : ∃ c w, Text.ofNat n = c :: w :=
  List.exists_cons_of_ne_nil Nat.toDigits_ne_nil

/-- Only zero starts with a zero. -/
theorem ofNat_of_head (n : Nat) (h : (Text.ofNat n).head? = some '0') : Text.ofNat n = ['0'] := by
  induction n using Nat.strongRecOn with
  | ind n ih =>
    by_cases hn : n < 10
    · rw [Text.ofNat, Nat.toDigits_of_lt_base hn] at h ⊢
      rw [Option.some.inj h]
    · have hsplit : Text.ofNat n = Text.ofNat (n / 10) ++ [(n % 10).digitChar] :=
        Nat.toDigits_of_base_le (by decide) (Nat.le_of_not_lt hn)
      obtain ⟨c, w, hw⟩ := exists_cons_ofNat (n / 10)
      have hzero : Text.ofNat (n / 10) = ['0'] := by
        apply ih (n / 10) (by omega)
        rw [hsplit, hw] at h
        rw [hw]
        exact h
      have hval : n / 10 = 0 := by
        rw [← Nat.ofDigitChars_ten_toDigits (n := n / 10)]
        exact congrArg (Nat.ofDigitChars 10 · 0) hzero
      omega

theorem nat?_ofNat (n : Nat) : nat? (Text.ofNat n) = some n := by
  have hd : (Text.ofNat n).all Char.isDigit = true :=
    List.all_eq_true.mpr fun _ hc => isDigit_of_mem_ofNat hc
  rw [nat?, if_pos ⟨Nat.toDigits_ne_nil, hd, ofNat_of_head n⟩]
  exact congrArg some Nat.ofDigitChars_ten_toDigits

theorem word?_of_isDigit (h : c.isDigit = true) (w : Text) :
    word? (c :: w) = (nat? (c :: w)).map fun n : Nat => .int n := by
  have hall : ∀ x ∈ "-ntf".toList, x.isDigit = false := by decide
  have hne (x : Char) (hx : x ∈ "-ntf".toList) : c ≠ x := by
    rintro rfl
    simp [hall c hx] at h
  have hname (x : Char) (hx : x ∈ "-ntf".toList) (u : Text) : c :: w ≠ x :: u :=
    fun e => hne x hx (List.cons.inj e).1
  unfold word?
  split
  next e => exact absurd e (hname '-' (by decide) _)
  next =>
    have hn : c :: w ≠ "null".toList := hname 'n' (by decide) _
    have ht : c :: w ≠ "true".toList := hname 't' (by decide) _
    have hf : c :: w ≠ "false".toList := hname 'f' (by decide) _
    rw [if_neg hn, if_neg ht, if_neg hf]

theorem word?_ofInt (n : Int) : word? (Text.ofInt n) = some (.int n) := by
  cases n with
  | ofNat n =>
    obtain ⟨c, w, hw⟩ := exists_cons_ofNat n
    have hc : c.isDigit = true := isDigit_of_mem_ofNat (n := n) (hw ▸ List.mem_cons_self)
    rw [Text.ofInt, hw, word?_of_isDigit hc, ← hw, nat?_ofNat]
    rfl
  | negSucc n =>
    have hw : word? ('-' :: Text.ofNat (n + 1)) =
        (nat? (Text.ofNat (n + 1))).map fun n : Nat => .int (-n) := rfl
    rw [Text.ofInt, hw, nat?_ofNat]
    rfl

theorem not_isBreak_ofInt (n : Int) : ∀ c ∈ Text.ofInt n, isBreak c = false := by
  have hnat (n : Nat) : ∀ c ∈ Text.ofNat n, isBreak c = false :=
    fun _ hc => not_isBreak_of_isDigit (isDigit_of_mem_ofNat hc)
  cases n with
  | ofNat n => exact hnat n
  | negSucc n => exact List.forall_mem_cons.mpr ⟨by decide, hnat (n + 1)⟩

/-! ### Texts -/

theorem hexDigit?_digitChar : ∀ n < 16, hexDigit? (Nat.digitChar n) = some n := by
  decide

theorem Reader.step_digit {half : Option Nat} {n d left : Nat} (hd : d < 16) :
    Reader.step ⟨.number t half n (left + 1), s⟩ (Nat.digitChar d) =
      some ⟨.number t half (n * 16 + d) left, s⟩ := by
  rw [step, hexDigit?_digitChar d hd]
  rfl

theorem Reader.step_lastDigit {n d : Nat} (hd : d < 16) (hn : n * 16 + d < 0xD800) :
    Reader.step ⟨.number t none n 0, s⟩ (Nat.digitChar d) =
      some ⟨.text (t ++ [Char.ofNat (n * 16 + d)]) none, s⟩ := by
  have hpair : ¬ (0xD800 ≤ n * 16 + d ∧ n * 16 + d < 0xDC00) := by omega
  have hlow : ¬ (0xDC00 ≤ n * 16 + d ∧ n * 16 + d < 0xE000) := by omega
  rw [step, hexDigit?_digitChar d hd]
  simp only [Option.bind_some, Lexeme.ofNumber, if_neg hpair, if_neg hlow]
  rfl

/-- Four digits stand for the character with that number. -/
theorem run_hex {n : Nat} (hn : n < 0xD800) :
    Reader.run ⟨.number t none 0 3, s⟩ (Text.hex 4 n) =
      some ⟨.text (t ++ [Char.ofNat n]) none, s⟩ := by
  have hmod (m : Nat) : m % 16 < 16 := Nat.mod_lt m (by decide)
  have hdigits : Text.hex 4 n = [Nat.digitChar (n / 16 / 16 / 16 % 16),
      Nat.digitChar (n / 16 / 16 % 16), Nat.digitChar (n / 16 % 16), Nat.digitChar (n % 16)] := rfl
  have hvalue : (((0 * 16 + n / 16 / 16 / 16 % 16) * 16 + n / 16 / 16 % 16) * 16 + n / 16 % 16) * 16
      + n % 16 = n := by omega
  rw [hdigits, Reader.run_cons (Reader.step_digit (hmod _)),
    Reader.run_cons (Reader.step_digit (hmod _)), Reader.run_cons (Reader.step_digit (hmod _)),
    Reader.run_cons (Reader.step_lastDigit (hmod _) (by omega)), hvalue]
  rfl

/-- A character of a text is read as it is written. -/
theorem run_escape (c : Char) :
    Reader.run ⟨.text t none, s⟩ (escape c) = some ⟨.text (t ++ [c]) none, s⟩ := by
  unfold escape
  -- the marks and the controls that have a letter of their own
  iterate 7 (split; · subst c; rfl)
  split
  next h =>
    show Reader.run ⟨.number t none 0 3, s⟩ (Text.hex 4 c.toNat) = _
    rw [run_hex (by omega), Char.ofNat_toNat]
  next hquote hbackslash _ _ _ _ _ hcontrol =>
    have hstep : Reader.step ⟨.text t none, s⟩ c = some ⟨.text (t ++ [c]) none, s⟩ := by
      simp [Reader.step, hquote, hbackslash, hcontrol]
    rw [Reader.run_cons hstep]
    rfl

theorem run_escapes (u : Text) :
    Reader.run ⟨.text t none, s⟩ (u.flatMap escape) = some ⟨.text (t ++ u) none, s⟩ := by
  induction u generalizing t with
  | nil => simp [Reader.run]
  | cons c u ih =>
    rw [List.flatMap_cons, Reader.run_append (run_escape c), List.append_cons t c u]
    exact ih

theorem reaches_ofText (hs : s.step (.leaf (.text t)) = some s') : Reaches s (ofText t) s' := by
  have hopen : Reader.step { state := s } '"' = some ⟨.text [] none, s⟩ := rfl
  have hclose : Reader.step ⟨.text t none, s⟩ '"' = some { state := s' } := by
    show (s.step (.leaf (.text t))).map _ = _
    rw [hs]
    rfl
  rw [Reaches, ofText, List.cons_append, Reader.run_cons hopen, Reader.run_append (run_escapes t),
    List.nil_append, Reader.run_cons hclose]
  rfl

/-! ### Values -/

variable {outer : List Frame} {done : Fields}

/-- A value without parts that is written in quotation marks. -/
theorem State.Awaits.ofText (h : s.Awaits outer) (t : Text) :
    Leads s (Json.ofText t) (.behind (.text t) outer) :=
  (reaches_ofText (h (.leaf (.text t)) Token.noConfusion)).leads

theorem State.Awaits.mark (h : s.Awaits outer) (hc : isMark c = true) (hne : c ≠ ']')
    (hs : State.start outer (.mark c) = some s') : Reaches s [c] s' :=
  reaches_mark hc ((h (.mark c) fun e => hne (Token.mark.inj e)).trans hs)

theorem State.Awaits.word (h : s.Awaits outer) {v : Value} (hw : ∀ c ∈ w, isBreak c = false)
    (hv : word? w = some v) : Leads s w (.behind v outer) :=
  leads_word hw hv (h (.leaf v) Token.noConfusion)

theorem State.AwaitsKey.colon (h : s.AwaitsKey done outer) (key : Text) :
    Reaches s (Json.ofText key ++ [':']) (.value (.fields done key :: outer)) :=
  (reaches_ofText (h key)).leads.mark (by decide) rfl

mutual

/-- Where a value is awaited, the text of one is read as the value. -/
theorem leads_ofValue : (v : Value) → ∀ {s : State} {outer : List Frame}, s.Awaits outer →
    Leads s (ofValue v) (.behind v.readable outer)
  | .null, _, _, h => h.word (by decide) rfl
  | .bool true, _, _, h => h.word (by decide) rfl
  | .bool false, _, _, h => h.word (by decide) rfl
  | .int n, _, _, h => h.word (not_isBreak_ofInt n) (word?_ofInt n)
  | .text t, _, _, h => h.ofText t
  | .path t, _, _, h => h.ofText t
  | .fault t, _, _, h => h.ofText t
  | .bytes b, _, _, h => h.ofText (Base64.encode b)
  | .list vs, _, outer, h => by
    have hopen := h.mark (c := '[') (by decide) (by decide) rfl
    cases vs with
    | nil => exact (hopen.append (reaches_mark (by decide) rfl)).leads
    | cons v vs =>
      exact (hopen.append
        (reaches_values (v :: vs) (List.cons_ne_nil v vs) (State.awaits_firstValue outer))).leads
  | .fields fs, _, outer, h => by
    have hopen := h.mark (c := '\x7b') (by decide) (by decide) rfl
    cases fs with
    | nil => exact (hopen.append (reaches_mark (by decide) rfl)).leads
    | cons f fs =>
      exact (hopen.append
        (reaches_members (f :: fs) (List.cons_ne_nil f fs) (fun _ => rfl))).leads

/-- The values of a list up to its end, behind those that are done. -/
theorem reaches_values : (vs : List Value) → vs ≠ [] → ∀ {s : State} {done : List Value}
    {outer : List Frame}, s.Awaits (.list done :: outer) →
    Reaches s (List.intercalate [','] (ofValues vs) ++ [']'])
      (.behind (.list (done ++ Value.readables vs)) outer)
  | [], hne, _, _, _, _ => absurd rfl hne
  | [v], _, _, _, _, h => by
    rw [ofValues, ofValues, List.intercalate_singleton]
    exact (leads_ofValue v h).mark (by decide) rfl
  | v :: w :: vs, _, _, done, outer, h => by
    have hv := (leads_ofValue v h).mark (c := ',') (by decide) rfl
    have hrest := reaches_values (w :: vs) (List.cons_ne_nil w vs)
      (State.awaits_value (.list (done ++ [v.readable]) :: outer))
    rw [List.append_assoc] at hrest
    rw [ofValues, ofValues, List.intercalate_cons_cons, ← ofValues, List.append_assoc]
    exact hv.append hrest

/-- The members of an object up to its end, behind those that are done. -/
theorem reaches_members : (fs : Fields) → fs ≠ [] → ∀ {s : State} {done : Fields}
    {outer : List Frame}, s.AwaitsKey done outer →
    Reaches s (List.intercalate [','] (ofMembers fs) ++ ['\x7d'])
      (.behind (.fields (done ++ Value.readableFields fs)) outer)
  | [], hne, _, _, _, _ => absurd rfl hne
  | [(key, v)], _, _, done, outer, h => by
    have hv := (h.colon key).append_leads (leads_ofValue v (State.awaits_value _))
    rw [ofMembers, ofMembers, List.intercalate_singleton, List.append_cons (ofText key)]
    exact hv.mark (c := '\x7d') (by decide) rfl
  | (key, v) :: (key', w) :: fs, _, _, done, outer, h => by
    have hv := (h.colon key).append_leads (leads_ofValue v (State.awaits_value _))
    have hcomma := hv.mark (c := ',') (by decide) rfl
    have hrest := reaches_members ((key', w) :: fs) (List.cons_ne_nil _ fs)
      (s := .nextKey (done ++ [(key, v.readable)]) outer) (fun _ => rfl)
    rw [List.append_assoc] at hrest
    rw [ofMembers, List.append_cons (ofText key), ofMembers, List.intercalate_cons_cons,
      ← ofMembers, List.append_assoc]
    exact hcomma.append hrest

end

/-- The text of a value is read back. -/
theorem read?_ofValue (v : Value) : read? (ofValue v) = some v.readable := by
  obtain ⟨r, hr, hclose⟩ := leads_ofValue v (State.awaits_value [])
  rw [read?, hr, Option.bind_some, hclose]
  rfl

/-- Other forms of the same values are read too: white space, numbers of characters, pairs. -/
example : read? "[ 12, \x7b\"\\u00e9\\ud83d\\ude00\\/\" : [] \x7d,-0]".toList =
    some (.list [.int 12, .fields [(['é', '😀', '/'], .list [])], .int 0]) := by
  rfl

/-- Leading zeros, trailing commas, controls as they are and half pairs are refused. -/
example : ["[01]", "[1,]", "\"\t\"", "\"\\ud83d\""].map (fun t => read? t.toList) =
    List.replicate 4 none := by
  rfl

end Json
end MigrationScript
