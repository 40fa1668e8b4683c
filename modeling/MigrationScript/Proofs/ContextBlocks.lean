import MigrationScript.Proofs.FieldValues
import MigrationScript.Proofs.LoggerSetup

/-!
Contexts as blocks that are entered and left, one inside the other. Main statements: a key has the
value that the innermost open block binds it to, and what is nested in a block leaves the contexts
as they were.
-/
namespace MigrationScript.Loggers

/-- What an act does to the blocks that are open, the innermost first. -/
def Act.onBlocks : Act → List Fields → List Fields
  | .enter fields, blocks => fields :: blocks
  | .leave, blocks => blocks.tail
  | _, blocks => blocks

/-- The blocks that are open when some acts are done, out of those that were open before. -/
def openBlocks (blocks : List Fields) (acts : List Act) : List Fields :=
  acts.foldl (fun blocks a => a.onBlocks blocks) blocks

/-- The contexts that stand for blocks: each block's fields above those of the blocks around. -/
def stack : List Fields → List Fields
  | [] => []
  | block :: blocks => Fields.merge ((stack blocks).head?.getD []) block :: stack blocks

/-- Acts that leave no block but their own and leave all of these. -/
inductive Nested : List Act → Prop where
  | nil : Nested []
  | other {a : Act} {acts : List Act} (h : a.onBlocks = id) (hacts : Nested acts) :
      Nested (a :: acts)
  | block (fields : Fields) {body acts : List Act} (hbody : Nested body) (hacts : Nested acts) :
      Nested (.enter fields :: body ++ .leave :: acts)

variable {s : Loggers} {a : Act} {acts body : List Act} {blocks : List Fields}

theorem openBlocks_append (blocks : List Fields) (acts more : List Act) :
    openBlocks blocks (acts ++ more) = openBlocks (openBlocks blocks acts) more :=
  List.foldl_append

theorem openBlocks_of_nested (h : Nested acts) (blocks : List Fields) :
    openBlocks blocks acts = blocks := by
  induction h generalizing blocks with
  | nil => rfl
  | @other a acts h _ ih =>
    show openBlocks (a.onBlocks blocks) acts = blocks
    rw [h]
    exact ih blocks
  | @block fields body acts _ _ ihbody ih =>
    rw [openBlocks_append]
    show openBlocks (openBlocks (fields :: blocks) body).tail acts = blocks
    rw [ihbody]
    exact ih blocks

theorem contexts_step (h : s.contexts = stack blocks) (a : Act) :
    (s.step a).1.contexts = stack (a.onBlocks blocks) := by
  cases a with
  | ask name => exact h
  | log name level event fields => exact contexts_log.trans h
  | enter fields =>
    show Fields.merge (s.contexts.head?.getD []) fields :: s.contexts = _
    rw [h]
    rfl
  | leave =>
    show s.contexts.tail = stack blocks.tail
    rw [h]
    cases blocks <;> rfl
  | configure level style others =>
    rw [fst_step_configure]
    cases Act.setting? (.configure level style others) <;> exact h

theorem contexts_run (h : s.contexts = stack blocks) (acts : List Act) :
    (s.run acts).contexts = stack (openBlocks blocks acts) := by
  induction acts generalizing s blocks with
  | nil => exact h
  | cons a acts ih => exact ih (contexts_step h a)

theorem contexts_fresh (times : Nat → Text) (acts : List Act) :
    ((fresh times).run acts).contexts = stack (openBlocks [] acts) := by
  have h : (fresh times).contexts = stack [] := rfl
  exact contexts_run h acts

/-- A key has the value that the innermost block binds it to. -/
theorem lookup_context (h : s.contexts = stack blocks) (key : Text) :
    s.context.lookup key = blocks.findSome? (Fields.value? key) := by
  unfold context
  rw [h]
  induction blocks generalizing s with
  | nil => rfl
  | cons block blocks ih =>
    show (Fields.merge ((stack blocks).head?.getD []) block).lookup key = _
    rw [Fields.lookup_merge, ih (s := { s with contexts := stack blocks }) rfl,
      List.findSome?_cons]
    cases Fields.value? key block <;> rfl

theorem distinct_context (h : s.contexts = stack blocks) : s.context.Distinct := by
  unfold context
  rw [h]
  induction blocks generalizing s with
  | nil => exact List.Pairwise.nil
  | cons block blocks ih =>
    exact (ih (s := { s with contexts := stack blocks }) rfl).merge block

/-- A block leaves the contexts as they were. -/
theorem contexts_block (h : s.contexts = stack blocks) (fields : Fields) (hbody : Nested body) :
    (s.run (.enter fields :: body ++ [.leave])).contexts = s.contexts := by
  rw [contexts_run h, openBlocks_of_nested (.block fields hbody .nil), h]

end MigrationScript.Loggers
