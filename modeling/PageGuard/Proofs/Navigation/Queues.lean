import PageGuard.Proofs.Navigation.Collecting
import Mathlib.Data.List.DropRight
import Mathlib.Data.List.Induction

/-!
# The queues of a context after any operations

Elements and candidates share a context, and each queue is emptied in its own way: hiding takes the
elements off the page and leaves the candidates, draining takes the candidates and leaves the
elements.  What a queue holds can be told from the operations alone: the distinct items that were
added to it since it was emptied last, in the order in which they first came.

* `addedSince`: the items added to a queue since it was emptied last.
* `queue_foldl_eq`: a queue that every operation feeds or empties holds these items, each once.
* `Context.Op`, `Context.after`: the operations, and the context after some of them.
* `Context.after_eq`: both queues after any operations.
* `Context.op_after`: what each operation answers then, and what it leaves.
-/

namespace PageGuard

/-! ## A queue told from its history -/

section History

variable {O α : Type*}

/-- The items that operations have added to a queue since the last one that empties it, in order. -/
def addedSince (item? : O → Option α) (empties : O → Bool) (ops : List O) : List α :=
  (ops.rtakeWhile fun o => !empties o).filterMap item?

theorem addedSince_concat_of_empties {empties : O → Bool} {o : O} (h : empties o = true)
    (item? : O → Option α) (ops : List O) : addedSince item? empties (ops ++ [o]) = [] := by
  rw [addedSince, List.rtakeWhile_concat_neg _ _ _ (by simp [h]), List.filterMap_nil]

theorem addedSince_concat {empties : O → Bool} {o : O} (h : empties o = false)
    (item? : O → Option α) (ops : List O) :
    addedSince item? empties (ops ++ [o]) = addedSince item? empties ops ++ (item? o).toList := by
  rw [addedSince, List.rtakeWhile_concat_pos _ _ _ (by simp [h]), List.filterMap_append,
    ← addedSince]
  cases hitem : item? o <;> simp [hitem]

end History

/-- **A queue that every operation either empties or feeds** holds the distinct items added since it
was emptied last. -/
theorem queue_foldl_eq {O S : Type*} {α : Type} [DecidableEq α] {item? : O → Option α}
    {empties : O → Bool} {step : S → O → S} {queue : S → List α} {start : S}
    (hstart : queue start = [])
    (hstep : ∀ s o, queue (step s o) =
      if empties o then [] else (item? o).toList.foldl enqueue (queue s))
    (ops : List O) : queue (ops.foldl step start) = (addedSince item? empties ops).eraseDups := by
  induction ops using List.reverseRecOn with
  | nil => exact hstart
  | append_singleton ops o ih =>
    rw [List.foldl_append, List.foldl_cons, List.foldl_nil, hstep, ih]
    cases hempties : empties o with
    | true => rw [if_pos rfl, addedSince_concat_of_empties hempties, List.eraseDups_nil]
    | false =>
      rw [if_neg Bool.false_ne_true, addedSince_concat hempties, eraseDups_eq_foldl,
        eraseDups_eq_foldl, List.foldl_append]

namespace Context

/-! ## Operations -/

/-- What is done with a context; hiding is done on a document. -/
inductive Op (N : Type) : Type 1 where
  | addElement (e : N)
  | addBlock (b : Block)
  | drain
  | hide {D : Type} [Document D N] (d : D)
  | report

namespace Op

variable {N : Type}

/-- The element that an operation queues. -/
def element? : Op N → Option N
  | .addElement e => some e
  | _ => none

/-- The candidate that an operation queues. -/
def block? : Op N → Option Block
  | .addBlock b => some b
  | _ => none

/-- Whether an operation hides the queued elements. -/
def hides : Op N → Bool
  | @hide _ _ _ _ => true
  | _ => false

/-- Whether an operation takes the candidates. -/
def drains : Op N → Bool
  | .drain => true
  | _ => false

/-- The elements added since the last hiding, as often as they were added. -/
def elements (ops : List (Op N)) : List N := addedSince element? hides ops

/-- The candidates added since the last draining, as often as they were added. -/
def blocks (ops : List (Op N)) : List Block := addedSince block? drains ops

end Op

section Running

variable {N : Type} [DecidableEq N]

/-- The context after an operation. -/
def step (c : Context N) : Op N → Context N
  | .addElement e => (c.addElement e).2
  | .addBlock b => (c.addBlock b).2
  | .drain => c.drain.2
  | @Op.hide _ _ _ d => (c.hide d).2.2
  | .report => c

/-- The context after some operations on an empty one. -/
def after (ops : List (Op N)) : Context N := ops.foldl step {}

/-- What one operation makes of the elements: hiding empties their queue, no other operation takes
any away. -/
theorem elements_step (c : Context N) (o : Op N) :
    (c.step o).elements =
      if o.hides then [] else o.element?.toList.foldl enqueue c.elements := by
  cases o <;> rfl

/-- What one operation makes of the candidates: draining empties their queue, no other operation
takes any away. -/
theorem blocks_step (c : Context N) (o : Op N) :
    (c.step o).blocks = if o.drains then [] else o.block?.toList.foldl enqueue c.blocks := by
  cases o <;> rfl

theorem elements_after (ops : List (Op N)) :
    (after ops).elements = (Op.elements ops).eraseDups :=
  queue_foldl_eq rfl elements_step ops

theorem blocks_after (ops : List (Op N)) : (after ops).blocks = (Op.blocks ops).eraseDups :=
  queue_foldl_eq rfl blocks_step ops

/-- **The context after any operations**: the distinct elements added since the last hiding and the
distinct candidates added since the last draining, in the order in which they first came. -/
theorem after_eq (ops : List (Op N)) :
    after ops = ⟨(Op.elements ops).eraseDups, (Op.blocks ops).eraseDups⟩ := by
  rw [← elements_after, ← blocks_after]

end Running

/-! ## Answers -/

section Answers

variable {N : Type} [DecidableEq N]

/-- An element is new unless it was added since the last hiding. -/
theorem addElement_after (ops : List (Op N)) (e : N) :
    ((after ops).addElement e).1 = true ↔ e ∉ Op.elements ops := by
  rw [addElement, decide_eq_true_iff, elements_after, List.mem_eraseDups]

/-- A candidate is new unless it was added since the last draining. -/
theorem addBlock_after (ops : List (Op N)) (b : Block) :
    ((after ops).addBlock b).1 = true ↔ b ∉ Op.blocks ops := by
  rw [addBlock, decide_eq_true_iff, blocks_after, List.mem_eraseDups]

/-- A candidate is new when each of the others differs from it in one of the six fields. -/
theorem notMem_blocks_iff {b : Block} {l : List Block} :
    b ∉ l ↔ ∀ q ∈ l, q.domain ≠ b.domain ∨ q.silent ≠ b.silent ∨ q.type ≠ b.type ∨
      q.source ≠ b.source ∨ q.id ≠ b.id ∨ q.aggressive ≠ b.aggressive := by
  have hdiffer (q : Block) : q ≠ b ↔ q.domain ≠ b.domain ∨ q.silent ≠ b.silent ∨
      q.type ≠ b.type ∨ q.source ≠ b.source ∨ q.id ≠ b.id ∨ q.aggressive ≠ b.aggressive := by
    cases q
    cases b
    simp only [ne_eq, Block.mk.injEq, not_and_or]
  simp only [← hdiffer]
  exact ⟨fun h q hq heq => h (heq ▸ hq), fun h hb => h b hb rfl⟩

/-- **The queues after any operations, and what each operation answers then.**  The context holds
the distinct elements added since the last hiding and the distinct candidates added since the last
draining, in the order in which they first came.  Adding tells whether the item is new; draining
gives all candidates and empties their queue; hiding takes the elements off the document, counts
them, empties their queue and leaves the candidates; reporting tells the candidates and changes
nothing. -/
theorem op_after (ops : List (Op N)) :
    let elements := (Op.elements ops).eraseDups
    let blocks := (Op.blocks ops).eraseDups
    after ops = ⟨elements, blocks⟩ ∧
      (∀ e, ((after ops).addElement e).1 = true ↔ e ∉ Op.elements ops) ∧
      (∀ b, ((after ops).addBlock b).1 = true ↔ ∀ q ∈ Op.blocks ops, q.domain ≠ b.domain ∨
        q.silent ≠ b.silent ∨ q.type ≠ b.type ∨ q.source ≠ b.source ∨ q.id ≠ b.id ∨
        q.aggressive ≠ b.aggressive) ∧
      (after ops).drain = (blocks, ⟨elements, []⟩) ∧
      (∀ {D : Type} [Document D N] (d : D), (after ops).hide d =
        (elements.length, elements.foldl Document.remove d, ⟨[], blocks⟩)) ∧
      (after ops).report = .ofBlocks blocks ∧ after (ops ++ [.report]) = after ops := by
  intro elements blocks
  have hafter : after ops = ⟨elements, blocks⟩ := after_eq ops
  have hreport : after (ops ++ [.report]) = after ops := by
    rw [after, List.foldl_append]
    rfl
  refine ⟨hafter, addElement_after ops, fun b => ?_, ?_, fun d => ?_, ?_, hreport⟩
  · rw [addBlock_after, notMem_blocks_iff]
  · rw [hafter, drain]
  · rw [hafter, hide]
  · rw [hafter, report]

end Answers

end Context

end PageGuard
