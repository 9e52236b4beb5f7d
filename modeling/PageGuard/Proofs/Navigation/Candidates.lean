import PageGuard.Navigation.Engine
import Mathlib.Data.List.Basic

/-!
# The candidates a page gives

Merging what became of the rules queues a candidate for every blocking rule that found something.

* `blocks_mergeTrial`: what one trial does to the queue.
* `process_blocks`: the queue of a page, one candidate after the other.
* `process_domain`: the candidates of a page carry its host.
-/

namespace PageGuard

/-! ## Queues without repetition -/

section Queues

variable {α : Type} [DecidableEq α]

theorem mem_enqueue {l : List α} {a b : α} : b ∈ enqueue l a ↔ b ∈ l ∨ b = a := by
  unfold enqueue
  by_cases ha : a ∈ l
  · rw [if_pos ha]
    constructor
    · exact Or.inl
    · rintro (hb | rfl)
      · exact hb
      · exact ha
  · rw [if_neg ha, List.mem_append, List.mem_singleton]

theorem mem_foldl_enqueue {l queue : List α} {b : α} :
    b ∈ l.foldl enqueue queue ↔ b ∈ queue ∨ b ∈ l := by
  induction l generalizing queue with
  | nil => rw [List.foldl_nil, or_iff_left List.not_mem_nil]
  | cons a rest ih => rw [List.foldl_cons, ih, mem_enqueue, or_assoc, List.mem_cons]

/-- Items that differ from each other and from what is queued are queued all. -/
theorem foldl_enqueue_of_nodup {l queue : List α} (h : (queue ++ l).Nodup) :
    l.foldl enqueue queue = queue ++ l := by
  induction l generalizing queue with
  | nil => rw [List.foldl_nil, List.append_nil]
  | cons a rest ih =>
    have hnew : a ∉ queue := fun ha =>
      (List.nodup_append.1 h).2.2 a ha a (List.mem_cons_self ..) rfl
    have hqueue : enqueue queue a = queue ++ [a] := by
      unfold enqueue
      rw [if_neg hnew]
    have hassoc : queue ++ a :: rest = (queue ++ [a]) ++ rest := by
      rw [List.append_assoc, List.singleton_append]
    rw [List.foldl_cons, hqueue, hassoc]
    rw [hassoc] at h
    exact ih h

end Queues

/-! ## Candidates of trials -/

section Merging

variable {N : Type}

/-- The candidate of a trial: a blocking rule that found something gives one. -/
def Trial.candidate? (domain : String) : Trial N → Option Block
  | .evaluated type entry (.ok found) =>
    if type.isPageBlock && !found.isEmpty then some (entry.block domain type) else none
  | _ => none

theorem Trial.domain_of_candidate? {domain : String} {t : Trial N} {b : Block}
    (h : t.candidate? domain = some b) : b.domain = domain := by
  unfold candidate? at h
  split at h
  · obtain ⟨-, hb⟩ := Option.ite_none_right_eq_some.1 h
    obtain rfl := Option.some.inj hb
    rfl
  · cases h

theorem Trial.isPageBlock_of_candidate? {domain : String} {t : Trial N} {b : Block}
    (h : t.candidate? domain = some b) : b.type.isPageBlock = true := by
  unfold candidate? at h
  split at h
  · obtain ⟨htype, hb⟩ := Option.ite_none_right_eq_some.1 h
    obtain rfl := Option.some.inj hb
    exact (Bool.and_eq_true_iff.1 htype).1
  · cases h

variable [DecidableEq N]

/-- Queueing elements leaves the candidates alone. -/
theorem Context.blocks_addElements (c : Context N) (found : List N) :
    (c.addElements found).2.blocks = c.blocks := by
  induction found generalizing c with
  | nil => rfl
  | cons e rest ih =>
    rw [addElements]
    exact ih _

/-- One trial queues its candidate, if it has one. -/
theorem blocks_mergeTrial (domain : String) (acc : ProcessReport × Context N) (t : Trial N) :
    (mergeTrial domain acc t).2.blocks =
      (t.candidate? domain).toList.foldl enqueue acc.2.blocks := by
  obtain ⟨r, c⟩ := acc
  cases t with
  | skipped => rfl
  | evaluated type entry result =>
    cases result with
    | error e => rfl
    | ok found =>
      unfold mergeTrial Trial.candidate?
      dsimp only
      cases hfound : found.isEmpty with
      | true =>
        rw [if_pos rfl, Bool.not_true, Bool.and_false, if_neg Bool.false_ne_true]
        rfl
      | false =>
        rw [if_neg Bool.false_ne_true, Bool.not_false, Bool.and_true]
        by_cases htype : type.isPageBlock = true
        · rw [if_pos htype, if_pos htype]
          rfl
        · rw [if_neg htype, if_neg htype]
          exact Context.blocks_addElements c found

/-- **Merging queues the candidates of the trials**, in order, each once. -/
theorem blocks_foldl_mergeTrial (domain : String) (trials : List (Trial N))
    (acc : ProcessReport × Context N) :
    (trials.foldl (mergeTrial domain) acc).2.blocks =
      (trials.filterMap (Trial.candidate? domain)).foldl enqueue acc.2.blocks := by
  induction trials generalizing acc with
  | nil => rfl
  | cons t rest ih =>
    rw [List.foldl_cons, ih, blocks_mergeTrial, List.filterMap_cons]
    cases t.candidate? domain <;> rfl

end Merging

/-! ## Candidates of a page -/

section Pages

variable {D N : Type} [Document D N] [DecidableEq N]

theorem process_blocks (rules : Database) (url : String) (patterns : PatternCache) (d : D) :
    (process rules url patterns d ({} : Context N)).context.blocks =
      ((tryEntries (applicable rules url patterns).1 d).1.filterMap
        (Trial.candidate? ((Url.pageHost? url).getD ""))).foldl enqueue [] :=
  blocks_foldl_mergeTrial _ _ _

/-- **The candidates of a page carry its host.** -/
theorem process_domain (rules : Database) (url : String) (patterns : PatternCache) (d : D) :
    ∀ b ∈ (process rules url patterns d ({} : Context N)).context.blocks,
      b.domain = (Url.pageHost? url).getD "" := by
  intro b hb
  rw [process_blocks, mem_foldl_enqueue, or_iff_right List.not_mem_nil] at hb
  obtain ⟨t, -, ht⟩ := List.mem_filterMap.1 hb
  exact Trial.domain_of_candidate? ht

/-- The candidates of a page are all for blocking it. -/
theorem process_isPageBlock (rules : Database) (url : String) (patterns : PatternCache) (d : D) :
    ∀ b ∈ (process rules url patterns d ({} : Context N)).context.blocks,
      b.type.isPageBlock = true := by
  intro b hb
  rw [process_blocks, mem_foldl_enqueue, or_iff_right List.not_mem_nil] at hb
  obtain ⟨t, -, ht⟩ := List.mem_filterMap.1 hb
  exact Trial.isPageBlock_of_candidate? ht

theorem Report.blocks_ofBlocks (blocks : List Block) :
    (Report.ofBlocks blocks).blocks = blocks := by
  cases blocks <;> rfl

/-- A navigation reports the candidates of the page. -/
theorem Engine.blocks_navigate {H : Type} [Host H] (e : Engine) (url : String) (tab : Int) (d : D)
    (host : H) : (e.navigate url tab d host).outcome.report.blocks =
      (PageGuard.process e.rules url e.patterns d ({} : Context N)).context.blocks :=
  Report.blocks_ofBlocks _

end Pages

end PageGuard
