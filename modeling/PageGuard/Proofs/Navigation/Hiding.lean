import PageGuard.Navigation.Context
import PageGuard.Proofs.Page.Reachable

/-!
# Hiding the queued elements

Hiding takes the queued elements off the page one by one.  The queue may hold an element together
with elements below it, and elements that were taken off the page before; then some of the removals
change nothing on the page, and which ones depends on the order of the queue.

* `hide_exact`: what goes is exactly what the queued elements hold, in whatever order they stand.
-/

namespace PageGuard.Context

open MemoryPage

/-- **Hiding takes off the page what the queued elements hold, and nothing else.**  The elements
that are left keep their order and hold each other as before, and those that hold no queued element
keep their text.  The candidates stay queued and the queue of elements is empty.  What is left on the
page does not depend on the order of the queue. -/
theorem hide_exact {p : MemoryPage} (h : Reachable p) (c : Context Handle) :
    let page := (c.hide p).2.1
    (page.allElements = p.allElements.filter fun e => ∀ q ∈ c.elements, p.holds q e = false) ∧
      (∀ x ∈ page.allElements, ∀ y ∈ page.allElements, page.holds x y = p.holds x y) ∧
      (∀ x ∈ page.allElements, (∀ q ∈ c.elements, p.holds x q = false) →
        page.textOf x = p.textOf x) ∧
      ((c.hide p).2.2.blocks = c.blocks ∧ (c.hide p).2.2.elements = []) ∧
      ∀ c' : Context Handle, c'.elements.Perm c.elements → (c'.hide p).2.1.nodes = page.nodes := by
  have hnodup := h.nodup_allKeys
  exact ⟨allElements_eq_of_lines hnodup (lines_foldl_remove p c.elements),
    fun _ _ _ hy => holds_foldl_remove hnodup c.elements hy,
    fun _ hx hfree => textOf_foldl_remove hnodup hx hfree, ⟨rfl, rfl⟩,
    fun _ hperm => nodes_foldl_remove_perm hperm p⟩

/-- A queue with a paragraph, the block around it and an element that was removed before leaves only
what is beside them. -/
theorem nested_queue_hidden :
    let page := (ofText "<div><p>x</p></div><i>y</i><b>z</b>").remove (.element 5)
    let c : Context Handle := { elements := [.element 4, .element 3, .element 5] }
    Reachable page ∧ page.allElements = [0, 1, 2, 3, 4, 6].map Handle.element ∧
      (c.hide page).2.1.allElements = [0, 1, 2, 6].map Handle.element ∧
      (c.hide page).2.1.textOf (.element 6) = "z" := by
  intro page c
  have hpage : Reachable page := .remove (.ofText _) (.element 5)
  obtain ⟨hall, -, htext, -⟩ := hide_exact hpage c
  have hleft : (c.hide page).2.1.allElements = [0, 1, 2, 6].map Handle.element := by
    rw [hall]
    decide +kernel
  refine ⟨hpage, by decide +kernel, hleft, ?_⟩
  rw [htext (.element 6) (by rw [hleft]; decide) (by decide +kernel)]
  decide +kernel

end PageGuard.Context
