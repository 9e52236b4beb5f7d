import PageGuard.Proofs.Page.Lookups

/-!
# Pages that calls reach

A page is read from a text, and then calls change it: elements are clicked and removed, probes come
and go, and lookups of styles are made to fail.  Whatever was called before, no two elements have the
same key, so a removal does to such a page what it does to one that was just read.

* `Reachable`: the pages that calls reach, with `Reachable.nodup_allKeys`.
* `lines_foldl_remove`: which elements several removals leave.
* `holds_foldl_remove`, `textOf_foldl_remove`: what is left holds the same elements and, if nothing
  was removed below it, the same text.
* `nodes_foldl_remove_perm`: the order of the removals does not matter to the page.
-/

namespace PageGuard.MemoryPage

open Markup Markup.Node

/-- The pages that are read from a text and changed by calls. -/
inductive Reachable : MemoryPage → Prop where
  | ofText (html : String) : Reachable (ofText html)
  | remove {p : MemoryPage} (h : Reachable p) (e : Handle) : Reachable (p.remove e)
  | click {p : MemoryPage} (h : Reachable p) (e : Handle) : Reachable (p.click e)
  | attachProbe {p : MemoryPage} (h : Reachable p) (css : String) :
    Reachable (p.attachProbe css).2
  | detachProbe {p : MemoryPage} (h : Reachable p) (e : Handle) : Reachable (p.detachProbe e)
  | failStyle {p : MemoryPage} (h : Reachable p) (fail : Bool) :
    Reachable { p with failStyle := fail }

/-! ## Distinct keys -/

/-- A removal keeps the keys of a page distinct. -/
theorem nodup_allKeys_remove {p : MemoryPage} (h : p.allKeys.Nodup) :
    ∀ r : Handle, (p.remove r).allKeys.Nodup
  | .element key => (allKeys_removeKey h key).nodup_iff.2 h
  | .probe _ => h

theorem isElement_remove {p : MemoryPage} (h : ∀ n ∈ p.removed, n.isElement = true) :
    ∀ r : Handle, ∀ n ∈ (p.remove r).removed, n.isElement = true
  | .element key => isElement_removeKey h key
  | .probe _ => h

theorem nodup_allKeys_foldl_remove {p : MemoryPage} (h : p.allKeys.Nodup) (rs : List Handle) :
    (rs.foldl MemoryPage.remove p).allKeys.Nodup := by
  induction rs generalizing p with
  | nil => exact h
  | cons r rs ih => exact ih (nodup_allKeys_remove h r)

namespace Reachable

variable {p : MemoryPage}

/-- **No two elements of a page have the same key**, on the page or off it. -/
theorem nodup_allKeys (h : Reachable p) : p.allKeys.Nodup := by
  induction h with
  | ofText html => exact nodup_allKeys_ofText html
  | remove _ e ih => exact nodup_allKeys_remove ih e
  | click _ _ ih => exact ih
  | attachProbe _ _ ih => exact ih
  | detachProbe _ e ih => cases e <;> exact ih
  | failStyle _ _ ih => exact ih

/-- Only elements were taken off a page. -/
theorem isElement (h : Reachable p) : ∀ n ∈ p.removed, n.isElement = true := by
  induction h with
  | ofText html => exact isElement_removed_ofText html
  | remove _ e ih => exact isElement_remove ih e
  | click _ _ ih => exact ih
  | attachProbe _ _ ih => exact ih
  | detachProbe _ e ih => cases e <;> exact ih
  | failStyle _ _ ih => exact ih

end Reachable

/-! ## Several removals -/

/-- Nodes without the element of a handle; a probe is not among them. -/
def withoutHandle (ns : List Node) : Handle → List Node
  | .element key => withoutIn key ns
  | .probe _ => ns

theorem nodes_remove (p : MemoryPage) : ∀ r : Handle, (p.remove r).nodes = withoutHandle p.nodes r
  | .element key => nodes_removeKey p key
  | .probe _ => rfl

theorem nodes_foldl_remove (p : MemoryPage) (rs : List Handle) :
    (rs.foldl MemoryPage.remove p).nodes = rs.foldl withoutHandle p.nodes := by
  induction rs generalizing p with
  | nil => rfl
  | cons r rs ih => rw [List.foldl_cons, List.foldl_cons, ih, nodes_remove]

theorem withoutHandle_comm (ns : List Node) (a b : Handle) :
    withoutHandle (withoutHandle ns b) a = withoutHandle (withoutHandle ns a) b := by
  cases a <;> cases b <;> first | rfl | exact withoutIn_comm ..

/-- **The order of removals does not matter** to what is left on the page. -/
theorem nodes_foldl_remove_perm {rs rs' : List Handle} (h : rs.Perm rs') (p : MemoryPage) :
    (rs.foldl MemoryPage.remove p).nodes = (rs'.foldl MemoryPage.remove p).nodes := by
  rw [nodes_foldl_remove, nodes_foldl_remove]
  exact h.foldl_eq' (fun a _ b _ ns => withoutHandle_comm ns b a) p.nodes

/-- **Removals leave the elements that stand in lines without a removed one**, and the lines are
those from before. -/
theorem lines_foldl_remove (p : MemoryPage) (rs : List Handle) :
    linesIn [] (rs.foldl MemoryPage.remove p).nodes =
      (linesIn [] p.nodes).filter fun l => ∀ key ∈ l, Handle.element key ∉ rs := by
  induction rs generalizing p with
  | nil => simp
  | cons r rs ih =>
    have hstep : linesIn [] (p.remove r).nodes =
        (linesIn [] p.nodes).filter fun l => ∀ key ∈ l, Handle.element key ≠ r := by
      cases r with
      | probe i => simp [MemoryPage.remove]
      | element gone =>
        rw [nodes_remove, withoutHandle, linesIn_withoutIn List.not_mem_nil]
        refine List.filter_congr fun l _ => ?_
        simp only [ne_eq, Handle.element.injEq]
        grind
    rw [List.foldl_cons, ih, hstep, List.filter_filter]
    refine List.filter_congr fun l _ => ?_
    simp only [List.mem_cons, not_or, ne_eq]
    grind

/-- An element on the page has a line there. -/
theorem exists_line_of_mem_allElements {p : MemoryPage} {e : Handle} (h : e ∈ p.allElements) :
    ∃ k line, e = .element k ∧ line ∈ linesIn [] p.nodes ∧ line.head? = some k := by
  rw [allElements_eq, List.mem_map] at h
  obtain ⟨k, hk, rfl⟩ := h
  rw [keysOf_eq_heads [], List.mem_filterMap] at hk
  obtain ⟨line, hline, hhead⟩ := hk
  exact ⟨k, line, rfl, hline, hhead⟩

/-- **Removals leave containment as it was** for the elements that stay on the page. -/
theorem holds_foldl_remove {p : MemoryPage} (hnodup : p.allKeys.Nodup) (rs : List Handle)
    {x y : Handle} (hy : y ∈ (rs.foldl MemoryPage.remove p).allElements) :
    (rs.foldl MemoryPage.remove p).holds x y = p.holds x y := by
  obtain ⟨k, line, rfl, hline, hhead⟩ := exists_line_of_mem_allElements hy
  cases x with
  | probe i => rfl
  | element key =>
    have hbefore : line ∈ linesIn [] p.nodes := by
      rw [lines_foldl_remove] at hline
      exact (List.mem_filter.1 hline).1
    rw [Bool.eq_iff_iff,
      holds_iff_mem_line (nodup_allKeys_foldl_remove hnodup rs) hline hhead,
      holds_iff_mem_line hnodup hbefore hhead]

/-! ## Text -/

/-- An element of the page that does not hold what is removed is found as it was. -/
theorem node?_remove {p : MemoryPage} (hnodup : p.allKeys.Nodup) {k : Nat} {r : Handle}
    (hk : Handle.element k ∈ (p.remove r).allElements) (hr : p.holds (.element k) r = false) :
    (p.remove r).node? k = p.node? k := by
  cases r with
  | probe i => rfl
  | element gone =>
    rw [allElements_eq, List.mem_map_of_injective fun _ _ => Handle.element.inj, nodes_remove,
      withoutHandle] at hk
    have hbefore : k ∈ keysOf p.nodes := (keysOf_withoutIn_sublist gone p.nodes).subset hk
    obtain ⟨n, hn⟩ := Option.isSome_iff_exists.1 ((findIn?_isSome p.nodes).2 hbefore)
    obtain ⟨e, cs, rfl, rfl⟩ := eq_element_of_findIn? hn
    -- What goes is neither the element nor below it.
    have hgone : gone ∉ (element e cs).elements.map Element.key := by
      rw [holds, node?, hn, Option.some_or, Bool.or_eq_false_iff, decide_eq_false_iff_not,
        Handle.element.injEq] at hr
      rw [keys_element, List.mem_cons, not_or, ← findIn?_isSome cs]
      exact ⟨Ne.symm hr.1, Bool.eq_false_iff.1 hr.2⟩
    rw [node?, nodes_remove, withoutHandle,
      findIn?_withoutIn (List.nodup_append.1 hnodup).1 hk, hn, Option.map_some,
      without_of_notMem hgone, Option.some_or, node?, hn, Option.some_or]

/-- What removals leave on a page was there before. -/
theorem allElements_foldl_remove_subset {p : MemoryPage} (rs : List Handle) :
    (rs.foldl MemoryPage.remove p).allElements ⊆ p.allElements := by
  rw [allElements_eq, allElements_eq, keysOf_eq_heads [], keysOf_eq_heads [], lines_foldl_remove]
  exact List.map_subset _ (List.filter_sublist.filterMap _).subset

/-- **Removals leave the text of an element as it was** when it stays on the page and holds none of
what is removed. -/
theorem textOf_foldl_remove {p : MemoryPage} (hnodup : p.allKeys.Nodup) {rs : List Handle}
    {x : Handle} (hx : x ∈ (rs.foldl MemoryPage.remove p).allElements)
    (hfree : ∀ r ∈ rs, p.holds x r = false) :
    (rs.foldl MemoryPage.remove p).textOf x = p.textOf x := by
  obtain ⟨k, -, rfl, -⟩ := exists_line_of_mem_allElements hx
  suffices hnode : (rs.foldl MemoryPage.remove p).node? k = p.node? k by
    rw [textOf, hnode, textOf]
  induction rs generalizing p with
  | nil => rfl
  | cons r rs ih =>
    obtain ⟨hr, hrest⟩ := List.forall_mem_cons.1 hfree
    have hstep := node?_remove hnodup (allElements_foldl_remove_subset rs hx) hr
    refine (ih (nodup_allKeys_remove hnodup r) hx fun r' hr' => ?_).trans hstep
    have hsame : (p.remove r).holds (.element k) r' = p.holds (.element k) r' := by
      cases r' with
      | probe i => rfl
      | element key => simp only [holds, hstep]
    exact hsame.trans (hrest r' hr')

end PageGuard.MemoryPage
