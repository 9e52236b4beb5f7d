import PageGuard.Proofs.Markup.Removal
import PageGuard.Proofs.Page.Places
import PageGuard.Proofs.XPath.Evaluation

/-!
# The lookups of a page after removals

A page answers three questions about its elements: all of them, those that match a CSS text and
those that an XPath leads to.  What is taken off the page stays together with what is below it, and
the lookups differ in what they still see of it.

* `Removed`: what any removals leave of a page; every removal keeps it (`Removed.remove`).
* `allElements_eq_of_lines`: all elements are those that no removed element holds.
* `Removed.made_eq`, `Removed.query_eq`: a CSS query passes over the removed elements alone, and
  goes by the order in which elements were made.
* `lookups_after_removals`: when the lookups agree.
-/

namespace PageGuard

open Markup

namespace MemoryPage

open Markup.Node

/-! ## What one removal does -/

/-- An element goes off the page wherever it is. -/
theorem nodes_removeKey (p : MemoryPage) (key : Nat) :
    (p.removeKey key).nodes = withoutIn key p.nodes := by
  rw [removeKey]
  cases hfind : findIn? key p.nodes with
  | some n => rfl
  | none =>
    rw [withoutIn_of_notMem (findIn?_eq_none_iff.1 hfind)]
    dsimp only
    split_ifs
    · rfl
    · cases findIn? key p.removed <;> rfl

/-- **A removal takes an element off the page or from below a removed one**, together with what is
below it; an element that was removed before, or that is not there, stays where it is. -/
theorem removeKey_cases (p : MemoryPage) (key : Nat) :
    (∃ n, findIn? key p.nodes = some n ∧ (p.removeKey key).removed = p.removed ++ [n]) ∨
      (key ∉ keysOf p.nodes ∧ key ∉ p.removedKeys ∧ ∃ n, findIn? key p.removed = some n ∧
        (p.removeKey key).removed = withoutIn key p.removed ++ [n]) ∨
      (key ∉ keysOf p.nodes ∧ (key ∈ p.removedKeys ∨ key ∉ keysOf p.removed) ∧
        (p.removeKey key).removed = p.removed) := by
  rw [removeKey]
  cases hfind : findIn? key p.nodes with
  | some n => exact Or.inl ⟨n, rfl, rfl⟩
  | none =>
    have hnodes := findIn?_eq_none_iff.1 hfind
    have htop : (p.removed.any fun n => n.key? = some key) = true ↔ key ∈ p.removedKeys := by
      simp [removedKeys]
    right
    dsimp only
    split_ifs with h
    · exact Or.inr ⟨hnodes, Or.inl (htop.1 h), rfl⟩
    · have hnot : key ∉ p.removedKeys := fun hmem => h (htop.2 hmem)
      cases hremoved : findIn? key p.removed with
      | some n =>
        refine Or.inl ⟨hnodes, hnot, n, rfl, ?_⟩
        rw [withoutIn_eq_map hnot]
      | none => exact Or.inr ⟨hnodes, Or.inr (findIn?_eq_none_iff.1 hremoved), rfl⟩

/-- A removal loses no element. -/
theorem allKeys_removeKey {p : MemoryPage} (hnodup : p.allKeys.Nodup) (key : Nat) :
    (p.removeKey key).allKeys.Perm p.allKeys := by
  obtain ⟨hnodes, hremoved, -⟩ := List.nodup_append.1 hnodup
  rw [allKeys, allKeys, nodes_removeKey]
  rcases p.removeKey_cases key with ⟨n, hfind, h⟩ | ⟨hnot, -, n, hfind, h⟩ | ⟨hnot, -, h⟩
  · rw [h, keysOf_append, keysOf_cons, keysOf_nil, List.append_nil]
    have hperm := (keysOf_perm_withoutIn hnodes hfind).append_right (keysOf p.removed)
    rw [List.append_assoc] at hperm
    exact (List.perm_append_comm.append_left _).trans hperm.symm
  · rw [h, withoutIn_of_notMem hnot, keysOf_append, keysOf_cons, keysOf_nil, List.append_nil]
    exact (keysOf_perm_withoutIn hremoved hfind).symm.append_left _
  · rw [h, withoutIn_of_notMem hnot]

/-- A removal adds an element to the removed ones, if it is there. -/
theorem mem_removedKeys_removeKey {p : MemoryPage} {key k : Nat} :
    k ∈ (p.removeKey key).removedKeys ↔ k ∈ p.removedKeys ∨ (k = key ∧ key ∈ p.allKeys) := by
  have hnew {n : Node} {ns : List Node} (hfind : findIn? key ns = some n) :
      n.key? = some key := by
    obtain ⟨e, cs, rfl, hkey⟩ := eq_element_of_findIn? hfind
    exact congrArg some hkey
  have hkeep (ns : List Node) : (ns.map (without key)).filterMap key? = ns.filterMap key? := by
    rw [List.filterMap_map]
    exact List.filterMap_congr fun n _ => key?_without key n
  rw [allKeys, List.mem_append]
  rcases p.removeKey_cases key with ⟨n, hfind, h⟩ | ⟨hnot, htop, n, hfind, h⟩ | ⟨hnot, hor, h⟩
  · have hthere : key ∈ keysOf p.nodes := by rw [← findIn?_isSome, hfind]; rfl
    rw [removedKeys, h, List.filterMap_append, List.filterMap_cons_some (hnew hfind),
      List.mem_append, ← removedKeys]
    simp [hthere]
  · have hthere : key ∈ keysOf p.removed := by rw [← findIn?_isSome, hfind]; rfl
    rw [removedKeys, h, List.filterMap_append, List.filterMap_cons_some (hnew hfind),
      List.mem_append, withoutIn_eq_map htop, hkeep, ← removedKeys]
    simp [hthere]
  · rw [removedKeys, h, ← removedKeys, or_iff_left_of_imp]
    rintro ⟨rfl, hthere⟩
    exact hor.resolve_right fun hn => hthere.elim hnot hn

/-- Only elements are taken off a page. -/
theorem isElement_removeKey {p : MemoryPage} (h : ∀ n ∈ p.removed, n.isElement = true)
    (key : Nat) : ∀ n ∈ (p.removeKey key).removed, n.isElement = true := by
  have hnew {n : Node} {ns : List Node} (hfind : findIn? key ns = some n) :
      n.isElement = true := by
    obtain ⟨e, cs, rfl, -⟩ := eq_element_of_findIn? hfind
    rfl
  rcases p.removeKey_cases key with ⟨n, hfind, hr⟩ | ⟨-, htop, n, hfind, hr⟩ | ⟨-, -, hr⟩
  · rw [hr]
    exact List.forall_mem_append.2 ⟨h, by simpa using hnew hfind⟩
  · rw [hr, withoutIn_eq_map htop]
    refine List.forall_mem_append.2 ⟨fun m hm => ?_, by simpa using hnew hfind⟩
    obtain ⟨m, hmem, rfl⟩ := List.mem_map.1 hm
    have helement := h m hmem
    rw [isElement, ← Option.isSome_map, ← key?] at helement ⊢
    rwa [key?_without]
  · rw [hr]
    exact h

/-! ## What removals leave -/

/-- What the removal of some elements leaves of a page. -/
structure Removed (source p : MemoryPage) (hs : List Handle) : Prop where
  /-- Every element of the page is still there, on the page or off it. -/
  keys : p.allKeys.Perm source.allKeys
  /-- Only elements are off the page. -/
  elements : ∀ n ∈ p.removed, n.isElement = true
  removed : ∀ key, key ∈ p.removedKeys ↔
    key ∈ source.removedKeys ∨ (key ∈ source.allKeys ∧ .element key ∈ hs)
  /-- The elements on the page stand in lines without a removed one. -/
  lines : linesIn [] p.nodes =
    (linesIn [] source.nodes).filter fun l => ∀ key ∈ l, Handle.element key ∉ hs

namespace Removed

variable {source p : MemoryPage} {hs : List Handle}

theorem refl (h : ∀ n ∈ source.removed, n.isElement = true) : Removed source source [] where
  keys := .refl _
  elements := h
  removed := by simp
  lines := by simp

theorem removeKey (hnodup : source.allKeys.Nodup) (h : Removed source p hs) (key : Nat) :
    Removed source (p.removeKey key) (hs ++ [.element key]) where
  keys := (allKeys_removeKey (h.keys.nodup_iff.2 hnodup) key).trans h.keys
  elements := isElement_removeKey h.elements key
  removed k := by
    rw [mem_removedKeys_removeKey, h.removed, h.keys.mem_iff, List.mem_append,
      List.mem_singleton, Handle.element.injEq, or_assoc]
    refine or_congr_right ⟨?_, ?_⟩
    · rintro (⟨hk, hmem⟩ | ⟨rfl, hk⟩)
      · exact ⟨hk, Or.inl hmem⟩
      · exact ⟨hk, Or.inr rfl⟩
    · rintro ⟨hk, hmem | rfl⟩
      · exact Or.inl ⟨hk, hmem⟩
      · exact Or.inr ⟨rfl, hk⟩
  lines := by
    rw [nodes_removeKey, linesIn_withoutIn List.not_mem_nil, h.lines, List.filter_filter]
    refine List.filter_congr fun l _ => ?_
    simp only [List.mem_append, List.mem_singleton, not_or, Handle.element.injEq]
    grind

/-- **Every removal keeps this.** -/
theorem remove (hnodup : source.allKeys.Nodup) (h : Removed source p hs) :
    ∀ r : Handle, Removed source (p.remove r) (hs ++ [r])
  | .element key => h.removeKey hnodup key
  | .probe i => by
    have hmem (key : Nat) : Handle.element key ∈ hs ++ [.probe i] ↔ .element key ∈ hs := by simp
    exact {
      keys := h.keys
      elements := h.elements
      removed := fun key => by rw [hmem]; exact h.removed key
      lines := by simp only [hmem]; exact h.lines }

/-- What the removals of some elements, one after the other, leave of a page. -/
theorem foldl_remove (hnodup : source.allKeys.Nodup)
    (helements : ∀ n ∈ source.removed, n.isElement = true) (hs : List Handle) :
    Removed source (hs.foldl MemoryPage.remove source) hs := by
  induction hs using List.reverseRecOn with
  | nil => exact refl helements
  | append_singleton hs r ih =>
    rw [List.foldl_append]
    exact ih.remove hnodup r

end Removed

/-! ## All elements -/

theorem allElements_eq (p : MemoryPage) :
    p.allElements = (keysOf p.nodes).map Handle.element := by
  rw [allElements, elements, keysOf, List.map_map]
  rfl

/-- An element holds those on the page in whose line it stands. -/
theorem holds_iff_mem_line {p : MemoryPage} (hnodup : p.allKeys.Nodup) {line : List Nat}
    (hline : line ∈ linesIn [] p.nodes) {k : Nat} (hhead : line.head? = some k) (key : Nat) :
    p.holds (.element key) (.element k) = true ↔ key ∈ line := by
  obtain ⟨hnodes, -, hapart⟩ := List.nodup_append.1 hnodup
  have hk : k ∈ keysOf p.nodes := by
    rw [keysOf_eq_heads []]
    exact List.mem_filterMap.2 ⟨line, hline, hhead⟩
  rw [mem_line_iff hnodes hline hhead, holds, Bool.or_eq_true, decide_eq_true_iff,
    Handle.element.injEq, node?]
  refine or_congr_right ?_
  cases findIn? key p.nodes with
  | some n => simp [findIn?_isSome]
  | none =>
    rw [Option.none_or]
    cases hremoved : findIn? key p.removed with
    | none => simp
    | some n =>
      -- What was taken off the page holds nothing on it.
      have hnot : k ∉ keysOf n.children := by
        obtain ⟨e, cs, rfl, -⟩ := eq_element_of_findIn? hremoved
        refine fun hbelow => hapart k hk k (keys_subset_of_findIn? hremoved ?_) rfl
        rw [keys_element]
        exact List.mem_cons_of_mem _ hbelow
      simp [findIn?_isSome, hnot]

/-- **All elements after removals** are those that no removed element holds: the elements left stand
in the lines of the page without a removed one. -/
theorem allElements_eq_of_lines {source p : MemoryPage} (hnodup : source.allKeys.Nodup)
    {hs : List Handle} (hlines : linesIn [] p.nodes =
      (linesIn [] source.nodes).filter fun l => ∀ key ∈ l, Handle.element key ∉ hs) :
    p.allElements = source.allElements.filter fun e => ∀ r ∈ hs, source.holds r e = false := by
  let free (k : Nat) : Bool := ∀ r ∈ hs, source.holds r (.element k) = false
  have hfree : ∀ line ∈ linesIn [] source.nodes,
      decide (∀ key ∈ line, Handle.element key ∉ hs) =
        (Option.all free ∘ List.head?) line := by
    intro line hline
    have hhead : line.head? ∈ (keysOf source.nodes).map some := by
      rw [← head?_linesIn []]
      exact List.mem_map_of_mem hline
    obtain ⟨k, -, hk⟩ := List.mem_map.1 hhead
    have hholds := holds_iff_mem_line hnodup hline hk.symm
    rw [Function.comp_apply, ← hk, Option.all_some, decide_eq_decide]
    constructor
    · rintro hfree (key | i) hr
      · exact Bool.eq_false_iff.2 fun hkey => hfree key ((hholds key).1 hkey) hr
      · rfl
    · intro hfree key hmem hr
      exact Bool.false_ne_true ((hfree _ hr).symm.trans ((hholds key).2 hmem))
  have hheads := congrArg (List.map List.head?) hlines
  rw [List.filter_congr hfree, ← List.filter_map, head?_linesIn, head?_linesIn,
    List.filter_map] at hheads
  rw [MemoryPage.allElements_eq, MemoryPage.allElements_eq,
    List.map_injective_iff.2 (Option.some_injective Nat) hheads, List.filter_map]
  rfl

/-! ## CSS queries -/

/-- The elements that something holds, in the order in which they were made. -/
def made (p : MemoryPage) : List Handle := p.heldPlaces.map fun q => .element q.key

theorem made_eq (p : MemoryPage) : p.made = (p.heldPlaces.map Place.key).map Handle.element := by
  rw [made, List.map_map]
  rfl

/-- Distinct keys ascend in the order in which the elements were made. -/
theorem keys_heldPlaces_ascending {p : MemoryPage} (h : (p.heldPlaces.map Place.key).Nodup) :
    (p.heldPlaces.map Place.key).Pairwise (· < ·) := by
  have hle : p.heldPlaces.Pairwise fun a b => a.key ≤ b.key := by
    refine (List.pairwise_mergeSort (fun a b c hab hbc => ?_) (fun a b => ?_) _).imp
      fun h => of_decide_eq_true h
    · exact decide_eq_true ((of_decide_eq_true hab).trans (of_decide_eq_true hbc))
    · rw [Bool.or_eq_true, decide_eq_true_iff, decide_eq_true_iff]
      exact le_total a.key b.key
  rw [List.Nodup, List.pairwise_map] at h
  rw [List.pairwise_map]
  exact (hle.and h).imp fun hab => lt_of_le_of_ne hab.1 hab.2

/-- An element that something holds is found in its place. -/
theorem place?_of_mem {p : MemoryPage} (hnodup : p.allKeys.Nodup) {q : Place}
    (hq : q ∈ p.heldPlaces) : p.place? q.key = some q := by
  have hmem : q ∈ p.attachedPlaces ++ p.removedPlaces.flatten := by
    rcases List.mem_append.1 (List.mem_mergeSort.1 hq) with h | h
    · exact List.mem_append_left _ h
    · obtain ⟨places, hplaces, hq⟩ := List.mem_flatMap.1 h
      exact List.mem_append_right _ (List.mem_flatten.2 ⟨places, hplaces, List.mem_of_mem_tail hq⟩)
  have hkeys : ((p.attachedPlaces ++ p.removedPlaces.flatten).map Place.key).Nodup := by
    have hremoved : p.removedPlaces.flatten.map Place.key = keysOf p.removed := by
      rw [removedPlaces, ← List.flatMap_def, List.map_flatMap]
      induction p.removed with
      | nil => rfl
      | cons n ns ih => rw [List.flatMap_cons, ih, places_keys, keysOf_cons]
    rwa [List.map_append, attachedPlaces, placesIn_keys, hremoved]
  rw [place?]
  cases hfound : (p.attachedPlaces ++ p.removedPlaces.flatten).find? fun r => r.key = q.key with
  | none => exact absurd (decide_eq_true rfl) (List.find?_eq_none.1 hfound q hmem)
  | some r =>
    have hkey : r.key = q.key := by simpa using List.find?_some hfound
    rw [List.inj_on_of_nodup_map hkeys (List.mem_of_find?_eq_some hfound) hmem hkey]

/-- **A CSS query finds the elements that match**, among those that something holds and in the order
in which they were made. -/
theorem query_eq {p : MemoryPage} (hnodup : p.allKeys.Nodup) {css : String}
    (hcss : (Css.ofText? css).isSome = true) :
    p.query css = .ok (p.made.filter fun h => p.elementMatches h css = .ok true) := by
  obtain ⟨selectors, hselectors⟩ := Option.isSome_iff_exists.1 hcss
  have hread : readCss css = .ok selectors := by rw [readCss, hselectors]
  have hmatches : ∀ q ∈ p.heldPlaces, Css.Selector.anyMatches selectors q =
      ((fun h => decide (p.elementMatches h css = .ok true)) ∘
        fun q : Place => Handle.element q.key) q := by
    intro q hq
    have hany : p.elementMatches (.element q.key) css =
        .ok ((p.place? q.key).any (Css.Selector.anyMatches selectors)) := by
      rw [elementMatches, hread, Except.map]
    rw [place?_of_mem hnodup hq, Option.any_some] at hany
    simp [hany]
  rw [query, hread, Except.map, made, List.filter_map, List.filter_congr hmatches]

namespace Removed

variable {source p : MemoryPage} {hs : List Handle}

theorem keys_heldPlaces_nodup (hnodup : source.allKeys.Nodup) (h : Removed source p hs) :
    (p.heldPlaces.map Place.key).Nodup :=
  nodup_keys_heldPlaces (h.keys.nodup_iff.2 hnodup) h.elements

/-- Something still holds exactly what it held before, without the removed elements. -/
theorem mem_keys_heldPlaces (hnodup : source.allKeys.Nodup)
    (helements : ∀ n ∈ source.removed, n.isElement = true) (h : Removed source p hs) {key : Nat} :
    key ∈ p.heldPlaces.map Place.key ↔
      key ∈ source.heldPlaces.map Place.key ∧ .element key ∉ hs := by
  rw [mem_keys_heldPlaces_iff (h.keys.nodup_iff.2 hnodup) h.elements,
    mem_keys_heldPlaces_iff hnodup helements, h.keys.mem_iff, h.removed, not_or, not_and]
  constructor
  · rintro ⟨hkey, hnot, hfree⟩
    exact ⟨⟨hkey, hnot⟩, hfree hkey⟩
  · rintro ⟨⟨hkey, hnot⟩, hfree⟩
    exact ⟨hkey, hnot, fun _ => hfree⟩

/-- **What something holds after removals**: all that it held but the removed elements, in the same
order. -/
theorem made_eq (hnodup : source.allKeys.Nodup)
    (helements : ∀ n ∈ source.removed, n.isElement = true) (h : Removed source p hs) :
    p.made = source.made.filter fun e => e ∉ hs := by
  have hkeys : p.heldPlaces.map Place.key =
      (source.heldPlaces.map Place.key).filter fun key => Handle.element key ∉ hs := by
    have hp := keys_heldPlaces_ascending (h.keys_heldPlaces_nodup hnodup)
    have hs := (keys_heldPlaces_ascending (nodup_keys_heldPlaces hnodup helements)).filter
      fun key => Handle.element key ∉ hs
    refine List.Perm.eq_of_pairwise (fun a b _ _ hab hba => absurd hba (lt_asymm hab)) hp hs ?_
    rw [List.perm_ext_iff_of_nodup (hp.imp Nat.ne_of_lt) (hs.imp Nat.ne_of_lt)]
    intro key
    rw [h.mem_keys_heldPlaces hnodup helements, List.mem_filter, decide_eq_true_iff]
  rw [MemoryPage.made_eq, MemoryPage.made_eq, hkeys, List.filter_map (f := Handle.element)]
  rfl

end Removed

/-! ## When the lookups agree -/

theorem made_nodup {p : MemoryPage} (hnodup : p.allKeys.Nodup)
    (helements : ∀ n ∈ p.removed, n.isElement = true) : p.made.Nodup := by
  rw [made_eq]
  exact (nodup_keys_heldPlaces hnodup helements).map fun a b hab => Handle.element.inj hab

namespace Removed

variable {source p : MemoryPage} {hs : List Handle}

/-- **A CSS query after removals** finds the matching elements that were not removed themselves. -/
theorem query_eq (hnodup : source.allKeys.Nodup)
    (helements : ∀ n ∈ source.removed, n.isElement = true) (h : Removed source p hs) {css : String}
    (hcss : (Css.ofText? css).isSome = true) :
    p.query css =
      .ok (source.made.filter fun e => e ∉ hs ∧ p.elementMatches e css = .ok true) := by
  rw [MemoryPage.query_eq (h.keys.nodup_iff.2 hnodup) hcss, h.made_eq hnodup helements,
    List.filter_filter]
  simp only [Bool.decide_and, Bool.and_comm]

/-- **When a CSS query finds the matching ones among all elements**: every other one that matches
was on the page and no removed element held it, and the matching elements stand in the order in
which they were made. -/
theorem query_eq_iff (hnodup : source.allKeys.Nodup)
    (helements : ∀ n ∈ source.removed, n.isElement = true) (h : Removed source p hs) {css : String}
    (hcss : (Css.ofText? css).isSome = true) :
    p.query css = .ok (p.allElements.filter fun e => p.elementMatches e css = .ok true) ↔
      (∀ e ∈ source.made, e ∉ hs → p.elementMatches e css = .ok true →
        e ∈ source.allElements ∧ ∀ r ∈ hs, source.holds r e = false) ∧
      (p.allElements.filter fun e => p.elementMatches e css = .ok true).Sublist source.made := by
  have hmem (e : Handle) : e ∈ p.allElements ↔
      e ∈ source.allElements ∧ ∀ r ∈ hs, source.holds r e = false := by
    rw [allElements_eq_of_lines hnodup h.lines, List.mem_filter, decide_eq_true_iff]
  rw [h.query_eq hnodup helements hcss, Except.ok.injEq]
  constructor
  · intro heq
    refine ⟨fun e he hnot hmatch => ?_, ?_⟩
    · have hfound : e ∈ p.allElements.filter fun e => p.elementMatches e css = .ok true := by
        rw [← heq, List.mem_filter, decide_eq_true_iff]
        exact ⟨he, hnot, hmatch⟩
      exact (hmem e).1 (List.mem_filter.1 hfound).1
    · rw [← heq]
      exact List.filter_sublist
  · rintro ⟨hfree, hsublist⟩
    -- Every found element is queried for, and there is nothing else to query for.
    have hfound : ∀ e ∈ p.allElements.filter fun e => p.elementMatches e css = .ok true,
        decide (e ∉ hs ∧ p.elementMatches e css = .ok true) = true := by
      intro e he
      obtain ⟨hpage, hmatch⟩ := List.mem_filter.1 he
      refine decide_eq_true ⟨fun hr => ?_, of_decide_eq_true hmatch⟩
      have hself : source.holds e e = true := by simp [holds]
      exact Bool.false_ne_true ((((hmem e).1 hpage).2 e hr).symm.trans hself)
    have hshort := hsublist.filter fun e => e ∉ hs ∧ p.elementMatches e css = .ok true
    rw [List.filter_eq_self.2 hfound] at hshort
    refine (hshort.eq_of_length_le ?_).symm
    refine (List.subperm_of_subset ((made_nodup hnodup helements).filter _)
      fun e he => ?_).length_le
    obtain ⟨he, hqueried⟩ := List.mem_filter.1 he
    obtain ⟨hnot, hmatch⟩ := of_decide_eq_true hqueried
    exact List.mem_filter.2 ⟨(hmem e).2 (hfree e he hnot hmatch), decide_eq_true hmatch⟩

end Removed

/-- **The lookups after removals.**  All elements of a page are those that no removed element holds,
each once, and the path `//*` leads to them.  A CSS query finds, in the order in which they were
made, the matching elements that were not removed themselves.  It finds the matching ones among all
elements exactly when each of these was on the page that was read and no removed element held it,
and the matching elements of the page stand in the order in which they were made. -/
theorem lookups_after_removals (html : String) (hs : List Handle) {css : String}
    (hcss : (Css.ofText? css).isSome = true) :
    let source := ofText html
    let page := hs.foldl remove source
    let found := page.allElements.filter fun e => page.elementMatches e css = .ok true
    (page.allElements = source.allElements.filter fun e => ∀ r ∈ hs, source.holds r e = false) ∧
      page.allElements.Nodup ∧
      page.queryXPath "//*" = .ok page.allElements ∧
      (page.query css = .ok
        (source.made.filter fun e => e ∉ hs ∧ page.elementMatches e css = .ok true)) ∧
      source.made.Nodup ∧
      (page.query css = .ok found ↔
        (∀ e ∈ source.made, e ∉ hs → page.elementMatches e css = .ok true →
          e ∈ source.allElements ∧ ∀ r ∈ hs, source.holds r e = false) ∧
        found.Sublist source.made) := by
  have hnodup := nodup_allKeys_ofText html
  have helements := isElement_removed_ofText html
  have h := Removed.foldl_remove hnodup helements hs
  have hkeys : (keysOf (hs.foldl remove (ofText html)).nodes).Nodup :=
    (List.nodup_append.1 (h.keys.nodup_iff.2 hnodup)).1
  refine ⟨allElements_eq_of_lines hnodup h.lines, ?_, ?_, h.query_eq hnodup helements hcss,
    made_nodup hnodup helements, h.query_eq_iff hnodup helements hcss⟩
  · rw [allElements_eq]
    exact hkeys.map fun a b hab => Handle.element.inj hab
  · rw [queryXPath, XPath.ofText_everything, allElements, elements,
      ← XPath.evaluate_everything hkeys]

/-- Places that stand in the order in which their elements were made. -/
theorem heldPlaces_of_ascending {p : MemoryPage}
    (h : p.allPlaces.Pairwise fun a b => a.key ≤ b.key) : p.heldPlaces = p.allPlaces :=
  List.mergeSort_of_pairwise (h.imp fun hab => decide_eq_true hab)

/-- Taking off an element without others below it leaves the lookups in agreement. -/
theorem paragraph_beside_removed :
    let page := [Handle.element 3].foldl remove (ofText "<div>x</div><p>y</p>")
    (Css.ofText? "p").isSome = true ∧
      page.query "p" =
        .ok (page.allElements.filter fun e => page.elementMatches e "p" = .ok true) := by
  intro page
  have hcss : (Css.ofText? "p").isSome = true := by decide +kernel
  obtain ⟨-, -, -, -, -, hagree⟩ :=
    lookups_after_removals "<div>x</div><p>y</p>" [.element 3] hcss
  have hmade : (ofText "<div>x</div><p>y</p>").made = [0, 1, 2, 3, 4].map Handle.element := by
    rw [made, heldPlaces_of_ascending (by decide +kernel)]
    decide +kernel
  rw [hmade] at hagree
  exact ⟨hcss, hagree.2 ⟨by decide +kernel, by decide +kernel⟩⟩

/-- A query finds a matching element wherever it is, unless nothing is above it. -/
theorem query_ne_of_notMem {p : MemoryPage} (hnodup : p.allKeys.Nodup) {css : String}
    (hcss : (Css.ofText? css).isSome = true) {key : Nat} (hkey : key ∈ p.allPlaces.map Place.key)
    (hmatch : p.elementMatches (.element key) css = .ok true) {hs : List Handle}
    (hnot : .element key ∉ hs) : p.query css ≠ .ok hs := by
  have hmade : Handle.element key ∈ p.made := by
    rw [made_eq]
    exact List.mem_map_of_mem ((p.heldPlaces_perm.map Place.key).mem_iff.2 hkey)
  rw [query_eq hnodup hcss]
  rintro heq
  rw [← Except.ok.inj heq] at hnot
  exact hnot (List.mem_filter.2 ⟨hmade, decide_eq_true hmatch⟩)

/-- A CSS query still finds what is below a removed element and what was in the body of a page that
a frameset took off, and it finds what the reader of the page moved out of a table after that
table. -/
theorem below_removed_queried :
    let source := ofText "<div><p>x</p></div>"
    let page := [Handle.element 3].foldl remove source
    let framed := ofText "<p></p><frameset></frameset>"
    let moved := ofText "<table><p>x</p></table>"
    (page.query "p" = .ok [.element 4] ∧ source.holds (.element 3) (.element 4) = true ∧
        page.allElements.filter (fun e => page.elementMatches e "p" = .ok true) = []) ∧
      framed.query "p" ≠
        .ok (framed.allElements.filter fun e => framed.elementMatches e "p" = .ok true) ∧
      moved.query "table, p" ≠
        .ok (moved.allElements.filter fun e => moved.elementMatches e "table, p" = .ok true) := by
  intro source page framed moved
  have hp : (Css.ofText? "p").isSome = true := by decide +kernel
  have hcss : (Css.ofText? "table, p").isSome = true := by decide +kernel
  refine ⟨⟨?_, by decide +kernel, by decide +kernel⟩, ?_, ?_⟩
  · rw [query, heldPlaces_of_ascending (by decide +kernel)]
    decide +kernel
  · have hplace : 3 ∈ framed.allPlaces.map Place.key := by decide +kernel
    have hmatch : framed.elementMatches (.element 3) "p" = .ok true := by decide +kernel
    exact query_ne_of_notMem (nodup_allKeys_ofText "<p></p><frameset></frameset>") hp hplace hmatch
      (by decide +kernel)
  · have hfound : moved.allElements.filter
        (fun e => moved.elementMatches e "table, p" = .ok true) = [4, 3].map Handle.element := by
      decide +kernel
    rw [query_eq (nodup_allKeys_ofText _) hcss, hfound]
    intro heq
    -- What a query finds ascends, and the table is older than the paragraph before it.
    have hsublist : ([4, 3].map Handle.element).Sublist moved.made :=
      Except.ok.inj heq ▸ List.filter_sublist
    rw [made_eq, List.sublist_map_iff] at hsublist
    obtain ⟨keys, hkeys, hmap⟩ := hsublist
    obtain rfl := List.map_injective_iff.2 (fun _ _ => Handle.element.inj) hmap
    have hascending := keys_heldPlaces_ascending (nodup_keys_heldPlaces_ofText
      "<table><p>x</p></table>")
    exact absurd (hascending.sublist hkeys) (by decide)

end MemoryPage

end PageGuard
