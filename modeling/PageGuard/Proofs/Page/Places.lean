import PageGuard.Page.Memory
import PageGuard.Proofs.Markup.Construction
import Mathlib.Data.List.Nodup

/-!
# The places of a page

* `nodup_allKeys_ofText`: no two elements of a page that was read have the same key.
* `allKeys_perm`: the elements of a page are those that were taken off and those that something
  still holds.
* `found_eq_found_iff`: two tests find the same elements exactly when they agree on every place.
* `filter_notMem_found`: taking away what a test finds is one more test.
-/

namespace PageGuard

open Markup

namespace Markup.Node

/-- The places of a node have the keys of its elements. -/
theorem places_keys (holder : Holder) (above : List Spot) (before after : List Node) (n : Node) :
    (n.places holder above before after).map Place.key = n.elements.map Element.key := by
  rw [← places_elements holder above before after n, List.map_map]
  rfl

/-- The places of nodes have the keys of their elements. -/
theorem placesIn_keys (holder : Holder) (above : List Spot) (before : List Node)
    (ns : List Node) : (placesIn holder above before ns).map Place.key = keysOf ns := by
  rw [keysOf, ← placesIn_elements holder above before ns, List.map_map]
  rfl

end Markup.Node

namespace MemoryPage

open Markup.Node

/-! ## Keys -/

/-- The keys of the elements that were taken off the page. -/
def removedKeys (p : MemoryPage) : List Nat := p.removed.filterMap Node.key?

/-- The keys of all elements, on the page and off it. -/
def allKeys (p : MemoryPage) : List Nat := keysOf p.nodes ++ keysOf p.removed

/-- **No two elements of a page that was read have the same key**, on the page and off it. -/
theorem nodup_allKeys_ofText (html : String) : (ofText html).allKeys.Nodup :=
  Builder.nodup_keysOf_ofText html

/-- The reader of a page takes only elements off it. -/
theorem isElement_removed_ofText (html : String) :
    ∀ n ∈ (ofText html).removed, n.isElement = true :=
  (Builder.keyed_ofText html).2

theorem heldPlaces_perm (p : MemoryPage) : p.heldPlaces.Perm p.allPlaces :=
  List.mergeSort_perm _ _

/-- The keys on the page and below what was taken off it. -/
theorem keys_heldPlaces_perm {p : MemoryPage} (h : ∀ n ∈ p.removed, n.isElement = true) :
    (p.heldPlaces.map Place.key).Perm
      (keysOf p.nodes ++ p.removed.flatMap fun n => keysOf n.children) := by
  have hbelow : (p.removedPlaces.flatMap List.tail).map Place.key =
      p.removed.flatMap fun n => keysOf n.children := by
    rw [removedPlaces, List.flatMap_map, List.map_flatMap]
    refine List.flatMap_congr fun n hn => ?_
    have helement := h n hn
    cases n with
    | element e cs => exact placesIn_keys ..
    | text _ => cases helement
    | comment _ => cases helement
    | doctype _ => cases helement
    | fragment _ => cases helement
  refine (p.heldPlaces_perm.map Place.key).trans ?_
  rw [allPlaces, List.map_append, hbelow, attachedPlaces, placesIn_keys]

/-- The elements of a page are those that were taken off and those that something still holds. -/
theorem allKeys_perm {p : MemoryPage} (h : ∀ n ∈ p.removed, n.isElement = true) :
    p.allKeys.Perm (p.removedKeys ++ p.heldPlaces.map Place.key) := by
  refine ((keysOf_perm_children h).append_left _).trans ?_
  refine (List.perm_append_comm_assoc ..).trans (List.Perm.append_left _ ?_)
  exact (keys_heldPlaces_perm h).symm

theorem nodup_keys_heldPlaces {p : MemoryPage} (hnodup : p.allKeys.Nodup)
    (h : ∀ n ∈ p.removed, n.isElement = true) : (p.heldPlaces.map Place.key).Nodup :=
  (List.nodup_append.1 ((allKeys_perm h).nodup_iff.1 hnodup)).2.1

/-- Something holds exactly the elements that were not taken off themselves. -/
theorem mem_keys_heldPlaces_iff {p : MemoryPage} (hnodup : p.allKeys.Nodup)
    (h : ∀ n ∈ p.removed, n.isElement = true) {key : Nat} :
    key ∈ p.heldPlaces.map Place.key ↔ key ∈ p.allKeys ∧ key ∉ p.removedKeys := by
  have hperm := allKeys_perm h
  have hdisjoint := (List.nodup_append.1 (hperm.nodup_iff.1 hnodup)).2.2
  rw [hperm.mem_iff, List.mem_append]
  constructor
  · exact fun hkey => ⟨Or.inr hkey, fun hr => hdisjoint key hr key hkey rfl⟩
  · exact fun ⟨hkey, hnot⟩ => hkey.resolve_left hnot

theorem nodup_keys_heldPlaces_ofText (html : String) :
    ((ofText html).heldPlaces.map Place.key).Nodup :=
  nodup_keys_heldPlaces (nodup_allKeys_ofText html) (isElement_removed_ofText html)

/-! ## Found elements -/

/-- The elements of the places that pass a test. -/
def found (p : MemoryPage) (test : Place → Bool) : List Handle :=
  (p.heldPlaces.filter test).map fun q => .element q.key

theorem mem_found {p : MemoryPage} {f : Place → Bool} {h : Handle} :
    h ∈ p.found f ↔ ∃ q ∈ p.heldPlaces, f q = true ∧ Handle.element q.key = h := by
  simp only [found, List.mem_map, List.mem_filter, and_assoc]

/-- Something is found exactly when a place passes the test. -/
theorem not_isEmpty_found (p : MemoryPage) (f : Place → Bool) :
    (!(p.found f).isEmpty) = p.allPlaces.any f := by
  rw [Bool.eq_iff_iff, Bool.not_eq_true', List.isEmpty_eq_false_iff_exists_mem, List.any_eq_true]
  simp only [mem_found, p.heldPlaces_perm.mem_iff]
  constructor
  · rintro ⟨_, q, hq, htest, -⟩
    exact ⟨q, hq, htest⟩
  · rintro ⟨q, hq, htest⟩
    exact ⟨_, q, hq, htest, rfl⟩

/-- The element of a place is found exactly when the place passes the test. -/
theorem element_mem_found_iff {p : MemoryPage} (hnodup : (p.heldPlaces.map Place.key).Nodup)
    {f : Place → Bool} {q : Place} (hq : q ∈ p.heldPlaces) :
    Handle.element q.key ∈ p.found f ↔ f q = true := by
  rw [mem_found]
  constructor
  · rintro ⟨q', hq', htest, hkey⟩
    rw [Handle.element.injEq] at hkey
    rwa [← List.inj_on_of_nodup_map hnodup hq' hq hkey]
  · intro htest
    exact ⟨q, hq, htest, rfl⟩

/-- **Two tests find the same elements exactly when they agree on every place.** -/
theorem found_eq_found_iff {p : MemoryPage} (hnodup : (p.heldPlaces.map Place.key).Nodup)
    (f g : Place → Bool) : p.found f = p.found g ↔ ∀ q ∈ p.heldPlaces, f q = g q := by
  constructor
  · intro h q hq
    rw [Bool.eq_iff_iff, ← element_mem_found_iff hnodup hq, h, element_mem_found_iff hnodup hq]
  · intro h
    rw [found, found, List.filter_congr h]

/-- Keeping what a test finds is one more test. -/
theorem filter_mem_found {p : MemoryPage} (hnodup : (p.heldPlaces.map Place.key).Nodup)
    (f g : Place → Bool) :
    ((p.found f).filter fun h => h ∈ p.found g) = p.found fun q => f q && g q := by
  have hmem {q : Place} (hq : q ∈ p.heldPlaces) := element_mem_found_iff hnodup (f := g) hq
  generalize p.found g = other at hmem ⊢
  rw [found, found, List.filter_map, List.filter_filter]
  refine congrArg (List.map _) (List.filter_congr fun q hq => ?_)
  simp only [Function.comp_apply, hmem hq, Bool.decide_eq_true, Bool.and_comm]

/-- Taking away what a test finds is one more test. -/
theorem filter_notMem_found {p : MemoryPage} (hnodup : (p.heldPlaces.map Place.key).Nodup)
    (f g : Place → Bool) :
    ((p.found f).filter fun h => h ∉ p.found g) = p.found fun q => f q && !g q := by
  rw [found, found, List.filter_map, List.filter_filter]
  refine congrArg (List.map _) (List.filter_congr fun q hq => ?_)
  have hmem := element_mem_found_iff (p := p) hnodup (f := g) hq
  rw [found] at hmem
  simp only [Function.comp_apply, hmem]
  cases f q <;> cases g q <;> rfl

end MemoryPage

end PageGuard
