import PageGuard.XPath.Reader
import Mathlib.Data.List.Basic

/-!
# The nodes below a page

A path goes from nodes to their children, and a step that looks everywhere starts from all nodes
below the context.

* `subnodes_elements`: the elements among all nodes are those of the page, in document order.
* `eq_or_exists_parent`: whatever is below a node is a child of something there.
* `mem_from_everything`: a step to everything below comes to every element.
-/

namespace PageGuard.XPath

open Markup

mutual

theorem subnodes_elements : ∀ n : Node, (subnodes n).filterMap Node.element? = n.elements
  | .element e cs => by
    have hself : Node.element? (.element e cs) = some e := rfl
    rw [subnodes, List.filterMap_cons_some hself, subnodesIn_elements cs, Node.elements]
  | .fragment cs => by
    rw [subnodes, List.filterMap_cons_none rfl, subnodesIn_elements cs, Node.elements]
  | .text _ => rfl
  | .comment _ => rfl
  | .doctype _ => rfl

/-- The elements among all nodes are the elements. -/
theorem subnodesIn_elements : ∀ ns : List Node,
    (subnodesIn ns).filterMap Node.element? = Node.elementsOf ns
  | [] => rfl
  | n :: ns => by
    rw [subnodesIn, List.filterMap_append, subnodes_elements n, subnodesIn_elements ns,
      Node.elementsOf]

end

mutual

theorem eq_or_exists_parent {m : Node} : ∀ {n : Node}, m ∈ subnodes n →
    m = n ∨ ∃ p ∈ subnodes n, m ∈ p.children
  | .element e cs, h => by
    rw [subnodes] at h ⊢
    refine (List.mem_cons.1 h).imp_right fun h => ?_
    rcases mem_or_exists_parent h with hmem | ⟨p, hp, hmem⟩
    · exact ⟨_, List.mem_cons_self .., hmem⟩
    · exact ⟨p, List.mem_cons_of_mem _ hp, hmem⟩
  | .fragment cs, h => by
    rw [subnodes] at h ⊢
    refine (List.mem_cons.1 h).imp_right fun h => ?_
    rcases mem_or_exists_parent h with hmem | ⟨p, hp, hmem⟩
    · exact ⟨_, List.mem_cons_self .., hmem⟩
    · exact ⟨p, List.mem_cons_of_mem _ hp, hmem⟩
  | .text _, h => Or.inl (List.mem_singleton.1 h)
  | .comment _, h => Or.inl (List.mem_singleton.1 h)
  | .doctype _, h => Or.inl (List.mem_singleton.1 h)

/-- What is below some nodes, and none of them, is a child of something there. -/
theorem mem_or_exists_parent {m : Node} : ∀ {ns : List Node}, m ∈ subnodesIn ns →
    m ∈ ns ∨ ∃ p ∈ subnodesIn ns, m ∈ p.children
  | [], h => absurd h List.not_mem_nil
  | n :: ns, h => by
    rw [subnodesIn] at h ⊢
    rcases List.mem_append.1 h with h | h
    · rcases eq_or_exists_parent h with rfl | ⟨p, hp, hmem⟩
      · exact Or.inl (List.mem_cons_self ..)
      · exact Or.inr ⟨p, List.mem_append_left _ hp, hmem⟩
    · rcases mem_or_exists_parent h with hmem | ⟨p, hp, hmem⟩
      · exact Or.inl (List.mem_cons_of_mem _ hmem)
      · exact Or.inr ⟨p, List.mem_append_right _ hp, hmem⟩

end

/-- The path to every element. -/
def everything : Path := [⟨.descendant, none, []⟩]

theorem ofText_everything : Path.ofText "//*" = .ok everything := rfl

/-- A step to everything below leads from the top to every element. -/
theorem mem_from_everything {nodes : List Node} {n : Node}
    (hn : n ∈ subnodes (.fragment nodes)) (helement : n.isElement = true) :
    n ∈ (⟨.descendant, none, []⟩ : Step).from (.fragment nodes) := by
  obtain ⟨p, hp, hmem⟩ : ∃ p ∈ subnodes (.fragment nodes), n ∈ p.children := by
    rcases eq_or_exists_parent hn with rfl | h
    · cases helement
    · exact h
  have hnames : (⟨.descendant, none, []⟩ : Step).names n = true := by
    obtain ⟨e, he⟩ := Option.isSome_iff_exists.1 helement
    rw [Step.names, he]
    rfl
  exact List.mem_flatMap.2 ⟨p, hp, List.mem_filter.2 ⟨hmem, hnames⟩⟩

end PageGuard.XPath
