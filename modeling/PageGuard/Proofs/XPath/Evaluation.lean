import PageGuard.Proofs.Markup.Removal
import PageGuard.Proofs.XPath.Subnodes
import Mathlib.Data.List.Pairwise
import Mathlib.Data.List.Sort

/-!
# What a location path leads to

A path has a meaning that knows nothing of lists of context nodes: a step goes from a node to some
children of one parent, and a path goes on from wherever its steps went before.  Evaluating gives
the elements that are led to, each once and in document order.

* `Within`, `Step.found`, `Step.Leads`, `Path.Leads`: what steps mean.
* `mem_follow_iff`: steps come to the nodes that they lead to, maybe more than once.
* `inOrder`: the elements of a page among some nodes.  `dropRepeats_sortNodes` says that sorting and
  dropping what repeats the node before gives them.
* `evaluate_leads`: the theorem; `evaluate_everything`: the path `//*` gives all elements.
-/

namespace PageGuard.XPath

open Markup Markup.Node

/-! ## The meaning of steps -/

/-- A node is another one or is below it. -/
inductive Within : Node → Node → Prop where
  | self (n : Node) : Within n n
  | inside {m c n : Node} (child : c ∈ n.children) (within : Within m c) : Within m n

/-- What predicates leave of siblings, the first predicate first.  A position counts from one, and
it counts what the predicates before it left; no path that was read has a position zero. -/
def survivors : List Predicate → List Node → List Node
  | [], ns => ns
  | .position k :: ps, ns => survivors ps ns[k - 1]?.toList
  | p :: ps, ns => survivors ps (ns.filter p.holds)

/-- The element children of one parent that a step finds. -/
def Step.found (s : Step) (parent : Node) : List Node :=
  survivors s.predicates (parent.children.filter s.names)

/-- A step leads from a node to what it finds below the node itself, or below any node from there
down. -/
inductive Step.Leads (s : Step) (n : Node) : Node → Prop where
  | child {m : Node} (axis : s.axis = .child) (found : m ∈ s.found n) : Leads s n m
  | descendant {parent m : Node} (axis : s.axis = .descendant) (within : Within parent n)
    (found : m ∈ s.found parent) : Leads s n m

/-- A path leads from a node along its steps. -/
inductive Path.Leads : Path → Node → Node → Prop where
  | done (n : Node) : Leads [] n n
  | step {s : Step} {steps : Path} {n m k : Node} (first : s.Leads n m)
    (more : Path.Leads steps m k) : Leads (s :: steps) n k

/-! ## Below a node -/

theorem self_mem_subnodes (n : Node) : n ∈ subnodes n := by
  cases n <;> simp [subnodes]

theorem mem_subnodesIn_iff {m : Node} {ns : List Node} :
    m ∈ subnodesIn ns ↔ ∃ n ∈ ns, m ∈ subnodes n := by
  induction ns with
  | nil => simp [subnodesIn]
  | cons n ns ih => simp [subnodesIn, ih]

theorem subnodes_of_child {m c n : Node} (hc : c ∈ n.children) (hm : m ∈ subnodes c) :
    m ∈ subnodes n := by
  cases n with
  | element e cs =>
    rw [subnodes]
    exact List.mem_cons_of_mem _ (mem_subnodesIn_iff.2 ⟨c, hc, hm⟩)
  | fragment cs =>
    rw [subnodes]
    exact List.mem_cons_of_mem _ (mem_subnodesIn_iff.2 ⟨c, hc, hm⟩)
  | text _ => exact absurd hc List.not_mem_nil
  | comment _ => exact absurd hc List.not_mem_nil
  | doctype _ => exact absurd hc List.not_mem_nil

mutual

theorem within_of_mem_subnodes {m : Node} : ∀ {n : Node}, m ∈ subnodes n → Within m n
  | .element e cs, h => by
    rw [subnodes] at h
    rcases List.mem_cons.1 h with rfl | h
    · exact .self _
    · obtain ⟨c, hc, hm⟩ := within_of_mem_subnodesIn h
      exact .inside hc hm
  | .fragment cs, h => by
    rw [subnodes] at h
    rcases List.mem_cons.1 h with rfl | h
    · exact .self _
    · obtain ⟨c, hc, hm⟩ := within_of_mem_subnodesIn h
      exact .inside hc hm
  | .text _, h => List.mem_singleton.1 h ▸ .self _
  | .comment _, h => List.mem_singleton.1 h ▸ .self _
  | .doctype _, h => List.mem_singleton.1 h ▸ .self _

theorem within_of_mem_subnodesIn {m : Node} : ∀ {ns : List Node}, m ∈ subnodesIn ns →
    ∃ n ∈ ns, Within m n
  | [], h => absurd h List.not_mem_nil
  | n :: ns, h => by
    rw [subnodesIn] at h
    rcases List.mem_append.1 h with h | h
    · exact ⟨n, List.mem_cons_self .., within_of_mem_subnodes h⟩
    · obtain ⟨c, hc, hm⟩ := within_of_mem_subnodesIn h
      exact ⟨c, List.mem_cons_of_mem _ hc, hm⟩

end

/-- The nodes listed below a node are those below it. -/
theorem mem_subnodes_iff {m n : Node} : m ∈ subnodes n ↔ Within m n := by
  refine ⟨within_of_mem_subnodes, fun h => ?_⟩
  induction h with
  | self => exact self_mem_subnodes m
  | inside child _ ih => exact subnodes_of_child child ih

theorem subnodes_trans {k m n : Node} (hk : k ∈ subnodes m) (hm : m ∈ subnodes n) :
    k ∈ subnodes n := by
  rw [mem_subnodes_iff] at hm
  induction hm with
  | self => exact hk
  | inside child _ ih => exact subnodes_of_child child ih

/-! ## One step -/

theorem foldl_keep (ps : List Predicate) :
    ∀ ns : List Node, ps.foldl (fun ns p => p.keep ns) ns = survivors ps ns := by
  induction ps with
  | nil => intro ns; rfl
  | cons p ps ih =>
    intro ns
    rw [List.foldl_cons, ih]
    cases p with
    | position k =>
      have hkeep : (Predicate.position k).keep ns = ns[k - 1]?.toList := by
        rw [Predicate.keep, List.take_one, List.head?_drop]
      rw [hkeep, survivors]
    | present name => rfl
    | equals subject literal => rfl
    | contains subject literal => rfl

/-- Predicates only take siblings away. -/
theorem survivors_subset (ps : List Predicate) :
    ∀ ns : List Node, ∀ m ∈ survivors ps ns, m ∈ ns := by
  induction ps with
  | nil => exact fun _ _ hm => hm
  | cons p ps ih =>
    intro ns m hm
    have hfilter (h : m ∈ survivors ps (ns.filter p.holds)) : m ∈ ns :=
      (List.mem_filter.1 (ih _ m h)).1
    cases p with
    | position k =>
      have hk : m ∈ ns[k - 1]?.toList := ih _ m hm
      exact List.mem_of_getElem? (Option.mem_toList.1 hk)
    | present name => exact hfilter hm
    | equals subject literal => exact hfilter hm
    | contains subject literal => exact hfilter hm

/-- A step finds children that are elements. -/
theorem Step.found_spec {s : Step} {parent m : Node} (h : m ∈ s.found parent) :
    m ∈ parent.children ∧ m.isElement = true := by
  obtain ⟨hchild, hnames⟩ := List.mem_filter.1 (survivors_subset _ _ m h)
  refine ⟨hchild, ?_⟩
  rw [Step.names] at hnames
  cases hm : m.element? with
  | none => rw [hm] at hnames; cases hnames
  | some e => rw [isElement, hm]; rfl

/-- **The nodes of a step are those that it leads to.** -/
theorem Step.mem_from_iff {s : Step} {n m : Node} : m ∈ s.from n ↔ s.Leads n m := by
  have hselect (parent : Node) : s.select parent.children = s.found parent := foldl_keep _ _
  rw [Step.from]
  cases haxis : s.axis with
  | child =>
    show m ∈ s.select n.children ↔ _
    rw [hselect]
    constructor
    · exact fun h => .child haxis h
    · rintro (⟨-, h⟩ | ⟨h, -, -⟩)
      · exact h
      · rw [haxis] at h; cases h
  | descendant =>
    show m ∈ ((subnodes n).flatMap fun p => s.select p.children) ↔ _
    simp only [List.mem_flatMap, hselect, mem_subnodes_iff]
    constructor
    · rintro ⟨parent, hwithin, h⟩
      exact .descendant haxis hwithin h
    · rintro (⟨h, -⟩ | ⟨-, hwithin, h⟩)
      · rw [haxis] at h; cases h
      · exact ⟨_, hwithin, h⟩

/-- A step leads to elements further down. -/
theorem Step.Leads.spec {s : Step} {n m : Node} (h : s.Leads n m) :
    m ∈ subnodes n ∧ m.isElement = true := by
  cases h with
  | child _ found =>
    obtain ⟨hchild, helement⟩ := Step.found_spec found
    exact ⟨subnodes_of_child hchild (self_mem_subnodes m), helement⟩
  | descendant _ within found =>
    obtain ⟨hchild, helement⟩ := Step.found_spec found
    have hparent := subnodes_of_child hchild (self_mem_subnodes m)
    exact ⟨subnodes_trans hparent (mem_subnodes_iff.2 within), helement⟩

/-! ## Steps in turn -/

theorem follow_nil (path : Path) : follow [] path = [] := by
  cases path <;> rfl

/-- It makes no difference that steps stop where one of them comes to nothing. -/
theorem follow_cons (context : List Node) (s : Step) (steps : Path) :
    follow context (s :: steps) = follow (context.flatMap s.from) steps := by
  rw [follow]
  split_ifs with hempty
  · rw [List.isEmpty_iff.1 hempty, follow_nil]
  · rfl

/-- **Steps come to the nodes that they lead to.** -/
theorem mem_follow_iff {path : Path} {m : Node} :
    ∀ {context : List Node}, m ∈ follow context path ↔ ∃ n ∈ context, path.Leads n m := by
  induction path with
  | nil =>
    intro context
    show m ∈ context ↔ _
    constructor
    · exact fun h => ⟨m, h, .done m⟩
    · rintro ⟨n, hn, ⟨⟩⟩
      exact hn
  | cons s steps ih =>
    intro context
    rw [follow_cons, ih]
    constructor
    · rintro ⟨k, hk, hmore⟩
      obtain ⟨n, hn, hfrom⟩ := List.mem_flatMap.1 hk
      exact ⟨n, hn, .step (Step.mem_from_iff.1 hfrom) hmore⟩
    · rintro ⟨n, hn, hleads⟩
      cases hleads with
      | step first more =>
        exact ⟨_, List.mem_flatMap.2 ⟨n, hn, Step.mem_from_iff.2 first⟩, more⟩

/-- A path leads further down. -/
theorem Path.Leads.mem_subnodes {path : Path} {n m : Node} (h : path.Leads n m) :
    m ∈ subnodes n := by
  induction h with
  | done n => exact self_mem_subnodes n
  | step first _ ih => exact subnodes_trans ih first.spec.1

/-- From the top of a page a path comes to what it leads to there. -/
theorem mem_follow_top_iff {nodes : List Node} {path : Path} {n : Node} :
    n ∈ follow [.fragment nodes] path ↔ path.Leads (.fragment nodes) n := by
  rw [mem_follow_iff]
  simp only [List.mem_singleton, exists_eq_left]

/-- With one step at least, a path comes to elements. -/
theorem isElement_of_mem_follow {s : Step} {steps : Path} {context : List Node} {m : Node}
    (h : m ∈ follow context (s :: steps)) : m.isElement = true := by
  induction steps generalizing s context with
  | nil =>
    rw [follow_cons] at h
    obtain ⟨n, -, hfrom⟩ := List.mem_flatMap.1 h
    exact (Step.mem_from_iff.1 hfrom).spec.2
  | cons next steps ih =>
    rw [follow_cons] at h
    exact ih h

/-! ## Document order -/

/-- The elements of a page that are among some nodes, in document order. -/
def inOrder (page : Node) (found : List Node) : List Node :=
  let keys := found.filterMap Node.key?
  (subnodes page).filter fun n =>
    match n.key? with
    | some k => keys.contains k
    | none => false

variable {nodes : List Node}

theorem keys_subnodes (nodes : List Node) :
    (subnodes (.fragment nodes)).filterMap key? = keysOf nodes := by
  have helements := subnodes_elements (.fragment nodes)
  rw [Node.elements] at helements
  rw [keysOf, ← helements, List.map_filterMap]
  rfl

/-- In a page with distinct keys, the key of an element comes once. -/
theorem pairwise_key?_ne (hnodup : (keysOf nodes).Nodup) :
    (subnodes (.fragment nodes)).Pairwise fun n m =>
      m.isElement = true → n.key? ≠ m.key? := by
  rw [← keys_subnodes, List.Nodup, List.pairwise_filterMap] at hnodup
  refine hnodup.imp fun {n m} hne helement hkey => ?_
  obtain ⟨e, he⟩ := Option.isSome_iff_exists.1 helement
  have hm : m.key? = some e.key := by rw [key?, he]; rfl
  exact hne _ (hkey.trans hm) _ hm rfl

/-- In a page with distinct keys, an element is known by its key. -/
theorem eq_of_key?_eq (hnodup : (keysOf nodes).Nodup) {n m : Node}
    (hn : n ∈ subnodes (.fragment nodes)) (hm : m ∈ subnodes (.fragment nodes))
    (helement : m.isElement = true) (hkey : n.key? = m.key?) : n = m := by
  by_contra hne
  have hboth : n.isElement = true := by
    rw [isElement, ← Option.isSome_map, ← key?] at helement ⊢
    rwa [hkey]
  have hsymm : Std.Symm fun a b : Node =>
      a.isElement = true → b.isElement = true → a.key? ≠ b.key? :=
    ⟨fun a b h hb ha heq => h ha hb heq.symm⟩
  have hapart : (subnodes (.fragment nodes)).Pairwise fun a b : Node =>
      a.isElement = true → b.isElement = true → a.key? ≠ b.key? :=
    (pairwise_key?_ne hnodup).imp fun h _ hb => h hb
  exact hapart.forall hn hm hne hboth helement hkey

/-- The elements of a page stand in the order of their positions. -/
theorem pairwise_position (hnodup : (keysOf nodes).Nodup) :
    (subnodes (.fragment nodes)).Pairwise fun n m =>
      n.isElement = true → m.isElement = true →
        position (.fragment nodes) n < position (.fragment nodes) m := by
  have hapart := List.pairwise_iff_getElem.1 (pairwise_key?_ne hnodup)
  have hposition {i : Nat} (hi : i < (subnodes (.fragment nodes)).length)
      (helement : (subnodes (.fragment nodes))[i].isElement = true) :
      position (.fragment nodes) (subnodes (.fragment nodes))[i] = i := by
    refine (List.findIdx_eq hi).2 ⟨decide_eq_true rfl, fun j hj => decide_eq_false ?_⟩
    exact hapart j i (hj.trans hi) hi hj helement
  refine List.pairwise_iff_getElem.2 fun i j hi hj hij hn hm => ?_
  rw [hposition hi hn, hposition hj hm]
  exact hij

/-- Elements of a page in the same position are the same. -/
theorem eq_of_position_eq (hnodup : (keysOf nodes).Nodup) {n m : Node}
    (hn : n ∈ subnodes (.fragment nodes)) (hm : m ∈ subnodes (.fragment nodes))
    (hnelement : n.isElement = true) (hmelement : m.isElement = true)
    (h : position (.fragment nodes) n = position (.fragment nodes) m) : n = m := by
  by_contra hne
  have hsymm : Std.Symm fun a b : Node => a.isElement = true → b.isElement = true →
      position (.fragment nodes) a ≠ position (.fragment nodes) b :=
    ⟨fun a b h hb ha heq => h ha hb heq.symm⟩
  have hapart : (subnodes (.fragment nodes)).Pairwise fun a b : Node =>
      a.isElement = true → b.isElement = true →
        position (.fragment nodes) a ≠ position (.fragment nodes) b :=
    (pairwise_position hnodup).imp fun h ha hb => Nat.ne_of_lt (h ha hb)
  exact hapart.forall hn hm hne hnelement hmelement h

/-- Putting elements of a page in order keeps them. -/
theorem mem_inOrder_iff (hnodup : (keysOf nodes).Nodup) {found : List Node}
    (hfound : ∀ n ∈ found, n ∈ subnodes (.fragment nodes) ∧ n.isElement = true) {n : Node} :
    n ∈ inOrder (.fragment nodes) found ↔ n ∈ found := by
  rw [inOrder, List.mem_filter]
  constructor
  · rintro ⟨hn, hkept⟩
    cases hkey : n.key? with
    | none => rw [hkey] at hkept; cases hkept
    | some key =>
      rw [hkey] at hkept
      obtain ⟨m, hm, hmkey⟩ := List.mem_filterMap.1 (List.elem_iff.1 hkept)
      rw [eq_of_key?_eq hnodup hn (hfound m hm).1 (hfound m hm).2 (hkey.trans hmkey.symm)]
      exact hm
  · intro hn
    obtain ⟨hpage, helement⟩ := hfound n hn
    obtain ⟨e, he⟩ := Option.isSome_iff_exists.1 helement
    have hkey : n.key? = some e.key := by rw [key?, he]; rfl
    refine ⟨hpage, ?_⟩
    rw [hkey]
    exact List.elem_iff.2 (List.mem_filterMap.2 ⟨n, hn, hkey⟩)

/-! ### Sorting and dropping repeats -/

theorem sortNodes_eq (page : Node) (ns : List Node) :
    sortNodes page ns = ns.insertionSort fun n m => position page n ≤ position page m := by
  have hinsert (n : Node) (ms : List Node) : insertNode page n ms =
      ms.orderedInsert (fun n m => position page n ≤ position page m) n := by
    induction ms with
    | nil => rfl
    | cons m ms ih => rw [insertNode, List.orderedInsert, ih]
  rw [sortNodes, funext₂ hinsert]
  rfl

theorem mem_sortNodes {page n : Node} {ns : List Node} : n ∈ sortNodes page ns ↔ n ∈ ns := by
  rw [sortNodes_eq]
  exact (List.perm_insertionSort _ ns).mem_iff

theorem pairwise_sortNodes (page : Node) (ns : List Node) :
    (sortNodes page ns).Pairwise fun n m => position page n ≤ position page m := by
  have htotal : Std.Total fun n m : Node => position page n ≤ position page m :=
    ⟨fun n m => Nat.le_total _ _⟩
  have htrans : IsTrans Node fun n m => position page n ≤ position page m :=
    ⟨fun _ _ _ => Nat.le_trans⟩
  rw [sortNodes_eq]
  exact List.pairwise_insertionSort _ ns

theorem dropRepeats_after_sublist (n : Node) (ns : List Node) :
    (dropRepeats.after n ns).Sublist (n :: ns) := by
  induction ns generalizing n with
  | nil => exact .refl _
  | cons m ms ih =>
    rw [dropRepeats.after]
    split_ifs
    · exact (ih n).trans ((List.sublist_cons_self m ms).cons_cons n)
    · exact (ih m).cons_cons n

/-- Nothing is lost with what repeats the node before it, when nodes are known by their keys. -/
theorem mem_dropRepeats_after {n : Node} {ns : List Node}
    (hkey : ∀ a ∈ n :: ns, ∀ b ∈ n :: ns, a.key? = b.key? → a = b) {k : Node}
    (hk : k ∈ n :: ns) : k ∈ dropRepeats.after n ns := by
  induction ns generalizing n with
  | nil => exact hk
  | cons m ms ih =>
    rw [dropRepeats.after]
    split_ifs with hrepeats
    · have hsame : n = m := hkey n (by simp) m (by simp) hrepeats
      refine ih (fun a ha b hb => hkey a ?_ b ?_) ?_
      · exact ((List.sublist_cons_self m ms).cons_cons n).subset ha
      · exact ((List.sublist_cons_self m ms).cons_cons n).subset hb
      · rw [← hsame] at hk
        simpa using hk
    · rcases List.mem_cons.1 hk with rfl | hk
      · exact List.mem_cons_self ..
      · exact List.mem_cons_of_mem _ (ih (fun a ha b hb =>
          hkey a (List.mem_cons_of_mem _ ha) b (List.mem_cons_of_mem _ hb)) hk)

/-- What is left of sorted nodes stands in different positions. -/
theorem pairwise_dropRepeats_after {page n : Node} {ns : List Node}
    (hsorted : (n :: ns).Pairwise fun a b => position page a ≤ position page b)
    (hposition : ∀ a ∈ n :: ns, ∀ b ∈ n :: ns, position page a = position page b →
      a.key? = b.key?) :
    (dropRepeats.after n ns).Pairwise fun a b => position page a < position page b := by
  induction ns generalizing n with
  | nil => exact List.pairwise_singleton _ _
  | cons m ms ih =>
    have hshort := (List.sublist_cons_self m ms).cons_cons n
    have hrest := List.sublist_cons_self n (m :: ms)
    rw [dropRepeats.after]
    split_ifs with hrepeats
    · exact ih (hsorted.sublist hshort)
        fun a ha b hb => hposition a (hshort.subset ha) b (hshort.subset hb)
    · refine List.pairwise_cons.2 ⟨fun a ha => ?_, ih (hsorted.sublist hrest)
        fun a ha b hb => hposition a (hrest.subset ha) b (hrest.subset hb)⟩
      -- The next node that is kept stands further on, and all others not before it.
      have hfirst : position page n < position page m :=
        lt_of_le_of_ne ((List.pairwise_cons.1 hsorted).1 m (List.mem_cons_self ..))
          fun heq => hrepeats (hposition n (by simp) m (by simp) heq)
      rcases List.mem_cons.1 ((dropRepeats_after_sublist m ms).subset ha) with rfl | ha
      · exact hfirst
      · exact hfirst.trans_le
          ((List.pairwise_cons.1 (List.pairwise_cons.1 hsorted).2).1 a ha)

/-- **Sorting elements of a page and dropping repeats puts them in order**, each of them once. -/
theorem dropRepeats_sortNodes (hnodup : (keysOf nodes).Nodup) {found : List Node}
    (hfound : ∀ n ∈ found, n ∈ subnodes (.fragment nodes) ∧ n.isElement = true) :
    dropRepeats (sortNodes (.fragment nodes) found) = inOrder (.fragment nodes) found := by
  have hsame {a b : Node} (ha : a ∈ sortNodes (.fragment nodes) found)
      (hb : b ∈ sortNodes (.fragment nodes) found) :
      (a.key? = b.key? → a = b) ∧
        (position (.fragment nodes) a = position (.fragment nodes) b → a.key? = b.key?) := by
    have ha := hfound a (mem_sortNodes.1 ha)
    have hb := hfound b (mem_sortNodes.1 hb)
    exact ⟨eq_of_key?_eq hnodup ha.1 hb.1 hb.2, fun h =>
      congrArg key? (eq_of_position_eq hnodup ha.1 hb.1 ha.2 hb.2 h)⟩
  have hsorted := pairwise_sortNodes (.fragment nodes) found
  -- Both lists stand in the order of positions, and they have the same members.
  have hleft : (dropRepeats (sortNodes (.fragment nodes) found)).Pairwise fun a b =>
      position (.fragment nodes) a < position (.fragment nodes) b := by
    cases hcases : sortNodes (.fragment nodes) found with
    | nil => exact List.Pairwise.nil
    | cons n ns =>
      rw [hcases] at hsame hsorted
      exact pairwise_dropRepeats_after hsorted fun a ha b hb => (hsame ha hb).2
  have hright : (inOrder (.fragment nodes) found).Pairwise fun a b =>
      position (.fragment nodes) a < position (.fragment nodes) b := by
    have helement {n : Node} {keys : List Nat} (h : (match n.key? with
        | some k => keys.contains k
        | none => false) = true) : n.isElement = true := by
      rw [isElement, ← Option.isSome_map, ← key?]
      cases hkey : n.key? with
      | none => rw [hkey] at h; cases h
      | some _ => rfl
    rw [inOrder, List.pairwise_filter]
    exact (pairwise_position hnodup).imp fun h ha hb => h (helement ha) (helement hb)
  have hmem (n : Node) : n ∈ dropRepeats (sortNodes (.fragment nodes) found) ↔
      n ∈ inOrder (.fragment nodes) found := by
    have hsort : n ∈ found ↔ n ∈ sortNodes (.fragment nodes) found := mem_sortNodes.symm
    rw [mem_inOrder_iff hnodup hfound, hsort]
    cases hcases : sortNodes (.fragment nodes) found with
    | nil => exact Iff.rfl
    | cons n ns =>
      rw [hcases] at hsame
      exact ⟨fun h => (dropRepeats_after_sublist _ _).subset h,
        mem_dropRepeats_after fun a ha b hb => (hsame ha hb).1⟩
  refine List.Perm.eq_of_pairwise (fun a b _ _ hab hba => absurd hba (lt_asymm hab)) hleft hright ?_
  rw [List.perm_ext_iff_of_nodup (hleft.imp fun h heq => Nat.ne_of_lt h (congrArg _ heq))
    (hright.imp fun h heq => Nat.ne_of_lt h (congrArg _ heq))]
  exact hmem

/-! ## Evaluating -/

/-- What a path gives: the elements that its steps come to, put in order. -/
theorem evaluate_eq_inOrder (hnodup : (keysOf nodes).Nodup) (path : Path) :
    evaluate nodes path =
      (inOrder (.fragment nodes) (follow [.fragment nodes] path)).filterMap element? := by
  cases path with
  | nil =>
    -- Without steps there is only the page itself, which is no element.
    have hnone : inOrder (.fragment nodes) [.fragment nodes] = [] := by
      refine List.filter_eq_nil_iff.2 fun n _ => ?_
      cases n.key? <;> simp [key?, element?]
    rw [follow, hnone]
    rfl
  | cons s steps =>
    have hfound : ∀ n ∈ follow [.fragment nodes] (s :: steps),
        n ∈ subnodes (.fragment nodes) ∧ n.isElement = true := fun n hn =>
      ⟨(mem_follow_top_iff.1 hn).mem_subnodes, isElement_of_mem_follow hn⟩
    rw [evaluate, dropRepeats_sortNodes hnodup hfound]

/-- The elements that a path gives are the ones that it leads to. -/
theorem mem_evaluate_iff (hnodup : (keysOf nodes).Nodup) (path : Path) (e : Element) :
    e ∈ evaluate nodes path ↔ ∃ cs, path.Leads (.fragment nodes) (.element e cs) := by
  have hmem (n : Node) (helement : n.isElement = true) :
      n ∈ inOrder (.fragment nodes) (follow [.fragment nodes] path) ↔
        path.Leads (.fragment nodes) n := by
    cases path with
    | nil =>
      have hkeys : [Node.fragment nodes].filterMap key? = [] := rfl
      constructor
      · intro h
        rw [inOrder, follow, hkeys] at h
        have hkept := (List.mem_filter.1 h).2
        cases hkey : n.key? <;> simp [hkey] at hkept
      · rintro ⟨⟩
        cases helement
    | cons s steps =>
      rw [mem_inOrder_iff hnodup fun n hn =>
        ⟨(mem_follow_top_iff.1 hn).mem_subnodes, isElement_of_mem_follow hn⟩, mem_follow_top_iff]
  rw [evaluate_eq_inOrder hnodup, List.mem_filterMap]
  constructor
  · rintro ⟨n, hn, he⟩
    cases n with
    | element _ cs =>
      obtain rfl := Option.some.inj he
      exact ⟨cs, (hmem _ rfl).1 hn⟩
    | text _ => cases he
    | comment _ => cases he
    | doctype _ => cases he
    | fragment _ => cases he
  · rintro ⟨cs, h⟩
    exact ⟨_, (hmem _ rfl).2 h, rfl⟩

theorem dropRepeats_subset (ns : List Node) : dropRepeats ns ⊆ ns := by
  cases ns with
  | nil => exact fun _ h => h
  | cons n ns => exact (dropRepeats_after_sublist n ns).subset

/-- A path gives elements of the page. -/
theorem evaluate_subset (nodes : List Node) (path : Path) :
    evaluate nodes path ⊆ Node.elementsOf nodes := by
  have helements := subnodes_elements (.fragment nodes)
  rw [Node.elements] at helements
  rw [evaluate, ← helements]
  exact List.filterMap_subset _ fun n hn =>
    (mem_follow_top_iff.1 (mem_sortNodes.1 (dropRepeats_subset _ hn))).mem_subnodes

/-- What a path gives stands in document order. -/
theorem evaluate_sublist (hnodup : (keysOf nodes).Nodup) (path : Path) :
    (evaluate nodes path).Sublist (Node.elementsOf nodes) := by
  have helements := subnodes_elements (.fragment nodes)
  rw [Node.elements] at helements
  rw [evaluate_eq_inOrder hnodup, ← helements]
  exact List.filter_sublist.filterMap _

/-- **A path gives the elements that it leads to from the top of the page**, each once and in
document order.  They are elements of the page.  Steps may come to a node more than once and to
nodes in another order; the elements of the page among all that they come to, in document order, are
what is left after sorting and dropping repeats. -/
theorem evaluate_leads (hnodup : (keysOf nodes).Nodup) (path : Path) :
    (evaluate nodes path).Sublist (Node.elementsOf nodes) ∧
      (evaluate nodes path).Nodup ∧
      (∀ e, e ∈ evaluate nodes path ↔
        ∃ cs, path.Leads (.fragment nodes) (.element e cs)) ∧
      (∀ n, n ∈ follow [.fragment nodes] path ↔ path.Leads (.fragment nodes) n) ∧
      evaluate nodes path =
        (inOrder (.fragment nodes) (follow [.fragment nodes] path)).filterMap element? :=
  ⟨evaluate_sublist hnodup path,
    (evaluate_sublist hnodup path).nodup (List.Nodup.of_map _ hnodup),
    mem_evaluate_iff hnodup path, fun _ => mem_follow_top_iff, evaluate_eq_inOrder hnodup path⟩

/-- Below two nested blocks the path `//div//p[1]` comes to the inner paragraph twice, and to the
outer one before it. -/
theorem nested_paragraphs_led_to :
    let nodes : List Node :=
      [.element { key := 0, name := "div" }
        [.element { key := 1, name := "div" } [.element { key := 2, name := "p" } []],
          .element { key := 3, name := "p" } []]]
    let path : Path := [⟨.descendant, some "div", []⟩, ⟨.descendant, some "p", [.position 1]⟩]
    (keysOf nodes).Nodup ∧
      (follow [.fragment nodes] path).filterMap key? = [3, 2, 2] ∧
      evaluate nodes path = [{ key := 2, name := "p" }, { key := 3, name := "p" }] ∧
      ∃ cs, path.Leads (.fragment nodes) (.element { key := 2, name := "p" } cs) := by
  intro nodes path
  have hnodup : (keysOf nodes).Nodup := by decide
  have hevaluate :
      evaluate nodes path = [{ key := 2, name := "p" }, { key := 3, name := "p" }] := by
    decide +kernel
  obtain ⟨-, -, hleads, -⟩ := evaluate_leads hnodup path
  refine ⟨hnodup, by decide +kernel, hevaluate, (hleads _).1 ?_⟩
  rw [hevaluate]
  exact List.mem_cons_self ..

/-- **The path to every element leads to all elements**, in document order. -/
theorem evaluate_everything (hnodup : (keysOf nodes).Nodup) :
    evaluate nodes everything = Node.elementsOf nodes := by
  have helements := subnodes_elements (.fragment nodes)
  rw [Node.elements] at helements
  have hall : Node.elementsOf nodes ⊆ evaluate nodes everything := by
    intro e he
    rw [← helements] at he
    obtain ⟨n, hn, hne⟩ := List.mem_filterMap.1 he
    obtain ⟨cs, rfl⟩ : ∃ cs, n = .element e cs := by
      cases n with
      | element _ cs => exact ⟨cs, congrArg (Node.element · cs) (Option.some.inj hne)⟩
      | text _ => cases hne
      | comment _ => cases hne
      | doctype _ => cases hne
      | fragment _ => cases hne
    refine (mem_evaluate_iff hnodup _ e).2 ⟨cs, .step ?_ (.done _)⟩
    exact Step.mem_from_iff.1 (mem_from_everything hn rfl)
  exact (evaluate_sublist hnodup _).eq_of_length_le
    ((List.subperm_of_subset (List.Nodup.of_map _ hnodup) hall).length_le)

end PageGuard.XPath
