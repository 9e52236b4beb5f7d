import PageGuard.Markup.Node
import Mathlib.Data.List.Nodup
import Mathlib.Data.List.Perm.Basic
import Mathlib.Data.Option.Basic

/-!
# Taking elements out of a tree

Every element of a tree has a line of descent: its key and the keys of the elements above it, the
nearest first.  Taking an element out of the tree takes out exactly the elements in whose line it
stands, and leaves the lines of the others as they are.

* `Node.linesIn_withoutIn`: the lines that are left when an element goes.
* `Node.mem_line_iff`: in a tree with distinct keys an element stands in the line of another one
  exactly when it is found above it.
* `Node.keysOf_perm_withoutIn`: what goes and what is left are all elements of the tree.
* `Node.findIn?_withoutIn`, `Node.withoutIn_comm`: what is left stays where it was, in whatever order
  elements go.
-/

namespace PageGuard.Markup.Node

/-- The keys of the elements of nodes and below them, in document order. -/
def keysOf (ns : List Node) : List Nat := (elementsOf ns).map Element.key

@[simp] theorem keysOf_nil : keysOf [] = [] := rfl

@[simp] theorem keysOf_cons (n : Node) (ns : List Node) :
    keysOf (n :: ns) = n.elements.map Element.key ++ keysOf ns := by
  rw [keysOf, elementsOf, List.map_append, keysOf]

theorem keysOf_append (ms ns : List Node) : keysOf (ms ++ ns) = keysOf ms ++ keysOf ns := by
  induction ms with
  | nil => rfl
  | cons m ms ih => rw [List.cons_append, keysOf_cons, ih, keysOf_cons, List.append_assoc]

theorem keys_element (e : Element) (cs : List Node) :
    (element e cs).elements.map Element.key = e.key :: keysOf cs := by
  rw [elements, List.map_cons, keysOf]

/-- Only an element has a key. -/
theorem eq_element_of_key? {n : Node} {key : Nat} (h : n.key? = some key) :
    ∃ e cs, n = element e cs ∧ e.key = key := by
  cases n with
  | element e cs => exact ⟨e, cs, rfl, Option.some.inj h⟩
  | text _ => cases h
  | comment _ => cases h
  | doctype _ => cases h
  | fragment _ => cases h

theorem mem_keys_of_key? {n : Node} {key : Nat} (h : n.key? = some key) :
    key ∈ n.elements.map Element.key := by
  obtain ⟨e, cs, rfl, rfl⟩ := eq_element_of_key? h
  rw [keys_element]
  exact List.mem_cons_self ..

/-! ## Finding -/

mutual

/-- What is found by its key is an element of this key. -/
theorem eq_element_of_find? {key : Nat} : ∀ {n m : Node}, find? key n = some m →
    ∃ e cs, m = element e cs ∧ e.key = key
  | element e cs, m, h => by
    rw [find?] at h
    split_ifs at h with hkey
    · exact ⟨e, cs, (Option.some.inj h).symm, hkey⟩
    · exact eq_element_of_findIn? h
  | fragment cs, m, h => by
    rw [find?] at h
    exact eq_element_of_findIn? h
  | text _, m, h => by simp [find?] at h
  | comment _, m, h => by simp [find?] at h
  | doctype _, m, h => by simp [find?] at h

/-- What is found among nodes by its key is an element of this key. -/
theorem eq_element_of_findIn? {key : Nat} : ∀ {ns : List Node} {m : Node},
    findIn? key ns = some m → ∃ e cs, m = element e cs ∧ e.key = key
  | [], m, h => by simp [findIn?] at h
  | n :: ns, m, h => by
    rw [findIn?] at h
    rcases Option.or_eq_some_iff.1 h with h | ⟨-, h⟩
    · exact eq_element_of_find? h
    · exact eq_element_of_findIn? h

end

mutual

/-- An element is found exactly when its key is there. -/
theorem find?_isSome {key : Nat} : ∀ n : Node,
    (find? key n).isSome = true ↔ key ∈ n.elements.map Element.key
  | element e cs => by
    rw [find?, keys_element, List.mem_cons, ← findIn?_isSome cs]
    by_cases h : e.key = key
    · simp [h]
    · simp [h, Ne.symm h]
  | fragment cs => by
    rw [find?, elements]
    exact findIn?_isSome cs
  | text _ => by simp [find?, elements]
  | comment _ => by simp [find?, elements]
  | doctype _ => by simp [find?, elements]

/-- An element is found among nodes exactly when its key is there. -/
theorem findIn?_isSome {key : Nat} : ∀ ns : List Node,
    (findIn? key ns).isSome = true ↔ key ∈ keysOf ns
  | [] => by simp [findIn?]
  | n :: ns => by
    rw [findIn?, keysOf_cons, List.mem_append, ← find?_isSome n, ← findIn?_isSome ns,
      Option.isSome_or, Bool.or_eq_true]

end

theorem findIn?_eq_none_iff {key : Nat} {ns : List Node} :
    findIn? key ns = none ↔ key ∉ keysOf ns := by
  rw [← findIn?_isSome, ← Option.not_isSome_iff_eq_none]

theorem find?_eq_none_iff {key : Nat} {n : Node} :
    find? key n = none ↔ key ∉ n.elements.map Element.key := by
  rw [← find?_isSome, ← Option.not_isSome_iff_eq_none]

/-! ## Lines of descent -/

mutual

/-- The lines of the elements of a node and below it, in document order, where `above` is the line
of the element above. -/
def lines (above : List Nat) : Node → List (List Nat)
  | element e cs => (e.key :: above) :: linesIn (e.key :: above) cs
  | fragment cs => linesIn above cs
  | _ => []

/-- The lines of the elements of nodes and below them, in document order. -/
def linesIn (above : List Nat) : List Node → List (List Nat)
  | [] => []
  | n :: ns => lines above n ++ linesIn above ns

end

mutual

/-- A line starts with the key of its element. -/
theorem head?_lines (above : List Nat) : ∀ n : Node,
    (lines above n).map List.head? = (n.elements.map Element.key).map some
  | element e cs => by
    rw [lines, List.map_cons, head?_linesIn _ cs, keys_element, List.map_cons, List.head?_cons]
  | fragment cs => by
    rw [lines, elements]
    exact head?_linesIn above cs
  | text _ => by simp [lines, elements]
  | comment _ => by simp [lines, elements]
  | doctype _ => by simp [lines, elements]

/-- The lines of nodes start with the keys of their elements, in document order. -/
theorem head?_linesIn (above : List Nat) : ∀ ns : List Node,
    (linesIn above ns).map List.head? = (keysOf ns).map some
  | [] => rfl
  | n :: ns => by
    rw [linesIn, List.map_append, head?_lines above n, head?_linesIn above ns, keysOf_cons,
      List.map_append]

end

mutual

/-- A line ends in the line above. -/
theorem suffix_of_mem_lines {above line : List Nat} : ∀ {n : Node},
    line ∈ lines above n → above <:+ line
  | element e cs, h => by
    rw [lines] at h
    rcases List.mem_cons.1 h with rfl | h
    · exact List.suffix_cons _ _
    · exact (List.suffix_cons _ _).trans (suffix_of_mem_linesIn h)
  | fragment cs, h => by
    rw [lines] at h
    exact suffix_of_mem_linesIn h
  | text _, h => by simp [lines] at h
  | comment _, h => by simp [lines] at h
  | doctype _, h => by simp [lines] at h

theorem suffix_of_mem_linesIn {above line : List Nat} : ∀ {ns : List Node},
    line ∈ linesIn above ns → above <:+ line
  | [], h => absurd h List.not_mem_nil
  | n :: ns, h => by
    rw [linesIn] at h
    rcases List.mem_append.1 h with h | h
    · exact suffix_of_mem_lines h
    · exact suffix_of_mem_linesIn h

end

/-- The lines of an element all go through it. -/
theorem mem_of_mem_lines {key : Nat} {above line : List Nat} {n : Node} (hkey : n.key? = some key)
    (h : line ∈ lines above n) : key ∈ line := by
  obtain ⟨e, cs, rfl, rfl⟩ := eq_element_of_key? hkey
  rw [lines] at h
  rcases List.mem_cons.1 h with rfl | h
  · exact List.mem_cons_self ..
  · exact (suffix_of_mem_linesIn h).mem (List.mem_cons_self ..)

mutual

/-- Taking an element out below a node leaves the lines that do not go through it. -/
theorem lines_without {key : Nat} {above : List Nat} (habove : key ∉ above) : ∀ {n : Node},
    n.key? ≠ some key → lines above (n.without key) = (lines above n).filter fun l => key ∉ l
  | element e cs, hkey => by
    have hline : key ∉ e.key :: above := by
      rw [List.mem_cons, not_or]
      exact ⟨fun h => hkey (congrArg some h.symm), habove⟩
    rw [without, lines, lines, linesIn_withoutIn hline cs, List.filter_cons,
      if_pos (decide_eq_true hline)]
  | fragment cs, _ => by
    rw [without, lines, lines]
    exact linesIn_withoutIn habove cs
  | text _, _ => rfl
  | comment _, _ => rfl
  | doctype _, _ => rfl

/-- **Taking an element out of a tree leaves the lines that do not go through it.** -/
theorem linesIn_withoutIn {key : Nat} {above : List Nat} (habove : key ∉ above) :
    ∀ ns : List Node, linesIn above (withoutIn key ns) =
      (linesIn above ns).filter fun l => key ∉ l
  | [] => rfl
  | n :: ns => by
    rw [withoutIn, linesIn, List.filter_append, ← linesIn_withoutIn habove ns]
    split_ifs with hkey
    · have hgone : (lines above n).filter (fun l => key ∉ l) = [] := by
        rw [List.filter_eq_nil_iff]
        intro line hline
        simpa using mem_of_mem_lines hkey hline
      rw [hgone, List.nil_append]
    · rw [linesIn, lines_without habove hkey]

end

/-! ## Lines in a tree with distinct keys -/

mutual

theorem exists_line_of_find? {key below : Nat} (above : List Nat) : ∀ {n m : Node},
    find? key n = some m → below ∈ m.elements.map Element.key →
      ∃ line ∈ lines above n, line.head? = some below ∧ key ∈ line
  | element e cs, m, hfind, hbelow => by
    rw [find?] at hfind
    split_ifs at hfind with hkey
    · obtain rfl := Option.some.inj hfind
      have hhead : some below ∈ (lines above (element e cs)).map List.head? := by
        rw [head?_lines]
        exact List.mem_map_of_mem hbelow
      obtain ⟨line, hline, hhead⟩ := List.mem_map.1 hhead
      exact ⟨line, hline, hhead, mem_of_mem_lines (hkey ▸ rfl) hline⟩
    · obtain ⟨line, hline, hhead, hmem⟩ :=
        exists_line_of_findIn? (e.key :: above) hfind hbelow
      exact ⟨line, List.mem_cons_of_mem _ hline, hhead, hmem⟩
  | fragment cs, m, hfind, hbelow => by
    rw [find?] at hfind
    rw [lines]
    exact exists_line_of_findIn? above hfind hbelow
  | text _, m, hfind, _ => by simp [find?] at hfind
  | comment _, m, hfind, _ => by simp [find?] at hfind
  | doctype _, m, hfind, _ => by simp [find?] at hfind

/-- An element below one that is found has a line through it. -/
theorem exists_line_of_findIn? {key below : Nat} (above : List Nat) : ∀ {ns : List Node} {m : Node},
    findIn? key ns = some m → below ∈ m.elements.map Element.key →
      ∃ line ∈ linesIn above ns, line.head? = some below ∧ key ∈ line
  | [], m, hfind, _ => by simp [findIn?] at hfind
  | n :: ns, m, hfind, hbelow => by
    rw [linesIn]
    rw [findIn?] at hfind
    rcases Option.or_eq_some_iff.1 hfind with hfind | ⟨-, hfind⟩
    · obtain ⟨line, hline, h⟩ := exists_line_of_find? above hfind hbelow
      exact ⟨line, List.mem_append_left _ hline, h⟩
    · obtain ⟨line, hline, h⟩ := exists_line_of_findIn? above hfind hbelow
      exact ⟨line, List.mem_append_right _ hline, h⟩

end

mutual

theorem exists_find?_of_mem_line {key below : Nat} {above line : List Nat} : ∀ {n : Node},
    (n.elements.map Element.key).Nodup → line ∈ lines above n → line.head? = some below →
      key ∈ line → key ∉ above →
        ∃ m, find? key n = some m ∧ below ∈ m.elements.map Element.key
  | element e cs, hnodup, hline, hhead, hmem, habove => by
    rw [keys_element, List.nodup_cons] at hnodup
    rw [lines] at hline
    by_cases hkey : e.key = key
    · refine ⟨element e cs, by rw [find?, if_pos hkey], ?_⟩
      have hbelow : some below ∈ (lines above (element e cs)).map List.head? :=
        hhead ▸ List.mem_map_of_mem hline
      rw [head?_lines] at hbelow
      exact (List.mem_map_of_injective (Option.some_injective _)).1 hbelow
    · have hnot : key ∉ e.key :: above := by
        rw [List.mem_cons, not_or]
        exact ⟨Ne.symm hkey, habove⟩
      rcases List.mem_cons.1 hline with rfl | hline
      · exact absurd hmem hnot
      · rw [find?, if_neg hkey]
        exact exists_findIn?_of_mem_line hnodup.2 hline hhead hmem hnot
  | fragment cs, hnodup, hline, hhead, hmem, habove => by
    rw [elements] at hnodup
    rw [lines] at hline
    rw [find?]
    exact exists_findIn?_of_mem_line hnodup hline hhead hmem habove
  | text _, _, hline, _, _, _ => by simp [lines] at hline
  | comment _, _, hline, _, _, _ => by simp [lines] at hline
  | doctype _, _, hline, _, _, _ => by simp [lines] at hline

/-- In a tree with distinct keys, an element through which a line goes is found above the element
of the line. -/
theorem exists_findIn?_of_mem_line {key below : Nat} {above line : List Nat} :
    ∀ {ns : List Node}, (keysOf ns).Nodup → line ∈ linesIn above ns → line.head? = some below →
      key ∈ line → key ∉ above →
        ∃ m, findIn? key ns = some m ∧ below ∈ m.elements.map Element.key
  | [], _, hline, _, _, _ => absurd hline List.not_mem_nil
  | n :: ns, hnodup, hline, hhead, hmem, habove => by
    rw [keysOf_cons, List.nodup_append] at hnodup
    rw [linesIn] at hline
    rcases List.mem_append.1 hline with hline | hline
    · obtain ⟨m, hfind, hbelow⟩ :=
        exists_find?_of_mem_line hnodup.1 hline hhead hmem habove
      exact ⟨m, by rw [findIn?, hfind, Option.some_or], hbelow⟩
    · obtain ⟨m, hfind, hbelow⟩ :=
        exists_findIn?_of_mem_line hnodup.2.1 hline hhead hmem habove
      have hlater : key ∈ keysOf ns := by
        rw [← findIn?_isSome, hfind]
        rfl
      have hnone : find? key n = none :=
        find?_eq_none_iff.2 fun h => hnodup.2.2 key h key hlater rfl
      exact ⟨m, by rw [findIn?, hnone, Option.none_or, hfind], hbelow⟩

end

/-- **An element stands in the line of another one exactly when it is that element or is found above
it**, in a tree with distinct keys. -/
theorem mem_line_iff {ns : List Node} (hnodup : (keysOf ns).Nodup) {line : List Nat}
    (hline : line ∈ linesIn [] ns) {key below : Nat} (hhead : line.head? = some below) :
    key ∈ line ↔ key = below ∨ ∃ m, findIn? key ns = some m ∧ below ∈ keysOf m.children := by
  constructor
  · intro hmem
    obtain ⟨m, hfind, hbelow⟩ :=
      exists_findIn?_of_mem_line hnodup hline hhead hmem List.not_mem_nil
    obtain ⟨e, cs, rfl, hkey⟩ := eq_element_of_findIn? hfind
    rw [keys_element, List.mem_cons, hkey] at hbelow
    exact hbelow.imp Eq.symm fun h => ⟨_, hfind, h⟩
  · rintro (rfl | ⟨m, hfind, hbelow⟩)
    · exact List.mem_of_mem_head? hhead
    · obtain ⟨e, cs, rfl, -⟩ := eq_element_of_findIn? hfind
      obtain ⟨other, hother, hsame, hmem⟩ := exists_line_of_findIn? [] hfind
        (keys_element e cs ▸ List.mem_cons_of_mem _ hbelow)
      -- Both lines belong to the same element, so they are one line.
      have hheads : ((linesIn [] ns).map List.head?).Nodup := by
        rw [head?_linesIn]
        exact hnodup.map (Option.some_injective _)
      rwa [← List.inj_on_of_nodup_map hheads hother hline (hsame.trans hhead.symm)]

/-! ## What goes and what is left -/

mutual

theorem without_of_notMem {key : Nat} : ∀ {n : Node}, key ∉ n.elements.map Element.key →
    n.without key = n
  | element e cs, h => by
    rw [keys_element, List.mem_cons, not_or] at h
    rw [without, withoutIn_of_notMem h.2]
  | fragment cs, h => by
    rw [elements] at h
    rw [without, withoutIn_of_notMem h]
  | text _, _ => rfl
  | comment _, _ => rfl
  | doctype _, _ => rfl

/-- Nothing goes when the element is not there. -/
theorem withoutIn_of_notMem {key : Nat} : ∀ {ns : List Node}, key ∉ keysOf ns →
    withoutIn key ns = ns
  | [], _ => rfl
  | n :: ns, h => by
    rw [keysOf_cons, List.mem_append, not_or] at h
    rw [withoutIn, if_neg fun hkey => h.1 (mem_keys_of_key? hkey), without_of_notMem h.1,
      withoutIn_of_notMem h.2]

end

mutual

theorem keys_perm_without {key : Nat} : ∀ {n m : Node}, (n.elements.map Element.key).Nodup →
    n.key? ≠ some key → find? key n = some m →
      (n.elements.map Element.key).Perm
        ((n.without key).elements.map Element.key ++ m.elements.map Element.key)
  | element e cs, m, hnodup, hkey, hfind => by
    rw [keys_element, List.nodup_cons] at hnodup
    rw [find?, if_neg fun h => hkey (congrArg some h)] at hfind
    rw [without, keys_element, keys_element, List.cons_append]
    exact (keysOf_perm_withoutIn hnodup.2 hfind).cons _
  | fragment cs, m, hnodup, _, hfind => by
    rw [elements] at hnodup
    rw [find?] at hfind
    rw [without, elements, elements]
    exact keysOf_perm_withoutIn hnodup hfind
  | text _, m, _, _, hfind => by simp [find?] at hfind
  | comment _, m, _, _, hfind => by simp [find?] at hfind
  | doctype _, m, _, _, hfind => by simp [find?] at hfind

/-- **What goes with an element and what is left are all elements of the tree.** -/
theorem keysOf_perm_withoutIn {key : Nat} : ∀ {ns : List Node} {m : Node}, (keysOf ns).Nodup →
    findIn? key ns = some m →
      (keysOf ns).Perm (keysOf (withoutIn key ns) ++ m.elements.map Element.key)
  | [], m, _, hfind => by simp [findIn?] at hfind
  | n :: ns, m, hnodup, hfind => by
    rw [keysOf_cons, List.nodup_append] at hnodup
    rw [keysOf_cons, withoutIn]
    rw [findIn?] at hfind
    cases hn : find? key n with
    | none =>
      rw [hn, Option.none_or] at hfind
      have hnot := find?_eq_none_iff.1 hn
      rw [if_neg fun hkey => hnot (mem_keys_of_key? hkey), keysOf_cons, without_of_notMem hnot,
        List.append_assoc]
      exact (keysOf_perm_withoutIn hnodup.2.1 hfind).append_left _
    | some found =>
      rw [hn, Option.some_or, Option.some.injEq] at hfind
      subst hfind
      have hnot : key ∉ keysOf ns := by
        have hmem := (find?_isSome n).1 (hn ▸ rfl : (find? key n).isSome = true)
        exact fun h => hnodup.2.2 key hmem key h rfl
      rw [withoutIn_of_notMem hnot]
      by_cases hkey : n.key? = some key
      · obtain ⟨e, cs, rfl, rfl⟩ := eq_element_of_key? hkey
        rw [find?, if_pos rfl] at hn
        rw [if_pos hkey, ← Option.some.inj hn]
        exact List.perm_append_comm
      · rw [if_neg hkey, keysOf_cons, List.append_assoc]
        refine ((keys_perm_without hnodup.1 hkey hn).append_right _).trans ?_
        rw [List.append_assoc]
        exact List.perm_append_comm.append_left _

end

/-! ## Elements without anything above -/

/-- The elements of some elements are these and the ones below them. -/
theorem keysOf_perm_children : ∀ {ns : List Node}, (∀ n ∈ ns, n.isElement = true) →
    (keysOf ns).Perm (ns.filterMap key? ++ ns.flatMap fun n => keysOf n.children)
  | [], _ => List.Perm.refl _
  | n :: ns, h => by
    obtain ⟨hn, hns⟩ := List.forall_mem_cons.1 h
    cases n with
    | element e cs =>
      have ih := (keysOf_perm_children hns).append_left (keysOf cs)
      have hmiddle := List.perm_append_comm_assoc (keysOf cs) (ns.filterMap key?)
        (ns.flatMap fun n => keysOf n.children)
      rw [keysOf_cons, keys_element]
      exact (ih.trans hmiddle).cons _
    | text _ => cases hn
    | comment _ => cases hn
    | doctype _ => cases hn
    | fragment _ => cases hn

theorem key?_without (key : Nat) (n : Node) : (n.without key).key? = n.key? := by
  cases n <;> rfl

/-- Below elements of other keys an element goes from each of them. -/
theorem withoutIn_eq_map {key : Nat} : ∀ {ns : List Node}, key ∉ ns.filterMap key? →
    withoutIn key ns = ns.map (without key)
  | [], _ => rfl
  | n :: ns, h => by
    have hkey : n.key? ≠ some key := fun hkey =>
      h (List.mem_filterMap.2 ⟨n, List.mem_cons_self .., hkey⟩)
    have hns : key ∉ ns.filterMap key? := by
      rintro hmem
      obtain ⟨m, hm, hmkey⟩ := List.mem_filterMap.1 hmem
      exact h (List.mem_filterMap.2 ⟨m, List.mem_cons_of_mem _ hm, hmkey⟩)
    rw [withoutIn, if_neg hkey, withoutIn_eq_map hns, List.map_cons]

/-! ## What is left where it was -/

/-- The keys of nodes are the heads of their lines. -/
theorem keysOf_eq_heads (above : List Nat) (ns : List Node) :
    keysOf ns = (linesIn above ns).filterMap List.head? := by
  have h := congrArg (List.filterMap id) (head?_linesIn above ns)
  rw [List.filterMap_map, List.filterMap_map] at h
  simpa using h.symm

/-- Taking an element out of a tree leaves the other keys in their order. -/
theorem keysOf_withoutIn_sublist (key : Nat) (ns : List Node) :
    (keysOf (withoutIn key ns)).Sublist (keysOf ns) := by
  rw [keysOf_eq_heads [], linesIn_withoutIn List.not_mem_nil, keysOf_eq_heads []]
  exact List.filter_sublist.filterMap _

mutual

theorem find?_without {key gone : Nat} : ∀ {n : Node}, (n.elements.map Element.key).Nodup →
    key ∈ (n.without gone).elements.map Element.key →
      find? key (n.without gone) = (find? key n).map (without gone)
  | element e cs, hnodup, hmem => by
    rw [keys_element, List.nodup_cons] at hnodup
    rw [without, keys_element, List.mem_cons] at hmem
    rw [without, find?, find?]
    split_ifs with hkey
    · rw [Option.map_some, without]
    · exact findIn?_withoutIn hnodup.2 (hmem.resolve_left (Ne.symm hkey))
  | fragment cs, hnodup, hmem => by
    rw [elements] at hnodup
    rw [without, elements] at hmem
    rw [without, find?, find?]
    exact findIn?_withoutIn hnodup hmem
  | text _, _, hmem => absurd hmem List.not_mem_nil
  | comment _, _, hmem => absurd hmem List.not_mem_nil
  | doctype _, _, hmem => absurd hmem List.not_mem_nil

/-- **An element that is left is found where it was**, with what is left below it. -/
theorem findIn?_withoutIn {key gone : Nat} : ∀ {ns : List Node}, (keysOf ns).Nodup →
    key ∈ keysOf (withoutIn gone ns) →
      findIn? key (withoutIn gone ns) = (findIn? key ns).map (without gone)
  | [], _, hmem => absurd hmem List.not_mem_nil
  | n :: ns, hnodup, hmem => by
    rw [keysOf_cons, List.nodup_append] at hnodup
    have hlater (h : key ∈ keysOf (withoutIn gone ns)) : key ∉ n.elements.map Element.key :=
      fun hn => hnodup.2.2 key hn key ((keysOf_withoutIn_sublist gone ns).subset h) rfl
    rw [withoutIn] at hmem ⊢
    split_ifs at hmem ⊢ with hkey
    · rw [findIn?, find?_eq_none_iff.2 (hlater hmem), Option.none_or]
      exact findIn?_withoutIn hnodup.2.1 hmem
    · have hleft : (keysOf [n.without gone]).Sublist (keysOf [n]) := by
        have h := keysOf_withoutIn_sublist gone [n]
        rwa [withoutIn, if_neg hkey, withoutIn] at h
      rw [keysOf_cons, keysOf_cons, keysOf_nil, List.append_nil, List.append_nil] at hleft
      rw [keysOf_cons, List.mem_append] at hmem
      rw [findIn?, findIn?]
      rcases hmem with hmem | hmem
      · have hfind := find?_without hnodup.1 hmem
        obtain ⟨m, hm⟩ := Option.isSome_iff_exists.1 ((find?_isSome n).2 (hleft.subset hmem))
        rw [hfind, hm, Option.map_some, Option.some_or, Option.some_or, Option.map_some]
      · rw [find?_eq_none_iff.2 (hlater hmem), Option.none_or,
          find?_eq_none_iff.2 fun h => hlater hmem (hleft.subset h), Option.none_or]
        exact findIn?_withoutIn hnodup.2.1 hmem

end

mutual

theorem without_comm (a b : Nat) : ∀ n : Node, (n.without b).without a = (n.without a).without b
  | element e cs => by rw [without, without, without, without, withoutIn_comm a b cs]
  | fragment cs => by rw [without, without, without, without, withoutIn_comm a b cs]
  | text _ => rfl
  | comment _ => rfl
  | doctype _ => rfl

/-- It does not matter which of two elements goes first. -/
theorem withoutIn_comm (a b : Nat) :
    ∀ ns : List Node, withoutIn a (withoutIn b ns) = withoutIn b (withoutIn a ns)
  | [] => rfl
  | n :: ns => by
    have ih := withoutIn_comm a b ns
    rw [withoutIn, withoutIn]
    split_ifs with hb ha ha
    · exact ih
    · rw [withoutIn, key?_without, if_pos hb, ih]
    · rw [withoutIn, key?_without, if_pos ha, ih]
    · rw [withoutIn, withoutIn, key?_without, key?_without, if_neg ha, if_neg hb, ih,
        without_comm a b n]

end

/-- What is found below nodes is among their keys. -/
theorem keys_subset_of_findIn? {key : Nat} {ns : List Node} {m : Node}
    (h : findIn? key ns = some m) : m.elements.map Element.key ⊆ keysOf ns := by
  intro below hbelow
  obtain ⟨line, hline, hhead, -⟩ := exists_line_of_findIn? [] h hbelow
  rw [keysOf_eq_heads []]
  exact List.mem_filterMap.2 ⟨line, hline, hhead⟩

end PageGuard.Markup.Node
