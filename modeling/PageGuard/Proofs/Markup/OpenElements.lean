import PageGuard.Markup.Builder
import PageGuard.Proofs.Markup.Removal
import Mathlib.Algebra.BigOperators.Group.List.Basic
import Mathlib.Algebra.Order.Group.Multiset
import Mathlib.Data.List.Induction

/-!
# The elements of a page under construction

An element of a page under construction is open, complete inside an open one, or complete beside the
root.  The elements are counted by their keys.

* `Stack.keys_addAt`: a node brings the elements in it.
* `Stack.keys_close`, `Stack.keys_settle`: closing an element loses none and makes none, and so does
  whatever closes several of them.
* `Stack.keys_takeOff`: what is taken off the page and what is left of it are all elements.
* `Stack.keysOf_finish`: the complete page has the elements of the page under construction.
-/

namespace PageGuard.Markup

open Node

/-- The keys of a frame's element and of the complete elements in it and after it. -/
def Frame.keys (f : Frame) : Multiset ℕ := f.element.key ::ₘ (keysOf f.children + keysOf f.after)

/-- The keys of all elements of a page under construction. -/
def Stack.keys (s : Stack) : Multiset ℕ := (s.frames.map Frame.keys).sum + keysOf s.top

namespace Node

theorem coe_keysOf_append (ms ns : List Node) :
    (keysOf (ms ++ ns) : Multiset ℕ) = keysOf ms + keysOf ns := by
  rw [keysOf_append, Multiset.coe_add]

theorem coe_keysOf_cons (n : Node) (ns : List Node) :
    (keysOf (n :: ns) : Multiset ℕ) = keysOf [n] + keysOf ns :=
  coe_keysOf_append [n] ns

theorem coe_keysOf_reverse (ns : List Node) : (keysOf ns.reverse : Multiset ℕ) = keysOf ns := by
  induction ns with
  | nil => rfl
  | cons n ns ih =>
    rw [List.reverse_cons, coe_keysOf_append, ih, ← coe_keysOf_append, coe_keysOf_append ns,
      coe_keysOf_cons n ns, add_comm]

end Node

/-- Joining texts leaves the elements. -/
theorem keysOf_addNode (n : Node) (done : List Node) :
    keysOf (addNode n done) = keysOf (n :: done) := by
  unfold addNode
  split
  · simp [Node.elements]
  · rfl

/-- A change of one frame that adds keys to it adds them to all. -/
theorem sum_keys_modify {g : Frame → Frame} {ks : Multiset ℕ} (hg : ∀ f, (g f).keys = ks + f.keys) :
    ∀ {frames : List Frame} {depth : ℕ}, depth < frames.length →
      ((frames.modify depth g).map Frame.keys).sum = ks + (frames.map Frame.keys).sum
  | f :: frames, 0, _ => by
    rw [List.modify_zero_cons, List.map_cons, List.sum_cons, hg, List.map_cons, List.sum_cons,
      add_assoc]
  | f :: frames, depth + 1, h => by
    rw [List.modify_succ_cons, List.map_cons, List.sum_cons,
      sum_keys_modify hg (Nat.lt_of_succ_lt_succ h), List.map_cons, List.sum_cons,
      add_left_comm]

/-- A change of frames that leaves the keys of each leaves the keys of all. -/
theorem sum_keys_map {g : Frame → Frame} (hg : ∀ f, (g f).keys = f.keys) (frames : List Frame) :
    ((frames.map g).map Frame.keys).sum = (frames.map Frame.keys).sum := by
  rw [List.map_map]
  exact congrArg _ (List.map_congr_left fun f _ => hg f)

/-- Changing the last frame, but not its keys. -/
theorem sum_keys_dropLast_append {g : Frame → Frame} (hg : ∀ f, (g f).keys = f.keys)
    (frames : List Frame) :
    ((frames.dropLast ++ (frames.getLast?.map g).toList).map Frame.keys).sum =
      (frames.map Frame.keys).sum := by
  induction frames using List.reverseRecOn with
  | nil => rfl
  | append_singleton frames f _ => simp [hg]

namespace Stack

/-! ## Adding nodes -/

theorem keys_addAt (s : Stack) (depth : ℕ) (n : Node) :
    (s.addAt depth n).keys = keysOf [n] + s.keys := by
  rw [addAt]
  split_ifs with h
  · rw [keys, sum_keys_modify (fun f => ?_) h, keys, add_assoc]
    rw [Frame.keys, Frame.keys, keysOf_addNode, coe_keysOf_cons, Multiset.add_cons, add_assoc]
  · rw [keys, keysOf_addNode, coe_keysOf_cons, keys, add_left_comm]

@[simp] theorem length_frames_addAt (s : Stack) (depth : ℕ) (n : Node) :
    (s.addAt depth n).frames.length = s.frames.length := by
  rw [addAt]
  split_ifs
  · exact List.length_modify ..
  · rfl

theorem keys_add (s : Stack) (foster : Bool) (n : Node) :
    (s.add foster n).keys = keysOf [n] + s.keys :=
  keys_addAt ..

theorem keys_foldl_addAt (depth : ℕ) (ns : List Node) (s : Stack) :
    (ns.foldl (fun s n => s.addAt depth n) s).keys = keysOf ns + s.keys := by
  induction ns generalizing s with
  | nil => rw [List.foldl_nil, keysOf_nil, Multiset.coe_nil, zero_add]
  | cons n ns ih =>
    rw [List.foldl_cons, ih, keys_addAt, coe_keysOf_cons n ns, add_left_comm, add_assoc]

theorem length_frames_foldl_addAt (depth : ℕ) (ns : List Node) (s : Stack) :
    (ns.foldl (fun s n => s.addAt depth n) s).frames.length = s.frames.length := by
  induction ns generalizing s with
  | nil => rfl
  | cons n ns ih => rw [List.foldl_cons, ih, length_frames_addAt]

theorem keys_addAtRootEnd (s : Stack) (n : Node) :
    (s.addAtRootEnd n).keys = keysOf [n] + s.keys := by
  rw [addAtRootEnd]
  split_ifs with h
  · exact keys_addAt ..
  · rw [keys, sum_keys_modify (fun f => ?_) (by omega), keys, add_assoc]
    rw [Frame.keys, Frame.keys, keysOf_addNode, coe_keysOf_cons, Multiset.add_cons, add_left_comm]

theorem keys_addAfterRoot (s : Stack) (n : Node) :
    (s.addAfterRoot n).keys = keysOf [n] + s.keys := by
  rw [addAfterRoot]
  split_ifs with h
  · rw [keys, coe_keysOf_cons, keys, add_left_comm]
  · have hpos : 0 < s.frames.length := List.length_pos_iff.2 fun hnil => h (by rw [hnil]; rfl)
    rw [keys, sum_keys_modify (fun f => ?_) (by omega), keys, add_assoc]
    rw [Frame.keys, Frame.keys, coe_keysOf_cons, Multiset.add_cons, add_left_comm]

/-! ## Closing frames -/

/-- The node of a frame has the frame's element and the complete elements in it. -/
theorem keysOf_nodeOf (f : Frame) :
    (keysOf [nodeOf f] : Multiset ℕ) = f.element.key ::ₘ keysOf f.children := by
  have hkeys : keysOf [nodeOf f] = f.element.key :: keysOf f.children.reverse := by
    rw [nodeOf, keysOf_cons, keysOf_nil, List.append_nil, keys_element]
    split_ifs
    · rw [keysOf_cons, keysOf_nil, List.append_nil, Node.elements, keysOf]
    · rfl
  rw [hkeys, ← Multiset.cons_coe, coe_keysOf_reverse]

/-- A frame has the elements of its node and those after it. -/
theorem keys_frame (f : Frame) : f.keys = keysOf [nodeOf f] + keysOf f.after := by
  rw [keysOf_nodeOf, Frame.keys, Multiset.cons_add]

theorem keys_of_frames {s : Stack} {f : Frame} {below : List Frame} (h : s.frames = f :: below) :
    s.keys = f.keys + { s with frames := below }.keys := by
  rw [keys, h, List.map_cons, List.sum_cons, keys, add_assoc]

theorem keys_close (s : Stack) : s.close.keys = s.keys := by
  rw [close]
  cases hframes : s.frames with
  | nil => rfl
  | cons f below =>
    dsimp only
    rw [keys_foldl_addAt, keys_addAt, coe_keysOf_reverse, keys_of_frames hframes,
      keys_frame, add_comm _ (keysOf f.after : Multiset ℕ), add_assoc]

theorem length_frames_close (s : Stack) : s.close.frames.length = s.frames.length - 1 := by
  rw [close]
  cases hframes : s.frames with
  | nil => simp [hframes]
  | cons f below =>
    rw [length_frames_foldl_addAt, length_frames_addAt, List.length_cons, Nat.add_sub_cancel]

@[simp] theorem keys_closeMany (n : ℕ) (s : Stack) : (closeMany n s).keys = s.keys := by
  induction n generalizing s with
  | zero => rfl
  | succ n ih => rw [closeMany, ih, keys_close]

theorem length_frames_closeMany (n : ℕ) (s : Stack) :
    (closeMany n s).frames.length = s.frames.length - n := by
  induction n generalizing s with
  | zero => rfl
  | succ n ih => rw [closeMany, ih, length_frames_close, Nat.sub_sub, Nat.add_comm]

@[simp] theorem keys_settle (s : Stack) : s.settle.keys = s.keys := keys_closeMany ..

@[simp] theorem keys_pop (s : Stack) : s.pop.keys = s.keys := by
  rw [pop, keys_settle, keys_close]

@[simp] theorem keys_popThrough (s : Stack) (depth : ℕ) : (s.popThrough depth).keys = s.keys := by
  rw [popThrough, keys_settle, keys_closeMany]

@[simp] theorem keys_popUntil (s : Stack) (p : Element → Bool) : (s.popUntil p).keys = s.keys := by
  rw [popUntil]
  cases s.depth? p with
  | some depth => exact keys_popThrough ..
  | none => exact keys_closeMany ..

@[simp] theorem keys_popTo (s : Stack) (p : Element → Bool) : (s.popTo p).keys = s.keys := by
  rw [popTo]
  cases s.depth? p with
  | some depth =>
    dsimp only
    rw [keys_settle, keys_closeMany]
  | none => rfl

@[simp] theorem keys_leave (s : Stack) (key : ℕ) : (s.leave key).keys = s.keys := by
  rw [leave, keys_settle, keys, sum_keys_map (fun f => ?_), keys]
  split_ifs <;> rfl

/-- The complete page has the elements of the page under construction. -/
theorem keysOf_finish (s : Stack) : (keysOf s.finish : Multiset ℕ) = s.keys := by
  have hframes : (closeMany s.frames.length s).frames = [] := by
    rw [← List.length_eq_zero_iff, length_frames_closeMany, Nat.sub_self]
  rw [finish, coe_keysOf_reverse, ← keys_closeMany s.frames.length s, keys, hframes, List.map_nil,
    List.sum_nil, zero_add]

/-! ## Other changes -/

theorem keys_mapElement (s : Stack) (depth : ℕ) {g : Element → Element}
    (hg : ∀ e, (g e).key = e.key) : (s.mapElement depth g).keys = s.keys := by
  by_cases h : depth < s.frames.length
  · have hsame (f : Frame) : Frame.keys { f with element := g f.element } = 0 + f.keys := by
      rw [Frame.keys, Frame.keys, hg, zero_add]
    rw [mapElement, keys, sum_keys_modify hsame h, zero_add, keys]
  · rw [mapElement, List.modify_eq_self (Nat.le_of_not_lt h)]

@[simp] theorem keys_reopen (s : Stack) (key : ℕ) : (s.reopen key).keys = s.keys := by
  rw [reopen]
  cases hframes : s.frames with
  | nil => rfl
  | cons f below =>
    dsimp only
    generalize hafter : (f.children.takeWhile fun n => n.key? ≠ some key) = after
    split
    · rename_i e children before hdrop
      have hprefix : after <+: f.children := hafter ▸ List.takeWhile_prefix _
      have hsplit : f.children = after ++ .element e children :: before := by
        rw [← hdrop, List.prefix_iff_eq_append.1 hprefix]
      have hkeys : f.keys = { element := e, children := children.reverse, after : Frame }.keys +
          { f with children := before : Frame }.keys := by
        have helement : (keysOf [.element e children] : Multiset ℕ) =
            e.key ::ₘ keysOf children := by
          rw [keysOf_cons, keysOf_nil, List.append_nil, keys_element, Multiset.cons_coe]
        rw [Frame.keys, hsplit, coe_keysOf_append, coe_keysOf_cons, helement, Frame.keys,
          coe_keysOf_reverse, Frame.keys]
        simp only [← Multiset.singleton_add]
        ac_rfl
      rw [keys_of_frames hframes, hkeys, keys_of_frames rfl, keys_of_frames rfl, add_assoc]
    · rfl

/-- A block and all inside it move into a new element, whose copies are inside the block. -/
theorem keys_lift {s closed : Stack} {depth : ℕ} {block : Frame} {e : Element}
    {copies moved : List Frame} (hblock : s.frames[depth]? = some block)
    (hclosed : closed.keys = keys { s with frames := s.frames.drop (depth + 1) })
    (hmoved : (moved.map Frame.keys).sum =
      (({ block with children := [], foster := false } :: copies).map Frame.keys).sum) :
    keys { closed with
      frames := s.frames.take depth ++ { element := e, children := block.children } :: moved ++
        closed.frames } = e.key ::ₘ ((copies.map Frame.keys).sum + s.keys) := by
  obtain ⟨hlt, hget⟩ := List.getElem?_eq_some_iff.1 hblock
  have hframes : s.frames = s.frames.take depth ++ block :: s.frames.drop (depth + 1) := by
    rw [← hget, ← List.drop_eq_getElem_cons hlt, List.take_append_drop]
  rw [keys, keys] at hclosed
  have hs : s.keys = ((s.frames.take depth).map Frame.keys).sum +
      (block.keys + ((closed.frames.map Frame.keys).sum + keysOf closed.top)) := by
    rw [hclosed, keys]
    conv_lhs => rw [hframes]
    rw [List.map_append, List.sum_append, List.map_cons, List.sum_cons, add_assoc, add_assoc]
  rw [hs, keys]
  simp only [List.map_append, List.map_cons, List.sum_append, List.sum_cons, hmoved, Frame.keys,
    keysOf_nil, Multiset.coe_nil, zero_add, add_zero, ← Multiset.singleton_add]
  ac_rfl

/-- What is taken off the page and what is left of it are all elements. -/
theorem keys_takeOff (s : Stack) (depth : ℕ) :
    (s.takeOff depth).1.keys + keysOf (s.takeOff depth).2 = s.keys := by
  rw [takeOff]
  cases hframes : (closeMany depth s).frames with
  | nil =>
    dsimp only
    rw [keys_closeMany, keysOf_nil, Multiset.coe_nil, add_zero]
  | cons f below =>
    dsimp only
    rw [keys_settle, keys_foldl_addAt, coe_keysOf_reverse, ← keys_closeMany depth s,
      keys_of_frames hframes, keys_frame, add_right_comm, add_comm (keysOf f.after : Multiset ℕ)]

/-- Only elements are taken off. -/
theorem isElement_takeOff (s : Stack) (depth : ℕ) :
    ∀ n ∈ (s.takeOff depth).2, n.isElement = true := by
  rw [takeOff]
  dsimp only
  split
  · exact fun n hn => absurd hn List.not_mem_nil
  · intro n hn
    rw [List.mem_singleton.1 hn]
    rfl

end Stack

end PageGuard.Markup
