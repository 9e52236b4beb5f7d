import PageGuard.Markup.Insertion
import PageGuard.Proofs.Markup.OpenElements
import Mathlib.Data.Multiset.Range

/-!
# The keys of a page that is read

Every element of a page under construction has its own key, below the number of elements made.  No
token changes that, so a page that was read has distinct keys.

* `Keyed`: the elements, on the page and off it, have different keys of elements made.
* `keyed_adoptionRound`: moving a block out of a formatting element makes elements with new keys.
* `keyed_inMode`, `keyed_inForeign`: what one token does keeps this, in every mode.
* `keyed_ofText`: so it holds of every page at its end.
-/

namespace PageGuard.Markup.Builder

open Node

/-- The elements of some frames and off the page have different keys, below the number of elements
made, and only elements are off the page. -/
def KeyedParts (stack : Stack) (detached : List Node) (made : ℕ) : Prop :=
  stack.keys + keysOf detached ≤ Multiset.range made ∧ ∀ n ∈ detached, n.isElement = true

/-- The elements of a page under construction, on the page and off it, have different keys, below
the number of elements made. -/
def Keyed (b : Builder) : Prop := KeyedParts b.stack b.detached b.made

@[simp] theorem keyedParts_iff {b : Builder} :
    KeyedParts b.stack b.detached b.made ↔ Keyed b := Iff.rfl

/-- What is not the tree does not matter. -/
@[simp] theorem keyed_mk {mode returnMode : Mode} {templateModes : List Mode} {stack : Stack}
    {detached : List Node} {made : ℕ} {formats : List Format} {headKey formKey : Option ℕ}
    {framesetOk legacy skipNewline fostering : Bool} {tableText : List (List Char)}
    {textMode : TextMode} :
    Keyed ⟨mode, returnMode, templateModes, stack, detached, made, formats, headKey, formKey,
      framesetOk, legacy, skipNewline, fostering, tableText, textMode⟩ ↔
      KeyedParts stack detached made := Iff.rfl

@[simp] theorem keyed_ite {p : Prop} [Decidable p] {b c : Builder} :
    Keyed (if p then b else c) ↔ if p then Keyed b else Keyed c := by
  split_ifs <;> rfl

/-! ## Changes of the open elements -/

section Changes

variable {b : Builder}

/-- A change of the open elements that neither loses nor makes elements. -/
theorem keyed_onStack {f : Stack → Stack} (hf : ∀ s, (f s).keys = s.keys) :
    Keyed (b.onStack f) ↔ Keyed b := by
  rw [Keyed, onStack, KeyedParts, hf]
  rfl

@[simp] theorem keyed_addText (cs : List Char) : Keyed (b.addText cs) ↔ Keyed b :=
  keyed_onStack fun s => by rw [Stack.keys_add]; simp [Node.elements]

@[simp] theorem keyed_addComment (s : String) : Keyed (b.addComment s) ↔ Keyed b :=
  keyed_onStack fun s => by rw [Stack.keys_addAt]; simp [Node.elements]

@[simp] theorem keyed_addAfterRoot_comment (s : String) :
    Keyed (b.onStack fun st => st.addAfterRoot (.comment s)) ↔ Keyed b :=
  keyed_onStack fun s => by rw [Stack.keys_addAfterRoot]; simp [Node.elements]

@[simp] theorem keyed_addAfterRoot_doctype (s : String) :
    Keyed (b.onStack fun st => st.addAfterRoot (.doctype s)) ↔ Keyed b :=
  keyed_onStack fun s => by rw [Stack.keys_addAfterRoot]; simp [Node.elements]

@[simp] theorem keyed_addAtRootEnd (s : String) :
    Keyed (b.onStack fun st => st.addAtRootEnd (.comment s)) ↔ Keyed b :=
  keyed_onStack fun s => by rw [Stack.keys_addAtRootEnd]; simp [Node.elements]

/-- A new element has a new key. -/
@[simp] theorem keyed_openElement (space : Space) (name : String) (attributes : List Attribute) :
    Keyed (b.openElement space name attributes) ↔ Keyed b := by
  rw [openElement, onStack, keyed_mk, KeyedParts, Stack.keys_of_frames rfl, Multiset.range_succ,
    Frame.keys]
  simp [Keyed, KeyedParts, Multiset.cons_le_cons_iff]

@[simp] theorem keyed_openHtml (t : Tag) : Keyed (b.openHtml t) ↔ Keyed b := keyed_openElement ..

@[simp] theorem keyed_pop : Keyed b.pop ↔ Keyed b := keyed_onStack Stack.keys_pop

@[simp] theorem keyed_addVoid (t : Tag) : Keyed (b.addVoid t) ↔ Keyed b := by simp [addVoid]

@[simp] theorem keyed_onStack_popUntil (p : Element → Bool) :
    Keyed (b.onStack fun s => s.popUntil p) ↔ Keyed b :=
  keyed_onStack fun s => s.keys_popUntil p

@[simp] theorem keyed_popUntil (names : List String) : Keyed (b.popUntil names) ↔ Keyed b :=
  keyed_onStack_popUntil _

@[simp] theorem keyed_onStack_popTo (p : Element → Bool) :
    Keyed (b.onStack fun s => s.popTo p) ↔ Keyed b :=
  keyed_onStack fun s => s.keys_popTo p

@[simp] theorem keyed_popTo (names : List String) : Keyed (b.popTo names) ↔ Keyed b :=
  keyed_onStack_popTo _

@[simp] theorem keyed_leave (key : ℕ) : Keyed (b.onStack fun s => s.leave key) ↔ Keyed b :=
  keyed_onStack fun s => s.keys_leave key

@[simp] theorem keyed_reopen (key : ℕ) : Keyed (b.onStack fun s => s.reopen key) ↔ Keyed b :=
  keyed_onStack fun s => s.keys_reopen key

theorem keyed_closeImplied_go (implied : Element → Bool) (n : ℕ) :
    Keyed (closeImplied.go n implied b) ↔ Keyed b := by
  induction n generalizing b with
  | zero => rfl
  | succ n ih =>
    rw [closeImplied.go]
    split_ifs
    · rw [ih, keyed_pop]
    · rfl

@[simp] theorem keyed_closeImplied (names : List String) (except : Option String) :
    Keyed (b.closeImplied names except) ↔ Keyed b :=
  keyed_closeImplied_go ..

@[simp] theorem keyed_closeOptional : Keyed b.closeOptional ↔ Keyed b := keyed_closeImplied ..

@[simp] theorem keyed_closeParagraph : Keyed b.closeParagraph ↔ Keyed b := by
  simp [closeParagraph]

/-- What goes off the page stays apart from the rest. -/
@[simp] theorem keyed_dropInside : Keyed b.dropInside ↔ Keyed b := by
  have hkeys := b.stack.keys_takeOff (b.stack.frames.length - 2)
  have helements := b.stack.isElement_takeOff (b.stack.frames.length - 2)
  rw [dropInside]
  dsimp only
  rw [keyed_mk, KeyedParts, coe_keysOf_append, add_left_comm, hkeys, add_comm,
    List.forall_mem_append, and_iff_left helements]
  rfl

@[simp] theorem keyed_openText (t : Tag) (textMode : TextMode) :
    Keyed (b.openText t textMode) ↔ Keyed b :=
  keyed_openHtml t

@[simp] theorem keyed_mergeAttributes (inside : Bool) (attributes : List Attribute) :
    Keyed (b.mergeAttributes inside attributes) ↔ Keyed b :=
  keyed_onStack fun s => s.keys_mapElement _ fun _ => rfl

@[simp] theorem keyed_pushFormat (key : ℕ) (t : Tag) : Keyed (b.pushFormat key t) ↔ Keyed b :=
  Iff.rfl

@[simp] theorem keyed_openFormat (t : Tag) : Keyed (b.openFormat t) ↔ Keyed b := by
  simp [openFormat]

@[simp] theorem keyed_clearFormats : Keyed b.clearFormats ↔ Keyed b := Iff.rfl

@[simp] theorem keyed_dropFormat (key : ℕ) : Keyed (b.dropFormat key) ↔ Keyed b := Iff.rfl

/-- A fold keeps this when every step does. -/
theorem keyed_foldl {α : Type} {f : Builder → α → Builder} (hf : ∀ b a, Keyed (f b a) ↔ Keyed b)
    (as : List α) : Keyed (as.foldl f b) ↔ Keyed b := by
  induction as generalizing b with
  | nil => rfl
  | cons a as ih => rw [List.foldl_cons, ih, hf]

@[simp] theorem keyed_reconstruct : Keyed b.reconstruct ↔ Keyed b := by
  refine keyed_foldl (fun b entry => ?_) _
  obtain ⟨_ | ⟨key, t⟩, i⟩ := entry
  · rfl
  · exact keyed_openHtml t

/-! ## Misnested formatting -/

@[simp] theorem keyed_endOrdinary (name : String) : Keyed (b.endOrdinary name) ↔ Keyed b := by
  rw [endOrdinary]
  cases b.stack.elements.find? fun e => e.isHtml [name] || e.isSpecial <;> simp

/-- The copies are new elements, and nothing else changes. -/
theorem copyBetween_keys (between : List Frame) (count : ℕ) (copies : List Frame) (b : Builder) :
    let after := copyBetween count between copies b
    after.2.stack = b.stack ∧ after.2.detached = b.detached ∧
      ∀ ks, (after.1.map Frame.keys).sum + ks ≤ Multiset.range after.2.made ↔
        (copies.map Frame.keys).sum + ks ≤ Multiset.range b.made := by
  fun_induction copyBetween count between copies b with
  | case1 =>
    refine ⟨rfl, rfl, fun ks => ?_⟩
    rw [List.map_reverse, List.sum_reverse]
  | case2 _ _ _ _ _ _ ih => exact ih
  | case3 _ _ _ _ _ _ _ _ ih => exact ih
  | case4 _ _ _ _ _ _ _ _ _ _ ih => exact ih
  | case5 _ _ _ _ _ _ _ _ _ _ _ _ _ e _ ih =>
    obtain ⟨hstack, hdetached, hkeys⟩ := ih
    refine ⟨hstack, hdetached, fun ks => (hkeys ks).trans ?_⟩
    rw [List.map_cons, List.sum_cons, Multiset.range_succ, Frame.keys]
    simp [e, Multiset.cons_le_cons_iff]
  | case6 _ _ _ _ _ _ _ _ _ _ _ ih => exact ih

/-- One round moves elements and makes new ones. -/
theorem keyed_adoptionRound (name : String) : Keyed (adoptionRound name b).2 ↔ Keyed b := by
  rw [adoptionRound]
  dsimp only
  split
  · rename_i key tag _
    cases b.stack.depth? fun e => e.key = key with
    | none => exact keyed_dropFormat key
    | some depth =>
      dsimp only
      split_ifs
      · rfl
      · split
        · exact (keyed_dropFormat key).trans (keyed_onStack fun s => s.keys_popThrough depth)
        · next block at_ hblock =>
          have hat : b.stack.frames[at_]? = some block := by
            obtain ⟨hmem, -⟩ := List.mem_filter.1 (List.mem_of_getLast? hblock)
            have htake := List.mem_zipIdx_iff_getElem?.1 hmem
            rw [List.getElem?_take] at htake
            split_ifs at htake
            exact htake
          obtain ⟨-, hdetached, hcopies⟩ := copyBetween_keys
            ((b.stack.frames.take depth).drop (at_ + 1)) 0 [] b
          rw [keyed_mk, KeyedParts, hdetached, Multiset.range_succ,
            Stack.keys_lift hat (Stack.keys_closeMany ..) (sum_keys_dropLast_append ?_ _),
            Multiset.cons_add, add_assoc, Multiset.cons_le_cons_iff, hcopies, List.map_nil,
            List.sum_nil, zero_add]
          · rfl
          · exact fun _ => rfl
  · exact keyed_endOrdinary name

theorem keyed_adoptionRounds (name : String) (n : ℕ) :
    Keyed (adoptionRounds name n b) ↔ Keyed b := by
  induction n generalizing b with
  | zero => rfl
  | succ n ih =>
    have hround := keyed_adoptionRound (b := b) name
    rw [adoptionRounds]
    split
    · rename_i heq
      rw [heq] at hround
      exact ih.trans hround
    · rename_i heq
      rwa [heq] at hround

@[simp] theorem keyed_endFormat (name : String) : Keyed (b.endFormat name) ↔ Keyed b := by
  rw [endFormat]
  split_ifs
  · exact keyed_pop
  · exact keyed_adoptionRounds name 8

@[simp] theorem keyed_endLink : Keyed b.endLink ↔ Keyed b := by
  rw [endLink]
  split
  · simp
  · rfl

end Changes

/-! ## Modes -/

section Modes

variable {b : Builder}

@[simp] theorem builder_done : (Outcome.done b).builder = b := rfl

@[simp] theorem builder_again : (Outcome.again b).builder = b := rfl

@[simp] theorem keyed_builder_ite {p : Prop} [Decidable p] {o c : Outcome} :
    Keyed (if p then o else c).builder ↔ if p then Keyed o.builder else Keyed c.builder := by
  split_ifs <;> rfl

@[simp] theorem keyed_resetMode : Keyed b.resetMode ↔ Keyed b := Iff.rfl

@[simp] theorem keyed_endTemplate : Keyed b.endTemplate ↔ Keyed b := keyed_popUntil _

@[simp] theorem keyed_startRoot (t : Tag) : Keyed (b.startRoot t) ↔ Keyed b := by
  simp [startRoot]

@[simp] theorem keyed_inHead (k : Token) : Keyed (b.inHead k).builder ↔ Keyed b := by
  cases k <;> simp [inHead]

@[simp] theorem keyed_headToken (k : Token) : Keyed (b.headToken k) ↔ Keyed b := keyed_inHead k

@[simp] theorem keyed_inTemplateEnd : Keyed b.inTemplateEnd.builder ↔ Keyed b := by
  simp [inTemplateEnd]

@[simp] theorem keyed_openBlock (t : Tag) : Keyed (b.openBlock t) ↔ Keyed b := by
  simp [openBlock]

@[simp] theorem keyed_openItem (t : Tag) (names : List String) :
    Keyed (b.openItem t names) ↔ Keyed b := by
  rw [openItem]
  dsimp only
  cases endedItem? names b.stack.elements <;> simp

@[simp] theorem keyed_closeInScope (bounds : Element → Bool) (names : List String)
    (except : Option String) : Keyed (b.closeInScope bounds names except) ↔ Keyed b := by
  simp [closeInScope]

@[simp] theorem keyed_openForeign (space : Space) (t : Tag) :
    Keyed (b.openForeign space t) ↔ Keyed b := by
  simp [openForeign]

@[simp] theorem keyed_startInBody (t : Tag) : Keyed (b.startInBody t) ↔ Keyed b := by
  simp [startInBody]

@[simp] theorem keyed_endForm : Keyed b.endForm ↔ Keyed b := by
  rw [endForm]
  cases b.formKey <;> simp

@[simp] theorem keyed_endInBody (name : String) : Keyed (b.endInBody name).builder ↔ Keyed b := by
  simp [endInBody]

@[simp] theorem keyed_inBody (k : Token) : Keyed (b.inBody k).builder ↔ Keyed b := by
  cases k <;> simp [inBody]

@[simp] theorem keyed_initial (k : Token) : Keyed (b.initial k).builder ↔ Keyed b := by
  cases k <;> simp [initial]

@[simp] theorem keyed_beforeHtml (k : Token) : Keyed (b.beforeHtml k).builder ↔ Keyed b := by
  cases k <;> simp [beforeHtml]

@[simp] theorem keyed_beforeHead (k : Token) : Keyed (b.beforeHead k).builder ↔ Keyed b := by
  cases k <;> simp [beforeHead]

@[simp] theorem keyed_afterHead (k : Token) : Keyed (b.afterHead k).builder ↔ Keyed b := by
  cases k with
  | startTag t =>
    rw [afterHead]
    cases b.headKey <;> simp
  | _ => simp [afterHead]

@[simp] theorem keyed_inText (k : Token) : Keyed (b.inText k).builder ↔ Keyed b := by
  cases k <;> simp [inText]

@[simp] theorem keyed_fosterToken (k : Token) : Keyed (b.fosterToken k).builder ↔ Keyed b := by
  have hbody := keyed_inBody (b := { b with fostering := true }) k
  rw [fosterToken]
  split
  all_goals
    rename_i heq
    rwa [heq] at hbody

@[simp] theorem keyed_inTable (k : Token) : Keyed (b.inTable k).builder ↔ Keyed b := by
  cases k <;> simp [inTable]

@[simp] theorem keyed_inTableText (k : Token) : Keyed (b.inTableText k).builder ↔ Keyed b := by
  have htexts (b : Builder) (runs : List (List Char)) : Keyed (runs.foldl addText b) ↔ Keyed b :=
    keyed_foldl (fun b cs => keyed_addText cs) runs
  have hfoster (b : Builder) (runs : List (List Char)) :
      Keyed (runs.foldl (fun b cs => (b.fosterToken (.text cs)).builder) b) ↔ Keyed b :=
    keyed_foldl (fun b cs => keyed_fosterToken (.text cs)) runs
  cases k <;> simp [inTableText, htexts, hfoster, -List.foldl_reverse]

@[simp] theorem keyed_inCaption (k : Token) : Keyed (b.inCaption k).builder ↔ Keyed b := by
  cases k <;> simp [inCaption]

@[simp] theorem keyed_inColumnGroup (k : Token) : Keyed (b.inColumnGroup k).builder ↔ Keyed b := by
  cases k <;> simp [inColumnGroup]

@[simp] theorem keyed_inTableBody (k : Token) : Keyed (b.inTableBody k).builder ↔ Keyed b := by
  cases k <;> simp [inTableBody]

@[simp] theorem keyed_inRow (k : Token) : Keyed (b.inRow k).builder ↔ Keyed b := by
  cases k <;> simp [inRow]

@[simp] theorem keyed_closeCell : Keyed b.closeCell ↔ Keyed b := by
  simp [closeCell]

@[simp] theorem keyed_inCell (k : Token) : Keyed (b.inCell k).builder ↔ Keyed b := by
  cases k <;> simp [inCell]

@[simp] theorem keyed_inSelect (k : Token) : Keyed (b.inSelect k).builder ↔ Keyed b := by
  cases k <;> simp [inSelect]

@[simp] theorem keyed_inSelectInTable (k : Token) :
    Keyed (b.inSelectInTable k).builder ↔ Keyed b := by
  cases k <;> simp [inSelectInTable]

@[simp] theorem keyed_inTemplate (k : Token) : Keyed (b.inTemplate k).builder ↔ Keyed b := by
  cases k <;> simp [inTemplate]

@[simp] theorem keyed_afterBody (k : Token) : Keyed (b.afterBody k).builder ↔ Keyed b := by
  cases k <;> simp [afterBody]

@[simp] theorem keyed_addSpaceOnly (cs : List Char) : Keyed (b.addSpaceOnly cs) ↔ Keyed b := by
  simp [addSpaceOnly]

@[simp] theorem keyed_inFrameset (k : Token) : Keyed (b.inFrameset k).builder ↔ Keyed b := by
  cases k <;> simp [inFrameset]

@[simp] theorem keyed_afterFrameset (k : Token) : Keyed (b.afterFrameset k).builder ↔ Keyed b := by
  cases k <;> simp [afterFrameset]

@[simp] theorem keyed_afterAfterBody (k : Token) :
    Keyed (b.afterAfterBody k).builder ↔ Keyed b := by
  cases k <;> simp [afterAfterBody]

@[simp] theorem keyed_afterAfterFrameset (k : Token) :
    Keyed (b.afterAfterFrameset k).builder ↔ Keyed b := by
  cases k <;> simp [afterAfterFrameset]

/-- **A token in any mode** keeps the keys apart. -/
@[simp] theorem keyed_inMode (k : Token) : Keyed (b.inMode k).builder ↔ Keyed b := by
  rw [inMode]
  cases b.mode <;> simp

@[simp] theorem keyed_leaveForeign : Keyed b.leaveForeign ↔ Keyed b := by
  simp [leaveForeign]

/-- **A token outside HTML** keeps the keys apart. -/
@[simp] theorem keyed_inForeign (k : Token) : Keyed (b.inForeign k).builder ↔ Keyed b := by
  cases k with
  | endTag name =>
    rw [inForeign]
    rcases foreignEnd? name b.stack.elements with _ | _ | e <;> simp
  | _ => simp [inForeign]

end Modes

/-! ## Texts -/

section Texts

variable {b : Builder}

theorem keyed_take (n : ℕ) (k : Token) : Keyed (take n k b) ↔ Keyed b := by
  induction n generalizing b with
  | zero => rfl
  | succ n ih =>
    have hstep : Keyed (if b.isForeign k then b.inForeign k else b.inMode k).builder ↔ Keyed b := by
      simp
    rw [take]
    split
    · rename_i heq
      rwa [heq] at hstep
    · rename_i heq
      rw [heq] at hstep
      exact ih.trans hstep

theorem keyed_takeToken (k : Token) : Keyed (b.takeToken k) ↔ Keyed b := keyed_take ..

theorem keyed_takeAny (k : Token) : Keyed (b.takeAny k) ↔ Keyed b := by
  unfold takeAny
  split
  · rfl
  · exact keyed_foldl (fun b run => keyed_takeToken (.text run)) _
  · exact keyed_takeToken k

theorem keyed_build (fuel : ℕ) (cs : List Char) : Keyed (build fuel cs b) ↔ Keyed b := by
  induction fuel generalizing cs b with
  | zero => rfl
  | succ fuel ih =>
    rw [build]
    split
    · exact (ih _).trans (keyed_takeAny _)
    · rfl

/-- A page that was read keeps its keys apart. -/
theorem keyed_ofText (text : String) : Keyed (ofText text) := by
  rw [ofText, keyed_takeToken, keyed_build]
  simp [KeyedParts, Stack.keys]

/-- **The elements of a page that was read**, on the page and off it, have different keys. -/
theorem nodup_keysOf_ofText (text : String) :
    (keysOf (ofText text).stack.finish ++ keysOf (ofText text).detached).Nodup := by
  rw [← Multiset.coe_nodup, ← Multiset.coe_add, Stack.keysOf_finish]
  exact Multiset.nodup_of_le (keyed_ofText text).1 (Multiset.nodup_range _)

end Texts

end PageGuard.Markup.Builder
