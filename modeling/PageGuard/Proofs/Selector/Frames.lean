import PageGuard.Proofs.Selector.Visits

/-!
# What evaluating leaves alone

A filter of styles attaches a probe in the midst of a chain, and the chain may end at many places
after that: the probe may stop half-way to the page, the probe or a later element may have no style,
a stage behind it may fail, and so may the chain around it.  Wherever it ends, the document after it
stands to the one before in every relation in which a click, a removal and a probe leave it.

* `Visit.Leaves`: a computation that leaves the document in such a relation to the one before,
  whether it succeeds or fails.
* `Document.Frame`: relations that clicks, removals, probes that are taken off again and probes that
  cannot be attached keep to; with `Document.Frame.evaluate` for every chain.
* `Document.AlikeForGood`: documents that no question tells apart, whatever is clicked, removed or
  probed later.
* `MemoryPage.frame_probes`: the probes of a page in memory are in such a relation.
-/

namespace PageGuard

/-- Whatever comes of it, a computation leaves the document in a relation to the one before. -/
def Visit.Leaves {D α : Type} (R : D → D → Prop) (v : Visit D α) : Prop := ∀ d, R (v d).2 d

/-! ## Frames -/

namespace Document

variable {D N : Type} [Document D N]

/-- A relation that a document keeps to the one before when something is clicked or removed that
some document hands out, when a probe is attached and taken off again, and when a probe cannot be
attached. -/
structure Frame (R : D → D → Prop) : Prop where
  refl (d : D) : R d d
  trans {d d' d'' : D} (h : R d d') (h' : R d' d'') : R d d''
  click {d d' : D} {e : N} (h : Offers d' e) : R (click d e) d
  remove {d d' : D} {e : N} (h : Offers d' e) : R (remove d e) d
  probe {d d₁ : D} {css : String} {probe : N} (h : attachProbe d css = (.ok probe, d₁)) :
    R (detachProbe d₁ probe) d
  failed {d d₁ : D} {css : String} {e : DomError} (h : attachProbe d css = (.error e, d₁)) :
    R d₁ d

/-- The elements that were handed out by a document, maybe before some changes. -/
def HandedOut (D : Type) {N : Type} [Document D N] (elements : List N) : Prop :=
  ∀ e ∈ elements, ∃ d : D, Offers d e

theorem HandedOut.sublist {elements kept : List N} (h : HandedOut D elements)
    (hsub : kept.Sublist elements) : HandedOut D kept := fun e he => h e (hsub.subset he)

namespace Frame

variable {R : D → D → Prop}

theorem pure {α : Type} (h : Frame R) (a : α) : Visit.Leaves R (Pure.pure a : Visit D α) := h.refl

theorem ask {α : Type} (h : Frame R) (f : D → Except DomError α) :
    Visit.Leaves R (Visit.ask f) := h.refl

/-- A failure in the first part ends the computation there; its second part goes on from what the
first one left. -/
theorem bind {α β : Type} (h : Frame R) {v : Visit D α} {f : α → Visit D β}
    (hv : Visit.Leaves R v) (hf : ∀ d a, (v d).1 = .ok a → Visit.Leaves R (f a)) :
    Visit.Leaves R (v >>= f) := by
  intro d
  rw [Visit.bind_apply]
  cases ha : (v d).1 with
  | error e => exact hv d
  | ok a => exact h.trans (hf d a ha _) (hv d)

theorem performOn (h : Frame R) (a : Action) (d : D) {e : N} (he : ∃ d' : D, Offers d' e) :
    R (a.performOn d e) d := by
  obtain ⟨d', he⟩ := he
  cases a with
  | click =>
    rw [Action.performOn]
    split_ifs
    · exact h.click he
    · exact h.refl d
  | remove => exact h.remove he

theorem perform (h : Frame R) (a : Action) : ∀ {elements : List N}, HandedOut D elements →
    ∀ d : D, R (a.perform elements d) d
  | [], _, d => h.refl d
  | e :: rest, helements, d => by
    obtain ⟨he, hrest⟩ := List.forall_mem_cons.1 helements
    exact h.trans (h.perform a hrest _) (h.performOn a d he)

theorem finish (h : Frame R) (action : Option Action) {elements : List N}
    (helements : HandedOut D elements) :
    Visit.Leaves R (PageGuard.finish action elements : Visit D (List N)) := by
  cases action with
  | none => exact h.pure elements
  | some a => exact h.bind (fun d => h.perform a helements d) fun _ _ _ => h.pure []

/-- The probe is taken off whatever comes of the reading. -/
theorem withProbe {α : Type} (h : Frame R) (css : String) (f : N → D → Except DomError α) :
    Visit.Leaves R (PageGuard.withProbe css f) := by
  intro d
  unfold PageGuard.withProbe
  split
  · next hattach => exact h.failed hattach
  · next hattach => exact h.probe hattach

theorem filterStyle (h : Frame R) (filter : String) (elements : List N) :
    Visit.Leaves R (PageGuard.filterStyle filter elements : Visit D (List N)) := by
  unfold PageGuard.filterStyle
  dsimp only
  split_ifs
  · exact h.pure []
  · exact h.withProbe _ _

theorem seed (h : Frame R) (s : Stage) : Visit.Leaves R (s.seed : Visit D (List N)) := by
  cases s with
  | plain target action =>
    rw [Stage.seed]
    exact h.bind (h.ask _) fun d found hfound =>
      h.finish action fun e he => ⟨d, Target.offers_of_find hfound e he⟩
  | xpath expression => exact h.ask _
  | contains text pattern => exact h.pure []
  | has chain => exact h.pure []
  | not chain => exact h.pure []
  | properties declarations => exact h.pure []

variable [DecidableEq N]

-- By recursion on the stages.  The elements that a stage meets were handed out by some document,
-- though maybe not by the one at hand: a chain inside may have removed them.
mutual

theorem narrow (h : Frame R) : ∀ (s : Stage) {elements : List N}, HandedOut D elements →
    Visit.Leaves R (s.narrow elements : Visit D (List N))
  | .plain target action, elements, helements => by
    rw [Stage.narrow]
    exact h.bind (h.ask _) fun d hits hhits =>
      h.finish action (helements.sublist (filterExcept_sublist hhits))
  | .contains text pattern, _, _ => by
    rw [Stage.narrow]
    exact h.ask _
  | .has chain, _, _ => by
    rw [Stage.narrow]
    exact h.bind (h.evaluate chain) fun _ _ _ => h.ask _
  | .not chain, _, _ => by
    rw [Stage.narrow]
    exact h.bind (h.evaluate chain) fun _ _ _ => h.pure _
  | .properties declarations, elements, _ => by
    rw [Stage.narrow]
    exact h.filterStyle declarations elements
  | .xpath expression, _, _ => by
    rw [Stage.narrow]
    exact h.ask _

theorem narrowAll (h : Frame R) : ∀ (rest : List Stage) {elements : List N},
    HandedOut D elements → Visit.Leaves R (Stage.narrowAll rest elements : Visit D (List N))
  | [], elements, _ => by
    rw [Stage.narrowAll]
    exact h.pure elements
  | s :: rest, elements, helements => by
    rw [Stage.narrowAll]
    split_ifs
    · exact h.pure []
    · exact h.bind (h.narrow s helements) fun _ _ hkept =>
        h.narrowAll rest (helements.sublist (Stage.narrow_sublist hkept))

/-- **Every chain leaves a document in each relation that clicks, removals and probes keep to.** -/
theorem evaluate (h : Frame R) : ∀ chain : List Stage,
    Visit.Leaves R (Stage.evaluate chain : Visit D (List N))
  | [] => by
    rw [Stage.evaluate]
    exact h.pure []
  | s :: rest => by
    rw [Stage.evaluate]
    exact h.bind (h.seed s) fun d elements helements =>
      h.narrowAll rest fun e he => ⟨d, Stage.offers_of_seed helements e he⟩

end

end Frame

/-! ## What can be seen later -/

/-- Two documents give the same answer to every question. -/
structure AnswersAlike (d d' : D) : Prop where
  query (css : String) : query d css = query d' css
  allElements : allElements d = allElements d'
  elementMatches (e : N) (css : String) : elementMatches d e css = elementMatches d' e css
  textOf (e : N) : textOf d e = textOf d' e
  holds (a e : N) : holds d a e = holds d' a e
  isHtml (e : N) : isHtml d e = isHtml d' e
  queryXPath (expression : String) : queryXPath d expression = queryXPath d' expression
  computedStyle (e : N) (key : String) : computedStyle d e key = computedStyle d' e key

/-- What may happen to a document later. -/
inductive Change (N : Type) where
  | click (e : N)
  | remove (e : N)
  /-- A probe of this style text is attached and taken off again. -/
  | probe (css : String)

/-- The document after a change. -/
def changed (d : D) : Change N → D
  | .click e => click d e
  | .remove e => remove d e
  | .probe css => (PageGuard.withProbe css (fun _ _ => .ok ()) d).2

/-- Two documents give the same answers, now and whatever happens to both later. -/
def AlikeForGood (d d' : D) : Prop :=
  ∀ changes : List (Change N), AnswersAlike (changes.foldl changed d) (changes.foldl changed d')

/-- A probe that comes and goes leaves a steady document the same. -/
theorem changed_probe [SteadyDocument D N] (d : D) (css : String) :
    changed d (.probe css : Change N) ≈ d :=
  (withProbe_readsAt css fun _ => rfl).same d (Setoid.refl d)

/-- Documents that are the same stay the same, if clicks keep them so, and so they give the same
answers for good, if the same ones do. -/
theorem alikeForGood_of_equiv [SteadyDocument D N]
    (hclick : ∀ {d d' : D}, d ≈ d' → ∀ e : N, click d e ≈ click d' e)
    (hanswers : ∀ {d d' : D}, d ≈ d' → AnswersAlike d d') :
    ∀ {d d' : D}, d ≈ d' → AlikeForGood d d' := by
  intro d d' h changes
  induction changes generalizing d d' with
  | nil => exact hanswers h
  | cons change rest ih =>
    refine ih ?_
    cases change with
    | click e => exact hclick h e
    | remove e => exact SteadyDocument.remove_congr h e
    | probe css =>
      exact Setoid.trans (changed_probe d css) (Setoid.trans h (Setoid.symm (changed_probe d' css)))

end Document

/-! ## Pages in memory -/

namespace MemoryPage

theorem probes_removeKey (p : MemoryPage) (key : Nat) : (p.removeKey key).probes = p.probes := by
  unfold removeKey
  split
  · rfl
  · split_ifs
    · rfl
    · split <;> rfl

/-- Clicks and removals leave the probes of a page alone, and every probe goes again. -/
theorem frame_probes : Document.Frame fun p q : MemoryPage => p.probes = q.probes where
  refl _ := rfl
  trans h h' := h.trans h'
  click _ := rfl
  remove {p _ e} _ := by
    cases e with
    | element key => exact p.probes_removeKey key
    | probe k => rfl
  probe h := SameContent.probes (SteadyDocument.detachProbe_attachProbe h)
  failed h := SameContent.probes (SteadyDocument.attachProbe_error h)

namespace SameContent

variable {p q : MemoryPage}

theorem click (h : p.SameContent q) (e : Handle) : (p.click e).SameContent (q.click e) :=
  ⟨h.nodes, h.removed, h.probes, congrArg (· ++ [e]) h.clicks, h.failStyle⟩

theorem answersAlike (h : p.SameContent q) : Document.AnswersAlike p q where
  query := h.query
  allElements := congrArg Except.ok h.allElements
  elementMatches := h.elementMatches
  textOf := h.textOf
  holds := h.holds
  isHtml _ := rfl
  queryXPath := h.queryXPath
  computedStyle := h.computedStyle

theorem alikeForGood (h : p.SameContent q) : Document.AlikeForGood p q :=
  Document.alikeForGood_of_equiv (fun h e => SameContent.click h e)
    (fun h => SameContent.answersAlike h) h

end SameContent

end MemoryPage

end PageGuard
