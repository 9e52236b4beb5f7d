import PageGuard.Page.Memory
import Mathlib.Data.List.Basic

/-!
# Probes leave no trace

A filter of styles puts a probe on a page, compares styles with it and takes it off again.  The
page after that differs from the page before in nothing that can be asked of it: only the number
that the next probe gets is another one.

* `SteadyDocument`: documents with a notion of sameness that answers respect, that a probe which
  cannot be attached keeps and that taking off a probe restores.
* `MemoryPage.SameContent`: what it is for pages in memory.
-/

namespace PageGuard

/-! ## Steady documents -/

namespace Document

variable {D N : Type} [Document D N]

/-- The elements that a document hands out. -/
inductive Offers (d : D) : N → Prop where
  | query {css : String} {elements : List N} {e : N} (h : query d css = .ok elements)
      (he : e ∈ elements) : Offers d e
  | all {elements : List N} {e : N} (h : allElements d = .ok elements) (he : e ∈ elements) :
      Offers d e
  | xpath {expression : String} {elements : List N} {e : N}
      (h : queryXPath d expression = .ok elements) (he : e ∈ elements) : Offers d e

/-- Two probes look alike among what a document hands out: they have the same styles, and so has
every element next to the one and next to the other. -/
structure LookAlike (d : D) (probe : N) (d₁ : D) (probe' : N) (d₁' : D) : Prop where
  onProbe : ∀ key, computedStyle d₁ probe key = computedStyle d₁' probe' key
  html : ∀ e, Offers d e → isHtml d₁ e = isHtml d₁' e
  style : ∀ e, Offers d e → ∀ key, computedStyle d₁ e key = computedStyle d₁' e key

/-- What attaching a probe gives on two documents: the same error, or probes that look alike. -/
inductive ProbesAlike (d : D) : Except DomError N × D → Except DomError N × D → Prop where
  | error (e : DomError) (d₁ d₁' : D) : ProbesAlike d (.error e, d₁) (.error e, d₁')
  | ok {probe probe' : N} {d₁ d₁' : D} (h : LookAlike d probe d₁ probe' d₁') :
      ProbesAlike d (.ok probe, d₁) (.ok probe', d₁')

end Document

/-- Documents on which probes leave no trace.  Documents that are the same (`d ≈ d'`) answer every
question alike, stay the same when the same element is removed from both, and show probes of the
same style alike; a document to which no probe could be attached is the same as it was before, and
so is one from which the probe was taken off. -/
class SteadyDocument (D : Type) (N : outParam Type) [Document D N] extends Setoid D where
  query_congr {d d' : D} (h : d ≈ d') (css : String) :
    Document.query d css = Document.query d' css
  allElements_congr {d d' : D} (h : d ≈ d') : Document.allElements d = Document.allElements d'
  elementMatches_congr {d d' : D} (h : d ≈ d') (e : N) (css : String) :
    Document.elementMatches d e css = Document.elementMatches d' e css
  textOf_congr {d d' : D} (h : d ≈ d') (e : N) : Document.textOf d e = Document.textOf d' e
  holds_congr {d d' : D} (h : d ≈ d') (a e : N) : Document.holds d a e = Document.holds d' a e
  queryXPath_congr {d d' : D} (h : d ≈ d') (expression : String) :
    Document.queryXPath d expression = Document.queryXPath d' expression
  remove_congr {d d' : D} (h : d ≈ d') (e : N) : Document.remove d e ≈ Document.remove d' e
  attachProbe_congr {d d' : D} (h : d ≈ d') (css : String) :
    Document.ProbesAlike d (Document.attachProbe d css) (Document.attachProbe d' css)
  attachProbe_error {d d₁ : D} {css : String} {e : DomError}
    (h : Document.attachProbe d css = (.error e, d₁)) : d₁ ≈ d
  detachProbe_attachProbe {d d₁ : D} {css : String} {probe : N}
    (h : Document.attachProbe d css = (.ok probe, d₁)) : Document.detachProbe d₁ probe ≈ d

/-! ## Pages in memory -/

namespace MemoryPage

/-- Pages with the same content differ at most in probes that are not attached and in the number
that the next probe gets. -/
structure SameContent (p q : MemoryPage) : Prop where
  nodes : p.nodes = q.nodes
  removed : p.removed = q.removed
  probes : p.probes = q.probes
  clicks : p.clicks = q.clicks
  failStyle : p.failStyle = q.failStyle

namespace SameContent

theorem refl (p : MemoryPage) : p.SameContent p := ⟨rfl, rfl, rfl, rfl, rfl⟩

theorem symm {p q : MemoryPage} (h : p.SameContent q) : q.SameContent p :=
  ⟨h.nodes.symm, h.removed.symm, h.probes.symm, h.clicks.symm, h.failStyle.symm⟩

theorem trans {p q r : MemoryPage} (h : p.SameContent q) (h' : q.SameContent r) :
    p.SameContent r :=
  ⟨h.nodes.trans h'.nodes, h.removed.trans h'.removed, h.probes.trans h'.probes,
    h.clicks.trans h'.clicks, h.failStyle.trans h'.failStyle⟩

variable {p q : MemoryPage}

theorem heldPlaces (h : p.SameContent q) : p.heldPlaces = q.heldPlaces := by
  simp only [MemoryPage.heldPlaces, allPlaces, attachedPlaces, removedPlaces, h.nodes, h.removed]

theorem place? (h : p.SameContent q) (key : Nat) : p.place? key = q.place? key := by
  simp only [MemoryPage.place?, attachedPlaces, removedPlaces, h.nodes, h.removed]

theorem node? (h : p.SameContent q) (key : Nat) : p.node? key = q.node? key := by
  rw [MemoryPage.node?, MemoryPage.node?, h.nodes, h.removed]

theorem query (h : p.SameContent q) (css : String) : p.query css = q.query css := by
  simp only [MemoryPage.query, h.heldPlaces]

theorem allElements (h : p.SameContent q) : p.allElements = q.allElements := by
  rw [MemoryPage.allElements, MemoryPage.allElements, elements, elements, h.nodes]

theorem elementMatches (h : p.SameContent q) (e : Handle) (css : String) :
    p.elementMatches e css = q.elementMatches e css := by
  cases e <;> simp only [MemoryPage.elementMatches, h.place?]

theorem textOf (h : p.SameContent q) (e : Handle) : p.textOf e = q.textOf e := by
  cases e <;> simp only [MemoryPage.textOf, h.node?]

theorem holds (h : p.SameContent q) (a e : Handle) : p.holds a e = q.holds a e := by
  simp only [MemoryPage.holds, h.node?]

theorem queryXPath (h : p.SameContent q) (expression : String) :
    p.queryXPath expression = q.queryXPath expression := by
  simp only [MemoryPage.queryXPath, h.nodes]

theorem computedStyle (h : p.SameContent q) (e : Handle) (property : String) :
    p.computedStyle e property = q.computedStyle e property := by
  cases e with
  | element key => simp only [MemoryPage.computedStyle, h.node?, h.failStyle]
  | probe k => simp only [MemoryPage.computedStyle, h.failStyle, h.probes]

theorem remove (h : p.SameContent q) (e : Handle) : (p.remove e).SameContent (q.remove e) := by
  cases e with
  | probe k => exact h
  | element key =>
    rw [MemoryPage.remove, MemoryPage.remove, removeKey, removeKey, h.nodes, h.removed]
    cases Markup.Node.findIn? key q.nodes with
    | some n =>
      exact ⟨rfl, rfl, h.probes, h.clicks, h.failStyle⟩
    | none =>
      dsimp only
      split_ifs
      · exact h
      · cases Markup.Node.findIn? key q.removed with
        | some n => exact ⟨rfl, rfl, h.probes, h.clicks, h.failStyle⟩
        | none => exact h

theorem detachProbe (h : p.SameContent q) (e : Handle) :
    (p.detachProbe e).SameContent (q.detachProbe e) := by
  cases e with
  | element key => exact h
  | probe k =>
    have hprobes : p.probes.filter (fun r => r.1 ≠ k) = q.probes.filter fun r => r.1 ≠ k := by
      rw [h.probes]
    exact ⟨h.nodes, h.removed, hprobes, h.clicks, h.failStyle⟩

end SameContent

/-- A probe that was just attached has the style of its text. -/
theorem computedStyle_attachProbe (p : MemoryPage) (css property : String) :
    (p.attachProbe css).2.computedStyle (p.attachProbe css).1 property =
      if p.failStyle then .error (.style ("lookup of '" ++ property ++ "' disabled"))
      else .ok (Style.computed (Style.declarations css) "section"
        (Text.lowerAscii (Text.trimmed property))) := by
  have hlookup : (p.probes ++ [(p.nextProbe, Style.declarations css)]).lookup p.nextProbe =
      some (Style.declarations css) := by
    have hnew : p.probes.lookup p.nextProbe = none := by
      refine List.lookup_eq_none_iff.2 fun q hq => ?_
      have hlt := p.probes_lt q hq
      simp only [bne_iff_ne, ne_eq]
      omega
    rw [List.lookup_append, hnew]
    simp
  simp only [attachProbe, computedStyle, hlookup]

/-- Taking off a probe that was just attached restores the page. -/
theorem detachProbe_attachProbe (p : MemoryPage) (css : String) :
    ((p.attachProbe css).2.detachProbe (p.attachProbe css).1).SameContent p := by
  refine ⟨rfl, rfl, ?_, rfl, rfl⟩
  have hkept : p.probes.filter (fun q => q.1 ≠ p.nextProbe) = p.probes := by
    refine List.filter_eq_self.2 fun q hq => ?_
    have hlt := p.probes_lt q hq
    simp only [ne_eq, decide_eq_true_eq]
    omega
  simp only [attachProbe, detachProbe, List.filter_append, hkept]
  simp

/-- A page hands out elements, never probes. -/
theorem exists_key_of_offers {p : MemoryPage} {e : Handle} (h : Document.Offers p e) :
    ∃ key, e = .element key := by
  cases h with
  | @query css elements _ h he =>
    change p.query css = .ok elements at h
    rw [MemoryPage.query] at h
    cases hread : readCss css with
    | error _ => rw [hread] at h; cases h
    | ok selectors =>
      rw [hread] at h
      obtain rfl := Except.ok.inj h
      obtain ⟨q, -, rfl⟩ := List.mem_map.1 he
      exact ⟨q.key, rfl⟩
  | @all elements _ h he =>
    obtain rfl := Except.ok.inj h
    obtain ⟨x, -, rfl⟩ := List.mem_map.1 he
    exact ⟨x.key, rfl⟩
  | @xpath expression elements _ h he =>
    change p.queryXPath expression = .ok elements at h
    rw [MemoryPage.queryXPath] at h
    cases hread : XPath.Path.ofText expression with
    | error _ => rw [hread] at h; cases h
    | ok path =>
      rw [hread] at h
      obtain rfl := Except.ok.inj h
      obtain ⟨x, -, rfl⟩ := List.mem_map.1 he
      exact ⟨x.key, rfl⟩

instance : SteadyDocument MemoryPage Handle where
  r := SameContent
  iseqv := ⟨SameContent.refl, SameContent.symm, SameContent.trans⟩
  query_congr h := h.query
  allElements_congr h := congrArg Except.ok h.allElements
  elementMatches_congr h := h.elementMatches
  textOf_congr h := h.textOf
  holds_congr h := h.holds
  queryXPath_congr h := h.queryXPath
  remove_congr h := h.remove
  attachProbe_congr {p q} h css := by
    refine .ok ⟨fun key => ?_, fun _ _ => rfl, fun e he key => ?_⟩
    · have hq := computedStyle_attachProbe q css key
      rw [← h.failStyle] at hq
      exact (computedStyle_attachProbe p css key).trans hq.symm
    · obtain ⟨k, rfl⟩ := exists_key_of_offers he
      exact h.computedStyle (.element k) key
  attachProbe_error h := by cases congrArg Prod.fst h
  detachProbe_attachProbe {p p₁ css probe} h := by
    obtain ⟨hprobe, rfl⟩ := Prod.mk.inj h
    obtain rfl := Except.ok.inj hprobe
    exact p.detachProbe_attachProbe css

end MemoryPage

end PageGuard
