import PageGuard.Proofs.Page.Probes
import PageGuard.Selector.Evaluation

/-!
# Evaluating leaves a document as it was

A chain without acting stages only reads: on documents that are the same it gives the same answer,
and the document after it is the same as the document before, whether it succeeds or fails.

* `Visit.ReadsAt`: a computation that only reads, with `ReadsAt.bind` for its steps.
* `Stage.narrow_sublist`: a later stage keeps some of its elements, in their order.
* `evaluate_readsAt`: a chain that does not act only reads.
-/

namespace PageGuard

/-! ## Computations on documents -/

namespace Visit

variable {D α β : Type}

/-- A computation goes on with its answer on the document after it, or ends with its error. -/
theorem bind_apply (v : Visit D α) (f : α → Visit D β) (d : D) :
    (v >>= f) d =
      match (v d).1 with
      | .ok a => f a (v d).2
      | .error e => (.error e, (v d).2) := by
  change (StateT.bind v (ExceptT.bindCont f)) d = _
  rw [StateT.bind]
  obtain ⟨answer, d'⟩ := v d
  cases answer <;> rfl

/-- A computation that gives a value hands it on with the document after it. -/
theorem bind_ok {x : Visit D α} {f : α → Visit D β} {d d' : D} {a : α} (h : x d = (.ok a, d')) :
    (x >>= f) d = f a d' := by
  rw [bind_apply, h]

/-- What a composed computation gives, its second part gives from an answer of the first. -/
theorem exists_of_bind_eq_ok {v : Visit D α} {f : α → Visit D β} {d : D} {b : β}
    (h : ((v >>= f) d).1 = .ok b) : ∃ a d', (v d).1 = .ok a ∧ (f a d').1 = .ok b := by
  rw [bind_apply] at h
  cases hv : (v d).1 with
  | error e => rw [hv] at h; cases h
  | ok a =>
    rw [hv] at h
    exact ⟨a, _, rfl, h⟩

variable {N : Type} [Document D N] [SteadyDocument D N]

/-- On every document that is the same as `d`, the computation answers as on `d` and leaves a
document that is the same. -/
structure ReadsAt (d : D) (v : Visit D α) : Prop where
  answer : ∀ d', d' ≈ d → (v d').1 = (v d).1
  same : ∀ d', d' ≈ d → (v d').2 ≈ d

namespace ReadsAt

variable {d : D}

theorem pure (a : α) : ReadsAt d (Pure.pure a : Visit D α) where
  answer _ _ := rfl
  same _ h := h

theorem ask {f : D → Except DomError α} (h : ∀ d', d' ≈ d → f d' = f d) :
    ReadsAt d (Visit.ask f) where
  answer := h
  same _ h := h

/-- Steps that only read make up a computation that only reads. -/
theorem bind {v : Visit D α} {f : α → Visit D β} (hv : ReadsAt d v)
    (hf : ∀ a, (v d).1 = .ok a → ReadsAt d (f a)) : ReadsAt d (v >>= f) where
  answer d' h := by
    rw [bind_apply, bind_apply, hv.answer d' h]
    cases ha : (v d).1 with
    | error e => rfl
    | ok a =>
      have hafter := (hf a ha).answer (v d').2 (hv.same d' h)
      exact hafter.trans ((hf a ha).answer (v d).2 (hv.same d (Setoid.refl d))).symm
  same d' h := by
    rw [bind_apply, hv.answer d' h]
    cases ha : (v d).1 with
    | error e => exact hv.same d' h
    | ok a => exact (hf a ha).same (v d').2 (hv.same d' h)

end ReadsAt

end Visit

/-! ## Elements that stages hand on -/

/-- A filter that succeeds asked its test about the first member and went on with the others. -/
theorem exists_of_filterExcept_cons {α ε : Type} {test : α → Except ε Bool} {a : α}
    {rest kept : List α} (h : filterExcept test (a :: rest) = .ok kept) :
    ∃ keep more, test a = .ok keep ∧ filterExcept test rest = .ok more ∧
      kept = if keep then a :: more else more := by
  rw [filterExcept] at h
  cases ha : test a with
  | error e => rw [ha] at h; cases h
  | ok keep =>
    cases hrest : filterExcept test rest with
    | error e => rw [ha, hrest] at h; cases h
    | ok more =>
      rw [ha, hrest] at h
      exact ⟨keep, more, rfl, rfl, (Except.ok.inj h).symm⟩

theorem filterExcept_sublist {α ε : Type} {test : α → Except ε Bool} :
    ∀ {l kept : List α}, filterExcept test l = .ok kept → kept.Sublist l
  | [], _, h => by
    obtain rfl := Except.ok.inj h
    exact .slnil
  | a :: rest, _, h => by
    obtain ⟨keep, more, -, hrest, rfl⟩ := exists_of_filterExcept_cons h
    have hsub := filterExcept_sublist hrest
    cases keep with
    | true => exact hsub.cons_cons a
    | false => exact hsub.cons a

theorem filterExcept_congr {α ε : Type} {test test' : α → Except ε Bool} :
    ∀ {l : List α}, (∀ a ∈ l, test a = test' a) → filterExcept test l = filterExcept test' l
  | [], _ => rfl
  | a :: rest, h => by
    rw [filterExcept, filterExcept, h a (List.mem_cons_self ..),
      filterExcept_congr fun b hb => h b (List.mem_cons_of_mem a hb)]

section Elements

variable {D N : Type} [Document D N] {d : D}

/-- A plain stage hands on its elements, or acts and hands on none. -/
theorem finish_sublist {action : Option Action} {elements kept : List N}
    (h : ((finish action elements : Visit D (List N)) d).1 = .ok kept) : kept.Sublist elements := by
  cases action with
  | none =>
    obtain rfl := Except.ok.inj h
    exact List.Sublist.refl _
  | some a =>
    obtain rfl := Except.ok.inj h
    exact List.nil_sublist _

theorem filterStyle_sublist {filter : String} {elements kept : List N}
    (h : ((filterStyle filter elements : Visit D (List N)) d).1 = .ok kept) :
    kept.Sublist elements := by
  unfold filterStyle at h
  split_ifs at h
  · obtain rfl := Except.ok.inj h
    exact List.nil_sublist _
  · unfold withProbe at h
    split at h
    · cases h
    · exact filterExcept_sublist h

/-- **A later stage keeps some of its elements, in their order.** -/
theorem Stage.narrow_sublist [DecidableEq N] {s : Stage} {elements kept : List N}
    (h : ((s.narrow elements : Visit D (List N)) d).1 = .ok kept) : kept.Sublist elements := by
  cases s with
  | plain target action =>
    rw [narrow] at h
    obtain ⟨hits, _, hhits, h⟩ := Visit.exists_of_bind_eq_ok h
    exact (finish_sublist h).trans (filterExcept_sublist hhits)
  | contains text pattern =>
    rw [narrow] at h
    obtain rfl := Except.ok.inj h
    exact List.filter_sublist
  | has chain =>
    rw [narrow] at h
    obtain ⟨inner, _, -, h⟩ := Visit.exists_of_bind_eq_ok h
    obtain rfl := Except.ok.inj h
    exact List.filter_sublist
  | not chain =>
    rw [narrow] at h
    obtain ⟨excluded, _, -, h⟩ := Visit.exists_of_bind_eq_ok h
    obtain rfl := Except.ok.inj h
    exact List.filter_sublist
  | properties declarations =>
    rw [narrow] at h
    exact filterStyle_sublist h
  | xpath expression =>
    rw [narrow] at h
    obtain rfl := Except.ok.inj h
    exact List.filter_sublist

/-- A target finds elements that the document hands out. -/
theorem Target.offers_of_find {t : Target} {found : List N} (h : t.find d = .ok found) :
    ∀ e ∈ found, Document.Offers d e := by
  intro e he
  cases t with
  | css text =>
    rw [find] at h
    cases hquery : Document.query d text with
    | error _ =>
      rw [hquery] at h
      obtain rfl := Except.ok.inj h
      exact absurd he List.not_mem_nil
    | ok elements =>
      rw [hquery] at h
      obtain rfl := Except.ok.inj h
      exact .query hquery he
  | textMatch pattern =>
    change (Document.allElements d).bind (fun elements =>
      .ok (elements.filter fun e => pattern.isMatch (Document.textOf d e))) = .ok found at h
    cases hall : Document.allElements d with
    | error _ => rw [hall] at h; cases h
    | ok elements =>
      rw [hall] at h
      obtain rfl := Except.ok.inj h
      exact .all hall (List.mem_filter.1 he).1

/-- A first stage finds elements that the document hands out. -/
theorem Stage.offers_of_seed {s : Stage} {elements : List N}
    (h : ((s.seed : Visit D (List N)) d).1 = .ok elements) :
    ∀ e ∈ elements, Document.Offers d e := by
  cases s with
  | plain target action =>
    rw [seed] at h
    obtain ⟨found, _, hfound, h⟩ := Visit.exists_of_bind_eq_ok h
    exact fun e he => Target.offers_of_find hfound e ((finish_sublist h).subset he)
  | xpath expression =>
    rw [seed] at h
    obtain rfl := Except.ok.inj h
    intro e he
    unfold xpathElements at he
    cases hpath : Document.queryXPath d expression with
    | error _ => rw [hpath] at he; exact absurd he List.not_mem_nil
    | ok elements => rw [hpath] at he; exact .xpath hpath he
  | contains text pattern =>
    obtain rfl := Except.ok.inj h
    exact fun e he => absurd he List.not_mem_nil
  | has chain =>
    obtain rfl := Except.ok.inj h
    exact fun e he => absurd he List.not_mem_nil
  | not chain =>
    obtain rfl := Except.ok.inj h
    exact fun e he => absurd he List.not_mem_nil
  | properties declarations =>
    obtain rfl := Except.ok.inj h
    exact fun e he => absurd he List.not_mem_nil

end Elements

/-! ## Answers of documents that are the same -/

section Answers

open SteadyDocument

variable {D N : Type} [Document D N] [SteadyDocument D N] {d d' : D}

theorem xpathElements_congr (h : d' ≈ d) (expression : String) :
    (xpathElements expression d' : List N) = xpathElements expression d := by
  rw [xpathElements, xpathElements, queryXPath_congr h]

theorem Target.find_congr (h : d' ≈ d) (t : Target) :
    (t.find d' : Except DomError (List N)) = t.find d := by
  cases t with
  | css text => rw [find, find, query_congr h]
  | textMatch pattern => simp only [find, allElements_congr h, textOf_congr h]

theorem Target.hits_congr (h : d' ≈ d) (t : Target) : (t.hits d' : N → _) = t.hits d := by
  funext e
  cases t with
  | css text => rw [hits, hits, elementMatches_congr h]
  | textMatch pattern => rw [hits, hits, textOf_congr h]

theorem plainText_congr (h : d' ≈ d) (e : N) : plainText d' e = plainText d e := by
  rw [plainText, plainText, textOf_congr h]

/-- Elements and probes of the same styles compare alike. -/
theorem sameStyle_congr {D N : Type} [Document D N] {d d' : D} {probe probe' e : N}
    (hprobe : ∀ key, Document.computedStyle d probe key = Document.computedStyle d' probe' key)
    (he : ∀ key, Document.computedStyle d e key = Document.computedStyle d' e key) :
    ∀ keys : List String, sameStyle d probe e keys = sameStyle d' probe' e keys
  | [] => rfl
  | key :: keys => by
    rw [sameStyle, sameStyle, sameStyle_congr hprobe he keys, hprobe, he]

/-- Reading with a probe only reads, if it sees no more of the page than the styles of what the
page hands out. -/
theorem withProbe_readsAt {α : Type} (css : String) {f : N → D → Except DomError α}
    (hf : ∀ {probe d₁ probe' d₁'}, Document.LookAlike d probe d₁ probe' d₁' →
      f probe d₁ = f probe' d₁') : Visit.ReadsAt d (withProbe css f) where
  answer d' h := by
    have hprobes := attachProbe_congr (Setoid.symm h) css
    unfold withProbe
    generalize Document.attachProbe d css = attached at hprobes
    generalize Document.attachProbe d' css = attached' at hprobes
    cases hprobes with
    | error e => rfl
    | ok halike => exact (hf halike).symm
  same d' h := by
    unfold withProbe
    split
    · next hattach => exact Setoid.trans (attachProbe_error hattach) h
    · next hattach => exact Setoid.trans (detachProbe_attachProbe hattach) h

/-- A filter of styles only reads. -/
theorem filterStyle_readsAt (filter : String) {elements : List N}
    (h : ∀ e ∈ elements, Document.Offers d e) :
    Visit.ReadsAt d (filterStyle filter elements) := by
  unfold filterStyle
  dsimp only
  split_ifs
  · exact .pure []
  · refine withProbe_readsAt _ fun halike => filterExcept_congr fun e he => ?_
    rw [styleHits, styleHits, halike.html e (h e he),
      sameStyle_congr halike.onProbe (halike.style e (h e he))]

end Answers

/-! ## Chains -/

section Chains

variable {D N : Type} [Document D N] [SteadyDocument D N] {d : D}

theorem Stage.seed_readsAt {s : Stage} (h : s.acts = false) :
    Visit.ReadsAt d (s.seed : Visit D (List N)) := by
  cases s with
  | plain target action =>
    cases action with
    | some a => cases h
    | none =>
      rw [seed]
      exact .bind (.ask fun d' hd => Target.find_congr hd target) fun found _ => .pure found
  | xpath expression =>
    rw [seed]
    exact .ask fun d' hd => congrArg Except.ok (xpathElements_congr hd expression)
  | contains text pattern => exact .pure []
  | has chain => exact .pure []
  | not chain => exact .pure []
  | properties declarations => exact .pure []

variable [DecidableEq N]

mutual

/-- A later stage that does not act only reads. -/
theorem Stage.narrow_readsAt : ∀ {s : Stage}, s.acts = false →
    ∀ {elements : List N}, (∀ e ∈ elements, Document.Offers d e) →
      Visit.ReadsAt d (s.narrow elements)
  | .plain target (some a), h, _, _ => by cases h
  | .plain target none, _, elements, _ => by
    rw [narrow]
    refine .bind (.ask fun d' hd => ?_) fun hits _ => .pure hits
    rw [Target.hits_congr hd]
  | .contains text pattern, _, elements, _ => by
    rw [narrow]
    refine .ask fun d' hd => ?_
    simp only [plainText_congr hd]
  | .has chain, h, elements, _ => by
    rw [narrow]
    refine .bind (Stage.evaluate_readsAt h) fun inner _ => .ask fun d' hd => ?_
    have hholds (e : N) : (Document.holds d' e : N → Bool) = Document.holds d e :=
      funext (SteadyDocument.holds_congr hd e)
    simp only [hholds]
  | .not chain, h, elements, _ => by
    rw [narrow]
    exact .bind (Stage.evaluate_readsAt h) fun excluded _ => .pure _
  | .properties declarations, _, elements, helements => by
    rw [narrow]
    exact filterStyle_readsAt declarations helements
  | .xpath expression, _, elements, _ => by
    rw [narrow]
    refine .ask fun d' hd => ?_
    simp only [xpathElements_congr hd]

/-- Later stages that do not act only read. -/
theorem Stage.narrowAll_readsAt : ∀ {rest : List Stage}, Stage.anyActs rest = false →
    ∀ {elements : List N}, (∀ e ∈ elements, Document.Offers d e) →
      Visit.ReadsAt d (Stage.narrowAll rest elements)
  | [], _, elements, _ => by
    rw [narrowAll]
    exact .pure elements
  | s :: rest, h, elements, helements => by
    obtain ⟨hs, hrest⟩ := Bool.or_eq_false_iff.1 h
    rw [narrowAll]
    split_ifs
    · exact .pure []
    · exact .bind (Stage.narrow_readsAt hs helements) fun kept hkept =>
        Stage.narrowAll_readsAt hrest fun e he => helements e ((narrow_sublist hkept).subset he)

/-- A chain that does not act only reads. -/
theorem Stage.evaluate_readsAt : ∀ {chain : List Stage}, Stage.anyActs chain = false →
    Visit.ReadsAt d (Stage.evaluate chain : Visit D (List N))
  | [], _ => by
    rw [evaluate]
    exact .pure []
  | s :: rest, h => by
    obtain ⟨hs, hrest⟩ := Bool.or_eq_false_iff.1 h
    rw [evaluate]
    exact .bind (Stage.seed_readsAt hs) fun elements helements =>
      Stage.narrowAll_readsAt hrest (Stage.offers_of_seed helements)

end

/-- **A chain that does not act only reads**: the document after it is the same, and on documents
that are the same it gives the same answer. -/
theorem evaluate_readsAt {chain : Chain} (h : Stage.anyActs chain = false) (d : D) :
    Visit.ReadsAt d (evaluate chain : Visit D (List N)) :=
  Stage.evaluate_readsAt h

end Chains

end PageGuard
