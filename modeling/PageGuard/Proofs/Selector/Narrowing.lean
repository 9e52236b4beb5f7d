import PageGuard.Proofs.Selector.Visits

/-!
# Later stages filter element by element

On a chain that does not act every later stage is a filter: it asks each element one question, whose
answer depends on that element and on the document only.  The documents are those on which probes
leave no trace, as pages in memory and pages of a browser are.

* `Stage.keeps`: the question of each kind of stage.
* `Stage.narrow_eq_filterExcept`: a stage narrows by its question; `evaluate_eq_sift` says it for
  chains.
* `evaluate_narrows`: a chain finds those elements of its first stage that every later stage keeps,
  in whatever order the later stages stand, and asks no more when none is left.
-/

namespace PageGuard

open Text

/-! ## Filters whose test may fail -/

section Filters

variable {α ε : Type} {test : α → Except ε Bool} {l : List α}

/-- Whether a test answers, and answers yes. -/
def accepts (test : α → Except ε Bool) (a : α) : Bool :=
  match test a with
  | .ok keep => keep
  | .error _ => false

theorem filterExcept_ok (p : α → Bool) :
    ∀ l : List α, filterExcept (fun a => (.ok (p a) : Except ε Bool)) l = .ok (l.filter p)
  | [] => rfl
  | a :: rest => by
    rw [filterExcept, filterExcept_ok p rest, List.filter_cons]
    rfl

theorem filterExcept_error (e : ε) (h : l ≠ []) :
    filterExcept (fun _ : α => .error e) l = .error e := by
  cases l with
  | nil => exact absurd rfl h
  | cons a rest => rfl

/-- A test that asks one thing first, of all members alike, asks it once. -/
theorem filterExcept_map {β : Type} (answer : Except ε β) (p : β → α → Bool) (h : l ≠ []) :
    filterExcept (fun a => answer.map fun b => p b a) l = answer.map fun b => l.filter (p b) := by
  cases answer with
  | ok b => exact filterExcept_ok (p b) l
  | error e => exact filterExcept_error e h

/-- A filter that succeeds gives what its test accepts. -/
theorem eq_filter_of_filterExcept :
    ∀ {l kept : List α}, filterExcept test l = .ok kept → kept = l.filter (accepts test)
  | [], _, h => (Except.ok.inj h).symm
  | a :: rest, _, h => by
    obtain ⟨keep, more, ha, hrest, rfl⟩ := exists_of_filterExcept_cons h
    have haccepts : accepts test a = keep := by rw [accepts, ha]
    rw [List.filter_cons, haccepts, eq_filter_of_filterExcept hrest]

/-- A filter keeps all of what it kept before. -/
theorem filterExcept_again :
    ∀ {l kept : List α}, filterExcept test l = .ok kept → filterExcept test kept = .ok kept
  | [], _, h => by rw [← Except.ok.inj h]; rfl
  | a :: rest, _, h => by
    obtain ⟨keep, more, ha, hrest, rfl⟩ := exists_of_filterExcept_cons h
    have hmore := filterExcept_again hrest
    cases keep with
    | false => exact hmore
    | true =>
      rw [if_pos rfl, filterExcept, ha, hmore]
      rfl

end Filters

/-- A composed computation answers what its second part answers after its first one. -/
theorem Visit.answer_bind {D α β : Type} (v : Visit D α) (f : α → Visit D β) (d : D) :
    ((v >>= f) d).1 = (v d).1 >>= fun a => (f a (v d).2).1 := by
  rw [bind_apply]
  cases (v d).1 <;> rfl

/-! ## The questions of stages -/

variable {D N : Type} [Document D N] [DecidableEq N]

/-- Whether a later stage keeps an element of a document. -/
def Stage.keeps (s : Stage) (d : D) (e : N) : Except DomError Bool :=
  match s with
  | .plain target _ => target.hits d e
  | .contains _ pattern => .ok (pattern.isMatch (plainText d e))
  | .has chain => (evaluate chain d).1.map fun inner => inner.any (Document.holds d e)
  | .not chain => (evaluate chain d).1.map fun excluded => decide (e ∉ excluded)
  | .properties filter =>
    let filter := trimmed filter
    if filter.isEmpty then .ok false
    else
      match Document.attachProbe d (Style.probeText filter) with
      | (.error e, _) => .error e
      | (.ok probe, d) => styleHits d probe (Style.filterKeys filter) e
  | .xpath expression => .ok (decide (e ∈ (xpathElements expression d : List N)))

/-- What is left of elements when later stages have asked them, one stage after the other. -/
def Stage.sift (d : D) (rest : List Stage) (elements : List N) : Except DomError (List N) :=
  rest.foldlM (fun kept s => filterExcept (s.keeps d) kept) elements

section Sifting

variable {d : D} {rest more : List Stage} {elements kept : List N}

theorem Stage.sift_nil (d : D) (rest : List Stage) : Stage.sift d rest ([] : List N) = .ok [] := by
  induction rest with
  | nil => rfl
  | cons s rest ih => exact ih

theorem Stage.sift_append (d : D) (rest more : List Stage) (elements : List N) :
    Stage.sift d (rest ++ more) elements = Stage.sift d rest elements >>= Stage.sift d more :=
  List.foldlM_append

theorem Stage.sift_singleton (d : D) (s : Stage) (elements : List N) :
    Stage.sift d [s] elements = filterExcept (s.keeps d) elements := by
  rw [sift, List.foldlM_cons]
  exact bind_pure _

/-- What is left in the end is what every stage accepts. -/
theorem Stage.eq_filter_of_sift :
    ∀ {rest : List Stage} {elements kept : List N}, Stage.sift d rest elements = .ok kept →
      kept = elements.filter fun e => rest.all fun s => accepts (s.keeps d) e
  | [], elements, kept, h => by
    rw [← Except.ok.inj h]
    exact (List.filter_eq_self.2 fun _ _ => rfl).symm
  | s :: rest, elements, kept, h => by
    rw [sift, List.foldlM_cons] at h
    cases hs : filterExcept (s.keeps d) elements with
    | error e => rw [hs] at h; cases h
    | ok left =>
      rw [hs] at h
      have hrest : Stage.sift d rest left = .ok kept := h
      rw [eq_filter_of_sift hrest, eq_filter_of_filterExcept hs, List.filter_filter]
      refine List.filter_congr fun e _ => ?_
      rw [List.all_cons, Bool.and_comm]

end Sifting

/-! ## Appended stages -/

/-- A chain does not act when none of its stages does. -/
theorem Stage.anyActs_eq_false_iff {rest : List Stage} :
    Stage.anyActs rest = false ↔ ∀ s ∈ rest, s.acts = false := by
  induction rest with
  | nil => simp [anyActs]
  | cons s rest ih => rw [anyActs, Bool.or_eq_false_iff, ih, List.forall_mem_cons]

/-- Stages that do not act may stand behind a chain that does not. -/
theorem Stage.anyActs_extend {s : Stage} {p more : Chain} (h : Stage.anyActs (s :: p) = false)
    (hmore : ∀ t ∈ more, t.acts = false) : Stage.anyActs (s :: (p ++ more)) = false := by
  rw [← List.cons_append, anyActs_eq_false_iff]
  exact List.forall_mem_append.2 ⟨anyActs_eq_false_iff.1 h, hmore⟩

section Appending

/-- No stage asks anything when no element is left. -/
theorem Stage.narrowAll_nil (rest : List Stage) :
    (Stage.narrowAll rest [] : Visit D (List N)) = pure [] := by
  cases rest <;> simp only [narrowAll, List.isEmpty_nil, if_true]

theorem Stage.narrowAll_append (rest more : List Stage) (elements : List N) :
    (Stage.narrowAll (rest ++ more) elements : Visit D (List N)) =
      Stage.narrowAll rest elements >>= Stage.narrowAll more := by
  induction rest generalizing elements with
  | nil => simp only [List.nil_append, narrowAll, pure_bind]
  | cons s rest ih =>
    simp only [List.cons_append, narrowAll, ih]
    split_ifs
    · rw [pure_bind, narrowAll_nil]
    · rw [bind_assoc]

/-- Stages that stand behind a chain go on with what the chain finds. -/
theorem evaluate_append (s : Stage) (p rest : Chain) (d : D) :
    evaluate (s :: p ++ rest) d =
      ((evaluate (s :: p) : Visit D (List N)) >>= Stage.narrowAll rest) d := by
  change Stage.evaluate (s :: (p ++ rest)) d =
    ((Stage.evaluate (s :: p) : Visit D (List N)) >>= Stage.narrowAll rest) d
  simp only [Stage.evaluate, Stage.narrowAll_append, bind_assoc]

/-- Later stages keep some of their elements, in their order. -/
theorem Stage.narrowAll_sublist : ∀ {rest : List Stage} {d : D} {elements kept : List N},
    ((Stage.narrowAll rest elements : Visit D (List N)) d).1 = .ok kept → kept.Sublist elements
  | [], _, elements, kept, h => by
    rw [narrowAll] at h
    rw [← Except.ok.inj h]
  | s :: rest, _, elements, kept, h => by
    rw [narrowAll] at h
    split_ifs at h
    · rw [← Except.ok.inj h]
      exact List.nil_sublist _
    · obtain ⟨left, _, hleft, hrest⟩ := Visit.exists_of_bind_eq_ok h
      exact (narrowAll_sublist hrest).trans (narrow_sublist hleft)

/-- Appending stages only takes elements away. -/
theorem exists_sublist_of_evaluate_append {s : Stage} {p rest : Chain} {d : D} {found : List N}
    (h : (evaluate (s :: p ++ rest) d).1 = .ok found) :
    ∃ before, (evaluate (s :: p) d).1 = .ok before ∧ found.Sublist before := by
  rw [evaluate_append] at h
  obtain ⟨before, _, hbefore, hfound⟩ := Visit.exists_of_bind_eq_ok h
  exact ⟨before, hbefore, Stage.narrowAll_sublist hfound⟩

/-- Nothing is asked and nothing fails behind a chain that finds no element. -/
theorem evaluate_append_of_nil {s : Stage} {p : Chain} {d : D}
    (h : (evaluate (s :: p) d).1 = .ok ([] : List N)) (rest : Chain) :
    evaluate (s :: p ++ rest) d = evaluate (s :: p) d := by
  rw [evaluate_append, Visit.bind_ok (Prod.ext h rfl), Stage.narrowAll_nil]
  exact Prod.ext h.symm rfl

/-- A chain of one stage is its first stage. -/
theorem evaluate_singleton (s : Stage) (d : D) :
    evaluate [s] d = (s.seed : Visit D (List N)) d := by
  change Stage.evaluate [s] d = _
  simp only [Stage.evaluate, Stage.narrowAll, bind_pure]

end Appending

/-! ## Chains that do not act -/

section Chains

variable [SteadyDocument D N] {d : D}

/-- **A later stage that does not act narrows by asking each element its question.** -/
theorem Stage.narrow_eq_filterExcept {s : Stage} (h : s.acts = false) {elements : List N}
    (hne : elements ≠ []) :
    ((s.narrow elements : Visit D (List N)) d).1 = filterExcept (s.keeps d) elements := by
  cases s with
  | plain target action =>
    cases action with
    | some a => cases h
    | none =>
      rw [narrow, Visit.answer_bind]
      exact bind_pure (filterExcept (target.hits d) elements)
  | contains text pattern =>
    rw [narrow]
    exact (filterExcept_ok _ elements).symm
  | has chain =>
    have hread : Visit.ReadsAt d (Stage.evaluate chain : Visit D (List N)) := evaluate_readsAt h
    have hholds (e : N) := funext (SteadyDocument.holds_congr (hread.same d (Setoid.refl d)) e)
    rw [narrow, Visit.answer_bind]
    simp only [Visit.ask, hholds]
    exact (filterExcept_map _ (fun (inner : List N) e => inner.any (Document.holds d e)) hne).symm
  | not chain =>
    rw [narrow, Visit.answer_bind]
    exact (filterExcept_map _ (fun excluded e => decide (e ∉ excluded)) hne).symm
  | properties declarations =>
    rw [narrow]
    unfold filterStyle keeps
    dsimp only
    split_ifs
    · rw [filterExcept_ok, List.filter_false]
      rfl
    · rw [withProbe]
      obtain ⟨_ | probe, after⟩ := Document.attachProbe d (Style.probeText (trimmed declarations))
      · exact (filterExcept_error _ hne).symm
      · rfl
  | xpath expression =>
    rw [narrow]
    exact (filterExcept_ok _ elements).symm

/-- Later stages that do not act sift the elements, whatever the document went through before. -/
theorem Stage.narrowAll_eq_sift {rest : List Stage} (h : Stage.anyActs rest = false)
    {elements : List N} (helements : ∀ e ∈ elements, Document.Offers d e) :
    ((Stage.narrowAll rest elements : Visit D (List N)) d).1 = Stage.sift d rest elements := by
  induction rest generalizing elements with
  | nil =>
    rw [narrowAll]
    rfl
  | cons s rest ih =>
    obtain ⟨hs, hrest⟩ := Bool.or_eq_false_iff.1 h
    rw [narrowAll]
    split_ifs with hempty
    · rw [List.isEmpty_iff.1 hempty, sift_nil]
      rfl
    · rw [Visit.answer_bind, narrow_eq_filterExcept hs fun hnil => hempty (by simp [hnil]), sift,
        List.foldlM_cons]
      cases hkept : filterExcept (s.keeps d) elements with
      | error e => rfl
      | ok kept =>
        have hoffers : ∀ e ∈ kept, Document.Offers d e := fun e he =>
          helements e ((filterExcept_sublist hkept).subset he)
        -- The rest meets the document after this stage, which is the same as the one before.
        have hsame := (narrow_readsAt hs helements).same d (Setoid.refl d)
        exact ((narrowAll_readsAt hrest hoffers).answer _ hsame).trans (ih hrest hoffers)

/-- **A chain that does not act sifts what its first stage finds.** -/
theorem evaluate_eq_sift {s : Stage} {rest : Chain} (h : Stage.anyActs (s :: rest) = false) :
    (evaluate (s :: rest) d).1 = (evaluate [s] d).1 >>= Stage.sift d rest := by
  obtain ⟨hs, hrest⟩ := Bool.or_eq_false_iff.1 h
  rw [evaluate_singleton, evaluate, Stage.evaluate, Visit.answer_bind]
  cases hfound : ((s.seed : Visit D (List N)) d).1 with
  | error e => rfl
  | ok found =>
    have hoffers := Stage.offers_of_seed hfound
    have hsame := (Stage.seed_readsAt hs).same d (Setoid.refl d)
    exact ((Stage.narrowAll_readsAt hrest hoffers).answer _ hsame).trans
      (Stage.narrowAll_eq_sift hrest hoffers)

/-- What later stages make of the elements that a first stage finds on a document. -/
structure PointwiseFilters (d : D) (s : Stage) (p : Chain) : Prop where
  /-- Each later stage keeps an element or not by a question about that element. -/
  question : ∀ t ∈ p, ∀ elements : List N, elements ≠ [] →
    ((t.narrow elements : Visit D (List N)) d).1 = filterExcept (t.keeps d) elements
  /-- The chain asks its questions about what the first stage finds. -/
  answer : (evaluate (s :: p) d).1 = (evaluate [s] d).1 >>= Stage.sift d p
  /-- It finds what all of them accept, in the order in which the first stage finds it. -/
  found : ∀ found : List N, (evaluate (s :: p) d).1 = .ok found →
    ∃ seeds, (evaluate [s] d).1 = .ok seeds ∧ found.Sublist seeds ∧
      found = seeds.filter fun e => p.all fun t => accepts (t.keeps d) e
  /-- The order of two further stages does not matter. -/
  swap : ∀ f g : Stage, f.acts = false → g.acts = false → ∀ found found' : List N,
    (evaluate (s :: p ++ [f, g]) d).1 = .ok found →
      (evaluate (s :: p ++ [g, f]) d).1 = .ok found' → found = found'
  /-- A stage that stands twice is asked once. -/
  again : ∀ f : Stage, f.acts = false →
    (evaluate (s :: p ++ [f, f]) d).1 = (evaluate (s :: p ++ [f]) d).1
  /-- A further stage, even one that acts, only takes elements away. -/
  fewer : ∀ (t : Stage) (found : List N), (evaluate (s :: p ++ [t]) d).1 = .ok found →
    ∃ before, (evaluate (s :: p) d).1 = .ok before ∧ found.Sublist before
  /-- When no element is left, no further stage fails or changes the document. -/
  ended : (evaluate (s :: p) d).1 = .ok ([] : List N) →
    ∀ rest, evaluate (s :: p ++ rest) d = evaluate (s :: p) d

/-- What a chain that does not act finds, its first stage finds and every later one accepts. -/
theorem exists_filter_of_evaluate {s : Stage} {p : Chain} (h : Stage.anyActs (s :: p) = false)
    {found : List N} (hfound : (evaluate (s :: p) d).1 = .ok found) :
    ∃ seeds, (evaluate [s] d).1 = .ok seeds ∧
      found = seeds.filter fun e => p.all fun t => accepts (t.keeps d) e := by
  rw [evaluate_eq_sift h] at hfound
  cases hseeds : (evaluate [s] d).1 with
  | error e => rw [hseeds] at hfound; cases hfound
  | ok seeds =>
    rw [hseeds] at hfound
    exact ⟨seeds, rfl, Stage.eq_filter_of_sift hfound⟩

/-- A stage that stands twice is asked once: what it kept it keeps again, and what it failed on is
not asked again. -/
theorem evaluate_again {s : Stage} {p : Chain} (h : Stage.anyActs (s :: p) = false) {f : Stage}
    (hf : f.acts = false) :
    (evaluate (s :: p ++ [f, f]) d).1 = (evaluate (s :: p ++ [f]) d).1 := by
  have honce : ∀ t ∈ [f], t.acts = false := by simp [hf]
  have htwice : ∀ t ∈ [f, f], t.acts = false := by simp [hf]
  rw [List.cons_append, List.cons_append, evaluate_eq_sift (Stage.anyActs_extend h htwice),
    evaluate_eq_sift (Stage.anyActs_extend h honce)]
  congr 1
  funext seeds
  rw [Stage.sift_append, Stage.sift_append]
  congr 1
  funext left
  rw [Stage.sift, List.foldlM_cons, Stage.sift_singleton]
  cases hkept : filterExcept (f.keeps d) left with
  | error e => rfl
  | ok kept => exact (Stage.sift_singleton d f kept).trans (filterExcept_again hkept)

/-- **The later stages of a chain that does not act are filters**, each by a question about one
element of the document; so they may be swapped and repeated, and a further one only takes elements
away. -/
theorem evaluate_narrows {s : Stage} {p : Chain} (h : Stage.anyActs (s :: p) = false) (d : D) :
    PointwiseFilters d s p where
  question t ht elements hne :=
    Stage.narrow_eq_filterExcept
      (Stage.anyActs_eq_false_iff.1 h t (List.mem_cons_of_mem s ht)) hne
  answer := evaluate_eq_sift h
  found found hfound := by
    obtain ⟨seeds, hseeds, hfilter⟩ := exists_filter_of_evaluate h hfound
    exact ⟨seeds, hseeds, hfilter ▸ List.filter_sublist, hfilter⟩
  swap f g hf hg found found' hfound hfound' := by
    have hfg : ∀ t ∈ [f, g], t.acts = false := by simp [hf, hg]
    have hgf : ∀ t ∈ [g, f], t.acts = false := by simp [hf, hg]
    obtain ⟨seeds, hseeds, hfilter⟩ :=
      exists_filter_of_evaluate (Stage.anyActs_extend h hfg) hfound
    obtain ⟨seeds', hseeds', hfilter'⟩ :=
      exists_filter_of_evaluate (Stage.anyActs_extend h hgf) hfound'
    obtain rfl := Except.ok.inj (hseeds.symm.trans hseeds')
    rw [hfilter, hfilter']
    refine List.filter_congr fun e _ => ?_
    simp only [List.all_append, List.all_cons, List.all_nil, Bool.and_true]
    rw [Bool.and_comm (accepts (f.keeps d) e)]
  again f hf := evaluate_again h hf
  fewer t found hfound := exists_sublist_of_evaluate_append hfound
  ended hnil rest := evaluate_append_of_nil hnil rest

end Chains

/-- A filter of styles finds the red one of two paragraphs. -/
theorem red_paragraphs_narrowed :
    Stage.anyActs [.xpath "//p", .properties "color: red"] = false ∧
      (evaluate [.xpath "//p"] (MemoryPage.ofText "<p>x</p><p style=\"color: red\">y</p>")).1 =
        .ok [.element 3, .element 4] ∧
      (evaluate [.xpath "//p", .properties "color: red"]
        (MemoryPage.ofText "<p>x</p><p style=\"color: red\">y</p>")).1 = .ok [.element 4] ∧
      PointwiseFilters (MemoryPage.ofText "<p>x</p><p style=\"color: red\">y</p>")
        (.xpath "//p") [.properties "color: red"] :=
  ⟨rfl, by decide +kernel, by decide +kernel, evaluate_narrows rfl _⟩

end PageGuard
