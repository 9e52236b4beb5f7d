import PageGuard.Proofs.Selector.Narrowing

/-!
# What an acting stage does

A plain stage may act on what it matches.  It then hands on nothing, so the stages behind it are not
evaluated, and when a stage before it fails nothing was done yet.

* `Recorded`: a document with a record of what is clicked and removed on it.
* `Stage.evaluate_recorded`: a chain that does not act leaves the record as it was.
* `Stage.evaluate_acting`: a chain with an acting stage is the search with the stages up to it, and
  then the action on what was found.
* `entered`: the stages of a chain that are evaluated.
* `evaluate_acts`: the theorem.
-/

namespace PageGuard

/-! ## Documents with a record -/

/-- A document with what was clicked and removed on it, the first one first. -/
structure Recorded (D N : Type) where
  document : D
  performed : List (Action × N) := []

section Recording

variable {D N α β : Type} [Document D N]

/-- Every call goes to the document, and clicks and removals are put on record. -/
instance : Document (Recorded D N) N where
  query r := Document.query r.document
  allElements r := Document.allElements r.document
  elementMatches r := Document.elementMatches r.document
  textOf r := Document.textOf r.document
  holds r := Document.holds r.document
  isHtml r := Document.isHtml r.document
  queryXPath r := Document.queryXPath r.document
  computedStyle r := Document.computedStyle r.document
  click r e := ⟨Document.click r.document e, r.performed ++ [(.click, e)]⟩
  remove r e := ⟨Document.remove r.document e, r.performed ++ [(.remove, e)]⟩
  attachProbe r css :=
    ((Document.attachProbe r.document css).1,
      { r with document := (Document.attachProbe r.document css).2 })
  detachProbe r e := { r with document := Document.detachProbe r.document e }

/-- A computation on the document, which leaves the record as it is. -/
def Visit.recorded (v : Visit D α) : Visit (Recorded D N) α := fun r =>
  ((v r.document).1, { r with document := (v r.document).2 })

omit [Document D N] in
theorem Visit.recorded_bind (v : Visit D α) (f : α → Visit D β) :
    (v >>= f).recorded = (v.recorded >>= fun a => (f a).recorded : Visit (Recorded D N) β) := by
  funext r
  rw [bind_apply, recorded, bind_apply, recorded]
  cases (v r.document).1 <;> rfl

theorem sameStyle_recorded (r : Recorded D N) (probe e : N) :
    ∀ keys : List String, sameStyle r probe e keys = sameStyle r.document probe e keys
  | [] => rfl
  | key :: keys => by
    rw [sameStyle, sameStyle, sameStyle_recorded r probe e keys]
    rfl

theorem styleHits_recorded (r : Recorded D N) (probe : N) (keys : List String) :
    styleHits r probe keys = styleHits r.document probe keys := by
  funext e
  rw [styleHits, styleHits, sameStyle_recorded]
  rfl

/-- A filter of styles leaves the record as it was. -/
theorem filterStyle_recorded (filter : String) (elements : List N) :
    (filterStyle filter elements : Visit (Recorded D N) (List N)) =
      Visit.recorded (filterStyle filter elements : Visit D (List N)) := by
  unfold filterStyle
  dsimp only
  split_ifs
  · rfl
  · funext r
    simp only [withProbe, Visit.recorded, styleHits_recorded]
    have hattach (css : String) : Document.attachProbe r css =
        ((Document.attachProbe r.document css).1,
          { r with document := (Document.attachProbe r.document css).2 }) := rfl
    rw [hattach]
    obtain ⟨_ | probe, after⟩ :=
      Document.attachProbe r.document (Style.probeText (Text.trimmed filter)) <;> rfl

theorem Stage.seed_recorded {s : Stage} (h : s.acts = false) :
    (s.seed : Visit (Recorded D N) (List N)) = Visit.recorded (s.seed : Visit D (List N)) := by
  cases s with
  | plain target action =>
    cases action with
    | some a => cases h
    | none =>
      rw [seed, seed, Visit.recorded_bind]
      cases target <;> rfl
  | _ => rfl

variable [DecidableEq N]

mutual

/-- A later stage that does not act leaves the record as it was. -/
theorem Stage.narrow_recorded : ∀ {s : Stage}, s.acts = false → ∀ elements : List N,
    (s.narrow elements : Visit (Recorded D N) (List N)) =
      Visit.recorded (s.narrow elements : Visit D (List N))
  | .plain target (some a), h, _ => by cases h
  | .plain target none, _, elements => by
    rw [narrow, narrow, Visit.recorded_bind]
    cases target <;> rfl
  | .contains text pattern, _, elements => by
    rw [narrow, narrow]
    rfl
  | .has chain, h, elements => by
    rw [narrow, narrow, Visit.recorded_bind, Stage.evaluate_recorded h]
    rfl
  | .not chain, h, elements => by
    rw [narrow, narrow, Visit.recorded_bind, Stage.evaluate_recorded h]
    rfl
  | .properties declarations, _, elements => by
    rw [narrow, narrow]
    exact filterStyle_recorded declarations elements
  | .xpath expression, _, elements => by
    rw [narrow, narrow]
    rfl

theorem Stage.narrowAll_recorded : ∀ {rest : List Stage}, Stage.anyActs rest = false →
    ∀ elements : List N, (Stage.narrowAll rest elements : Visit (Recorded D N) (List N)) =
      Visit.recorded (Stage.narrowAll rest elements : Visit D (List N))
  | [], _, elements => by
    rw [narrowAll, narrowAll]
    rfl
  | s :: rest, h, elements => by
    obtain ⟨hs, hrest⟩ := Bool.or_eq_false_iff.1 h
    rw [narrowAll, narrowAll]
    split_ifs
    · rfl
    · rw [Visit.recorded_bind, Stage.narrow_recorded hs]
      exact congrArg _ (funext fun kept => Stage.narrowAll_recorded hrest kept)

/-- **A chain that does not act leaves the record as it was**, and finds on a document with a record
what it finds on the document. -/
theorem Stage.evaluate_recorded : ∀ {chain : List Stage}, Stage.anyActs chain = false →
    (Stage.evaluate chain : Visit (Recorded D N) (List N)) =
      Visit.recorded (Stage.evaluate chain : Visit D (List N))
  | [], _ => by
    rw [evaluate, evaluate]
    rfl
  | s :: rest, h => by
    obtain ⟨hs, hrest⟩ := Bool.or_eq_false_iff.1 h
    rw [evaluate, evaluate, Visit.recorded_bind, Stage.seed_recorded hs]
    exact congrArg _ (funext fun elements => Stage.narrowAll_recorded hrest elements)

end

end Recording

/-! ## What is put on record -/

section Acting

variable {D N : Type} [Document D N]

/-- The elements among some that an action is performed on: every one is removed, and those are
clicked that are elements of HTML when it is their turn. -/
def Action.reaches (a : Action) : List N → D → List N
  | [], _ => []
  | e :: rest, d =>
    let later := a.reaches rest (a.performOn d e)
    if a = .remove ∨ Document.isHtml d e then e :: later else later

/-- Acting on one element puts on record that it was reached. -/
theorem Action.performOn_recorded (a : Action) (r : Recorded D N) (e : N) :
    a.performOn r e = ⟨a.performOn r.document e,
      r.performed ++ if a = .remove ∨ Document.isHtml r.document e then [(a, e)] else []⟩ := by
  cases a with
  | remove => rfl
  | click =>
    have hclick : Action.click.performOn r e = if Document.isHtml r.document e then
        ⟨Document.click r.document e, r.performed ++ [(.click, e)]⟩ else r := rfl
    rw [hclick, performOn]
    cases hhtml : Document.isHtml r.document e with
    | true => rfl
    | false => simp

/-- **What acting puts on record**: each element that the action reaches, once and in its turn. -/
theorem Action.perform_recorded (a : Action) (elements : List N) (r : Recorded D N) :
    a.perform elements r = ⟨a.perform elements r.document,
      r.performed ++ (a.reaches elements r.document).map fun e => (a, e)⟩ := by
  induction elements generalizing r with
  | nil =>
    rw [reaches, List.map_nil, List.append_nil]
    rfl
  | cons e rest ih =>
    change a.perform rest (a.performOn r e) = _
    rw [performOn_recorded, ih, reaches]
    split_ifs
    · rw [List.map_cons, List.append_assoc]
      rfl
    · rw [List.append_nil]
      rfl

/-- Where clicks do not change which elements are of HTML, those are clicked that are of HTML in the
beginning. -/
theorem Action.reaches_eq_filter {a : Action}
    (h : a = .click →
      ∀ (d : D) (e e' : N), Document.isHtml (Document.click d e) e' = Document.isHtml d e')
    (elements : List N) (d : D) :
    a.reaches elements d = elements.filter fun e => a = .remove ∨ Document.isHtml d e := by
  induction elements generalizing d with
  | nil => rfl
  | cons e rest ih =>
    rw [reaches, ih, List.filter_cons]
    cases a with
    | remove => simp
    | click =>
      have hsame (e' : N) :
          Document.isHtml (Action.click.performOn d e) e' = Document.isHtml d e' := by
        rw [performOn]
        split_ifs
        · exact h rfl d e e'
        · rfl
      simp only [hsame, decide_eq_true_eq]

end Acting

/-! ## Chains with an acting stage -/

section Chains

variable {D N : Type} [Document D N]

/-- An acting stage that is handed no element does nothing. -/
theorem finish_nil (a : Action) : (finish (some a) [] : Visit D (List N)) = pure [] := rfl

variable [DecidableEq N]

/-- Behind an acting stage nothing happens. -/
theorem finish_narrowAll (a : Action) (post : List Stage) (elements : List N) :
    (finish (some a) elements >>= Stage.narrowAll post : Visit D (List N)) =
      finish (some a) elements := by
  rw [finish, bind_assoc]
  simp only [pure_bind, Stage.narrowAll_nil]

variable (target : Target) (a : Action) (post : List Stage)

/-- Acting at the end of some stages is acting on what these stages leave. -/
theorem Stage.narrowAll_acting (elements : List N) :
    (Stage.narrowAll (.plain target (some a) :: post) elements : Visit D (List N)) =
      Stage.narrowAll [.plain target none] elements >>= finish (some a) := by
  rw [narrowAll, narrowAll]
  split_ifs
  · rw [pure_bind, finish_nil]
  · simp only [narrowAll, bind_pure, narrow, bind_assoc, finish_narrowAll]
    rfl

/-- **A chain with an acting stage searches with the stages up to it, as if it did not act, and then
acts on what was found.** -/
theorem Stage.evaluate_acting (pre : List Stage) :
    (Stage.evaluate (pre ++ .plain target (some a) :: post) : Visit D (List N)) =
      Stage.evaluate (pre ++ [.plain target none]) >>= finish (some a) := by
  cases pre with
  | nil =>
    simp only [List.nil_append, evaluate, seed, bind_assoc, finish_narrowAll]
    rfl
  | cons s rest =>
    have hacting := funext (narrowAll_acting (D := D) (N := N) target a post)
    simp only [List.cons_append, evaluate, narrowAll_append, hacting, bind_assoc]

/-! ## The stages that are evaluated -/

/-- The later stages that are evaluated on some elements of a document: each one until no element is
left, or until one fails. -/
def Stage.enteredAll : List Stage → List N → D → List Stage
  | [], _, _ => []
  | s :: rest, elements, d =>
    if elements.isEmpty then []
    else s :: match (s.narrow elements : Visit D (List N)) d with
      | (.ok kept, d) => enteredAll rest kept d
      | (.error _, _) => []

/-- The stages of a chain that are evaluated on a document. -/
def entered : Chain → D → List Stage
  | [], _ => []
  | s :: rest, d => s :: match (s.seed : Visit D (List N)) d with
    | (.ok elements, d) => Stage.enteredAll rest elements d
    | (.error _, _) => []

/-- Without the later stages that are not evaluated, the answer and the document are the same. -/
theorem Stage.narrowAll_enteredAll (rest : List Stage) (elements : List N) (d : D) :
    (Stage.narrowAll (Stage.enteredAll rest elements d) elements : Visit D (List N)) d =
      (Stage.narrowAll rest elements : Visit D (List N)) d := by
  induction rest generalizing elements d with
  | nil => rfl
  | cons s rest ih =>
    cases hempty : elements.isEmpty with
    | true => simp only [List.isEmpty_iff.1 hempty, narrowAll_nil]
    | false =>
      simp only [enteredAll, narrowAll, hempty, Bool.false_eq_true, if_false, Visit.bind_apply]
      obtain ⟨answer, d'⟩ := (s.narrow elements : Visit D (List N)) d
      cases answer with
      | error e => rfl
      | ok kept => exact ih kept d'

/-- **Without the stages that are not evaluated, the answer and the document are the same.** -/
theorem evaluate_entered (chain : Chain) (d : D) :
    evaluate (entered chain d) d = evaluate chain d := by
  cases chain with
  | nil => rfl
  | cons s rest =>
    simp only [entered, evaluate, Stage.evaluate, Visit.bind_apply]
    obtain ⟨answer, d'⟩ := (s.seed : Visit D (List N)) d
    cases answer with
    | error e => rfl
    | ok elements => exact Stage.narrowAll_enteredAll rest elements d'

/-- No stage is evaluated when no element is left. -/
theorem Stage.enteredAll_nil (rest : List Stage) (d : D) :
    Stage.enteredAll rest ([] : List N) d = [] := by
  cases rest <;> rfl

omit [DecidableEq N] in
/-- An acting stage hands on nothing. -/
theorem eq_nil_of_finish {v : Visit D (List N)} {a : Action} {d : D} {kept : List N}
    (h : ((v >>= finish (some a)) d).1 = .ok kept) : kept = [] := by
  obtain ⟨elements, d', -, h⟩ := Visit.exists_of_bind_eq_ok h
  exact (Except.ok.inj h).symm

theorem Stage.enteredAll_acting (target : Target) (a : Action) (pre post : List Stage)
    (elements : List N) (d : D) :
    Stage.enteredAll (pre ++ .plain target (some a) :: post) elements d <+:
      pre ++ [.plain target (some a)] := by
  induction pre generalizing elements d with
  | nil =>
    rw [List.nil_append, List.nil_append, enteredAll]
    split_ifs
    · exact List.nil_prefix
    · refine (List.prefix_cons_inj _).2 ?_
      split
      · next kept d' hkept =>
        rw [narrow] at hkept
        rw [List.prefix_nil, eq_nil_of_finish (congrArg Prod.fst hkept), enteredAll_nil]
      · exact List.nil_prefix
  | cons s pre ih =>
    rw [List.cons_append, List.cons_append, enteredAll]
    split_ifs
    · exact List.nil_prefix
    · refine (List.prefix_cons_inj _).2 ?_
      split
      · exact ih _ _
      · exact List.nil_prefix

/-- **No stage behind an acting one is evaluated.** -/
theorem entered_acting (target : Target) (a : Action) (pre post : List Stage) (d : D) :
    entered (pre ++ .plain target (some a) :: post) d <+: pre ++ [.plain target (some a)] := by
  cases pre with
  | nil =>
    rw [List.nil_append, List.nil_append, entered]
    refine (List.prefix_cons_inj _).2 ?_
    split
    · next kept d' hkept =>
      rw [Stage.seed] at hkept
      rw [List.prefix_nil, eq_nil_of_finish (congrArg Prod.fst hkept), Stage.enteredAll_nil]
    · exact List.nil_prefix
  | cons s pre =>
    rw [List.cons_append, List.cons_append, entered]
    refine (List.prefix_cons_inj _).2 ?_
    split
    · exact Stage.enteredAll_acting target a pre post _ _
    · exact List.nil_prefix

/-! ## The theorem -/

/-- What a chain with an acting stage does to a document, next to the search with the stages up to
it, in which that stage does not act. -/
structure ActsOnFound (pre : Chain) (target : Target) (a : Action) (post : Chain) (d : D) :
    Prop where
  /-- The search itself clicks and removes nothing. -/
  search : evaluate (pre ++ [.plain target none]) ({ document := d } : Recorded D N) =
    ((evaluate (pre ++ [.plain target none]) d).1,
      { document := (evaluate (pre ++ [.plain target none]) d).2 })
  /-- When the search fails the chain fails with its error, and nothing is clicked or removed. -/
  failed : ∀ (e : DomError) (after : D),
    evaluate (pre ++ [.plain target none]) d = (.error e, after) →
      evaluate (pre ++ .plain target (some a) :: post) d = (.error e, after) ∧
      evaluate (pre ++ .plain target (some a) :: post) ({ document := d } : Recorded D N) =
        (.error e, { document := after })
  /-- When it finds elements the chain acts on each of them, once and in their order, and on nothing
  else, and finds nothing itself. -/
  acted : ∀ (elements : List N) (after : D),
    evaluate (pre ++ [.plain target none]) d = (.ok elements, after) →
      evaluate (pre ++ .plain target (some a) :: post) d = (.ok [], a.perform elements after) ∧
      evaluate (pre ++ .plain target (some a) :: post) ({ document := d } : Recorded D N) =
        (.ok [], ⟨a.perform elements after, (a.reaches elements after).map fun e => (a, e)⟩)
  /-- It removes all of them, or clicks those of HTML, where clicks do not change which elements are
  of HTML. -/
  reached :
    (a = .click →
      ∀ (d : D) (e e' : N), Document.isHtml (Document.click d e) e' = Document.isHtml d e') →
    ∀ (elements : List N) (after : D),
      a.reaches elements after = elements.filter fun e => a = .remove ∨ Document.isHtml after e
  /-- The answer and the document are those of the stages that are evaluated. -/
  enough : evaluate (entered (pre ++ .plain target (some a) :: post) d) d =
    evaluate (pre ++ .plain target (some a) :: post) d
  /-- The stages behind the acting one are not evaluated. -/
  entered : entered (pre ++ .plain target (some a) :: post) d <+: pre ++ [.plain target (some a)]

/-- **An acting stage acts on what the stages up to it find**, on each element once and in order,
finds nothing itself and ends the chain; when these stages fail nothing is done. -/
theorem evaluate_acts {pre : Chain} (h : Stage.anyActs pre = false) (target : Target) (a : Action)
    (post : Chain) (d : D) : ActsOnFound pre target a post d := by
  have hsearch : Stage.anyActs (pre ++ [.plain target none]) = false := by
    rw [Stage.anyActs_eq_false_iff, List.forall_mem_append] at *
    exact ⟨h, by simp [Stage.acts]⟩
  have hchain (D : Type) [Document D N] (d : D) :
      evaluate (pre ++ .plain target (some a) :: post) d =
        (Stage.evaluate (pre ++ [.plain target none]) >>= finish (some a) : Visit D (List N)) d :=
    congrFun (Stage.evaluate_acting target a post pre) d
  have hrecorded (d : D) :
      evaluate (pre ++ [.plain target none]) ({ document := d } : Recorded D N) =
        ((evaluate (pre ++ [.plain target none]) d).1,
          { document := (evaluate (pre ++ [.plain target none]) d).2 }) :=
    congrFun (Stage.evaluate_recorded hsearch) _
  refine ⟨hrecorded d, fun e after hfails => ?_, fun elements after hfinds => ?_,
    fun hclick elements after => Action.reaches_eq_filter hclick elements after,
    evaluate_entered _ d, entered_acting target a pre post d⟩
  · constructor
    · rw [hchain, Visit.bind_apply]
      simp only [evaluate] at hfails
      rw [hfails]
    · have hr := hrecorded d
      rw [hfails] at hr
      rw [hchain, Visit.bind_apply]
      simp only [evaluate] at hr
      rw [hr]
  · constructor
    · rw [hchain]
      exact Visit.bind_ok hfinds
    · have hr := hrecorded d
      rw [hfinds] at hr
      rw [hchain]
      refine (Visit.bind_ok hr).trans ?_
      change ((.ok [], a.perform elements ({ document := after } : Recorded D N)) :
        Except DomError (List N) × Recorded D N) = _
      rw [Action.perform_recorded, List.nil_append]

end Chains

/-- Of two paragraphs the red one is removed, and the stage behind is not evaluated. -/
theorem red_paragraph_removed :
    Stage.anyActs [.xpath "//p", .properties "color: red"] = false ∧
      (evaluate [.xpath "//p", .properties "color: red", .plain (.css "p") none]
        (MemoryPage.ofText "<p>x</p><p style=\"color: red\">y</p>")).1 = .ok [.element 4] ∧
      ActsOnFound [.xpath "//p", .properties "color: red"] (.css "p") .remove [.css "b"]
        (MemoryPage.ofText "<p>x</p><p style=\"color: red\">y</p>") :=
  ⟨rfl, by decide +kernel, evaluate_acts rfl (.css "p") .remove [.css "b"] _⟩

end PageGuard
