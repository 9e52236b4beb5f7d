import PageGuard.Browser.Page
import PageGuard.Proofs.Selector.Frames

/-!
# Pages with faults as documents

What a page with faults hands out is on the page in memory behind it, and a probe goes onto that
page in four steps, of which the first three leave nothing on it that can be seen.  So a probe that
stops half-way leaves the page with the content it had, and one that arrives is a probe of the page
in memory.

* `BrowserPage.SameContent`: pages with the same content and the same faults.
* `BrowserPage.offers_page`: what is handed out is on the page in memory.
* `BrowserPage.exists_attachProbe_eq`: how attaching a probe ends, and what it leaves.
* `BrowserPage.sameContent_of_attachProbe_error`: whichever call throws, the content and the probes
  are as they were.
* The instance of `SteadyDocument`, and `BrowserPage.SameContent.alikeForGood`.
-/

namespace PageGuard

/-- A probe that is made, gets its style text and is put on a page stands there as one that is
attached at once. -/
theorem MemoryPage.sameContent_putProbe (p : MemoryPage) (css : String) :
    ((p.makeProbe.2.styleProbe p.nextProbe css).putProbe p.nextProbe).SameContent
      (p.attachProbe css).2 := by
  have hlookup : (p.makeProbe.2.styleProbe p.nextProbe css).loose.lookup p.nextProbe =
      some css := List.lookup_cons_self
  rw [putProbe, hlookup]
  exact ⟨rfl, rfl, rfl, rfl, rfl⟩

namespace Browser

/-- An XPath that leads somewhere leads to elements among the nodes of a snapshot. -/
theorem WebPage.exists_of_queryXPath {W N : Type} [WebPage W N] {w : W} {expression : String}
    {elements : List N} (h : WebPage.queryXPath w expression = .ok elements) :
    ∃ snapshot length, WebPage.evaluate w expression = .ok snapshot ∧
      WebPage.itemsAt w snapshot (List.range length) = .ok elements := by
  rw [queryXPath] at h
  cases hsnapshot : WebPage.evaluate w expression with
  | error v => rw [hsnapshot] at h; cases h
  | ok snapshot =>
    rw [hsnapshot] at h
    change (WebPage.snapshotLength w snapshot >>= fun length =>
      WebPage.itemsAt w snapshot (List.range length)).mapError _ = _ at h
    cases hlength : WebPage.snapshotLength w snapshot with
    | error v => rw [hlength] at h; cases h
    | ok length =>
      rw [hlength] at h
      change (WebPage.itemsAt w snapshot (List.range length)).mapError _ = _ at h
      refine ⟨snapshot, length, rfl, ?_⟩
      cases hitems : WebPage.itemsAt w snapshot (List.range length) with
      | error v => rw [hitems] at h; cases h
      | ok items =>
        rw [hitems] at h
        exact congrArg Except.ok (Except.ok.inj h)

namespace BrowserPage

/-- Pages with the same content and the same faults. -/
structure SameContent (p q : BrowserPage) : Prop where
  page : p.page.SameContent q.page
  faults : p.faults = q.faults

namespace SameContent

variable {p q r : BrowserPage}

theorem refl (p : BrowserPage) : p.SameContent p := ⟨.refl p.page, rfl⟩

theorem symm (h : p.SameContent q) : q.SameContent p := ⟨h.page.symm, h.faults.symm⟩

theorem trans (h : p.SameContent q) (h' : q.SameContent r) : p.SameContent r :=
  ⟨h.page.trans h'.page, h.faults.trans h'.faults⟩

theorem guardCall (h : p.SameContent q) (call : PageCall) :
    p.guardCall call = q.guardCall call := by
  rw [BrowserPage.guardCall, BrowserPage.guardCall, h.faults]

theorem isHtml (h : p.SameContent q) (e : Handle) : p.isHtml e = q.isHtml e := by
  cases e with
  | probe k => rfl
  | element key => rw [BrowserPage.isHtml, BrowserPage.isHtml, h.page.node?]

theorem query (h : p.SameContent q) (css : String) :
    Document.query p css = Document.query q css := by
  simp only [Document.query, WebPage.query, WebPage.querySelectorAll, h.guardCall, h.page.query]

theorem elementMatches (h : p.SameContent q) (e : Handle) (css : String) :
    Document.elementMatches p e css = Document.elementMatches q e css := by
  simp only [Document.elementMatches, WebPage.elementMatches, h.guardCall, h.page.elementMatches]

theorem textOf (h : p.SameContent q) (e : Handle) : Document.textOf p e = Document.textOf q e := by
  simp only [Document.textOf, WebPage.textContent?, h.faults, h.page.textOf]

theorem itemsAt (h : p.SameContent q) (snapshot : WebPage.Snapshot BrowserPage) (l : List ℕ) :
    WebPage.itemsAt p snapshot l = WebPage.itemsAt q snapshot l := by
  induction l with
  | nil => rfl
  | cons i rest ih => simp only [WebPage.itemsAt, ih, WebPage.snapshotItem, h.guardCall]

theorem queryXPath (h : p.SameContent q) (expression : String) :
    Document.queryXPath p expression = Document.queryXPath q expression := by
  simp only [Document.queryXPath, WebPage.queryXPath, WebPage.evaluate, WebPage.snapshotLength,
    h.guardCall, h.page.queryXPath, h.faults, h.itemsAt]

theorem remove (h : p.SameContent q) (e : Handle) :
    (Document.remove p e : BrowserPage).SameContent (Document.remove q e) :=
  ⟨(h.page.remove e).detachProbe e, h.faults⟩

theorem click (h : p.SameContent q) (e : Handle) :
    (Document.click p e : BrowserPage).SameContent (Document.click q e) := by
  change (if p.isHtml e then { p with page := p.page.click e } else p : BrowserPage).SameContent
    (if q.isHtml e then { q with page := q.page.click e } else q)
  rw [h.isHtml e]
  split_ifs
  · exact ⟨h.page.click e, h.faults⟩
  · exact h

end SameContent

/-- What looks alike on two pages in memory looks alike on pages with the same faults. -/
theorem computedStyle_congr {p q : BrowserPage} (hfaults : p.faults = q.faults) {e e' : Handle}
    (hstyle : ∀ property, p.page.computedStyle e property = q.page.computedStyle e' property)
    (property : String) :
    Document.computedStyle p e property = Document.computedStyle q e' property := by
  have hguard (call : PageCall) : p.guardCall call = q.guardCall call := by
    rw [guardCall, guardCall, hfaults]
  have hvalue (property : String) :
      (WebPage.getPropertyValue p e property : Except ScriptValue String) =
        WebPage.getPropertyValue q e' property := by
    simp only [WebPage.getPropertyValue, hguard, hstyle]
  change WebPage.computedStyle p e property = WebPage.computedStyle q e' property
  rw [WebPage.computedStyle, WebPage.computedStyle]
  cases hthrows : q.guardCall .getComputedStyle with
  | error v =>
    have hp : WebPage.getComputedStyle p e = .error v := by
      simp only [WebPage.getComputedStyle, hguard, hthrows]
      rfl
    have hq : WebPage.getComputedStyle q e' = .error v := by
      simp only [WebPage.getComputedStyle, hthrows]
      rfl
    rw [hp, hq]
  | ok _ =>
    have hp : WebPage.getComputedStyle p e =
        .ok (if q.faults.contains .noStyle then none else some e) := by
      simp only [WebPage.getComputedStyle, hguard, hthrows, hfaults]
      rfl
    have hq : WebPage.getComputedStyle q e' =
        .ok (if q.faults.contains .noStyle then none else some e') := by
      simp only [WebPage.getComputedStyle, hthrows]
      rfl
    rw [hp, hq]
    split_ifs
    · rfl
    · simp only [hvalue]

/-! ## What is handed out -/

/-- What a call that may throw goes on with, it goes on with as it is. -/
theorem eq_ok_of_guardCall {α : Type} {p : BrowserPage} {call : PageCall}
    {rest : Except ScriptValue α} {a : α} (h : (p.guardCall call >>= fun _ => rest) = .ok a) :
    rest = .ok a := by
  cases hguard : p.guardCall call with
  | error v => rw [hguard] at h; cases h
  | ok _ => rw [hguard] at h; exact h

/-- The elements among the nodes of a snapshot are nodes of it. -/
theorem mem_snapshot_of_itemsAt {p : BrowserPage} {snapshot : List (Option Handle)} :
    ∀ {l : List ℕ} {elements : List Handle},
      WebPage.itemsAt (W := BrowserPage) p snapshot l = .ok elements →
        ∀ e ∈ elements, some e ∈ snapshot
  | [], _, h, e, he => by
    obtain rfl := Except.ok.inj h
    exact absurd he List.not_mem_nil
  | i :: rest, elements, h, e, he => by
    rw [WebPage.itemsAt] at h
    cases hnode : WebPage.snapshotItem (W := BrowserPage) p snapshot i with
    | error v => rw [hnode] at h; cases h
    | ok node =>
      cases hlater : WebPage.itemsAt (W := BrowserPage) p snapshot rest with
      | error v => rw [hnode, hlater] at h; cases h
      | ok later =>
        rw [hnode, hlater] at h
        obtain rfl := Except.ok.inj h
        rcases List.mem_append.1 he with he | he
        · obtain rfl : snapshot[i]? = node := Except.ok.inj (eq_ok_of_guardCall hnode)
          obtain ⟨n, hn, hne⟩ := Option.bind_eq_some_iff.1 (Option.mem_toList.1 he)
          obtain rfl : n = some e := hne
          exact List.mem_of_getElem? hn
        · exact mem_snapshot_of_itemsAt hlater e he

/-- A CSS query that does not throw finds what it finds on the page in memory. -/
theorem query_of_ok {p : BrowserPage} (h : p.guardCall .querySelectorAll = .ok ()) (css : String) :
    Document.query p css =
      (p.page.query css).mapError fun _ => .invalidSelector css "SyntaxError" := by
  change WebPage.query p css = _
  rw [WebPage.query]
  cases hfound : p.page.query css with
  | error e =>
    have hnodes : WebPage.querySelectorAll p css = .error (.text "SyntaxError") := by
      simp only [WebPage.querySelectorAll, h, hfound]
      rfl
    rw [hnodes]
    rfl
  | ok found =>
    have hnodes : WebPage.querySelectorAll p css = .ok (found.map some) := by
      simp only [WebPage.querySelectorAll, h, hfound]
      rfl
    have hall : (found.map some).filterMap (WebPage.element? (W := BrowserPage)) = found := by
      rw [List.filterMap_map]
      exact List.filterMap_some
    rw [hnodes]
    exact congrArg Except.ok hall

theorem query_of_error {p : BrowserPage} {v : ScriptValue}
    (h : p.guardCall .querySelectorAll = .error v) (css : String) :
    Document.query p css = .error (.invalidSelector css v.reason) := by
  have hnodes : WebPage.querySelectorAll p css = .error v := by
    simp only [WebPage.querySelectorAll, h]
    rfl
  change WebPage.query p css = _
  rw [WebPage.query, hnodes]

/-- What is handed out is on the page in memory. -/
theorem offers_page {p : BrowserPage} {e : Handle} (h : Document.Offers p e) :
    Document.Offers p.page e := by
  cases h with
  | @query css elements _ h he =>
    cases hguard : p.guardCall .querySelectorAll with
    | error v =>
      rw [query_of_error hguard] at h
      cases h
    | ok _ =>
      rw [query_of_ok hguard] at h
      cases hfound : p.page.query css with
      | error _ => rw [hfound] at h; cases h
      | ok found =>
        rw [hfound] at h
        obtain rfl := Except.ok.inj h
        exact .query hfound he
  | all h he => exact .all h he
  | @xpath expression elements _ h he =>
    obtain ⟨snapshot, length, hsnapshot, hitems⟩ := WebPage.exists_of_queryXPath h
    have hmem := mem_snapshot_of_itemsAt hitems e he
    have hfound := eq_ok_of_guardCall hsnapshot
    cases hpath : p.page.queryXPath expression with
    | error _ => rw [hpath] at hfound; cases hfound
    | ok found =>
      rw [hpath] at hfound
      obtain rfl := Except.ok.inj hfound
      refine .xpath hpath ?_
      rcases List.mem_append.1 hmem with hdocument | hmem
      · split_ifs at hdocument <;> simp at hdocument
      · obtain ⟨x, hx, hxe⟩ := List.mem_map.1 hmem
        exact Option.some.inj hxe ▸ hx

/-! ## Probes -/

/-- Goes on unless a call throws, with the error of a probe that cannot be attached. -/
def guardProbe (p : BrowserPage) (call : PageCall) : Except DomError Unit :=
  (p.guardCall call).mapError fun v => .style v.reason

/-- Whether a probe can be attached, or what stops it. -/
def attachable (p : BrowserPage) : Except DomError Unit := do
  p.guardProbe .createElement
  p.guardProbe .setAttribute
  if p.root?.isNone then .error (.unavailable "document has no root element")
  else p.guardProbe .appendChild

theorem changeUnless_of_error {p : BrowserPage} {call : PageCall} {v : ScriptValue}
    (h : p.guardCall call = .error v) (change : MemoryPage → MemoryPage) :
    p.changeUnless call change = (.error v, p) := by
  rw [changeUnless, h]

theorem changeUnless_of_ok {p : BrowserPage} {call : PageCall} (h : p.guardCall call = .ok ())
    (change : MemoryPage → MemoryPage) :
    p.changeUnless call change = (.ok (), { p with page := change p.page }) := by
  rw [changeUnless, h]

theorem createElement_of_error {p : BrowserPage} {v : ScriptValue}
    (h : p.guardCall .createElement = .error v) (name : String) :
    WebPage.createElement p name = (.error v, p) := by
  simp only [WebPage.createElement, h]

theorem createElement_of_ok {p : BrowserPage} (h : p.guardCall .createElement = .ok ())
    (name : String) :
    WebPage.createElement p name =
      (.ok p.page.makeProbe.1, { p with page := p.page.makeProbe.2 }) := by
  simp only [WebPage.createElement, h]

/-- What comes of attaching a probe: one that is stopped leaves the page with the content that it
had, and one that nothing stops is the probe of the page in memory. -/
theorem exists_attachProbe_eq (p : BrowserPage) (css : String) :
    ∃ p₁ : BrowserPage, p₁.faults = p.faults ∧
      Document.attachProbe p css = (p.attachable.map fun _ => (p.page.attachProbe css).1, p₁) ∧
      (∀ e, p.attachable = .error e → p₁.page.SameContent p.page) ∧
      (p.attachable = .ok () → p₁.page.SameContent (p.page.attachProbe css).2) := by
  let made : BrowserPage := { p with page := p.page.makeProbe.2 }
  let styled : BrowserPage := { p with page := made.page.styleProbe p.page.nextProbe css }
  let put : BrowserPage := { p with page := styled.page.putProbe p.page.nextProbe }
  have hmade : made.page.SameContent p.page := ⟨rfl, rfl, rfl, rfl, rfl⟩
  have hstyled : styled.page.SameContent p.page := ⟨rfl, rfl, rfl, rfl, rfl⟩
  have hput : put.page.SameContent (p.page.attachProbe css).2 := p.page.sameContent_putProbe css
  change ∃ p₁ : BrowserPage, _ ∧ WebPage.attachProbe p css = _ ∧ _
  rw [WebPage.attachProbe, attachable, guardProbe, guardProbe, guardProbe]
  cases hcreate : p.guardCall .createElement with
  | error v =>
    rw [createElement_of_error hcreate]
    exact ⟨p, rfl, rfl, fun _ _ => .refl p.page, nofun⟩
  | ok _ =>
    rw [createElement_of_ok hcreate]
    dsimp only
    cases hset : made.guardCall .setAttribute with
    | error v =>
      have hcall : WebPage.setAttribute made p.page.makeProbe.1 "style" css = (.error v, made) :=
        changeUnless_of_error hset _
      have hset : p.guardCall .setAttribute = .error v := hset
      rw [hcall, hset]
      exact ⟨made, rfl, rfl, fun _ _ => hmade, nofun⟩
    | ok _ =>
      have hcall : WebPage.setAttribute made p.page.makeProbe.1 "style" css = (.ok (), styled) :=
        changeUnless_of_ok hset _
      have hset : p.guardCall .setAttribute = .ok () := hset
      have hroot : WebPage.documentElement? styled = p.root? := rfl
      rw [hcall, hset]
      dsimp only
      rw [hroot]
      cases p.root? with
      | none => exact ⟨styled, rfl, rfl, fun _ _ => hstyled, nofun⟩
      | some root =>
        dsimp only
        cases happend : styled.guardCall .appendChild with
        | error v =>
          have hcall : WebPage.appendChild styled root p.page.makeProbe.1 = (.error v, styled) :=
            changeUnless_of_error happend _
          have happend : p.guardCall .appendChild = .error v := happend
          rw [hcall, happend]
          exact ⟨styled, rfl, rfl, fun _ _ => hstyled, nofun⟩
        | ok _ =>
          have hcall : WebPage.appendChild styled root p.page.makeProbe.1 = (.ok (), put) :=
            changeUnless_of_ok happend _
          have happend : p.guardCall .appendChild = .ok () := happend
          rw [hcall, happend]
          exact ⟨put, rfl, rfl, nofun, fun _ => hput⟩

/-- **Whichever call throws, a probe that cannot be attached leaves the page with the content and
the probes that it had.** -/
theorem sameContent_of_attachProbe_error {p p₁ : BrowserPage} {css : String} {e : DomError}
    (h : Document.attachProbe p css = (.error e, p₁)) : p₁.SameContent p := by
  obtain ⟨p₂, hfaults, hends, hstopped, -⟩ := p.exists_attachProbe_eq css
  rw [hends] at h
  cases hattach : p.attachable with
  | error e' =>
    obtain rfl : p₂ = p₁ := congrArg Prod.snd h
    exact ⟨hstopped e' hattach, hfaults⟩
  | ok _ =>
    rw [hattach] at h
    cases congrArg Prod.fst h

/-- A probe that is attached is the one of the page in memory. -/
theorem sameContent_of_attachProbe_ok {p p₁ : BrowserPage} {css : String} {probe : Handle}
    (h : Document.attachProbe p css = (.ok probe, p₁)) :
    probe = (p.page.attachProbe css).1 ∧ p₁.faults = p.faults ∧
      p₁.page.SameContent (p.page.attachProbe css).2 := by
  obtain ⟨p₂, hfaults, hends, -, hput⟩ := p.exists_attachProbe_eq css
  rw [hends] at h
  cases hattach : p.attachable with
  | error _ =>
    rw [hattach] at h
    cases congrArg Prod.fst h
  | ok _ =>
    rw [hattach] at h
    obtain ⟨hprobe, rfl⟩ := Prod.mk.inj h
    exact ⟨(Except.ok.inj hprobe).symm, hfaults, hput hattach⟩

theorem SameContent.attachable {p q : BrowserPage} (h : p.SameContent q) :
    p.attachable = q.attachable := by
  have hroot : p.root? = q.root? := by rw [root?, root?, h.page.nodes]
  simp only [BrowserPage.attachable, guardProbe, h.guardCall, hroot]

instance : SteadyDocument BrowserPage Handle where
  r := SameContent
  iseqv := ⟨.refl, .symm, .trans⟩
  query_congr h := h.query
  allElements_congr h := congrArg Except.ok h.page.allElements
  elementMatches_congr h := h.elementMatches
  textOf_congr h := h.textOf
  holds_congr h := h.page.holds
  queryXPath_congr h := h.queryXPath
  remove_congr h := h.remove
  attachProbe_congr {p q} h css := by
    obtain ⟨p₁, hp₁, hp, -, hpput⟩ := p.exists_attachProbe_eq css
    obtain ⟨q₁, hq₁, hq, -, hqput⟩ := q.exists_attachProbe_eq css
    have hfaults : p₁.faults = q₁.faults := hp₁.trans (h.faults.trans hq₁.symm)
    rw [hp, hq, h.attachable]
    cases hattach : q.attachable with
    | error e => exact .error e p₁ q₁
    | ok _ =>
      have hpput := hpput (h.attachable.trans hattach)
      have hqput := hqput hattach
      have hstyle {e e' : Handle} (he : ∀ key, (p.page.attachProbe css).2.computedStyle e key =
          (q.page.attachProbe css).2.computedStyle e' key) (key : String) :
          Document.computedStyle p₁ e key = Document.computedStyle q₁ e' key :=
        computedStyle_congr hfaults (fun property => (hpput.computedStyle e property).trans
          ((he property).trans (hqput.computedStyle e' property).symm)) key
      have hnode (key : ℕ) : p₁.page.node? key = q₁.page.node? key :=
        (hpput.node? key).trans ((h.page.node? key).trans (hqput.node? key).symm)
      have hhtml (e : Handle) : p₁.isHtml e = q₁.isHtml e := by
        cases e with
        | probe k => rfl
        | element key => rw [isHtml, isHtml, hnode]
      have hpage : p.page ≈ q.page := h.page
      cases SteadyDocument.attachProbe_congr hpage css with
      | ok halike =>
        exact .ok ⟨hstyle halike.onProbe, fun e _ => hhtml e,
          fun e he => hstyle (halike.style e (offers_page he))⟩
  attachProbe_error h := sameContent_of_attachProbe_error h
  detachProbe_attachProbe {p p₁ css probe} h := by
    obtain ⟨rfl, hfaults, hpage⟩ := sameContent_of_attachProbe_ok h
    exact ⟨(hpage.detachProbe _).trans (p.page.detachProbe_attachProbe css), hfaults⟩

namespace SameContent

variable {p q : BrowserPage}

theorem answersAlike (h : p.SameContent q) : Document.AnswersAlike p q where
  query := h.query
  allElements := SteadyDocument.allElements_congr h
  elementMatches := h.elementMatches
  textOf := h.textOf
  holds := h.page.holds
  isHtml := h.isHtml
  queryXPath := h.queryXPath
  computedStyle e := computedStyle_congr h.faults (h.page.computedStyle e)

theorem alikeForGood (h : p.SameContent q) : Document.AlikeForGood p q :=
  Document.alikeForGood_of_equiv (fun h e => SameContent.click h e)
    (fun h => SameContent.answersAlike h) h

end SameContent

end BrowserPage

end Browser

end PageGuard
