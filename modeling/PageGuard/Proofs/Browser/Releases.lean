import PageGuard.Proofs.Browser.Pages

/-!
# Every probe goes again

A probe is made, gets its style text and is put at the end of the page; any of these calls may
throw, and so may every later one while the probe stands there.  An account of the probes on a page
says which of the calls of a script can put one there and which takes it off.  It carries over a
probe that is stopped half-way, over one that is taken off again, and so over every chain.

* `WebPage.Account`: such an account, for any page that a script sees.
* `WebPage.Account.attachProbe_error`: a probe that cannot be attached leaves none on the page.
* `BrowserPage.account`: pages with faults have one.
* `evaluate_releases`: no chain leaves a probe on a page, and one that does not act leaves nothing
  behind that can be seen later.
-/

namespace PageGuard

namespace Browser

/-! ## Pages that a script sees -/

namespace WebPage

variable {W N : Type} [WebPage W N]

/-- `attached` says which of the elements that a script has made stand on a page, call by call. -/
structure Account (attached : W → N → Prop) : Prop where
  /-- A click puts none of them there. -/
  click {w : W} {e n : N} (h : attached (WebPage.click w e) n) : attached w n
  /-- What is removed is there no more. -/
  remove {w : W} {e n : N} (h : attached (WebPage.remove w e) n) : attached w n ∧ n ≠ e
  /-- An element that was just made stands nowhere. -/
  createElement {w : W} {name : String} {n : N}
    (h : attached (WebPage.createElement w name).2 n) : attached w n
  setAttribute {w : W} {e n : N} {name value : String}
    (h : attached (WebPage.setAttribute w e name value).2 n) : attached w n
  /-- Only an append puts an element there, the one that it is given, and none that throws does. -/
  appendChild {w : W} {above e n : N} (h : attached (WebPage.appendChild w above e).2 n) :
    attached w n ∨ (WebPage.appendChild w above e).1 = .ok () ∧ n = e

namespace Account

variable {attached : W → N → Prop} {w w₁ : W} {css : String} {n : N}

/-- The only probe that attaching puts on a page is the one that it gives. -/
theorem attachProbe (h : Account attached) (hn : attached (WebPage.attachProbe w css).2 n) :
    attached w n ∨ (WebPage.attachProbe w css).1 = .ok n := by
  rw [WebPage.attachProbe] at hn ⊢
  have hmade : attached (WebPage.createElement w "section").2 n → attached w n := h.createElement
  rcases hcreate : WebPage.createElement w "section" with ⟨v | probe, w₁⟩
  · simp only [hcreate] at hn hmade
    exact .inl (hmade hn)
  have hstyled : attached (WebPage.setAttribute w₁ probe "style" css).2 n → attached w₁ n :=
    h.setAttribute
  rcases hset : WebPage.setAttribute w₁ probe "style" css with ⟨v | _, w₂⟩
  · simp only [hcreate, hset] at hn hmade hstyled
    exact .inl (hmade (hstyled hn))
  simp only [hcreate, hset] at hn hmade hstyled ⊢
  cases hroot : WebPage.documentElement? w₂ with
  | none =>
    rw [hroot] at hn
    exact .inl (hmade (hstyled hn))
  | some root =>
    have hput : attached (WebPage.appendChild w₂ root probe).2 n →
        attached w₂ n ∨ (WebPage.appendChild w₂ root probe).1 = .ok () ∧ n = probe := h.appendChild
    rcases happend : WebPage.appendChild w₂ root probe with ⟨v | _, w₃⟩
    · simp only [hroot, happend] at hn hput
      obtain hn | ⟨hthrown, -⟩ := hput hn
      · exact .inl (hmade (hstyled hn))
      · cases hthrown
    · simp only [hroot, happend] at hn hput ⊢
      obtain hn | ⟨-, rfl⟩ := hput hn
      · exact .inl (hmade (hstyled hn))
      · exact .inr rfl

/-- A probe that cannot be attached leaves none on the page, whichever call threw. -/
theorem attachProbe_error (h : Account attached) {e : DomError}
    (hends : WebPage.attachProbe w css = (.error e, w₁)) (hn : attached w₁ n) : attached w n := by
  have hn : attached (WebPage.attachProbe w css).2 n := by rwa [hends]
  refine (h.attachProbe hn).resolve_right fun hok => ?_
  rw [hends] at hok
  cases hok

/-- A probe that is attached is the only one that is new on the page. -/
theorem attachProbe_ok (h : Account attached) {probe : N}
    (hends : WebPage.attachProbe w css = (.ok probe, w₁)) (hn : attached w₁ n) :
    attached w n ∨ n = probe := by
  have hn : attached (WebPage.attachProbe w css).2 n := by rwa [hends]
  refine (h.attachProbe hn).imp_right fun hok => ?_
  rw [hends] at hok
  exact (Except.ok.inj hok).symm

/-- The probes of a page are in the account through clicks, removals and probes. -/
theorem frame (h : Account attached) :
    Document.Frame fun w₁ w : W => ∀ n, attached w₁ n → attached w n where
  refl _ _ hn := hn
  trans h h' n hn := h' n (h n hn)
  click {w _ e} _ n hn := by
    change attached (if WebPage.isHtmlElement w e then WebPage.click w e else w) n at hn
    split_ifs at hn
    · exact h.click hn
    · exact hn
  remove _ _ hn := (h.remove hn).1
  probe hends n hn := by
    obtain ⟨hn, hne⟩ := h.remove hn
    exact (h.attachProbe_ok hends hn).resolve_right hne
  failed hends _ hn := h.attachProbe_error hends hn

end Account

end WebPage

/-! ## Pages with faults -/

namespace BrowserPage

/-- A probe stands on a page with faults. -/
def Attached (p : BrowserPage) (n : Handle) : Prop := ∃ q ∈ p.page.probes, n = .probe q.1

/-- A call that throws changes nothing, one that does not changes the page as it says. -/
theorem attached_changeUnless {p : BrowserPage} {call : PageCall} {change : MemoryPage → MemoryPage}
    {n : Handle} (h : (p.changeUnless call change).2.Attached n) :
    p.Attached n ∨ (p.changeUnless call change).1 = .ok () ∧
      ∃ q ∈ (change p.page).probes, n = .probe q.1 := by
  cases hguard : p.guardCall call with
  | error v =>
    rw [changeUnless_of_error hguard] at h
    exact .inl h
  | ok _ =>
    rw [changeUnless_of_ok hguard] at h ⊢
    exact .inr ⟨rfl, h⟩

/-- The only probe that is new after a put is the one that is put there. -/
theorem probes_putProbe (p : MemoryPage) (k : ℕ) :
    ∀ q ∈ (p.putProbe k).probes, q ∈ p.probes ∨ q.1 = k := by
  intro q hq
  rw [MemoryPage.putProbe] at hq
  split at hq
  · exact .inl hq
  · obtain hq | hq := List.mem_append.1 hq
    · exact .inl hq
    · exact .inr (congrArg Prod.fst (List.mem_singleton.1 hq))

/-- Clicks, new elements and attributes leave the probes alone, an append puts the probe there that
it is given, and a removal takes off what it is given. -/
theorem account : WebPage.Account Attached where
  click h := h
  remove {p e n} h := by
    obtain ⟨q, hq, rfl⟩ := h
    cases e with
    | element key =>
      have hprobes : (p.page.removeKey key).probes = p.page.probes := p.page.probes_removeKey key
      exact ⟨⟨q, hprobes ▸ hq, rfl⟩, Handle.noConfusion⟩
    | probe k =>
      obtain ⟨hq, hne⟩ := List.mem_filter.1 hq
      exact ⟨⟨q, hq, rfl⟩, fun heq => of_decide_eq_true hne (Handle.probe.inj heq)⟩
  createElement {p name n} h := by
    cases hmake : p.guardCall .createElement with
    | error v => rwa [createElement_of_error hmake] at h
    | ok _ =>
      rw [createElement_of_ok hmake] at h
      exact h
  setAttribute {p e n name value} h := by
    obtain h | ⟨-, q, hq, rfl⟩ := attached_changeUnless h
    · exact h
    · refine ⟨q, ?_, rfl⟩
      cases e with
      | element key => exact hq
      | probe k =>
        dsimp only at hq
        split_ifs at hq <;> exact hq
  appendChild {p above e n} h := by
    obtain h | ⟨hput, q, hq, rfl⟩ := attached_changeUnless h
    · exact .inl h
    · cases e with
      | element key => exact .inl ⟨q, hq, rfl⟩
      | probe k =>
        obtain hq | rfl := probes_putProbe p.page k q hq
        · exact .inl ⟨q, hq, rfl⟩
        · exact .inr ⟨hput, rfl⟩

/-- Clicks and removals leave the probes of a page with faults alone, and every probe goes again. -/
theorem frame_probes : Document.Frame fun p q : BrowserPage => p.page.probes = q.page.probes where
  refl _ := rfl
  trans h h' := h.trans h'
  click {p _ e} _ := by
    change (if p.isHtml e then { p with page := p.page.click e } else p).page.probes = _
    split_ifs <;> rfl
  remove {p _ e} he := by
    obtain ⟨key, rfl⟩ := MemoryPage.exists_key_of_offers (offers_page he)
    exact p.page.probes_removeKey key
  probe h := (SteadyDocument.detachProbe_attachProbe h : SameContent _ _).page.probes
  failed h := (sameContent_of_attachProbe_error h).page.probes

end BrowserPage

end Browser

/-! ## Chains -/

open Browser

/-- **No chain leaves a probe behind**, on a page in memory or on any page that a script sees,
whether it succeeds or fails and whatever calls into the page throw.  A chain that does not act
changes nothing else either: the tree, the clicks and all answers, now and later, are those without
it. -/
theorem evaluate_releases (chain : Chain) :
    (∀ p : MemoryPage, (evaluate chain p).2.probes = p.probes ∧
      (Stage.anyActs chain = false →
        (evaluate chain p).2.SameContent p ∧ Document.AlikeForGood (evaluate chain p).2 p)) ∧
    (∀ (W N : Type) [WebPage W N] [DecidableEq N] (attached : W → N → Prop),
      WebPage.Account attached → ∀ (w : W) (n : N), attached (evaluate chain w).2 n →
        attached w n) ∧
    ∀ p : BrowserPage, (evaluate chain p).2.page.probes = p.page.probes ∧
      (Stage.anyActs chain = false →
        (evaluate chain p).2.SameContent p ∧ Document.AlikeForGood (evaluate chain p).2 p) := by
  refine ⟨fun p => ⟨?_, fun h => ?_⟩, fun W N _ _ attached haccount w n => ?_,
    fun p => ⟨?_, fun h => ?_⟩⟩
  · exact MemoryPage.frame_probes.evaluate chain p
  · have hsame : (evaluate chain p).2.SameContent p :=
      (evaluate_readsAt h p).same p (Setoid.refl p)
    exact ⟨hsame, hsame.alikeForGood⟩
  · exact haccount.frame.evaluate chain w n
  · exact BrowserPage.frame_probes.evaluate chain p
  · have hsame : (evaluate chain p).2.SameContent p :=
      (evaluate_readsAt h p).same p (Setoid.refl p)
    exact ⟨hsame, hsame.alikeForGood⟩

/-- A filter of styles whose probe is stopped at the last step, and one that fails on a page without
computed styles, leave no probe behind; one that succeeds changes no answer. -/
theorem red_paragraphs_released :
    Stage.anyActs [.xpath "//p", .properties "color: red"] = false ∧
      (evaluate [.xpath "//p", .properties "color: red"]
        ({ page := MemoryPage.ofText "<p>x</p>", faults := [.throwsText .appendChild] } :
          BrowserPage)).1 = .error (.style "appendChild failed") ∧
      (∀ n, ¬(evaluate [.xpath "//p", .properties "color: red"]
        ({ page := MemoryPage.ofText "<p>x</p>", faults := [.throwsText .appendChild] } :
          BrowserPage)).2.Attached n) ∧
      (evaluate [.xpath "//p", .properties "color: red"]
        ({ page := MemoryPage.ofText "<p>x</p>", faults := [.noStyle] } : BrowserPage)).1 =
          .error (.style "no computed style") ∧
      (∀ n, ¬(evaluate [.xpath "//p", .properties "color: red"]
        ({ page := MemoryPage.ofText "<p>x</p>", faults := [.noStyle] } :
          BrowserPage)).2.Attached n) ∧
      Document.AlikeForGood
        (evaluate [.xpath "//p", .properties "color: red"] (MemoryPage.ofText "<p>x</p>")).2
        (MemoryPage.ofText "<p>x</p>") := by
  have hreleased (chain : Chain) (p : BrowserPage) (hp : p.page.probes = []) (n : Handle)
      (hn : (evaluate chain p).2.Attached n) : False := by
    obtain ⟨q, hq, -⟩ := (evaluate_releases chain).2.1 BrowserPage Handle BrowserPage.Attached
      BrowserPage.account p n hn
    rw [hp] at hq
    exact List.not_mem_nil hq
  have hprobes : (MemoryPage.ofText "<p>x</p>").probes = [] := rfl
  refine ⟨rfl, by decide +kernel, fun n hn => ?_, by decide +kernel, fun n hn => ?_,
    (((evaluate_releases _).1 _).2 rfl).2⟩
  · exact hreleased _ _ hprobes n hn
  · exact hreleased _ _ hprobes n hn

end PageGuard
