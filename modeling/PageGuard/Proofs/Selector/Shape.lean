import PageGuard.Proofs.Selector.Arguments
import Mathlib.Data.List.Chain

/-!
# The shape of a chain

The reader makes no stage of blank text, takes a pattern only for a whole selector, and ends a
stretch of plain text only at an operator.  So the plain stages of a chain are trimmed CSS, of which
two stand side by side only when an action was between them, or the chain is one pattern.

* `Stage.MayPrecede`, `Stage.Shaped`: which stages may be next to each other, and what a chain that
  was read looks like.
* `Stage.HasPart`: a chain and the chains in its stages, at any depth.
* `Tiled.css_of_plain`, `Tiled.isChain`: the plain stages that tile a text.
* `shaped_of_readSelector`: a selector that is read, from its text alone.
* `parseSelector_shaped`: the theorem for every part of a chain.
-/

namespace PageGuard

open Text

/-- Whether one stage may come right before another: not a plain one before a plain one, unless it
acts. -/
def Stage.MayPrecede (s t : Stage) : Prop :=
  s.IsOperator ∨ t.IsOperator ∨ ∃ target a, s = .plain target (some a)

/-- What a chain looks like on its own level. -/
structure Stage.Shaped (chain : Chain) : Prop where
  nonempty : chain ≠ []
  /-- The CSS of a stage is there and has no blanks at its ends. -/
  css : ∀ text action, .plain (.css text) action ∈ chain → text ≠ "" ∧ trimmed text = text
  /-- A pattern for the text of elements is the only stage, and does not act. -/
  pattern : ∀ p action, .plain (.textMatch p) action ∈ chain →
    chain = [.plain (.textMatch p) none]
  /-- Only CSS acts. -/
  acting : ∀ target a, .plain target (some a) ∈ chain → ∃ text, target = .css text
  /-- Of two plain stages side by side the first one acts. -/
  adjacent : chain.IsChain Stage.MayPrecede

/-- A chain and the chains in its stages, at any depth. -/
def Stage.HasPart (chain part : Chain) : Prop :=
  part = chain ∨ Stage.Within chain (.has part) ∨ Stage.Within chain (.not part)

/-! ## Stages that tile a text -/

theorem eq_css_of_mem_plainStages {gap : List Char} {s : Stage} (h : s ∈ plainStages gap) :
    trim gap ≠ [] ∧ s = .css (.ofList (trim gap)) := by
  unfold plainStages at h
  split_ifs at h with hblank
  · cases h
  · exact ⟨hblank, List.mem_singleton.1 h⟩

/-- **The plain stages that tile a text are trimmed CSS.** -/
theorem Tiled.css_of_plain {extent : List Char → Nat} {before : Option Char} {cs : List Char}
    {chain : List Stage} (h : Tiled extent before cs chain) {target : Target}
    {action : Option Action} (hmem : .plain target action ∈ chain) :
    ∃ gap, trim gap ≠ [] ∧ target = .css (.ofList (trim gap)) := by
  induction h with
  | @last before gap plain =>
    obtain ⟨hblank, heq⟩ := eq_css_of_mem_plainStages hmem
    exact ⟨gap, hblank, (Stage.plain.inj heq).1⟩
  | @operator before gap rest u s stages plain written cut argument gives more ih =>
    rcases List.mem_append.1 hmem with hgap | hrest
    · obtain ⟨hblank, heq⟩ := eq_css_of_mem_plainStages hgap
      exact ⟨gap, hblank, (Stage.plain.inj heq).1⟩
    · rcases List.mem_cons.1 hrest with heq | hmore
      · exact absurd heq.symm (gives.ne_plain target action)
      · exact ih hmore
  | @action before gap rest u a stages plain written op nonblank more ih =>
    rcases List.mem_cons.1 hmem with heq | hmore
    · exact ⟨gap, nonblank, (Stage.plain.inj heq).1⟩
    · exact ih hmore

theorem OperatorUse.Gives.isOperator {u : OperatorUse} {s : Stage} (h : u.Gives s) :
    s.IsOperator := by
  cases h <;> trivial

/-- **Stages that tile a text may stand side by side.** -/
theorem Tiled.isChain {extent : List Char → Nat} {before : Option Char} {cs : List Char}
    {chain : List Stage} (h : Tiled extent before cs chain) :
    chain.IsChain Stage.MayPrecede := by
  induction h with
  | @last before gap plain =>
    unfold plainStages
    split_ifs
    · exact List.isChain_nil
    · exact List.isChain_singleton _
  | @operator before gap rest u s stages plain written cut argument gives more ih =>
    have htail : (s :: stages).IsChain Stage.MayPrecede :=
      List.isChain_cons.2 ⟨fun t _ => .inl gives.isOperator, ih⟩
    unfold plainStages
    split_ifs
    · exact htail
    · refine List.isChain_cons.2 ⟨fun t ht => ?_, htail⟩
      obtain rfl := Option.some.inj ht
      exact .inr (.inl gives.isOperator)
  | action plain written op nonblank more ih =>
    exact List.isChain_cons.2 ⟨fun t _ => .inr (.inr ⟨_, _, rfl⟩), ih⟩

/-! ## Selectors -/

/-- **A chain that is read has its shape**, whatever its text. -/
theorem shaped_of_readSelector {cs : List Char} {chain : Chain} (h : readSelector cs = .ok chain) :
    Stage.Shaped chain := by
  obtain ⟨hne, ⟨body, p, -, rfl⟩ | ⟨-, hread⟩⟩ := readSelector_eq_ok h
  · -- A pattern: there is nothing else in the chain.
    refine ⟨hne, fun text action hmem => ?_, fun q action hmem => ?_, fun target a hmem => ?_,
      List.isChain_singleton _⟩
    · simp at hmem
    · obtain ⟨rfl, rfl⟩ : q = p ∧ action = none := by simpa using hmem
      rfl
    · simp at hmem
  · -- Stages that tile the text: there is no pattern among them.
    have htiled := readStages_eq_ok_iff.1 hread
    refine ⟨hne, fun text action hmem => ?_, fun q action hmem => ?_, fun target a hmem => ?_,
      htiled.isChain⟩
    · obtain ⟨gap, hblank, heq⟩ := htiled.css_of_plain hmem
      obtain rfl := Target.css.inj heq
      refine ⟨by simpa using hblank, ?_⟩
      rw [trimmed, String.toList_ofList, trim_trim]
    · obtain ⟨gap, -, heq⟩ := htiled.css_of_plain hmem
      cases heq
    · obtain ⟨gap, -, heq⟩ := htiled.css_of_plain hmem
      exact ⟨_, heq⟩

/-- A part of a chain that is read is read as well, from the argument of an operator. -/
theorem Stage.HasPart.exists_read {chain part : Chain} (h : Stage.HasPart chain part)
    {cs : List Char} (hread : readSelector cs = .ok chain) :
    ∃ inner, readSelector inner = .ok part := by
  rcases h with rfl | hhas | hnot
  · exact ⟨cs, hread⟩
  · obtain ⟨u, -, -, hgives⟩ := hhas.exists_uses hread trivial
    cases hgives with
    | has op read => exact ⟨_, read⟩
  · obtain ⟨u, -, -, hgives⟩ := hnot.exists_uses hread trivial
    cases hgives with
    | not op read => exact ⟨_, read⟩

/-- **Every chain that is read has its shape, at any depth**: it has stages, its CSS is trimmed and
not empty, a pattern stands alone and does not act, and a plain stage comes right after a plain one
only when that one acts. -/
theorem parseSelector_shaped {text : String} {chain : Chain} (h : parseSelector text = .ok chain)
    {part : Chain} (hpart : Stage.HasPart chain part) : Stage.Shaped part := by
  obtain ⟨inner, hinner⟩ := hpart.exists_read h
  exact shaped_of_readSelector hinner

/-- A selector with two plain stages side by side and a chain in its last stage. -/
theorem removed_paragraph_shaped :
    parseSelector "p:remove() i:not(u)" =
        .ok [.plain (.css "p") (some .remove), .css "i", .not [.css "u"]] ∧
      Stage.Shaped [.plain (.css "p") (some .remove), .css "i", .not [.css "u"]] ∧
      Stage.Shaped [.css "u"] := by
  have hu : readSelector (trim "u".toList) = .ok [.css "u"] :=
    readSelector_ordinary (List.all_eq_true.1 (by decide)) (by decide)
  have hi : Gap (bracketLength '[') (some ')') (" i".toList ++ []) ":not(u)".toList :=
    Gap.ordinary (fun before => Gap.nil before _) (List.all_eq_true.1 (by decide)) _
  have hp : Gap (bracketLength '[') none ("p".toList ++ []) ":remove() i:not(u)".toList :=
    Gap.ordinary (fun before => Gap.nil before _) (List.all_eq_true.1 (by decide)) _
  have hnot : Tiled (bracketLength '[') (some ')') " i:not(u)".toList
      [.css "i", .not [.css "u"]] :=
    Tiled.operator (u := ⟨":not(", .not, "u".toList⟩) hi
      ⟨by decide, by simp [closingParen?, isQuote]⟩ (fun hstays => hstays.more rfl) (by decide)
      (OperatorUse.Gives.not rfl hu) (Tiled.last (Gap.nil _ _))
  have htiled : Tiled (bracketLength '[') none "p:remove() i:not(u)".toList
      [.plain (.css "p") (some .remove), .css "i", .not [.css "u"]] :=
    Tiled.action (u := ⟨":remove(", .act .remove, []⟩) hp
      ⟨by decide, by simp [closingParen?, isQuote]⟩ rfl (by decide) hnot
  have hread : parseSelector "p:remove() i:not(u)" =
      .ok [.plain (.css "p") (some .remove), .css "i", .not [.css "u"]] :=
    (readSelector_eq_ok_iff (by decide) (by decide) _).2 ⟨List.cons_ne_nil _ _, htiled⟩
  exact ⟨hread, parseSelector_shaped hread (.inl rfl),
    parseSelector_shaped hread (.inr (.inr (.here (by simp))))⟩

end PageGuard
