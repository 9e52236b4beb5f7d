import PageGuard.Proofs.Selector.Tiling

/-!
# Selectors without quotes and escapes

In a text without quotes and backslashes the pieces of plain text do not depend on the character
before them, and a bracket or a pair of parentheses ends without regard to what follows it.

* `unclosed`: the count of parentheses along a text; `closingParen?_eq_iff` tells by it where a
  parenthesis is closed.
* `BarePiece`: the pieces of such a text; `Piece.bare`, `BarePiece.piece`: there are no others.
* `OperatorUse.Balanced`: an operator that is closed whatever comes after it.
* `operatorAt?_eq_none_of_trimEnd`: no operator comes about where plain text is cut.
* `Gap.trim`: the plain text between operators is plain text without the blanks at its ends.
-/

namespace PageGuard

open Text

/-- A text without quotes and backslashes. -/
def Bare (cs : List Char) : Prop := ∀ c ∈ cs, isQuote c = false ∧ c ≠ '\\'

namespace Bare

theorem append_iff {x y : List Char} : Bare (x ++ y) ↔ Bare x ∧ Bare y := List.forall_mem_append

theorem of_cons {c : Char} {cs : List Char} (h : Bare (c :: cs)) :
    (isQuote c = false ∧ c ≠ '\\') ∧ Bare cs :=
  List.forall_mem_cons.1 h

theorem mono {x y : List Char} (h : Bare y) (hsub : ∀ c ∈ x, c ∈ y) : Bare x :=
  fun c hc => h c (hsub c hc)

theorem trim {cs : List Char} (h : Bare cs) : Bare (Text.trim cs) :=
  h.mono fun _ hc => mem_of_mem_trim hc

/-- The opening texts of operators hold neither quotes nor backslashes. -/
theorem marker {m : String × Operator} (h : m ∈ operators) : Bare m.1.toList := by
  have hall : ∀ m ∈ operators, ∀ c ∈ m.1.toList, isQuote c = false ∧ c ≠ '\\' := by
    simp [operators, isQuote]
  exact hall m h

/-- Nothing is taken off a text without quotes. -/
theorem unquoted_eq {cs : List Char} (h : Bare cs) : unquoted cs = cs := by
  cases cs with
  | nil => rfl
  | cons c cs =>
    rw [unquoted, h.of_cons.1.1, Bool.false_and, if_neg Bool.false_ne_true]

end Bare

/-! ## Parentheses -/

/-- The number of parentheses open at the end of a text that begins inside `depth` of them; absent
when one is closed that was not opened. -/
def unclosed (depth : Nat) (cs : List Char) : Option Nat :=
  match cs with
  | [] => some depth
  | c :: rest =>
    if c = '(' then unclosed (depth + 1) rest
    else if c = ')' then
      match depth with
      | 0 => none
      | d + 1 => unclosed d rest
    else unclosed depth rest

theorem unclosed_cons (depth : Nat) (c : Char) (cs : List Char) :
    unclosed depth (c :: cs) =
      if c = '(' then unclosed (depth + 1) cs
      else if c = ')' then
        match depth with
        | 0 => none
        | d + 1 => unclosed d cs
      else unclosed depth cs := by
  cases depth <;> rfl

theorem unclosed_append {y : List Char} : ∀ (x : List Char) (depth : Nat),
    unclosed depth (x ++ y) = (unclosed depth x).bind fun d => unclosed d y
  | [], _ => rfl
  | c :: x, depth => by
    rw [List.cons_append, unclosed_cons, unclosed_cons]
    split_ifs
    · exact unclosed_append x (depth + 1)
    · cases depth with
      | zero => rfl
      | succ d => exact unclosed_append x d
    · exact unclosed_append x depth

/-- A text without parentheses leaves their count. -/
theorem unclosed_of_notMem : ∀ {cs : List Char}, (∀ c ∈ cs, c ≠ '(' ∧ c ≠ ')') →
    ∀ depth, unclosed depth cs = some depth
  | [], _, _ => rfl
  | c :: cs, h, depth => by
    obtain ⟨⟨hopen, hclose⟩, hcs⟩ := List.forall_mem_cons.1 h
    rw [unclosed_cons, if_neg hopen, if_neg hclose]
    exact unclosed_of_notMem hcs depth

/-- More parentheses around a text stay open. -/
theorem unclosed_add {k : Nat} : ∀ {cs : List Char} {depth n : Nat},
    unclosed depth cs = some n → unclosed (depth + k) cs = some (n + k)
  | [], _, _, h => by rw [unclosed, Option.some.inj h]
  | c :: cs, depth, n, h => by
    rw [unclosed_cons] at h ⊢
    split_ifs at h ⊢
    · rw [Nat.add_right_comm]
      exact unclosed_add h
    · cases depth with
      | zero => cases h
      | succ d =>
        rw [Nat.add_right_comm]
        exact unclosed_add h
    · exact unclosed_add h

/-- The blanks around a text do not count. -/
theorem unclosed_trim (cs : List Char) (depth : Nat) :
    unclosed depth (trim cs) = unclosed depth cs := by
  have hblank {w : List Char} (hw : ∀ c ∈ w, isBlank c = true) (d : Nat) :
      unclosed d w = some d := by
    refine unclosed_of_notMem (fun c hc => ⟨?_, ?_⟩) d
    · rintro rfl
      exact absurd (hw _ hc) (by decide)
    · rintro rfl
      exact absurd (hw _ hc) (by decide)
  obtain ⟨w, hw, hwblank⟩ := exists_trimStart_append cs
  obtain ⟨w', hw', hwblank'⟩ := exists_append_trimEnd (trimStart cs)
  have hcount : unclosed depth (w ++ (trim cs ++ w')) = unclosed depth (trim cs) := by
    rw [unclosed_append, hblank hwblank, Option.bind_some, unclosed_append]
    cases unclosed depth (trim cs) with
    | none => rfl
    | some d => exact hblank hwblank' d
  rw [trim, ← hw', ← hw, ← trim] at hcount
  exact hcount.symm

/-- A character that is no quote and no backslash, before a parenthesis that is closed. -/
theorem closingParen?_cons {c : Char} (hquote : isQuote c = false) (hslash : c ≠ '\\')
    (depth : Nat) (before : Char) (cs : List Char) :
    closingParen? depth before (c :: cs) =
      if c = '(' then (closingParen? (depth + 1) c cs).map (· + 1)
      else if c = ')' then
        match depth with
        | 0 => some 1
        | d + 1 => (closingParen? d c cs).map (· + 1)
      else (closingParen? depth c cs).map (· + 1) := by
  cases depth <;> rw [closingParen?.eq_def] <;>
    simp only [if_neg hslash, hquote, Bool.false_eq_true, if_false]

/-- **A parenthesis is closed where as many are closed as were opened after it**, whatever comes
after that. -/
theorem closingParen?_eq_iff :
    ∀ {body : List Char}, Bare body → ∀ (depth : Nat) (before : Char) (after : List Char),
      closingParen? depth before (body ++ ')' :: after) = some (body.length + 1) ↔
        unclosed depth body = some 0
  | [], _, depth, before, after => by
    rw [List.nil_append, closingParen?_cons (by decide) (by decide), if_neg (by decide),
      if_pos rfl, unclosed]
    cases depth with
    | zero => exact iff_of_true rfl rfl
    | succ d =>
      refine iff_of_false (fun h => ?_) (by simp)
      obtain ⟨n, hn, hzero⟩ := Option.map_eq_some_iff.1 h
      obtain ⟨body, -, -, rfl⟩ := closingParen?_eq_some hn
      cases hzero
  | c :: body, h, depth, before, after => by
    obtain ⟨⟨hquote, hslash⟩, hbody⟩ := h.of_cons
    have hstep (d : Nat) :
        (closingParen? d c (body ++ ')' :: after)).map (· + 1) = some ((c :: body).length + 1) ↔
          unclosed d body = some 0 := by
      rw [← closingParen?_eq_iff hbody d c after, Option.map_eq_some_iff]
      simp
    rw [List.cons_append, closingParen?_cons hquote hslash, unclosed_cons]
    split_ifs
    · exact hstep (depth + 1)
    · cases depth with
      | zero => simp
      | succ d => exact hstep d
    · exact hstep depth

/-! ## Brackets -/

theorem bracketLength_cons {c : Char} (hquote : isQuote c = false) (before : Char)
    (cs : List Char) :
    bracketLength before (c :: cs) = if c = ']' then 1 else bracketLength c cs + 1 := by
  rw [bracketLength.eq_def]
  simp only [hquote, Bool.false_eq_true, if_false]

/-- A bracket ends with the first one that closes it. -/
theorem bracketLength_closed {after : List Char} : ∀ {body : List Char}, Bare body → ']' ∉ body →
    ∀ before, bracketLength before (body ++ ']' :: after) = body.length + 1
  | [], _, _, before => by
    rw [List.nil_append, bracketLength_cons (by decide), if_pos rfl, List.length_nil]
  | c :: body, h, hclose, before => by
    rw [List.mem_cons, not_or] at hclose
    rw [List.cons_append, bracketLength_cons h.of_cons.1.1, if_neg (Ne.symm hclose.1),
      bracketLength_closed h.of_cons.2 hclose.2, List.length_cons]

/-- A bracket that is not closed takes the whole text. -/
theorem bracketLength_open : ∀ {body : List Char}, Bare body → ']' ∉ body →
    ∀ before, bracketLength before body = body.length
  | [], _, _, before => by rw [bracketLength, List.length_nil]
  | c :: body, h, hclose, before => by
    rw [List.mem_cons, not_or] at hclose
    rw [bracketLength_cons h.of_cons.1.1, if_neg (Ne.symm hclose.1),
      bracketLength_open h.of_cons.2 hclose.2, List.length_cons]

/-- How far a bracket reaches tells how it ends. -/
theorem closed_or_open_of_bracketLength {after : List Char} :
    ∀ {body : List Char}, Bare body → ∀ {before : Char}, Bare after →
      bracketLength before (body ++ after) = body.length →
      (∃ inside, body = inside ++ [']'] ∧ ']' ∉ inside) ∨ (']' ∉ body ∧ after = [])
  | [], _, before, hafter, h => by
    cases after with
    | nil => exact Or.inr ⟨List.not_mem_nil, rfl⟩
    | cons c after =>
      rw [List.nil_append, bracketLength_cons hafter.of_cons.1.1] at h
      split_ifs at h
  | c :: body, hbody, before, hafter, h => by
    rw [List.cons_append, bracketLength_cons hbody.of_cons.1.1, List.length_cons] at h
    split_ifs at h with hc
    · obtain rfl := List.eq_nil_of_length_eq_zero (Nat.succ.inj h).symm
      exact Or.inl ⟨[], by rw [hc]; rfl, List.not_mem_nil⟩
    · rcases closed_or_open_of_bracketLength hbody.of_cons.2 hafter (Nat.succ.inj h) with
        ⟨inside, rfl, hinside⟩ | ⟨hopen, hnil⟩
      · exact Or.inl ⟨c :: inside, rfl, by simp [Ne.symm hc, hinside]⟩
      · exact Or.inr ⟨by simp [Ne.symm hc, hopen], hnil⟩

/-! ## Pieces -/

/-- The pieces of plain text without quotes and backslashes, with the text after them. -/
inductive BarePiece : List Char → List Char → Prop where
  | char {c : Char} (bracket : c ≠ '[') (opening : c ≠ '(') (closing : c ≠ ')')
    (after : List Char) : BarePiece [c] after
  | brackets {inside : List Char} (inner : ']' ∉ inside) (after : List Char) :
    BarePiece ('[' :: (inside ++ [']'])) after
  /-- A bracket that is not closed takes the rest of the text. -/
  | bracket {inside : List Char} (inner : ']' ∉ inside) : BarePiece ('[' :: inside) []
  | parens {inside : List Char} (balanced : unclosed 0 inside = some 0) (after : List Char) :
    BarePiece ('(' :: (inside ++ [')'])) after

/-- A piece of a text without quotes and backslashes is one of these. -/
theorem Piece.bare {before : Option Char} {p after : List Char}
    (h : Piece (bracketLength '[') before p after) (hp : Bare p) (hafter : Bare after) :
    BarePiece p after := by
  cases h with
  | escape c after => exact absurd rfl hp.of_cons.1.2
  | backslash => exact absurd rfl hp.of_cons.1.2
  | string opens length => exact absurd (hp.of_cons.1.1.symm.trans opens) Bool.false_ne_true
  | quote opens alone => exact absurd (hp.of_cons.1.1.symm.trans opens) Bool.false_ne_true
  | brackets length =>
    rcases closed_or_open_of_bracketLength hp.of_cons.2 hafter length with
      ⟨inside, rfl, hinside⟩ | ⟨hopen, rfl⟩
    · exact BarePiece.brackets hinside after
    · exact BarePiece.bracket hopen
  | @parens body after length =>
    obtain ⟨inside, rest, hbody, hlength⟩ := closingParen?_eq_some length
    obtain ⟨rfl, rfl⟩ : body = inside ++ [')'] ∧ after = rest :=
      List.append_inj (hbody.trans (by simp)) (by simp [hlength])
    have hinside : Bare inside := (Bare.append_iff.1 hp.of_cons.2).1
    rw [hbody, hlength] at length
    exact BarePiece.parens ((closingParen?_eq_iff hinside 0 '(' after).1 length) after
  | char slash quote bracket opening closing => exact BarePiece.char bracket opening closing after

/-- Each of these is a piece, whatever the character before it. -/
theorem BarePiece.piece {p after : List Char} (h : BarePiece p after) (hp : Bare p)
    (before : Option Char) : Piece (bracketLength '[') before p after := by
  cases h with
  | char bracket opening closing after =>
    exact Piece.char hp.of_cons.1.2 hp.of_cons.1.1 bracket opening closing
  | brackets inner after =>
    have hinside := (Bare.append_iff.1 hp.of_cons.2).1
    refine Piece.brackets ?_
    rw [List.append_assoc, List.singleton_append, bracketLength_closed hinside inner,
      List.length_append, List.length_singleton]
  | bracket inner =>
    refine Piece.brackets ?_
    rw [List.append_nil]
    exact bracketLength_open hp.of_cons.2 inner '['
  | parens balanced after =>
    have hinside := (Bare.append_iff.1 hp.of_cons.2).1
    refine Piece.parens ?_
    rw [List.append_assoc, List.singleton_append, List.length_append, List.length_singleton]
    exact (closingParen?_eq_iff hinside 0 '(' after).2 balanced

/-- What comes after a piece matters only to a bracket that is not closed. -/
theorem BarePiece.congr {p after after' : List Char} (h : BarePiece p after)
    (hafter : after = [] → after' = []) : BarePiece p after' := by
  cases h with
  | char bracket opening closing => exact BarePiece.char bracket opening closing after'
  | brackets inner => exact BarePiece.brackets inner after'
  | bracket inner =>
    rw [hafter rfl]
    exact BarePiece.bracket inner
  | parens balanced => exact BarePiece.parens balanced after'

/-! ## Operators -/

/-- An operator that is closed whatever comes after it. -/
structure OperatorUse.Balanced (u : OperatorUse) : Prop where
  listed : (u.marker, u.op) ∈ operators
  bare : Bare u.argument
  balanced : unclosed 0 u.argument = some 0

namespace OperatorUse

variable {u : OperatorUse}

theorem text_ne_nil (u : OperatorUse) : u.text ≠ [] := by
  rw [text]
  exact List.append_ne_nil_of_right_ne_nil _ (List.append_ne_nil_of_right_ne_nil _ (by simp))

theorem bare_argument (h : Bare u.text) : Bare u.argument := by
  rw [text, Bare.append_iff, Bare.append_iff] at h
  exact h.2.1

theorem IsWritten.balanced {after : List Char} (h : u.IsWritten after) (hbare : Bare u.text) :
    u.Balanced :=
  ⟨h.listed, bare_argument hbare,
    (closingParen?_eq_iff (bare_argument hbare) 0 '(' after).1 h.closed⟩

theorem Balanced.isWritten (h : u.Balanced) (after : List Char) : u.IsWritten after :=
  ⟨h.listed, (closingParen?_eq_iff h.bare 0 '(' after).2 h.balanced⟩

theorem Balanced.bare_text (h : u.Balanced) : Bare u.text := by
  rw [text, Bare.append_iff, Bare.append_iff]
  exact ⟨Bare.marker h.listed, h.bare, by simp [Bare, isQuote]⟩

/-- The text of an operator leaves the count of open parentheses. -/
theorem Balanced.unclosed_text (h : u.Balanced) (depth : Nat) :
    unclosed depth u.text = some depth := by
  have hmarker : ∀ m ∈ operators, ∃ name, m.1.toList = name ++ ['('] ∧
      ∀ c ∈ name, c ≠ '(' ∧ c ≠ ')' := by
    have hall : ∀ m ∈ operators, m.1.toList = m.1.toList.dropLast ++ ['('] ∧
        ∀ c ∈ m.1.toList.dropLast, c ≠ '(' ∧ c ≠ ')' := by
      simp [operators]
    exact fun m hm => ⟨_, hall m hm⟩
  obtain ⟨name, hname, hparens⟩ := hmarker _ h.listed
  have hargument := unclosed_add (k := depth + 1) h.balanced
  rw [Nat.zero_add] at hargument
  rw [text, hname, List.append_assoc, unclosed_append, unclosed_of_notMem hparens,
    Option.bind_some, List.singleton_append, unclosed_cons, if_pos rfl, unclosed_append, hargument]
  rfl

end OperatorUse

/-! ## Where operators open -/

/-- A place where plain text may end: the end of the text or an operator. -/
def EndsPlain (cs : List Char) : Prop := cs = [] ∨ operatorAt? cs ≠ none

namespace EndsPlain

variable {cs : List Char}

/-- An operator opens with a colon. -/
theorem eq_colon {c : Char} (h : EndsPlain (c :: cs)) : c = ':' := by
  rcases h with h | h
  · cases h
  · exact not_not.1 fun hc => h (operatorAt?_eq_none hc cs)

/-- There are no blanks where plain text ends. -/
theorem trimStart (h : EndsPlain cs) : Text.trimStart cs = cs := by
  cases cs with
  | nil => rfl
  | cons c cs =>
    obtain rfl := h.eq_colon
    exact trimStart_cons (by decide) cs

theorem text {u : OperatorUse} (h : u.Balanced) (rest : List Char) : EndsPlain (u.text ++ rest) := by
  right
  rw [OperatorUse.operatorAt?_text (h.isWritten rest)]
  exact Option.some_ne_none _

end EndsPlain

/-- A text that begins two others together begins the first one or goes on into the second. -/
theorem prefix_or_goes_on {p x y : List Char} (h : p <+: x ++ y) :
    p <+: x ∨ ∃ c t, p = x ++ c :: t ∧ c :: t <+: y := by
  rcases List.prefix_or_prefix_of_prefix h (List.prefix_append x y) with hle | ⟨t, rfl⟩
  · exact Or.inl hle
  · cases t with
    | nil =>
      rw [List.append_nil]
      exact Or.inl (List.prefix_refl x)
    | cons c t => exact Or.inr ⟨c, t, rfl, (List.prefix_append_right_inj x).1 h⟩

variable {m : String × Operator}

/-- The opening text of an operator does not go on where plain text ends. -/
theorem prefix_of_endsPlain (hm : m ∈ operators) {x y : List Char} (hx : x ≠ [])
    (hy : EndsPlain y) (h : m.1.toList <+: x ++ y) : m.1.toList <+: x := by
  have hname : ∀ m ∈ operators, ':' ∉ m.1.toList.tail := by decide
  refine (prefix_or_goes_on h).resolve_right ?_
  rintro ⟨c, t, hmarker, z, rfl⟩
  obtain rfl := hy.eq_colon
  obtain ⟨d, x, rfl⟩ := List.exists_cons_of_ne_nil hx
  refine hname m hm ?_
  rw [hmarker, List.cons_append, List.tail_cons]
  exact List.mem_append_right _ (List.mem_cons_self ..)

/-- The opening text of an operator does not end in a blank. -/
theorem prefix_of_blank (hm : m ∈ operators) {x w : List Char} (hw : ∀ c ∈ w, isBlank c = true)
    (h : m.1.toList <+: x ++ w) : m.1.toList <+: x := by
  have hlast : ∀ m ∈ operators, m.1.toList.getLast? = some '(' := by decide
  refine (prefix_or_goes_on h).resolve_right ?_
  rintro ⟨c, t, hmarker, ht⟩
  have hparen := hlast m hm
  rw [hmarker, List.getLast?_append_cons] at hparen
  exact absurd (hw _ (ht.subset (List.mem_of_getLast? hparen))) (by decide)

/-- No operator opens at a place when none does in the text without its trailing blanks, which plain
text ends after. -/
theorem operatorAt?_eq_none_of_trimEnd {x y z : List Char} (hx : x ≠ []) (hy : EndsPlain y)
    (hz : trimEnd x <+: z) (h : operatorAt? z = none) : operatorAt? (x ++ y) = none := by
  cases hop : operatorAt? (x ++ y) with
  | none => rfl
  | some m =>
    obtain ⟨hm, hpre⟩ := operatorAt?_some hop
    have hstart := prefix_of_endsPlain hm hx hy hpre
    obtain ⟨w, hw, hblank⟩ := exists_append_trimEnd x
    rw [hw] at hstart
    have hfound := operatorAt?_eq_some hm ((prefix_of_blank hm hblank hstart).trans hz)
    rw [h] at hfound
    cases hfound

/-- No operator opens at a place when none did before the text was cut where plain text ends. -/
theorem operatorAt?_eq_none_of_isPrefix {x y z : List Char} (hx : x ≠ []) (hy : EndsPlain y)
    (hz : x <+: z) (h : operatorAt? z = none) : operatorAt? (x ++ y) = none :=
  operatorAt?_eq_none_of_trimEnd hx hy ((trimEnd_isPrefix x).trans hz) h

/-! ## Gaps without the blanks at their ends -/

/-- A blank is a piece of its own. -/
theorem BarePiece.eq_nil_of_blank {c : Char} {taken after : List Char}
    (h : BarePiece (c :: taken) after) (hc : isBlank c = true) : taken = [] := by
  cases h with
  | char bracket opening closing => rfl
  | brackets inner => exact absurd hc (by decide)
  | bracket inner => exact absurd hc (by decide)
  | parens balanced => exact absurd hc (by decide)

/-- A piece without its trailing blanks is a piece, or nothing. -/
theorem BarePiece.trimEnd {p after after' : List Char} (h : BarePiece p after)
    (hafter : after = [] → after' = []) :
    Text.trimEnd p = [] ∨ BarePiece (Text.trimEnd p) after' := by
  have hkeep {c : Char} (hc : isBlank c = false) (cs : List Char) :
      Text.trimEnd (cs ++ [c]) = cs ++ [c] := trimEnd_append hc cs []
  cases h with
  | @char c bracket opening closing =>
    cases hc : isBlank c with
    | true => exact Or.inl (trimEnd_eq_nil_iff.2 (trimStart_eq_nil_iff.2 (by simpa using hc)))
    | false =>
      have hend : Text.trimEnd [c] = [c] := hkeep hc []
      rw [hend]
      exact Or.inr (BarePiece.char bracket opening closing after')
  | @brackets inside inner =>
    have hend : Text.trimEnd ('[' :: (inside ++ [']'])) = '[' :: (inside ++ [']']) :=
      hkeep (by decide) ('[' :: inside)
    rw [hend]
    exact Or.inr (BarePiece.brackets inner after')
  | @bracket inside inner =>
    have hend : Text.trimEnd ('[' :: inside) = '[' :: Text.trimEnd inside :=
      trimEnd_append (by decide) [] inside
    rw [hend, hafter rfl]
    exact Or.inr (BarePiece.bracket fun hmem => inner ((trimEnd_isPrefix inside).subset hmem))
  | @parens inside balanced =>
    have hend : Text.trimEnd ('(' :: (inside ++ [')'])) = '(' :: (inside ++ [')']) :=
      hkeep (by decide) ('(' :: inside)
    rw [hend]
    exact Or.inr (BarePiece.parens balanced after')

section Gaps

variable {before : Option Char} {gap after after' : List Char}

/-- The blanks before a gap are no part of what it holds. -/
theorem Gap.trimStart (h : Gap (bracketLength '[') before gap after) (hbare : Bare (gap ++ after)) :
    ∃ before', Gap (bracketLength '[') before' (Text.trimStart gap) after := by
  induction h with
  | nil before after => exact ⟨before, Gap.nil before after⟩
  | @piece before p gap after piece noOperator more ih =>
    rw [List.append_assoc] at hbare
    obtain ⟨hp, hgap⟩ := Bare.append_iff.1 hbare
    obtain ⟨c, taken, rfl⟩ := piece.exists_cons
    cases hc : isBlank c with
    | false =>
      rw [List.cons_append, trimStart_cons hc]
      exact ⟨before, Gap.piece piece noOperator more⟩
    | true =>
      obtain rfl := (piece.bare hp hgap).eq_nil_of_blank hc
      rw [trimStart_append_of_blank (trimStart_eq_nil_iff.2 (by simpa using hc))]
      exact ih hgap
  | @native before u gap after written stays more ih =>
    obtain ⟨name, hname, -⟩ := exists_colon_cons written.listed
    refine ⟨before, ?_⟩
    have hstart : Text.trimStart (u.text ++ gap) = u.text ++ gap := by
      rw [OperatorUse.text, hname]
      exact trimStart_cons (by decide) _
    rw [hstart]
    exact Gap.native written stays more

/-- A gap ends before its trailing blanks, whatever comes after them at the end of plain text. -/
theorem Gap.trimEnd (h : Gap (bracketLength '[') before gap after) :
    Bare (gap ++ after) → EndsPlain after → EndsPlain after' → (after = [] → after' = []) →
      ∀ before', Gap (bracketLength '[') before' (Text.trimEnd gap) after' := by
  induction h with
  | nil before after => exact fun _ _ _ _ before' => Gap.nil before' after'
  | @piece before p gap after piece noOperator more ih =>
    intro hbare hafter hafter' hend before'
    rw [List.append_assoc] at hbare
    obtain ⟨hp, hgap⟩ := Bare.append_iff.1 hbare
    have hpiece := piece.bare hp hgap
    by_cases hblank : Text.trimStart gap = []
    · -- Only blanks follow the piece, and it may be one itself.
      rw [trimEnd_append_of_blank hblank]
      have hnil {x y : List Char} (h : x ++ y = []) : y = [] := (List.append_eq_nil_iff.1 h).2
      rcases hpiece.trimEnd fun h => hend (hnil h) with hnil | htrimmed
      · rw [hnil]
        exact Gap.nil before' after'
      · have hne : Text.trimEnd p ≠ [] := by
          intro hnil
          rw [hnil] at htrimmed
          cases htrimmed
        have hbare' : Bare (Text.trimEnd p) := hp.mono (trimEnd_isPrefix p).subset
        have hpre : Text.trimEnd p <+: p ++ (gap ++ after) :=
          (trimEnd_isPrefix p).trans (List.prefix_append ..)
        rw [← List.append_nil (Text.trimEnd p)]
        exact Gap.piece (htrimmed.piece hbare' before')
          (operatorAt?_eq_none_of_isPrefix hne hafter' hpre noOperator) (Gap.nil _ after')
    · rw [trimEnd_append_of_ne hblank]
      have hne : gap ≠ [] := fun hnil => hblank (by rw [hnil]; rfl)
      have hpre : p ++ Text.trimEnd gap <+: p ++ (gap ++ after) := by
        rw [List.prefix_append_right_inj]
        exact (trimEnd_isPrefix gap).trans (List.prefix_append ..)
      refine Gap.piece ?_ ?_ (ih hgap hafter hafter' hend _)
      · exact (hpiece.congr fun hnil => absurd (List.append_eq_nil_iff.1 hnil).1 hne).piece hp _
      · obtain ⟨c, taken, rfl⟩ := piece.exists_cons
        rw [← List.append_assoc]
        exact operatorAt?_eq_none_of_isPrefix (List.cons_ne_nil c _) hafter' hpre noOperator
  | @native before u gap after written stays more ih =>
    intro hbare hafter hafter' hend before'
    rw [List.append_assoc] at hbare
    obtain ⟨hu, hgap⟩ := Bare.append_iff.1 hbare
    have hbalanced := written.balanced hu
    -- An operator that stays in the CSS has more of it before the plain text ends.
    have hne : Text.trimStart gap ≠ [] := by
      intro hblank
      have hmore := stays.more
      have hnone := stays.noOperator
      rw [trimStart_append_of_blank hblank, hafter.trimStart] at hmore hnone
      exact (hafter.resolve_left hmore) hnone
    have hne' : Text.trimStart (Text.trimEnd gap) ≠ [] := by
      rwa [← trimEnd_eq_nil_iff.ne, trimEnd_trimEnd, trimEnd_eq_nil_iff.ne]
    obtain ⟨w, hw, -⟩ := exists_append_trimEnd gap
    have hpre : Text.trimStart (Text.trimEnd gap) <+: Text.trimStart (gap ++ after) := by
      rw [trimStart_append_of_ne hne]
      refine List.IsPrefix.trans ⟨w, ?_⟩ (List.prefix_append ..)
      rw [← trimStart_append_of_ne hne', ← hw]
    rw [trimEnd_append_of_ne hne]
    refine Gap.native (hbalanced.isWritten _) ⟨stays.native, stays.plain, ?_, ?_⟩
      (ih hgap hafter hafter' hend _)
    · rw [trimStart_append_of_ne hne']
      exact List.append_ne_nil_of_left_ne_nil hne' _
    · rw [trimStart_append_of_ne hne']
      exact operatorAt?_eq_none_of_isPrefix hne' hafter' hpre stays.noOperator

/-- **A gap is one without the blanks at its ends**, whatever comes before it and after it at the
end of plain text. -/
theorem Gap.trim (h : Gap (bracketLength '[') before gap after) (hbare : Bare (gap ++ after))
    (hafter : EndsPlain after) (hafter' : EndsPlain after') (hend : after = [] → after' = [])
    (before' : Option Char) : Gap (bracketLength '[') before' (Text.trim gap) after' := by
  obtain ⟨before₁, hgap⟩ := h.trimStart hbare
  refine hgap.trimEnd ?_ hafter hafter' hend before'
  rw [Bare.append_iff] at hbare ⊢
  exact ⟨hbare.1.mono fun c hc => mem_of_mem_trimStart hc, hbare.2⟩

/-- The gap before an operator is one before any other. -/
theorem Gap.trim_text {u u' : OperatorUse} {rest : List Char}
    (h : Gap (bracketLength '[') before gap (u.text ++ rest)) (hgap : Bare gap) (hrest : Bare rest)
    (hu : u.Balanced) (hu' : u'.Balanced) (rest' : List Char) (before' : Option Char) :
    Gap (bracketLength '[') before' (Text.trim gap) (u'.text ++ rest') := by
  refine h.trim ?_ (EndsPlain.text hu rest) (EndsPlain.text hu' rest') ?_ before'
  · rw [Bare.append_iff, Bare.append_iff]
    exact ⟨hgap, hu.bare_text, hrest⟩
  · exact fun hnil => absurd (List.append_eq_nil_iff.1 hnil).1 u.text_ne_nil

end Gaps

end PageGuard
