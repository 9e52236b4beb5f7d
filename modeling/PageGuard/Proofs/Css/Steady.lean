import PageGuard.Proofs.Css.Brackets

/-!
# Selectors before the end of a text

Reading a list of selectors goes on in the same way when more tokens follow, unless the reader has
come to the end of the text.  More fuel does not matter either.

* `readSimples?_step`, `readCompound?_step`, `readJoined?_step`, `readList?_step`: what each reader
  did first.
* `steady`: what is read before the end is read whatever follows, also with more fuel.
-/

namespace PageGuard.Css

/-! ## Selectors before the end -/

/-- What a reader of selectors did that leaves `r`: the end of the text may have closed brackets that
it opened, and unless it came to the end it goes on in the same way whatever follows. -/
def Continues (ts r : List Token) (same : List Token → Prop) : Prop :=
  r <:+ ts ∧ levels r ≤ levels ts ∧ (r ≠ [] → levels ts = levels r ∧ ∀ more, same more)

theorem Continues.after {ts us r : List Token} {same same' : List Token → Prop}
    (h : Continues us r same) (hsuffix : us <:+ ts) (hlevels : levels ts = levels us)
    (hsame : ∀ more, same more → same' more) : Continues ts r same' := by
  refine ⟨h.1.trans hsuffix, ?_, fun hr => ⟨?_, fun more => hsame more ((h.2.2 hr).2 more)⟩⟩
  · rw [hlevels]
    exact h.2.1
  · rw [hlevels]
    exact (h.2.2 hr).1

/-- Reading on after a reader that did not come to the end. -/
theorem Continues.trans {ts us r : List Token} {same same' same'' : List Token → Prop}
    (h : Continues ts us same) (h' : Continues us r same')
    (hsame : ∀ more, same more → same' more → same'' more) : Continues ts r same'' := by
  refine ⟨h'.1.trans h.1, Int.le_trans h'.2.1 h.2.1, fun hr => ?_⟩
  have hus : us ≠ [] := by
    rintro rfl
    exact hr (List.suffix_nil.1 h'.1)
  obtain ⟨hlevels, hread⟩ := h.2.2 hus
  obtain ⟨hlevels', hread'⟩ := h'.2.2 hr
  exact ⟨hlevels.trans hlevels', fun more => hsame more (hread more) (hread' more)⟩

/-- Selectors in parentheses, after the opening token. -/
theorem Continues.closed {ts us r : List Token} {same same' same'' : List Token → Prop}
    (h : Continues ts us same) (h' : Closed us r same')
    (hsame : ∀ more, same more → same' more → same'' more) : Closed ts r same'' := by
  refine ⟨h'.1.trans h.1, ?_⟩
  by_cases hus : us = []
  · subst hus
    have hr := List.suffix_nil.1 h'.1
    exact Or.inr ⟨hr, h.2.1⟩
  · obtain ⟨hlevels, hread⟩ := h.2.2 hus
    rw [hlevels]
    exact h'.2.imp_left fun hc => ⟨hc.1, fun more => hsame more (hread more) (hc.2 more)⟩

/-- A reader that goes on in the same way whatever follows, also with more fuel. -/
def Steady {α : Type} (read : Nat → List Token → Option (α × List Token)) (n : Nat) : Prop :=
  ∀ ts a r, read n ts = some (a, r) →
    Continues ts r fun more => ∀ m, n ≤ m → read m (ts ++ more) = some (a, r ++ more)

/-- Simple selectors in front of those that a reader finds. -/
def addSimples (s : List Simple) (x : List Simple × List Token) : List Simple × List Token :=
  (s ++ x.1, x.2)

/-- What became of one simple selector, whose conditions are `s`, when `us` is left: it was read up
to there whatever follows, or the end of the text closed a bracket. -/
def Took (n : Nat) (s : List Simple) (ts us : List Token) : Prop :=
  us <:+ ts ∧ ((levels ts = levels us ∧ ∀ more m, n ≤ m →
    readSimples? (m + 1) (ts ++ more) = (readSimples? m (us ++ more)).map (addSimples s)) ∨
      (us = [] ∧ 0 < levels ts))

/-- A simple selector without brackets. -/
theorem Took.of_flat {n : Nat} {s : List Simple} {ts us : List Token} (hsuffix : us <:+ ts)
    (hlevels : levels ts = levels us) (hsame : ∀ more m,
      readSimples? (m + 1) (ts ++ more) = (readSimples? m (us ++ more)).map (addSimples s)) :
    Took n s ts us :=
  ⟨hsuffix, Or.inl ⟨hlevels, fun more m _ => hsame more m⟩⟩

/-- A simple selector with brackets around `us`. -/
theorem Took.of_closed {n : Nat} {s : List Simple} {ts us vs : List Token}
    {same : List Token → Prop} (h : Closed us vs same) (hsuffix : us <:+ ts)
    (hlevels : levels ts = 1 + levels us) (hsame : ∀ more, same more → ∀ m, n ≤ m →
      readSimples? (m + 1) (ts ++ more) = (readSimples? m (vs ++ more)).map (addSimples s)) :
    Took n s ts vs := by
  refine ⟨h.1.trans hsuffix, ?_⟩
  rcases h.2 with ⟨hlevel, hclose⟩ | ⟨rfl, hlevel⟩
  · exact Or.inl ⟨by omega, fun more => hsame more (hclose more)⟩
  · exact Or.inr ⟨rfl, by omega⟩

/-- A token with which a simple selector begins that is no type selector. -/
def Token.opensSimple : Token → Bool
  | .hash _ true => true
  | .delim '.' => true
  | .openBracket => true
  | .colon => true
  | _ => false

/-- The simple selectors end before a token that opens none. -/
theorem readSimples?_stop (n : Nat) {t : Token} (ht : t.opensSimple = false) (ts : List Token) :
    readSimples? (n + 1) (t :: ts) = some ([], t :: ts) := by
  have hne {u : Token} {us vs : List Token} (hu : u.opensSimple = true) : t :: us ≠ u :: vs := by
    rintro ⟨rfl, -⟩
    rw [ht] at hu
    exact Bool.false_ne_true hu
  rw [readSimples?]
  · exact fun _ _ => hne rfl
  · exact fun _ => hne rfl
  · exact fun _ => hne rfl
  · exact fun _ _ => hne rfl
  · exact fun _ _ => hne rfl
  · exact fun _ => hne rfl

/-- The reader of simple selectors comes to an end, or takes one more. -/
theorem readSimples?_step {n : Nat} (hl : Steady readList? n) {ts r : List Token}
    {ss : List Simple} (h : readSimples? (n + 1) ts = some (ss, r)) :
    (ss = [] ∧ r = ts ∧ ∀ t us, ts = t :: us → t.opensSimple = false) ∨
      ∃ s us, Took n s ts us ∧ (readSimples? n us).map (addSimples s) = some (ss, r) := by
  unfold readSimples? at h
  dsimp only at h
  split at h
  · rename_i name rest
    refine Or.inr ⟨[.id name], rest, Took.of_flat (List.suffix_cons _ _) (Int.zero_add _) ?_, h⟩
    intro more m
    rw [List.cons_append, readSimples?]
    rfl
  · split at h
    · rename_i name rest
      refine Or.inr ⟨[.class name], rest, Took.of_flat ⟨[.delim '.', .ident name], rfl⟩ ?_ ?_, h⟩
      · simp [Token.level]
      · intro more m
        rw [List.cons_append, List.cons_append, readSimples?]
        rfl
    · cases h
  · rename_i rest
    obtain ⟨⟨s, us⟩, hattribute, h⟩ := Option.bind_eq_some_iff.1 h
    refine Or.inr ⟨[s], us, Took.of_closed (closed_readAttribute? hattribute)
      (List.suffix_cons _ _) rfl ?_, h⟩
    intro more hmore m _
    rw [List.cons_append, readSimples?, hmore]
    rfl
  · rename_i name rest
    obtain ⟨s, hclass, h⟩ := Option.bind_eq_some_iff.1 h
    refine Or.inr ⟨s, rest, Took.of_flat ⟨[.colon, .ident name], rfl⟩ ?_ ?_, h⟩
    · simp [Token.level]
    · intro more m
      rw [List.cons_append, List.cons_append, readSimples?, hclass]
      rfl
  · rename_i name rest
    have hsuffix : rest <:+ .colon :: .function name :: rest := ⟨[.colon, .function name], rfl⟩
    have hlevels : levels (.colon :: .function name :: rest) = 1 + levels rest := by
      simp [Token.level]
    split at h
    · rename_i fromEnd ofType hkind
      obtain ⟨⟨⟨step, start⟩, vs⟩, hnth, h⟩ := Option.bind_eq_some_iff.1 h
      obtain ⟨us, hclose, h⟩ := Option.bind_eq_some_iff.1 h
      refine Or.inr ⟨[.nth ⟨step, start, fromEnd, ofType⟩], us, Took.of_closed
        ((reads_readNth? hnth).closed (closed_closeParen? hclose) fun more => And.intro)
          hsuffix hlevels ?_, h⟩
      rintro more ⟨hn, hc⟩ m -
      rw [List.cons_append, List.cons_append, readSimples?, hkind, hn]
      simp only [Option.bind_eq_bind, Option.bind_some, hc]
      rfl
    · rename_i hkind
      split_ifs at h with hnot
      obtain ⟨⟨selectors, vs⟩, hlist, h⟩ := Option.bind_eq_some_iff.1 h
      obtain ⟨us, hclose, h⟩ := Option.bind_eq_some_iff.1 h
      refine Or.inr ⟨[.not selectors], us, Took.of_closed
        ((hl _ _ _ hlist).closed (closed_closeParen? hclose) fun more => And.intro)
          hsuffix hlevels ?_, h⟩
      rintro more ⟨hn, hc⟩ m hm
      rw [List.cons_append, List.cons_append, readSimples?, hkind]
      simp only [if_pos hnot, hn m hm, Option.bind_eq_bind, Option.bind_some, hc]
      rfl
  · cases h
  · left
    obtain ⟨rfl, rfl⟩ := Prod.mk.inj (Option.some.inj h)
    refine ⟨rfl, rfl, fun t us hts => ?_⟩
    subst hts
    unfold Token.opensSimple
    split <;> simp_all

theorem steady_readSimples? {n : Nat} (hs : Steady readSimples? n) (hl : Steady readList? n) :
    Steady readSimples? (n + 1) := by
  intro ts ss r h
  rcases readSimples?_step hl h with ⟨rfl, rfl, hstop⟩ | ⟨s, us, htook, h⟩
  · refine ⟨List.suffix_refl _, Int.le_refl _, fun hr => ⟨rfl, fun more m hm => ?_⟩⟩
    obtain ⟨t, us, rfl⟩ := List.exists_cons_of_ne_nil hr
    obtain ⟨k, rfl⟩ := Nat.exists_eq_add_of_le' (Nat.one_le_of_lt hm)
    exact readSimples?_stop k (hstop t us rfl) (us ++ more)
  · obtain ⟨⟨ss', r'⟩, hss, heq⟩ := Option.map_eq_some_iff.1 h
    obtain ⟨rfl, rfl⟩ := Prod.mk.inj heq
    have hrest := hs _ _ _ hss
    refine ⟨hrest.1.trans htook.1, ?_, fun hr => ?_⟩
    · rcases htook.2 with ⟨hlevels, -⟩ | ⟨rfl, hlevels⟩
      · rw [hlevels]
        exact hrest.2.1
      · obtain rfl := List.suffix_nil.1 hrest.1
        exact Int.le_of_lt hlevels
    · obtain ⟨hlevels', hread⟩ := hrest.2.2 hr
      rcases htook.2 with ⟨hlevels, htake⟩ | ⟨rfl, -⟩
      · refine ⟨hlevels.trans hlevels', fun more m hm => ?_⟩
        obtain ⟨k, rfl⟩ := Nat.exists_eq_add_of_le' (Nat.one_le_of_lt hm)
        rw [htake more k (by omega), hread more k (by omega)]
        rfl
      · exact absurd (List.suffix_nil.1 hrest.1) hr

/-! ## Compound selectors -/

/-- A text does not begin with the mark of a namespace. -/
def NoBar (ts : List Token) : Prop := ∀ us, ts ≠ .delim '|' :: us

theorem readLocal?_eq_some {ts us : List Token} {s : Simple} (h : readLocal? ts = some (s, us)) :
    ∃ t, t.level = 0 ∧ ts = t :: us ∧ ∀ more, readLocal? (t :: more) = some (s, more) := by
  unfold readLocal? at h
  split at h
  · simp only [Option.some.injEq, Prod.mk.injEq] at h
    obtain ⟨rfl, rfl⟩ := h
    exact ⟨_, rfl, rfl, fun more => rfl⟩
  · simp only [Option.some.injEq, Prod.mk.injEq] at h
    obtain ⟨rfl, rfl⟩ := h
    exact ⟨_, rfl, rfl, fun more => rfl⟩
  · cases h

/-- The type selector is read whatever follows, unless it ends the text and a mark of a namespace
follows. -/
theorem readType?_spec {t : Token} {ts us : List Token} {type : List Simple}
    (h : readType? (t :: ts) = some (type, us)) : us <:+ t :: ts ∧ levels (t :: ts) = levels us ∧
      ∀ more, (us = [] → NoBar more) →
        readType? (t :: (ts ++ more)) = some (type, us ++ more) := by
  have hbar {name : List Token} {more : List Token} (hname : ∀ vs, name ≠ .delim '|' :: vs)
      (hmore : name = [] → NoBar more) : ∀ vs, name ++ more ≠ .delim '|' :: vs := by
    intro vs heq
    cases name with
    | nil => exact hmore rfl vs heq
    | cons u us => exact hname us (by rw [(List.cons.inj heq).1])
  unfold readType? at h
  split at h
  · cases h
  · rename_i name rest hnobar heq
    simp only [Option.some.injEq, Prod.mk.injEq, List.cons.injEq] at h heq
    obtain ⟨rfl, rfl⟩ := h
    obtain ⟨rfl, rfl⟩ := heq
    refine ⟨List.suffix_cons _ _, Int.zero_add _, fun more hmore => ?_⟩
    rw [readType?]
    exact fun vs => hbar (fun vs heq => hnobar vs heq) hmore vs
  · rename_i rest heq
    obtain ⟨rfl, rfl⟩ := List.cons.inj heq
    obtain ⟨⟨s, us'⟩, hlocal, heq⟩ := Option.map_eq_some_iff.1 h
    obtain ⟨rfl, rfl⟩ := Prod.mk.inj heq
    obtain ⟨u, hu, rfl, hread⟩ := readLocal?_eq_some hlocal
    refine ⟨⟨[.delim '*', .delim '|', u], rfl⟩, ?_, fun more _ => ?_⟩
    · rw [levels_cons, levels_cons, levels_cons, hu]
      simp [Token.level]
    · rw [List.cons_append, List.cons_append, readType?, hread, Option.map_some]
  · rename_i rest hnobar heq
    simp only [Option.some.injEq, Prod.mk.injEq, List.cons.injEq] at h heq
    obtain ⟨rfl, rfl⟩ := h
    obtain ⟨rfl, rfl⟩ := heq
    refine ⟨List.suffix_cons _ _, Int.zero_add _, fun more hmore => ?_⟩
    rw [readType?]
    exact fun vs => hbar (fun vs heq => hnobar vs heq) hmore vs
  · rename_i rest heq
    obtain ⟨rfl, rfl⟩ := List.cons.inj heq
    obtain ⟨⟨s, us'⟩, hlocal, heq⟩ := Option.map_eq_some_iff.1 h
    obtain ⟨rfl, rfl⟩ := Prod.mk.inj heq
    obtain ⟨u, hu, rfl, hread⟩ := readLocal?_eq_some hlocal
    refine ⟨⟨[.delim '|', u], rfl⟩, ?_, fun more _ => ?_⟩
    · rw [levels_cons, levels_cons, hu]
      simp [Token.level]
    · rw [List.cons_append, readType?, hread, Option.map_some]
  · rename_i _ hident _ hstar hmark
    simp only [Option.some.injEq, Prod.mk.injEq] at h
    obtain ⟨rfl, rfl⟩ := h
    refine ⟨List.suffix_refl _, rfl, fun more _ => ?_⟩
    rw [readType?]
    · rfl
    · exact fun name _ heq => hident name ts (by rw [(List.cons.inj heq).1])
    · exact fun name _ heq => hident name ts (by rw [(List.cons.inj heq).1])
    · exact fun _ heq => hstar ts (by rw [(List.cons.inj heq).1])
    · exact fun _ heq => hstar ts (by rw [(List.cons.inj heq).1])
    · exact fun _ heq => hmark ts (by rw [(List.cons.inj heq).1])

/-- The simple selectors of nothing are none. -/
theorem readSimples?_nil {n : Nat} {x : List Simple × List Token}
    (h : readSimples? n [] = some x) : x = ([], []) := by
  cases n with
  | zero => cases h
  | succ n => exact (Option.some.inj h).symm

/-- A compound selector is a type selector, or none, and simple selectors after it. -/
theorem readCompound?_step {n : Nat} {ts r : List Token} {parts : List Simple}
    (h : readCompound? (n + 1) ts = some (parts, r)) : ∃ type us ss,
      us <:+ ts ∧ levels ts = levels us ∧ readSimples? n us = some (ss, r) ∧
        parts = type ++ ss ∧ parts ≠ [] ∧ ∀ more m x, (us = [] → NoBar more) →
          readSimples? m (us ++ more) = some x → type ++ x.1 ≠ [] →
            readCompound? (m + 1) (ts ++ more) = some (type ++ x.1, x.2) := by
  rw [readCompound?] at h
  obtain ⟨⟨type, us⟩, htype, h⟩ := Option.bind_eq_some_iff.1 h
  obtain ⟨⟨ss, r'⟩, hss, h⟩ := Option.bind_eq_some_iff.1 h
  dsimp only at h
  split_ifs at h with hempty
  simp only [pure, Option.some.injEq, Prod.mk.injEq] at h
  obtain ⟨rfl, rfl⟩ := h
  rw [List.isEmpty_iff] at hempty
  cases hskip : skipSpace ts with
  | nil =>
    rw [hskip] at htype
    obtain ⟨rfl, rfl⟩ := Prod.mk.inj (Option.some.inj htype)
    obtain ⟨rfl, -⟩ := Prod.mk.inj (readSimples?_nil hss)
    exact absurd rfl hempty
  | cons t vs =>
    obtain ⟨hsuffix, hlevels, hmore⟩ := skipSpace_eq_cons hskip
    rw [hskip] at htype
    obtain ⟨htsuffix, htlevels, htmore⟩ := readType?_spec htype
    refine ⟨type, us, ss, htsuffix.trans hsuffix, hlevels.trans htlevels, hss, rfl, hempty, ?_⟩
    intro more m x hbar hx hne
    rw [readCompound?, hmore, htmore more hbar]
    simp only [Option.bind_eq_bind, Option.bind_some, hx]
    rw [if_neg]
    · rfl
    · rwa [List.isEmpty_iff]

theorem steady_readCompound? {n : Nat} (hs : Steady readSimples? n) :
    Steady readCompound? (n + 1) := by
  intro ts parts r h
  obtain ⟨type, us, ss, hsuffix, hlevels, hss, rfl, hne, hmore⟩ := readCompound?_step h
  have hus := hs _ _ _ hss
  refine ⟨hus.1.trans hsuffix, ?_, fun hr => ?_⟩
  · rw [hlevels]
    exact hus.2.1
  · obtain ⟨hlevels', hread⟩ := hus.2.2 hr
    refine ⟨hlevels.trans hlevels', fun more m hm => ?_⟩
    obtain ⟨k, rfl⟩ := Nat.exists_eq_add_of_le' (Nat.one_le_of_lt hm)
    have hnil : us = [] → NoBar more := by
      rintro rfl
      exact absurd (List.suffix_nil.1 hus.1) hr
    exact hmore more k _ hnil (hread more k (by omega)) hne

/-! ## Combinators -/

/-- A combinator, or the end of a selector, is found whatever follows, unless white space ends the
text. -/
theorem readCombinator_spec {r : List Token} {c : Option Combinator} :
    ∀ {spaced : Bool} {ts : List Token}, readCombinator spaced ts = (c, r) →
      r <:+ ts ∧ levels ts = levels r ∧
        (c.isSome ∨ r ≠ [] → ∀ more, readCombinator spaced (ts ++ more) = (c, r ++ more)) ∧
        (c = none → r = [] → ∀ t ∈ ts, t = .space)
  | spaced, [], h => by
    have hnil : readCombinator spaced [] = (none, []) := by cases spaced <;> rfl
    obtain ⟨rfl, rfl⟩ := Prod.mk.inj (hnil.symm.trans h)
    exact ⟨List.suffix_refl _, rfl, fun hne => absurd hne (by simp),
      fun _ _ => List.forall_mem_nil _⟩
  | spaced, t :: ts, h => by
    have hsign {d : Char} {k : Combinator}
        (hread : ∀ us, readCombinator spaced (.delim d :: us) = (some k, us))
        (h : readCombinator spaced (.delim d :: ts) = (c, r)) :
        r <:+ .delim d :: ts ∧ levels (.delim d :: ts) = levels r ∧
          (c.isSome ∨ r ≠ [] →
            ∀ more, readCombinator spaced (.delim d :: ts ++ more) = (c, r ++ more)) ∧
          (c = none → r = [] → ∀ u ∈ .delim d :: ts, u = .space) := by
      obtain ⟨rfl, rfl⟩ := Prod.mk.inj ((hread ts).symm.trans h)
      exact ⟨List.suffix_cons _ _, Int.zero_add _, fun _ more => hread _, fun hk => by cases hk⟩
    by_cases hspace : t = .space
    · subst hspace
      rw [readCombinator] at h
      obtain ⟨hsuffix, hlevels, hmore, hend⟩ := readCombinator_spec h
      refine ⟨hsuffix.trans (List.suffix_cons _ _), (Int.zero_add _).trans hlevels, ?_, ?_⟩
      · intro hr more
        rw [List.cons_append, readCombinator, hmore hr]
      · intro hc hr u hu
        rcases List.mem_cons.1 hu with rfl | hu
        · rfl
        · exact hend hc hr u hu
    by_cases hchild : t = .delim '>'
    · subst hchild
      exact hsign (fun us => rfl) h
    by_cases hnext : t = .delim '+'
    · subst hnext
      exact hsign (fun us => rfl) h
    by_cases hlater : t = .delim '~'
    · subst hlater
      exact hsign (fun us => rfl) h
    · have hother (us : List Token) : readCombinator spaced (t :: us) =
          (if spaced && !atEnd (t :: us) then some .descendant else none, t :: us) := by
        rw [readCombinator]
        · exact fun _ heq => hspace (List.cons.inj heq).1
        · exact fun _ heq => hchild (List.cons.inj heq).1
        · exact fun _ heq => hnext (List.cons.inj heq).1
        · exact fun _ heq => hlater (List.cons.inj heq).1
      have hatEnd (us : List Token) : atEnd (t :: us) = atEnd (t :: ts) := by
        cases t <;> rfl
      obtain ⟨rfl, rfl⟩ := Prod.mk.inj ((hother ts).symm.trans h)
      refine ⟨List.suffix_refl _, rfl, fun _ more => ?_, fun _ hr => by cases hr⟩
      rw [List.cons_append, hother, hatEnd]

/-! ## Complex selectors and lists -/

/-- A selector ends here, or a combinator and a compound selector follow. -/
theorem readJoined?_step {n : Nat} {left S : Selector} {ts r : List Token}
    (h : readJoined? (n + 1) left ts = some (S, r)) :
    (S = left ∧ readCombinator false ts = (none, r)) ∨ ∃ c us parts vs,
      readCombinator false ts = (some c, us) ∧ readCompound? n us = some (parts, vs) ∧
        readJoined? n (.joined left c parts) vs = some (S, r) := by
  rw [readJoined?] at h
  split at h
  · rename_i hcombinator
    simp only [Option.some.injEq, Prod.mk.injEq] at h
    obtain ⟨rfl, rfl⟩ := h
    exact Or.inl ⟨rfl, hcombinator⟩
  · rename_i c us hcombinator
    obtain ⟨⟨parts, vs⟩, hparts, h⟩ := Option.bind_eq_some_iff.1 h
    exact Or.inr ⟨c, us, parts, vs, hcombinator, hparts, h⟩

theorem steady_readJoined? {n : Nat} (hc : Steady readCompound? n)
    (hj : ∀ left, Steady (fun n => readJoined? n left) n) (left : Selector) :
    Steady (fun n => readJoined? n left) (n + 1) := by
  intro ts S r h
  rcases readJoined?_step h with ⟨rfl, hend⟩ | ⟨c, us, parts, vs, hcombinator, hparts, hjoined⟩
  · obtain ⟨hsuffix, hlevels, hmore, -⟩ := readCombinator_spec hend
    refine ⟨hsuffix, Int.le_of_eq hlevels.symm, fun hr => ⟨hlevels, fun more m hm => ?_⟩⟩
    obtain ⟨k, rfl⟩ := Nat.exists_eq_add_of_le' (Nat.one_le_of_lt hm)
    change readJoined? (k + 1) S (ts ++ more) = _
    rw [readJoined?, hmore (Or.inr hr)]
  · obtain ⟨hsuffix, hlevels, hmore, -⟩ := readCombinator_spec hcombinator
    have hrest := (hc _ _ _ hparts).trans (hj _ _ _ _ hjoined) fun more => And.intro
    refine hrest.after hsuffix hlevels ?_
    rintro more ⟨hp, hjm⟩ m hm
    obtain ⟨k, rfl⟩ := Nat.exists_eq_add_of_le' (Nat.one_le_of_lt hm)
    change readJoined? (k + 1) left (ts ++ more) = _
    rw [readJoined?, hmore (Or.inl rfl)]
    simp only [hp k (by omega), Option.bind_eq_bind, Option.bind_some]
    exact hjm k (by omega)

/-- A list of selectors is one selector, or one with a comma and a list after it. -/
theorem readList?_step {n : Nat} {ts r : List Token} {L : List Selector}
    (h : readList? (n + 1) ts = some (L, r)) : ∃ parts us first vs,
      readCompound? n ts = some (parts, us) ∧
        readJoined? n (.compound parts) us = some (first, vs) ∧
          ((L = [first] ∧ r = vs ∧ ∀ ws, vs ≠ .comma :: ws) ∨ ∃ ws others,
            vs = .comma :: ws ∧ readList? n ws = some (others, r) ∧ L = first :: others) := by
  rw [readList?] at h
  obtain ⟨⟨parts, us⟩, hparts, h⟩ := Option.bind_eq_some_iff.1 h
  obtain ⟨⟨first, vs⟩, hfirst, h⟩ := Option.bind_eq_some_iff.1 h
  refine ⟨parts, us, first, vs, hparts, hfirst, ?_⟩
  dsimp only at h
  split at h
  · rename_i ws
    obtain ⟨⟨others, r'⟩, hothers, h⟩ := Option.bind_eq_some_iff.1 h
    simp only [pure, Option.some.injEq, Prod.mk.injEq] at h
    obtain ⟨rfl, rfl⟩ := h
    exact Or.inr ⟨ws, others, rfl, hothers, rfl⟩
  · rename_i hcomma
    simp only [pure, Option.some.injEq, Prod.mk.injEq] at h
    obtain ⟨rfl, rfl⟩ := h
    exact Or.inl ⟨rfl, rfl, fun ws hws => hcomma ws hws⟩

theorem steady_readList? {n : Nat} (hc : Steady readCompound? n)
    (hj : ∀ left, Steady (fun n => readJoined? n left) n) (hl : Steady readList? n) :
    Steady readList? (n + 1) := by
  intro ts L r h
  obtain ⟨parts, us, first, vs, hparts, hfirst, hrest⟩ := readList?_step h
  have hone := (hc _ _ _ hparts).trans (hj _ _ _ _ hfirst) fun more => And.intro
  rcases hrest with ⟨rfl, rfl, hcomma⟩ | ⟨ws, others, rfl, hothers, rfl⟩
  · refine ⟨hone.1, hone.2.1, fun hr => ?_⟩
    obtain ⟨hlevels, hmore⟩ := hone.2.2 hr
    refine ⟨hlevels, fun more m hm => ?_⟩
    obtain ⟨k, rfl⟩ := Nat.exists_eq_add_of_le' (Nat.one_le_of_lt hm)
    obtain ⟨t, vs, rfl⟩ := List.exists_cons_of_ne_nil hr
    rw [readList?]
    simp only [(hmore more).1 k (by omega), (hmore more).2 k (by omega), Option.bind_eq_bind,
      Option.bind_some]
    split
    · rename_i ws heq
      rw [List.cons_append, List.cons.injEq] at heq
      exact absurd (by rw [heq.1]) (hcomma vs)
    · rfl
  · have hmore := hone.trans ((hl _ _ _ hothers).after (List.suffix_cons Token.comma ws)
      (Int.zero_add _) fun more => id) fun more => And.intro
    refine ⟨hmore.1, hmore.2.1, fun hr => ?_⟩
    obtain ⟨hlevels, hmore⟩ := hmore.2.2 hr
    refine ⟨hlevels, fun more m hm => ?_⟩
    obtain ⟨k, rfl⟩ := Nat.exists_eq_add_of_le' (Nat.one_le_of_lt hm)
    obtain ⟨⟨hp, hf⟩, ho⟩ := hmore more
    rw [readList?]
    simp only [hp k (by omega), hf k (by omega), Option.bind_eq_bind, Option.bind_some,
      List.cons_append, ho k (by omega)]
    rfl

/-- **What is read before the end is read whatever follows.** -/
theorem steady (n : Nat) : Steady readSimples? n ∧ Steady readCompound? n ∧
    (∀ left, Steady (fun n => readJoined? n left) n) ∧ Steady readList? n := by
  induction n with
  | zero =>
    refine ⟨?_, ?_, fun left => ?_, ?_⟩
    · intro ts a r h
      cases h
    · intro ts a r h
      cases h
    · intro ts a r h
      cases h
    · intro ts a r h
      cases h
  | succ n ih =>
    obtain ⟨hs, hc, hj, hl⟩ := ih
    exact ⟨steady_readSimples? hs hl, steady_readCompound? hs, steady_readJoined? hc hj,
      steady_readList? hc hj hl⟩

end PageGuard.Css
