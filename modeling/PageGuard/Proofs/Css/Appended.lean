import PageGuard.Css.Matching
import PageGuard.Proofs.Css.Steady

/-!
# Tokens after a complete list of selectors

When the brackets of a list of selectors are closed and no white space ends it, more tokens go to
its last compound selector.

* `readList?_end`: the last compound selector takes the simple selectors that follow.
* `ofText?_not`: a `:not(…)` right after a list is one more condition of its last selector.
* `anyMatches_refine_not`: what elements match then.
-/

namespace PageGuard.Css

/-! ## More tokens at the end of a complete text -/

/-- The selector with more conditions in its last compound selector. -/
def Selector.refine (ss : List Simple) : Selector → Selector
  | .compound parts => .compound (parts ++ ss)
  | .joined left c parts => .joined left c (parts ++ ss)

/-- Tokens that a compound selector takes as the simple selectors `ss` and that leave `r`, where the
whole selector ends; `fuel` is enough to read them. -/
structure Tail (more : List Token) (ss : List Simple) (r : List Token) (fuel : Nat) : Prop where
  noBar : NoBar more
  read : ∀ m, fuel ≤ m → readSimples? m more = some (ss, r)
  stop : r = [] ∨ ∃ us, r = .closeParen :: us

section End

variable {more r : List Token} {ss : List Simple} {fuel : Nat}

theorem Tail.fuel_pos (h : Tail more ss r fuel) : 0 < fuel := by
  rcases Nat.eq_zero_or_pos fuel with rfl | hpos
  · cases h.read 0 (Nat.le_refl 0)
  · exact hpos

theorem Tail.readJoined? (h : Tail more ss r fuel) (n : Nat) (S : Selector) :
    Css.readJoined? (n + 1) S r = some (S, r) := by
  rw [Css.readJoined?]
  rcases h.stop with rfl | ⟨us, rfl⟩ <;> rfl

theorem readSimples?_end (htail : Tail more ss r fuel) :
    ∀ {n : Nat} {ts : List Token} {before : List Simple}, readSimples? n ts = some (before, []) →
      levels ts = 0 → ∀ m, n + fuel ≤ m → readSimples? m (ts ++ more) = some (before ++ ss, r)
  | 0, _, _, h, _, _, _ => by cases h
  | n + 1, ts, before, h, hlevels, m, hm => by
    rcases readSimples?_step (steady n).2.2.2 h with ⟨rfl, rfl, -⟩ | ⟨s, us, htook, h⟩
    · exact htail.read m (by omega)
    · obtain ⟨⟨before', r'⟩, hus, heq⟩ := Option.map_eq_some_iff.1 h
      obtain ⟨rfl, rfl⟩ := Prod.mk.inj heq
      rcases htook.2 with ⟨hlevel, htake⟩ | ⟨-, hlevel⟩
      · obtain ⟨k, rfl⟩ := Nat.exists_eq_add_of_le' (show 1 ≤ m by omega)
        rw [htake more k (by omega),
          readSimples?_end htail hus (hlevel.symm.trans hlevels) k (by omega), Option.map_some,
          addSimples, List.append_assoc]
      · omega

theorem readCompound?_end (htail : Tail more ss r fuel) {n : Nat} {ts : List Token}
    {parts : List Simple} (h : readCompound? n ts = some (parts, [])) (hlevels : levels ts = 0)
    {m : Nat} (hm : n + fuel ≤ m) : readCompound? m (ts ++ more) = some (parts ++ ss, r) := by
  cases n with
  | zero => cases h
  | succ n =>
    obtain ⟨type, us, before, -, hlevel, hus, rfl, hne, hmore⟩ := readCompound?_step h
    obtain ⟨k, rfl⟩ := Nat.exists_eq_add_of_le' (show 1 ≤ m by omega)
    have hread := readSimples?_end htail hus (hlevel.symm.trans hlevels) k (by omega)
    rw [List.append_assoc]
    refine hmore more k _ (fun _ => htail.noBar) hread fun hnil => hne ?_
    rw [List.append_eq_nil_iff, List.append_eq_nil_iff] at hnil
    rw [hnil.1, hnil.2.1, List.append_nil]

/-- A text that does not end in white space. -/
def NoSpaceEnd (ts : List Token) : Prop := ts.getLast? ≠ some .space

theorem NoSpaceEnd.suffix {ts us : List Token} (h : NoSpaceEnd ts) (hus : us <:+ ts) :
    NoSpaceEnd us := by
  obtain ⟨pre, rfl⟩ := hus
  rcases List.eq_nil_or_concat' us with rfl | ⟨vs, t, rfl⟩
  · exact (Option.some_ne_none _).symm
  · rw [NoSpaceEnd, ← List.append_assoc, List.getLast?_concat] at h
    rwa [NoSpaceEnd, List.getLast?_concat]

theorem readJoined?_end (htail : Tail more ss r fuel) :
    ∀ {n : Nat} {left S : Selector} {ts : List Token}, readJoined? n left ts = some (S, []) →
      ts ≠ [] → NoSpaceEnd ts → levels ts = 0 →
        ∀ m, n + fuel ≤ m → readJoined? m left (ts ++ more) = some (S.refine ss, r)
  | 0, _, _, _, h, _, _, _, _, _ => by cases h
  | n + 1, left, S, ts, h, hne, hspace, hlevels, m, hm => by
    have hpos := htail.fuel_pos
    rcases readJoined?_step h with ⟨-, hend⟩ | ⟨c, us, parts, vs, hcombinator, hparts, hjoined⟩
    · -- only white space is left, which the text does not end in
      obtain ⟨-, -, -, hall⟩ := readCombinator_spec hend
      obtain ⟨ts, t, rfl⟩ := (List.eq_nil_or_concat' ts).resolve_left hne
      rw [NoSpaceEnd, List.getLast?_concat] at hspace
      exact absurd (congrArg some (hall rfl rfl t List.mem_concat_self)) hspace
    · obtain ⟨hsuffix, hlevel, hmore, -⟩ := readCombinator_spec hcombinator
      obtain ⟨k, rfl⟩ := Nat.exists_eq_add_of_le' (show 1 ≤ m by omega)
      rw [readJoined?, hmore (Or.inl rfl)]
      by_cases hvs : vs = []
      · subst hvs
        cases n with
        | zero => cases hparts
        | succ n =>
          obtain rfl : S = .joined left c parts := by
            rcases readJoined?_step hjoined with ⟨rfl, -⟩ | ⟨c', us', _, _, hnone, _⟩
            · rfl
            · cases hnone
          obtain ⟨j, rfl⟩ := Nat.exists_eq_add_of_le' (show 1 ≤ k by omega)
          have hread := readCompound?_end htail hparts (hlevel.symm.trans hlevels)
            (show n + 1 + fuel ≤ j + 1 by omega)
          simp only [hread, Option.bind_eq_bind, Option.bind_some]
          exact htail.readJoined? j _
      · obtain ⟨hvsuffix, -, hgo⟩ := (steady n).2.1 _ _ _ hparts
        obtain ⟨hvlevel, hread⟩ := hgo hvs
        simp only [hread more k (by omega), Option.bind_eq_bind, Option.bind_some]
        exact readJoined?_end htail hjoined hvs (hspace.suffix (hvsuffix.trans hsuffix)) (by omega)
          k (by omega)

/-- **Tokens after a complete list go to its last compound selector.** -/
theorem readList?_end (htail : Tail more ss r fuel) :
    ∀ {n : Nat} {ts : List Token} {L : List Selector}, readList? n ts = some (L, []) →
      NoSpaceEnd ts → levels ts = 0 → ∃ init S, L = init ++ [S] ∧
        ∀ m, n + fuel ≤ m → readList? m (ts ++ more) = some (init ++ [S.refine ss], r)
  | 0, _, _, h, _, _ => by cases h
  | n + 1, ts, L, h, hspace, hlevels => by
    have hpos := htail.fuel_pos
    have hnocomma (ws : List Token) : r ≠ .comma :: ws := by
      rcases htail.stop with rfl | ⟨us, rfl⟩ <;> rintro ⟨⟩
    -- the list ends with the selector that takes the tokens
    have hlast {m : Nat} {parts : List Simple} {us : List Token} {S : Selector}
        (hparts : readCompound? m (ts ++ more) = some (parts, us))
        (hfirst : readJoined? m (.compound parts) us = some (S, r)) :
        readList? (m + 1) (ts ++ more) = some ([S], r) := by
      rw [readList?]
      simp only [hparts, hfirst, Option.bind_eq_bind, Option.bind_some]
      rfl
    obtain ⟨parts, us, first, vs, hparts, hfirst, hrest⟩ := readList?_step h
    by_cases hus : us = []
    · subst hus
      cases n with
      | zero => cases hparts
      | succ n =>
        obtain ⟨rfl, rfl⟩ : first = .compound parts ∧ vs = [] := by
          rcases readJoined?_step hfirst with ⟨rfl, hnone⟩ | ⟨c', us', _, _, hnone, _⟩
          · exact ⟨rfl, (Prod.mk.inj hnone).2.symm⟩
          · cases hnone
        obtain ⟨rfl, -, -⟩ | ⟨ws, others, hcomma, -⟩ := hrest
        · refine ⟨[], _, rfl, fun m hm => ?_⟩
          obtain ⟨k, rfl⟩ := Nat.exists_eq_add_of_le' (show 2 ≤ m by omega)
          exact hlast (readCompound?_end htail hparts hlevels (by omega)) (htail.readJoined? k _)
        · cases hcomma
    · obtain ⟨hsuffix, -, hgo⟩ := (steady n).2.1 _ _ _ hparts
      obtain ⟨hlevel, hread⟩ := hgo hus
      rcases hrest with ⟨rfl, rfl, -⟩ | ⟨ws, others, rfl, hothers, rfl⟩
      · refine ⟨[], _, rfl, fun m hm => ?_⟩
        obtain ⟨k, rfl⟩ := Nat.exists_eq_add_of_le' (show 1 ≤ m by omega)
        exact hlast (hread more k (by omega)) (readJoined?_end htail hfirst hus
          (hspace.suffix hsuffix) (by omega) k (by omega))
      · obtain ⟨hvsuffix, -, hvgo⟩ := (steady n).2.2.1 _ _ _ _ hfirst
        obtain ⟨hvlevel, hvread⟩ := hvgo (List.cons_ne_nil _ _)
        have hws : ws <:+ ts :=
          ((List.suffix_cons Token.comma ws).trans hvsuffix).trans hsuffix
        have hwlevel : levels (.comma :: ws) = levels ws := Int.zero_add _
        obtain ⟨init, S, rfl, hmore⟩ := readList?_end htail hothers (hspace.suffix hws) (by omega)
        refine ⟨first :: init, S, rfl, fun m hm => ?_⟩
        obtain ⟨k, rfl⟩ := Nat.exists_eq_add_of_le' (show 1 ≤ m by omega)
        rw [readList?]
        simp only [hread more k (by omega), hvread more k (by omega), Option.bind_eq_bind,
          Option.bind_some, List.cons_append, hmore k (by omega)]
        rfl

end End

/-! ## A native `:not(…)` after a list -/

theorem Selector.refine_nil (S : Selector) : S.refine [] = S := by
  cases S <;> rw [refine, List.append_nil]

/-- A closing parenthesis ends a list. -/
theorem tail_closeParen : Tail [.closeParen] [] [.closeParen] 1 where
  noBar us := by rintro ⟨⟩
  read m hm := by
    obtain ⟨k, rfl⟩ := Nat.exists_eq_add_of_le' hm
    exact readSimples?_stop k rfl []
  stop := Or.inr ⟨[], rfl⟩

/-- A list in the parentheses of a `:not(…)`. -/
theorem tail_not {n : Nat} {ts : List Token} {L : List Selector}
    (h : readList? n ts = some (L, [])) (hspace : NoSpaceEnd ts) (hlevels : levels ts = 0) :
    Tail (.colon :: .function "not" :: (ts ++ [.closeParen])) [.not L] [] (n + 2) where
  noBar us := by rintro ⟨⟩
  read m hm := by
    obtain ⟨init, S, hL, hread⟩ := readList?_end tail_closeParen h hspace hlevels
    rw [Selector.refine_nil, ← hL] at hread
    obtain ⟨k, rfl⟩ := Nat.exists_eq_add_of_le' (show 2 ≤ m by omega)
    have hkind : nthKind? (Text.lowerAscii "not") = none := by decide
    have hnot : Text.lowerAscii "not" = "not" := by decide
    rw [readSimples?, hkind]
    simp only [hread (k + 1) (by omega), hnot, if_true, Option.bind_eq_bind, Option.bind_some]
    rfl
  stop := Or.inl rfl

/-- The fuel with which a text is read. -/
theorem ofText?_eq_some {text : String} {L : List Selector} (h : ofText? text = some L) :
    readList? (4 * (tokens text.toList).length + 8) (tokens text.toList) = some (L, []) := by
  rw [ofText?] at h
  split at h
  · rename_i hread
    rw [hread, Option.some.inj h]
  · cases h

/-- **A `:not(…)` right after a list is one more condition of its last selector.** -/
theorem ofText?_not {c a text : String} {left excluded : List Selector}
    (htokens : tokens text.toList = tokens c.toList ++
      .colon :: .function "not" :: (tokens a.toList ++ [.closeParen]))
    (hc : ofText? c = some left) (hcspace : NoSpaceEnd (tokens c.toList))
    (hclevels : levels (tokens c.toList) = 0) (ha : ofText? a = some excluded)
    (haspace : NoSpaceEnd (tokens a.toList)) (halevels : levels (tokens a.toList) = 0) :
    ∃ init last, left = init ++ [last] ∧
      ofText? text = some (init ++ [last.refine [.not excluded]]) := by
  have htail := tail_not (ofText?_eq_some ha) haspace halevels
  obtain ⟨init, last, hleft, hread⟩ := readList?_end htail (ofText?_eq_some hc) hcspace hclevels
  refine ⟨init, last, hleft, ?_⟩
  have hfuel : 4 * (tokens c.toList).length + 8 + (4 * (tokens a.toList).length + 8 + 2) ≤
      4 * (tokens text.toList).length + 8 := by
    rw [htokens]
    simp only [List.length_append, List.length_cons, List.length_nil]
    omega
  have htext := hread _ hfuel
  rw [← htokens] at htext
  rw [ofText?, htext]

/-! ## Matching -/

theorem allMatch_append (ss ss' : List Simple) (p : Markup.Place) :
    Simple.allMatch (ss ++ ss') p = (Simple.allMatch ss p && Simple.allMatch ss' p) := by
  induction ss with
  | nil => rw [List.nil_append, Simple.allMatch, Bool.true_and]
  | cons s ss ih => rw [List.cons_append, Simple.allMatch, Simple.allMatch, ih, Bool.and_assoc]

theorem anyMatches_append (L L' : List Selector) (p : Markup.Place) :
    Selector.anyMatches (L ++ L') p =
      (Selector.anyMatches L p || Selector.anyMatches L' p) := by
  induction L with
  | nil => rw [List.nil_append, Selector.anyMatches, Bool.false_or]
  | cons S L ih =>
    rw [List.cons_append, Selector.anyMatches, Selector.anyMatches, ih, Bool.or_assoc]

/-- An element matches a selector with more conditions when it matches the selector and passes the
conditions. -/
theorem matches_refine (S : Selector) (ss : List Simple) (p : Markup.Place) :
    (S.refine ss).matches p = (S.matches p && Simple.allMatch ss p) := by
  cases S with
  | compound parts =>
    rw [Selector.refine, Selector.matches, Selector.matches, allMatch_append]
  | joined left c parts =>
    rw [Selector.refine, Selector.matches, Selector.matches, allMatch_append, Bool.and_right_comm]

/-- The condition of the last selector does not count for the others. -/
theorem anyMatches_refine_not (init excluded : List Selector) (last : Selector)
    (p : Markup.Place) :
    Selector.anyMatches (init ++ [last.refine [.not excluded]]) p =
      (Selector.anyMatches init p || (last.matches p && !Selector.anyMatches excluded p)) := by
  rw [anyMatches_append, Selector.anyMatches, Selector.anyMatches, Bool.or_false, matches_refine,
    Simple.allMatch, Simple.allMatch, Simple.matches, Bool.and_true]

end PageGuard.Css
