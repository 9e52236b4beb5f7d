import PageGuard.Css.Reader
import Mathlib.Data.List.Infix
import Mathlib.Tactic.SplitIfs

/-!
# Brackets in selectors

The end of a text closes the brackets and parentheses that are still open.  The `level` of a token
tells whether it opens or closes one, and with it two kinds of readers can be told apart from what
they leave.

* `Closed`: a reader that ends with a closing token, or with the end of the text and a bracket still
  open (`closed_closeBracket?`, `closed_closeParen?`, `closed_readAttribute?`).
* `Reads`: a reader that leaves no bracket open (`reads_readNth?`).

Both go on in the same way whatever follows, unless they come to the end of the text.
-/

namespace PageGuard.Css

/-! ## Levels -/

/-- How many brackets and parentheses a token opens. -/
def Token.level : Token → Int
  | .function _ => 1
  | .openBracket => 1
  | .closeBracket => -1
  | .closeParen => -1
  | _ => 0

/-- How many more brackets and parentheses are opened than closed. -/
def levels : List Token → Int
  | [] => 0
  | t :: ts => t.level + levels ts

@[simp] theorem levels_nil : levels [] = 0 := rfl

@[simp] theorem levels_cons (t : Token) (ts : List Token) :
    levels (t :: ts) = t.level + levels ts := rfl

/-! ## White space -/

/-- White space is skipped to the first other token or to the end, whatever follows. -/
theorem skipSpace_eq_cons {t : Token} {r : List Token} :
    ∀ {ts : List Token}, skipSpace ts = t :: r →
      (t :: r) <:+ ts ∧ levels ts = levels (t :: r) ∧
        ∀ more, skipSpace (ts ++ more) = t :: (r ++ more)
  | [], h => by cases h
  | u :: ts, h => by
    by_cases hu : u = .space
    · subst hu
      rw [skipSpace] at h
      obtain ⟨hsuffix, hlevels, hmore⟩ := skipSpace_eq_cons h
      refine ⟨hsuffix.trans (List.suffix_cons _ _), ?_, fun more => ?_⟩
      · rw [levels_cons, hlevels]
        exact Int.zero_add _
      · rw [List.cons_append, skipSpace, hmore]
    · have hskip (vs : List Token) : skipSpace (u :: vs) = u :: vs := by
        rw [skipSpace]
        rintro rest ⟨rfl, -⟩
        exact hu rfl
      rw [hskip] at h
      obtain ⟨rfl, rfl⟩ := List.cons.inj h
      exact ⟨List.suffix_refl _, rfl, fun more => hskip _⟩

theorem skipSpace_eq_nil : ∀ {ts : List Token}, skipSpace ts = [] → levels ts = 0
  | [], _ => rfl
  | u :: ts, h => by
    by_cases hu : u = .space
    · subst hu
      rw [skipSpace] at h
      rw [levels_cons, skipSpace_eq_nil h]
      rfl
    · rw [skipSpace] at h
      · cases h
      · rintro rest ⟨rfl, -⟩
        exact hu rfl

theorem skipSpace_skipSpace : ∀ ts : List Token, skipSpace (skipSpace ts) = skipSpace ts
  | [] => rfl
  | u :: ts => by
    by_cases hu : u = .space
    · subst hu
      rw [skipSpace, skipSpace_skipSpace ts]
    · have hskip : skipSpace (u :: ts) = u :: ts := by
        rw [skipSpace]
        rintro rest ⟨rfl, -⟩
        exact hu rfl
      rw [hskip, hskip]

/-! ## Closing -/

/-- What a reader did that ends with a closing token and leaves `r`: it came to the token, and goes
on in the same way whatever follows, or it came to the end of the text with a bracket still open. -/
def Closed (ts r : List Token) (same : List Token → Prop) : Prop :=
  r <:+ ts ∧ ((levels ts + 1 = levels r ∧ ∀ more, same more) ∨ (r = [] ∧ 0 ≤ levels ts))

/-- The closing token `k`, or the end of the text. -/
theorem closed_of_skipSpace {close : List Token → Option (List Token)} {k : Token}
    (hk : k.level = -1)
    (hclose : ∀ ts r, close ts = some r ↔ (skipSpace ts = [] ∧ r = []) ∨ skipSpace ts = k :: r)
    {ts r : List Token} (h : close ts = some r) :
    Closed ts r fun more => close (ts ++ more) = some (r ++ more) := by
  rcases (hclose ts r).1 h with ⟨hskip, rfl⟩ | hskip
  · exact ⟨List.nil_suffix, Or.inr ⟨rfl, Int.le_of_eq (skipSpace_eq_nil hskip).symm⟩⟩
  · obtain ⟨hsuffix, hlevels, hmore⟩ := skipSpace_eq_cons hskip
    refine ⟨(List.suffix_cons _ _).trans hsuffix, Or.inl ⟨?_, fun more => ?_⟩⟩
    · rw [hlevels, levels_cons, hk]
      omega
    · exact (hclose _ _).2 (Or.inr (hmore more))

theorem closeBracket?_eq_some (ts r : List Token) : closeBracket? ts = some r ↔
    (skipSpace ts = [] ∧ r = []) ∨ skipSpace ts = .closeBracket :: r := by
  rw [closeBracket?]
  split
  · rename_i hskip
    simp [hskip, eq_comm]
  · rename_i rest hskip
    simp [hskip]
  · rename_i hnil hclose
    constructor
    · intro h
      cases h
    · rintro (⟨h, -⟩ | h)
      · exact absurd h hnil
      · exact absurd h (hclose r)

theorem closeParen?_eq_some (ts r : List Token) : closeParen? ts = some r ↔
    (skipSpace ts = [] ∧ r = []) ∨ skipSpace ts = .closeParen :: r := by
  rw [closeParen?]
  split
  · rename_i hskip
    simp [hskip, eq_comm]
  · rename_i rest hskip
    simp [hskip]
  · rename_i hnil hclose
    constructor
    · intro h
      cases h
    · rintro (⟨h, -⟩ | h)
      · exact absurd h hnil
      · exact absurd h (hclose r)

theorem closed_closeBracket? {ts r : List Token} (h : closeBracket? ts = some r) :
    Closed ts r fun more => closeBracket? (ts ++ more) = some (r ++ more) :=
  closed_of_skipSpace rfl closeBracket?_eq_some h

theorem closed_closeParen? {ts r : List Token} (h : closeParen? ts = some r) :
    Closed ts r fun more => closeParen? (ts ++ more) = some (r ++ more) :=
  closed_of_skipSpace rfl closeParen?_eq_some h

/-- Tokens before those of a reader, none of which opens or closes a bracket. -/
theorem Closed.after {ts us r : List Token} {same same' : List Token → Prop}
    (h : Closed us r same) (hsuffix : us <:+ ts) (hlevels : levels ts = levels us)
    (hsame : ∀ more, same more → same' more) : Closed ts r same' := by
  refine ⟨h.1.trans hsuffix, ?_⟩
  rw [hlevels]
  exact h.2.imp_left fun hc => ⟨hc.1, fun more => hsame more (hc.2 more)⟩

/-! ## Attributes -/

/-- The case rule that an attribute has when none is named. -/
theorem readCase?_of_close {default : CaseRule} {ts r : List Token} (h : closeBracket? ts = some r) :
    readCase? default ts = some (default, r) := by
  rcases (closeBracket?_eq_some ts r).1 h with ⟨hskip, rfl⟩ | hskip
  · rw [readCase?, hskip]
    rfl
  · rw [readCase?, hskip]
    rfl

theorem closed_readCase? {default case : CaseRule} {ts r : List Token}
    (h : readCase? default ts = some (case, r)) :
    Closed ts r fun more => readCase? default (ts ++ more) = some (case, r ++ more) := by
  rw [readCase?] at h
  split at h
  · rename_i flag rest hskip
    obtain ⟨hsuffix, hlevels, hmore⟩ := skipSpace_eq_cons hskip
    have hrest : rest <:+ ts := (List.suffix_cons _ _).trans hsuffix
    have hlevel : levels ts = levels rest := hlevels.trans (Int.zero_add _)
    dsimp only at h
    split_ifs at h with hi hs
    · obtain ⟨r', hclose, heq⟩ := Option.map_eq_some_iff.1 h
      obtain ⟨rfl, rfl⟩ := Prod.mk.inj heq
      refine (closed_closeBracket? hclose).after hrest hlevel fun more hc => ?_
      rw [readCase?, hmore]
      dsimp only
      rw [if_pos hi, hc, Option.map_some]
    · obtain ⟨r', hclose, heq⟩ := Option.map_eq_some_iff.1 h
      obtain ⟨rfl, rfl⟩ := Prod.mk.inj heq
      refine (closed_closeBracket? hclose).after hrest hlevel fun more hc => ?_
      rw [readCase?, hmore]
      dsimp only
      rw [if_neg hi, if_pos hs, hc, Option.map_some]
  · obtain ⟨r', hclose, heq⟩ := Option.map_eq_some_iff.1 h
    obtain ⟨rfl, rfl⟩ := Prod.mk.inj heq
    rw [closeBracket?, skipSpace_skipSpace, ← closeBracket?] at hclose
    exact (closed_closeBracket? hclose).after (List.suffix_refl _) rfl fun more hc =>
      readCase?_of_close hc

/-- What a reader did that leaves `r`: the tokens it took leave no bracket open, and unless it came
to the end of the text it goes on in the same way whatever follows. -/
def Reads (ts r : List Token) (same : List Token → Prop) : Prop :=
  r <:+ ts ∧ levels ts = levels r ∧ (skipSpace r ≠ [] → ∀ more, same more)

/-- What is left of white space at the end is white space. -/
theorem skipSpace_eq_nil_of_suffix {ts r : List Token} (hr : r <:+ ts) (h : skipSpace ts = []) :
    skipSpace r = [] := by
  obtain ⟨pre, rfl⟩ := hr
  induction pre with
  | nil => exact h
  | cons t pre ih =>
    by_cases ht : t = .space
    · subst ht
      rw [List.cons_append, skipSpace] at h
      exact ih h
    · rw [List.cons_append, skipSpace] at h
      · cases h
      · rintro rest ⟨rfl, -⟩
        exact ht rfl

/-- Reading and then closing. -/
theorem Reads.closed {ts us r : List Token} {same same' same'' : List Token → Prop}
    (h : Reads ts us same) (hclosed : Closed us r same')
    (hsame : ∀ more, same more → same' more → same'' more) : Closed ts r same'' := by
  obtain ⟨hsuffix, hlevels, hread⟩ := h
  refine ⟨hclosed.1.trans hsuffix, ?_⟩
  rw [hlevels]
  rcases hclosed.2 with ⟨hlevel, hclose⟩ | hend
  · by_cases hus : skipSpace us = []
    · have h1 := skipSpace_eq_nil hus
      have h2 := skipSpace_eq_nil (skipSpace_eq_nil_of_suffix hclosed.1 hus)
      omega
    · exact Or.inl ⟨hlevel, fun more => hsame more (hread hus more) (hclose more)⟩
  · exact Or.inr hend

theorem reads_readAttributeName? {ts r : List Token} {anySpace : Bool} {name : String}
    (h : readAttributeName? ts = some (anySpace, name, r)) :
    Reads ts r fun more =>
      readAttributeName? (ts ++ more) = some (anySpace, name, r ++ more) := by
  unfold readAttributeName? at h
  split at h
  · cases h
  · rename_i _ name' rest hbar
    simp only [Option.some.injEq, Prod.mk.injEq] at h
    obtain ⟨rfl, rfl, rfl⟩ := h
    refine ⟨List.suffix_cons _ _, Int.zero_add _, fun hr more => ?_⟩
    cases rest with
    | nil => exact absurd rfl hr
    | cons t rest =>
      rw [List.cons_append, List.cons_append, readAttributeName?]
      exact fun us heq => hbar rest (by rw [(List.cons.inj heq).1])
  · simp only [Option.some.injEq, Prod.mk.injEq] at h
    obtain ⟨rfl, rfl, rfl⟩ := h
    refine ⟨⟨[.delim '*', .delim '|', .ident _], rfl⟩, ?_, fun _ more => rfl⟩
    simp [Token.level]
  · simp only [Option.some.injEq, Prod.mk.injEq] at h
    obtain ⟨rfl, rfl, rfl⟩ := h
    refine ⟨⟨[.delim '|', .ident _], rfl⟩, ?_, fun _ more => rfl⟩
    simp [Token.level]
  · cases h

theorem readComparison?_eq_some {ts r : List Token} {comparison : Comparison}
    (h : readComparison? ts = some (comparison, r)) :
    ∃ t, t.level = 0 ∧ ts = t :: r ∧
      ∀ more, readComparison? (t :: more) = some (comparison, more) := by
  unfold readComparison? at h
  split at h
  · simp only [Option.some.injEq, Prod.mk.injEq] at h
    obtain ⟨rfl, rfl⟩ := h
    exact ⟨_, rfl, rfl, fun more => rfl⟩
  · simp only [Option.some.injEq, Prod.mk.injEq] at h
    obtain ⟨rfl, rfl⟩ := h
    exact ⟨_, rfl, rfl, fun more => rfl⟩
  · cases h

/-- The value of a comparison with its case rule and the closing bracket. -/
theorem closed_readAttribute? {ts r : List Token} {s : Simple}
    (h : readAttribute? ts = some (s, r)) :
    Closed ts r fun more => readAttribute? (ts ++ more) = some (s, r ++ more) := by
  rw [readAttribute?] at h
  obtain ⟨⟨anySpace, name, rest⟩, hname, h⟩ := Option.bind_eq_some_iff.1 h
  have hreads := reads_readAttributeName? hname
  -- white space before the name
  have hstart : Reads ts rest fun more =>
      readAttributeName? (skipSpace (ts ++ more)) = some (anySpace, name, rest ++ more) := by
    cases hskip : skipSpace ts with
    | nil =>
      rw [hskip] at hname
      cases hname
    | cons t us =>
      obtain ⟨hsuffix, hlevels, hmore⟩ := skipSpace_eq_cons hskip
      rw [hskip] at hreads
      refine ⟨hreads.1.trans hsuffix, hlevels.trans hreads.2.1, fun hr more => ?_⟩
      change readAttributeName? (skipSpace (ts ++ more)) = _
      rw [hmore]
      exact hreads.2.2 hr more
  dsimp only at h
  split at h
  · rename_i rest' hclose
    simp only [pure, Option.some.injEq, Prod.mk.injEq] at h
    obtain ⟨rfl, rfl⟩ := h
    refine hstart.closed (closed_closeBracket? hclose) fun more hn hc => ?_
    rw [readAttribute?, hn]
    simp only [Option.bind_eq_bind, Option.bind_some, hc]
    rfl
  · rename_i hclose
    obtain ⟨⟨comparison, vs⟩, hcomparison, h⟩ := Option.bind_eq_some_iff.1 h
    obtain ⟨t, ht, hrest, hop⟩ := readComparison?_eq_some hcomparison
    obtain ⟨hsuffix, hlevels, hmore⟩ := skipSpace_eq_cons hrest
    have hopen (more : List Token) : closeBracket? (rest ++ more) = none := by
      rw [closeBracket?, hrest] at hclose
      rw [closeBracket?, hmore]
      split at hclose <;> simp_all
    -- a value and what follows it, whichever of its two forms the value has
    have hvalue {u : Token} {value : String} {ws : List Token} (hu : u = .ident value ∨
        u = .string value) (hws : skipSpace vs = u :: ws)
        (h : ((readCase? (defaultCase anySpace name) ws).bind fun x =>
          some (Simple.attr anySpace name (.compare comparison value x.1), x.2)) = some (s, r)) :
        Closed ts r fun more => readAttribute? (ts ++ more) = some (s, r ++ more) := by
      obtain ⟨⟨case, r'⟩, hcase, heq⟩ := Option.bind_eq_some_iff.1 h
      simp only [Option.some.injEq, Prod.mk.injEq] at heq
      obtain ⟨rfl, rfl⟩ := heq
      obtain ⟨hvs, hvlevels, hvmore⟩ := skipSpace_eq_cons hws
      have hu0 : u.level = 0 := by rcases hu with rfl | rfl <;> rfl
      refine (closed_readCase? hcase).after
        (((List.suffix_cons _ _).trans hvs).trans (((List.suffix_cons _ _).trans hsuffix).trans
          hstart.1)) ?_ fun more hc => ?_
      · rw [hstart.2.1, hlevels, levels_cons, ht, hvlevels, levels_cons, hu0]
        omega
      · have hname' := hstart.2.2 (by rw [hrest]; exact List.cons_ne_nil _ _) more
        rw [readAttribute?, hname']
        simp only [Option.bind_eq_bind, Option.bind_some, hopen, hmore, hop, hvmore]
        rcases hu with rfl | rfl <;> simp only [hc, Option.bind_some] <;> rfl
    dsimp only at h
    split at h
    · exact hvalue (Or.inl rfl) ‹_› h
    · exact hvalue (Or.inr rfl) ‹_› h
    · cases h

/-! ## Positions -/

/-- Tokens before those of a reader, none of which opens or closes a bracket. -/
theorem Reads.after {ts us r : List Token} {same same' : List Token → Prop}
    (h : Reads us r same) (hsuffix : us <:+ ts) (hlevels : levels ts = levels us)
    (hsame : ∀ more, same more → same' more) : Reads ts r same' :=
  ⟨h.1.trans hsuffix, hlevels.trans h.2.1, fun hr more => hsame more (h.2.2 hr more)⟩

/-- A token after white space, which opens no bracket. -/
theorem reads_of_skipSpace {ts r : List Token} {t : Token} (h : skipSpace ts = t :: r)
    (ht : t.level = 0) : Reads ts r fun more => skipSpace (ts ++ more) = t :: (r ++ more) := by
  obtain ⟨hsuffix, hlevels, hmore⟩ := skipSpace_eq_cons h
  refine ⟨(List.suffix_cons _ _).trans hsuffix, ?_, fun _ => hmore⟩
  rw [hlevels, levels_cons, ht, Int.zero_add]

theorem reads_readUnsigned? {step sign : Int} {ts r : List Token} {v : Int × Int}
    (h : readUnsigned? step sign ts = some (v, r)) :
    Reads ts r fun more => readUnsigned? step sign (ts ++ more) = some (v, r ++ more) := by
  rw [readUnsigned?] at h
  split at h
  · rename_i hskip
    simp only [Option.some.injEq, Prod.mk.injEq] at h
    obtain ⟨rfl, rfl⟩ := h
    refine (reads_of_skipSpace hskip rfl).after (List.suffix_refl _) rfl fun more hmore => ?_
    rw [readUnsigned?, hmore]
  · cases h

theorem reads_readStart? {step : Int} {ts r : List Token} {v : Int × Int}
    (h : readStart? step ts = some (v, r)) :
    Reads ts r fun more => readStart? step (ts ++ more) = some (v, r ++ more) := by
  rw [readStart?] at h
  split at h
  · rename_i rest hskip
    obtain ⟨hsuffix, hlevels, hmore⟩ := skipSpace_eq_cons hskip
    refine (reads_readUnsigned? h).after ((List.suffix_cons _ _).trans hsuffix)
      (hlevels.trans (Int.zero_add _)) fun more hread => ?_
    rw [readStart?, hmore]
    exact hread
  · rename_i rest hskip
    obtain ⟨hsuffix, hlevels, hmore⟩ := skipSpace_eq_cons hskip
    refine (reads_readUnsigned? h).after ((List.suffix_cons _ _).trans hsuffix)
      (hlevels.trans (Int.zero_add _)) fun more hread => ?_
    rw [readStart?, hmore]
    exact hread
  · rename_i hskip
    simp only [Option.some.injEq, Prod.mk.injEq] at h
    obtain ⟨rfl, rfl⟩ := h
    refine (reads_of_skipSpace hskip rfl).after (List.suffix_refl _) rfl fun more hmore => ?_
    rw [readStart?, hmore]
  · rename_i hplus hminus hnumber
    simp only [Option.some.injEq, Prod.mk.injEq] at h
    obtain ⟨rfl, rfl⟩ := h
    refine ⟨List.suffix_refl _, rfl, fun hne more => ?_⟩
    obtain ⟨t, us, hskip⟩ := List.exists_cons_of_ne_nil hne
    obtain ⟨-, -, hmore⟩ := skipSpace_eq_cons hskip
    rw [readStart?, hmore]
    split
    · simp_all
    · simp_all
    · simp_all
    · rfl

theorem reads_readUnit? {step : Int} {unit : String} {ts r : List Token} {v : Int × Int}
    (h : readUnit? step unit ts = some (v, r)) :
    Reads ts r fun more => readUnit? step unit (ts ++ more) = some (v, r ++ more) := by
  rw [readUnit?] at h
  split_ifs at h with hn hdash
  · refine (reads_readStart? h).after (List.suffix_refl _) rfl fun more hread => ?_
    rw [readUnit?, if_pos hn, hread]
  · refine (reads_readUnsigned? h).after (List.suffix_refl _) rfl fun more hread => ?_
    rw [readUnit?, if_neg hn, if_pos hdash, hread]
  · obtain ⟨b, hb, heq⟩ := Option.map_eq_some_iff.1 h
    obtain ⟨rfl, rfl⟩ := Prod.mk.inj heq
    refine ⟨List.suffix_refl _, rfl, fun _ more => ?_⟩
    dsimp only
    rw [readUnit?, if_neg hn, if_neg hdash, hb, Option.map_some]

theorem reads_readNth? {ts r : List Token} {v : Int × Int} (h : readNth? ts = some (v, r)) :
    Reads ts r fun more => readNth? (ts ++ more) = some (v, r ++ more) := by
  rw [readNth?] at h
  split at h
  · rename_i hskip
    simp only [Option.some.injEq, Prod.mk.injEq] at h
    obtain ⟨rfl, rfl⟩ := h
    refine (reads_of_skipSpace hskip rfl).after (List.suffix_refl _) rfl fun more hmore => ?_
    rw [readNth?, hmore]
  · rename_i hskip
    obtain ⟨hsuffix, hlevels, hmore⟩ := skipSpace_eq_cons hskip
    refine (reads_readUnit? h).after ((List.suffix_cons _ _).trans hsuffix)
      (hlevels.trans (Int.zero_add _)) fun more hread => ?_
    rw [readNth?, hmore]
    exact hread
  · rename_i word rest hskip
    obtain ⟨hsuffix, hlevels, hmore⟩ := skipSpace_eq_cons hskip
    have hrest : rest <:+ ts := (List.suffix_cons _ _).trans hsuffix
    have hlevel : levels ts = levels rest := hlevels.trans (Int.zero_add _)
    split_ifs at h with heven hodd
    · simp only [Option.some.injEq, Prod.mk.injEq] at h
      obtain ⟨rfl, rfl⟩ := h
      refine ⟨hrest, hlevel, fun _ more => ?_⟩
      dsimp only
      rw [readNth?, hmore]
      dsimp only
      rw [if_pos heven]
    · simp only [Option.some.injEq, Prod.mk.injEq] at h
      obtain ⟨rfl, rfl⟩ := h
      refine ⟨hrest, hlevel, fun _ more => ?_⟩
      dsimp only
      rw [readNth?, hmore]
      dsimp only
      rw [if_neg heven, if_pos hodd]
    · split at h
      · rename_i unit hunit
        refine (reads_readUnit? h).after hrest hlevel fun more hread => ?_
        rw [readNth?, hmore]
        dsimp only
        rw [if_neg heven, if_neg hodd, hunit]
        exact hread
      · rename_i hunit
        refine (reads_readUnit? h).after hrest hlevel fun more hread => ?_
        rw [readNth?, hmore]
        dsimp only
        rw [if_neg heven, if_neg hodd]
        split
        · exact absurd ‹_› (hunit _)
        · exact hread
  · rename_i unit rest hskip
    obtain ⟨hsuffix, hlevels, hmore⟩ := skipSpace_eq_cons hskip
    refine (reads_readUnit? h).after (((List.suffix_cons _ _).trans
      (List.suffix_cons _ _)).trans hsuffix) ?_ fun more hread => ?_
    · rw [hlevels]
      simp [Token.level]
    · rw [readNth?, hmore]
      exact hread
  · cases h

end PageGuard.Css
