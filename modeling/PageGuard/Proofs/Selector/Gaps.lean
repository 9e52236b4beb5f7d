import PageGuard.Proofs.Selector.Reading

/-!
# Plain text between operators

Plain text falls into pieces, each of them an escape, a string, a bracket, a pair of parentheses or
one character.  `Piece` and `Gap` say so of a text and of what comes after it, without the places
and the segment that the reader keeps.  How far a bracket reaches is left open, since more than one
rule for it is of interest.

* `piece_of_plainLength?`, `Piece.plainLength?`: the reader takes plain text in pieces.
* `OperatorUse.readStages_stays`, `OperatorUse.readStages_cut`: an operator is passed over, or it
  ends the plain text before it and changes the stages as `Pushes` says.
* `Gap.readStages`: the reader passes over a gap.
* `exists_gap_or_stopsAtLoose`: a text begins with a gap up to its end or up to an operator, unless
  there is a parenthesis without partner.
* `exists_gap`: what is read begins with a gap.
-/

namespace PageGuard

open Text

/-! ## Where strings, brackets and parentheses end -/

theorem closingQuote?_le {quote : Char} {cs : List Char} {n : Nat}
    (h : closingQuote? quote cs = some n) : n ≤ cs.length := by
  fun_induction closingQuote? quote cs generalizing n with
  | case1 => cases h
  | case2 => cases h
  | case3 _ rest ih =>
    obtain ⟨k, hk, rfl⟩ := Option.map_eq_some_iff.1 h
    have := ih hk
    simp only [List.length_cons]
    omega
  | case4 rest =>
    obtain rfl := Option.some.inj h
    simp
  | case5 c rest _ _ ih =>
    obtain ⟨k, hk, rfl⟩ := Option.map_eq_some_iff.1 h
    have := ih hk
    simp only [List.length_cons]
    omega

theorem stringLength?_le {before : Option Char} {quote : Char} {rest : List Char} {n : Nat}
    (h : stringLength? before quote rest = some n) : n ≤ rest.length := by
  unfold stringLength? at h
  split at h
  · split_ifs at h
    exact closingQuote?_le h
  · exact closingQuote?_le h

theorem bracketLength_le (before : Char) (cs : List Char) :
    bracketLength before cs ≤ cs.length := by
  fun_induction bracketLength before cs with
  | case1 => exact Nat.le_refl 0
  | case2 before c rest _ n hn ih =>
    have := stringLength?_le hn
    rw [List.length_drop] at ih
    rw [List.length_cons]
    omega
  | case3 before c rest _ _ ih => exact Nat.succ_le_succ ih
  | case4 => simp
  | case5 before c rest _ _ ih => exact Nat.succ_le_succ ih

/-- What closes a parenthesis is a parenthesis of the text. -/
theorem closingParen?_eq_some {depth : Nat} {before : Char} {cs : List Char} {n : Nat}
    (h : closingParen? depth before cs = some n) :
    ∃ body after, cs = body ++ ')' :: after ∧ n = body.length + 1 := by
  fun_induction closingParen? depth before cs generalizing n with
  | case1 => cases h
  | case2 => cases h
  | case3 depth before e rest ih =>
    obtain ⟨k, hk, rfl⟩ := Option.map_eq_some_iff.1 h
    obtain ⟨body, after, rfl, rfl⟩ := ih hk
    exact ⟨'\\' :: e :: body, after, rfl, rfl⟩
  | case4 depth before c rest _ _ m hm ih =>
    obtain ⟨k, hk, rfl⟩ := Option.map_eq_some_iff.1 h
    obtain ⟨body, after, hrest, rfl⟩ := ih hk
    refine ⟨c :: (rest.take m ++ body), after, ?_, ?_⟩
    · rw [List.cons_append, List.append_assoc, ← hrest, List.take_append_drop]
    · rw [List.length_cons, List.length_append, List.length_take,
        Nat.min_eq_left (stringLength?_le hm)]
      omega
  | case5 depth before c rest _ _ _ ih =>
    obtain ⟨k, hk, rfl⟩ := Option.map_eq_some_iff.1 h
    obtain ⟨body, after, rfl, rfl⟩ := ih hk
    exact ⟨c :: body, after, rfl, rfl⟩
  | case6 depth before rest _ _ ih =>
    obtain ⟨k, hk, rfl⟩ := Option.map_eq_some_iff.1 h
    obtain ⟨body, after, rfl, rfl⟩ := ih hk
    exact ⟨'(' :: body, after, rfl, rfl⟩
  | case7 before rest =>
    obtain rfl := Option.some.inj h
    exact ⟨[], rest, rfl, rfl⟩
  | case8 before rest _ _ _ d ih =>
    obtain ⟨k, hk, rfl⟩ := Option.map_eq_some_iff.1 h
    obtain ⟨body, after, rfl, rfl⟩ := ih hk
    exact ⟨')' :: body, after, rfl, rfl⟩
  | case9 depth before c rest _ _ _ _ ih =>
    obtain ⟨k, hk, rfl⟩ := Option.map_eq_some_iff.1 h
    obtain ⟨body, after, rfl, rfl⟩ := ih hk
    exact ⟨c :: body, after, rfl, rfl⟩

/-! ## Pieces of plain text -/

/-- One piece of plain text, with the character before it and the text after it.  A bracket takes
with it as many characters as `extent` says. -/
inductive Piece (extent : List Char → Nat) (before : Option Char) :
    List Char → List Char → Prop where
  /-- A backslash and the character that it escapes. -/
  | escape (c : Char) (after : List Char) : Piece extent before ['\\', c] after
  /-- A backslash at the end. -/
  | backslash : Piece extent before ['\\'] []
  | string {quote : Char} {body after : List Char} (opens : isQuote quote = true)
    (length : stringLength? before quote (body ++ after) = some body.length) :
    Piece extent before (quote :: body) after
  /-- A quote that opens no string. -/
  | quote {quote : Char} {after : List Char} (opens : isQuote quote = true)
    (alone : stringLength? before quote after = none) : Piece extent before [quote] after
  | brackets {body after : List Char} (length : extent (body ++ after) = body.length) :
    Piece extent before ('[' :: body) after
  | parens {body after : List Char}
    (length : closingParen? 0 '(' (body ++ after) = some body.length) :
    Piece extent before ('(' :: body) after
  /-- A character that opens and closes nothing. -/
  | char {c : Char} {after : List Char} (slash : c ≠ '\\') (quote : isQuote c = false)
    (bracket : c ≠ '[') (opening : c ≠ '(') (closing : c ≠ ')') : Piece extent before [c] after

/-- A piece is not empty. -/
theorem Piece.exists_cons {extent : List Char → Nat} {before : Option Char} {p after : List Char}
    (h : Piece extent before p after) : ∃ c taken, p = c :: taken := by
  cases h <;> exact ⟨_, _, rfl⟩

/-- What the reader takes as plain text is a piece. -/
theorem piece_of_plainLength? {before : Option Char} {c : Char} {rest : List Char} {n : Nat}
    (h : plainLength? before c rest = some n) :
    Piece (bracketLength '[') before (c :: rest.take n) (rest.drop n) := by
  rw [plainLength?] at h
  split_ifs at h with hslash hquote hbracket hopen hclose
  · obtain rfl := Option.some.inj h
    obtain rfl := hslash
    cases rest with
    | nil => exact Piece.backslash
    | cons e rest => exact Piece.escape e rest
  · obtain rfl := Option.some.inj h
    cases hstring : stringLength? before c rest with
    | none => exact Piece.quote hquote hstring
    | some n =>
      refine Piece.string hquote ?_
      rw [Option.getD_some, List.take_append_drop, hstring,
        List.length_take_of_le (stringLength?_le hstring)]
  · obtain rfl := Option.some.inj h
    obtain rfl := hbracket
    refine Piece.brackets ?_
    rw [List.take_append_drop, List.length_take_of_le (bracketLength_le '[' rest)]
  · obtain rfl := hopen
    refine Piece.parens ?_
    obtain ⟨body, after, rfl, rfl⟩ := closingParen?_eq_some h
    rw [List.take_append_drop, h, List.length_take_of_le (by simp)]
  · obtain rfl := Option.some.inj h
    exact Piece.char hslash (Bool.eq_false_iff.2 hquote) hbracket hopen hclose

/-- A piece is what the reader takes as plain text. -/
theorem Piece.plainLength? {before : Option Char} {c : Char} {taken after : List Char}
    (h : Piece (bracketLength '[') before (c :: taken) after) :
    ∃ n, PageGuard.plainLength? before c (taken ++ after) = some n ∧
      (taken ++ after).take n = taken ∧ (taken ++ after).drop n = after := by
  unfold PageGuard.plainLength?
  cases h with
  | escape c after => exact ⟨1, rfl, rfl, rfl⟩
  | backslash => exact ⟨1, rfl, rfl, rfl⟩
  | string opens length =>
    have hslash : c ≠ '\\' := by
      rintro rfl
      cases opens
    rw [if_neg hslash, if_pos opens, length]
    exact ⟨_, rfl, List.take_left, List.drop_left⟩
  | quote opens alone =>
    have hslash : c ≠ '\\' := by
      rintro rfl
      cases opens
    rw [if_neg hslash, if_pos opens, List.nil_append, alone]
    exact ⟨0, rfl, rfl, rfl⟩
  | brackets length =>
    rw [if_neg (by decide), if_neg (by decide), if_pos rfl, length]
    exact ⟨_, rfl, List.take_left, List.drop_left⟩
  | parens length =>
    rw [if_neg (by decide), if_neg (by decide), if_neg (by decide), if_pos rfl]
    exact ⟨_, length, List.take_left, List.drop_left⟩
  | char slash quote bracket opening closing =>
    rw [if_neg slash, quote, if_neg Bool.false_ne_true, if_neg bracket, if_neg opening,
      if_neg closing]
    exact ⟨0, rfl, rfl, rfl⟩

/-- **The reader passes over a piece of plain text.** -/
theorem Piece.readStages {before : Option Char} {p after : List Char}
    (h : Piece (bracketLength '[') before p after) (hop : operatorAt? (p ++ after) = none)
    (offset : Nat) (segment : List Char) (stages : List Stage) :
    PageGuard.readStages offset before segment stages (p ++ after) =
      PageGuard.readStages (offset + byteLength p) p.getLast? (p.reverse ++ segment) stages
        after := by
  obtain ⟨c, taken, rfl⟩ := h.exists_cons
  obtain ⟨n, hn, htake, hdrop⟩ := h.plainLength?
  rw [List.cons_append] at hop ⊢
  rw [readStages_pass hop, hn]
  dsimp only
  rw [htake, hdrop, List.getLast?_cons, List.reverse_cons, List.append_assoc,
    List.singleton_append]

/-! ## Operators with their arguments -/

/-- A step that gives a result had one to go on from. -/
theorem bind_eq_ok_iff {ε α β : Type} {x : Except ε α} {f : α → Except ε β} {b : β} :
    x.bind f = .ok b ↔ ∃ a, x = .ok a ∧ f a = .ok b := by
  cases x with
  | error e =>
    constructor
    · intro h
      cases h
    · rintro ⟨a, h, -⟩
      cases h
  | ok a =>
    constructor
    · intro h
      exact ⟨a, rfl, h⟩
    · rintro ⟨a', h, hf⟩
      rw [Except.ok.inj h]
      exact hf

/-- No opening text of an operator begins the one of another. -/
theorem eq_of_prefix_operators {m m' : String × Operator} (hm : m ∈ operators)
    (hm' : m' ∈ operators) (h : m.1.toList <+: m'.1.toList) : m = m' := by
  have hall : ∀ m ∈ operators, ∀ m' ∈ operators, m.1.toList <+: m'.1.toList → m = m' := by
    decide
  exact hall m hm m' hm' h

/-- An operator that opens at a place is one of the table, and its text is there. -/
theorem operatorAt?_some {cs : List Char} {m : String × Operator} (h : operatorAt? cs = some m) :
    m ∈ operators ∧ m.1.toList <+: cs := by
  rw [operatorAt?] at h
  have htest := List.find?_some h
  exact ⟨List.mem_of_find?_eq_some h, List.isPrefixOf_iff_prefix.1 htest⟩

/-- **At most one operator opens at a place of a text.** -/
theorem operatorAt?_eq_some {cs : List Char} {m : String × Operator} (hm : m ∈ operators)
    (hpre : m.1.toList <+: cs) : operatorAt? cs = some m := by
  cases h : operatorAt? cs with
  | none =>
    rw [operatorAt?, List.find?_eq_none] at h
    exact absurd (List.isPrefixOf_iff_prefix.2 hpre) (h m hm)
  | some m' =>
    obtain ⟨hm', hpre'⟩ := operatorAt?_some h
    rcases List.prefix_or_prefix_of_prefix hpre hpre' with hle | hle
    · rw [eq_of_prefix_operators hm hm' hle]
    · rw [eq_of_prefix_operators hm' hm hle]

/-- The opening text of an operator begins with a colon. -/
theorem exists_colon_cons {m : String × Operator} (hm : m ∈ operators) :
    ∃ name, m.1.toList = ':' :: name ∧ m.1.length - 1 = name.length := by
  have hcolon : ∀ m ∈ operators, m.1.toList.head? = some ':' := by decide
  obtain ⟨name, hname⟩ := List.head?_eq_some_iff.1 (hcolon m hm)
  refine ⟨name, hname, ?_⟩
  rw [← String.length_toList, hname, List.length_cons, Nat.add_sub_cancel]

/-- An operator with its argument as written. -/
structure OperatorUse where
  /-- The text that opens it. -/
  marker : String
  op : Operator
  argument : List Char

namespace OperatorUse

variable (u : OperatorUse)

/-- The text of an operator, its argument and the parenthesis that closes it. -/
def text : List Char := u.marker.toList ++ (u.argument ++ [')'])

/-- Whether the text of an operator is written by the table of operators and closed by the
parenthesis at its end, whatever comes after it. -/
structure IsWritten (after : List Char) : Prop where
  listed : (u.marker, u.op) ∈ operators
  closed : closingParen? 0 '(' (u.argument ++ ')' :: after) = some (u.argument.length + 1)

/-- Whether an operator is part of the CSS around it: a native `:not(…)` or `:has(…)` whose argument
is one plain CSS stage without action, with more CSS after it. -/
structure StaysInCss (after : List Char) : Prop where
  native : u.marker = ":not(" ∨ u.marker = ":has("
  plain : ∃ css, readSelector (trim u.argument) = .ok [.css css]
  more : trimStart after ≠ []
  noOperator : operatorAt? (trimStart after) = none

/-- The stage that an operator writes; actions write none. -/
inductive Gives : Stage → Prop where
  | contains {pattern : Pattern} (op : u.op = .contains)
    (read : readPattern ((regexBody? (unquoted (trim u.argument))).getD
      (unquoted (trim u.argument))) = .ok pattern) :
    Gives (.contains (.ofList (unquoted (trim u.argument))) pattern)
  | has {chain : List Stage} (op : u.op = .has)
    (read : readSelector (trim u.argument) = .ok chain) : Gives (.has chain)
  | not {chain : List Stage} (op : u.op = .not)
    (read : readSelector (trim u.argument) = .ok chain) : Gives (.not chain)
  | properties (op : u.op = .properties) :
    Gives (.properties (.ofList (unquoted (trim u.argument))))
  | xpath (op : u.op = .xpath) : Gives (.xpath (.ofList (unquoted (trim u.argument))))

/-- The stages before an operator and those after it: an action goes to the plain stage before
it. -/
inductive Pushes : List Stage → List Stage → Prop where
  | stage {stages : List Stage} {s : Stage} (argument : trim u.argument ≠ []) (gives : u.Gives s) :
    Pushes stages (stages ++ [s])
  | action {stages : List Stage} {a : Action} {target : Target} (op : u.op = .act a) :
    Pushes (stages ++ [.plain target none]) (stages ++ [.plain target (some a)])

/-- Behind an operator there is less of the text. -/
theorem length_rest_lt (gap rest : List Char) : rest.length < (gap ++ (u.text ++ rest)).length := by
  rw [text]
  simp only [List.length_append, List.length_cons]
  omega

variable {u : OperatorUse} {after : List Char}

theorem operatorAt?_text (h : u.IsWritten after) :
    operatorAt? (u.text ++ after) = some (u.marker, u.op) := by
  rw [text, List.append_assoc]
  exact operatorAt?_eq_some h.listed (List.prefix_append ..)

theorem operatorText?_text (h : u.IsWritten after) :
    operatorText? (u.argument ++ ')' :: after) = some ⟨u.argument, after⟩ := by
  rw [operatorText?, h.closed, Option.map_some, Nat.add_sub_cancel, List.take_left]
  simp

/-- The stages after an operator, or why its argument is none. -/
def pushed (u : OperatorUse) (stages : List Stage) : Except SelectorError (List Stage) :=
  match u.op with
  | .act action => attachAction action (operatorName u.marker) stages
  | _ =>
    if (trim u.argument).isEmpty then .error (.emptyArgument (operatorName u.marker))
    else
      match u.op with
      | .contains => do
        let text := unquoted (trim u.argument)
        let p ← readPattern ((regexBody? text).getD text)
        pure (stages ++ [.contains (.ofList text) p])
      | .has => do pure (stages ++ [.has (← readSelector (trim u.argument))])
      | .not => do pure (stages ++ [.not (← readSelector (trim u.argument))])
      | .properties => pure (stages ++ [.properties (.ofList (unquoted (trim u.argument)))])
      | _ => pure (stages ++ [.xpath (.ofList (unquoted (trim u.argument)))])

/-- **What the reader does at an operator.** -/
theorem readStages_text (h : u.IsWritten after) (offset : Nat) (before : Option Char)
    (segment : List Char) (stages : List Stage) :
    readStages offset before segment stages (u.text ++ after) =
      if (u.op = .not ∨ u.marker = ":has(") ∧ ¬ (trimStart after).isEmpty ∧
          (operatorAt? (trimStart after)).isNone ∧ isPlainCss (readSelector (trim u.argument)) then
        readStages (offset + byteLength u.text) (some ')') (u.text.reverse ++ segment) stages after
      else (u.pushed (addPlain segment.reverse stages)).bind fun stages =>
        readStages (offset + byteLength u.text) (some ')') [] stages after := by
  have hop := operatorAt?_text h
  have htext := operatorText?_text h
  obtain ⟨name, hname, hlength⟩ := exists_colon_cons h.listed
  have hinner : name ++ (u.argument ++ ')' :: after) =
      (name ++ (u.argument ++ [')'])) ++ after := by simp
  have hopening : u.text = ':' :: (name ++ (u.argument ++ [')'])) := by
    rw [text, hname, List.cons_append]
  have hcons : u.text ++ after = ':' :: (name ++ (u.argument ++ ')' :: after)) := by
    rw [hopening, hinner, List.cons_append]
  have htake : (name ++ (u.argument ++ ')' :: after)).take
      ((name ++ (u.argument ++ ')' :: after)).length - after.length) =
        name ++ (u.argument ++ [')']) := by
    rw [hinner, List.length_append, Nat.add_sub_cancel, List.take_left]
  have hdrop : (name ++ (u.argument ++ ')' :: after)).drop
      ((name ++ (u.argument ++ ')' :: after)).length - after.length) = after := by
    rw [hinner, List.length_append, Nat.add_sub_cancel, List.drop_left]
  have hused : (':' :: (name ++ (u.argument ++ ')' :: after))).take
      ((name ++ (u.argument ++ ')' :: after)).length + 1 - after.length) = u.text := by
    rw [hinner, List.length_append, Nat.add_right_comm, Nat.add_sub_cancel, List.take_succ_cons,
      List.take_left, hopening]
  rw [hcons] at hop ⊢
  rw [readStages, if_neg (by decide), if_neg (by decide), if_neg (by decide), if_pos rfl]
  simp only [hop]
  split
  · rename_i hnone
    rw [hlength, List.drop_left, htext] at hnone
    cases hnone
  · rename_i t ht
    rw [hlength, List.drop_left, htext] at ht
    obtain rfl := Option.some.inj ht
    dsimp only
    rw [htake, hdrop, hused]
    by_cases hcond : (u.op = .not ∨ u.marker = ":has(") ∧ ¬ (trimStart after).isEmpty ∧
        (operatorAt? (trimStart after)).isNone ∧ isPlainCss (readSelector (trim u.argument))
    · rw [if_pos hcond, if_pos hcond, hopening, List.reverse_cons, List.append_assoc,
        List.singleton_append, ← List.append_assoc name, List.getLast?_concat, Option.getD_some]
    · rw [if_neg hcond, if_neg hcond, pushed]
      cases u.op with
      | act => rfl
      | contains =>
        dsimp only
        split_ifs
        · rfl
        · cases readPattern ((regexBody? (unquoted (trim u.argument))).getD
            (unquoted (trim u.argument))) <;> rfl
      | has =>
        dsimp only
        split_ifs
        · rfl
        · cases readSelector (trim u.argument) <;> rfl
      | not =>
        dsimp only
        split_ifs
        · rfl
        · cases readSelector (trim u.argument) <;> rfl
      | properties =>
        dsimp only
        split_ifs <;> rfl
      | xpath =>
        dsimp only
        split_ifs <;> rfl

theorem isPlainCss_iff {read : Except SelectorError (List Stage)} :
    isPlainCss read = true ↔ ∃ css, read = .ok [.css css] := by
  constructor
  · intro h
    unfold isPlainCss at h
    split at h
    · exact ⟨_, rfl⟩
    · cases h
  · rintro ⟨css, rfl⟩
    rfl

/-- Only `:not(` opens a negation. -/
theorem op_eq_not_iff (h : u.IsWritten after) : u.op = .not ↔ u.marker = ":not(" := by
  have hall : ∀ m ∈ operators, m.2 = .not ↔ m.1 = ":not(" := by decide
  exact hall _ h.listed

theorem staysInCss_iff (h : u.IsWritten after) :
    ((u.op = .not ∨ u.marker = ":has(") ∧ ¬ (trimStart after).isEmpty ∧
      (operatorAt? (trimStart after)).isNone ∧ isPlainCss (readSelector (trim u.argument))) ↔
      u.StaysInCss after := by
  rw [op_eq_not_iff h, List.isEmpty_iff, Option.isNone_iff_eq_none, isPlainCss_iff]
  constructor
  · rintro ⟨native, more, noOperator, plain⟩
    exact ⟨native, plain, more, noOperator⟩
  · rintro ⟨native, plain, more, noOperator⟩
    exact ⟨native, more, noOperator, plain⟩

/-- **An operator that stays in the CSS is passed over.** -/
theorem readStages_stays (h : u.IsWritten after) (hstays : u.StaysInCss after) (offset : Nat)
    (before : Option Char) (segment : List Char) (stages : List Stage) :
    readStages offset before segment stages (u.text ++ after) =
      readStages (offset + byteLength u.text) (some ')') (u.text.reverse ++ segment) stages
        after := by
  rw [readStages_text h, if_pos ((staysInCss_iff h).2 hstays)]

theorem attachAction_eq_ok_iff {action : Action} {name : String} {stages result : List Stage} :
    attachAction action name stages = .ok result ↔
      ∃ init target, stages = init ++ [.plain target none] ∧
        result = init ++ [.plain target (some action)] := by
  rw [attachAction]
  constructor
  · intro h
    split at h
    · rename_i target hlast
      obtain ⟨init, rfl⟩ := List.getLast?_eq_some_iff.1 hlast
      rw [List.dropLast_concat] at h
      exact ⟨init, target, rfl, (Except.ok.inj h).symm⟩
    · cases h
  · rintro ⟨init, target, rfl, rfl⟩
    rw [List.getLast?_concat, List.dropLast_concat]

theorem pushed_eq_ok_iff {stages result : List Stage} :
    u.pushed stages = .ok result ↔ u.Pushes stages result := by
  constructor
  · intro h
    rw [pushed] at h
    cases hop : u.op with
    | act a =>
      rw [hop] at h
      obtain ⟨init, target, rfl, rfl⟩ := attachAction_eq_ok_iff.1 h
      exact Pushes.action hop
    | contains =>
      simp only [hop] at h
      split_ifs at h with hempty
      obtain ⟨p, hread, hp⟩ := bind_eq_ok_iff.1 h
      obtain rfl := Except.ok.inj hp
      exact Pushes.stage (mt List.isEmpty_iff.2 hempty) (Gives.contains hop hread)
    | has =>
      simp only [hop] at h
      split_ifs at h with hempty
      obtain ⟨chain, hread, hchain⟩ := bind_eq_ok_iff.1 h
      obtain rfl := Except.ok.inj hchain
      exact Pushes.stage (mt List.isEmpty_iff.2 hempty) (Gives.has hop hread)
    | not =>
      simp only [hop] at h
      split_ifs at h with hempty
      obtain ⟨chain, hread, hchain⟩ := bind_eq_ok_iff.1 h
      obtain rfl := Except.ok.inj hchain
      exact Pushes.stage (mt List.isEmpty_iff.2 hempty) (Gives.not hop hread)
    | properties =>
      simp only [hop] at h
      split_ifs at h with hempty
      obtain rfl := Except.ok.inj h
      exact Pushes.stage (mt List.isEmpty_iff.2 hempty) (Gives.properties hop)
    | xpath =>
      simp only [hop] at h
      split_ifs at h with hempty
      obtain rfl := Except.ok.inj h
      exact Pushes.stage (mt List.isEmpty_iff.2 hempty) (Gives.xpath hop)
  · rintro (⟨argument, gives⟩ | ⟨op⟩)
    · have hempty := List.isEmpty_eq_false_iff.2 argument
      rw [pushed]
      cases gives with
      | contains op read => simp only [op, hempty, read]; rfl
      | has op read => simp only [op, hempty, read]; rfl
      | not op read => simp only [op, hempty, read]; rfl
      | properties op => simp only [op, hempty]; rfl
      | xpath op => simp only [op, hempty]; rfl
    · rw [pushed, op]
      exact attachAction_eq_ok_iff.2 ⟨_, _, rfl, rfl⟩

/-- **An operator that does not stay in the CSS ends the plain text before it.** -/
theorem readStages_cut (h : u.IsWritten after) (hcut : ¬ u.StaysInCss after) (offset : Nat)
    (before : Option Char) (segment : List Char) (stages : List Stage) :
    ∃ offset', ∀ result, readStages offset before segment stages (u.text ++ after) = .ok result ↔
      ∃ stages', u.Pushes (addPlain segment.reverse stages) stages' ∧
        readStages offset' (some ')') [] stages' after = .ok result := by
  refine ⟨offset + byteLength u.text, fun result => ?_⟩
  rw [readStages_text h, if_neg fun hcond => hcut ((staysInCss_iff h).1 hcond), bind_eq_ok_iff]
  simp only [pushed_eq_ok_iff]

/-- **An operator that is not closed is an error at its parenthesis.** -/
theorem readStages_unclosed {m : String × Operator} (hm : m ∈ operators) {inner : List Char}
    (hopen : closingParen? 0 '(' inner = none) (offset : Nat) (before : Option Char)
    (segment : List Char) (stages : List Stage) :
    readStages offset before segment stages (m.1.toList ++ inner) =
      .error (.unbalanced (offset + m.1.length - 1)) := by
  have hop := operatorAt?_eq_some hm (List.prefix_append m.1.toList inner)
  obtain ⟨name, hname, hlength⟩ := exists_colon_cons hm
  have hnone : operatorText? inner = none := by
    rw [operatorText?, hopen, Option.map_none]
  rw [hname, List.cons_append] at hop ⊢
  rw [readStages, if_neg (by decide), if_neg (by decide), if_neg (by decide), if_pos rfl]
  simp only [hop]
  split
  · rfl
  · rename_i t ht
    rw [hlength, List.drop_left, hnone] at ht
    cases ht

end OperatorUse

/-! ## Gaps -/

/-- The plain text up to a place: pieces before which no operator opens, and operators that stay in
the CSS. -/
inductive Gap (extent : List Char → Nat) : Option Char → List Char → List Char → Prop where
  | nil (before : Option Char) (after : List Char) : Gap extent before [] after
  | piece {before : Option Char} {p gap after : List Char}
    (piece : Piece extent before p (gap ++ after))
    (noOperator : operatorAt? (p ++ (gap ++ after)) = none)
    (more : Gap extent p.getLast? gap after) : Gap extent before (p ++ gap) after
  | native {before : Option Char} {u : OperatorUse} {gap after : List Char}
    (written : u.IsWritten (gap ++ after)) (stays : u.StaysInCss (gap ++ after))
    (more : Gap extent (some ')') gap after) : Gap extent before (u.text ++ gap) after

/-- **The reader passes over a gap.** -/
theorem Gap.readStages {before : Option Char} {gap after : List Char}
    (h : Gap (bracketLength '[') before gap after) (stages : List Stage) :
    ∀ (offset : Nat) (segment : List Char), ∃ before',
      PageGuard.readStages offset before segment stages (gap ++ after) =
        PageGuard.readStages (offset + byteLength gap) before' (gap.reverse ++ segment) stages
          after := by
  induction h with
  | nil before after => exact fun offset _ => ⟨before, rfl⟩
  | @piece before p gap after piece noOperator more ih =>
    intro offset segment
    obtain ⟨before', hgap⟩ := ih (offset + byteLength p) (p.reverse ++ segment)
    refine ⟨before', ?_⟩
    rw [List.append_assoc, piece.readStages noOperator, hgap, List.reverse_append,
      List.append_assoc, byteLength_append, Nat.add_assoc]
  | @native before u gap after written stays more ih =>
    intro offset segment
    obtain ⟨before', hgap⟩ := ih (offset + byteLength u.text) (u.text.reverse ++ segment)
    refine ⟨before', ?_⟩
    rw [List.append_assoc, OperatorUse.readStages_stays written stays, hgap, List.reverse_append,
      List.append_assoc, byteLength_append, Nat.add_assoc]

/-- Ordinary text goes into the gap after it. -/
theorem Gap.ordinary {extent : List Char → Nat} {gap after : List Char}
    (h : ∀ before, Gap extent before gap after) : ∀ {pre : List Char},
      (∀ c ∈ pre, isOrdinary c = true) → ∀ before, Gap extent before (pre ++ gap) after
  | [], _, before => h before
  | c :: pre, hpre, before => by
    have hc := hpre c (List.mem_cons_self ..)
    obtain ⟨hslash, hquote, hbracket, hopen, hclose, -, -⟩ := isOrdinary_iff.1 hc
    have hmore := Gap.ordinary h fun d hd => hpre d (List.mem_cons_of_mem c hd)
    exact Gap.piece (p := [c]) (Piece.char hslash hquote hbracket hopen hclose)
      (operatorAt?_ordinary hc _) (hmore _)

/-- A parenthesis without partner: one that nothing closes, or a closing one. -/
def IsLoose (c : Char) (rest : List Char) : Prop :=
  c = '(' ∧ closingParen? 0 '(' rest = none ∨ c = ')'

/-- Whether a parenthesis without partner stops the reader before it comes to the end or to an
operator that ends the plain text. -/
def StopsAtLoose (before : Option Char) (cs : List Char) : Prop :=
  ∃ pre c rest, cs = pre ++ c :: rest ∧ IsLoose c rest ∧ ∀ offset segment stages,
    readStages offset before segment stages cs = .error (.unbalanced (offset + byteLength pre))

/-- The opening text of an operator ends in a parenthesis. -/
theorem exists_paren_concat {m : String × Operator} (hm : m ∈ operators) :
    ∃ name, m.1.toList = name ++ ['('] ∧ m.1.length = byteLength name + 1 := by
  have hparen : ∀ m ∈ operators, m.1.toList.getLast? = some '(' := by decide
  have hascii : ∀ m ∈ operators, m.1.length = byteLength m.1.toList.dropLast + 1 := by decide
  obtain ⟨name, hname⟩ := List.getLast?_eq_some_iff.1 (hparen m hm)
  refine ⟨name, hname, ?_⟩
  rw [hascii m hm, hname, List.dropLast_concat]

theorem stopsAtLoose_of_operator {m : String × Operator} (hm : m ∈ operators) {inner : List Char}
    (hopen : closingParen? 0 '(' inner = none) (before : Option Char) :
    StopsAtLoose before (m.1.toList ++ inner) := by
  obtain ⟨name, hname, hlength⟩ := exists_paren_concat hm
  refine ⟨name, '(', inner, ?_, .inl ⟨rfl, hopen⟩, fun offset segment stages => ?_⟩
  · rw [hname, List.append_assoc, List.singleton_append]
  · rw [OperatorUse.readStages_unclosed hm hopen, hlength]
    rfl

theorem stopsAtLoose_of_plainLength? {before : Option Char} {c : Char} {rest : List Char}
    (hop : operatorAt? (c :: rest) = none) (hn : plainLength? before c rest = none) :
    StopsAtLoose before (c :: rest) := by
  refine ⟨[], c, rest, rfl, ?_, fun offset segment stages => ?_⟩
  · rw [plainLength?] at hn
    split_ifs at hn with _ _ _ hopen hclose
    · obtain rfl := hopen
      exact .inl ⟨rfl, hn⟩
    · exact .inr hclose
  · rw [readStages_pass hop, hn]
    rfl

theorem StopsAtLoose.native {u : OperatorUse} {rest : List Char} (written : u.IsWritten rest)
    (stays : u.StaysInCss rest) (h : StopsAtLoose (some ')') rest) (before : Option Char) :
    StopsAtLoose before (u.text ++ rest) := by
  obtain ⟨pre, c, after, hrest, hloose, hread⟩ := h
  refine ⟨u.text ++ pre, c, after, ?_, hloose, fun offset segment stages => ?_⟩
  · rw [hrest, List.append_assoc]
  · rw [OperatorUse.readStages_stays written stays, hread, byteLength_append, Nat.add_assoc]

theorem StopsAtLoose.piece {before : Option Char} {c : Char} {rest : List Char} {n : Nat}
    (hop : operatorAt? (c :: rest) = none) (hn : plainLength? before c rest = some n)
    (h : StopsAtLoose (some ((rest.take n).getLast?.getD c)) (rest.drop n)) :
    StopsAtLoose before (c :: rest) := by
  obtain ⟨pre, d, after, hrest, hloose, hread⟩ := h
  refine ⟨(c :: rest.take n) ++ pre, d, after, ?_, hloose, fun offset segment stages => ?_⟩
  · rw [List.append_assoc, ← hrest, List.cons_append, List.take_append_drop]
  · rw [readStages_pass hop, hn]
    dsimp only
    rw [hread, byteLength_append, Nat.add_assoc]

/-- **A text begins with a gap**, up to the end or an operator that ends it, unless a parenthesis
without partner stops the reader before. -/
theorem exists_gap_or_stopsAtLoose : ∀ (cs : List Char) (before : Option Char),
    (∃ gap after, cs = gap ++ after ∧ Gap (bracketLength '[') before gap after ∧
      (after = [] ∨ ∃ u rest, after = OperatorUse.text u ++ rest ∧ u.IsWritten rest ∧
        ¬ u.StaysInCss rest)) ∨ StopsAtLoose before cs := by
  intro cs
  induction hlength : cs.length using Nat.strongRecOn generalizing cs with
  | ind length ih =>
    intro before
    cases hop : operatorAt? cs with
    | some m =>
      obtain ⟨hm, inner, rfl⟩ := operatorAt?_some hop
      cases hclosed : closingParen? 0 '(' inner with
      | none => exact .inr (stopsAtLoose_of_operator hm hclosed before)
      | some n =>
        obtain ⟨argument, rest, rfl, rfl⟩ := closingParen?_eq_some hclosed
        have hwritten : OperatorUse.IsWritten ⟨m.1, m.2, argument⟩ rest := ⟨hm, hclosed⟩
        have htext : m.1.toList ++ (argument ++ ')' :: rest) =
            OperatorUse.text ⟨m.1, m.2, argument⟩ ++ rest := by simp [OperatorUse.text]
        generalize (⟨m.1, m.2, argument⟩ : OperatorUse) = u at hwritten htext
        rw [htext] at hlength ⊢
        by_cases hstays : u.StaysInCss rest
        · have hshort : rest.length < length := hlength ▸ u.length_rest_lt [] rest
          rcases ih _ hshort rest rfl (some ')') with ⟨gap, after, rfl, hgap, hafter⟩ | hloose
          · exact .inl ⟨u.text ++ gap, after, (List.append_assoc ..).symm,
              Gap.native hwritten hstays hgap, hafter⟩
          · exact .inr (hloose.native hwritten hstays before)
        · exact .inl ⟨[], _, rfl, Gap.nil _ _, .inr ⟨u, rest, rfl, hwritten, hstays⟩⟩
    | none =>
      cases cs with
      | nil => exact .inl ⟨[], [], rfl, Gap.nil _ _, .inl rfl⟩
      | cons c rest =>
        cases hn : plainLength? before c rest with
        | none => exact .inr (stopsAtLoose_of_plainLength? hop hn)
        | some n =>
          have hshort : (rest.drop n).length < length := by
            rw [List.length_drop, ← hlength, List.length_cons]
            omega
          rcases ih _ hshort _ rfl (some ((rest.take n).getLast?.getD c)) with
            ⟨gap, after, hrest, hgap, hafter⟩ | hloose
          · have hpiece := piece_of_plainLength? hn
            have hcons : c :: rest = (c :: rest.take n) ++ (gap ++ after) := by
              rw [← hrest, List.cons_append, List.take_append_drop]
            rw [hcons] at hop
            rw [hrest] at hpiece
            rw [← List.getLast?_cons] at hgap
            exact .inl ⟨(c :: rest.take n) ++ gap, after, by rw [hcons, List.append_assoc],
              Gap.piece hpiece hop hgap, hafter⟩
          · exact .inr (hloose.piece hop hn)

/-- **A text without a loose parenthesis begins with a gap**, up to the end or an operator that ends
it. -/
theorem exists_gap_of_balanced {stages : List Stage} {result : Except SelectorError (List Stage)}
    (hbalanced : ∀ place, result ≠ .error (.unbalanced place)) {cs : List Char} {offset : Nat}
    {before : Option Char} {segment : List Char}
    (h : readStages offset before segment stages cs = result) :
    ∃ gap after, cs = gap ++ after ∧ Gap (bracketLength '[') before gap after ∧
      (after = [] ∨ ∃ u rest, after = OperatorUse.text u ++ rest ∧ u.IsWritten rest ∧
        ¬ u.StaysInCss rest) := by
  rcases exists_gap_or_stopsAtLoose cs before with hgap | ⟨pre, c, rest, -, -, hread⟩
  · exact hgap
  · exact absurd (h.symm.trans (hread ..)) (hbalanced _)

/-- **What is read begins with a gap**, up to the end or an operator that ends it. -/
theorem exists_gap {stages result : List Stage} {cs : List Char} {offset : Nat}
    {before : Option Char} {segment : List Char}
    (h : readStages offset before segment stages cs = .ok result) :
    ∃ gap after, cs = gap ++ after ∧ Gap (bracketLength '[') before gap after ∧
      (after = [] ∨ ∃ u rest, after = OperatorUse.text u ++ rest ∧ u.IsWritten rest ∧
        ¬ u.StaysInCss rest) :=
  exists_gap_of_balanced (by simp) h

end PageGuard
