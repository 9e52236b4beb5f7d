import PageGuard.Proofs.Selector.Arguments
import PageGuard.Proofs.Selector.ByteReader

/-!
# Reading selectors without a fault

The reader over bytes has no fault on any text, and what it reads is what the reader over characters
reads.  Where it decides something it is between two characters.  Only behind a backslash it may be
inside one, and then it passes over the rest of that character byte by byte, or behind the end.

* `unquotedAt_eq`, `staysAt_eq`, `pushedAt_eq`: arguments are taken apart without a fault.
* `byteStages_pass`, `byteStages_operator`: one step, over a piece of plain text or an operator.
* `byteStages_eq`, `byteSelector_eq`: stages and selectors.
* `exists_loose_of_unbalanced`: which parentheses are reported as unbalanced, and where.
* `parseSelector_safe`: the theorem.
-/

namespace PageGuard

open Text

/-! ## Slices and arguments -/

theorem sliceAt_eq {text pre part post : List Char} (htext : text = pre ++ (part ++ post)) :
    sliceAt text (byteLength pre) (byteLength (pre ++ part)) = .ok part := by
  rw [sliceAt, slice?_eq_some_iff.2 ⟨pre, post, htext, rfl, rfl⟩]

/-- What is left of a text is a slice. -/
theorem sliceAt_rest {text pre rest : List Char} (htext : text = pre ++ rest) :
    sliceAt text (byteLength pre) (byteLength text) = .ok rest := by
  rw [sliceAt, slice?_eq_some_iff.2 ⟨pre, [], ?_, rfl, congrArg byteLength htext⟩]
  rw [htext, List.append_nil]

/-- What is between the first and the last character is a slice. -/
theorem sliceAt_inner {first last : Char} (body : List Char) (hfirst : isAscii first = true)
    (hlast : isAscii last = true) :
    sliceAt (first :: (body ++ [last])) 1 (byteLength (first :: (body ++ [last])) - 1) =
      .ok body := by
  have hslice : sliceAt (first :: (body ++ [last])) (byteLength [first])
      (byteLength ([first] ++ body)) = .ok body := sliceAt_eq rfl
  have hstart : byteLength [first] = 1 := utf8Size_of_isAscii hfirst
  have hstop : byteLength (first :: (body ++ [last])) - 1 = byteLength ([first] ++ body) := by
    simp [byteLength_append, utf8Size_of_isAscii hlast]
  rwa [hstart, ← hstop] at hslice

theorem two_le_byteLength (first last : Char) (body : List Char) :
    2 ≤ byteLength (first :: (body ++ [last])) := by
  have h₁ := first.utf8Size_pos
  have h₂ := last.utf8Size_pos
  simp only [byteLength_cons, byteLength_append, byteLength_nil]
  omega

/-- **The text between two slashes is a slice.** -/
theorem regexBodyAt_eq (text : List Char) : regexBodyAt text = .ok (regexBody? text) := by
  cases hbody : regexBody? text with
  | some body =>
    obtain rfl := eq_of_regexBody?_eq_some hbody
    rw [regexBodyAt, if_pos ⟨two_le_byteLength .., rfl, List.getLast?_concat (l := '/' :: body)⟩,
      sliceAt_inner body rfl rfl]
    rfl
  | none =>
    rw [regexBodyAt, if_neg]
    · rfl
    · rintro ⟨hlong, hhead, hlast⟩
      obtain ⟨rest, rfl⟩ := List.head?_eq_some_iff.1 hhead
      cases rest with
      | nil => exact absurd hlong (by decide)
      | cons c rest =>
        rw [List.getLast?_cons_cons] at hlast
        rw [regexBody?, if_pos hlast] at hbody
        cases hbody

/-- **An argument without its quotes is a slice.** -/
theorem unquotedAt_eq (text : List Char) : unquotedAt text = .ok (unquoted text) := by
  rw [unquotedAt]
  cases text with
  | nil => rfl
  | cons q rest =>
    have hfirst : byteAt (utf8 (q :: rest)) 0 = .ok (leadByte q) :=
      byteAt_char (show q :: rest = [] ++ q :: rest from rfl)
    rcases List.eq_nil_or_concat' rest with rfl | ⟨body, d, rfl⟩
    · -- One character is not two quotes, however many bytes it has.
      have hlast : byteAt (utf8 [q]) (byteLength [q] - 1) = .ok (lastByte q) :=
        byteAt_last (show [q] = [] ++ [q] from rfl)
      split_ifs with hlong
      · rw [hfirst, hlast]
        simp only [checked_bind, isQuoteByte_leadByte]
        rw [if_neg]
        · simp [unquoted]
          rfl
        · rintro ⟨hquote, -⟩
          have hsize := utf8Size_of_isAscii (isAscii_of_isQuote hquote)
          rw [byteLength_cons, byteLength_nil, hsize] at hlong
          omega
      · simp [unquoted]
        rfl
    · have hlast : byteAt (utf8 (q :: (body ++ [d]))) (byteLength (q :: (body ++ [d])) - 1) =
          .ok (lastByte d) :=
        byteAt_last (show q :: (body ++ [d]) = (q :: body) ++ [d] from rfl)
      rw [if_pos (two_le_byteLength ..), hfirst, hlast]
      simp only [checked_bind, isQuoteByte_leadByte, unquoted, List.getLast?_concat,
        List.dropLast_concat, Bool.and_eq_true, beq_iff_eq, Option.some.injEq]
      by_cases hquote : isQuote q = true
      · have hascii := isAscii_of_isQuote hquote
        have hsame : leadByte q = lastByte d ↔ d = q := by
          rw [leadByte_of_isAscii hascii, eq_comm, lastByte_eq_iff hascii]
        simp only [hsame, hquote, true_and]
        split_ifs with heq
        · obtain rfl := heq
          exact sliceAt_inner body hascii hascii
        · rfl
      · rw [if_neg fun h => hquote h.1, if_neg fun h => hquote h.1]
        rfl

/-! ## Operators -/

section Parse

variable {parse : List Char → Checked ReadStages} {u : OperatorUse}

/-- **Whether an operator stays in the CSS is told without a fault** if its argument is read so. -/
theorem staysAt_eq (hparse : parse (trim u.argument) = .ok (readSelector (trim u.argument)))
    (after : List Char) :
    ∃ stays, staysAt parse u.marker (trim u.argument) after = .ok stays ∧
      (stays = true ↔ u.StaysInCss after) := by
  rw [staysAt]
  by_cases hnative : u.marker = ":not(" ∨ u.marker = ":has("
  · rw [if_pos hnative]
    by_cases hfollow : (trimStart after).isEmpty ∨ (operatorAt? (trimStart after)).isSome
    · refine ⟨false, if_pos hfollow, iff_of_false Bool.false_ne_true fun hstays => ?_⟩
      rcases hfollow with hempty | hsome
      · exact hstays.more (List.isEmpty_iff.1 hempty)
      · rw [hstays.noOperator] at hsome
        cases hsome
    · refine ⟨isPlainCss (readSelector (trim u.argument)), ?_, ?_⟩
      · rw [if_neg hfollow, hparse]
        rfl
      · simp only [not_or, Bool.not_eq_true, Option.isSome_eq_false_iff,
          Option.isNone_iff_eq_none, List.isEmpty_eq_false_iff] at hfollow
        rw [OperatorUse.isPlainCss_iff]
        exact ⟨fun plain => ⟨hnative, plain, hfollow.1, hfollow.2⟩, fun hstays => hstays.plain⟩
  · exact ⟨false, if_neg hnative, iff_of_false Bool.false_ne_true fun hstays =>
      hnative hstays.native⟩

/-- **The stages after an operator are found without a fault** if its argument is read so. -/
theorem pushedAt_eq (hparse : parse (trim u.argument) = .ok (readSelector (trim u.argument)))
    (stages : List Stage) :
    pushedAt parse u.marker u.op (trim u.argument) stages = .ok (u.pushed stages) := by
  obtain ⟨marker, op, argument⟩ := u
  dsimp only at hparse
  rw [OperatorUse.pushed]
  cases op with
  | act a => rfl
  | contains =>
    simp only [pushedAt, unquotedAt_eq, regexBodyAt_eq, checked_bind]
    split_ifs
    · rfl
    · cases readPattern ((regexBody? (unquoted (trim argument))).getD
        (unquoted (trim argument))) <;> rfl
  | has =>
    simp only [pushedAt, hparse, checked_bind]
    split_ifs
    · rfl
    · cases readSelector (trim argument) <;> rfl
  | not =>
    simp only [pushedAt, hparse, checked_bind]
    split_ifs
    · rfl
    · cases readSelector (trim argument) <;> rfl
  | properties =>
    simp only [pushedAt, unquotedAt_eq, checked_bind]
    split_ifs <;> rfl
  | xpath =>
    simp only [pushedAt, unquotedAt_eq, checked_bind]
    split_ifs <;> rfl

/-! ## Stages -/

variable {text : List Char}

/-- At the end what is left is plain text. -/
theorem byteStages_end {start i : Nat} (hi : byteLength text ≤ i) (stages : List Stage) :
    byteStages parse text start i stages =
      (sliceAt text start (byteLength text)).bind fun gap => .ok (.ok (addPlain gap stages)) := by
  rw [byteStages, if_neg (Nat.not_lt.2 hi)]
  rfl

theorem byteStages_skip {start i : Nat} {stages : List Stage} {b : UInt8}
    (h : (utf8 text)[i]? = some b) (hb : 128 ≤ b) :
    byteStages parse text start i stages = byteStages parse text start (i + 1) stages := by
  obtain ⟨hlt, -⟩ := List.getElem?_eq_some_iff.1 h
  rw [length_utf8] at hlt
  rw [byteStages, if_pos hlt, byteAt, h]
  simp only [checked_bind, isQuoteByte_of_le hb, Bool.false_eq_true, if_false]
  rw [if_neg (ne_toUInt8_of_le rfl hb), if_neg (ne_toUInt8_of_le rfl hb),
    if_neg (ne_toUInt8_of_le rfl hb), if_neg (ne_toUInt8_of_le rfl hb),
    if_neg (ne_toUInt8_of_le rfl hb)]

/-- **Where no operator opens one piece of plain text is passed over.** -/
theorem byteStages_pass {pre rest : List Char} {c : Char} (htext : text = pre ++ c :: rest)
    (hop : operatorAt? (c :: rest) = none) (start : Nat) (stages : List Stage) :
    byteStages parse text start (byteLength pre) stages =
      match plainLength? pre.getLast? c rest with
      | some n => byteStages parse text start (byteLength (pre ++ c :: rest.take n)) stages
      | none => .ok (.error (.unbalanced (byteLength pre))) := by
  have hskip : byteStages parse text start (byteLength pre + 1) stages =
      byteStages parse text start (byteLength (pre ++ [c])) stages :=
    eq_at_end_of_char htext _ fun i b => byteStages_skip
  rw [byteStages, if_pos (lt_byteLength htext), byteAt_char htext, plainLength?]
  simp only [checked_bind, isQuoteByte_leadByte,
    leadByte_eq_iff (show isAscii '\\' = true from rfl),
    leadByte_eq_iff (show isAscii '[' = true from rfl),
    leadByte_eq_iff (show isAscii ':' = true from rfl),
    leadByte_eq_iff (show isAscii '(' = true from rfl),
    leadByte_eq_iff (show isAscii ')' = true from rfl)]
  split_ifs with hslash hquote hbracket hcolon hopen hclose hopen hclose
  · -- The escaped character is passed over byte by byte, or the backslash is the last character.
    have hnext : byteLength pre + 2 = byteLength (pre ++ [c]) + 1 := by
      rw [hslash, byteLength_append, byteLength_cons, byteLength_nil,
        utf8Size_of_isAscii (c := '\\') rfl]
    rw [hnext]
    cases rest with
    | nil =>
      dsimp only [List.take_nil]
      rw [byteStages_end (by rw [htext]; exact Nat.le_succ _),
        byteStages_end (by rw [htext]; exact Nat.le_refl _)]
    | cons e rest =>
      have hescaped : text = (pre ++ [c]) ++ e :: rest := by rw [htext, List.append_cons]
      rw [eq_at_end_of_char hescaped _ fun i b => byteStages_skip, List.append_assoc]
      rfl
  · have hsize := utf8Size_of_isAscii (isAscii_of_isQuote hquote)
    rw [quotedEnd_eq hquote htext]
    cases stringLength? pre.getLast? c rest with
    | none =>
      simp only [checked_bind, Option.map_none, Option.getD_none, List.take_zero]
      rw [if_pos (Nat.lt_succ_self _), hskip]
    | some n =>
      have hnext : byteLength (pre ++ c :: rest.take n) =
          byteLength pre + 1 + byteLength (rest.take n) := by
        rw [byteLength_append, byteLength_cons, hsize]
        omega
      simp only [checked_bind, Option.map_some, Option.getD_some]
      rw [if_pos (by omega), hnext]
  · have hopening : byteLength (pre ++ [c]) = byteLength pre + 1 := by
      rw [hbracket, byteLength_append, byteLength_cons, byteLength_nil,
        utf8Size_of_isAscii (c := '[') rfl]
    have hnext : byteLength (pre ++ c :: rest.take (bracketLength c rest)) =
        byteLength (pre ++ [c]) + byteLength (rest.take (bracketLength c rest)) := by
      rw [List.append_cons, byteLength_append (pre ++ [c])]
    rw [← hopening, bracketFrom_eq c rest (by rw [htext, List.append_cons])
      (List.getLast?_concat ..), ← hnext]
    simp only [checked_bind]
    rw [if_pos (by omega)]
  · exact absurd (hcolon.symm.trans hopen) (by decide)
  · exact absurd (hcolon.symm.trans hclose) (by decide)
  · rw [sliceAt_rest htext]
    simp only [checked_bind, hop, List.take_zero]
    exact hskip
  · subst hopen
    rw [closingAt_eq htext]
    cases closingParen? 0 '(' rest with
    | none => rfl
    | some n =>
      have hnext : byteLength (pre ++ '(' :: rest.take n) =
          byteLength pre + byteLength (rest.take n) + 1 := by
        rw [byteLength_append, byteLength_cons, utf8Size_of_isAscii (c := '(') rfl]
        omega
      simp only [checked_bind, Option.map_some]
      rw [if_pos (by omega), hnext]
  · rfl
  · exact hskip

section Operators

variable {pre inner : List Char} {m : String × Operator}

/-- The parenthesis at the end of the opening text of an operator, and what closes it. -/
theorem closingAt_operator (hm : m ∈ operators) (htext : text = pre ++ (m.1.toList ++ inner)) :
    closingAt (utf8 text) (byteLength pre + byteLength m.1.toList - 1) =
      .ok ((closingParen? 0 '(' inner).map fun n =>
        byteLength pre + byteLength m.1.toList - 1 + byteLength (inner.take n)) := by
  obtain ⟨name, hname, -⟩ := exists_paren_concat hm
  have hparen : text = (pre ++ name) ++ '(' :: inner := by
    rw [htext, hname]
    simp
  have hopening : byteLength pre + byteLength m.1.toList - 1 = byteLength (pre ++ name) := by
    rw [hname, byteLength_append pre name, byteLength_append name]
    rfl
  rw [hopening, closingAt_eq hparen]

theorem byteLength_pos_of_listed (hm : m ∈ operators) : 0 < byteLength m.1.toList := by
  obtain ⟨name, hname, -⟩ := exists_paren_concat hm
  rw [hname, byteLength_append]
  exact Nat.succ_pos _

/-- At an operator the byte of its colon is read, and the text from there on. -/
theorem colon_of_operator (hm : m ∈ operators) (htext : text = pre ++ (m.1.toList ++ inner)) :
    byteLength pre < byteLength text ∧ byteAt (utf8 text) (byteLength pre) = .ok ':'.toUInt8 ∧
      sliceAt text (byteLength pre) (byteLength text) = .ok (m.1.toList ++ inner) := by
  obtain ⟨name, hname, -⟩ := exists_colon_cons hm
  have hcolon : text = pre ++ ':' :: (name ++ inner) := by rw [htext, hname, List.cons_append]
  refine ⟨lt_byteLength hcolon, ?_, ?_⟩
  · rw [byteAt_char hcolon, leadByte_of_isAscii rfl]
  · exact sliceAt_rest htext

/-- An operator that is not closed is an error at its parenthesis. -/
theorem byteStages_unclosed (hm : m ∈ operators) (htext : text = pre ++ (m.1.toList ++ inner))
    (hopen : closingParen? 0 '(' inner = none) (start : Nat) (stages : List Stage) :
    byteStages parse text start (byteLength pre) stages =
      .ok (.error (.unbalanced (byteLength pre + m.1.length - 1))) := by
  obtain ⟨name, hname, hlength⟩ := exists_paren_concat hm
  obtain ⟨hlt, hbyte, hslice⟩ := colon_of_operator hm htext
  rw [byteStages, if_pos hlt, hbyte, hslice]
  simp only [checked_bind, operatorAt?_eq_some hm (List.prefix_append m.1.toList inner)]
  rw [if_neg (by decide), if_neg (by decide), if_neg (by decide),
    if_pos trivial, closingAt_operator hm htext, hopen, hlength, hname, byteLength_append name]
  rfl

end Operators

/-- **An operator is passed over, or it ends the plain text before it**, just as among the
characters. -/
theorem byteStages_operator {done segment rest : List Char}
    (htext : text = done ++ (segment ++ (u.text ++ rest))) (hwritten : u.IsWritten rest)
    (hparse : parse (trim u.argument) = .ok (readSelector (trim u.argument)))
    (stages : List Stage) :
    (u.StaysInCss rest →
      byteStages parse text (byteLength done) (byteLength (done ++ segment)) stages =
        byteStages parse text (byteLength done) (byteLength (done ++ (segment ++ u.text))) stages) ∧
    (¬ u.StaysInCss rest →
      byteStages parse text (byteLength done) (byteLength (done ++ segment)) stages =
        match u.pushed (addPlain segment stages) with
        | .error e => .ok (.error e)
        | .ok stages =>
          byteStages parse text (byteLength (done ++ (segment ++ u.text)))
            (byteLength (done ++ (segment ++ u.text))) stages) := by
  -- The positions of the reader are the ends of these texts.
  have hmarker : text = (done ++ segment) ++ (u.marker.toList ++ (u.argument ++ ')' :: rest)) := by
    rw [htext, OperatorUse.text]
    simp
  have hargument : text =
      (done ++ segment ++ u.marker.toList) ++ (u.argument ++ (')' :: rest)) := by
    rw [hmarker]
    simp
  have hpos : 0 < byteLength u.marker.toList := byteLength_pos_of_listed hwritten.listed
  have hafter : sliceAt text (byteLength (done ++ (segment ++ u.text))) (byteLength text) =
      .ok rest := by
    rw [sliceAt_rest]
    rw [htext]
    simp
  have hforward : byteLength (done ++ segment) < byteLength (done ++ (segment ++ u.text)) := by
    simp only [OperatorUse.text, byteLength_append]
    omega
  obtain ⟨hlt, hbyte, hslice⟩ := colon_of_operator hwritten.listed hmarker
  have htake : (u.argument ++ ')' :: rest).take (u.argument.length + 1) = u.argument ++ [')'] := by
    rw [List.append_cons, List.take_left' (by simp)]
  have hparen : byteLength [')'] = 1 := rfl
  have hopening : byteLength (done ++ segment) + byteLength u.marker.toList - 1 + 1 =
      byteLength (done ++ segment ++ u.marker.toList) := by
    rw [byteLength_append _ u.marker.toList]
    omega
  have hclosing : byteLength (done ++ segment) + byteLength u.marker.toList - 1 +
      byteLength (u.argument ++ [')']) =
        byteLength (done ++ segment ++ u.marker.toList ++ u.argument) := by
    rw [byteLength_append _ u.argument, ← hopening, byteLength_append _ [')'], hparen]
    omega
  have hnext : byteLength (done ++ segment ++ u.marker.toList ++ u.argument) + 1 =
      byteLength (done ++ (segment ++ u.text)) := by
    rw [← hparen, ← byteLength_append]
    simp [OperatorUse.text]
  obtain ⟨stays, hstays, hiff⟩ :=
    staysAt_eq hparse rest
  have hread : byteStages parse text (byteLength done) (byteLength (done ++ segment)) stages =
      if stays then
        byteStages parse text (byteLength done) (byteLength (done ++ (segment ++ u.text))) stages
      else
        match u.pushed (addPlain segment stages) with
        | .error e => .ok (.error e)
        | .ok stages =>
          byteStages parse text (byteLength (done ++ (segment ++ u.text)))
            (byteLength (done ++ (segment ++ u.text))) stages := by
    rw [byteStages, if_pos hlt, hbyte, hslice]
    simp only [checked_bind, operatorAt?_eq_some hwritten.listed
      (List.prefix_append u.marker.toList (u.argument ++ ')' :: rest))]
    rw [if_neg (by decide), if_neg (by decide), if_neg (by decide),
      if_pos trivial, closingAt_operator hwritten.listed hmarker, hwritten.closed]
    simp only [checked_bind, Option.map_some, htake]
    rw [hopening, hclosing, sliceAt_eq hargument]
    simp only [checked_bind]
    rw [hnext, hafter]
    simp only [checked_bind]
    rw [hstays]
    simp only [checked_bind]
    rw [if_pos hforward, sliceAt_eq htext]
    simp only [checked_bind, pushedAt_eq hparse]
    cases u.pushed (addPlain segment stages) <;> rfl
  rw [hread]
  exact ⟨fun h => if_pos (hiff.2 h), fun h => if_neg fun htrue => h (hiff.1 htrue)⟩

/-- **The stages of a text are read without a fault**, and as they are read from its characters, if
shorter texts are. -/
theorem byteStages_eq
    (hparse : ∀ argument, byteLength argument < byteLength text →
      parse argument = .ok (readSelector argument)) :
    ∀ {rest done segment : List Char}, text = done ++ (segment ++ rest) → ∀ stages,
      byteStages parse text (byteLength done) (byteLength (done ++ segment)) stages =
        .ok (readStages (byteLength (done ++ segment)) (done ++ segment).getLast? segment.reverse
          stages rest) := by
  intro rest
  induction hlength : rest.length using Nat.strongRecOn generalizing rest with
  | ind length ih =>
    intro done segment htext stages
    have hpre : text = (done ++ segment) ++ rest := by rw [htext, List.append_assoc]
    cases hop : operatorAt? rest with
    | some m =>
      obtain ⟨hm, inner, rfl⟩ := operatorAt?_some hop
      cases hclosed : closingParen? 0 '(' inner with
      | none =>
        rw [byteStages_unclosed hm hpre hclosed, OperatorUse.readStages_unclosed hm hclosed]
      | some n =>
        obtain ⟨argument, after, rfl, rfl⟩ := closingParen?_eq_some hclosed
        have hwritten : OperatorUse.IsWritten ⟨m.1, m.2, argument⟩ after := ⟨hm, hclosed⟩
        have husetext : m.1.toList ++ (argument ++ ')' :: after) =
            OperatorUse.text ⟨m.1, m.2, argument⟩ ++ after := by simp [OperatorUse.text]
        generalize (⟨m.1, m.2, argument⟩ : OperatorUse) = u at hwritten husetext
        rw [husetext] at hlength htext ⊢
        have hshort : after.length < length := hlength ▸ u.length_rest_lt [] after
        have hnext : byteLength (done ++ (segment ++ u.text)) =
            byteLength (done ++ segment) + byteLength u.text := by
          rw [← List.append_assoc, byteLength_append]
        have hlast : (done ++ (segment ++ u.text)).getLast? = some ')' := by
          simp [OperatorUse.text]
        have hargument : byteLength (trim u.argument) < byteLength text := by
          have := byteLength_trim_le u.argument
          have hparen : byteLength [')'] = 1 := rfl
          rw [htext, OperatorUse.text]
          simp only [byteLength_append]
          omega
        obtain ⟨hstays, hcut⟩ := byteStages_operator htext hwritten (hparse _ hargument) stages
        by_cases h : u.StaysInCss after
        · rw [hstays h, ih _ hshort rfl (by rw [htext]; simp), hlast, hnext,
            OperatorUse.readStages_stays hwritten h, List.reverse_append]
        · rw [hcut h, OperatorUse.readStages_text hwritten,
            if_neg fun hcond => h ((OperatorUse.staysInCss_iff hwritten).1 hcond),
            List.reverse_reverse]
          cases u.pushed (addPlain segment stages) with
          | error e => rfl
          | ok stages' =>
            have hend : byteStages parse text (byteLength (done ++ (segment ++ u.text)))
                (byteLength (done ++ (segment ++ u.text) ++ [])) stages' = _ :=
              ih _ hshort rfl (by rw [htext]; simp) stages'
            rw [List.append_nil, hlast, hnext] at hend
            rw [hnext]
            exact hend
    | none =>
      cases rest with
      | nil =>
        have hslice := sliceAt_eq htext
        rw [List.append_nil] at hpre
        rw [← hpre] at hslice ⊢
        rw [byteStages_end (Nat.le_refl _), hslice, readStages, List.reverse_reverse]
        rfl
      | cons c rest =>
        rw [byteStages_pass hpre hop, readStages_pass hop]
        cases hn : plainLength? (done ++ segment).getLast? c rest with
        | none => rfl
        | some n =>
          have hshort : (rest.drop n).length < length := by
            rw [List.length_drop, ← hlength, List.length_cons]
            omega
          have hsplit : text = done ++ ((segment ++ c :: rest.take n) ++ rest.drop n) := by
            rw [htext, List.append_assoc, List.cons_append, List.take_append_drop]
          have hmore := ih _ hshort rfl hsplit stages
          rw [← List.append_assoc, List.getLast?_append_cons, List.getLast?_cons,
            byteLength_append _ (c :: _), List.reverse_append, List.reverse_cons,
            List.append_assoc] at hmore
          dsimp only
          rw [byteLength_append _ (c :: _)]
          exact hmore

end Parse

/-- **A selector is read from its bytes without a fault**, and as it is read from its
characters. -/
theorem byteSelector_eq : ∀ cs : List Char, byteSelector cs = .ok (readSelector cs) := by
  intro cs
  induction hlength : byteLength cs using Nat.strongRecOn generalizing cs with
  | ind length ih =>
    rw [byteSelector, readSelector, regexBodyAt_eq]
    by_cases hempty : (trim cs).isEmpty = true
    · rw [if_pos hempty, if_pos hempty]
      rfl
    · rw [if_neg hempty, if_neg hempty]
      simp only [checked_bind]
      cases regexBody? (trim cs) with
      | some body =>
        dsimp only
        cases readPattern body <;> rfl
      | none =>
        have hshorter (argument : List Char) (h : byteLength argument < byteLength (trim cs)) :
            (if byteLength argument < byteLength (trim cs) then byteSelector argument
              else throw Fault.argument) = .ok (readSelector argument) := by
          have := byteLength_trim_le cs
          rw [if_pos h]
          exact ih _ (by omega) argument rfl
        have hstages := byteStages_eq hshorter (show trim cs = [] ++ ([] ++ trim cs) from rfl) []
        rw [List.append_nil, byteLength_nil] at hstages
        rw [hstages]
        simp only [checked_bind]
        rfl

/-! ## Parentheses without partner -/

/-- The texts that are read as selectors in the course of reading one: itself and, at any depth, the
arguments of the operators that take one. -/
inductive IsPart (cs : List Char) : List Char → Prop where
  | whole : IsPart cs (trim cs)
  | argument {u : OperatorUse} (uses : Uses cs u) (op : u.op = .has ∨ u.op = .not) :
    IsPart cs (trim u.argument)

/-- **A parenthesis is reported as unbalanced only if it is without partner** in the whole text or
in the argument where it is, and by its byte position there. -/
theorem exists_loose_of_unbalanced {offset : Nat} :
    ∀ {cs : List Char}, readSelector cs = .error (.unbalanced offset) →
      ∃ pre c rest, IsPart cs (pre ++ c :: rest) ∧ IsLoose c rest ∧ offset = byteLength pre := by
  intro cs
  induction hlength : cs.length using Nat.strongRecOn generalizing cs with
  | ind length ih =>
    intro h
    obtain ⟨hpattern, hread⟩ := (readSelector_eq_error_iff (by simp) (by simp)).1 h
    rcases loose_or_comesTo_of_error not_openAtEnd_nil hread with
      ⟨pre, c, rest, htext, hloose, he⟩ | ⟨u, stages, hcomes, hfails⟩
    · refine ⟨pre, c, rest, htext ▸ .whole, hloose, ?_⟩
      rw [SelectorError.unbalanced.inj he, Nat.zero_add]
    · rcases OperatorUse.error_of_pushed hfails with ⟨-, he⟩ | he | ⟨pattern, he⟩ | ⟨hop, hinner⟩
      · cases he
      · cases he
      · cases he
      · have hshort : (trim u.argument).length < length := by
          have := hcomes.length_argument
          have := length_trim_le u.argument
          have := length_trim_le cs
          omega
        obtain ⟨pre, c, rest, hpart, hloose, hoffset⟩ := ih _ hshort rfl hinner
        refine ⟨pre, c, rest, ?_, hloose, hoffset⟩
        generalize pre ++ c :: rest = part at hpart
        cases hpart with
        | whole =>
          rw [trim_trim]
          exact .argument (.here hpattern hcomes) hop
        | argument uses op => exact .argument (.inside hpattern hcomes hop uses) op

/-- A parenthesis without partner is a byte of the text. -/
theorem IsLoose.getElem?_utf8 {c : Char} {rest : List Char} (h : IsLoose c rest)
    (pre : List Char) :
    (utf8 (pre ++ c :: rest))[byteLength pre]? = some '('.toUInt8 ∨
      (utf8 (pre ++ c :: rest))[byteLength pre]? = some ')'.toUInt8 := by
  rw [Text.getElem?_utf8 rfl]
  rcases h with ⟨rfl, -⟩ | rfl
  · exact .inl (congrArg some (leadByte_of_isAscii rfl))
  · exact .inr (congrArg some (leadByte_of_isAscii rfl))

/-- What is true of the reading of a selector from its bytes. -/
structure ReadSafely (text : String) : Prop where
  /-- There is no fault, and what is read is what the characters give. -/
  faultless : byteSelector text.toList = .ok (parseSelector text)
  /-- What is reported as unbalanced is a parenthesis without partner of one of the texts that are
  read, and its byte is there. -/
  offsets : ∀ offset, parseSelector text = .error (.unbalanced offset) →
    ∃ pre c rest, IsPart text.toList (pre ++ c :: rest) ∧ IsLoose c rest ∧
      offset = byteLength pre ∧
      ((utf8 (pre ++ c :: rest))[offset]? = some '('.toUInt8 ∨
        (utf8 (pre ++ c :: rest))[offset]? = some ')'.toUInt8)

/-- **Every text is read without a fault.** -/
theorem parseSelector_safe (text : String) : ReadSafely text where
  faultless := byteSelector_eq text.toList
  offsets offset h := by
    obtain ⟨pre, c, rest, hpart, hloose, rfl⟩ := exists_loose_of_unbalanced h
    exact ⟨pre, c, rest, hpart, hloose, rfl, hloose.getElem?_utf8 pre⟩

end PageGuard
