import PageGuard.Proofs.Selector.Gaps
import PageGuard.Proofs.Text.Bytes

/-!
# Reading selectors from bytes

A selector can be read from the bytes of its text: by one position that moves on over the bytes, and
by slices of the text between positions.  Such a reader has much to get wrong: it may read behind
the end, cut a character in two, count parentheses below zero, stand still, or call itself on a text
that is no shorter.  Each of these is a `Fault` here, and nothing is taken for granted about
positions.

* `byteSelector`: the reader.
* `quotedEnd_eq`, `bracketFrom_eq`, `closingAt_eq`: where strings, brackets and parentheses end is
  found among the bytes as among the characters.
-/

namespace PageGuard

open Text

/-! ## Faults -/

/-- What a reader over bytes must not do. -/
inductive Fault where
  /-- Read a byte where there is none. -/
  | byte
  /-- Take a slice that does not begin and end between characters, or ends before it begins. -/
  | slice
  /-- Close a parenthesis when none is open. -/
  | depth
  /-- Go on at a position that is not behind the last one. -/
  | position
  /-- Read an argument that is not shorter than the text around it. -/
  | argument
deriving DecidableEq

/-- What is computed without a fault. -/
abbrev Checked (α : Type) := Except Fault α

@[simp] theorem checked_bind {α β : Type} (a : α) (f : α → Checked β) :
    ((.ok a : Checked α) >>= f) = f a := rfl

/-- The byte at a position. -/
def byteAt (bytes : List UInt8) (i : Nat) : Checked UInt8 :=
  match bytes[i]? with
  | some b => .ok b
  | none => .error .byte

/-- The text between two positions. -/
def sliceAt (text : List Char) (start stop : Nat) : Checked (List Char) :=
  match slice? start stop text with
  | some part => .ok part
  | none => .error .slice

/-- The byte of a quote. -/
def isQuoteByte (b : UInt8) : Bool := b == '"'.toUInt8 || b == '\''.toUInt8

/-- A byte before which a quote opens no string: a letter, a digit or one outside ASCII. -/
def joinsByte (b : UInt8) : Bool :=
  ('a'.toUInt8 ≤ b && b ≤ 'z'.toUInt8) || ('A'.toUInt8 ≤ b && b ≤ 'Z'.toUInt8) ||
    ('0'.toUInt8 ≤ b && b ≤ '9'.toUInt8) || 128 ≤ b

/-! ## Passing over bytes -/

/-- The position behind the first `quote` from `i` on, what a backslash escapes left out. -/
def quotedFrom (bytes : List UInt8) (quote : UInt8) (i : Nat) : Checked (Option Nat) :=
  if i < bytes.length then do
    let b ← byteAt bytes i
    if b = '\\'.toUInt8 then quotedFrom bytes quote (i + 2)
    else if b = quote then return some (i + 1)
    else quotedFrom bytes quote (i + 1)
  else return none
termination_by bytes.length - i

/-- Whether the byte before a position joins on to it. -/
def joinedAt (bytes : List UInt8) (i : Nat) : Checked Bool :=
  if i = 0 then return false
  else do return joinsByte (← byteAt bytes (i - 1))

/-- The position behind the string that the quote at `start` opens, if it opens one. -/
def quotedEnd (bytes : List UInt8) (start : Nat) : Checked (Option Nat) := do
  if ← joinedAt bytes start then return none
  else quotedFrom bytes (← byteAt bytes start) (start + 1)

/-- The position behind the bracket that is open at `i`, or the end. -/
def bracketFrom (bytes : List UInt8) (i : Nat) : Checked Nat :=
  if i < bytes.length then do
    let b ← byteAt bytes i
    if isQuoteByte b then do
      let next := (← quotedEnd bytes i).getD (i + 1)
      if i < next then bracketFrom bytes next else throw .position
    else if b = ']'.toUInt8 then return i + 1
    else bracketFrom bytes (i + 1)
  else return bytes.length
termination_by bytes.length - i

/-- The position of the parenthesis that closes the `depth` ones that are open at `i`. -/
def closingFrom (bytes : List UInt8) (depth i : Nat) : Checked (Option Nat) :=
  if i < bytes.length then do
    let b ← byteAt bytes i
    if b = '\\'.toUInt8 then closingFrom bytes depth (i + 2)
    else if isQuoteByte b then do
      let next := (← quotedEnd bytes i).getD (i + 1)
      if i < next then closingFrom bytes depth next else throw .position
    else if b = '('.toUInt8 then closingFrom bytes (depth + 1) (i + 1)
    else if b = ')'.toUInt8 then
      if depth = 0 then throw .depth
      else if depth - 1 = 0 then return some i
      else closingFrom bytes (depth - 1) (i + 1)
    else closingFrom bytes depth (i + 1)
  else return none
termination_by bytes.length - i

/-- The position of the parenthesis that closes the one at `opening`. -/
def closingAt (bytes : List UInt8) (opening : Nat) : Checked (Option Nat) :=
  closingFrom bytes 0 opening

/-! ## Arguments -/

/-- The text between two slashes, if a text has that form. -/
def regexBodyAt (text : List Char) : Checked (Option (List Char)) :=
  if 2 ≤ byteLength text ∧ text.head? = some '/' ∧ text.getLast? = some '/' then
    return some (← sliceAt text 1 (byteLength text - 1))
  else return none

/-- An argument without the quotes around it. -/
def unquotedAt (text : List Char) : Checked (List Char) :=
  if 2 ≤ byteLength text then do
    let first ← byteAt (utf8 text) 0
    let last ← byteAt (utf8 text) (byteLength text - 1)
    if isQuoteByte first ∧ first = last then sliceAt text 1 (byteLength text - 1)
    else return text
  else return text

/-- What is read of a text: stages, or why it is no selector. -/
abbrev ReadStages := Except SelectorError (List Stage)

section Parse

-- How arguments are read.
variable (parse : List Char → Checked ReadStages)

/-- Whether an operator stays in the CSS around it. -/
def staysAt (marker : String) (argument after : List Char) : Checked Bool :=
  if marker = ":not(" ∨ marker = ":has(" then
    let follow := trimStart after
    if follow.isEmpty ∨ (operatorAt? follow).isSome then return false
    else return isPlainCss (← parse argument)
  else return false

/-- The stages after an operator, or why its argument is none. -/
def pushedAt (marker : String) (op : Operator) (argument : List Char) (stages : List Stage) :
    Checked ReadStages :=
  match op with
  | .act action => return attachAction action (operatorName marker) stages
  | _ =>
    if argument.isEmpty then return .error (.emptyArgument (operatorName marker))
    else
      match op with
      | .contains => do
        let text ← unquotedAt argument
        let body ← regexBodyAt text
        return (readPattern (body.getD text)).map fun p =>
          stages ++ [.contains (.ofList text) p]
      | .has => return (← parse argument).map fun chain => stages ++ [.has chain]
      | .not => return (← parse argument).map fun chain => stages ++ [.not chain]
      | .properties => return .ok (stages ++ [.properties (.ofList (← unquotedAt argument))])
      | _ => return .ok (stages ++ [.xpath (.ofList (← unquotedAt argument))])

/-- Reads the stages of a text from the position `i` on; the plain text since the last operator
begins at `start`. -/
def byteStages (text : List Char) (start i : Nat) (stages : List Stage) : Checked ReadStages :=
  if i < byteLength text then do
    let b ← byteAt (utf8 text) i
    if b = '\\'.toUInt8 then byteStages text start (i + 2) stages
    else if isQuoteByte b then do
      let next := (← quotedEnd (utf8 text) i).getD (i + 1)
      if i < next then byteStages text start next stages else throw .position
    else if b = '['.toUInt8 then do
      let next ← bracketFrom (utf8 text) (i + 1)
      if i < next then byteStages text start next stages else throw .position
    else if b = ':'.toUInt8 then do
      match operatorAt? (← sliceAt text i (byteLength text)) with
      | none => byteStages text start (i + 1) stages
      | some (marker, op) => do
        let opening := i + byteLength marker.toList - 1
        match ← closingAt (utf8 text) opening with
        | none => return .error (.unbalanced opening)
        | some closing => do
          let argument := trim (← sliceAt text (opening + 1) closing)
          let stays ← staysAt parse marker argument
            (← sliceAt text (closing + 1) (byteLength text))
          if i < closing + 1 then
            if stays then byteStages text start (closing + 1) stages
            else do
              let gap ← sliceAt text start i
              match ← pushedAt parse marker op argument (addPlain gap stages) with
              | .error e => return .error e
              | .ok stages => byteStages text (closing + 1) (closing + 1) stages
          else throw .position
    else if b = '('.toUInt8 then do
      match ← closingAt (utf8 text) i with
      | none => return .error (.unbalanced i)
      | some closing =>
        if i < closing + 1 then byteStages text start (closing + 1) stages else throw .position
    else if b = ')'.toUInt8 then return .error (.unbalanced i)
    else byteStages text start (i + 1) stages
  else do
    let gap ← sliceAt text start (byteLength text)
    return .ok (addPlain gap stages)
termination_by byteLength text - i

end Parse

theorem byteLength_trim_le (cs : List Char) : byteLength (trim cs) ≤ byteLength cs := by
  obtain ⟨before, after, htext⟩ := trim_isInfix cs
  have hlength := congrArg byteLength htext
  rw [byteLength_append, byteLength_append] at hlength
  omega

/-- Reads a selector. -/
def byteSelector (cs : List Char) : Checked ReadStages := do
  let text := trim cs
  if text.isEmpty then return .error .empty
  else
    match ← regexBodyAt text with
    | some body => return (readPattern body).map fun p => [.plain (.textMatch p) none]
    | none => do
      let stages ← byteStages (fun argument =>
        if byteLength argument < byteLength text then byteSelector argument
        else throw .argument) text 0 0 []
      return stages.bind fun stages => if stages.isEmpty then .error .empty else .ok stages
termination_by byteLength cs
decreasing_by exact Nat.lt_of_lt_of_le ‹_› (byteLength_trim_le cs)

/-! ## Characters at their positions -/

theorem isQuoteByte_leadByte (c : Char) : isQuoteByte (leadByte c) = isQuote c := by
  rw [Bool.eq_iff_iff, isQuoteByte, isQuote]
  simp only [Bool.or_eq_true, beq_iff_eq, leadByte_eq_iff (show isAscii '"' = true from rfl),
    leadByte_eq_iff (show isAscii '\'' = true from rfl)]

theorem isQuoteByte_of_le {b : UInt8} (hb : 128 ≤ b) : isQuoteByte b = false := by
  rw [isQuoteByte, Bool.or_eq_false_iff, beq_eq_false_iff_ne, beq_eq_false_iff_ne]
  exact ⟨ne_toUInt8_of_le rfl hb, ne_toUInt8_of_le rfl hb⟩

theorem isAscii_of_isQuote {c : Char} (h : isQuote c = true) : isAscii c = true := by
  rw [isQuote, Bool.or_eq_true, beq_iff_eq, beq_iff_eq] at h
  rcases h with rfl | rfl <;> rfl

/-- The order of ASCII characters is that of their bytes. -/
theorem toUInt8_le_iff {c d : Char} (hc : isAscii c = true) (hd : isAscii d = true) :
    c.toUInt8 ≤ d.toUInt8 ↔ c ≤ d := by
  rw [UInt8.le_iff_toNat_le, toNat_toUInt8 hc, toNat_toUInt8 hd, Char.le_def,
    UInt32.le_iff_toNat_le]
  rfl

/-- **A quote joins on to a character exactly when it joins on to its last byte.** -/
theorem joinsByte_lastByte (c : Char) :
    joinsByte (lastByte c) = (isAsciiAlnum c || !isAscii c) := by
  by_cases hc : isAscii c = true
  · have hlt : ¬ 128 ≤ c.toUInt8 := UInt8.not_le.2 (toUInt8_lt hc)
    have hle (d : Char) (hd : isAscii d = true) := toUInt8_le_iff hd hc
    have hge (d : Char) (hd : isAscii d = true) := toUInt8_le_iff hc hd
    rw [lastByte_of_isAscii hc, joinsByte, decide_eq_false hlt, hc]
    simp only [hle 'a' rfl, hge 'z' rfl, hle 'A' rfl, hge 'Z' rfl, hle '0' rfl, hge '9' rfl]
    simp [isAsciiAlnum, isAsciiLetter, isAsciiDigit]
  · have hfalse := Bool.eq_false_iff.2 hc
    rw [joinsByte, decide_eq_true (le_lastByte hfalse), hfalse]
    simp

section Position

variable {text pre rest : List Char} {c : Char}

theorem byteAt_char (htext : text = pre ++ c :: rest) :
    byteAt (utf8 text) (byteLength pre) = .ok (leadByte c) := by
  rw [byteAt, getElem?_utf8 htext]

theorem byteAt_last (htext : text = pre ++ c :: rest) :
    byteAt (utf8 text) (byteLength (pre ++ [c]) - 1) = .ok (lastByte c) := by
  rw [byteAt, getElem?_utf8_last htext]

theorem lt_byteLength (htext : text = pre ++ c :: rest) : byteLength pre < byteLength text := by
  have := c.utf8Size_pos
  rw [htext, byteLength_append, byteLength_cons]
  omega

/-- What joins on to a position is the character before it. -/
theorem joinedAt_eq (htext : text = pre ++ rest) :
    joinedAt (utf8 text) (byteLength pre) =
      .ok (match pre.getLast? with
        | some d => isAsciiAlnum d || !isAscii d
        | none => false) := by
  rcases List.eq_nil_or_concat' pre with rfl | ⟨init, d, rfl⟩
  · rfl
  · have hpos : byteLength (init ++ [d]) ≠ 0 := by
      have := d.utf8Size_pos
      rw [byteLength_append, byteLength_cons]
      omega
    rw [List.append_assoc, List.singleton_append] at htext
    rw [joinedAt, if_neg hpos, byteAt_last htext, List.getLast?_concat]
    simp only [checked_bind, joinsByte_lastByte]
    rfl

end Position

/-! ## Strings, brackets and parentheses -/

theorem quotedFrom_skip {quote : Char} (hquote : isAscii quote = true) {bytes : List UInt8}
    {i : Nat} {b : UInt8} (h : bytes[i]? = some b) (hb : 128 ≤ b) :
    quotedFrom bytes quote.toUInt8 i = quotedFrom bytes quote.toUInt8 (i + 1) := by
  obtain ⟨hlt, -⟩ := List.getElem?_eq_some_iff.1 h
  rw [quotedFrom, if_pos hlt, byteAt, h]
  simp only [checked_bind]
  rw [if_neg (ne_toUInt8_of_le rfl hb), if_neg (ne_toUInt8_of_le hquote hb)]

theorem quotedFrom_char {quote : Char} (hquote : isAscii quote = true) {text pre rest : List Char}
    {c : Char} (htext : text = pre ++ c :: rest) :
    quotedFrom (utf8 text) quote.toUInt8 (byteLength pre) =
      if c = '\\' then quotedFrom (utf8 text) quote.toUInt8 (byteLength pre + 2)
      else if c = quote then .ok (some (byteLength pre + 1))
      else quotedFrom (utf8 text) quote.toUInt8 (byteLength (pre ++ [c])) := by
  rw [← eq_at_end_of_char htext _ fun i b => quotedFrom_skip hquote, quotedFrom, length_utf8,
    if_pos (lt_byteLength htext), byteAt_char htext]
  simp only [checked_bind, leadByte_eq_iff hquote,
    leadByte_eq_iff (show isAscii '\\' = true from rfl)]
  rfl

/-- A string ends among the bytes where it ends among the characters. -/
theorem quotedFrom_eq {quote : Char} (hquote : isAscii quote = true) {text : List Char}
    (rest : List Char) : ∀ {pre : List Char}, text = pre ++ rest →
      quotedFrom (utf8 text) quote.toUInt8 (byteLength pre) =
        .ok ((closingQuote? quote rest).map fun n =>
          byteLength pre + byteLength (rest.take n)) := by
  have hslash : ('\\').utf8Size = 1 := rfl
  fun_induction closingQuote? quote rest with
  | case1 =>
    intro pre htext
    rw [quotedFrom, length_utf8, htext, List.append_nil, if_neg (Nat.lt_irrefl _)]
    rfl
  | case2 =>
    intro pre htext
    rw [quotedFrom_char hquote htext, if_pos rfl, quotedFrom, length_utf8, htext, if_neg]
    · rfl
    · rw [byteLength_append, byteLength_cons, byteLength_nil]
      omega
  | case3 e rest ih =>
    intro pre htext
    -- The second byte of the escape is the first one of `e`; its other bytes are passed over.
    have hescaped : text = (pre ++ ['\\']) ++ e :: rest := by rw [htext, List.append_cons]
    have hnext : byteLength pre + 2 = byteLength (pre ++ ['\\']) + 1 := by
      rw [byteLength_append, byteLength_cons, byteLength_nil]
      omega
    rw [quotedFrom_char hquote htext, if_pos rfl, hnext,
      eq_at_end_of_char hescaped _ fun i b => quotedFrom_skip hquote,
      ih (by rw [hescaped, List.append_cons _ e])]
    cases closingQuote? quote rest <;> simp [byteLength_append, Nat.add_assoc]
  | case4 rest hne =>
    intro pre htext
    have hsize := utf8Size_of_isAscii hquote
    rw [quotedFrom_char hquote htext, if_neg hne, if_pos rfl]
    simp [hsize]
  | case5 c rest hne hopen ih =>
    intro pre htext
    rw [quotedFrom_char hquote htext, if_neg hne, if_neg hopen,
      ih (by rw [htext, List.append_cons])]
    cases closingQuote? quote rest <;> simp [byteLength_append, Nat.add_assoc]

/-- **A quote opens the same string among the bytes and among the characters.** -/
theorem quotedEnd_eq {text pre rest : List Char} {quote : Char} (hquote : isQuote quote = true)
    (htext : text = pre ++ quote :: rest) :
    quotedEnd (utf8 text) (byteLength pre) =
      .ok ((stringLength? pre.getLast? quote rest).map fun n =>
        byteLength pre + 1 + byteLength (rest.take n)) := by
  have hascii := isAscii_of_isQuote hquote
  have hsize := utf8Size_of_isAscii hascii
  have hend : byteLength pre + 1 = byteLength (pre ++ [quote]) := by
    rw [byteLength_append, byteLength_cons, byteLength_nil, hsize]
  have hstring : quotedFrom (utf8 text) (leadByte quote) (byteLength pre + 1) =
      .ok ((closingQuote? quote rest).map fun n =>
        byteLength pre + 1 + byteLength (rest.take n)) := by
    rw [leadByte_of_isAscii hascii, hend]
    exact quotedFrom_eq hascii rest (by rw [htext, List.append_cons])
  rw [quotedEnd, joinedAt_eq htext, byteAt_char htext]
  simp only [checked_bind]
  unfold stringLength?
  cases pre.getLast? with
  | none => exact hstring
  | some d =>
    dsimp only
    split_ifs
    · rfl
    · exact hstring

/-- What closes a string is a quote like the one that opens it. -/
theorem closingQuote?_eq_some {quote : Char} {cs : List Char} {n : Nat}
    (h : closingQuote? quote cs = some n) :
    ∃ body after, cs = body ++ quote :: after ∧ n = body.length + 1 := by
  fun_induction closingQuote? quote cs generalizing n with
  | case1 => cases h
  | case2 => cases h
  | case3 e rest ih =>
    obtain ⟨k, hk, rfl⟩ := Option.map_eq_some_iff.1 h
    obtain ⟨body, after, rfl, rfl⟩ := ih hk
    exact ⟨'\\' :: e :: body, after, rfl, rfl⟩
  | case4 rest =>
    obtain rfl := Option.some.inj h
    exact ⟨[], rest, rfl, rfl⟩
  | case5 c rest _ _ ih =>
    obtain ⟨k, hk, rfl⟩ := Option.map_eq_some_iff.1 h
    obtain ⟨body, after, rfl, rfl⟩ := ih hk
    exact ⟨c :: body, after, rfl, rfl⟩

/-- A string ends in its quote. -/
theorem getLast?_append_string {before : Option Char} {quote : Char} {rest : List Char} {n : Nat}
    (h : stringLength? before quote rest = some n) (pre : List Char) :
    (pre ++ quote :: rest.take n).getLast? = some quote := by
  have hclosing : closingQuote? quote rest = some n := by
    unfold stringLength? at h
    split at h
    · split_ifs at h
      exact h
    · exact h
  obtain ⟨body, after, rfl, rfl⟩ := closingQuote?_eq_some hclosing
  have htake : (body ++ quote :: after).take (body.length + 1) = body ++ [quote] := by
    rw [List.append_cons, List.take_left' (by simp)]
  rw [htake, ← List.cons_append, ← List.append_assoc, List.getLast?_concat]

/-- A character, some more and again some more. -/
theorem byteLength_take_cons (c : Char) (rest : List Char) (n k : Nat) :
    byteLength ((c :: rest).take (k + (n + 1))) =
      c.utf8Size + (byteLength (rest.take n) + byteLength ((rest.drop n).take k)) := by
  rw [← Nat.add_assoc, List.take_succ_cons, byteLength_cons, Nat.add_comm k n, List.take_add,
    byteLength_append]

theorem bracketFrom_skip {bytes : List UInt8} {i : Nat} {b : UInt8} (h : bytes[i]? = some b)
    (hb : 128 ≤ b) : bracketFrom bytes i = bracketFrom bytes (i + 1) := by
  obtain ⟨hlt, -⟩ := List.getElem?_eq_some_iff.1 h
  rw [bracketFrom, if_pos hlt, byteAt, h]
  simp only [checked_bind, isQuoteByte_of_le hb, Bool.false_eq_true, if_false]
  rw [if_neg (ne_toUInt8_of_le rfl hb)]

theorem bracketFrom_char {text pre rest : List Char} {c : Char} (htext : text = pre ++ c :: rest) :
    bracketFrom (utf8 text) (byteLength pre) =
      if isQuote c then
        match stringLength? pre.getLast? c rest with
        | some n => bracketFrom (utf8 text) (byteLength (pre ++ c :: rest.take n))
        | none => bracketFrom (utf8 text) (byteLength (pre ++ [c]))
      else if c = ']' then .ok (byteLength pre + 1)
      else bracketFrom (utf8 text) (byteLength (pre ++ [c])) := by
  rw [bracketFrom, length_utf8, if_pos (lt_byteLength htext), byteAt_char htext]
  simp only [checked_bind, isQuoteByte_leadByte, leadByte_eq_iff (show isAscii ']' = true from rfl)]
  split_ifs with hquote hclose
  · have hsize := utf8Size_of_isAscii (isAscii_of_isQuote hquote)
    rw [quotedEnd_eq hquote htext]
    cases stringLength? pre.getLast? c rest with
    | none => simp [byteLength_append, hsize]
    | some n =>
      have hnext : byteLength (pre ++ c :: rest.take n) =
          byteLength pre + 1 + byteLength (rest.take n) := by
        rw [byteLength_append, byteLength_cons, hsize]
        omega
      simp only [checked_bind, Option.map_some, Option.getD_some]
      rw [if_pos (by omega), hnext]
  · rfl
  · exact eq_at_end_of_char htext _ fun i b => bracketFrom_skip

/-- **A bracket ends among the bytes where it ends among the characters.** -/
theorem bracketFrom_eq {text : List Char} (before : Char) (rest : List Char) :
    ∀ {pre : List Char}, text = pre ++ rest → pre.getLast? = some before →
      bracketFrom (utf8 text) (byteLength pre) =
        .ok (byteLength pre + byteLength (rest.take (bracketLength before rest))) := by
  fun_induction bracketLength before rest with
  | case1 =>
    intro pre htext hbefore
    rw [bracketFrom, length_utf8, htext, List.append_nil, if_neg (Nat.lt_irrefl _)]
    rfl
  | case2 before c rest hquote n hstring ih =>
    intro pre htext hbefore
    rw [bracketFrom_char htext, if_pos hquote, hbefore, hstring]
    dsimp only
    rw [ih (by rw [htext, List.append_assoc, List.cons_append, List.take_append_drop])
      (getLast?_append_string hstring pre), Nat.add_assoc, byteLength_take_cons,
      byteLength_append, byteLength_cons, Nat.add_assoc, Nat.add_assoc]
  | case3 before c rest hquote hstring ih =>
    intro pre htext hbefore
    rw [bracketFrom_char htext, if_pos hquote, hbefore, hstring]
    dsimp only
    rw [ih (by rw [htext, List.append_cons]) (List.getLast?_concat ..)]
    simp [byteLength_append, Nat.add_assoc]
  | case4 before rest hquote =>
    intro pre htext hbefore
    rw [bracketFrom_char htext, if_neg hquote, if_pos rfl]
    rfl
  | case5 before c rest hquote hclose ih =>
    intro pre htext hbefore
    rw [bracketFrom_char htext, if_neg hquote, if_neg hclose,
      ih (by rw [htext, List.append_cons]) (List.getLast?_concat ..)]
    simp [byteLength_append, Nat.add_assoc]

theorem closingFrom_skip {bytes : List UInt8} {depth i : Nat} {b : UInt8}
    (h : bytes[i]? = some b) (hb : 128 ≤ b) :
    closingFrom bytes depth i = closingFrom bytes depth (i + 1) := by
  obtain ⟨hlt, -⟩ := List.getElem?_eq_some_iff.1 h
  rw [closingFrom, if_pos hlt, byteAt, h]
  simp only [checked_bind, isQuoteByte_of_le hb, Bool.false_eq_true, if_false]
  rw [if_neg (ne_toUInt8_of_le rfl hb), if_neg (ne_toUInt8_of_le rfl hb),
    if_neg (ne_toUInt8_of_le rfl hb)]

theorem closingFrom_char {text pre rest : List Char} {c : Char} (htext : text = pre ++ c :: rest)
    (depth : Nat) :
    closingFrom (utf8 text) (depth + 1) (byteLength pre) =
      if c = '\\' then closingFrom (utf8 text) (depth + 1) (byteLength pre + 2)
      else if isQuote c then
        match stringLength? pre.getLast? c rest with
        | some n => closingFrom (utf8 text) (depth + 1) (byteLength (pre ++ c :: rest.take n))
        | none => closingFrom (utf8 text) (depth + 1) (byteLength (pre ++ [c]))
      else if c = '(' then closingFrom (utf8 text) (depth + 2) (byteLength (pre ++ [c]))
      else if c = ')' then
        if depth = 0 then .ok (some (byteLength pre))
        else closingFrom (utf8 text) depth (byteLength (pre ++ [c]))
      else closingFrom (utf8 text) (depth + 1) (byteLength (pre ++ [c])) := by
  rw [closingFrom, length_utf8, if_pos (lt_byteLength htext), byteAt_char htext]
  simp only [checked_bind, isQuoteByte_leadByte,
    leadByte_eq_iff (show isAscii '\\' = true from rfl),
    leadByte_eq_iff (show isAscii '(' = true from rfl),
    leadByte_eq_iff (show isAscii ')' = true from rfl), Nat.add_one_ne_zero, if_false,
    Nat.add_sub_cancel]
  split_ifs with hslash hquote hopen hclose hlast
  · rfl
  · have hsize := utf8Size_of_isAscii (isAscii_of_isQuote hquote)
    rw [quotedEnd_eq hquote htext]
    cases stringLength? pre.getLast? c rest with
    | none => simp [byteLength_append, hsize]
    | some n =>
      have hnext : byteLength (pre ++ c :: rest.take n) =
          byteLength pre + 1 + byteLength (rest.take n) := by
        rw [byteLength_append, byteLength_cons, hsize]
        omega
      simp only [checked_bind, Option.map_some, Option.getD_some]
      rw [if_pos (by omega), hnext]
  · exact eq_at_end_of_char htext _ fun i b => closingFrom_skip
  · rfl
  · exact eq_at_end_of_char htext _ fun i b => closingFrom_skip
  · exact eq_at_end_of_char htext _ fun i b => closingFrom_skip

/-- **A parenthesis is closed among the bytes where it is closed among the characters**, and the
number of those that are open never goes below zero. -/
theorem closingFrom_eq {text : List Char} (depth : Nat) (before : Char) (rest : List Char) :
    ∀ {pre : List Char}, text = pre ++ rest → pre.getLast? = some before →
      closingFrom (utf8 text) (depth + 1) (byteLength pre) =
        .ok ((closingParen? depth before rest).map fun n =>
          byteLength pre + byteLength (rest.take n) - 1) := by
  have hslash : ('\\').utf8Size = 1 := rfl
  fun_induction closingParen? depth before rest with
  | case1 =>
    intro pre htext hbefore
    rw [closingFrom, length_utf8, htext, List.append_nil, if_neg (Nat.lt_irrefl _)]
    rfl
  | case2 =>
    intro pre htext hbefore
    rw [closingFrom_char htext, if_pos rfl, closingFrom, length_utf8, htext, if_neg]
    · rfl
    · rw [byteLength_append, byteLength_cons, byteLength_nil]
      omega
  | case3 depth before e rest ih =>
    intro pre htext hbefore
    have hescaped : text = (pre ++ ['\\']) ++ e :: rest := by rw [htext, List.append_cons]
    have hnext : byteLength pre + 2 = byteLength (pre ++ ['\\']) + 1 := by
      rw [byteLength_append, byteLength_cons, byteLength_nil]
      omega
    rw [closingFrom_char htext, if_pos rfl, hnext,
      eq_at_end_of_char hescaped _ fun i b => closingFrom_skip,
      ih (by rw [hescaped, List.append_cons _ e]) (List.getLast?_concat ..)]
    cases closingParen? depth e rest <;> simp [byteLength_append, Nat.add_assoc]
  | case4 depth before c rest hne hquote n hstring ih =>
    intro pre htext hbefore
    rw [closingFrom_char htext, if_neg hne, if_pos hquote, hbefore, hstring]
    dsimp only
    rw [ih (by rw [htext, List.append_assoc, List.cons_append, List.take_append_drop])
      (getLast?_append_string hstring pre)]
    cases closingParen? depth c (rest.drop n) <;>
      simp [byteLength_take_cons, byteLength_append, Nat.add_assoc]
  | case5 depth before c rest hne hquote hstring ih =>
    intro pre htext hbefore
    rw [closingFrom_char htext, if_neg hne, if_pos hquote, hbefore, hstring]
    dsimp only
    rw [ih (by rw [htext, List.append_cons]) (List.getLast?_concat ..)]
    cases closingParen? depth c rest <;> simp [byteLength_append, Nat.add_assoc]
  | case6 depth before rest hne hquote ih =>
    intro pre htext hbefore
    rw [closingFrom_char htext, if_neg hne, if_neg hquote, if_pos rfl,
      ih (by rw [htext, List.append_cons]) (List.getLast?_concat ..)]
    cases closingParen? (depth + 1) '(' rest <;> simp [byteLength_append, Nat.add_assoc]
  | case7 before rest =>
    intro pre htext hbefore
    rw [closingFrom_char htext, if_neg (by decide), if_neg (by decide), if_neg (by decide),
      if_pos rfl]
    rfl
  | case8 before rest depth _ _ _ ih =>
    intro pre htext hbefore
    rw [closingFrom_char htext, if_neg (by decide), if_neg (by decide), if_neg (by decide),
      if_pos rfl, if_neg (Nat.succ_ne_zero depth), ih (by rw [htext, List.append_cons])
      (List.getLast?_concat ..)]
    cases closingParen? depth ')' rest <;> simp [byteLength_append, Nat.add_assoc]
  | case9 depth before c rest hne hquote hopen hclose ih =>
    intro pre htext hbefore
    rw [closingFrom_char htext, if_neg hne, if_neg hquote, if_neg hopen, if_neg hclose,
      ih (by rw [htext, List.append_cons]) (List.getLast?_concat ..)]
    cases closingParen? depth c rest <;> simp [byteLength_append, Nat.add_assoc]

/-- The parenthesis that closes one is found from the byte of that one on. -/
theorem closingAt_eq {text pre rest : List Char} (htext : text = pre ++ '(' :: rest) :
    closingAt (utf8 text) (byteLength pre) =
      .ok ((closingParen? 0 '(' rest).map fun n =>
        byteLength pre + byteLength (rest.take n)) := by
  have hparen : byteLength (pre ++ ['(']) = byteLength pre + 1 := byteLength_append ..
  rw [closingAt, closingFrom, length_utf8, if_pos (lt_byteLength htext), byteAt_char htext]
  simp only [checked_bind, isQuoteByte_leadByte,
    leadByte_eq_iff (show isAscii '\\' = true from rfl),
    leadByte_eq_iff (show isAscii '(' = true from rfl)]
  rw [if_neg (by decide), if_neg (by decide), if_pos trivial, Nat.zero_add, ← hparen,
    closingFrom_eq 0 '(' rest (by rw [htext, List.append_cons]) (List.getLast?_concat ..), hparen]
  cases closingParen? 0 '(' rest with
  | none => rfl
  | some n =>
    simp only [Option.map_some]
    congr 2
    omega

end PageGuard
