import PageGuard.Proofs.Selector.Gaps
import PageGuard.Proofs.Text.Splitting
import PageGuard.Text.RangeTable
import PageGuard.XPath.Reader

/-!
# How predicates are written

A predicate has one of eight forms.  `Predicate.Written` gives them without the reader, for any
rules about the numbers, the names and the literals in them, so that one grammar serves for what is
documented and for what is read.

* `documented`: the rules of the documentation, `isXmlName` the names of attributes.
* `taken`: the rules of the reader.  `readPredicate_eq_ok_iff` says that these are its rules.
* `Closed`: a text whose quotes are in pairs, with no closing bracket outside of them.
  `splitPredicate?_eq_some_iff` says that a predicate ends with the bracket after such a text.
* `Predicate.Written.closed`, `Predicate.Written.taken`: what the documentation allows is closed,
  and the reader takes it when a position in it is not too large.
-/

namespace PageGuard.XPath

open Text

/-! ## The forms of a predicate -/

/-- What may stand for a number, for the name of an attribute, and between two quotes. -/
structure Rules where
  number : List Char → Nat → Prop
  name : List Char → Prop
  quoted : Char → List Char → Prop

/-- The ways to write a subject. -/
inductive Subject.Written (R : Rules) : List Char → Subject → Prop where
  | attr {name : List Char} (allowed : R.name name) :
    Written R ('@' :: name) (.attr (.ofList (name.map asciiLower)))
  | ownText : Written R "text()".toList .ownText
  | fullText : Written R ['.'] .fullText

/-- A literal is written between two quotes of one kind. -/
inductive LiteralWritten (R : Rules) : List Char → String → Prop where
  | quoted {quote : Char} {value : List Char} (kind : quote = '\'' ∨ quote = '"')
    (allowed : R.quoted quote value) :
    LiteralWritten R (quote :: (value ++ [quote])) (.ofList value)

/-- The ways to write a predicate, with blanks around the subject and the literal.  The first
separator is the one that counts. -/
inductive Predicate.Written (R : Rules) : List Char → Predicate → Prop where
  | position {cs : List Char} {n : Nat} (number : R.number cs n) (positive : 1 ≤ n) :
    Written R cs (.position n)
  | present {name : List Char} (allowed : R.name name) (first : '=' ∉ name) :
    Written R ('@' :: name) (.present (.ofList (name.map asciiLower)))
  | equals {s l : List Char} {subject : Subject} {literal : String} (first : '=' ∉ s)
    (left : subject.Written R (trim s)) (right : LiteralWritten R (trim l) literal) :
    Written R (s ++ '=' :: l) (.equals subject literal)
  | contains {s l : List Char} {subject : Subject} {literal : String} (first : ',' ∉ s)
    (left : subject.Written R (trim s)) (right : LiteralWritten R (trim l) literal) :
    Written R ("contains(".toList ++ (s ++ ',' :: l) ++ [')']) (.contains subject literal)

/-! ## Two sets of rules -/

/-- Decimal digits, at least one of them, and the number that they write. -/
def IsDecimal (digits : List Char) (n : Nat) : Prop :=
  digits ≠ [] ∧ digits.all isAsciiDigit = true ∧ decimalValue digits = n

/-- The characters that may start a name in XML. -/
def xmlStartRanges : Array (Nat × Nat) :=
  #[(0x3A, 0x3A), (0x41, 0x5A), (0x5F, 0x5F), (0x61, 0x7A), (0xC0, 0xD6), (0xD8, 0xF6),
    (0xF8, 0x2FF), (0x370, 0x37D), (0x37F, 0x1FFF), (0x200C, 0x200D), (0x2070, 0x218F),
    (0x2C00, 0x2FEF), (0x3001, 0xD7FF), (0xF900, 0xFDCF), (0xFDF0, 0xFFFD), (0x10000, 0xEFFFF)]

/-- The other characters that a name in XML may go on with. -/
def xmlNameRanges : Array (Nat × Nat) :=
  #[(0x2D, 0x2E), (0x30, 0x39), (0xB7, 0xB7), (0x300, 0x36F), (0x203F, 0x2040)]

/-- A character that may start a name in XML. -/
def startsXmlName (c : Char) : Bool := inRanges xmlStartRanges c.toNat

/-- A character that may go on with a name in XML. -/
def continuesXmlName (c : Char) : Bool := startsXmlName c || inRanges xmlNameRanges c.toNat

/-- A name of an attribute in XML. -/
def isXmlName : List Char → Bool
  | [] => false
  | c :: cs => startsXmlName c && cs.all continuesXmlName

/-- A name of ASCII letters, digits, hyphens and underscores. -/
def isPlainName (cs : List Char) : Bool := !cs.isEmpty && cs.all isNameChar

/-- The documented rules, for a notion of names: a number has digits only, and a quote ends the
literal that it opened. -/
def documented (isName : List Char → Bool) : Rules where
  number := IsDecimal
  name cs := isName cs = true
  quoted quote value := quote ∉ value

/-- The rules of the reader: a number has 64 bits and may have a plus sign before it, a name is any
text but the empty one, and between the quotes at its two ends a literal is any text at all. -/
def taken : Rules where
  number cs n := ∃ digits, (cs = digits ∨ cs = '+' :: digits) ∧ IsDecimal digits n ∧
    n < positionBound
  name cs := cs ≠ []
  quoted _ _ := True

/-- The characters that end something in a predicate. -/
def isDelimiter (c : Char) : Bool :=
  c == '=' || c == ',' || c == ']' || c == '\'' || c == '"'

/-- Names that are never empty and have no delimiters in them. -/
def FreeOfDelimiters (isName : List Char → Bool) : Prop :=
  ∀ cs, isName cs = true → cs ≠ [] ∧ ∀ c ∈ cs, isDelimiter c = false

/-! ## Names and numbers -/

theorem isDelimiter_eq_false_iff {c : Char} :
    isDelimiter c = false ↔ c ≠ '=' ∧ c ≠ ',' ∧ c ≠ ']' ∧ c ≠ '\'' ∧ c ≠ '"' := by
  simp [isDelimiter, and_assoc]

theorem isDelimiter_of_continuesXmlName {c : Char} (h : continuesXmlName c = true) :
    isDelimiter c = false := by
  rw [isDelimiter_eq_false_iff]
  refine ⟨?_, ?_, ?_, ?_, ?_⟩ <;> rintro rfl <;> exact absurd h (by decide +kernel)

theorem isDelimiter_of_isNameChar {c : Char} (h : isNameChar c = true) :
    isDelimiter c = false := by
  rw [isDelimiter_eq_false_iff]
  refine ⟨?_, ?_, ?_, ?_, ?_⟩ <;> rintro rfl <;> exact absurd h (by decide)

theorem freeOfDelimiters_isXmlName : FreeOfDelimiters isXmlName := by
  intro cs hcs
  cases cs with
  | nil => cases hcs
  | cons c cs =>
    rw [isXmlName, Bool.and_eq_true] at hcs
    refine ⟨List.cons_ne_nil c cs, fun d hd => isDelimiter_of_continuesXmlName ?_⟩
    rcases List.mem_cons.1 hd with rfl | hd
    · rw [continuesXmlName, hcs.1, Bool.true_or]
    · exact List.all_eq_true.1 hcs.2 d hd

theorem freeOfDelimiters_isPlainName : FreeOfDelimiters isPlainName := by
  intro cs hcs
  rw [isPlainName, Bool.and_eq_true, List.all_eq_true] at hcs
  refine ⟨?_, fun c hc => isDelimiter_of_isNameChar (hcs.2 c hc)⟩
  rintro rfl
  exact Bool.noConfusion hcs.1

/-- **A number is read from its digits and at most one plus sign.** -/
theorem number?_eq_some_iff {cs : List Char} {n : Nat} :
    number? cs = some n ↔ taken.number cs n := by
  have hdigits (digits : List Char) :
      (if (digits.isEmpty || !digits.all isAsciiDigit) = true then none
        else if decimalValue digits < positionBound then some (decimalValue digits)
        else none) = some n ↔ IsDecimal digits n ∧ n < positionBound := by
    rw [IsDecimal]
    constructor
    · intro h
      split_ifs at h with hbad hbound
      obtain rfl := Option.some.inj h
      simp only [Bool.or_eq_true, List.isEmpty_iff, Bool.not_eq_true', not_or] at hbad
      exact ⟨⟨hbad.1, Bool.not_eq_false _ ▸ hbad.2, rfl⟩, hbound⟩
    · rintro ⟨⟨hne, hall, rfl⟩, hbound⟩
      rw [hall, Bool.not_true, Bool.or_false, if_neg (by rwa [List.isEmpty_iff]), if_pos hbound]
  by_cases hplus : ∃ rest, cs = '+' :: rest
  · obtain ⟨rest, rfl⟩ := hplus
    rw [number?]
    refine (hdigits rest).trans ⟨fun h => ⟨rest, Or.inr rfl, h⟩, ?_⟩
    rintro ⟨digits, rfl | hcs, h⟩
    · -- A plus sign is no digit.
      exact absurd h.1.2.1 (by simp [show isAsciiDigit '+' = false by decide])
    · rwa [(List.cons.inj hcs).2]
  · unfold number?
    split
    · rename_i rest
      exact absurd ⟨rest, rfl⟩ hplus
    · refine (hdigits cs).trans ⟨fun h => ⟨cs, Or.inl rfl, h⟩, ?_⟩
      rintro ⟨digits, rfl | hcs, h⟩
      · exact h
      · exact absurd ⟨digits, hcs⟩ hplus

/-- A text with a character that no number has in it is no number. -/
theorem number?_eq_none {cs : List Char} {c : Char} (hc : c ∈ cs) (hplus : c ≠ '+')
    (hdigit : isAsciiDigit c = false) : number? cs = none := by
  cases hn : number? cs with
  | none => rfl
  | some n =>
    obtain ⟨digits, hcs, ⟨-, hall, -⟩, -⟩ := number?_eq_some_iff.1 hn
    have hmem : c ∈ digits := by
      rcases hcs with rfl | rfl
      · exact hc
      · exact (List.mem_cons.1 hc).resolve_left hplus
    rw [List.all_eq_true.1 hall c hmem] at hdigit
    cases hdigit

/-! ## Subjects and literals -/

variable {R : Rules} {cs : List Char}

/-- A subject starts in one of three ways. -/
theorem Subject.Written.head? {s : Subject} (h : s.Written R cs) :
    cs.head? = some '@' ∨ cs.head? = some 't' ∨ cs.head? = some '.' := by
  cases h with
  | attr _ => exact Or.inl rfl
  | ownText => exact Or.inr (Or.inl rfl)
  | fullText => exact Or.inr (Or.inr rfl)

theorem readSubject_eq_ok_iff {s : Subject} : readSubject cs = .ok s ↔ s.Written taken cs := by
  unfold readSubject
  constructor
  · intro h
    split_ifs at h with hown hfull
    · rw [hown, ← Except.ok.inj h]
      exact .ownText
    · rw [hfull, ← Except.ok.inj h]
      exact .fullText
    · split at h
      · rw [← Except.ok.inj h]
        exact .attr (List.cons_ne_nil _ _)
      · cases h
  · rintro (@⟨name, allowed⟩ | - | -)
    · obtain ⟨c, rest, rfl⟩ := List.exists_cons_of_ne_nil allowed
      rw [if_neg (by simp), if_neg (by simp)]
      rfl
    · rw [if_pos rfl]
    · rw [if_neg (by decide), if_pos rfl]

/-- A text of two characters or more starts and ends with a quote. -/
theorem isQuotedBy_iff {quote : Char} (hlength : 2 ≤ cs.length) :
    isQuotedBy quote cs = true ↔ ∃ value, cs = quote :: (value ++ [quote]) := by
  rw [isQuotedBy, Bool.and_eq_true, decide_eq_true_eq, decide_eq_true_eq]
  constructor
  · rintro ⟨hhead, hlast⟩
    obtain ⟨rest, rfl⟩ := List.head?_eq_some_iff.1 hhead
    have hrest : rest ≠ [] := by
      rintro rfl
      rw [List.length_singleton] at hlength
      omega
    rw [List.getLast?_cons_of_ne_nil hrest] at hlast
    obtain ⟨value, rfl⟩ := List.getLast?_eq_some_iff.1 hlast
    exact ⟨value, rfl⟩
  · rintro ⟨value, rfl⟩
    refine ⟨rfl, ?_⟩
    rw [← List.cons_append, List.getLast?_concat]

theorem readLiteral_eq_ok_iff {literal : String} :
    readLiteral cs = .ok literal ↔ LiteralWritten taken cs literal := by
  have hvalue (quote : Char) (value : List Char) :
      ((quote :: (value ++ [quote])).drop 1).dropLast = value := by simp
  rw [readLiteral]
  constructor
  · intro h
    split_ifs at h with hquoted
    obtain ⟨hlength, hquotes⟩ := hquoted
    rw [isQuotedBy_iff hlength, isQuotedBy_iff hlength] at hquotes
    rw [← Except.ok.inj h]
    rcases hquotes with ⟨value, rfl⟩ | ⟨value, rfl⟩
    · rw [hvalue]
      exact .quoted (Or.inl rfl) trivial
    · rw [hvalue]
      exact .quoted (Or.inr rfl) trivial
  · rintro @⟨quote, value, kind, -⟩
    have hlength : 2 ≤ (quote :: (value ++ [quote])).length := by simp
    have hquotes := (isQuotedBy_iff hlength).2 ⟨value, rfl⟩
    rw [hvalue, if_pos]
    refine ⟨hlength, ?_⟩
    rcases kind with rfl | rfl
    · exact Or.inl hquotes
    · exact Or.inr hquotes

/-! ## Reading a predicate -/

theorem containsArguments?_eq_some_iff {arguments : List Char} :
    containsArguments? cs = some arguments ↔
      cs = "contains(".toList ++ arguments ++ [')'] := by
  rw [containsArguments?, Option.bind_eq_some_iff]
  simp only [afterStart?_eq_some_iff, beforeEnd?_eq_some_iff]
  constructor
  · rintro ⟨_, rfl, rfl⟩
    rw [List.append_assoc]
  · rintro rfl
    exact ⟨_, List.append_assoc .., rfl⟩

/-- What starts like a subject is no call of `contains`. -/
theorem containsArguments?_eq_none {s : Subject} (hs : s.Written R (trim cs)) (rest : List Char) :
    containsArguments? (cs ++ rest) = none := by
  cases harguments : containsArguments? (cs ++ rest) with
  | none => rfl
  | some arguments =>
    rw [containsArguments?_eq_some_iff] at harguments
    cases cs with
    | nil =>
      rcases hs.head? with h | h | h <;> cases h
    | cons c cs =>
      obtain rfl : c = 'c' := (List.cons.inj harguments).1
      have hhead : (trim ('c' :: cs)).head? = some 'c' := by
        rw [head?_trim, trimStart_cons (by decide)]
        rfl
      rcases hs.head? with h | h | h <;> exact absurd (hhead.symm.trans h) (by decide)

/-- The two sides of a predicate are read one after the other. -/
theorem readSides_eq_ok_iff {make : Subject → String → Predicate} {s l : List Char}
    {p : Predicate} :
    (do return make (← readSubject (trim s)) (← readLiteral (trim l))) = Except.ok p ↔
      ∃ subject literal, subject.Written taken (trim s) ∧
        LiteralWritten taken (trim l) literal ∧ p = make subject literal := by
  simp only [bind, bind_eq_ok_iff, readSubject_eq_ok_iff, readLiteral_eq_ok_iff]
  constructor
  · rintro ⟨subject, hsubject, literal, hliteral, ⟨rfl⟩⟩
    exact ⟨subject, literal, hsubject, hliteral, rfl⟩
  · rintro ⟨subject, literal, hsubject, hliteral, rfl⟩
    exact ⟨subject, hsubject, literal, hliteral, rfl⟩

/-- What is read is written by the rules of the reader. -/
theorem written_of_readPredicate {p : Predicate} (h : readPredicate cs = .ok p) :
    p.Written taken cs := by
  unfold readPredicate at h
  cases hnumber : number? cs with
  | some n =>
    rw [hnumber] at h
    cases n with
    | zero => cases h
    | succ n =>
      rw [← Except.ok.inj h]
      exact .position (number?_eq_some_iff.1 hnumber) (Nat.succ_le_succ (Nat.zero_le n))
  | none =>
    rw [hnumber] at h
    cases harguments : containsArguments? cs with
    | some arguments =>
      rw [harguments] at h
      cases hsplit : splitAtFirst? ',' arguments with
      | none =>
        simp only [hsplit] at h
        cases h
      | some sides =>
        simp only [hsplit] at h
        obtain ⟨subject, literal, hsubject, hliteral, rfl⟩ := readSides_eq_ok_iff.1 h
        obtain ⟨rfl, hfirst⟩ := splitAtFirst?_eq_some_iff.1 hsplit
        rw [containsArguments?_eq_some_iff.1 harguments]
        exact .contains hfirst hsubject hliteral
    | none =>
      rw [harguments] at h
      cases hsplit : splitAtFirst? '=' cs with
      | some sides =>
        simp only [hsplit] at h
        obtain ⟨subject, literal, hsubject, hliteral, rfl⟩ := readSides_eq_ok_iff.1 h
        obtain ⟨rfl, hfirst⟩ := splitAtFirst?_eq_some_iff.1 hsplit
        exact .equals hfirst hsubject hliteral
      | none =>
        simp only [hsplit, bind, bind_eq_ok_iff, readSubject_eq_ok_iff] at h
        obtain ⟨subject, hsubject, h⟩ := h
        have hfirst := splitAtFirst?_eq_none_iff.1 hsplit
        cases hsubject with
        | attr allowed =>
          rw [← Except.ok.inj h]
          exact .present allowed fun hmem => hfirst (List.mem_cons_of_mem _ hmem)
        | ownText => cases h
        | fullText => cases h

/-- What is written by the rules of the reader is read: no form is taken for an earlier one. -/
theorem Predicate.Written.readPredicate {p : Predicate} (h : p.Written taken cs) :
    readPredicate cs = .ok p := by
  unfold XPath.readPredicate
  cases h with
  | position number positive =>
    rw [number?_eq_some_iff.2 number]
    obtain ⟨n, rfl⟩ := Nat.exists_eq_add_of_le' positive
    rfl
  | @present name allowed first =>
    have hfirst : '=' ∉ '@' :: name := by
      rw [List.mem_cons, not_or]
      exact ⟨by decide, first⟩
    have hsubject : (Subject.attr (.ofList (name.map asciiLower))).Written taken ('@' :: name) :=
      .attr allowed
    have hcall : containsArguments? ('@' :: name) = none := by
      cases harguments : containsArguments? ('@' :: name) with
      | none => rfl
      | some arguments =>
        exact absurd (List.cons.inj (containsArguments?_eq_some_iff.1 harguments)).1 (by decide)
    rw [number?_eq_none (List.mem_cons_self ..) (by decide) (by decide), hcall,
      splitAtFirst?_eq_none_iff.2 hfirst]
    exact bind_eq_ok_iff.2 ⟨_, readSubject_eq_ok_iff.2 hsubject, rfl⟩
  | @equals s l subject literal first left right =>
    have hmem : '=' ∈ s ++ '=' :: l := List.mem_append_right _ (List.mem_cons_self ..)
    rw [number?_eq_none hmem (by decide) (by decide), containsArguments?_eq_none left,
      splitAtFirst?_eq_some_iff.2 ⟨rfl, first⟩]
    exact readSides_eq_ok_iff.2 ⟨subject, literal, left, right, rfl⟩
  | @contains s l subject literal first left right =>
    have hmem : 'c' ∈ "contains(".toList ++ (s ++ ',' :: l) ++ [')'] := List.mem_cons_self ..
    rw [number?_eq_none hmem (by decide) (by decide), containsArguments?_eq_some_iff.2 rfl]
    simp only [splitAtFirst?_eq_some_iff.2 ⟨rfl, first⟩]
    exact readSides_eq_ok_iff.2 ⟨subject, literal, left, right, rfl⟩

/-- **A predicate is read when it is written by the rules of the reader.** -/
theorem readPredicate_eq_ok_iff {p : Predicate} :
    readPredicate cs = .ok p ↔ p.Written taken cs :=
  ⟨written_of_readPredicate, Predicate.Written.readPredicate⟩

/-! ## The end of a predicate -/

/-- A character that neither opens a literal nor ends a predicate. -/
def isInert (c : Char) : Bool := c != ']' && c != '\'' && c != '"'

/-- A text whose quotes are in pairs, with no closing bracket outside of them. -/
inductive Closed : List Char → Prop where
  | nil : Closed []
  | inert {c : Char} {cs : List Char} (inert : isInert c = true) (rest : Closed cs) :
    Closed (c :: cs)
  | quoted {quote : Char} {value cs : List Char} (kind : quote = '\'' ∨ quote = '"')
    (inside : quote ∉ value) (rest : Closed cs) : Closed (quote :: (value ++ quote :: cs))

theorem isInert_iff {c : Char} : isInert c = true ↔ c ≠ ']' ∧ c ≠ '\'' ∧ c ≠ '"' := by
  simp [isInert, and_assoc]

/-- In a literal everything up to its quote is passed over. -/
theorem splitPredicate?_quoted {quote : Char} {value : List Char} (h : quote ∉ value)
    (cs : List Char) : splitPredicate? (some quote) (value ++ quote :: cs) =
      (splitPredicate? none cs).map fun (body, rest) => (value ++ quote :: body, rest) := by
  induction value with
  | nil =>
    rw [List.nil_append, splitPredicate?]
    simp only [if_pos]
    rfl
  | cons c value ih =>
    rw [List.mem_cons, not_or] at h
    rw [List.cons_append, splitPredicate?]
    simp only [if_neg (Ne.symm h.1)]
    rw [ih h.2, Option.map_map]
    rfl

/-- A predicate ends with the bracket after a closed text. -/
theorem Closed.splitPredicate? {body : List Char} (h : Closed body) (rest : List Char) :
    splitPredicate? none (body ++ ']' :: rest) = some (body, rest) := by
  induction h with
  | nil => rfl
  | @inert c cs inert _ ih =>
    obtain ⟨hbracket, hsingle, hdouble⟩ := isInert_iff.1 inert
    rw [List.cons_append, XPath.splitPredicate?]
    simp only [if_neg hbracket, if_neg (not_or.2 ⟨hsingle, hdouble⟩)]
    rw [ih]
    rfl
  | @quoted quote value cs kind inside _ ih =>
    have hbracket : quote ≠ ']' := by
      rcases kind with rfl | rfl <;> decide
    rw [List.cons_append, List.append_assoc, List.cons_append, XPath.splitPredicate?]
    simp only [if_neg hbracket, if_pos kind]
    rw [splitPredicate?_quoted inside, ih]
    rfl

/-- What comes before the end of a predicate, in a literal or outside of one. -/
theorem closed_of_splitPredicate? {rest : List Char} :
    ∀ {cs : List Char} {quote : Option Char} {body : List Char},
      splitPredicate? quote cs = some (body, rest) →
        cs = body ++ ']' :: rest ∧
          match quote with
          | none => Closed body
          | some q => ∃ value more, body = value ++ q :: more ∧ q ∉ value ∧ Closed more := by
  -- The open quote is part of the invariant: in a literal only its own quote counts.
  intro cs
  induction cs with
  | nil =>
    intro quote body h
    cases h
  | cons c cs ih =>
    intro quote body h
    cases quote with
    | some q =>
      rw [splitPredicate?] at h
      obtain ⟨⟨tail, _⟩, htail, heq⟩ := Option.map_eq_some_iff.1 h
      obtain ⟨rfl, rfl⟩ := Prod.mk.inj heq
      by_cases hc : c = q
      · rw [if_pos hc] at htail
        obtain ⟨rfl, hclosed⟩ := ih htail
        exact ⟨rfl, [], tail, by rw [hc]; rfl, List.not_mem_nil, hclosed⟩
      · rw [if_neg hc] at htail
        obtain ⟨rfl, value, more, rfl, hvalue, hclosed⟩ := ih htail
        refine ⟨rfl, c :: value, more, rfl, ?_, hclosed⟩
        rw [List.mem_cons, not_or]
        exact ⟨Ne.symm hc, hvalue⟩
    | none =>
      rw [splitPredicate?] at h
      by_cases hbracket : c = ']'
      · rw [if_pos hbracket] at h
        obtain ⟨rfl, rfl⟩ := Prod.mk.inj (Option.some.inj h)
        exact ⟨by rw [hbracket]; rfl, .nil⟩
      · rw [if_neg hbracket] at h
        obtain ⟨⟨tail, _⟩, htail, heq⟩ := Option.map_eq_some_iff.1 h
        obtain ⟨rfl, rfl⟩ := Prod.mk.inj heq
        by_cases hquote : c = '\'' ∨ c = '"'
        · rw [if_pos hquote] at htail
          obtain ⟨rfl, value, more, rfl, hvalue, hclosed⟩ := ih htail
          exact ⟨rfl, .quoted hquote hvalue hclosed⟩
        · rw [if_neg hquote] at htail
          obtain ⟨rfl, hclosed⟩ := ih htail
          obtain ⟨hsingle, hdouble⟩ := not_or.1 hquote
          exact ⟨rfl, .inert (isInert_iff.2 ⟨hbracket, hsingle, hdouble⟩) hclosed⟩

/-- **A predicate ends with the first bracket after a closed text.** -/
theorem splitPredicate?_eq_some_iff {body rest : List Char} :
    splitPredicate? none cs = some (body, rest) ↔ cs = body ++ ']' :: rest ∧ Closed body := by
  constructor
  · exact closed_of_splitPredicate?
  · rintro ⟨rfl, hclosed⟩
    exact hclosed.splitPredicate? rest

/-! ## What the documentation allows -/

theorem closed_of_inert (h : cs.all isInert = true) : Closed cs := by
  induction cs with
  | nil => exact .nil
  | cons c cs ih =>
    rw [List.all_cons, Bool.and_eq_true] at h
    exact .inert h.1 (ih h.2)

theorem Closed.append {a b : List Char} (ha : Closed a) (hb : Closed b) : Closed (a ++ b) := by
  induction ha with
  | nil => exact hb
  | inert inert _ ih => exact .inert inert ih
  | @quoted quote value cs kind inside _ ih =>
    rw [List.cons_append, List.append_assoc]
    exact .quoted kind inside ih

/-- No blank opens a literal or ends a predicate. -/
theorem isInert_of_isBlank {c : Char} (h : isBlank c = true) : isInert c = true := by
  rw [isInert_iff]
  refine ⟨?_, ?_, ?_⟩ <;> rintro rfl <;> exact absurd h (by decide)

/-- Blanks around a text do not matter for its quotes and brackets. -/
theorem closed_of_trim (h : Closed (trim cs)) : Closed cs := by
  obtain ⟨w, w', hcs, hw, hw'⟩ := exists_blank_trim_blank cs
  rw [hcs]
  have hblank {text : List Char} (htext : ∀ c ∈ text, isBlank c = true) : Closed text :=
    closed_of_inert (List.all_eq_true.2 fun c hc => isInert_of_isBlank (htext c hc))
  exact (hblank hw).append (h.append (hblank hw'))

variable {isName : List Char → Bool}

theorem isInert_of_not_isDelimiter {c : Char} (h : isDelimiter c = false) : isInert c = true := by
  obtain ⟨-, -, hrest⟩ := isDelimiter_eq_false_iff.1 h
  exact isInert_iff.2 hrest

theorem Subject.Written.closed (hnames : FreeOfDelimiters isName) {s : Subject}
    (h : s.Written (documented isName) cs) : Closed cs := by
  cases h with
  | attr allowed =>
    refine .inert (by decide) (closed_of_inert (List.all_eq_true.2 fun c hc => ?_))
    exact isInert_of_not_isDelimiter ((hnames _ allowed).2 c hc)
  | ownText => exact closed_of_inert (by decide)
  | fullText => exact closed_of_inert (by decide)

theorem LiteralWritten.closed {literal : String}
    (h : LiteralWritten (documented isName) cs literal) : Closed cs := by
  cases h with
  | quoted kind allowed => exact .quoted kind allowed .nil

/-- The quotes of a documented predicate are in pairs, and no bracket in it ends it. -/
theorem Predicate.Written.closed (hnames : FreeOfDelimiters isName) {p : Predicate}
    (h : p.Written (documented isName) cs) : Closed cs := by
  cases h with
  | position number _ =>
    refine closed_of_inert (List.all_eq_true.2 fun c hc => isInert_iff.2 ?_)
    have hdigit := List.all_eq_true.1 number.2.1 c hc
    refine ⟨?_, ?_, ?_⟩ <;> rintro rfl <;> exact absurd hdigit (by decide)
  | present allowed _ => exact (Subject.Written.attr allowed).closed hnames
  | equals _ left right =>
    have hright : Closed _ := closed_of_trim right.closed
    exact (closed_of_trim (left.closed hnames)).append (.inert (by decide) hright)
  | contains _ left right =>
    have hright : Closed _ := closed_of_trim right.closed
    have hcomma : isInert ',' = true := by decide
    have hsides := (closed_of_trim (left.closed hnames)).append (.inert hcomma hright)
    have hcall : Closed "contains(".toList := closed_of_inert (by decide)
    exact (hcall.append hsides).append (closed_of_inert (by decide))

/-- Without an equals sign, a predicate that starts with `@` is documented only with a name after
it. -/
theorem exists_written_at_iff {name : List Char} (hequals : '=' ∉ name) :
    (∃ p : Predicate, p.Written (documented isName) ('@' :: name)) ↔ isName name = true := by
  constructor
  · rintro ⟨p, hp⟩
    generalize hcs : '@' :: name = cs at hp
    cases hp with
    | position number _ =>
      rw [← hcs] at number
      exact absurd (List.all_eq_true.1 number.2.1 '@' (List.mem_cons_self ..)) (by decide)
    | present allowed _ =>
      rw [(List.cons.inj hcs).2]
      exact allowed
    | @equals s l _ _ _ _ _ =>
      have hmem : '=' ∈ s ++ '=' :: l := List.mem_append_right _ (List.mem_cons_self ..)
      rw [← hcs, List.mem_cons] at hmem
      exact absurd (hmem.resolve_left (by decide)) hequals
    | contains _ _ _ => exact absurd (List.cons.inj hcs).1 (by decide)
  · exact fun h => ⟨_, .present h hequals⟩

/-- A position that a number of 64 bits can hold. -/
def Predicate.InRange (p : Predicate) : Prop := ∀ n, p = .position n → n < positionBound

/-- **The reader takes what the documentation allows** if a position in it is not too large. -/
theorem Predicate.Written.taken (hnames : FreeOfDelimiters isName) {p : Predicate}
    (h : p.Written (documented isName) cs) (hrange : p.InRange) : p.Written taken cs := by
  have hsubject {text : List Char} {s : Subject} (h : s.Written (documented isName) text) :
      s.Written XPath.taken text := by
    cases h with
    | attr allowed => exact .attr (hnames _ allowed).1
    | ownText => exact .ownText
    | fullText => exact .fullText
  have hliteral {text : List Char} {l : String} (h : LiteralWritten (documented isName) text l) :
      LiteralWritten XPath.taken text l := by
    cases h with
    | quoted kind _ => exact .quoted kind trivial
  cases h with
  | position number positive =>
    exact .position ⟨cs, Or.inl rfl, number, hrange _ rfl⟩ positive
  | present allowed first => exact .present (hnames _ allowed).1 first
  | equals first left right => exact .equals first (hsubject left) (hliteral right)
  | contains first left right => exact .contains first (hsubject left) (hliteral right)

end PageGuard.XPath
