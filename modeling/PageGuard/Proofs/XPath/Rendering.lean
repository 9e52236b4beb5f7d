import PageGuard.Proofs.Json.Numerals
import PageGuard.Proofs.XPath.Reading
import PageGuard.XPath.Writer

/-!
# Writing location paths and reading them back

A path with lower-case names, positions of 64 bits, and literals that fit between quotes of one
kind has a documented text, and the reader gives the path back.  The literals may have brackets,
slashes, commas, equals signs and parentheses in them.

* `HasSolidEnds`: texts that have nothing to trim.
* `Path.written_render`: what is written has the documented form.
* `ofText_render`: every documented text of a path is read as the path.
-/

namespace PageGuard.XPath

open Text

variable {cs : List Char}

/-! ## What can be written -/

/-- A lower-case letter, a digit, a hyphen or an underscore. -/
def isLowerNameChar (c : Char) : Bool :=
  ('a' ≤ c && c ≤ 'z') || isAsciiDigit c || c == '-' || c == '_'

/-- A name that reading does not change. -/
def IsLowerName (name : String) : Prop :=
  name.toList ≠ [] ∧ ∀ c ∈ name.toList, isLowerNameChar c = true

/-- A literal that fits between quotes of one kind. -/
def IsQuotable (literal : String) : Prop := '\'' ∉ literal.toList ∨ '"' ∉ literal.toList

/-- A subject whose attribute, if it has one, has a name that reading does not change. -/
def Subject.IsPlain : Subject → Prop
  | .attr name => IsLowerName name
  | .ownText => True
  | .fullText => True

/-- A predicate that can be written. -/
def Predicate.IsPlain : Predicate → Prop
  | .position n => 1 ≤ n ∧ n < positionBound
  | .present name => IsLowerName name
  | .equals subject literal => subject.IsPlain ∧ IsQuotable literal
  | .contains subject literal => subject.IsPlain ∧ IsQuotable literal

/-- A step that can be written. -/
structure Step.IsPlain (s : Step) : Prop where
  name : ∀ name, s.name = some name → IsLowerName name
  predicates : ∀ p ∈ s.predicates, p.IsPlain

/-! ## Nothing to trim -/

/-- A text that neither starts nor ends with a blank. -/
structure HasSolidEnds (cs : List Char) : Prop where
  start : ∃ c rest, cs = c :: rest ∧ isBlank c = false
  stop : ∃ rest c, cs = rest ++ [c] ∧ isBlank c = false

theorem HasSolidEnds.trim_eq (h : HasSolidEnds cs) : trim cs = cs := by
  obtain ⟨⟨c, after, hstart, hc⟩, before, d, hstop, hd⟩ := h
  have htrimStart : trimStart cs = cs := by rw [hstart, trimStart_cons hc]
  have htrimEnd : trimEnd cs = cs := by
    rw [hstop, trimEnd_append hd]
    rfl
  rw [trim, htrimStart, htrimEnd]

theorem hasSolidEnds_of_all (hne : cs ≠ []) (h : cs.all (fun c => !isBlank c) = true) :
    HasSolidEnds cs := by
  simp only [List.all_eq_true, Bool.not_eq_true'] at h
  constructor
  · obtain ⟨c, after, rfl⟩ := List.exists_cons_of_ne_nil hne
    exact ⟨c, after, rfl, h c (List.mem_cons_self ..)⟩
  · refine ⟨cs.dropLast, cs.getLast hne, (List.dropLast_append_getLast hne).symm, ?_⟩
    exact h _ (List.getLast_mem hne)

/-- Only the first and the last part of a text matter. -/
theorem HasSolidEnds.append {a b : List Char} (ha : HasSolidEnds a) (hb : HasSolidEnds b)
    (middle : List Char) : HasSolidEnds (a ++ (middle ++ b)) := by
  obtain ⟨⟨c, after, rfl, hc⟩, -⟩ := ha
  obtain ⟨-, before, d, rfl, hd⟩ := hb
  refine ⟨⟨c, _, rfl, hc⟩, ⟨c :: (after ++ (middle ++ before)), d, ?_, hd⟩⟩
  simp

theorem hasSolidEnds_singleton {c : Char} (h : isBlank c = false) : HasSolidEnds [c] :=
  ⟨⟨c, [], rfl, h⟩, [], c, rfl, h⟩

theorem hasSolidEnds_flatMap {α : Type} {f : α → List Char} {l : List α} (hne : l ≠ [])
    (h : ∀ a ∈ l, HasSolidEnds (f a)) : HasSolidEnds (l.flatMap f) := by
  induction l with
  | nil => exact absurd rfl hne
  | cons a l ih =>
    rw [List.forall_mem_cons] at h
    rw [List.flatMap_cons]
    cases l with
    | nil =>
      rw [List.flatMap_nil, List.append_nil]
      exact h.1
    | cons b l => exact h.1.append (ih (List.cons_ne_nil b l) h.2) []

/-! ## Names and numbers -/

theorem isNameChar_of_isLowerNameChar {c : Char} (h : isLowerNameChar c = true) :
    isNameChar c = true := by
  simp only [isLowerNameChar, isNameChar, isAsciiAlnum, isAsciiLetter, Bool.or_eq_true] at h ⊢
  tauto

theorem asciiLower_of_isLowerNameChar {c : Char} (h : isLowerNameChar c = true) :
    asciiLower c = c := by
  rw [asciiLower, if_neg]
  rintro ⟨hA, hZ⟩
  simp only [isLowerNameChar, isAsciiDigit, Bool.or_eq_true, Bool.and_eq_true, decide_eq_true_eq,
    beq_iff_eq] at h
  rcases h with ((⟨ha, -⟩ | ⟨-, h9⟩) | rfl) | rfl
  · exact absurd (Char.le_trans ha hZ) (by decide)
  · exact absurd (Char.le_trans hA h9) (by decide)
  · exact absurd hA (by decide)
  · exact absurd hZ (by decide)

/-- The characters of names stand between the blanks of ASCII and those beyond. -/
theorem isBlank_of_isNameChar {c : Char} (h : isNameChar c = true) : isBlank c = false := by
  have hbetween {a b : Char} (hlo : a ≤ c) (hhi : c ≤ b) (ha : 45 ≤ a.toNat)
      (hb : b.toNat ≤ 122) : 45 ≤ c.toNat ∧ c.toNat ≤ 122 :=
    ⟨Nat.le_trans ha hlo, Nat.le_trans hhi hb⟩
  have hrange : 45 ≤ c.toNat ∧ c.toNat ≤ 122 := by
    simp only [isNameChar, isAsciiAlnum, isAsciiLetter, isAsciiDigit, Bool.or_eq_true,
      Bool.and_eq_true, decide_eq_true_eq, beq_iff_eq] at h
    rcases h with (((⟨hlo, hhi⟩ | ⟨hlo, hhi⟩) | ⟨hlo, hhi⟩) | rfl) | rfl
    · exact hbetween hlo hhi (by decide) (by decide)
    · exact hbetween hlo hhi (by decide) (by decide)
    · exact hbetween hlo hhi (by decide) (by decide)
    · decide
    · decide
  simp only [isBlank, Bool.or_eq_false_iff, Bool.and_eq_false_iff, decide_eq_false_iff_not,
    beq_eq_false_iff_ne]
  omega

/-- A name of lower-case characters is a plain one. -/
theorem IsLowerName.isPlainName {name : String} (h : IsLowerName name) :
    isPlainName name.toList = true := by
  rw [XPath.isPlainName, Bool.and_eq_true, List.all_eq_true, Bool.not_eq_true',
    List.isEmpty_eq_false_iff]
  exact ⟨h.1, fun c hc => isNameChar_of_isLowerNameChar (h.2 c hc)⟩

/-- A name of lower-case characters is its own lower case. -/
theorem IsLowerName.ofList_map {name : String} (h : IsLowerName name) :
    String.ofList (name.toList.map asciiLower) = name := by
  have hlower : ∀ c ∈ name.toList, asciiLower c = c :=
    fun c hc => asciiLower_of_isLowerNameChar (h.2 c hc)
  rw [List.map_congr_left hlower, List.map_id', String.ofList_toList]

theorem hasSolidEnds_of_name (hne : cs ≠ []) (h : ∀ c ∈ cs, isNameChar c = true) :
    HasSolidEnds cs := by
  refine hasSolidEnds_of_all hne (List.all_eq_true.2 fun c hc => ?_)
  rw [isBlank_of_isNameChar (h c hc), Bool.not_false]

theorem IsLowerName.hasSolidEnds {name : String} (h : IsLowerName name) :
    HasSolidEnds name.toList :=
  hasSolidEnds_of_name h.1 fun c hc => isNameChar_of_isLowerNameChar (h.2 c hc)

theorem isDecimal_toDigits (n : Nat) : IsDecimal (Nat.toDigits 10 n) n := by
  refine ⟨Nat.toDigits_ne_nil, List.all_eq_true.2 fun c hc => ?_, ?_⟩
  · exact Json.isAsciiDigit_of_mem_toDigits hc
  · exact Nat.ofDigitChars_toDigits (by decide) (by decide)

/-! ## Written predicates -/

theorem Subject.written_render {s : Subject} (h : s.IsPlain) :
    s.Written (documented isPlainName) s.render := by
  cases s with
  | attr name =>
    have hwritten : (Subject.attr (.ofList (name.toList.map asciiLower))).Written
        (documented isPlainName) ('@' :: name.toList) := .attr h.isPlainName
    rwa [IsLowerName.ofList_map h] at hwritten
  | ownText => exact .ownText
  | fullText => exact .fullText

theorem Subject.hasSolidEnds_render {s : Subject} (h : s.IsPlain) : HasSolidEnds s.render := by
  cases s with
  | attr name => exact (hasSolidEnds_singleton (c := '@') (by decide)).append h.hasSolidEnds []
  | ownText => exact hasSolidEnds_of_all (by decide) (by decide)
  | fullText => exact hasSolidEnds_singleton (by decide)

/-- No separator of a predicate is in a subject. -/
theorem Subject.notMem_render {s : Subject} (h : s.IsPlain) {c : Char}
    (hc : isDelimiter c = true) : c ∉ s.render := by
  have hall : s.render.all (fun c => !isDelimiter c) = true := by
    cases s with
    | attr name =>
      show (!isDelimiter '@' && name.toList.all fun c => !isDelimiter c) = true
      rw [Bool.and_eq_true, List.all_eq_true]
      refine ⟨by decide, fun c hc => ?_⟩
      rw [isDelimiter_of_isNameChar (isNameChar_of_isLowerNameChar (h.2 c hc)), Bool.not_false]
    | ownText => decide
    | fullText => decide
  intro hmem
  have hnot := List.all_eq_true.1 hall c hmem
  rw [hc] at hnot
  cases hnot

/-- A literal stands between quotes that are not in it. -/
theorem literalWritten_render {literal : String} (h : IsQuotable literal) :
    LiteralWritten (documented isPlainName) (renderLiteral literal) literal := by
  have hwritten (quote : Char) (kind : quote = '\'' ∨ quote = '"')
      (hquote : quote ∉ literal.toList) : LiteralWritten (documented isPlainName)
        (quote :: (literal.toList ++ [quote])) literal := by
    have hquoted : LiteralWritten (documented isPlainName)
        (quote :: (literal.toList ++ [quote])) (.ofList literal.toList) := .quoted kind hquote
    rwa [String.ofList_toList] at hquoted
  rw [renderLiteral]
  by_cases hsingle : '\'' ∈ literal.toList
  · rw [if_pos hsingle]
    exact hwritten '"' (Or.inr rfl) (h.resolve_left (not_not_intro hsingle))
  · rw [if_neg hsingle]
    exact hwritten '\'' (Or.inl rfl) hsingle

theorem LiteralWritten.hasSolidEnds {R : Rules} {literal : String}
    (h : LiteralWritten R cs literal) : HasSolidEnds cs := by
  cases h with
  | @quoted quote value kind _ =>
    have hquote : isBlank quote = false := by
      rcases kind with rfl | rfl <;> decide
    exact (hasSolidEnds_singleton hquote).append (hasSolidEnds_singleton hquote) value

/-- **What is written as a predicate has its documented form**, and nothing of it is trimmed. -/
theorem Predicate.written_render {p : Predicate} (h : p.IsPlain) :
    p.Written (documented isPlainName) p.render ∧ HasSolidEnds p.render := by
  have hfirst {s : Subject} (hs : s.IsPlain) : '=' ∉ s.render ∧ ',' ∉ s.render :=
    ⟨Subject.notMem_render hs (by decide), Subject.notMem_render hs (by decide)⟩
  cases p with
  | position n =>
    have hdecimal := isDecimal_toDigits n
    refine ⟨.position hdecimal h.1, hasSolidEnds_of_name hdecimal.1 fun c hc => ?_⟩
    have hdigit := List.all_eq_true.1 hdecimal.2.1 c hc
    simp [isNameChar, isAsciiAlnum, hdigit]
  | present name =>
    have hsubject : (Subject.attr name).IsPlain := h
    refine ⟨?_, Subject.hasSolidEnds_render hsubject⟩
    have hwritten : (Predicate.present (.ofList (name.toList.map asciiLower))).Written
        (documented isPlainName) ('@' :: name.toList) :=
      .present (IsLowerName.isPlainName h)
        fun hmem => (hfirst hsubject).1 (List.mem_cons_of_mem _ hmem)
    rwa [IsLowerName.ofList_map h] at hwritten
  | equals s literal =>
    have hs := Subject.hasSolidEnds_render h.1
    have hl := literalWritten_render h.2
    refine ⟨.equals (hfirst h.1).1 ?_ ?_, hs.append hl.hasSolidEnds ['=']⟩
    · rw [hs.trim_eq]
      exact Subject.written_render h.1
    · rwa [hl.hasSolidEnds.trim_eq]
  | contains s literal =>
    have hs := Subject.hasSolidEnds_render h.1
    have hl := literalWritten_render h.2
    have hcall : HasSolidEnds "contains(".toList :=
      hasSolidEnds_of_all (by decide) (by decide)
    have hclose : HasSolidEnds [')'] := hasSolidEnds_singleton (by decide)
    have hrender : (Predicate.contains s literal).render =
        "contains(".toList ++ (s.render ++ ',' :: renderLiteral literal) ++ [')'] :=
      congrArg (· ++ [')']) (List.append_assoc ..)
    rw [hrender]
    refine ⟨.contains (hfirst h.1).2 ?_ ?_, ?_⟩
    · rw [hs.trim_eq]
      exact Subject.written_render h.1
    · rwa [hl.hasSolidEnds.trim_eq]
    · rw [List.append_assoc]
      exact hcall.append hclose _

/-! ## Written paths -/

/-- The parts of the written form of a step. -/
def Step.parts (s : Step) : StepText where
  axis := s.axis
  test := match s.name with
    | some name => name.toList
    | none => ['*']
  bodies := s.predicates.map Predicate.render

theorem Step.text_parts (s : Step) : s.parts.text = s.render := by
  rw [StepText.text, Step.render, bracketed, Step.parts, List.flatMap_map, List.append_assoc]
  cases s.axis <;> rfl

theorem Step.writes_parts {s : Step} (h : s.IsPlain) :
    s.parts.Writes (Documented isPlainName) s := by
  refine ⟨rfl, ?_, ?_⟩
  · rw [Step.parts]
    cases hname : s.name with
    | none => exact .any (hasSolidEnds_singleton (by decide)).trim_eq
    | some name =>
      have hlower := h.name name hname
      have htrim := hlower.hasSolidEnds.trim_eq
      have hwritten : TestWritten name.toList
          (some (.ofList ((trim name.toList).map asciiLower))) :=
        .name (by rw [htrim]; exact hlower.isPlainName)
      rwa [htrim, hlower.ofList_map] at hwritten
  · rw [Step.parts, List.forall₂_map_left_iff, List.forall₂_same]
    intro p hp
    obtain ⟨hwritten, hends⟩ := Predicate.written_render (h.predicates p hp)
    rw [Documented, hends.trim_eq]
    exact hwritten

theorem Step.hasSolidEnds_render {s : Step} (h : s.IsPlain) : HasSolidEnds s.render := by
  have hslashes : HasSolidEnds s.axis.slashes := by
    cases s.axis
    · exact hasSolidEnds_singleton (by decide)
    · exact hasSolidEnds_of_all (by decide) (by decide)
  have htest : HasSolidEnds s.parts.test := by
    rw [Step.parts]
    cases hname : s.name with
    | none => exact hasSolidEnds_singleton (by decide)
    | some name => exact (h.name name hname).hasSolidEnds
  have hbody (body : List Char) : HasSolidEnds ('[' :: (body ++ [']'])) :=
    (hasSolidEnds_singleton (by decide)).append (hasSolidEnds_singleton (by decide)) body
  rw [← Step.text_parts, StepText.text, bracketed]
  by_cases hbodies : s.parts.bodies = []
  · rw [hbodies, List.flatMap_nil, List.append_nil]
    exact hslashes.append htest []
  · exact hslashes.append (hasSolidEnds_flatMap hbodies fun body _ => hbody body) s.parts.test

/-- **The written form of a path is a documented text of it.** -/
theorem Path.written_render {path : Path} (h : ∀ s ∈ path, s.IsPlain) :
    path.Written (Documented isPlainName) path.render := by
  refine ⟨path.map Step.parts, ?_, ?_⟩
  · rw [Path.render, List.flatMap_map]
    exact List.flatMap_congr fun s _ => s.text_parts.symm
  · rw [List.forall₂_map_left_iff, List.forall₂_same]
    exact fun s hs => Step.writes_parts (h s hs)

/-- **A path is read back from its documented texts.**  One of them is its written form, and each
text that writes it with the quotes, the blanks and the letter case of its choice is another one. -/
theorem ofText_render {path : Path} (hne : path ≠ []) (h : ∀ s ∈ path, s.IsPlain) :
    Path.ofText (.ofList path.render) = .ok path ∧
      ∀ text : String, path.Written (Documented isPlainName) (trim text.toList) →
        Path.ofText text = .ok path := by
  have hrange : path.InRange := by
    intro s hs p hp n hn
    have hplain := (h s hs).predicates p hp
    rw [hn] at hplain
    exact hplain.2
  have hread (text : String) (hwritten : path.Written (Documented isPlainName) (trim text.toList)) :
      Path.ofText text = .ok path :=
    ofText_of_documented freeOfDelimiters_isPlainName hne hrange hwritten
  refine ⟨hread _ ?_, hread⟩
  have hends : HasSolidEnds path.render :=
    hasSolidEnds_flatMap hne fun s hs => Step.hasSolidEnds_render (h s hs)
  rw [String.toList_ofList, hends.trim_eq]
  exact Path.written_render h

/-- The literals of this path have in them what ends other things: a bracket, a slash and a comma,
and an equals sign, a parenthesis and a quote. -/
theorem delimiters_in_literals_read_back :
    let path : Path :=
      [⟨.descendant, some "li", [.position 2, .contains (.attr "data-x") "],/"]⟩,
        ⟨.child, none, [.equals .fullText "it's)=", .present "id"]⟩]
    path ≠ [] ∧ (∀ s ∈ path, s.IsPlain) ∧
      String.ofList path.render =
        "//li[2][contains(@data-x,'],/')]/*[.=\"it's)=\"][@id]" ∧
      Path.ofText "//li[2][contains(@data-x,'],/')]/*[.=\"it's)=\"][@id]" = .ok path := by
  intro path
  have hne : path ≠ [] := List.cons_ne_nil _ _
  have hname : IsLowerName "li" ∧ IsLowerName "data-x" ∧ IsLowerName "id" :=
    ⟨⟨by decide, List.all_eq_true.1 (by decide)⟩, ⟨by decide, List.all_eq_true.1 (by decide)⟩,
      ⟨by decide, List.all_eq_true.1 (by decide)⟩⟩
  have hplain : ∀ s ∈ path, s.IsPlain := by
    rw [List.forall_mem_cons, List.forall_mem_singleton]
    constructor
    · refine ⟨fun name h => Option.some.inj h ▸ hname.1, ?_⟩
      rw [List.forall_mem_cons, List.forall_mem_singleton]
      exact ⟨⟨by decide, by decide⟩, hname.2.1, Or.inl (by decide)⟩
    · refine ⟨(fun _ h => nomatch h), ?_⟩
      rw [List.forall_mem_cons, List.forall_mem_singleton]
      exact ⟨⟨trivial, Or.inr (by decide)⟩, hname.2.2⟩
  have hrender : String.ofList path.render =
      "//li[2][contains(@data-x,'],/')]/*[.=\"it's)=\"][@id]" := by decide +kernel
  exact ⟨hne, hplain, hrender, hrender ▸ (ofText_render hne hplain).1⟩

end PageGuard.XPath
