import PageGuard.Proofs.Pattern.Literals
import PageGuard.Proofs.Selector.Arguments
import PageGuard.Proofs.Selector.Bare
import PageGuard.Page.Memory

/-!
# Filters by literal texts

A filter of texts compiles its argument as it is written, with case ignored, and looks for it in the
lower case of the text of an element.  Lower-casing and ignoring case are two mappings of
characters, and they agree on all but one: the capital I with a dot is two characters in lower case,
and it has no case variants.

* `IsLiteral`: the arguments that a filter takes as they are written.
* `readSelector_textFilter`: such a filter is read as one stage, unless its pattern is too large.
* `isInfix_plain`, `not_isInfix_plain`: whether the filter sees the argument in a text that has it.
* `parseSelector_textFilter`: the elements that the filter keeps.
* `dotted_text_lost`: an element that a filter loses although its text is the argument.
-/

namespace PageGuard

open Text Pattern

/-! ## Reading -/

/-- An argument that a filter takes as it is written: it has no characters with a meaning in
patterns, no quotes, and no blanks at its ends. -/
structure IsLiteral (w : List Char) : Prop where
  nonempty : w ≠ []
  plain : ∀ c ∈ w, isSpecial c = false
  unquoted : ∀ c ∈ w, isQuote c = false
  trimmed : trim w = w

theorem isLiteral_iff {w : List Char} : IsLiteral w ↔
    w ≠ [] ∧ (w.all fun c => !isSpecial c && !isQuote c) = true ∧ trim w = w := by
  simp only [List.all_eq_true, Bool.and_eq_true, Bool.not_eq_true']
  constructor
  · exact fun h => ⟨h.nonempty, fun c hc => ⟨h.plain c hc, h.unquoted c hc⟩, h.trimmed⟩
  · rintro ⟨nonempty, hall, trimmed⟩
    exact ⟨nonempty, fun c hc => (hall c hc).1, fun c hc => (hall c hc).2, trimmed⟩

instance (w : List Char) : Decidable (IsLiteral w) := decidable_of_iff _ isLiteral_iff.symm

/-- The selector that filters by a text. -/
def textFilter (w : List Char) : OperatorUse := ⟨":has-text(", .contains, w⟩

theorem textFilter_listed (w : List Char) :
    ((textFilter w).marker, (textFilter w).op) ∈ operators :=
  List.mem_cons_self ..

/-- What a filter looks for: slashes around its argument do not belong to it. -/
def filterBody (w : List Char) : List Char := (regexBody? w).getD w

theorem filterBody_isInfix (w : List Char) : filterBody w <:+: w := by
  rw [filterBody]
  cases hbody : regexBody? w with
  | none => exact List.infix_refl w
  | some body =>
    rw [eq_of_regexBody?_eq_some hbody, Option.getD_some]
    exact List.infix_append ['/'] body ['/']

/-- The slashes are all that an argument loses. -/
theorem mem_filterBody {w : List Char} {c : Char} (hc : c ≠ '/') (h : c ∈ w) :
    c ∈ filterBody w := by
  rw [filterBody]
  cases hbody : regexBody? w with
  | none => exact h
  | some body =>
    rw [eq_of_regexBody?_eq_some hbody] at h
    simpa [hc] using h

/-- The text of an operator has no blanks around it. -/
theorem OperatorUse.trim_text {u : OperatorUse} (listed : (u.marker, u.op) ∈ operators) :
    trim u.text = u.text := by
  obtain ⟨name, hname, -⟩ := exists_colon_cons listed
  have hend := trimEnd_append (show isBlank ')' = false from rfl)
    (':' :: (name ++ u.argument)) []
  rw [text, hname, trim, List.cons_append, trimStart_cons rfl, ← List.append_assoc,
    ← List.cons_append, hend]
  rfl

namespace IsLiteral

variable {w : List Char}

theorem special_notMem (h : IsLiteral w) {c : Char} (hc : isSpecial c = true) : c ∉ w :=
  fun hmem => Bool.false_ne_true ((h.plain c hmem).symm.trans hc)

theorem bare (h : IsLiteral w) : Bare w := fun c hc =>
  ⟨h.unquoted c hc, fun heq => h.special_notMem (c := '\\') (by decide) (heq ▸ hc)⟩

/-- The parenthesis behind a literal closes the filter. -/
theorem balanced (h : IsLiteral w) : (textFilter w).Balanced where
  listed := textFilter_listed w
  bare := h.bare
  balanced := unclosed_of_notMem (fun c hc =>
    ⟨fun heq => h.special_notMem (c := '(') (by decide) (heq ▸ hc),
      fun heq => h.special_notMem (c := ')') (by decide) (heq ▸ hc)⟩) 0

theorem plain_filterBody (h : IsLiteral w) : ∀ c ∈ filterBody w, isSpecial c = false :=
  fun c hc => h.plain c ((filterBody_isInfix w).subset hc)

/-- The filter is one stage, with the pattern of what is between the slashes. -/
theorem pushed_textFilter (h : IsLiteral w) : (textFilter w).pushed [] =
    (readPattern (filterBody w)).bind fun p => .ok [.contains (.ofList w) p] := by
  have hempty : w.isEmpty = false := List.isEmpty_eq_false_iff.2 h.nonempty
  rw [OperatorUse.pushed, textFilter]
  dsimp only
  rw [h.trimmed, hempty, h.bare.unquoted_eq, if_neg Bool.false_ne_true]
  rfl

/-- **A filter by a literal text is read as one stage**, if its pattern is read. -/
theorem readSelector_textFilter (h : IsLiteral w) : readSelector (textFilter w).text =
    (readPattern (filterBody w)).bind fun p => .ok [.contains (.ofList w) p] := by
  have hempty : (textFilter w).text.isEmpty = false :=
    List.isEmpty_eq_false_iff.2 (OperatorUse.text_ne_nil _)
  have hpattern : regexBody? (textFilter w).text = none := by
    rw [OperatorUse.text, ← List.append_assoc]
    exact regexBody?_append_paren _
  have hstages := OperatorUse.readStages_text (h.balanced.isWritten []) 0 none [] []
  rw [List.append_nil, if_neg fun hcond => hcond.2.1 rfl] at hstages
  have hplain : addPlain ([] : List Char).reverse [] = [] := rfl
  rw [hplain, h.pushed_textFilter] at hstages
  rw [readSelector]
  simp only [OperatorUse.trim_text (textFilter_listed w), hempty, hpattern, hstages,
    Bool.false_eq_true, if_false]
  cases readPattern (filterBody w) with
  | error e => rfl
  | ok p =>
    dsimp only [bind, Except.bind]
    rw [readStages]
    rfl

end IsLiteral

/-! ## The pattern of a literal text -/

theorem regex_of_readPattern {cs : List Char} (h : ∀ c ∈ cs, isSpecial c = false) {p : Pattern}
    (hread : readPattern cs = .ok p) : p.regex = Regex.literal cs := by
  have hcompiles := p.compiles
  rw [source_of_readPattern hread, String.toList_ofList, Regex.ofText?_literal h] at hcompiles
  split_ifs at hcompiles
  exact (Option.some.inj hcompiles).symm

/-- A literal text is a pattern, unless it is very long. -/
theorem readPattern_literal {cs : List Char} (h : ∀ c ∈ cs, isSpecial c = false) :
    (∃ p, readPattern cs = .ok p) ∨
      readPattern cs = .error (.invalidRegex (.ofList cs)) ∧ 59578 < cs.length := by
  have hsize := Regex.size_literal_le cs
  by_cases hfits : (Regex.literal cs).size ≤ maxSize
  · have hcompiles : Regex.ofText? (String.ofList cs).toList = some (Regex.literal cs) := by
      rw [String.toList_ofList, Regex.ofText?_literal h, if_pos hfits]
    have hread := readPattern_source ⟨.ofList cs, .literal cs, hcompiles⟩
    rw [String.toList_ofList] at hread
    exact Or.inl ⟨_, hread⟩
  · refine Or.inr ⟨?_, by rw [maxSize] at hfits; omega⟩
    have hcompiles : Regex.ofText? (String.ofList cs).toList = none := by
      rw [String.toList_ofList, Regex.ofText?_literal h, if_neg hfits]
    rw [readPattern, Pattern.ofSource?]
    split
    · rename_i p hp
      split at hp
      · rename_i regex hregex
        rw [hcompiles] at hregex
        cases hregex
      · cases hp
    · rfl

/-! ## Filtering -/

/-- **The filter sees its argument in every text that has it**, unless the argument has a capital I
with a dot. -/
theorem isInfix_plain {w text : List Char} (htrim : trim w = w) (hdotted : 'İ' ∉ w)
    (h : w <:+: text) :
    (filterBody w).map simpleFold <:+: (trim (lowercase text)).map simpleFold := by
  have htrim' : trim (w.map simpleFold) = w.map simpleFold := by rw [trim_map_simpleFold, htrim]
  have hplain := isInfix_trim htrim' (map_simpleFold_lowercase_isInfix h hdotted)
  rw [trim_map_simpleFold] at hplain
  exact ((filterBody_isInfix w).map simpleFold).trans hplain

/-- **An argument with a capital I with a dot is seen in no text.** -/
theorem not_isInfix_plain {w : List Char} (hdotted : 'İ' ∈ w) (text : List Char) :
    ¬ (filterBody w).map simpleFold <:+: (trim (lowercase text)).map simpleFold := by
  intro h
  have hbody : simpleFold 'İ' ∈ (filterBody w).map simpleFold :=
    List.mem_map_of_mem (mem_filterBody (by decide) hdotted)
  obtain ⟨c, hc, hfold⟩ := List.mem_map.1 (h.subset hbody)
  exact simpleFold_ne_of_mem_lowercase (mem_of_mem_trim hc)
    (hfold.trans (simpleFold_eq_dotted_iff.2 rfl))

section Filtering

variable {D N : Type} [Document D N] [DecidableEq N]

/-- What a filter by a text keeps of some elements. -/
structure KeptByText (w : List Char) (d : D) (elements kept : List N) : Prop where
  /-- The elements whose text, in lower case and trimmed, has what is looked for, up to case. -/
  seen : ∀ e, e ∈ kept ↔ e ∈ elements ∧
    (filterBody w).map simpleFold <:+: (plainText d e).toList.map simpleFold
  /-- Every element whose text has the argument as it is written. -/
  written : 'İ' ∉ w → ∀ e ∈ elements, w <:+: (Document.textOf d e).toList → e ∈ kept
  /-- No element at all. -/
  lost : 'İ' ∈ w → kept = []

/-- The stage of a literal text answers for every list of elements and leaves the document. -/
theorem IsLiteral.narrow {w : List Char} (h : IsLiteral w) {p : Pattern}
    (hread : readPattern (filterBody w) = .ok p) (d : D) (elements : List N) :
    ∃ kept, (Stage.contains (.ofList w) p).narrow elements d = (.ok kept, d) ∧
      KeptByText w d elements kept := by
  have hseen : ∀ e : N, p.isMatch (plainText d e) = true ↔
      (filterBody w).map simpleFold <:+: (plainText d e).toList.map simpleFold := fun e => by
    rw [Pattern.isMatch, regex_of_readPattern h.plain_filterBody hread, Regex.isMatch_literal_iff]
  have hmem : ∀ e, e ∈ elements.filter (fun e => p.isMatch (plainText d e)) ↔ e ∈ elements ∧
      (filterBody w).map simpleFold <:+: (plainText d e).toList.map simpleFold := fun e => by
    rw [List.mem_filter, hseen]
  refine ⟨_, by rw [Stage.narrow]; rfl, hmem, fun hdotted e he hinfix => ?_, fun hdotted => ?_⟩
  · rw [hmem, plainText, String.toList_ofList]
    exact ⟨he, isInfix_plain h.trimmed hdotted hinfix⟩
  · refine List.filter_eq_nil_iff.2 fun e _ => ?_
    rw [hseen, plainText, String.toList_ofList]
    exact not_isInfix_plain hdotted _

end Filtering

theorem toList_textFilter (w : String) :
    (":has-text(" ++ w ++ ")").toList = (textFilter w.toList).text := by
  rw [String.toList_append, String.toList_append, List.append_assoc]
  rfl

/-- **A filter by a literal text** is read as one stage, unless the text is very long, and keeps
every element whose text has it as it is written, unless it has a capital I with a dot; then it
keeps nothing. -/
theorem parseSelector_textFilter {w : String} (h : IsLiteral w.toList) :
    ((∃ p, parseSelector (":has-text(" ++ w ++ ")") = .ok [.contains w p]) ∨
      parseSelector (":has-text(" ++ w ++ ")") =
          .error (.invalidRegex (.ofList (filterBody w.toList))) ∧ 59578 < w.length) ∧
    ∀ p, parseSelector (":has-text(" ++ w ++ ")") = .ok [.contains w p] →
      ∀ (D N : Type) [Document D N] [DecidableEq N] (d : D) (elements : List N),
        ∃ kept, (Stage.contains w p).narrow elements d = (.ok kept, d) ∧
          KeptByText w.toList d elements kept := by
  have hread : parseSelector (":has-text(" ++ w ++ ")") =
      (readPattern (filterBody w.toList)).bind fun p => .ok [.contains w p] := by
    rw [parseSelector, toList_textFilter, h.readSelector_textFilter, String.ofList_toList]
  rw [hread]
  refine ⟨?_, fun p hp D N _ _ d elements => ?_⟩
  · rcases readPattern_literal h.plain_filterBody with ⟨p, hp⟩ | ⟨herror, hlong⟩
    · exact Or.inl ⟨p, by rw [hp]; rfl⟩
    · refine Or.inr ⟨by rw [herror]; rfl, ?_⟩
      have hle := (filterBody_isInfix w.toList).length_le
      rw [String.length_toList] at hle
      exact Nat.lt_of_lt_of_le hlong hle
  · obtain ⟨q, hq, hchain⟩ := bind_eq_ok_iff.1 hp
    obtain rfl : q = p := by simpa using hchain
    have hkept := h.narrow hq d elements
    rwa [String.ofList_toList] at hkept

/-- A capital sigma at the end of a word is found, although its lower case has a form of its own
there. -/
theorem final_sigma_kept :
    IsLiteral "ΟΔΟΣ".toList ∧ ∃ p kept, parseSelector ":has-text(ΟΔΟΣ)" = .ok [.contains "ΟΔΟΣ" p] ∧
      (Stage.contains "ΟΔΟΣ" p).narrow [Handle.element 3] (MemoryPage.ofText "<p>ΟΔΟΣ</p>") =
        (.ok kept, MemoryPage.ofText "<p>ΟΔΟΣ</p>") ∧ Handle.element 3 ∈ kept := by
  have hliteral : IsLiteral "ΟΔΟΣ".toList := by decide +kernel
  have htext : Document.textOf (MemoryPage.ofText "<p>ΟΔΟΣ</p>") (Handle.element 3) = "ΟΔΟΣ" := by
    decide +kernel
  obtain ⟨hread, hfilter⟩ := parseSelector_textFilter hliteral
  obtain ⟨p, hp⟩ := hread.resolve_right fun hlong => absurd hlong.2 (by decide)
  obtain ⟨kept, hkept, hbytext⟩ :=
    hfilter p hp MemoryPage Handle (.ofText "<p>ΟΔΟΣ</p>") [.element 3]
  have hwritten := hbytext.written (by decide) _ (List.mem_singleton_self _)
  rw [htext] at hwritten
  exact ⟨hliteral, p, kept, hp, hkept, hwritten (List.infix_refl _)⟩

/-- A filter by the capital I with a dot loses an element whose text is just that, although its
pattern matches the text. -/
theorem dotted_text_lost :
    IsLiteral "İ".toList ∧
      Document.textOf (MemoryPage.ofText "<p>İ</p>") (Handle.element 3) = "İ" ∧
      ∃ p, parseSelector ":has-text(İ)" = .ok [.contains "İ" p] ∧ p.isMatch "İ" = true ∧
        (Stage.contains "İ" p).narrow [Handle.element 3] (MemoryPage.ofText "<p>İ</p>") =
          (.ok [], MemoryPage.ofText "<p>İ</p>") := by
  have hliteral : IsLiteral "İ".toList := by decide +kernel
  obtain ⟨p, hp⟩ := (readPattern_literal hliteral.plain_filterBody).resolve_right fun hlong =>
    absurd hlong.2 (by decide)
  obtain ⟨kept, hkept, hbytext⟩ :=
    hliteral.narrow hp (MemoryPage.ofText "<p>İ</p>") [Handle.element 3]
  rw [hbytext.lost (by decide)] at hkept
  refine ⟨hliteral, by decide +kernel, p, ?_, ?_, hkept⟩
  · have hread := hliteral.readSelector_textFilter
    rw [hp] at hread
    exact hread
  · rw [Pattern.isMatch, regex_of_readPattern hliteral.plain_filterBody hp,
      Regex.isMatch_literal_iff]
    exact List.infix_refl _

end PageGuard
