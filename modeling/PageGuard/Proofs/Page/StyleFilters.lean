import PageGuard.Proofs.Page.Probes
import PageGuard.Proofs.Selector.Narrowing
import PageGuard.Proofs.Text.Splitting

/-!
# Filters of styles

A filter of styles is compared through a probe, which has the declarations of the filter and some
more that keep it out of sight.  Of several declarations of a property the last one counts, on the
probe as on any element.

* `Style.declarations_probeText`: the declarations of a probe are those of the filter, followed by
  the ones that hide it.
* `Style.probeValue?`: the value of a property on the probe.  It is the declared one, but for the
  two properties that hide the probe of a filter for `display`.
* `MemoryPage.properties_keep`: which elements a stage of styles keeps, and when these are the ones
  that have the declared values.
* `MemoryPage.declared_visibility_lost`: they are not when a filter declares `display` and
  `visibility`.
-/

namespace PageGuard

open Text

namespace Style

/-! ## Declarations of a text -/

theorem declaration?_of_notMem {piece : List Char} (h : ':' ∉ piece) :
    declaration? piece = none := by
  rw [declaration?, splitAtFirst?_eq_none_iff.2 h]
  rfl

/-- A piece with a colon is a declaration when both sides say something. -/
theorem declaration?_append {a : List Char} (ha : ':' ∉ a) (b : List Char) :
    declaration? (a ++ ':' :: b) =
      if trim a = [] ∨ declaredValue b = [] then none
      else some (.ofList ((trim a).map asciiLower), .ofList (declaredValue b)) := by
  have hsplit : splitAtFirst? ':' (a ++ ':' :: b) = some (a, b) :=
    splitAtFirst?_eq_some_iff.2 ⟨rfl, ha⟩
  rw [declaration?, hsplit]
  simp only [bind, Option.bind, List.isEmpty_map, Bool.or_eq_true, List.isEmpty_iff, pure]

/-- The name that a piece of a filter is known by. -/
def keyOf (piece : List Char) : String := .ofList (trim (piece.takeWhile (· ≠ ':')))

theorem keyOf_append {a : List Char} (ha : ':' ∉ a) (b : List Char) :
    keyOf (a ++ ':' :: b) = .ofList (trim a) := by
  have hne : ∀ c ∈ a, decide (c ≠ ':') = true := fun c hc => decide_eq_true fun h => ha (h ▸ hc)
  rw [keyOf, List.takeWhile_append_of_pos hne]
  simp

theorem keyOf_of_notMem {piece : List Char} (h : ':' ∉ piece) :
    keyOf piece = .ofList (trim piece) := by
  have hne : ∀ c ∈ piece, decide (c ≠ ':') = true :=
    fun c hc => decide_eq_true fun heq => h (heq ▸ hc)
  rw [keyOf, List.takeWhile_eq_self_iff.2 hne]

/-- Trimming a piece trims the outer ends of its two sides. -/
theorem trim_append_colon (a b : List Char) :
    trim (a ++ ':' :: b) = trimStart a ++ ':' :: trimEnd b := by
  have hcolon : isBlank ':' = false := by decide
  rw [trim, trimStart_append hcolon, trimEnd_append hcolon]

/-- Blanks around a piece matter neither for its declaration nor for its name. -/
theorem declaration?_and_keyOf_trim (piece : List Char) :
    declaration? (trim piece) = declaration? piece ∧ keyOf (trim piece) = keyOf piece := by
  cases hsplit : splitAtFirst? ':' piece with
  | none =>
    have hnot := splitAtFirst?_eq_none_iff.1 hsplit
    have hnot' : ':' ∉ trim piece := fun h => hnot (mem_of_mem_trim h)
    rw [declaration?_of_notMem hnot, declaration?_of_notMem hnot', keyOf_of_notMem hnot,
      keyOf_of_notMem hnot', trim_trim]
    exact ⟨rfl, rfl⟩
  | some sides =>
    obtain ⟨a, b⟩ := sides
    obtain ⟨rfl, ha⟩ := splitAtFirst?_eq_some_iff.1 hsplit
    have ha' : ':' ∉ trimStart a := fun h => ha (mem_of_mem_trimStart h)
    have hvalue : declaredValue (trimEnd b) = declaredValue b := by
      rw [declaredValue, declaredValue, trim_trimEnd]
    rw [trim_append_colon, declaration?_append ha, declaration?_append ha', keyOf_append ha,
      keyOf_append ha', hvalue, trim_trimStart]
    exact ⟨rfl, rfl⟩

/-- The declarations of texts on the two sides of a semicolon. -/
theorem declarations_of_toList {text : String} {a b : List Char}
    (h : text.toList = a ++ ';' :: b) :
    declarations text = declarations (.ofList a) ++ declarations (.ofList b) := by
  simp only [declarations, h, String.toList_ofList, pieces_append, List.filterMap_append]

theorem declarations_trimmed (text : String) :
    declarations (trimmed text) = declarations text := by
  have hsep : isBlank ';' = false := by decide
  have hpieces := map_pieces_trim hsep
    (fun p => (declaration?_and_keyOf_trim p).1) text.toList
  have hcompact (ps : List (List Char)) :
      ps.filterMap declaration? = (ps.map declaration?).filterMap id := by
    rw [List.filterMap_map]
    rfl
  rw [declarations, declarations, trimmed, String.toList_ofList, hcompact, hpieces, ← hcompact]

/-- A declaration has a name and a value. -/
theorem declaration?_ne_empty {piece : List Char} {name value : String}
    (h : declaration? piece = some (name, value)) : name ≠ "" ∧ value ≠ "" := by
  cases hsplit : splitAtFirst? ':' piece with
  | none =>
    rw [declaration?_of_notMem (splitAtFirst?_eq_none_iff.1 hsplit)] at h
    cases h
  | some sides =>
    obtain ⟨rfl, ha⟩ := splitAtFirst?_eq_some_iff.1 hsplit
    rw [declaration?_append ha] at h
    split_ifs at h with hempty
    obtain ⟨rfl, rfl⟩ := Prod.mk.inj (Option.some.inj h)
    rw [not_or] at hempty
    simpa using hempty

/-! ## The last declaration -/

/-- The value of the last declaration of a property. -/
def lastValue? (ds : Declarations) (property : String) : Option String :=
  (ds.reverse.find? fun d => d.1 = property).map Prod.snd

/-- The properties that a text declares. -/
def names (text : String) : List String := (declarations text).map Prod.fst

theorem computed_eq (ds : Declarations) (tag property : String) :
    computed ds tag property = (lastValue? ds property).getD (defaultValue tag property) := by
  rw [computed, lastValue?]
  cases ds.reverse.find? fun d => d.1 = property <;> rfl

/-- What is declared later counts. -/
theorem lastValue?_append (ds es : Declarations) (property : String) :
    lastValue? (ds ++ es) property = (lastValue? es property).or (lastValue? ds property) := by
  rw [lastValue?, List.reverse_append, List.find?_append, Option.map_or]
  rfl

theorem mem_of_lastValue? {ds : Declarations} {property value : String}
    (h : lastValue? ds property = some value) : (property, value) ∈ ds := by
  obtain ⟨d, hd, rfl⟩ := Option.map_eq_some_iff.1 h
  have hproperty : d.1 = property := by simpa using List.find?_some hd
  rw [← hproperty]
  exact List.mem_reverse.1 (List.mem_of_find?_eq_some hd)

theorem exists_lastValue? {text property : String} (h : property ∈ names text) :
    ∃ value, lastValue? (declarations text) property = some value ∧ value ≠ "" := by
  obtain ⟨d, hd, rfl⟩ := List.mem_map.1 h
  cases hlast : lastValue? (declarations text) d.1 with
  | none =>
    have hnone := List.find?_eq_none.1 (Option.map_eq_none_iff.1 hlast) d (List.mem_reverse.2 hd)
    exact absurd (decide_eq_true rfl) hnone
  | some value =>
    obtain ⟨piece, -, hpiece⟩ := List.mem_filterMap.1 (mem_of_lastValue? hlast)
    exact ⟨value, rfl, (declaration?_ne_empty hpiece).2⟩

/-! ## Probes -/

/-- A filter says something, and between its semicolons there is nothing or a declaration with a
name and a value. -/
structure Complete (filter : String) : Prop where
  nonblank : trim filter.toList ≠ []
  declared : ∀ piece ∈ pieces ';' filter.toList,
    trim piece = [] ∨ (declaration? piece).isSome = true

/-- The declarations that keep the probe of a filter out of sight. -/
def hidingDeclarations (filter : String) : Declarations :=
  if "display" ∈ names filter then [("visibility", "hidden"), ("position", "absolute")]
  else [("display", "none")]

theorem filterKeys_trimmed (filter : String) :
    filterKeys (trimmed filter) = (pieces ';' filter.toList).map keyOf := by
  have hsep : isBlank ';' = false := by decide
  rw [← map_pieces_trim hsep (fun p => (declaration?_and_keyOf_trim p).2)]
  rw [filterKeys, trimmed, String.toList_ofList]
  rfl

/-- A declaration is known by its name, up to the case of letters. -/
theorem lowerAscii_keyOf {piece : List Char} {name value : String}
    (h : declaration? piece = some (name, value)) : lowerAscii (keyOf piece) = name := by
  cases hsplit : splitAtFirst? ':' piece with
  | none =>
    rw [declaration?_of_notMem (splitAtFirst?_eq_none_iff.1 hsplit)] at h
    cases h
  | some sides =>
    obtain ⟨rfl, ha⟩ := splitAtFirst?_eq_some_iff.1 hsplit
    rw [declaration?_append ha] at h
    split_ifs at h
    rw [keyOf_append ha, lowerAscii, String.toList_ofList]
    exact (Prod.mk.inj (Option.some.inj h)).1

theorem keyOf_of_blank {piece : List Char} (h : trim piece = []) : keyOf piece = "" := by
  rw [← (declaration?_and_keyOf_trim piece).2, h]
  rfl

/-- The names by which a complete filter is looked through are those that it declares. -/
theorem any_filterKeys_iff {filter : String} (h : Complete filter) {name : String}
    (hname : name ≠ "") :
    (filterKeys (trimmed filter)).any (fun k => lowerAscii k = name) = true ↔
      name ∈ names filter := by
  rw [filterKeys_trimmed, List.any_map, List.any_eq_true, names, List.mem_map]
  constructor
  · rintro ⟨piece, hpiece, hkey⟩
    replace hkey : lowerAscii (keyOf piece) = name := by simpa using hkey
    rcases h.declared piece hpiece with hblank | hdeclared
    · rw [keyOf_of_blank hblank] at hkey
      exact absurd hkey.symm hname
    · obtain ⟨d, hd⟩ := Option.isSome_iff_exists.1 hdeclared
      refine ⟨d, List.mem_filterMap.2 ⟨piece, hpiece, hd⟩, ?_⟩
      rw [← hkey, lowerAscii_keyOf hd]
  · rintro ⟨d, hd, rfl⟩
    obtain ⟨piece, hpiece, hdeclared⟩ := List.mem_filterMap.1 hd
    refine ⟨piece, hpiece, ?_⟩
    simpa using lowerAscii_keyOf hdeclared

/-- What is put after a filter is declared after it, whether the filter ends in a semicolon or
not. -/
theorem declarations_separated (filter more : String) :
    declarations (filter ++ (if filter.toList.getLast? = some ';' then " " else "; ") ++ more) =
      declarations filter ++ declarations (" " ++ more) := by
  have hspace (b : List Char) : String.ofList (' ' :: b) = " " ++ String.ofList b := by
    apply String.toList_injective
    simp
  split_ifs with hlast
  · obtain ⟨init, hinit⟩ := List.getLast?_eq_some_iff.1 hlast
    have hleft : declarations filter = declarations (.ofList init) := by
      rw [declarations_of_toList hinit]
      exact List.append_nil _
    have hwhole : (filter ++ " " ++ more).toList = init ++ ';' :: (' ' :: more.toList) := by
      simp [hinit]
    rw [declarations_of_toList hwhole, hleft, hspace, String.ofList_toList]
  · have hwhole : (filter ++ "; " ++ more).toList =
        filter.toList ++ ';' :: (' ' :: more.toList) := by
      simp
    rw [declarations_of_toList hwhole, hspace, String.ofList_toList, String.ofList_toList]

/-- **The declarations of a probe** are those of its filter and, after them, the ones that hide
it. -/
theorem declarations_probeText {filter : String} (h : Complete filter) :
    declarations (probeText (trimmed filter)) =
      declarations filter ++ hidingDeclarations filter := by
  have hdisplay : "display" ≠ "" := by decide
  have hany := any_filterKeys_iff h hdisplay
  rw [probeText, hidingDeclarations, ← declarations_trimmed filter]
  by_cases hdeclared : "display" ∈ names filter
  · rw [if_pos (hany.2 hdeclared), if_pos hdeclared]
    have hveil : declarations (" " ++ hideByVisibility) =
        [("visibility", "hidden"), ("position", "absolute")] := by decide +kernel
    rw [← hveil]
    exact declarations_separated _ _
  · rw [if_neg fun h => hdeclared (hany.1 h), if_neg hdeclared]
    have hveil : declarations (" " ++ hideByDisplay) = [("display", "none")] := by
      decide +kernel
    rw [← hveil]
    exact declarations_separated _ _

/-- The value of a property on the probe of a filter.  A filter that declares `display` has its
probe hidden by other means, whatever it declares of them. -/
def probeValue? (filter property : String) : Option String :=
  if "display" ∈ names filter ∧ property = "visibility" then some "hidden"
  else if "display" ∈ names filter ∧ property = "position" then some "absolute"
  else lastValue? (declarations filter) property

/-- The probe of a filter has these values. -/
theorem lastValue?_probe {filter property : String} (hproperty : property ∈ names filter) :
    lastValue? (declarations filter ++ hidingDeclarations filter) property =
      probeValue? filter property := by
  rw [lastValue?_append, hidingDeclarations, probeValue?]
  by_cases hdisplay : "display" ∈ names filter
  · rw [if_pos hdisplay]
    by_cases hvisibility : property = "visibility"
    · subst hvisibility
      rw [if_pos ⟨hdisplay, rfl⟩]
      rfl
    by_cases hposition : property = "position"
    · subst hposition
      rw [if_neg (by simp), if_pos ⟨hdisplay, rfl⟩]
      rfl
    · have hnone : lastValue? [("visibility", "hidden"), ("position", "absolute")] property =
          none := by
        simp [lastValue?, Ne.symm hvisibility, Ne.symm hposition]
      rw [hnone, if_neg fun h => hvisibility h.2, if_neg fun h => hposition h.2]
      rfl
  · have hne : "display" ≠ property := fun h => hdisplay (h ▸ hproperty)
    have hnone : lastValue? [("display", "none")] property = none := by simp [lastValue?, hne]
    rw [if_neg hdisplay, hnone, if_neg fun h => hdisplay h.1, if_neg fun h => hdisplay h.1]
    rfl

theorem exists_probeValue? {filter property : String} (h : property ∈ names filter) :
    ∃ value, probeValue? filter property = some value ∧ value ≠ "" := by
  rw [probeValue?]
  split_ifs
  · exact ⟨_, rfl, by decide⟩
  · exact ⟨_, rfl, by decide⟩
  · exact exists_lastValue? h

/-- A filter declares `display` and another value of a property that hides its probe. -/
def Unveiled (filter : String) : Prop :=
  "display" ∈ names filter ∧
    (("visibility" ∈ names filter ∧
        lastValue? (declarations filter) "visibility" ≠ some "hidden") ∨
      ("position" ∈ names filter ∧
        lastValue? (declarations filter) "position" ≠ some "absolute"))

/-- The probe of a filter has the declared values, unless hiding it takes another one. -/
theorem unveiled_iff {filter : String} :
    Unveiled filter ↔ ∃ property ∈ names filter,
      probeValue? filter property ≠ lastValue? (declarations filter) property := by
  constructor
  · rintro ⟨hdisplay, ⟨hproperty, hne⟩ | ⟨hproperty, hne⟩⟩
    · refine ⟨_, hproperty, ?_⟩
      rw [probeValue?, if_pos ⟨hdisplay, rfl⟩]
      exact hne.symm
    · refine ⟨_, hproperty, ?_⟩
      rw [probeValue?, if_neg (by simp), if_pos ⟨hdisplay, rfl⟩]
      exact hne.symm
  · rintro ⟨property, hproperty, hne⟩
    rw [probeValue?] at hne
    split_ifs at hne with hvisibility hposition
    · obtain ⟨hdisplay, rfl⟩ := hvisibility
      exact ⟨hdisplay, Or.inl ⟨hproperty, hne.symm⟩⟩
    · obtain ⟨hdisplay, rfl⟩ := hposition
      exact ⟨hdisplay, Or.inr ⟨hproperty, hne.symm⟩⟩
    · exact absurd rfl hne

/-! ## Elements with some styles -/

/-- An element has these values in the properties that a filter declares. -/
def HasValues (filter : String) (value? : String → Option String) (e : Markup.Element) : Prop :=
  ∀ property ∈ names filter,
    value? property = some (computed (MemoryPage.inlineStyle e) e.name property)

instance (filter : String) (value? : String → Option String) (e : Markup.Element) :
    Decidable (HasValues filter value? e) :=
  inferInstanceAs (Decidable (∀ property ∈ names filter,
    value? property = some (computed (MemoryPage.inlineStyle e) e.name property)))

/-- An element that has the declared values and those of the probe is one of a filter whose probe
has the declared values. -/
theorem not_unveiled {filter : String} {e : Markup.Element}
    (hprobe : HasValues filter (probeValue? filter) e)
    (hdeclared : HasValues filter (lastValue? (declarations filter)) e) : ¬ Unveiled filter := by
  rw [unveiled_iff]
  rintro ⟨property, hproperty, hne⟩
  exact hne ((hprobe property hproperty).trans (hdeclared property hproperty).symm)

theorem hasValues_iff {filter : String} (h : ¬ Unveiled filter) (e : Markup.Element) :
    HasValues filter (probeValue? filter) e ↔
      HasValues filter (lastValue? (declarations filter)) e := by
  have hsame : ∀ property ∈ names filter,
      probeValue? filter property = lastValue? (declarations filter) property := by
    intro property hproperty
    by_contra hne
    exact h (unveiled_iff.2 ⟨property, hproperty, hne⟩)
  exact forall₂_congr fun property hproperty => by rw [hsame property hproperty]

/-- What is looked through when an element is compared with a probe: every name, with the values of
the probe and of the element. -/
theorem forall_keys_iff {filter : String} (h : Complete filter) (e : Markup.Element) :
    (∀ key ∈ filterKeys (trimmed filter), key = "" ∨
      computed (declarations (probeText (trimmed filter))) "section"
          (lowerAscii (trimmed key)) = "" ∨
      computed (MemoryPage.inlineStyle e) e.name (lowerAscii (trimmed key)) =
        computed (declarations (probeText (trimmed filter))) "section"
          (lowerAscii (trimmed key))) ↔
      HasValues filter (probeValue? filter) e := by
  have htrimmed (piece : List Char) : trimmed (keyOf piece) = keyOf piece := by
    rw [trimmed, keyOf, String.toList_ofList, trim_trim]
  have hpiece {piece : List Char} (hmem : piece ∈ pieces ';' filter.toList)
      {name value : String} (hdeclared : declaration? piece = some (name, value)) :
      (keyOf piece = "" ∨
        computed (declarations (probeText (trimmed filter))) "section"
            (lowerAscii (trimmed (keyOf piece))) = "" ∨
        computed (MemoryPage.inlineStyle e) e.name (lowerAscii (trimmed (keyOf piece))) =
          computed (declarations (probeText (trimmed filter))) "section"
            (lowerAscii (trimmed (keyOf piece)))) ↔
        probeValue? filter name = some (computed (MemoryPage.inlineStyle e) e.name name) := by
    have hname : name ∈ names filter :=
      List.mem_map_of_mem (List.mem_filterMap.2 ⟨piece, hmem, hdeclared⟩)
    obtain ⟨wanted, hwanted, hne⟩ := exists_probeValue? hname
    have hkey : keyOf piece ≠ "" := by
      intro hempty
      have hlower := lowerAscii_keyOf hdeclared
      rw [hempty] at hlower
      exact (declaration?_ne_empty hdeclared).1 hlower.symm
    rw [htrimmed, lowerAscii_keyOf hdeclared, declarations_probeText h, computed_eq (_ ++ _),
      lastValue?_probe hname, hwanted]
    simp only [hkey, hne, false_or, Option.getD_some, Option.some.injEq]
    exact eq_comm
  rw [filterKeys_trimmed, List.forall_mem_map]
  constructor
  · intro hall property hproperty
    obtain ⟨d, hd, rfl⟩ := List.mem_map.1 hproperty
    obtain ⟨piece, hmem, hdeclared⟩ := List.mem_filterMap.1 hd
    exact (hpiece hmem hdeclared).1 (hall piece hmem)
  · intro hvalues piece hmem
    rcases h.declared piece hmem with hblank | hdeclared
    · exact Or.inl (keyOf_of_blank hblank)
    · obtain ⟨d, hd⟩ := Option.isSome_iff_exists.1 hdeclared
      refine (hpiece hmem hd).2 (hvalues d.1 ?_)
      exact List.mem_map_of_mem (List.mem_filterMap.2 ⟨piece, hmem, hd⟩)

end Style

/-! ## Comparing with a probe -/

/-- When all styles can be looked up, an element is compared with a probe in every name that has a
value there. -/
theorem sameStyle_eq {D N : Type} [Document D N] {d : D} {probe e : N}
    {wanted value : String → String}
    (hwanted : ∀ key, Document.computedStyle d probe key = .ok (wanted key))
    (hvalue : ∀ key, Document.computedStyle d e key = .ok (value key)) (keys : List String) :
    sameStyle d probe e keys =
      .ok (decide (∀ key ∈ keys, key = "" ∨ wanted key = "" ∨ value key = wanted key)) := by
  induction keys with
  | nil => simp [sameStyle]
  | cons key keys ih =>
    rw [sameStyle, ih, hwanted, hvalue]
    simp only [List.forall_mem_cons]
    by_cases hkey : key = ""
    · simp [hkey]
    by_cases hempty : wanted key = ""
    · simp [hkey, hempty, bind, Except.bind]
    by_cases hsame : value key = wanted key
    · simp [hkey, hempty, hsame, bind, Except.bind]
    · simp [hkey, hempty, hsame, bind, Except.bind, pure, Except.pure]

namespace MemoryPage

open Style

/-- The element of a handle; a probe has none. -/
def element? (p : MemoryPage) : Handle → Option Markup.Element
  | .element key => (p.node? key).bind Markup.Node.element?
  | .probe _ => none

/-- An element has the same style with a probe on the page. -/
theorem computedStyle_with_probe {p : MemoryPage} (hstyle : p.failStyle = false) {h : Handle}
    {e : Markup.Element} (he : p.element? h = some e) (css key : String) :
    (p.attachProbe css).2.computedStyle h key =
      .ok (computed (inlineStyle e) e.name (lowerAscii (trimmed key))) := by
  cases h with
  | probe k => cases he
  | element k =>
    have hnode : ((p.attachProbe css).2.node? k).bind Markup.Node.element? = some e := he
    have hfail : (p.attachProbe css).2.failStyle = false := hstyle
    simp only [computedStyle, hfail, hnode, Bool.false_eq_true, if_false]

/-- An element is compared with the probe of a filter in the values of the probe. -/
theorem styleHits_probe {p : MemoryPage} (hstyle : p.failStyle = false) {filter : String}
    (hfilter : Complete filter) {h : Handle} {e : Markup.Element} (he : p.element? h = some e) :
    styleHits (p.attachProbe (probeText (trimmed filter))).2
        (p.attachProbe (probeText (trimmed filter))).1 (filterKeys (trimmed filter)) h =
      .ok (decide (HasValues filter (probeValue? filter) e)) := by
  have hwanted (key : String) :
      Document.computedStyle (p.attachProbe (probeText (trimmed filter))).2
          (p.attachProbe (probeText (trimmed filter))).1 key =
        .ok (computed (declarations (probeText (trimmed filter))) "section"
          (lowerAscii (trimmed key))) := by
    have hprobe := computedStyle_attachProbe p (probeText (trimmed filter)) key
    rw [hstyle] at hprobe
    exact hprobe
  have hvalue (key : String) := computedStyle_with_probe hstyle he (probeText (trimmed filter)) key
  have hhtml : Document.isHtml (p.attachProbe (probeText (trimmed filter))).2 h = true := rfl
  rw [styleHits, if_pos hhtml, sameStyle_eq hwanted hvalue,
    decide_eq_decide.2 (forall_keys_iff hfilter e)]

/-- A stage of styles keeps the elements that have the values of the probe. -/
theorem narrow_properties {p : MemoryPage} (hstyle : p.failStyle = false) {filter : String}
    (hfilter : Complete filter) {hs : List Handle} (hhs : ∀ h ∈ hs, (p.element? h).isSome = true) :
    (((Stage.properties filter).narrow hs : Visit MemoryPage (List Handle)) p).1 =
      .ok (hs.filter fun h => (p.element? h).any fun e =>
        decide (HasValues filter (probeValue? filter) e)) := by
  have hnonempty : (trimmed filter).isEmpty = false := by
    rw [trimmed, Bool.eq_false_iff, ne_eq, String.isEmpty_iff]
    intro hempty
    exact hfilter.nonblank (by simpa using congrArg String.toList hempty)
  have hcompared : (((Stage.properties filter).narrow hs : Visit MemoryPage (List Handle)) p).1 =
      filterExcept (styleHits (p.attachProbe (probeText (trimmed filter))).2
        (p.attachProbe (probeText (trimmed filter))).1 (filterKeys (trimmed filter))) hs := by
    rw [Stage.narrow, filterStyle]
    simp only [hnonempty, Bool.false_eq_true, if_false]
    rfl
  rw [hcompared, ← filterExcept_ok]
  refine filterExcept_congr fun h hh => ?_
  obtain ⟨e, he⟩ := Option.isSome_iff_exists.1 (hhs h hh)
  rw [styleHits_probe hstyle hfilter he, he]
  rfl

/-- **Which elements a stage of styles keeps.**  It keeps those that have the values of the probe.
They are the ones that have the values declared last, each element for itself, exactly unless the
filter declares `display` together with another value of a property that hides the probe, and the
element has the values of the probe or the declared ones. -/
theorem properties_keep {p : MemoryPage} (hstyle : p.failStyle = false) {filter : String}
    (hfilter : Complete filter) {hs : List Handle} (hhs : ∀ h ∈ hs, (p.element? h).isSome = true) :
    ∃ kept, (((Stage.properties filter).narrow hs : Visit MemoryPage (List Handle)) p).1 = .ok kept ∧
      kept.Sublist hs ∧
      ∀ h ∈ hs, ∀ e, p.element? h = some e →
        (h ∈ kept ↔ HasValues filter (probeValue? filter) e) ∧
        ((h ∈ kept ↔ HasValues filter (lastValue? (declarations filter)) e) ↔
          (Unveiled filter → ¬ HasValues filter (probeValue? filter) e ∧
            ¬ HasValues filter (lastValue? (declarations filter)) e)) := by
  refine ⟨_, narrow_properties hstyle hfilter hhs, List.filter_sublist, fun h hh e he => ?_⟩
  have hkept : h ∈ hs.filter (fun h => (p.element? h).any fun e =>
      decide (HasValues filter (probeValue? filter) e)) ↔
        HasValues filter (probeValue? filter) e := by
    rw [List.mem_filter, he, Option.any_some, decide_eq_true_iff]
    exact and_iff_right hh
  refine ⟨hkept, ?_⟩
  rw [hkept]
  by_cases hunveiled : Unveiled filter
  · have hnot : ¬ (HasValues filter (probeValue? filter) e ∧
        HasValues filter (lastValue? (declarations filter)) e) :=
      fun hboth => not_unveiled hboth.1 hboth.2 hunveiled
    constructor
    · intro hiff _
      exact ⟨fun hprobe => hnot ⟨hprobe, hiff.1 hprobe⟩,
        fun hdeclared => hnot ⟨hiff.2 hdeclared, hdeclared⟩⟩
    · intro hneither
      exact iff_of_false (hneither hunveiled).1 (hneither hunveiled).2
  · exact iff_of_true (hasValues_iff hunveiled e) fun h => absurd h hunveiled

/-- Of two paragraphs a filter keeps the one that has what it declares, in any case of letters and
with the later one of two declarations. -/
theorem red_paragraph_kept :
    let p := ofText "<p style=\"color: red\">x</p><p style=\"color: blue\">y</p>"
    let filter := "COLOR: blue; display: block; Color: red !important;"
    p.failStyle = false ∧ Complete filter ∧
      (∀ h ∈ [Handle.element 3, Handle.element 4], (p.element? h).isSome = true) ∧
      ∃ kept, (((Stage.properties filter).narrow [Handle.element 3, Handle.element 4] :
          Visit MemoryPage (List Handle)) p).1 = .ok kept ∧
        Handle.element 3 ∈ kept ∧ Handle.element 4 ∉ kept := by
  intro p filter
  have hfilter : Complete filter := ⟨by decide +kernel, by decide +kernel⟩
  have hhs : ∀ h ∈ [Handle.element 3, Handle.element 4], (p.element? h).isSome = true := by
    decide +kernel
  obtain ⟨kept, hkept, -, hiff⟩ := properties_keep (p := p) rfl hfilter hhs
  have hred : p.element? (.element 3) =
      some ⟨3, .html, "p", [⟨.plain, "style", "color: red"⟩]⟩ := by decide +kernel
  have hblue : p.element? (.element 4) =
      some ⟨4, .html, "p", [⟨.plain, "style", "color: blue"⟩]⟩ := by decide +kernel
  refine ⟨rfl, hfilter, hhs, kept, hkept, ?_, ?_⟩
  · exact (hiff _ (by decide) _ hred).1.2 (by decide +kernel)
  · rw [(hiff _ (by decide) _ hblue).1]
    decide +kernel

/-- A filter that declares how an element is shown and that it is visible keeps no visible element:
its probe is hidden by its visibility. -/
theorem declared_visibility_lost :
    let p := ofText "<p>x</p>"
    let filter := "display: block; visibility: visible"
    let e : Markup.Element := { key := 3, name := "p" }
    p.failStyle = false ∧ Complete filter ∧ p.element? (.element 3) = some e ∧
      HasValues filter (lastValue? (declarations filter)) e ∧
      (((Stage.properties filter).narrow [Handle.element 3] :
        Visit MemoryPage (List Handle)) p).1 = .ok [] := by
  intro p filter e
  have hfilter : Complete filter := ⟨by decide +kernel, by decide +kernel⟩
  have he : p.element? (.element 3) = some e := by decide +kernel
  refine ⟨rfl, hfilter, he, by decide +kernel, ?_⟩
  rw [narrow_properties rfl hfilter (by simp [he])]
  decide +kernel

end MemoryPage

end PageGuard
