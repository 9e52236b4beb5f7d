import PageGuard.Proofs.Json.Layout
import PageGuard.Proofs.Json.SortedMembers
import PageGuard.Proofs.Rules.Compiling
import PageGuard.Rules.Codec
import PageGuard.Rules.Load

/-!
# Writing rules back

`decompile` turns each stored entry into a rule with the text `domain ++ token ++ selector`.  The
text may hold more separators than that one, and a domain pattern `*` is left out; still the text is
cut at the same place, because the stored domain pattern and selector came from a cut.

* `firstSeparator?_eq_some`, `firstSeparator?_token`: what a cut says about the text.
* `splitRule_text`: the text of parts that came from a cut is cut into these parts.
* `exists_rule?_of_stored`: so a stored entry gives a rule that is stored as this entry.
* `compile_decompile`: the rules of a compiled database compile to this database.
-/

namespace PageGuard

open Json Text

/-! ## Cutting -/

theorem separatorAt?_eq_some {cs rest : List Char} {k : SelectorKind}
    (h : separatorAt? cs = some (k, rest)) : cs = k.token.toList ++ rest := by
  have hstart {start tail : List Char} (hs : afterStart? start cs = some tail) :
      cs = start ++ tail := by
    rw [afterStart?] at hs
    split_ifs at hs with hpre
    obtain ⟨t, rfl⟩ := List.isPrefixOf_iff_prefix.1 hpre
    rw [List.drop_left, Option.some.injEq] at hs
    rw [hs]
  rw [separatorAt?] at h
  split at h
  · obtain ⟨rfl, rfl⟩ := Prod.mk.inj (Option.some.inj h)
    exact hstart ‹_›
  · split at h
    · obtain ⟨rfl, rfl⟩ := Prod.mk.inj (Option.some.inj h)
      exact hstart ‹_›
    · exact absurd h (Option.some_ne_none _).symm

/-- A separator is found where it stands: none of them begins like the other one. -/
theorem separatorAt?_token (k : SelectorKind) (rest : List Char) :
    separatorAt? (k.token.toList ++ rest) = some (k, rest) := by
  cases k <;> simp [separatorAt?, afterStart?, SelectorKind.token]

/-- **A cut splits the text into the part before, the separator and the part after it.** -/
theorem firstSeparator?_eq_some :
    ∀ {cs before rest : List Char} {k : SelectorKind},
      firstSeparator? cs = some (before, k, rest) → cs = before ++ (k.token.toList ++ rest)
  | [], _, _, _, h => absurd h (Option.some_ne_none _).symm
  | c :: cs, before, rest, k, h => by
    rw [firstSeparator?] at h
    split at h
    · simp only [Option.some.injEq, Prod.mk.injEq] at h
      obtain ⟨rfl, rfl, rfl⟩ := h
      exact separatorAt?_eq_some ‹_›
    · obtain ⟨⟨before', k', rest'⟩, hcs, heq⟩ := Option.map_eq_some_iff.1 h
      simp only [Prod.mk.injEq] at heq
      obtain ⟨rfl, rfl, rfl⟩ := heq
      rw [List.cons_append, ← firstSeparator?_eq_some hcs]

/-- A text that begins with a separator is cut at its beginning. -/
theorem firstSeparator?_token (k : SelectorKind) (rest : List Char) :
    firstSeparator? (k.token.toList ++ rest) = some ([], k, rest) := by
  have hne : k.token.toList ++ rest ≠ [] := by cases k <;> simp [SelectorKind.token]
  obtain ⟨c, cs, hcs⟩ := List.exists_cons_of_ne_nil hne
  have h := separatorAt?_token k rest
  rw [hcs] at h ⊢
  rw [firstSeparator?, h]

/-! ## The text of a rule -/

/-- The text of a rule with these parts. -/
def RuleParts.text (p : RuleParts) : String :=
  (if p.domain = "*" then "" else p.domain) ++ p.kind.token ++ p.selector

/-- What a text that is cut looks like. -/
theorem splitRule_eq_ok {text : String} {p : RuleParts} (h : splitRule text = .ok p) :
    '\n' ∉ text.toList ∧ ∃ before rest,
      firstSeparator? text.toList = some (before, p.kind, rest) ∧ rest ≠ [] ∧
        p.selector = .ofList rest ∧ p.domain = if before.isEmpty then "*" else .ofList before := by
  rw [splitRule] at h
  split_ifs at h with hline
  refine ⟨hline, ?_⟩
  split at h
  · cases h
  · cases h
  · rename_i before k rest hne hcut
    obtain rfl := Except.ok.inj h
    exact ⟨before, rest, hcut, hne, rfl, rfl⟩

/-- **The text of parts that came from a cut is cut into these parts.** -/
theorem splitRule_text {text : String} {p : RuleParts} (h : splitRule text = .ok p) :
    splitRule p.text = .ok p := by
  obtain ⟨hline, before, rest, hcut, hrest, hselector, hdomain⟩ := splitRule_eq_ok h
  have htext := firstSeparator?_eq_some hcut
  obtain ⟨domain, kind, selector⟩ := p
  dsimp only at hcut hselector hdomain htext
  subst hselector
  -- the domain pattern `*` is left out, whether it was written or not
  have hsplit : ∃ start, firstSeparator? (start ++ (kind.token.toList ++ rest)) =
      some (start, kind, rest) ∧ '\n' ∉ start ++ (kind.token.toList ++ rest) ∧
        (RuleParts.mk domain kind (.ofList rest)).text.toList =
          start ++ (kind.token.toList ++ rest) ∧
        domain = if start.isEmpty then "*" else .ofList start := by
    rw [htext] at hcut hline
    by_cases hstar : domain = "*"
    · refine ⟨[], firstSeparator?_token kind rest, ?_, ?_, hstar⟩
      · exact fun hmem => hline (List.mem_append_right before hmem)
      · simp [RuleParts.text, if_pos hstar]
    · have hbefore : before.isEmpty = false := by
        by_contra hempty
        rw [Bool.not_eq_false] at hempty
        rw [hempty] at hdomain
        exact hstar hdomain
      refine ⟨before, hcut, hline, ?_, hdomain⟩
      rw [hbefore, if_neg Bool.false_ne_true] at hdomain
      simp [RuleParts.text, if_neg hstar, congrArg String.toList hdomain]
  obtain ⟨start, hstart, hnoline, htoList, hdom⟩ := hsplit
  obtain ⟨c, cs, rfl⟩ := List.exists_cons_of_ne_nil hrest
  rw [splitRule, htoList, if_neg hnoline, hstart, hdom]

/-! ## Rules of stored entries -/

theorem SelectorKind.ofToken?_token (k : SelectorKind) : ofToken? k.token = some k := by
  cases k <;> rfl

/-- What storing a rule makes of it. -/
theorem Rule.stored_eq_ok {r : Rule} {s : Database.Stored} (h : r.stored = .ok s) :
    ∃ p, splitRule r.text = .ok p ∧ s = ⟨r.type, p.kind.token, p.domain, r.entry p.selector⟩ := by
  rw [Rule.stored] at h
  cases hsplit : splitRule r.text with
  | error issue =>
    rw [hsplit] at h
    cases h
  | ok p =>
    rw [hsplit] at h
    exact ⟨p, rfl, (Except.ok.inj h).symm⟩

/-- **A stored entry gives a rule that is stored as this entry.**  Hiding rules lose their flags
and their id, which their entries do not hold either. -/
theorem exists_rule?_of_stored {r : Rule} {s : Database.Stored} (h : r.stored = .ok s)
    (htype : r.type ≠ .whitelist) :
    ∃ r', s.rule? = some r' ∧ r'.stored = .ok s ∧ r'.type ≠ .whitelist ∧ r'.text ≠ "" := by
  obtain ⟨p, hsplit, rfl⟩ := Rule.stored_eq_ok h
  obtain ⟨text, silent, type, aggressive, id⟩ := r
  have htext : p.text ≠ "" := by
    intro hempty
    have hlength := congrArg String.length hempty
    cases hk : p.kind <;>
      simp [RuleParts.text, hk, SelectorKind.token, String.length_append] at hlength
  have hentry (e : Entry) : (⟨type, p.kind.token, p.domain, e⟩ : Database.Stored).rule? =
      some ⟨(if p.domain = "*" then "" else p.domain) ++ p.kind.token ++ e.selector, e.silent,
        type, e.aggressive, e.id.getD ""⟩ := by
    rw [Database.Stored.rule?, if_neg htype]
    dsimp only
    rw [SelectorKind.ofToken?_token, Option.map_some]
  have hstored (silent : Option Bool) (aggressive : Option Bool) (id : String) :
      (Rule.mk p.text silent type aggressive id).stored = .ok ⟨type, p.kind.token, p.domain,
        (Rule.mk p.text silent type aggressive id).entry p.selector⟩ := by
    rw [Rule.stored]
    dsimp only
    rw [splitRule_text hsplit]
    rfl
  dsimp only
  cases type with
  | whitelist => exact absurd rfl htype
  | adserver => exact ⟨_, hentry _, hstored none none "", htype, htext⟩
  | scam => exact ⟨_, hentry _, hstored silent (some (aggressive.getD false)) id, htype, htext⟩
  | phishing => exact ⟨_, hentry _, hstored silent (some (aggressive.getD false)) id, htype, htext⟩

/-! ## Rules in JSON -/

theorem RuleType.compilable?_name {t : RuleType} (h : t ≠ .whitelist) :
    compilable? t.name = some t := by
  cases t with
  | whitelist => exact absurd rfl h
  | _ => rfl

/-- The value of a rule is an object, whose members are the fields of the rule. -/
theorem Rule.exists_toValue_eq (r : Rule) : ∃ ms : List (String × Value),
    r.toValue = .object ms ∧ (ms.map Prod.fst).Nodup ∧
      (∀ p ∈ ms, p.2.Readable 0 ∧ p.2.sorted = p.2) ∧
      lookup? "r" ms = some (.string r.text) ∧
      lookup? "s" ms = some (Value.ofOption (r.silent.map .bool)) ∧
      lookup? "t" ms = some (.string r.type.name) ∧ lookup? "a" ms = r.aggressive.map .bool ∧
      lookup? "id" ms = some (.string r.id) := by
  obtain ⟨text, silent, type, aggressive, id⟩ := r
  refine ⟨_, rfl, ?_⟩
  cases silent <;> cases aggressive <;>
    simp [lookup?, RuleType.toValue, Value.ofOption, Value.sorted, Value.Readable.null,
      Value.Readable.bool, Value.Readable.string]

/-- What a record that states a rule looks like. -/
theorem parseRecord_eq_ok {record : Value} {r : Rule} (h : parseRecord record = .ok r) :
    ∃ ms : List (String × Value), record = .object ms ∧
      recordText? (lookup? "r" ms) = some r.text ∧ silentFlag? (lookup? "s" ms) = some r.silent ∧
      ((lookup? "t" ms).bind Value.string?).bind RuleType.compilable? = some r.type ∧
      r.aggressive = (lookup? "a" ms).bind Value.bool? ∧ r.id = recordId (lookup? "id" ms) := by
  cases record with
  | object ms =>
    rw [parseRecord] at h
    split at h
    · cases h
    · split at h
      · cases h
      · split at h
        · cases h
        · rename_i _ text htext _ silent hsilent _ type htype
          obtain rfl := Except.ok.inj h
          exact ⟨ms, rfl, htext, hsilent, htype, rfl, rfl⟩
  | _ => cases h

/-- An object with the fields of a rule states this rule. -/
theorem parseRecord_object {r : Rule} (htype : r.type ≠ .whitelist) (htext : r.text ≠ "")
    {ms : List (String × Value)} (hr : lookup? "r" ms = some (.string r.text))
    (hs : lookup? "s" ms = some (Value.ofOption (r.silent.map .bool)))
    (ht : lookup? "t" ms = some (.string r.type.name))
    (ha : lookup? "a" ms = r.aggressive.map .bool)
    (hid : lookup? "id" ms = some (.string r.id)) : parseRecord (.object ms) = .ok r := by
  have hrecord : recordText? (some (.string r.text)) = some r.text := by
    rw [recordText?, if_neg]
    rwa [String.isEmpty_iff]
  have hsilent : silentFlag? (some (Value.ofOption (r.silent.map .bool))) = some r.silent := by
    cases r.silent <;> rfl
  have haggressive : (r.aggressive.map Value.bool).bind Value.bool? = r.aggressive := by
    cases r.aggressive <;> rfl
  rw [parseRecord]
  simp only [hr, hs, ht, ha, hid, hrecord, hsilent, haggressive, Option.bind_some, Value.string?,
    RuleType.compilable?_name htype, recordId]

/-- A rule is read back from its value. -/
theorem parseRecord_toValue {r : Rule} (htype : r.type ≠ .whitelist) (htext : r.text ≠ "") :
    parseRecord r.toValue = .ok r := by
  obtain ⟨ms, hvalue, -, -, hr, hs, ht, ha, hid⟩ := r.exists_toValue_eq
  rw [hvalue]
  exact parseRecord_object htype htext hr hs ht ha hid

/-- A rule is read back from its value with sorted members. -/
theorem parseRecord_sorted {r : Rule} (htype : r.type ≠ .whitelist) (htext : r.text ≠ "") :
    parseRecord r.toValue.sorted = .ok r := by
  obtain ⟨ms, hvalue, hnodup, hplain, hr, hs, ht, ha, hid⟩ := r.exists_toValue_eq
  have hlookup (n : String) : lookup? n (Value.sortedMembers ms []) = lookup? n ms := by
    rw [lookup?_sortedMembers hnodup]
    cases hn : lookup? n ms with
    | none => rfl
    | some v =>
      rw [Option.map_some, (hplain (n, v) ((lookup?_eq_some_iff hnodup).1 hn)).2]
  rw [hvalue, Value.sorted]
  refine parseRecord_object htype htext ?_ ?_ ?_ ?_ ?_ <;> rwa [hlookup]

/-- The text of a list of rules has the values of the rules, with sorted members. -/
theorem sortedOfText?_rules (rules : List Rule) :
    Value.sortedOfText? (Value.array (rules.map Rule.toValue)).compact =
      some (.array (rules.map fun r => r.toValue.sorted)) := by
  have hreadable : (Value.array (rules.map Rule.toValue)).Readable 2 := by
    refine Value.Readable.array fun v hv => ?_
    obtain ⟨r, -, rfl⟩ := List.mem_map.1 hv
    obtain ⟨ms, hvalue, -, hplain, -⟩ := r.exists_toValue_eq
    rw [hvalue]
    exact Value.Readable.object fun p hp => (hplain p hp).1
  have hdepth := hreadable.mono (show 2 ≤ maxDepth by decide)
  rw [Value.sortedOfText?, ofText?_compact hdepth.1 hdepth.2, Option.map_some, Value.sorted,
    sortedItems_eq_map, List.map_map]
  rfl

/-! ## Compiling what was written back -/

/-- A checked rule is no whitelist rule. -/
theorem type_ne_whitelist_of_checked {records : List Value} {r : Rule}
    (h : r ∈ checkedRules records) : r.type ≠ .whitelist := by
  rw [checkedRules, mem_successes] at h
  obtain ⟨record, -, hparse⟩ := List.mem_map.1 h
  obtain ⟨ms, -, -, -, htype, -⟩ := parseRecord_eq_ok hparse
  obtain ⟨name, -, hname⟩ := Option.bind_eq_some_iff.1 htype
  exact of_decide_eq_true (Option.filter_eq_some_iff.1 hname).2

/-- What is written back for a compiled database: one rule for each entry, stored as this entry
again. -/
theorem rules_of_stored {l : List Database.Stored}
    (h : ∀ s ∈ l, ∃ r, s.rule? = some r ∧ r.stored = .ok s ∧ r.type ≠ .whitelist ∧ r.text ≠ "") :
    (l.filterMap Database.Stored.rule?).map Rule.stored = l.map .ok ∧
      ∀ r ∈ l.filterMap Database.Stored.rule?, r.type ≠ .whitelist ∧ r.text ≠ "" := by
  induction l with
  | nil => exact ⟨rfl, List.forall_mem_nil _⟩
  | cons s l ih =>
    obtain ⟨r, hrule, hstored, htype, htext⟩ := h s (List.mem_cons_self ..)
    obtain ⟨hmap, hall⟩ := ih fun u hu => h u (List.mem_cons_of_mem s hu)
    rw [List.filterMap_cons_some hrule, List.map_cons, List.map_cons, hstored, hmap]
    refine ⟨rfl, fun q hq => ?_⟩
    rcases List.mem_cons.1 hq with rfl | hq
    · exact ⟨htype, htext⟩
    · exact hall q hq

/-- The rules of a compiled database are stored as its entries, in their order. -/
theorem decompile_stored (records : List Value) :
    (decompile (compile records).database).map Rule.stored =
        (compile records).database.stored.map .ok ∧
      ∀ r ∈ decompile (compile records).database, r.type ≠ .whitelist ∧ r.text ≠ "" := by
  refine rules_of_stored fun s hs => ?_
  obtain ⟨r, hr, hrs⟩ := exists_rule_of_mem_stored hs
  exact exists_rule?_of_stored hrs (type_ne_whitelist_of_checked hr)

/-- Records that state the rules of a compiled database compile to this database. -/
theorem compile_of_decompile (records : List Value) {encode : Rule → Value}
    (hencode : ∀ r : Rule, r.type ≠ .whitelist → r.text ≠ "" → parseRecord (encode r) = .ok r) :
    compile ((decompile (compile records).database).map encode) =
      ⟨(compile records).database, []⟩ := by
  obtain ⟨hstored, hall⟩ := decompile_stored records
  have hparse := successes_map_ok (g := parseRecord ∘ encode) (f := id) fun r hr =>
    hencode r (hall r hr).1 (hall r hr).2
  have hok := successes_map_ok (ε := RuleIssue) (g := .ok) (f := id)
    fun (s : Database.Stored) (_ : s ∈ (compile records).database.stored) => rfl
  have hrebuild := Database.foldl_add_stored (filled_compile records)
  rw [List.map_id] at hparse hok
  rw [frame_compile] at hrebuild
  rw [compile_eq, checkedRules, List.map_map, hparse.1, hparse.2, hstored, hok.1, hok.2, hrebuild,
    List.append_nil]

/-- **The rules of a compiled database compile to this database.**  There is one rule for each
entry, no record fails, and all keys and entries are in the same order; the same holds for the
text of the rules, which goes through a reader that sorts the members of each record. -/
theorem compile_decompile (records : List Value) :
    let d := (compile records).database
    compile ((decompile d).map Rule.toValue) = ⟨d, []⟩ ∧
      loadDatabase (Value.array ((decompile d).map Rule.toValue)).compact = .ok ⟨d, []⟩ ∧
      (decompile d).length = d.entryCount := by
  refine ⟨compile_of_decompile records fun r => parseRecord_toValue, ?_, ?_⟩
  · rw [loadDatabase, sortedOfText?_rules]
    exact congrArg Except.ok (compile_of_decompile records fun r => parseRecord_sorted)
  · have hlength := congrArg List.length (decompile_stored records).1
    rw [List.length_map, List.length_map] at hlength
    exact hlength

end PageGuard
