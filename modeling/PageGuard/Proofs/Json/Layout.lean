import PageGuard.Proofs.Json.Numerals
import PageGuard.Proofs.Json.Values

/-!
# Written values are read back

Both ways of writing a value set the same tokens apart with different white space.  A `Layout`
says where white space stands, and a value laid out in any way is read back.

* `chars_eq_laid`, `prettyChars_eq_laid`: the two ways of writing are layouts.
* `readTree?_laid`: the reader finds the tree of a value and leaves what follows it.
* `ofText?_laid`: the text of a value that is not too deep has that value, when each of its
  numbers is read back.
* `ofText?_compact`, `ofText?_pretty`: this holds of a value without numbers in any case.
-/

namespace PageGuard.Json

open Text

/-! ## Layouts -/

/-- The white space of a text: before each item or member of a level, which also stands before
the bracket that closes the level above, and after a colon. -/
structure Layout where
  gap : Nat → List Char
  afterColon : List Char
  gap_blank : ∀ n, ∀ c ∈ gap n, isSpace c = true
  afterColon_blank : ∀ c ∈ afterColon, isSpace c = true

namespace Layout

/-- No white space. -/
def compact : Layout where
  gap _ := []
  afterColon := []
  gap_blank _ := List.forall_mem_nil _
  afterColon_blank := List.forall_mem_nil _

/-- One item or member on a line. -/
def pretty : Layout where
  gap := newLine
  afterColon := [' ']
  gap_blank n c hc := by
    rcases List.mem_cons.1 hc with rfl | hc
    · rfl
    · rw [(List.mem_replicate.1 hc).2]
      rfl
  afterColon_blank c hc := by
    rw [List.mem_singleton.1 hc]
    rfl

end Layout

mutual

/-- The characters of a value in a layout; `level` is that of the value. -/
def Value.laid (l : Layout) (level : Nat) : Value → List Char
  | .array (v :: rest) =>
    '[' :: l.gap (level + 1) ++ (v.laid l (level + 1) ++ Value.laidItems l level rest)
  | .object ((k, v) :: rest) =>
    '\x7b' :: l.gap (level + 1) ++
      (quote k ++ ':' :: l.afterColon ++ (v.laid l (level + 1) ++ Value.laidMembers l level rest))
  | v => v.chars

/-- The items after the first one and the closing bracket. -/
def Value.laidItems (l : Layout) (level : Nat) : List Value → List Char
  | [] => l.gap level ++ [']']
  | v :: rest =>
    ',' :: l.gap (level + 1) ++ (v.laid l (level + 1) ++ Value.laidItems l level rest)

/-- The members after the first one and the closing brace. -/
def Value.laidMembers (l : Layout) (level : Nat) : List (String × Value) → List Char
  | [] => l.gap level ++ ['\x7d']
  | (k, v) :: rest =>
    ',' :: l.gap (level + 1) ++
      (quote k ++ ':' :: l.afterColon ++ (v.laid l (level + 1) ++ Value.laidMembers l level rest))

end

mutual

/-- Writing without white space is a layout. -/
theorem chars_eq_laid (level : Nat) : ∀ v : Value, v.chars = v.laid .compact level
  | .array (v :: rest) => by
    simp [Value.chars, Value.laid, Layout.compact, chars_eq_laid (level + 1) v,
      itemChars_eq_laid level rest]
  | .object ((k, v) :: rest) => by
    simp [Value.chars, Value.laid, Layout.compact, chars_eq_laid (level + 1) v,
      memberChars_eq_laid level rest]
  | .array [] => by rw [Value.laid] <;> simp
  | .object [] => by rw [Value.laid] <;> simp
  | .null => by rw [Value.laid] <;> simp
  | .bool _ => by rw [Value.laid] <;> simp
  | .number _ => by rw [Value.laid] <;> simp
  | .string _ => by rw [Value.laid] <;> simp

theorem itemChars_eq_laid (level : Nat) :
    ∀ vs : List Value, Value.itemChars vs = Value.laidItems .compact level vs
  | [] => rfl
  | v :: rest => by
    simp [Value.itemChars, Value.laidItems, Layout.compact, chars_eq_laid (level + 1) v,
      itemChars_eq_laid level rest]

theorem memberChars_eq_laid (level : Nat) :
    ∀ ms : List (String × Value), Value.memberChars ms = Value.laidMembers .compact level ms
  | [] => rfl
  | (k, v) :: rest => by
    simp [Value.memberChars, Value.laidMembers, Layout.compact, chars_eq_laid (level + 1) v,
      memberChars_eq_laid level rest]

end

mutual

/-- Writing one item or member on a line is a layout. -/
theorem prettyChars_eq_laid (level : Nat) : ∀ v : Value, v.prettyChars level = v.laid .pretty level
  | .array (v :: rest) => by
    simp [Value.prettyChars, Value.laid, Layout.pretty, prettyChars_eq_laid (level + 1) v,
      prettyItems_eq_laid level rest]
  | .object ((k, v) :: rest) => by
    simp [Value.prettyChars, Value.laid, Layout.pretty, prettyChars_eq_laid (level + 1) v,
      prettyMembers_eq_laid level rest]
  | .array [] => by rw [Value.laid, Value.prettyChars] <;> simp
  | .object [] => by rw [Value.laid, Value.prettyChars] <;> simp
  | .null => by rw [Value.laid, Value.prettyChars] <;> simp
  | .bool _ => by rw [Value.laid, Value.prettyChars] <;> simp
  | .number _ => by rw [Value.laid, Value.prettyChars] <;> simp
  | .string _ => by rw [Value.laid, Value.prettyChars] <;> simp

theorem prettyItems_eq_laid (level : Nat) :
    ∀ vs : List Value, Value.prettyItems level vs = Value.laidItems .pretty level vs
  | [] => rfl
  | v :: rest => by
    simp [Value.prettyItems, Value.laidItems, Layout.pretty, prettyChars_eq_laid (level + 1) v,
      prettyItems_eq_laid level rest]

theorem prettyMembers_eq_laid (level : Nat) :
    ∀ ms : List (String × Value),
      Value.prettyMembers level ms = Value.laidMembers .pretty level ms
  | [] => rfl
  | (k, v) :: rest => by
    simp [Value.prettyMembers, Value.laidMembers, Layout.pretty, prettyChars_eq_laid (level + 1) v,
      prettyMembers_eq_laid level rest]

end

/-! ## Strings -/

/-- The four digits of a control character read as its code. -/
theorem readHex4?_control : ∀ n : Nat, n < 0x20 →
    readHex4? ['0', '0', hexDigit (n / 16), hexDigit (n % 16)] = some (n, []) := by
  decide

/-- The text of a character is read as one piece, and the piece stands for the character. -/
theorem exists_piece (c : Char) : ∃ p : Piece,
    (∀ cs, readPieces? (escapeChar c ++ cs) = (readPieces? cs).map fun r => (p :: r.1, r.2)) ∧
      ∀ ps, joinPieces? (p :: ps) = (joinPieces? ps).map (c :: ·) := by
  have hof (n : Nat) (h : c.toNat = n) : Char.ofNat n = c := by rw [← h, Char.ofNat_toNat]
  unfold escapeChar
  split_ifs with hq hb hc h8 h12 hn hr ht
  · subst hq
    exact ⟨.char '"', fun cs => by cases h : readPieces? cs <;> simp [readPieces?, escaped?, h],
      fun ps => rfl⟩
  · subst hb
    exact ⟨.char '\\', fun cs => by cases h : readPieces? cs <;> simp [readPieces?, escaped?, h],
      fun ps => rfl⟩
  · refine ⟨.char c, fun cs => ?_, fun ps => rfl⟩
    cases h : readPieces? cs with
    | none => simp [readPieces?, escaped?, h]
    | some r => simpa [readPieces?, escaped?, h] using hof 8 h8
  · refine ⟨.char c, fun cs => ?_, fun ps => rfl⟩
    cases h : readPieces? cs with
    | none => simp [readPieces?, escaped?, h]
    | some r => simpa [readPieces?, escaped?, h] using hof 12 h12
  · subst hn
    exact ⟨.char '\n', fun cs => by cases h : readPieces? cs <;> simp [readPieces?, escaped?, h],
      fun ps => rfl⟩
  · subst hr
    exact ⟨.char '\r', fun cs => by cases h : readPieces? cs <;> simp [readPieces?, escaped?, h],
      fun ps => rfl⟩
  · subst ht
    exact ⟨.char '\t', fun cs => by cases h : readPieces? cs <;> simp [readPieces?, escaped?, h],
      fun ps => rfl⟩
  · refine ⟨.unit c.toNat, fun cs => ?_, fun ps => ?_⟩
    · cases h : readPieces? cs <;> simp [readPieces?, readHex4?_control _ hc, h]
    · have h1 : ¬(0xD800 ≤ c.toNat ∧ c.toNat ≤ 0xDBFF) := by omega
      have h2 : ¬(0xDC00 ≤ c.toNat ∧ c.toNat ≤ 0xDFFF) := by omega
      conv =>
        lhs
        unfold joinPieces?
      simp only [if_neg h1, if_neg h2, Char.ofNat_toNat]
  · refine ⟨.char c, fun cs => ?_, fun ps => rfl⟩
    rw [List.singleton_append, readPieces?, if_neg hc]
    · cases readPieces? cs <;> rfl
    · exact hq
    · rintro _ _ _ _ _ rfl
      exact fun _ => hb rfl
    · rintro _ _ rfl
      exact fun _ => hb rfl

/-- The pieces of a written string make the string. -/
theorem exists_pieces (rest : List Char) : ∀ s : List Char, ∃ ps : List Piece,
    readPieces? (s.flatMap escapeChar ++ '"' :: rest) = some (ps, rest) ∧ joinPieces? ps = some s
  | [] => ⟨[], by simp [readPieces?], rfl⟩
  | c :: s => by
    obtain ⟨p, hread, hjoin⟩ := exists_piece c
    obtain ⟨ps, hps, hs⟩ := exists_pieces rest s
    refine ⟨p :: ps, ?_, ?_⟩
    · rw [List.flatMap_cons, List.append_assoc, hread, hps]
      rfl
    · rw [hjoin, hs]
      rfl

/-- A written string is read back after its opening quote. -/
theorem readString?_quote (s : String) (rest : List Char) :
    readString? (s.toList.flatMap escapeChar ++ '"' :: rest) = some (some s, rest) := by
  obtain ⟨ps, hps, hs⟩ := exists_pieces rest s.toList
  rw [readString?, hps]
  simp [hs]

/-! ## Trees -/

mutual

/-- The tree of a value. -/
def Value.tree : Value → Tree
  | .null => .null
  | .bool b => .bool b
  | .number n => .number (some n)
  | .string s => .string (some s)
  | .array items => .array (Value.trees items)
  | .object members => .object (Value.memberTrees members)

/-- The trees of items. -/
def Value.trees : List Value → List Tree
  | [] => []
  | v :: rest => v.tree :: Value.trees rest

/-- The trees of members. -/
def Value.memberTrees : List (String × Value) → List (Option String × Tree)
  | [] => []
  | (k, v) :: rest => (some k, v.tree) :: Value.memberTrees rest

end

mutual

/-- The tree of a value has that value, unless it is too deep. -/
theorem valueWithin?_tree {d : Nat} : ∀ v : Value, v.depth ≤ d → v.tree.valueWithin? d = some v
  | .null, _ => by rw [Value.tree, Tree.valueWithin?]
  | .bool b, _ => by rw [Value.tree, Tree.valueWithin?]
  | .number n, _ => by rw [Value.tree, Tree.valueWithin?, Option.map_some]
  | .string s, _ => by rw [Value.tree, Tree.valueWithin?, Option.map_some]
  | .array items, h => by
    rw [Value.depth] at h
    obtain ⟨e, rfl⟩ := Nat.exists_eq_add_of_le' (Nat.one_le_of_lt h)
    rw [Value.tree, Tree.valueWithin?, itemsWithin?_trees items (by omega), Option.map_some]
  | .object members, h => by
    rw [Value.depth] at h
    obtain ⟨e, rfl⟩ := Nat.exists_eq_add_of_le' (Nat.one_le_of_lt h)
    rw [Value.tree, Tree.valueWithin?, membersWithin?_memberTrees members (by omega),
      Option.map_some]

theorem itemsWithin?_trees {d : Nat} :
    ∀ vs : List Value, Value.depthOf vs ≤ d → Tree.itemsWithin? d (Value.trees vs) = some vs
  | [], _ => rfl
  | v :: rest, h => by
    rw [Value.depthOf, Nat.max_le] at h
    rw [Value.trees, Tree.itemsWithin?, valueWithin?_tree v h.1, itemsWithin?_trees rest h.2]
    rfl

theorem membersWithin?_memberTrees {d : Nat} :
    ∀ ms : List (String × Value), Value.memberDepth ms ≤ d →
      Tree.membersWithin? d (Value.memberTrees ms) = some ms
  | [], _ => rfl
  | (k, v) :: rest, h => by
    rw [Value.memberDepth, Nat.max_le] at h
    rw [Value.memberTrees, Tree.membersWithin?, valueWithin?_tree v h.1,
      membersWithin?_memberTrees rest h.2]
    rfl

end

/-! ## Reading -/

/-- White space is skipped up to a character that is none. -/
theorem skipSpace_append {w : List Char} (hw : ∀ c ∈ w, isSpace c = true) {c : Char}
    (hc : isSpace c = false) (cs : List Char) : skipSpace (w ++ c :: cs) = c :: cs := by
  rw [skipSpace, List.dropWhile_append_of_pos hw, List.dropWhile_cons_of_neg]
  rw [hc]
  exact Bool.false_ne_true

theorem skipSpace_cons {c : Char} (hc : isSpace c = false) (cs : List Char) :
    skipSpace (c :: cs) = c :: cs :=
  skipSpace_append (List.forall_mem_nil _) hc cs

/-- Whether a character may open a value that is no number. -/
def opensValue (c : Char) : Bool := ['"', '[', '\x7b', 't', 'f', 'n'].contains c

/-- Whether a character may open a value. -/
def startsValue (c : Char) : Bool := opensValue c || opensNumber c

theorem not_space_of_startsValue {c : Char} (h : startsValue c = true) : isSpace c = false := by
  rw [startsValue, Bool.or_eq_true] at h
  rcases h with h | h
  · simp only [opensValue, List.contains_eq_mem, List.mem_cons, List.not_mem_nil, or_false,
      decide_eq_true_eq] at h
    rcases h with rfl | rfl | rfl | rfl | rfl | rfl <;> rfl
  · rw [Bool.eq_false_iff]
    intro hspace
    simp only [isSpace, Bool.or_eq_true, beq_iff_eq] at hspace
    rcases hspace with ((rfl | rfl) | rfl) | rfl <;> exact absurd h (by decide)

/-- White space ends a number, and so does what stands after it. -/
theorem stopsNumber_append {w : List Char} (hw : ∀ c ∈ w, isSpace c = true) {c : Char}
    (hc : continuesNumber c = false) (cs : List Char) : StopsNumber (w ++ c :: cs) := by
  cases w with
  | nil => exact stopsNumber_cons hc cs
  | cons d w =>
    refine stopsNumber_cons ?_ _
    have hspace := hw d (List.mem_cons_self ..)
    simp only [isSpace, Bool.or_eq_true, beq_iff_eq] at hspace
    rcases hspace with ((rfl | rfl) | rfl) | rfl <;> rfl

/-- The first character of a value. -/
theorem exists_laid_eq_cons (l : Layout) (level : Nat) : ∀ v : Value,
    (∀ n ∈ v.numbers, n.ReadsBack) → ∃ c cs, v.laid l level = c :: cs ∧ startsValue c = true
  | .null, _ => ⟨'n', _, rfl, rfl⟩
  | .bool true, _ => ⟨'t', _, rfl, rfl⟩
  | .bool false, _ => ⟨'f', _, rfl, rfl⟩
  | .number n, h => by
    obtain ⟨t, hread, -⟩ := h n (List.mem_singleton_self n)
    obtain ⟨c, cs, hcs, hc⟩ := exists_opensNumber hread
    exact ⟨c, cs, hcs, by rw [startsValue, hc, Bool.or_true]⟩
  | .string _, _ => ⟨'"', _, rfl, rfl⟩
  | .array [], _ => ⟨'[', _, rfl, rfl⟩
  | .array (_ :: _), _ => ⟨'[', _, rfl, rfl⟩
  | .object [], _ => ⟨'\x7b', _, rfl, rfl⟩
  | .object ((_, _) :: _), _ => ⟨'\x7b', _, rfl, rfl⟩

/-- The white space before a value is skipped. -/
theorem skipSpace_laid (l : Layout) (level : Nat) {v : Value}
    (hv : ∀ n ∈ v.numbers, n.ReadsBack) {w : List Char} (hw : ∀ c ∈ w, isSpace c = true) (cs : List Char) :
    skipSpace (w ++ (v.laid l level ++ cs)) = v.laid l level ++ cs := by
  obtain ⟨c, ds, hds, hc⟩ := exists_laid_eq_cons l level v hv
  rw [hds, List.cons_append, skipSpace_append hw (not_space_of_startsValue hc)]

/-- No value starts like the end of a list. -/
theorem laid_append_ne_cons {l : Layout} {level : Nat} {v : Value}
    (hv : ∀ n ∈ v.numbers, n.ReadsBack) {c : Char} (hc : startsValue c = false)
    (cs ds : List Char) :
    v.laid l level ++ cs ≠ c :: ds := by
  intro h
  obtain ⟨d, es, hes, hd⟩ := exists_laid_eq_cons l level v hv
  rw [hes, List.cons_append, List.cons.injEq] at h
  rw [h.1, hc] at hd
  exact Bool.false_ne_true hd

/-- A number that is read back is read before what stops it. -/
theorem readTree?_number {n : Number} (h : n.ReadsBack) {rest : List Char}
    (hrest : StopsNumber rest) (fuel : Nat) :
    readTree? (fuel + 1) (n.render ++ rest) = some (.number (some n), rest) := by
  obtain ⟨t, hread, hvalue⟩ := h
  obtain ⟨c, cs, hcs, hc⟩ := exists_opensNumber hread
  have hwhole := readNumberText?_append hrest n.render
  rw [hread, Option.map_some, List.nil_append, hcs, List.cons_append] at hwhole
  have hne {d : Char} (hd : opensNumber d = false) : c ≠ d := by
    rintro rfl
    exact Bool.false_ne_true (hd.symm.trans hc)
  rw [hcs, List.cons_append, readTree?, if_neg (hne (by decide)), if_neg (hne (by decide)),
    if_neg (hne (by decide)), if_neg (hne (by decide)), if_neg (hne (by decide)),
    if_neg (hne (by decide)), hwhole]
  simp only [Option.bind_eq_bind, Option.bind_some, hvalue]
  rfl

mutual

/-- **The reader finds the tree of a value and leaves what follows it.** -/
theorem readTree?_laid (l : Layout) :
    ∀ (v : Value) (level fuel : Nat) (rest : List Char), (∀ n ∈ v.numbers, n.ReadsBack) →
      StopsNumber rest → 2 * (v.laid l level).length ≤ fuel →
      readTree? fuel (v.laid l level ++ rest) = some (v.tree, rest)
  | .null, level, 0, rest, _, _, hf => by simp [Value.laid, Value.chars] at hf
  | .null, level, fuel + 1, rest, _, _, _ => by
    simp [Value.laid, Value.chars, readTree?, readWord?, Value.tree]
  | .bool true, level, 0, rest, _, _, hf => by simp [Value.laid, Value.chars] at hf
  | .bool true, level, fuel + 1, rest, _, _, _ => by
    simp [Value.laid, Value.chars, readTree?, readWord?, Value.tree]
  | .bool false, level, 0, rest, _, _, hf => by simp [Value.laid, Value.chars] at hf
  | .bool false, level, fuel + 1, rest, _, _, _ => by
    simp [Value.laid, Value.chars, readTree?, readWord?, Value.tree]
  | .number n, level, 0, rest, h, _, hf => by
    obtain ⟨c, cs, hcs, -⟩ := exists_laid_eq_cons l level (.number n) h
    rw [hcs, List.length_cons] at hf
    omega
  | .number n, level, fuel + 1, rest, h, hrest, _ =>
    readTree?_number (h n (List.mem_singleton_self n)) hrest fuel
  | .string s, level, 0, rest, _, _, hf => by simp [Value.laid, Value.chars, quote] at hf
  | .string s, level, fuel + 1, rest, _, _, _ => by
    simp [Value.laid, Value.chars, quote, readTree?, readString?_quote, Value.tree]
  | .array [], level, 0, rest, _, _, hf => by simp [Value.laid, Value.chars] at hf
  | .array [], level, fuel + 1, rest, _, _, _ => by
    simp [Value.laid, Value.chars, readTree?, skipSpace, isSpace, Value.tree, Value.trees]
  | .array (v :: vs), level, 0, rest, _, _, hf => by simp [Value.laid] at hf
  | .array (v :: vs), level, fuel + 1, rest, h, _, hf => by
    rw [Value.numbers, Value.numbersOf, List.forall_mem_append] at h
    rw [Value.laid, List.cons_append, List.length_cons, List.length_append] at hf
    have hskip := skipSpace_laid l (level + 1) h.1 (l.gap_blank (level + 1))
      (Value.laidItems l level vs ++ rest)
    have hitems := readItems?_laid l v vs level fuel rest h.1 h.2 (by omega)
    rw [List.append_assoc] at hitems
    rw [Value.laid, List.cons_append, List.cons_append, readTree?, if_neg (by decide),
      if_pos rfl, List.append_assoc, List.append_assoc, hskip]
    split
    · next hclose => exact absurd hclose (laid_append_ne_cons h.1 (by decide) _ _)
    · rw [hitems]
      rfl
  | .object [], level, 0, rest, _, _, hf => by simp [Value.laid, Value.chars] at hf
  | .object [], level, fuel + 1, rest, _, _, _ => by
    simp [Value.laid, Value.chars, readTree?, skipSpace, isSpace, Value.tree, Value.memberTrees]
  | .object ((k, v) :: ms), level, 0, rest, _, _, hf => by simp [Value.laid] at hf
  | .object ((k, v) :: ms), level, fuel + 1, rest, h, _, hf => by
    rw [Value.numbers, Value.memberNumbers, List.forall_mem_append] at h
    rw [Value.laid, List.cons_append, List.length_cons, List.length_append] at hf
    have hmembers := readMembers?_laid l k v ms level fuel rest h.1 h.2 (by omega)
    rw [Value.laid, List.cons_append, List.cons_append, readTree?, if_neg (by decide),
      if_neg (by decide), if_pos rfl, List.append_assoc]
    simp only [quote, List.cons_append, List.append_assoc] at hmembers ⊢
    rw [skipSpace_append (l.gap_blank (level + 1)) (by rfl)]
    split
    · next hclose => exact absurd (List.cons.inj hclose).1 (by decide)
    · rw [hmembers]
      rfl

theorem readItems?_laid (l : Layout) :
    ∀ (v : Value) (vs : List Value) (level fuel : Nat) (rest : List Char),
      (∀ n ∈ v.numbers, n.ReadsBack) → (∀ n ∈ Value.numbersOf vs, n.ReadsBack) →
      2 * (v.laid l (level + 1) ++ Value.laidItems l level vs).length ≤ fuel →
      readItems? fuel (v.laid l (level + 1) ++ Value.laidItems l level vs ++ rest) =
        some (Value.trees (v :: vs), rest)
  | v, _, level, 0, rest, hv, _, hf => by
    obtain ⟨c, cs, hcs, -⟩ := exists_laid_eq_cons l (level + 1) v hv
    simp [hcs] at hf
  | v, [], level, fuel + 1, rest, hv, _, hf => by
    rw [Value.laidItems, List.length_append, List.length_append, List.length_singleton] at hf
    have hitem := readTree?_laid l v (level + 1) fuel (l.gap level ++ ']' :: rest) hv
      (stopsNumber_append (l.gap_blank level) rfl rest) (by omega)
    have hskip : skipSpace (l.gap level ++ ']' :: rest) = ']' :: rest :=
      skipSpace_append (l.gap_blank level) rfl rest
    rw [Value.laidItems, List.append_assoc, List.append_assoc, List.singleton_append, readItems?,
      hitem]
    simp only [Option.bind_eq_bind, Option.bind_some, hskip]
    rfl
  | v, w :: ws, level, fuel + 1, rest, hv, hvs, hf => by
    rw [Value.numbersOf, List.forall_mem_append] at hvs
    rw [Value.laidItems, List.length_append, List.cons_append, List.length_cons,
      List.length_append] at hf
    have hitem := readTree?_laid l v (level + 1) fuel
      (',' :: (l.gap (level + 1) ++
        (w.laid l (level + 1) ++ (Value.laidItems l level ws ++ rest)))) hv
      (stopsNumber_cons rfl _) (by omega)
    have hskip := skipSpace_laid l (level + 1) hvs.1 (l.gap_blank (level + 1))
      (Value.laidItems l level ws ++ rest)
    have hrest := readItems?_laid l w ws level fuel rest hvs.1 hvs.2 (by omega)
    rw [List.append_assoc] at hrest
    rw [Value.laidItems]
    simp only [List.append_assoc, List.cons_append]
    rw [readItems?, hitem]
    simp only [Option.bind_eq_bind, Option.bind_some]
    rw [skipSpace_cons rfl]
    simp only [hskip, hrest, Option.bind_some]
    rfl

theorem readMembers?_laid (l : Layout) :
    ∀ (k : String) (v : Value) (ms : List (String × Value)) (level fuel : Nat)
      (rest : List Char), (∀ n ∈ v.numbers, n.ReadsBack) →
      (∀ n ∈ Value.memberNumbers ms, n.ReadsBack) →
      2 * (quote k ++ ':' :: l.afterColon ++
        (v.laid l (level + 1) ++ Value.laidMembers l level ms)).length ≤ fuel →
      readMembers? fuel (quote k ++ ':' :: l.afterColon ++
          (v.laid l (level + 1) ++ Value.laidMembers l level ms) ++ rest) =
        some (Value.memberTrees ((k, v) :: ms), rest)
  | k, v, _, level, 0, rest, hv, _, hf => by
    simp [quote] at hf
  | k, v, [], level, fuel + 1, rest, hv, _, hf => by
    have hitem := readTree?_laid l v (level + 1) fuel (l.gap level ++ '\x7d' :: rest) hv
      (stopsNumber_append (l.gap_blank level) rfl rest) (by
        simp only [List.length_append, List.length_cons] at hf
        omega)
    have hskip : skipSpace (l.gap level ++ '\x7d' :: rest) = '\x7d' :: rest :=
      skipSpace_append (l.gap_blank level) rfl rest
    rw [Value.laidMembers]
    simp only [quote, List.append_assoc, List.cons_append, List.nil_append]
    rw [readMembers?]
    simp only [readString?_quote, Option.bind_eq_bind, Option.bind_some]
    rw [skipSpace_cons rfl]
    simp only [skipSpace_laid l (level + 1) hv l.afterColon_blank, hitem, hskip, Option.bind_some]
    rfl
  | k, v, (n, w) :: ms, level, fuel + 1, rest, hv, hms, hf => by
    rw [Value.memberNumbers, List.forall_mem_append] at hms
    rw [Value.laidMembers] at hf
    simp only [List.length_append, List.length_cons] at hf
    have hitem := readTree?_laid l v (level + 1) fuel
      (Value.laidMembers l level ((n, w) :: ms) ++ rest) hv (stopsNumber_cons rfl _) (by omega)
    have hrest := readMembers?_laid l n w ms level fuel rest hms.1 hms.2 (by
      simp only [List.length_append, List.length_cons]
      omega)
    rw [Value.laidMembers] at hitem ⊢
    simp only [quote, List.append_assoc, List.cons_append, List.nil_append] at hitem hrest ⊢
    rw [readMembers?]
    simp only [readString?_quote, Option.bind_eq_bind, Option.bind_some]
    rw [skipSpace_cons rfl]
    simp only [skipSpace_laid l (level + 1) hv l.afterColon_blank, hitem, Option.bind_some]
    rw [skipSpace_cons rfl]
    have hskip (cs : List Char) : skipSpace (l.gap (level + 1) ++ '"' :: cs) = '"' :: cs :=
      skipSpace_append (l.gap_blank (level + 1)) rfl cs
    simp only [hskip, hrest, Option.bind_some]
    rfl

end

/-! ## Whole texts -/

/-- **A value in a layout is read back when its numbers are.** -/
theorem ofText?_laid (l : Layout) {v : Value} (hv : ∀ n ∈ v.numbers, n.ReadsBack)
    (hdepth : v.depth ≤ maxDepth) : Value.ofText? (.ofList (v.laid l 0)) = some v := by
  obtain ⟨c, cs, hcs, hc⟩ := exists_laid_eq_cons l 0 v hv
  have hread := readTree?_laid l v 0 (2 * (v.laid l 0).length + 2) [] hv stopsNumber_nil (by omega)
  have hskip := skipSpace_laid l 0 hv (List.forall_mem_nil _) []
  rw [List.append_nil] at hread
  rw [List.nil_append, List.append_nil] at hskip
  rw [Value.ofText?, Tree.ofText?, String.toList_ofList]
  simp only [hskip, hread]
  exact valueWithin?_tree v hdepth

/-- A value without numbers is read back when it is written without white space. -/
theorem ofText?_compact {v : Value} (hv : v.numberless = true) (hdepth : v.depth ≤ maxDepth) :
    Value.ofText? v.compact = some v := by
  rw [Value.compact, chars_eq_laid 0]
  exact ofText?_laid .compact (fun n hn => (v.numberless_iff.1 hv n hn).elim) hdepth

/-- A value without numbers is read back when it is written with one item or member on a line. -/
theorem ofText?_pretty {v : Value} (hv : v.numberless = true) (hdepth : v.depth ≤ maxDepth) :
    Value.ofText? v.pretty = some v := by
  rw [Value.pretty, prettyChars_eq_laid]
  exact ofText?_laid .pretty (fun n hn => (v.numberless_iff.1 hv n hn).elim) hdepth

end PageGuard.Json
