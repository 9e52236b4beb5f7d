import PageGuard.Text.Ascii
import PageGuard.Text.Search
import Mathlib.Data.List.Basic

/-!
# Texts as bytes

A position in the UTF-8 form of a text is the start of a character, the end of the text, or inside a
character of more than one byte.  The bytes of such a character are all outside ASCII, so that a
search for ASCII characters among the bytes finds what it finds among the characters.

* `utf8`: the bytes of a text; `utf8_toList`: they are those of the string.
* `leadByte_eq_iff`, `le_of_mem_tail`: a byte in ASCII is a whole character.
* `findIdx_utf8`, `nextByte_eq`: a search for ASCII characters.
* `splitAtByte?_eq_some_iff`, `isSome_splitAtByte?_iff`: a text is cut at the positions between its
  characters, and nowhere else.
* `slice?_eq_some_iff`: which slices there are.
* `eq_at_end_of_char`: what passes over bytes outside ASCII comes to the next character.
-/

namespace PageGuard.Text

/-! ## Bytes -/

/-- The bytes of the UTF-8 form of a text. -/
def utf8 (cs : List Char) : List UInt8 := cs.flatMap String.utf8EncodeChar

@[simp] theorem utf8_nil : utf8 [] = [] := rfl

@[simp] theorem utf8_cons (c : Char) (cs : List Char) :
    utf8 (c :: cs) = String.utf8EncodeChar c ++ utf8 cs := rfl

@[simp] theorem utf8_append (a b : List Char) : utf8 (a ++ b) = utf8 a ++ utf8 b :=
  List.flatMap_append

@[simp] theorem length_utf8 (cs : List Char) : (utf8 cs).length = byteLength cs := by
  induction cs with
  | nil => rfl
  | cons c cs ih => rw [utf8_cons, List.length_append, String.length_utf8EncodeChar, ih,
      byteLength_cons]

/-- The bytes of a text are the bytes of the string. -/
theorem utf8_toList (s : String) : utf8 s.toList = s.toByteArray.data.toList := by
  conv_rhs => rw [← String.ofList_toList (s := s), String.toByteArray_ofList]
  simp [utf8, List.utf8Encode]

theorem byteLength_toList (s : String) : byteLength s.toList = s.utf8ByteSize := by
  rw [← length_utf8, utf8_toList, Array.length_toList]
  rfl

/-! ## ASCII among the bytes -/

theorem utf8EncodeChar_of_isAscii {c : Char} (h : isAscii c = true) :
    String.utf8EncodeChar c = [c.toUInt8] := by
  apply String.utf8EncodeChar_eq_singleton
  rw [Char.utf8Size_eq_one_iff, UInt32.le_iff_toNat_le]
  have hlt : c.toNat < 128 := by simpa [isAscii] using h
  exact Nat.le_of_lt_succ hlt

theorem utf8Size_of_isAscii {c : Char} (h : isAscii c = true) : c.utf8Size = 1 := by
  rw [← String.length_utf8EncodeChar, utf8EncodeChar_of_isAscii h, List.length_singleton]

/-- **The bytes of a character outside ASCII are outside ASCII.** -/
theorem le_of_mem_utf8EncodeChar {c : Char} (h : isAscii c = false) {b : UInt8}
    (hb : b ∈ String.utf8EncodeChar c) : 128 ≤ b := by
  have hor (x : UInt8) {y : UInt8} (hy : 128 ≤ y) : 128 ≤ x ||| y := by
    rw [UInt8.le_iff_toNat_le] at hy ⊢
    rw [UInt8.toNat_or]
    exact Nat.le_trans hy Nat.right_le_or
  rcases Char.utf8Size_eq c with hsize | hsize | hsize | hsize
  · rw [Char.utf8Size_eq_one_iff, UInt32.le_iff_toNat_le] at hsize
    have hge : 128 ≤ c.toNat := by simpa [isAscii] using h
    exact absurd (Nat.lt_succ_of_le hsize) (Nat.not_lt.2 hge)
  · rw [String.utf8EncodeChar_eq_cons_cons hsize] at hb
    simp only [List.mem_cons, List.not_mem_nil, or_false] at hb
    rcases hb with rfl | rfl <;> exact hor _ (by decide)
  · rw [String.utf8EncodeChar_eq_cons_cons_cons hsize] at hb
    simp only [List.mem_cons, List.not_mem_nil, or_false] at hb
    rcases hb with rfl | rfl | rfl <;> exact hor _ (by decide)
  · rw [String.utf8EncodeChar_eq_cons_cons_cons_cons hsize] at hb
    simp only [List.mem_cons, List.not_mem_nil, or_false] at hb
    rcases hb with rfl | rfl | rfl | rfl <;> exact hor _ (by decide)

/-- The byte of an ASCII character. -/
theorem toNat_toUInt8 {c : Char} (h : isAscii c = true) : c.toUInt8.toNat = c.toNat := by
  have hlt : c.toNat < 128 := by simpa [isAscii] using h
  simp only [Char.toUInt8, UInt32.toNat_toUInt8]
  exact Nat.mod_eq_of_lt (by omega : c.toNat < 256)

/-- The first byte of a character. -/
def leadByte (c : Char) : UInt8 :=
  (String.utf8EncodeChar c).head String.utf8EncodeChar_ne_nil

/-- The last byte of a character. -/
def lastByte (c : Char) : UInt8 :=
  (String.utf8EncodeChar c).getLast String.utf8EncodeChar_ne_nil

theorem leadByte_of_isAscii {c : Char} (h : isAscii c = true) : leadByte c = c.toUInt8 := by
  simp [leadByte, utf8EncodeChar_of_isAscii h]

theorem lastByte_of_isAscii {c : Char} (h : isAscii c = true) : lastByte c = c.toUInt8 := by
  simp [lastByte, utf8EncodeChar_of_isAscii h]

theorem le_leadByte {c : Char} (h : isAscii c = false) : 128 ≤ leadByte c :=
  le_of_mem_utf8EncodeChar h (List.head_mem _)

theorem le_lastByte {c : Char} (h : isAscii c = false) : 128 ≤ lastByte c :=
  le_of_mem_utf8EncodeChar h (List.getLast_mem _)

/-- A byte of ASCII is less than any other byte. -/
theorem toUInt8_lt {c : Char} (h : isAscii c = true) : c.toUInt8 < 128 := by
  have hlt : c.toNat < 128 := by simpa [isAscii] using h
  rw [UInt8.lt_iff_toNat_lt, toNat_toUInt8 h]
  exact hlt

theorem ne_toUInt8_of_le {b : UInt8} {c : Char} (h : isAscii c = true) (hb : 128 ≤ b) :
    b ≠ c.toUInt8 := by
  rintro rfl
  exact absurd (toUInt8_lt h) (UInt8.not_lt.2 hb)

theorem toUInt8_inj {c d : Char} (hc : isAscii c = true) (hd : isAscii d = true) :
    c.toUInt8 = d.toUInt8 ↔ c = d := by
  rw [← UInt8.toNat_inj, toNat_toUInt8 hc, toNat_toUInt8 hd, Char.toNat_inj]

/-- **The first byte of a character tells whether it is a given one of ASCII.** -/
theorem leadByte_eq_iff {c d : Char} (hd : isAscii d = true) :
    leadByte c = d.toUInt8 ↔ c = d := by
  by_cases hc : isAscii c = true
  · rw [leadByte_of_isAscii hc, toUInt8_inj hc hd]
  · refine iff_of_false (ne_toUInt8_of_le hd (le_leadByte (Bool.eq_false_iff.2 hc))) ?_
    rintro rfl
    exact hc hd

/-- So does its last byte. -/
theorem lastByte_eq_iff {c d : Char} (hd : isAscii d = true) :
    lastByte c = d.toUInt8 ↔ c = d := by
  by_cases hc : isAscii c = true
  · rw [lastByte_of_isAscii hc, toUInt8_inj hc hd]
  · refine iff_of_false (ne_toUInt8_of_le hd (le_lastByte (Bool.eq_false_iff.2 hc))) ?_
    rintro rfl
    exact hc hd

/-- The bytes of a character after its first one are outside ASCII. -/
theorem le_of_mem_tail {c : Char} {b : UInt8} (hb : b ∈ (String.utf8EncodeChar c).tail) :
    128 ≤ b := by
  by_cases hc : isAscii c = true
  · simp [utf8EncodeChar_of_isAscii hc] at hb
  · exact le_of_mem_utf8EncodeChar (Bool.eq_false_iff.2 hc) (List.mem_of_mem_tail hb)

/-! ## Bytes by their position -/

section Position

variable {text pre rest : List Char} {c : Char}

/-- At the start of a character there is its first byte. -/
theorem getElem?_utf8 (htext : text = pre ++ c :: rest) :
    (utf8 text)[byteLength pre]? = some (leadByte c) := by
  have hhead : String.utf8EncodeChar c = leadByte c :: (String.utf8EncodeChar c).tail :=
    (List.cons_head_tail _).symm
  rw [htext, utf8_append, utf8_cons, ← length_utf8, List.getElem?_append_right (Nat.le_refl _),
    Nat.sub_self, hhead]
  rfl

/-- Before the end of a character there is its last byte. -/
theorem getElem?_utf8_last (htext : text = pre ++ c :: rest) :
    (utf8 text)[byteLength (pre ++ [c]) - 1]? = some (lastByte c) := by
  have hpos : 0 < c.utf8Size := c.utf8Size_pos
  have hplace : byteLength (pre ++ [c]) - 1 = (utf8 pre).length + (c.utf8Size - 1) := by
    rw [byteLength_append, byteLength_cons, byteLength_nil, length_utf8]
    omega
  rw [htext, utf8_append, utf8_cons, hplace, List.getElem?_append_right (Nat.le_add_right ..),
    Nat.add_sub_cancel_left, List.getElem?_append_left, lastByte,
    ← String.length_utf8EncodeChar, ← List.getLast?_eq_getElem?, List.getLast?_eq_some_getLast]
  rw [String.length_utf8EncodeChar]
  omega

/-- **What passes over bytes outside ASCII comes from inside a character to its end.** -/
theorem eq_at_end_of_char {α : Type} (htext : text = pre ++ c :: rest) (f : Nat → α)
    (hskip : ∀ i b, (utf8 text)[i]? = some b → 128 ≤ b → f i = f (i + 1)) :
    f (byteLength pre + 1) = f (byteLength (pre ++ [c])) := by
  have hsize : byteLength (pre ++ [c]) = byteLength pre + c.utf8Size := by
    rw [byteLength_append, byteLength_cons, byteLength_nil, Nat.add_zero]
  -- The first byte is any; the ones after it are passed over one by one.
  have hpass (k : Nat) (hk : k + 1 ≤ c.utf8Size) :
      f (byteLength pre + 1) = f (byteLength pre + (k + 1)) := by
    induction k with
    | zero => rfl
    | succ k ih =>
      rw [ih (by omega)]
      have hlt : k < (String.utf8EncodeChar c).tail.length := by
        rw [List.length_tail, String.length_utf8EncodeChar]
        omega
      refine hskip _ _ ?_ (le_of_mem_tail (List.getElem_mem hlt))
      rw [htext, utf8_append, utf8_cons, ← length_utf8,
        List.getElem?_append_right (Nat.le_add_right ..), Nat.add_sub_cancel_left,
        List.getElem?_append_left, ← List.getElem?_tail, List.getElem?_eq_getElem hlt]
      rw [String.length_utf8EncodeChar]
      omega
  have hpos : 0 < c.utf8Size := c.utf8Size_pos
  rw [hsize, hpass (c.utf8Size - 1) (by omega)]
  congr 2
  omega

end Position

/-! ## Searching -/

/-- Whether a byte is one of these characters. -/
def isByteOf (stops : List Char) (b : UInt8) : Bool := stops.any fun c => b == c.toUInt8

/-- The first position from `i` on of one of these characters, or the end. -/
def nextByte (stops : List Char) (bytes : List UInt8) (i : Nat) : Nat :=
  i + (bytes.drop i).findIdx (isByteOf stops)

theorem isByteOf_leadByte {stops : List Char} (hstops : stops.all isAscii = true) (c : Char) :
    isByteOf stops (leadByte c) = decide (c ∈ stops) := by
  rw [Bool.eq_iff_iff, decide_eq_true_iff, isByteOf, List.any_eq_true]
  constructor
  · rintro ⟨d, hd, heq⟩
    rw [beq_iff_eq, leadByte_eq_iff (List.all_eq_true.1 hstops d hd)] at heq
    exact heq ▸ hd
  · intro hc
    exact ⟨c, hc, beq_iff_eq.2 ((leadByte_eq_iff (List.all_eq_true.1 hstops c hc)).2 rfl)⟩

theorem isByteOf_of_le {stops : List Char} (hstops : stops.all isAscii = true) {b : UInt8}
    (hb : 128 ≤ b) : isByteOf stops b = false := by
  rw [isByteOf, List.any_eq_false]
  intro d hd
  rw [beq_iff_eq]
  exact ne_toUInt8_of_le (List.all_eq_true.1 hstops d hd) hb

/-- **A search among the bytes stops where a search among the characters does.** -/
theorem findIdx_utf8 {stops : List Char} (hstops : stops.all isAscii = true) (cs : List Char) :
    (utf8 cs).findIdx (isByteOf stops) = byteLength (cs.takeWhile fun c => decide (c ∉ stops)) := by
  induction cs with
  | nil => rfl
  | cons c cs ih =>
    by_cases hc : c ∈ stops
    · have hbyte : isByteOf stops c.toUInt8 = true := by
        rw [← leadByte_of_isAscii (List.all_eq_true.1 hstops c hc), isByteOf_leadByte hstops,
          decide_eq_true hc]
      rw [utf8_cons, utf8EncodeChar_of_isAscii (List.all_eq_true.1 hstops c hc),
        List.singleton_append, List.findIdx_cons, hbyte,
        List.takeWhile_cons_of_neg (by simpa using hc)]
      rfl
    · have hnone : ∀ b ∈ String.utf8EncodeChar c, isByteOf stops b = false := by
        rw [← List.cons_head_tail String.utf8EncodeChar_ne_nil, List.forall_mem_cons]
        exact ⟨(isByteOf_leadByte hstops c).trans (decide_eq_false hc),
          fun b hb => isByteOf_of_le hstops (le_of_mem_tail hb)⟩
      have hpass : ¬ (String.utf8EncodeChar c).findIdx (isByteOf stops) <
          (String.utf8EncodeChar c).length := by
        rw [List.findIdx_lt_length]
        rintro ⟨b, hb, htrue⟩
        rw [hnone b hb] at htrue
        cases htrue
      rw [utf8_cons, List.findIdx_append, if_neg hpass, ih, String.length_utf8EncodeChar,
        List.takeWhile_cons_of_pos (by simpa using hc), byteLength_cons, Nat.add_comm]

theorem nextByte_eq {stops : List Char} (hstops : stops.all isAscii = true)
    {text pre rest : List Char} (htext : text = pre ++ rest) :
    nextByte stops (utf8 text) (byteLength pre) =
      byteLength (pre ++ rest.takeWhile fun c => decide (c ∉ stops)) := by
  rw [nextByte, htext, utf8_append, List.drop_left' (length_utf8 pre), findIdx_utf8 hstops,
    byteLength_append]

/-- The byte of an ASCII character is at a position exactly when the character is. -/
theorem getElem?_utf8_eq_some_iff {text pre rest : List Char} (htext : text = pre ++ rest)
    {c : Char} (hc : isAscii c = true) :
    (utf8 text)[byteLength pre]? = some c.toUInt8 ↔ rest.head? = some c := by
  cases rest with
  | nil =>
    rw [htext, List.append_nil, List.getElem?_eq_none (Nat.le_of_eq (length_utf8 pre))]
    simp
  | cons d rest =>
    rw [getElem?_utf8 htext, Option.some.injEq, leadByte_eq_iff hc]
    simp

/-! ## Slices -/

/-- The text before and after a byte position; absent when the position is inside a character or
past the end. -/
def splitAtByte? : Nat → List Char → Option (List Char × List Char)
  | 0, cs => some ([], cs)
  | _ + 1, [] => none
  | n + 1, c :: cs =>
    if c.utf8Size ≤ n + 1 then
      (splitAtByte? (n + 1 - c.utf8Size) cs).map fun p => (c :: p.1, p.2)
    else none

/-- **A text is cut at a byte position exactly when it falls into two texts there.** -/
theorem splitAtByte?_eq_some_iff {n : Nat} {cs a b : List Char} :
    splitAtByte? n cs = some (a, b) ↔ cs = a ++ b ∧ n = byteLength a := by
  induction cs generalizing n a with
  | nil =>
    cases n with
    | zero =>
      constructor
      · intro h
        obtain ⟨rfl, rfl⟩ := Prod.mk.inj (Option.some.inj h)
        exact ⟨rfl, rfl⟩
      · rintro ⟨h, -⟩
        obtain ⟨rfl, rfl⟩ := List.append_eq_nil_iff.1 h.symm
        rfl
    | succ n =>
      constructor
      · intro h
        cases h
      · rintro ⟨h, hn⟩
        obtain ⟨rfl, rfl⟩ := List.append_eq_nil_iff.1 h.symm
        cases hn
  | cons c cs ih =>
    have hpos : 0 < c.utf8Size := c.utf8Size_pos
    cases n with
    | zero =>
      constructor
      · intro h
        obtain ⟨rfl, rfl⟩ := Prod.mk.inj (Option.some.inj h)
        exact ⟨rfl, rfl⟩
      · rintro ⟨h, hn⟩
        cases a with
        | nil => rw [h, List.nil_append, splitAtByte?]
        | cons d a =>
          have := d.utf8Size_pos
          rw [byteLength_cons] at hn
          omega
    | succ n =>
      rw [splitAtByte?]
      constructor
      · intro h
        split_ifs at h with hle
        obtain ⟨⟨a', b'⟩, hsplit, hpair⟩ := Option.map_eq_some_iff.1 h
        obtain ⟨rfl, rfl⟩ := Prod.mk.inj hpair
        obtain ⟨rfl, hn⟩ := ih.1 hsplit
        refine ⟨rfl, ?_⟩
        rw [byteLength_cons, ← hn]
        omega
      · rintro ⟨h, hn⟩
        cases a with
        | nil => cases hn
        | cons d a =>
          obtain ⟨rfl, rfl⟩ := List.cons.inj h
          rw [byteLength_cons] at hn
          rw [if_pos (by omega), ih.2 ⟨rfl, (by omega : _ = byteLength a)⟩]
          rfl

/-- The positions at which a text is cut are the valid ones of the string. -/
theorem isSome_splitAtByte?_iff {n : Nat} {s : String} :
    (splitAtByte? n s.toList).isSome ↔ String.Pos.Raw.IsValid s ⟨n⟩ := by
  rw [String.Pos.Raw.isValid_iff_exists_append, Option.isSome_iff_exists]
  constructor
  · rintro ⟨⟨a, b⟩, h⟩
    obtain ⟨htext, rfl⟩ := splitAtByte?_eq_some_iff.1 h
    refine ⟨.ofList a, .ofList b, ?_, ?_⟩
    · rw [← String.ofList_append, ← htext, String.ofList_toList]
    · rw [String.Pos.Raw.ext_iff, String.byteIdx_rawEndPos, ← byteLength_toList,
        String.toList_ofList]
  · rintro ⟨a, b, rfl, hend⟩
    refine ⟨(a.toList, b.toList), splitAtByte?_eq_some_iff.2 ⟨String.toList_append, ?_⟩⟩
    rw [byteLength_toList]
    exact congrArg String.Pos.Raw.byteIdx hend

/-- The text between two byte positions; absent unless they are in order and none of them is inside
a character or past the end. -/
def slice? (start stop : Nat) (cs : List Char) : Option (List Char) :=
  if start ≤ stop then do
    let (_, rest) ← splitAtByte? start cs
    let (part, _) ← splitAtByte? (stop - start) rest
    some part
  else none

/-- **The slices of a text are the parts of it between two cuts.** -/
theorem slice?_eq_some_iff {start stop : Nat} {cs part : List Char} :
    slice? start stop cs = some part ↔
      ∃ pre post, cs = pre ++ (part ++ post) ∧ start = byteLength pre ∧
        stop = byteLength (pre ++ part) := by
  rw [slice?]
  constructor
  · intro h
    split_ifs at h with hle
    obtain ⟨⟨pre, rest⟩, hpre, h⟩ := Option.bind_eq_some_iff.1 h
    obtain ⟨⟨part', post⟩, hpart, h⟩ := Option.bind_eq_some_iff.1 h
    obtain rfl := Option.some.inj h
    obtain ⟨rfl, rfl⟩ := splitAtByte?_eq_some_iff.1 hpre
    obtain ⟨rfl, hstop⟩ := splitAtByte?_eq_some_iff.1 hpart
    refine ⟨pre, post, rfl, rfl, ?_⟩
    rw [byteLength_append]
    omega
  · rintro ⟨pre, post, rfl, rfl, rfl⟩
    rw [byteLength_append, if_pos (Nat.le_add_right ..), Nat.add_sub_cancel_left,
      splitAtByte?_eq_some_iff.2 ⟨rfl, rfl⟩]
    dsimp only [bind, Option.bind]
    rw [splitAtByte?_eq_some_iff.2 ⟨rfl, rfl⟩]

end PageGuard.Text
