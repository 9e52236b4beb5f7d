import PageGuard.Text.Ascii
import PageGuard.Text.CaseTable

/-!
# Unicode case

Lower-casing of whole texts and the equivalence of characters under simple case folding.

A character goes to its simple lower case, with two exceptions: the capital I with a dot becomes
two characters, and a capital sigma takes its final form at the end of a word.
-/

namespace PageGuard.Text

/-- A character with the property `Cased`. -/
def isCased (c : Char) : Bool := inRanges casedRanges c.toNat

/-- A character with the property `Case_Ignorable`. -/
def isCaseIgnorable (c : Char) : Bool := inRanges caseIgnorableRanges c.toNat

/-- The simple lower case of a character. -/
def simpleLower (c : Char) : Char :=
  if isAscii c then asciiLower c else Char.ofNat (shifted lowerShifts c.toNat)

/-- Whether the first character that matters for case is a cased one. -/
def startsCased (cs : List Char) : Bool :=
  match cs.dropWhile isCaseIgnorable with
  | [] => false
  | c :: _ => isCased c

/-- The lower case of a text that follows the characters `before`, which are in reverse order. -/
def lowercaseAfter (before : List Char) : List Char → List Char
  | [] => []
  | c :: rest =>
    let lower :=
      if c = 'Σ' then [if startsCased before && !startsCased rest then 'ς' else 'σ']
      else if c = 'İ' then ['i', Char.ofNat 0x307]
      else [simpleLower c]
    lower ++ lowercaseAfter (c :: before) rest

/-- The full Unicode lower case of a text. -/
def lowercase (cs : List Char) : List Char := lowercaseAfter [] cs

/-- The full Unicode lower case of a string. -/
def lowercased (s : String) : String := .ofList (lowercase s.toList)

/-- The simple case folding of a character. -/
def simpleFold (c : Char) : Char :=
  if isAscii c then asciiLower c else Char.ofNat (shifted foldShifts c.toNat)

/-- All characters with the same simple case folding as `c`. -/
def caseVariants (c : Char) : List Char :=
  let f := simpleFold c
  f :: (foldShifts.toList.filterMap fun s => (s.source? f.toNat).map Char.ofNat)

end PageGuard.Text
