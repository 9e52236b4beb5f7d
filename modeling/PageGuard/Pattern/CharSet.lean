import PageGuard.Text.Blank
import PageGuard.Text.Lowercase
import PageGuard.Text.WordTable

/-!
# Sets of characters

The sets that the atoms and brackets of a pattern describe, with their operations and with the
closure under case.
-/

namespace PageGuard.Pattern

open Text

/-- A set of characters. -/
inductive CharSet where
  | none
  /-- The characters from `lo` to `hi`. -/
  | range (lo hi : Char)
  /-- Word characters. -/
  | word
  /-- Decimal digits of any script. -/
  | digit
  /-- Blanks. -/
  | space
  | union (a b : CharSet)
  | inter (a b : CharSet)
  | diff (a b : CharSet)
  | symDiff (a b : CharSet)
  | compl (a : CharSet)
  /-- The characters with a case variant in the set. -/
  | folded (a : CharSet)
deriving DecidableEq, Inhabited

namespace CharSet

/-- The case variants of a character.  The four that ASCII letters have outside ASCII belong to
`k` and `s`. -/
def variants (c : Char) : List Char :=
  if isAscii c then
    let l := asciiLower c
    if isAsciiLetter c then
      let upper := Char.ofNat (l.toNat - 32)
      if l = 'k' then [l, upper, Char.ofNat 0x212A]
      else if l = 's' then [l, upper, Char.ofNat 0x17F]
      else [l, upper]
    else [c]
  else caseVariants c

/-- Whether a character belongs to a set. -/
def mem : CharSet → Char → Bool
  | none, _ => false
  | range lo hi, c => lo ≤ c && c ≤ hi
  | word, c => if isAscii c then isAsciiAlnum c || c == '_' else isWordChar c
  | digit, c => if isAscii c then isAsciiDigit c else isDecimalDigit c
  | space, c => isBlank c
  | union a b, c => a.mem c || b.mem c
  | inter a b, c => a.mem c && b.mem c
  | diff a b, c => a.mem c && !b.mem c
  | symDiff a b, c => xor (a.mem c) (b.mem c)
  | compl a, c => !a.mem c
  | folded a, c => (variants c).any a.mem

/-- The set of one character. -/
def single (c : Char) : CharSet := range c c

/-- The union of closed ranges. -/
def ranges (rs : List (Char × Char)) : CharSet :=
  rs.foldr (fun r s => union (range r.1 r.2) s) none

/-- All characters but the line feed. -/
def notNewline : CharSet := compl (single '\n')

/-- All characters. -/
def any : CharSet := compl none

/-- The ASCII word characters. -/
def asciiWord : CharSet := ranges [('0', '9'), ('A', 'Z'), ('_', '_'), ('a', 'z')]

/-- The ASCII blanks. -/
def asciiSpace : CharSet := ranges [(Char.ofNat 9, Char.ofNat 13), (' ', ' ')]

/-- The named classes of ASCII characters. -/
def named? (name : String) : Option CharSet :=
  if name = "alnum" then some (ranges [('0', '9'), ('A', 'Z'), ('a', 'z')])
  else if name = "alpha" then some (ranges [('A', 'Z'), ('a', 'z')])
  else if name = "ascii" then some (ranges [(Char.ofNat 0, Char.ofNat 127)])
  else if name = "blank" then some (ranges [('\t', '\t'), (' ', ' ')])
  else if name = "cntrl" then
    some (ranges [(Char.ofNat 0, Char.ofNat 31), (Char.ofNat 127, Char.ofNat 127)])
  else if name = "digit" then some (ranges [('0', '9')])
  else if name = "graph" then some (ranges [('!', '~')])
  else if name = "lower" then some (ranges [('a', 'z')])
  else if name = "print" then some (ranges [(' ', '~')])
  else if name = "punct" then some (ranges [('!', '/'), (':', '@'), ('[', Char.ofNat 96), ('\x7b', '~')])
  else if name = "space" then some asciiSpace
  else if name = "upper" then some (ranges [('A', 'Z')])
  else if name = "word" then some asciiWord
  else if name = "xdigit" then some (ranges [('0', '9'), ('A', 'F'), ('a', 'f')])
  else Option.none

end CharSet

end PageGuard.Pattern
