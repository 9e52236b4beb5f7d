/-!
# ASCII letters, digits and case

Case and character classes that look at ASCII only.  Every character outside ASCII is its own
lower case here; the full Unicode mapping is in `PageGuard.Text.Lowercase`.
-/

namespace PageGuard.Text

/-- The ASCII lower case of a character. -/
def asciiLower (c : Char) : Char :=
  if 'A' ≤ c ∧ c ≤ 'Z' then Char.ofNat (c.toNat + 32) else c

/-- A text with its ASCII letters in lower case. -/
def lowerAscii (s : String) : String :=
  .ofList (s.toList.map asciiLower)

/-- Equality up to the case of ASCII letters. -/
def eqIgnoringCase (a b : List Char) : Bool :=
  a.map asciiLower == b.map asciiLower

/-- One of the ASCII characters. -/
def isAscii (c : Char) : Bool := c.toNat < 128

/-- An ASCII digit. -/
def isAsciiDigit (c : Char) : Bool := '0' ≤ c && c ≤ '9'

/-- An ASCII letter. -/
def isAsciiLetter (c : Char) : Bool :=
  ('a' ≤ c && c ≤ 'z') || ('A' ≤ c && c ≤ 'Z')

/-- An ASCII letter or digit. -/
def isAsciiAlnum (c : Char) : Bool := isAsciiLetter c || isAsciiDigit c

/-- The value of a hexadecimal digit. -/
def hexValue? (c : Char) : Option Nat :=
  if isAsciiDigit c then some (c.toNat - '0'.toNat)
  else if 'a' ≤ c && c ≤ 'f' then some (c.toNat - 'a'.toNat + 10)
  else if 'A' ≤ c && c ≤ 'F' then some (c.toNat - 'A'.toNat + 10)
  else none

/-- The number that a list of decimal digits writes. -/
def decimalValue (ds : List Char) : Nat :=
  ds.foldl (fun n d => 10 * n + (d.toNat - '0'.toNat)) 0

/-- The number that a list of hexadecimal digits writes. -/
def hexNumber (ds : List Char) : Nat :=
  ds.foldl (fun n d => 16 * n + (hexValue? d).getD 0) 0

/-- The character with this code point, if the number is a Unicode scalar value. -/
def charOfNat? (n : Nat) : Option Char :=
  if h : n.isValidChar then some (Char.ofNatAux n h) else none

end PageGuard.Text
