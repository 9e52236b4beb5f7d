import Std.Data.HashMap
import PageGuard.Markup.EntityTable
import PageGuard.Text.Ascii
import PageGuard.Text.Search

/-!
# Character references

A reference writes characters by a name or by a number.  Of several names at the start of a text
the longest counts.  A number that is no character becomes the replacement character, and the
numbers from 128 to 159 stand for the characters of Windows code page 1252.
-/

namespace PageGuard.Markup

open Text

/-- The code points of a row, written in hexadecimal between plus signs. -/
def rowValue (cs : List Char) : String :=
  .ofList ((pieces '+' cs).map fun ds => Char.ofNat (hexNumber ds))

/-- The characters of references by their names. -/
def entities : Std.HashMap String String :=
  (entityRows.toList |> pieces ' ').foldl (fun table row =>
    match splitAtFirst? '=' row with
    | some (name, value) =>
      let v := rowValue value
      let table := table.insert (.ofList name) v
      if name.getLast? = some ';' then table else table.insert (.ofList (name ++ [';'])) v
    | none => table) {}

/-- The length of the longest name. -/
def longestName : Nat := 32

/-- The longest name of at most `n` characters at the start of a text, with its characters and the
number of characters of the name. -/
def namedReference? (cs : List Char) : Nat → Option (String × Nat)
  | 0 => none
  | n + 1 =>
    let name := cs.take (n + 1)
    if name.length = n + 1 then
      match entities[String.ofList name]? with
      | some v => some (v, n + 1)
      | none => namedReference? cs n
    else namedReference? cs n

/-- The characters of the numbers from 128 to 159; zero for those that stand for themselves. -/
def windowsRow : List Nat := [
  0x20AC, 0, 0x201A, 0x192, 0x201E, 0x2026, 0x2020, 0x2021, 0x2C6, 0x2030, 0x160, 0x2039, 0x152, 0,
  0x17D, 0, 0, 0x2018, 0x2019, 0x201C, 0x201D, 0x2022, 0x2013, 0x2014, 0x2DC, 0x2122, 0x161, 0x203A,
  0x153, 0, 0x17E, 0x178]

/-- The character that stands for what is none. -/
def replacement : Char := Char.ofNat 0xFFFD

/-- The character of a numeric reference. -/
def numberedChar (n : Nat) : Char :=
  if n = 0 then replacement
  else
    match if 0x80 ≤ n then windowsRow[n - 0x80]? else none with
    | some w => if w = 0 then Char.ofNat n else Char.ofNat w
    | none => (charOfNat? n).getD replacement

/-- The text after a semicolon, if there is one. -/
def skipSemicolon : List Char → List Char
  | ';' :: rest => rest
  | cs => cs

/-- Reads a numeric reference after its number sign. -/
def numericReference? (cs : List Char) : Option (List Char × List Char) :=
  match cs with
  | x :: rest =>
    if x = 'x' ∨ x = 'X' then
      let ds := rest.takeWhile fun c => (hexValue? c).isSome
      if ds.isEmpty then none
      else some ([numberedChar (hexNumber ds)], skipSemicolon (rest.drop ds.length))
    else
      let ds := cs.takeWhile isAsciiDigit
      if ds.isEmpty then none
      else some ([numberedChar (decimalValue ds)], skipSemicolon (cs.drop ds.length))
  | [] => none

/-- Reads what follows an ampersand: the characters it gives and the text left.  An ampersand that
opens no reference stands for itself, and so does, in an attribute, one whose name lacks its
semicolon before an equals sign, a letter or a digit. -/
def readReference (inAttribute : Bool) (cs : List Char) : List Char × List Char :=
  match cs with
  | '#' :: rest =>
    match numericReference? rest with
    | some r => r
    | none => (['&'], cs)
  | _ =>
    match namedReference? cs longestName with
    | none => (['&'], cs)
    | some (v, n) =>
      let after := cs.drop n
      let closed := cs[n - 1]? = some ';'
      let glued := match after with
        | c :: _ => c == '=' || isAsciiAlnum c
        | [] => false
      if inAttribute && !closed && glued then (['&'], cs) else (v.toList, after)

/-- A text with its references replaced. -/
def decodeReferences (inAttribute : Bool) : Nat → List Char → List Char
  | 0, cs => cs
  | _ + 1, [] => []
  | fuel + 1, c :: rest =>
    if c = '&' then
      let (cs, after) := readReference inAttribute rest
      cs ++ decodeReferences inAttribute fuel after
    else c :: decodeReferences inAttribute fuel rest

/-- A text with its references replaced; each of them is as long as an ampersand at least. -/
def decoded (inAttribute : Bool) (cs : List Char) : List Char :=
  decodeReferences inAttribute (cs.length + 1) cs

end PageGuard.Markup
