import PageGuard.Text.Ascii
import PageGuard.Json.Basic

/-!
# Reading JSON text

The grammar is that of RFC 8259, without extensions.  A whole number that fits 64 bits stays
whole; any other number, and a negative zero, is a binary64 value.

`Tree.ofText?` reads a text, `Value.ofText?` also asks that it has a value.
-/

namespace PageGuard.Json

open Text

/-- White space between tokens. -/
def isSpace (c : Char) : Bool := c == ' ' || c == '\n' || c == '\t' || c == '\r'

/-- The text after its leading white space. -/
def skipSpace (cs : List Char) : List Char := cs.dropWhile isSpace

/-! ## Numbers -/

/-- The text of a number: its sign, whole part, fraction and exponent. -/
structure NumberText where
  negative : Bool
  whole : List Char
  fraction : Option (List Char)
  exponent : Option (Bool × List Char)

/-- The digits at the start of a text and the rest. -/
def takeDigits (cs : List Char) : List Char × List Char :=
  (cs.takeWhile isAsciiDigit, cs.dropWhile isAsciiDigit)

/-- Reads the fraction after a point, if there is one. -/
def readFraction? : List Char → Option (Option (List Char) × List Char)
  | '.' :: rest =>
    match takeDigits rest with
    | ([], _) => none
    | (ds, rest) => some (some ds, rest)
  | cs => some (none, cs)

/-- Reads the digits of an exponent. -/
def readExponentDigits? (negative : Bool) (cs : List Char) :
    Option (Option (Bool × List Char) × List Char) :=
  match takeDigits cs with
  | ([], _) => none
  | (ds, rest) => some (some (negative, ds), rest)

/-- Reads the exponent, if there is one. -/
def readExponent? : List Char → Option (Option (Bool × List Char) × List Char)
  | [] => some (none, [])
  | c :: rest =>
    if c = 'e' ∨ c = 'E' then
      match rest with
      | '+' :: rest => readExponentDigits? false rest
      | '-' :: rest => readExponentDigits? true rest
      | rest => readExponentDigits? false rest
    else some (none, c :: rest)

/-- Reads a number without its sign. -/
def readUnsigned? (negative : Bool) (cs : List Char) : Option (NumberText × List Char) :=
  match takeDigits cs with
  | ([], _) => none
  | (ds, rest) =>
    if ds.head? = some '0' ∧ ds.length > 1 then none
    else do
      let (fraction, rest) ← readFraction? rest
      let (exponent, rest) ← readExponent? rest
      return (⟨negative, ds, fraction, exponent⟩, rest)

/-- Reads a number. -/
def readNumberText? : List Char → Option (NumberText × List Char)
  | '-' :: rest => readUnsigned? true rest
  | cs => readUnsigned? false cs

/-- The digits that fit 64 bits, as a number, and the count of the digits left. -/
def significand : Nat → List Char → Nat × Nat
  | n, [] => (n, 0)
  | n, d :: ds =>
    let m := 10 * n + (d.toNat - '0'.toNat)
    if m < UInt64.size then significand m ds else (n, ds.length + 1)

/-- The binary64 value nearest to a power of ten. -/
def powerOfTen (e : Nat) : Float := Float.ofScientific 1 false e

/-- Scales down by `10 ^ e`, at most `10 ^ 308` at a time. -/
def scaleDown : Nat → Float → Nat → Float
  | 0, f, _ => f
  | fuel + 1, f, e =>
    if e ≤ 308 then f / powerOfTen e
    else if f == 0 then f
    else scaleDown fuel (f / powerOfTen 308) (e - 308)

/-- The value `n * 10 ^ e`, computed with one rounding for `n` and one for each scaling; absent
when it is too large. -/
def scaled? (n : Nat) (e : Int) : Option Float :=
  let f := (UInt64.ofNat n).toFloat
  if e < 0 then some (scaleDown 20 f e.natAbs)
  else if e ≤ 308 then
    let g := f * powerOfTen e.toNat
    if g.isInf then none else some g
  else if n = 0 then some f
  else none

/-- The value of a number that is not whole or does not fit 64 bits. -/
def NumberText.double? (t : NumberText) : Option Double := do
  let (n, dropped) := significand 0 t.whole
  let ds := t.fraction.getD []
  let (n, left) := significand n ds
  let e : Int := dropped - (ds.length - left : Nat)
  let f ← match t.exponent with
    | none => scaled? n e
    | some (negative, ds) =>
      let x := decimalValue ds
      if x > 2147483647 then
        if n ≠ 0 ∧ negative = false then none else some 0
      else
        let final := if negative then e - x else e + x
        scaled? n (max (-2147483648) (min 2147483647 final))
  let f := if t.negative then -f else f
  return ⟨f.toBits⟩

/-- The number that a text writes; absent when it is too large. -/
def NumberText.number? (t : NumberText) : Option Number :=
  let n := decimalValue t.whole
  if t.fraction.isNone ∧ t.exponent.isNone ∧
      (if t.negative then 0 < n ∧ 2 * n ≤ UInt64.size else n < UInt64.size) then
    some (.int (if t.negative then -n else n))
  else t.double?.map .double

/-! ## Strings -/

/-- A piece of a string: a character, or one unit of sixteen bits that an escape writes. -/
inductive Piece where
  | char (c : Char)
  | unit (n : Nat)

/-- Reads four hexadecimal digits. -/
def readHex4? : List Char → Option (Nat × List Char)
  | a :: b :: c :: d :: rest => do
    let a ← hexValue? a
    let b ← hexValue? b
    let c ← hexValue? c
    let d ← hexValue? d
    return (((a * 16 + b) * 16 + c) * 16 + d, rest)
  | _ => none

/-- The character of a one-letter escape. -/
def escaped? (c : Char) : Option Char :=
  if c = '"' ∨ c = '\\' ∨ c = '/' then some c
  else if c = 'b' then some (Char.ofNat 8)
  else if c = 'f' then some (Char.ofNat 12)
  else if c = 'n' then some '\n'
  else if c = 'r' then some '\r'
  else if c = 't' then some '\t'
  else none

/-- Reads the pieces of a string up to its closing quote. -/
def readPieces? : List Char → Option (List Piece × List Char)
  | [] => none
  | '"' :: rest => some ([], rest)
  | '\\' :: 'u' :: a :: b :: c :: d :: rest => do
    let (n, _) ← readHex4? [a, b, c, d]
    let (ps, rest) ← readPieces? rest
    return (.unit n :: ps, rest)
  | '\\' :: e :: rest => do
    let c ← escaped? e
    let (ps, rest) ← readPieces? rest
    return (.char c :: ps, rest)
  | c :: rest =>
    if c.toNat < 0x20 then none
    else do
      let (ps, rest) ← readPieces? rest
      return (.char c :: ps, rest)

/-- The text of pieces; absent when a surrogate has no partner. -/
def joinPieces? : List Piece → Option (List Char)
  | [] => some []
  | .char c :: rest => (joinPieces? rest).map (c :: ·)
  | .unit n :: rest =>
    if 0xD800 ≤ n ∧ n ≤ 0xDBFF then
      match rest with
      | .unit m :: rest =>
        if 0xDC00 ≤ m ∧ m ≤ 0xDFFF then
          (joinPieces? rest).map
            (Char.ofNat ((n - 0xD800) * 0x400 + (m - 0xDC00) + 0x10000) :: ·)
        else none
      | _ => none
    else if 0xDC00 ≤ n ∧ n ≤ 0xDFFF then none
    else (joinPieces? rest).map (Char.ofNat n :: ·)

/-- Reads a string after its opening quote. -/
def readString? (cs : List Char) : Option (Option String × List Char) := do
  let (ps, rest) ← readPieces? cs
  return ((joinPieces? ps).map String.ofList, rest)

/-! ## Values -/

/-- Reads the word `word` and gives `t`. -/
def readWord? (word : List Char) (t : Tree) (cs : List Char) : Option (Tree × List Char) :=
  if word.isPrefixOf cs then some (t, cs.drop word.length) else none

mutual

/-- Reads a value after its leading white space. -/
def readTree? : Nat → List Char → Option (Tree × List Char)
  | 0, _ => none
  | fuel + 1, cs =>
    match cs with
    | [] => none
    | c :: rest =>
      if c = '"' then do
        let (s, rest) ← readString? rest
        return (.string s, rest)
      else if c = '[' then
        match skipSpace rest with
        | ']' :: rest => some (.array [], rest)
        | rest => do
          let (items, rest) ← readItems? fuel rest
          return (.array items, rest)
      else if c = '\x7b' then
        match skipSpace rest with
        | '\x7d' :: rest => some (.object [], rest)
        | rest => do
          let (members, rest) ← readMembers? fuel rest
          return (.object members, rest)
      else if c = 't' then readWord? "true".toList (.bool true) (c :: rest)
      else if c = 'f' then readWord? "false".toList (.bool false) (c :: rest)
      else if c = 'n' then readWord? "null".toList .null (c :: rest)
      else do
        let (t, rest) ← readNumberText? (c :: rest)
        return (.number t.number?, rest)

/-- Reads one or more items and the bracket that closes them. -/
def readItems? : Nat → List Char → Option (List Tree × List Char)
  | 0, _ => none
  | fuel + 1, cs => do
    let (item, rest) ← readTree? fuel cs
    match skipSpace rest with
    | ']' :: rest => return ([item], rest)
    | ',' :: rest =>
      let (items, rest) ← readItems? fuel (skipSpace rest)
      return (item :: items, rest)
    | _ => none

/-- Reads one or more members and the brace that closes them. -/
def readMembers? : Nat → List Char → Option (List (Option String × Tree) × List Char)
  | 0, _ => none
  | fuel + 1, cs =>
    match cs with
    | '"' :: rest => do
      let (name, rest) ← readString? rest
      match skipSpace rest with
      | ':' :: rest =>
        let (item, rest) ← readTree? fuel (skipSpace rest)
        match skipSpace rest with
        | '\x7d' :: rest => return ([(name, item)], rest)
        | ',' :: rest =>
          let (members, rest) ← readMembers? fuel (skipSpace rest)
          return ((name, item) :: members, rest)
        | _ => none
      | _ => none
    | _ => none

end

/-- Reads a whole text. -/
def Tree.ofText? (text : String) : Option Tree :=
  let cs := text.toList
  match readTree? (2 * cs.length + 2) (skipSpace cs) with
  | some (t, rest) => if (skipSpace rest).isEmpty then some t else none
  | none => none

/-- The value of a whole text, its members as written. -/
def Value.ofText? (text : String) : Option Value := (Tree.ofText? text).bind Tree.value?

/-- The value of a whole text, its members sorted. -/
def Value.sortedOfText? (text : String) : Option Value := (Value.ofText? text).map Value.sorted

end PageGuard.Json
