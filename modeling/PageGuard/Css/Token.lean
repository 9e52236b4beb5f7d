import PageGuard.Text.Ascii

/-!
# Tokens of CSS

A text is cut into the tokens that selectors are written with.  Comments separate tokens and are
dropped; tokens that no selector can hold are kept as `other`.
-/

namespace PageGuard.Css

open Text

/-- The operator of an attribute test that is more than the equals sign. -/
inductive TestOp where
  | includes
  | dash
  | start
  | ending
  | substring
deriving DecidableEq, Inhabited

/-- A token. -/
inductive Token where
  | ident (name : String)
  | function (name : String)
  /-- A name after a number sign; `isIdent` tells whether it is an identifier. -/
  | hash (name : String) (isIdent : Bool)
  | string (value : String)
  /-- A number; one with a fraction or an exponent has no value here. -/
  | number (value : Option Int) (signed : Bool)
  | dimension (value : Option Int) (unit : String)
  | space
  | colon
  | comma
  | test (op : TestOp)
  | delim (c : Char)
  | openBracket
  | closeBracket
  | closeParen
  | other
deriving DecidableEq, Inhabited

/-! ## Characters -/

/-- A line break of CSS. -/
def isLineBreak (c : Char) : Bool := c == '\n' || c == '\r' || c.toNat == 12

/-- White space of CSS. -/
def isSpace (c : Char) : Bool := c == ' ' || c == '\t' || isLineBreak c

/-- A character that starts a name: a letter, an underscore or anything outside ASCII. -/
def isNameStart (c : Char) : Bool := isAsciiLetter c || c == '_' || c.toNat == 0 || !isAscii c

/-- A character of a name. -/
def isNameChar (c : Char) : Bool := isNameStart c || isAsciiDigit c || c == '-'

/-- The character that stands for one that cannot be. -/
def replacement : Char := Char.ofNat 0xFFFD

/-- Whether a text starts with an escape. -/
def startsEscape : List Char → Bool
  | '\\' :: c :: _ => !isLineBreak c
  | ['\\'] => true
  | _ => false

/-- Whether an identifier starts here. -/
def startsIdent : List Char → Bool
  | '-' :: c :: rest => isNameStart c || c == '-' || startsEscape (c :: rest)
  | c :: rest => isNameStart c || startsEscape (c :: rest)
  | [] => false

/-- Drops one line break, which may be a carriage return and a line feed. -/
def dropLineBreak : List Char → List Char
  | '\r' :: '\n' :: rest => rest
  | _ :: rest => rest
  | [] => []

/-- Drops the one white space that may follow a hexadecimal escape. -/
def dropSpace : List Char → List Char
  | c :: rest => if isSpace c then dropLineBreak (c :: rest) else c :: rest
  | [] => []

/-- Reads an escape after its backslash. -/
def readEscape : List Char → Char × List Char
  | [] => (replacement, [])
  | c :: rest =>
    if (hexValue? c).isSome then
      let digits := ((c :: rest).take 6).takeWhile fun d => (hexValue? d).isSome
      let n := hexNumber digits
      let value := if n = 0 then replacement else (charOfNat? n).getD replacement
      (value, dropSpace ((c :: rest).drop digits.length))
    else if c.toNat = 0 then (replacement, rest)
    else (c, rest)

/-- Reads the characters of a name, at most `n` of them. -/
def readName : Nat → List Char → List Char × List Char
  | 0, cs => ([], cs)
  | n + 1, cs =>
    match cs with
    | [] => ([], [])
    | c :: rest =>
      if startsEscape (c :: rest) then
        let (d, rest) := readEscape rest
        let (name, rest) := readName n rest
        (d :: name, rest)
      else if isNameChar c then
        let (name, rest) := readName n rest
        ((if c.toNat = 0 then replacement else c) :: name, rest)
      else ([], c :: rest)

/-- Reads a name. -/
def takeName (cs : List Char) : String × List Char :=
  let (name, rest) := readName cs.length cs
  (.ofList name, rest)

/-! ## Strings and numbers -/

/-- Reads a string after its opening quote, at most `n` characters; a line break spoils it. -/
def readString (quote : Char) : Nat → List Char → Option (List Char) × List Char
  | 0, cs => (some [], cs)
  | n + 1, cs =>
    match cs with
    | [] => (some [], [])
    | ['\\'] => (some [], [])
    | '\\' :: c :: rest =>
      if isLineBreak c then readString quote n (dropLineBreak (c :: rest))
      else
        let (d, rest) := readEscape (c :: rest)
        let (value, rest) := readString quote n rest
        (value.map (d :: ·), rest)
    | c :: rest =>
      if c = quote then (some [], rest)
      else if isLineBreak c then (none, c :: rest)
      else
        let (value, rest) := readString quote n rest
        (value.map ((if c.toNat = 0 then replacement else c) :: ·), rest)

/-- The least and the greatest value of a number. -/
def numberBounds : Int × Int := (-2147483648, 2147483647)

/-- A number within the bounds that is nearest to `n`. -/
def clampNumber (n : Int) : Int := max numberBounds.1 (min numberBounds.2 n)

/-- Whether a digit comes next. -/
def startsDigit : List Char → Bool
  | c :: _ => isAsciiDigit c
  | [] => false

/-- Whether a number without sign starts here. -/
def startsUnsigned : List Char → Bool
  | '.' :: rest => startsDigit rest
  | cs => startsDigit cs

/-- Drops a fraction and tells whether there was one. -/
def dropFraction : List Char → Bool × List Char
  | '.' :: rest =>
    if startsDigit rest then (true, rest.dropWhile isAsciiDigit) else (false, '.' :: rest)
  | cs => (false, cs)

/-- Drops an exponent and tells whether there was one. -/
def dropExponent : List Char → Bool × List Char
  | e :: rest =>
    if e = 'e' ∨ e = 'E' then
      if startsDigit rest then (true, rest.dropWhile isAsciiDigit)
      else
        match rest with
        | s :: more =>
          if (s = '+' ∨ s = '-') ∧ startsDigit more then (true, more.dropWhile isAsciiDigit)
          else (false, e :: rest)
        | [] => (false, [e])
    else (false, e :: rest)
  | [] => (false, [])

/-- Reads a number and what follows right after it. -/
def readNumeric (cs : List Char) : Token × List Char :=
  let (signed, negative, body) := match cs with
    | '-' :: rest => (true, true, rest)
    | '+' :: rest => (true, false, rest)
    | _ => (false, false, cs)
  let digits := body.takeWhile isAsciiDigit
  let (fraction, rest) := dropFraction (body.drop digits.length)
  let (exponent, rest) := dropExponent rest
  let n : Int := decimalValue digits
  let value := if fraction || exponent then none
    else some (clampNumber (if negative then -n else n))
  match rest with
  | '%' :: rest => (.other, rest)
  | _ =>
    if startsIdent rest then
      let (unit, rest) := takeName rest
      (.dimension value unit, rest)
    else (.number value signed, rest)

/-! ## Cutting -/

/-- Drops a comment after its opening. -/
def dropComment : List Char → List Char
  | [] => []
  | '*' :: '/' :: rest => rest
  | _ :: rest => dropComment rest

/-- Reads an identifier or a function. -/
def readIdentLike (cs : List Char) : Token × List Char :=
  let (name, rest) := takeName cs
  match rest with
  | '(' :: rest => (.function name, rest)
  | _ => (.ident name, rest)

/-- Reads what follows a number sign. -/
def readHash (cs : List Char) : Token × List Char :=
  if startsIdent cs then
    let (name, rest) := takeName cs
    (.hash name true, rest)
  else
    match cs with
    | c :: _ =>
      if isAsciiDigit c || c == '-' then
        let (name, rest) := takeName cs
        (.hash name false, rest)
      else (.delim '#', cs)
    | [] => (.delim '#', [])

/-- The token of a single character, where no longer token starts. -/
def singleToken (c : Char) : Token :=
  if c = ':' then .colon
  else if c = ',' then .comma
  else if c = '[' then .openBracket
  else if c = ']' then .closeBracket
  else if c = ')' then .closeParen
  else if "(;@<\x7b\x7d".toList.contains c then .other
  else .delim c

/-- Reads one token; a comment gives none. -/
def readToken (c : Char) (rest : List Char) : Option Token × List Char :=
  let give (r : Token × List Char) : Option Token × List Char := (some r.1, r.2)
  let all := c :: rest
  if isSpace c then (some .space, rest.dropWhile isSpace)
  else if c = '"' ∨ c = '\'' then
    let (value, rest) := readString c rest.length rest
    (some (match value with
      | some v => .string (.ofList v)
      | none => .other), rest)
  else if c = '#' then give (readHash rest)
  else if startsUnsigned all then give (readNumeric all)
  else if (c = '+' ∨ c = '-') ∧ startsUnsigned rest then give (readNumeric all)
  else if startsIdent all then give (readIdentLike all)
  else
    match c, rest with
    | '/', '*' :: rest => (none, dropComment rest)
    | '~', '=' :: rest => (some (.test .includes), rest)
    | '|', '=' :: rest => (some (.test .dash), rest)
    | '^', '=' :: rest => (some (.test .start), rest)
    | '$', '=' :: rest => (some (.test .ending), rest)
    | '*', '=' :: rest => (some (.test .substring), rest)
    | _, _ => (some (singleToken c), rest)

/-- Cuts a text into at most `n` tokens and comments. -/
def cut : Nat → List Char → List Token
  | 0, _ => []
  | _, [] => []
  | n + 1, c :: rest =>
    let (token, rest) := readToken c rest
    token.toList ++ cut n rest

/-- The tokens of a text. -/
def tokens (cs : List Char) : List Token := cut cs.length cs

end PageGuard.Css
