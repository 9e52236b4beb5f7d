import PageGuard.Json.Basic

/-!
# Writing JSON text

`Value.compact` writes a value without white space, `Value.pretty` with one member or item on a
line and two blanks for each level.  Strings escape the quote, the backslash and the control
characters below U+0020, and nothing else.
-/

namespace PageGuard.Json

/-- The text of a number. -/
def Number.render : Number → List Char
  | .int n => (if n < 0 then ['-'] else []) ++ Nat.toDigits 10 n.natAbs
  | .double d => d.render

/-- A hexadecimal digit in lower case. -/
def hexDigit (n : Nat) : Char := Nat.digitChar n

/-- The text of a character inside a string. -/
def escapeChar (c : Char) : List Char :=
  if c = '"' then ['\\', '"']
  else if c = '\\' then ['\\', '\\']
  else if c.toNat < 0x20 then
    if c.toNat = 8 then ['\\', 'b']
    else if c.toNat = 12 then ['\\', 'f']
    else if c = '\n' then ['\\', 'n']
    else if c = '\r' then ['\\', 'r']
    else if c = '\t' then ['\\', 't']
    else ['\\', 'u', '0', '0', hexDigit (c.toNat / 16), hexDigit (c.toNat % 16)]
  else [c]

/-- The text of a string. -/
def quote (s : String) : List Char := '"' :: s.toList.flatMap escapeChar ++ ['"']

mutual

/-- The characters of a value without white space. -/
def Value.chars : Value → List Char
  | .null => "null".toList
  | .bool true => "true".toList
  | .bool false => "false".toList
  | .number n => n.render
  | .string s => quote s
  | .array [] => "[]".toList
  | .array (v :: rest) => '[' :: v.chars ++ Value.itemChars rest
  | .object [] => "\x7b\x7d".toList
  | .object ((k, v) :: rest) => '\x7b' :: quote k ++ ':' :: v.chars ++ Value.memberChars rest

/-- The characters of the items after the first one and of the closing bracket. -/
def Value.itemChars : List Value → List Char
  | [] => [']']
  | v :: rest => ',' :: v.chars ++ Value.itemChars rest

/-- The characters of the members after the first one and of the closing brace. -/
def Value.memberChars : List (String × Value) → List Char
  | [] => ['\x7d']
  | (k, v) :: rest => ',' :: quote k ++ ':' :: v.chars ++ Value.memberChars rest

end

/-- The text of a value without white space. -/
def Value.compact (v : Value) : String := .ofList v.chars

/-- A line feed and the blanks of a level. -/
def newLine (level : Nat) : List Char := '\n' :: List.replicate (2 * level) ' '

mutual

/-- The characters of a value with one item on a line; `level` is that of the value. -/
def Value.prettyChars (level : Nat) : Value → List Char
  | .array (v :: rest) =>
    '[' :: newLine (level + 1) ++ v.prettyChars (level + 1) ++ Value.prettyItems level rest
  | .object ((k, v) :: rest) =>
    '\x7b' :: newLine (level + 1) ++ quote k ++ ": ".toList ++ v.prettyChars (level + 1) ++
      Value.prettyMembers level rest
  | v => v.chars

/-- The items after the first one and the closing bracket. -/
def Value.prettyItems (level : Nat) : List Value → List Char
  | [] => newLine level ++ [']']
  | v :: rest =>
    ',' :: newLine (level + 1) ++ v.prettyChars (level + 1) ++ Value.prettyItems level rest

/-- The members after the first one and the closing brace. -/
def Value.prettyMembers (level : Nat) : List (String × Value) → List Char
  | [] => newLine level ++ ['\x7d']
  | (k, v) :: rest =>
    ',' :: newLine (level + 1) ++ quote k ++ ": ".toList ++ v.prettyChars (level + 1) ++
      Value.prettyMembers level rest

end

/-- The text of a value with one member or item on a line. -/
def Value.pretty (v : Value) : String := .ofList (v.prettyChars 0)

/-- A whole number as a value. -/
def Value.ofNat (n : Nat) : Value := .number (.int n)

/-- A list of strings as a value. -/
def Value.ofStrings (ss : List String) : Value := .array (ss.map .string)

/-- An optional value, null when absent. -/
def Value.ofOption (o : Option Value) : Value := o.getD .null

end PageGuard.Json
