import PageGuard.Json.Writer

/-!
# Script values

What a script of the page hands over: the undefined value or a value that JSON can write.
-/

namespace PageGuard.Browser

open Json

/-! ## Numbers

Scripts know one kind of number, so a whole number is the same value however it is written. -/

/-- The whole number that a binary64 value is. -/
def whole? (d : Double) : Option Int :=
  let (m, q) := d.parts
  let n? : Option Nat :=
    if 1075 ≤ q then some (m <<< (q - 1075))
    else if m % (1 <<< (1075 - q)) = 0 then some (m >>> (1075 - q))
    else none
  n?.map fun n => if d.isNegative then -(n : Int) else n

/-- A number with whole numbers written as such. -/
def plainNumber : Number → Number
  | .int n => .int n
  | .double d =>
    match whole? d with
    | some n => .int n
    | none => .double d

mutual

/-- A value with its whole numbers written as such. -/
def plain : Value → Value
  | .number n => .number (plainNumber n)
  | .array vs => .array (plainAll vs)
  | .object ms => .object (plainMembers ms)
  | v => v

/-- Values with their whole numbers written as such. -/
def plainAll : List Value → List Value
  | [] => []
  | v :: vs => plain v :: plainAll vs

/-- Members with their whole numbers written as such. -/
def plainMembers : List (String × Value) → List (String × Value)
  | [] => []
  | (k, v) :: ms => (k, plain v) :: plainMembers ms

end

/-! ## Values -/

/-- A value of a script. -/
inductive ScriptValue where
  | undefined
  | json (v : Value)
deriving Inhabited

namespace ScriptValue

/-- A text as a value. -/
def text (s : String) : ScriptValue := json (.string s)

/-- The value as JSON; nothing stands for undefined. -/
def toValue : ScriptValue → Value
  | undefined => .null
  | json v => v

/-- Whether a condition takes the value for true. -/
def isTruthy : ScriptValue → Bool
  | undefined => false
  | json .null => false
  | json (.bool b) => b
  | json (.number n) => plainNumber n ≠ .int 0
  | json (.string s) => !s.isEmpty
  | json _ => true

/-- The text of a number. -/
def numberText (n : Number) : String := (Value.number (plainNumber n)).compact

mutual

/-- The text of a value inside another one. -/
def describe : Value → String
  | .null => "null"
  | .bool b => if b then "true" else "false"
  | .number n => numberText n
  | .string s => "\"" ++ s ++ "\""
  | .array vs => "[" ++ ", ".intercalate (describeAll vs) ++ "]"
  | .object ms => "Object(" ++ (Value.object ms).compact ++ ")"

/-- The texts of values. -/
def describeAll : List Value → List String
  | [] => []
  | v :: vs => describe v :: describeAll vs

end

/-- What an error text says of a thrown value: the value itself when it is a string. -/
def reason : ScriptValue → String
  | undefined => "JsValue(undefined)"
  | json (.string s) => s
  | json v => "JsValue(" ++ describe v ++ ")"

/-- A member of a value, if the value can have members at all. -/
def member? (v : ScriptValue) (name : String) : Option ScriptValue :=
  match v with
  | json (.object ms) =>
    match lookup? name ms with
    | some m => some (json m)
    | none => some undefined
  | json (.array _) => some undefined
  | _ => none

/-- The text that a value is. -/
def string? : ScriptValue → Option String
  | json (.string s) => some s
  | _ => none

end ScriptValue

end PageGuard.Browser
