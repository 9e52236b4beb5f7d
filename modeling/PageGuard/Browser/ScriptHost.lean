import PageGuard.Browser.ScriptValue
import PageGuard.Threat.Host

/-!
# Hosts in a script

The extension passes an object whose methods answer the calls.  A question that the object cannot
answer counts as answered with no; any other call that goes wrong fails with what was thrown.

The host keeps the calls of its methods, with their arguments.
-/

namespace PageGuard.Browser

open Json

/-- A member of the host object. -/
inductive Member where
  /-- A function that returns a value. -/
  | returns (v : ScriptValue)
  /-- A function that throws a value. -/
  | throws (v : ScriptValue)
  /-- A function that tells whether its arguments are one of these lists. -/
  | testing (lists : List (List Value))
  /-- A value that is no function. -/
  | value (v : ScriptValue)
deriving Inhabited

/-- A host object with the calls of its methods; without members it is no object. -/
structure ScriptHost where
  members : Option (List (String × Member))
  calls : List (String × List Value) := []
deriving Inhabited

namespace ScriptHost

/-- Why a call gives no value. -/
inductive CallError where
  | noFunction (method : String)
  | thrown (v : ScriptValue)

/-- The text of an error. -/
def CallError.reason : CallError → String
  | noFunction method => "host has no '" ++ method ++ "' function"
  | thrown v => v.reason

/-- What a function gives for its arguments; absent when the member is no function. -/
def Member.answer? (m : Member) (arguments : List Value) : Option (Except CallError ScriptValue) :=
  match m with
  | .returns v => some (.ok v)
  | .throws v => some (.error (.thrown v))
  | .testing lists =>
    some (.ok (.json (.bool (lists.any fun l => l.map Value.sorted = arguments.map Value.sorted))))
  | .value _ => none

/-- Calls a method. -/
def call (method : String) (arguments : List Value) :
    StateM ScriptHost (Except CallError ScriptValue) := fun h =>
  match (h.members.bind fun ms => ms.lookup method).bind (Member.answer? · arguments) with
  | some result => (result, { h with calls := h.calls ++ [(method, arguments)] })
  | none => (.error (.noFunction method), h)

/-- Asks a question. -/
def ask (method : String) (arguments : List Value) : StateM ScriptHost Bool := do
  match ← call method arguments with
  | .ok v => return v.isTruthy
  | .error _ => return false

/-- Makes a call with an effect. -/
def perform (effect : HostEffect) (method : String) (arguments : List Value) :
    HostCall ScriptHost ScriptValue := do
  match ← (call method arguments : StateM ScriptHost _) with
  | .ok v => return v
  | .error e => throw ⟨effect, e.reason⟩

/-- The URL to which an answer sends a tab. -/
def redirectOf (v : ScriptValue) : Except HostError String :=
  match (v.member? "redirectUrl").bind ScriptValue.string? with
  | some url => .ok url
  | none => .error ⟨.onScam, "action has no redirectUrl"⟩

instance : Host ScriptHost where
  protectionActive feature url tab :=
    ask "isProtectionActive" [.string feature, .string url, .number (.int tab)]
  isListed domain table category :=
    ask "isWhitelisted" [.string domain, .string table, .string category]
  isExempt domain := ask "isWhitelistedScamsByPattern" [.string domain]
  recordAll type tab source hit silent := do
    discard <| perform .recordAll "recordAll"
      [.string type.name, .number (.int tab), .string source, .string hit, .bool silent]
  updateBadge tab := do
    discard <| perform .updateBadge "updateBadgeCount" [.number (.int tab)]
  onScam context := do
    match redirectOf (← perform .onScam "onScam" [context.toValue]) with
    | .ok url => return url
    | .error e => throw e
  navigate tab url := do
    discard <| perform .navigate "navigate" [.number (.int tab), .string url]

end ScriptHost

end PageGuard.Browser
