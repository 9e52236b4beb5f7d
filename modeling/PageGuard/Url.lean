import PageGuard.Text.Ascii
import PageGuard.Text.Blank
import PageGuard.Text.Search

/-!
# Hosts of page URLs

Only the hierarchical form `scheme://[userinfo@]host[:port]…` is read.  `hostSplit?` cuts a URL
into the text before its host, the host and the rest; positions are counted in bytes.

`pageHost?` is the lower-cased host of a page, `normalizedDomain` the name under which metrics and
whitelists know it.
-/

namespace PageGuard.Url

open Text

/-- A URL cut around its host. -/
structure HostSplit where
  before : List Char
  host : List Char
  after : List Char
deriving DecidableEq

/-- The URL up to and including its first colon and the two slashes right after it, and the
rest. -/
def splitScheme? (url : List Char) : Option (List Char × List Char) :=
  match url.dropWhile (· ≠ ':') with
  | ':' :: '/' :: '/' :: rest => some (url.takeWhile (· ≠ ':') ++ [':', '/', '/'], rest)
  | _ => none

/-- A character that ends the authority of a URL. -/
def endsAuthority (c : Char) : Bool := c == '/' || c == '?' || c == '#'

/-- A character that ends a host. -/
def endsHost (c : Char) : Bool := endsAuthority c || c == ':'

/-- The userinfo with the at sign that ends it, and the rest. -/
def splitUserinfo (cs : List Char) : List Char × List Char :=
  match cs.dropWhile fun c => !(endsAuthority c || c == '@') with
  | '@' :: rest => (cs.takeWhile (fun c => !(endsAuthority c || c == '@')) ++ ['@'], rest)
  | _ => ([], cs)

/-- Cuts a URL around its host; absent when the URL has no authority. -/
def hostSplit? (url : List Char) : Option HostSplit := do
  let (scheme, rest) ← splitScheme? url
  let (userinfo, rest) := splitUserinfo rest
  return {
    before := scheme ++ userinfo
    host := rest.takeWhile fun c => !endsHost c
    after := rest.dropWhile fun c => !endsHost c }

/-- The byte position after `://`. -/
def schemeEnd? (url : String) : Option Nat :=
  (splitScheme? url.toList).map fun p => byteLength p.1

/-- The byte positions of the start and the end of the host. -/
def hostPosition? (url : String) : Option (Nat × Nat) :=
  (hostSplit? url.toList).map fun s =>
    (byteLength s.before, byteLength s.before + byteLength s.host)

/-- The host of a URL, as written. -/
def host? (url : String) : Option String :=
  (hostSplit? url.toList).map fun s => .ofList s.host

/-- The lower-cased host of a page; absent when the page has none. -/
def pageHost? (url : String) : Option String :=
  match host? (trimmed url) with
  | some h => if h.isEmpty then none else some (lowerAscii h)
  | none => none

/-- A domain without one leading `www.`, unless nothing would remain. -/
def withoutWww (domain : List Char) : List Char :=
  match afterStart? "www.".toList domain with
  | some [] => domain
  | some rest => rest
  | none => domain

/-- The domain of a page for metrics and whitelists: its host, or the trimmed text of a URL without
host, in lower case and without a leading `www.`. -/
def normalizedDomain (url : String) : String :=
  let host := (pageHost? url).getD (lowerAscii (trimmed url))
  .ofList (withoutWww host.toList)

end PageGuard.Url
