import PageGuard.Navigation.Context
import PageGuard.Navigation.PatternCache
import PageGuard.Rules.Basic
import PageGuard.Selector.Evaluation
import PageGuard.Selector.Reader
import PageGuard.Url

/-!
# Processing a page

The entries whose domain pattern applies to the URL of a page are evaluated one after the other.
Only when all of them are done do their results go into the context: elements that adserver
entries found are queued for hiding, and each scam or phishing entry that found something queues
one candidate for blocking the page.  A selector that cannot be read or that fails has no influence
on the others.
-/

namespace PageGuard

/-- A selector whose evaluation failed. -/
structure SelectorFailure where
  type : RuleType
  selector : String
  error : DomError
deriving DecidableEq, Inhabited

/-- The counts of processing a page. -/
structure ProcessReport where
  /-- Selectors that were evaluated. -/
  evaluated : Nat := 0
  /-- Selectors that cannot be read. -/
  skipped : Nat := 0
  /-- Selectors that found something. -/
  matched : Nat := 0
  elementsQueued : Nat := 0
  urlsQueued : Nat := 0
  failures : List SelectorFailure := []
deriving DecidableEq, Inhabited

/-! ## Entries that apply -/

/-- The entries under one token whose domain pattern applies to a URL. -/
def applicableEntries (url : String) :
    List (String × List Entry) → PatternCache → List Entry × PatternCache
  | [], c => ([], c)
  | (pattern, entries) :: rest, c =>
    if entries.isEmpty then applicableEntries url rest c
    else
      let (hit, c) := c.applies pattern url
      let (more, c) := applicableEntries url rest c
      (if hit then entries ++ more else more, c)

/-- The entries of one bucket that apply to a URL; tokens that are no separator do not count. -/
def applicableInBucket (url : String) :
    List (String × SelectorsByDomain) → PatternCache → List Entry × PatternCache
  | [], c => ([], c)
  | (token, byDomain) :: rest, c =>
    if (SelectorKind.ofToken? token).isNone then applicableInBucket url rest c
    else
      let (entries, c) := applicableEntries url byDomain.entries c
      let (more, c) := applicableInBucket url rest c
      (entries ++ more, c)

/-- The entries of some buckets that apply to a URL; the whitelist is never evaluated. -/
def applicableInBuckets (url : String) :
    List (RuleType × DomainRules) → PatternCache → List (RuleType × Entry) × PatternCache
  | [], c => ([], c)
  | (type, rules) :: rest, c =>
    if type = .whitelist then applicableInBuckets url rest c
    else
      let (entries, c) := applicableInBucket url rules.entries c
      let (more, c) := applicableInBuckets url rest c
      (entries.map (type, ·) ++ more, c)

/-- The entries of a database that apply to a URL, in database order. -/
def applicable (rules : Database) (url : String) (c : PatternCache) :
    List (RuleType × Entry) × PatternCache :=
  applicableInBuckets url rules.buckets c

/-! ## Evaluating -/

variable {D N : Type} [Document D N] [DecidableEq N]

/-- What became of an entry. -/
inductive Trial (N : Type) where
  /-- The selector cannot be read. -/
  | skipped
  | evaluated (type : RuleType) (entry : Entry) (found : Except DomError (List N))

/-- Evaluates the selector of an entry on a document. -/
def tryEntry (type : RuleType) (entry : Entry) (d : D) : Trial N × D :=
  match parseSelector entry.selector with
  | .error _ => (.skipped, d)
  | .ok chain =>
    let (found, d) := evaluate chain d
    (.evaluated type entry found, d)

/-- Evaluates entries, one after the other. -/
def tryEntries : List (RuleType × Entry) → D → List (Trial N) × D
  | [], d => ([], d)
  | (type, entry) :: rest, d =>
    let (trial, d) := tryEntry type entry d
    let (trials, d) := tryEntries rest d
    (trial :: trials, d)

/-! ## Merging -/

/-- The candidate of an entry that found something on a page of `domain`. -/
def Entry.block (domain : String) (type : RuleType) (e : Entry) : Block where
  domain := domain
  silent := e.silent.getD false
  type := type
  source := e.selector
  id := e.id
  aggressive := e.aggressive.getD false

/-- Counts a trial and queues what it found. -/
def mergeTrial (domain : String) (acc : ProcessReport × Context N) (t : Trial N) :
    ProcessReport × Context N :=
  let (r, c) := acc
  match t with
  | .skipped => ({ r with skipped := r.skipped + 1 }, c)
  | .evaluated type entry (.error error) =>
    ({ r with
        evaluated := r.evaluated + 1
        failures := r.failures ++ [⟨type, entry.selector, error⟩] }, c)
  | .evaluated type entry (.ok found) =>
    let r := { r with evaluated := r.evaluated + 1 }
    if found.isEmpty then (r, c)
    else if type.isPageBlock then
      let (new, c) := c.addBlock (entry.block domain type)
      ({ r with
          matched := r.matched + 1
          urlsQueued := if new then r.urlsQueued + 1 else r.urlsQueued }, c)
    else
      let (new, c) := c.addElements found
      ({ r with matched := r.matched + 1, elementsQueued := r.elementsQueued + new }, c)

/-- What processing a page gives. -/
structure Processed (D N : Type) where
  report : ProcessReport
  context : Context N
  document : D
  patterns : PatternCache

/-- Processes a page into a context.  The domain of candidates on a page without host is empty. -/
def process (rules : Database) (url : String) (patterns : PatternCache) (d : D)
    (c : Context N) : Processed D N :=
  let (entries, patterns) := applicable rules url patterns
  let (trials, d) := tryEntries entries d
  let domain := (Url.pageHost? url).getD ""
  let (report, context) := trials.foldl (mergeTrial domain) (({} : ProcessReport), c)
  { report, context, document := d, patterns }

end PageGuard
