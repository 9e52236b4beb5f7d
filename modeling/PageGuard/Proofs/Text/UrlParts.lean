import PageGuard.Proofs.Text.Hosts
import PageGuard.Proofs.Text.Splitting

/-!
# The parts of a URL

A URL is cut by looking for one character after the other.  `HostSplit.Cuts` says what the parts are
without saying how they are found: which characters are in none of them, and what comes after.

* `splitScheme?_eq_some_iff`, `splitUserinfo_eq_iff`: the cuts before the host.
* `hostSplit?_eq_some_iff`: the parts of a URL.
-/

namespace PageGuard.Url

open Text

theorem endsAuthority_iff {c : Char} : endsAuthority c = true ↔ c = '/' ∨ c = '?' ∨ c = '#' := by
  simp [endsAuthority, or_assoc]

theorem endsAuthority_eq_false_iff {c : Char} :
    endsAuthority c = false ↔ c ≠ '/' ∧ c ≠ '?' ∧ c ≠ '#' := by
  rw [Bool.eq_false_iff, ne_eq, endsAuthority_iff, not_or, not_or]

theorem endsHost_iff {c : Char} : endsHost c = true ↔ endsAuthority c = true ∨ c = ':' := by
  rw [endsHost, Bool.or_eq_true, beq_iff_eq]

theorem endsHost_eq_false_iff {c : Char} :
    endsHost c = false ↔ endsAuthority c = false ∧ c ≠ ':' := by
  rw [Bool.eq_false_iff, ne_eq, endsHost_iff, not_or, Bool.not_eq_true]

/-- The text before the first `/`, `?` or `#`. -/
def authority (cs : List Char) : List Char := cs.takeWhile fun c => !endsAuthority c

/-- The authority of a URL: what stands between `://` and the first `/`, `?` or `#` after it. -/
def authority? (url : String) : Option (List Char) :=
  (splitScheme? url.toList).map fun p => authority p.2

theorem authority_append {a : List Char} (ha : ∀ c ∈ a, endsAuthority c = false) (cs : List Char) :
    authority (a ++ cs) = a ++ authority cs :=
  List.takeWhile_append_of_pos fun c hc => by simp [ha c hc]

/-- **The scheme ends at the first colon**, and two slashes are right after it. -/
theorem splitScheme?_eq_some_iff {url before rest : List Char} :
    splitScheme? url = some (before, rest) ↔
      ∃ scheme, ':' ∉ scheme ∧ before = scheme ++ [':', '/', '/'] ∧ url = before ++ rest := by
  constructor
  · intro h
    have happend := splitScheme?_append h
    unfold splitScheme? at h
    split at h
    · obtain ⟨rfl, rfl⟩ := Prod.mk.inj (Option.some.inj h)
      refine ⟨_, fun hmem => ?_, rfl, happend.symm⟩
      simpa using List.mem_takeWhile_imp hmem
    · cases h
  · rintro ⟨scheme, hscheme, rfl, rfl⟩
    have hne : ∀ c ∈ scheme, decide (c ≠ ':') = true :=
      fun c hc => decide_eq_true fun h => hscheme (h ▸ hc)
    obtain ⟨htake, hdrop⟩ := span_iff.2
      ⟨(List.append_assoc scheme [':', '/', '/'] rest), hne, by simp⟩
    rw [splitScheme?, htake, hdrop]
    rfl

/-- An at sign in the authority has a first one before it. -/
theorem at_mem_authority_iff {cs : List Char} :
    '@' ∈ authority cs ↔ ∃ name rest, cs = name ++ '@' :: rest ∧ '@' ∉ name ∧
      ∀ c ∈ name, endsAuthority c = false := by
  constructor
  · intro hmem
    obtain ⟨name, rest, hauthority, hat⟩ := List.eq_append_cons_of_mem hmem
    have hname : ∀ c ∈ name, endsAuthority c = false := by
      intro c hc
      have hc' : c ∈ authority cs := by simp [hauthority, hc]
      simpa using List.mem_takeWhile_imp hc'
    refine ⟨name, rest ++ cs.dropWhile fun c => !endsAuthority c, ?_, hat, hname⟩
    rw [← List.cons_append, ← List.append_assoc, ← hauthority, authority,
      List.takeWhile_append_dropWhile]
  · rintro ⟨name, rest, rfl, -, hname⟩
    rw [authority_append hname, authority, List.takeWhile_cons_of_pos rfl]
    simp

/-- Before the first at sign of the authority nothing ends it. -/
theorem span_userinfo {name : List Char} (hat : '@' ∉ name)
    (hname : ∀ c ∈ name, endsAuthority c = false) (rest : List Char) :
    ((name ++ '@' :: rest).takeWhile fun c => !(endsAuthority c || c == '@')) = name ∧
      ((name ++ '@' :: rest).dropWhile fun c => !(endsAuthority c || c == '@')) = '@' :: rest := by
  refine span_iff.2 ⟨rfl, fun c hc => ?_, by simp⟩
  have hne : c ≠ '@' := fun h => hat (h ▸ hc)
  simp [hname c hc, hne]

/-- Without an at sign in the authority, none comes before what ends it. -/
theorem dropWhile_ne_at {cs : List Char} (h : '@' ∉ authority cs) (rest : List Char) :
    (cs.dropWhile fun c => !(endsAuthority c || c == '@')) ≠ '@' :: rest := by
  intro hdrop
  obtain ⟨hcs, hname, -⟩ := span_iff.1 ⟨rfl, hdrop⟩
  refine h (at_mem_authority_iff.2 ⟨_, rest, hcs, fun hat => ?_, fun c hc => ?_⟩)
  · simpa using hname _ hat
  · have hc' := hname c hc
    rw [Bool.not_eq_true', Bool.or_eq_false_iff] at hc'
    exact hc'.1

/-- **The userinfo ends at the first at sign of the authority.** -/
theorem splitUserinfo_at {name : List Char} (hat : '@' ∉ name)
    (hname : ∀ c ∈ name, endsAuthority c = false) (rest : List Char) :
    splitUserinfo (name ++ '@' :: rest) = (name ++ ['@'], rest) := by
  obtain ⟨htake, hdrop⟩ := span_userinfo hat hname rest
  rw [splitUserinfo, htake, hdrop]
  rfl

/-- Without an at sign in the authority there is no userinfo. -/
theorem splitUserinfo_of_notMem {cs : List Char} (h : '@' ∉ authority cs) :
    splitUserinfo cs = ([], cs) := by
  rw [splitUserinfo]
  split
  · rename_i rest hdrop
    exact absurd hdrop (dropWhile_ne_at h rest)
  · rfl

/-- What the parts of a URL around its host are: the text of the scheme, the userinfo with the at
sign that ends it, and the rest before and after the host. -/
structure HostSplit.Cuts (s : HostSplit) (url scheme userinfo : List Char) : Prop where
  before : s.before = scheme ++ [':', '/', '/'] ++ userinfo
  text : url = s.before ++ (s.host ++ s.after)
  scheme : ':' ∉ scheme
  userinfo : userinfo = [] ∧ '@' ∉ authority (s.host ++ s.after) ∨
    ∃ name, userinfo = name ++ ['@'] ∧ '@' ∉ name ∧ ∀ c ∈ name, endsAuthority c = false
  host : ∀ c ∈ s.host, endsHost c = false
  after : ∀ c ∈ s.after.head?, endsHost c = true

section Cuts

variable {s : HostSplit} {url scheme userinfo : List Char}

/-- The scheme of a URL with these parts, and what comes after it. -/
theorem HostSplit.Cuts.splitScheme?_eq (h : s.Cuts url scheme userinfo) :
    splitScheme? url =
      some (scheme ++ [':', '/', '/'], userinfo ++ (s.host ++ s.after)) := by
  refine splitScheme?_eq_some_iff.2 ⟨scheme, h.scheme, rfl, ?_⟩
  rw [h.text, h.before, List.append_assoc _ userinfo]

theorem HostSplit.Cuts.splitUserinfo_eq (h : s.Cuts url scheme userinfo) :
    splitUserinfo (userinfo ++ (s.host ++ s.after)) = (userinfo, s.host ++ s.after) := by
  rcases h.userinfo with ⟨rfl, hat⟩ | ⟨name, rfl, hat, hname⟩
  · exact splitUserinfo_of_notMem hat
  · rw [List.append_assoc, List.singleton_append]
    exact splitUserinfo_at hat hname _

/-- **The parts of a URL.** -/
theorem hostSplit?_eq_some_iff :
    hostSplit? url = some s ↔ ∃ scheme userinfo, s.Cuts url scheme userinfo := by
  constructor
  · intro h
    have htext := hostSplit?_append h
    rw [hostSplit?] at h
    obtain ⟨⟨before, rest⟩, hbefore, hparts⟩ := Option.bind_eq_some_iff.1 h
    obtain ⟨scheme, hscheme, rfl, rfl⟩ := splitScheme?_eq_some_iff.1 hbefore
    by_cases hat : '@' ∈ authority rest
    · obtain ⟨name, cs, rfl, hat, hname⟩ := at_mem_authority_iff.1 hat
      obtain ⟨-, hhost, hafter⟩ := span_spec (fun c => !endsHost c) cs
      dsimp only at hparts
      rw [splitUserinfo_at hat hname] at hparts
      obtain rfl := Option.some.inj hparts
      exact ⟨scheme, _, rfl, htext.symm, hscheme, .inr ⟨name, rfl, hat, hname⟩,
        by simpa using hhost, by simpa using hafter⟩
    · obtain ⟨hcs, hhost, hafter⟩ := span_spec (fun c => !endsHost c) rest
      dsimp only at hparts
      rw [splitUserinfo_of_notMem hat] at hparts
      obtain rfl := Option.some.inj hparts
      exact ⟨scheme, [], rfl, htext.symm, hscheme, .inl ⟨rfl, hcs ▸ hat⟩,
        by simpa using hhost, by simpa using hafter⟩
  · rintro ⟨scheme, userinfo, h⟩
    obtain ⟨htake, hdrop⟩ := (span_iff (p := fun c => !endsHost c)).2
      ⟨rfl, by simpa using h.host, by simpa using h.after⟩
    rw [hostSplit?, h.splitScheme?_eq]
    simp only [Option.bind_eq_bind, Option.bind_some, h.splitUserinfo_eq, htake, hdrop]
    rw [← h.before]
    rfl

end Cuts

end PageGuard.Url
