import PageGuard.Proofs.Text.Splitting
import PageGuard.Proofs.Text.UrlParts

/-!
# Hosts of URLs of the usual form

`UrlForm` is a URL by its parts, each of them free of the characters that end it.  Behind the host
everything is allowed, so that at signs, colons and whole URLs may stand in a path or a query; in the
userinfo colons are.

* `UrlForm.cuts`: the parts of such a URL.
* `withoutWww_append`, `withoutWww_eq_self`: when a leading `www.` is dropped.
* `UrlForm.hosts_text`: the theorem.
-/

namespace PageGuard.Url

open Text

/-- A URL by its parts. -/
structure UrlForm where
  scheme : String
  userinfo : Option String
  host : String
  port : Option String
  /-- The path, the query and the fragment. -/
  rest : String
  scheme_free : ':' ∉ scheme.toList
  userinfo_free : ∀ u ∈ userinfo, ∀ c ∈ u.toList, c ≠ '@' ∧ c ≠ '/' ∧ c ≠ '?' ∧ c ≠ '#'
  host_nonempty : host ≠ ""
  host_free : ∀ c ∈ host.toList, c ≠ '/' ∧ c ≠ '?' ∧ c ≠ '#' ∧ c ≠ ':' ∧ c ≠ '@'
  port_digits : ∀ p ∈ port, ∀ c ∈ p.toList, isAsciiDigit c = true
  rest_starts : ∀ c ∈ rest.toList.head?, c = '/' ∨ c = '?' ∨ c = '#'

namespace UrlForm

variable (u : UrlForm)

/-- The userinfo with the at sign that ends it, if there is one. -/
def userinfoText : String := (u.userinfo.map (· ++ "@")).getD ""

/-- The port with the colon before it, if there is one. -/
def portText : String := (u.port.map (":" ++ ·)).getD ""

/-- The text of a URL. -/
def text : String := u.scheme ++ "://" ++ u.userinfoText ++ u.host ++ u.portText ++ u.rest

/-- The text of a URL around its host. -/
def split : HostSplit where
  before := u.scheme.toList ++ [':', '/', '/'] ++ u.userinfoText.toList
  host := u.host.toList
  after := u.portText.toList ++ u.rest.toList

theorem toList_text : u.text.toList = u.split.before ++ (u.split.host ++ u.split.after) := by
  simp [text, split, String.toList_append]

theorem endsAuthority_host {c : Char} (hc : c ∈ u.host.toList) : endsAuthority c = false := by
  obtain ⟨hslash, hquery, hfragment, -, -⟩ := u.host_free c hc
  exact endsAuthority_eq_false_iff.2 ⟨hslash, hquery, hfragment⟩

/-- A port is a colon and digits. -/
theorem colon_or_digit_of_mem_portText {c : Char} (hc : c ∈ u.portText.toList) :
    c = ':' ∨ isAsciiDigit c = true := by
  rw [portText] at hc
  cases hport : u.port with
  | none =>
    rw [hport] at hc
    cases hc
  | some p =>
    rw [hport, Option.map_some, Option.getD_some, String.toList_append, List.mem_append] at hc
    rcases hc with hcolon | hdigit
    · exact .inl (List.mem_singleton.1 hcolon)
    · exact .inr (u.port_digits p hport c hdigit)

theorem endsAuthority_portText {c : Char} (hc : c ∈ u.portText.toList) :
    endsAuthority c = false := by
  refine endsAuthority_eq_false_iff.2 ⟨?_, ?_, ?_⟩ <;> rintro rfl <;>
    exact absurd (u.colon_or_digit_of_mem_portText hc) (by decide)

/-- What is behind the port is not in the authority. -/
theorem authority_rest : authority u.rest.toList = [] := by
  rw [authority, (span_iff.2 ⟨(List.nil_append u.rest.toList).symm, by simp, fun c hc => ?_⟩).1]
  simp [endsAuthority_iff.2 (u.rest_starts c hc)]

/-- There is no at sign in the authority behind the userinfo. -/
theorem at_notMem_authority : '@' ∉ authority (u.split.host ++ u.split.after) := by
  rw [split, authority_append fun c => u.endsAuthority_host,
    authority_append fun c => u.endsAuthority_portText, u.authority_rest, List.append_nil,
    List.mem_append, not_or]
  refine ⟨fun hat => ?_, fun hat => ?_⟩
  · obtain ⟨-, -, -, -, hne⟩ := u.host_free '@' hat
    exact hne rfl
  · exact absurd (u.colon_or_digit_of_mem_portText hat) (by decide)

/-- What comes after the host ends it. -/
theorem endsHost_after {c : Char} (hc : c ∈ u.split.after.head?) : endsHost c = true := by
  rw [split, portText] at hc
  cases hport : u.port with
  | none =>
    rw [hport] at hc
    exact endsHost_iff.2 (.inl (endsAuthority_iff.2 (u.rest_starts c hc)))
  | some p =>
    rw [hport, Option.map_some, Option.getD_some, String.toList_append] at hc
    obtain rfl : ':' = c := Option.some.inj hc
    rfl

/-- **The parts of a URL of this form are those from which it is made.** -/
theorem cuts : u.split.Cuts u.text.toList u.scheme.toList u.userinfoText.toList := by
  refine ⟨rfl, u.toList_text, u.scheme_free, ?_, fun c hc => ?_, fun c => u.endsHost_after⟩
  · cases huserinfo : u.userinfo with
    | none => exact .inl ⟨by rw [userinfoText, huserinfo]; rfl, u.at_notMem_authority⟩
    | some name =>
      refine .inr ⟨name.toList, ?_, fun hat => ?_, fun c hc => ?_⟩
      · rw [userinfoText, huserinfo, Option.map_some, Option.getD_some, String.toList_append]
        rfl
      · exact (u.userinfo_free name huserinfo '@' hat).1 rfl
      · exact endsAuthority_eq_false_iff.2 (u.userinfo_free name huserinfo c hc).2
  · obtain ⟨-, -, -, hcolon, -⟩ := u.host_free c hc
    exact endsHost_eq_false_iff.2 ⟨u.endsAuthority_host hc, hcolon⟩

theorem host?_text : host? u.text = some u.host := by
  rw [host?, hostSplit?_eq_some_iff.2 ⟨_, _, u.cuts⟩]
  exact congrArg some String.ofList_toList

theorem pageHost?_text (h : trimmed u.text = u.text) :
    pageHost? u.text = some (lowerAscii u.host) := by
  have hnonempty : ¬ u.host.isEmpty = true := by
    rw [String.isEmpty_iff]
    exact u.host_nonempty
  rw [pageHost?, h, host?_text]
  exact if_neg hnonempty

end UrlForm

/-! ## A leading `www.` -/

/-- **A leading `www.` is dropped when something is left.** -/
theorem withoutWww_append {domain : List Char} (h : domain ≠ []) :
    withoutWww ("www.".toList ++ domain) = domain := by
  rw [withoutWww, afterStart?_eq_some_iff.2 rfl]
  cases domain with
  | nil => exact absurd rfl h
  | cons c domain => rfl

/-- **Nothing else is dropped.** -/
theorem withoutWww_eq_self {domain : List Char}
    (h : ∀ rest, rest ≠ [] → domain ≠ "www.".toList ++ rest) : withoutWww domain = domain := by
  rw [withoutWww]
  split
  · rfl
  · rename_i rest hne hstart
    exact absurd (afterStart?_eq_some_iff.1 hstart) (h rest hne)
  · rfl

/-! ## Hosts -/

/-- **The host of a URL of the usual form is the one from which the URL is made.**  Without blanks
around the URL, the page has that host in lower case, and its domain is this without a leading `www.`
unless nothing would be left. -/
theorem UrlForm.hosts_text (u : UrlForm) :
    host? u.text = some u.host ∧
      (trimmed u.text = u.text →
        pageHost? u.text = some (lowerAscii u.host) ∧
        (∀ domain, domain ≠ "" → lowerAscii u.host = "www." ++ domain →
          normalizedDomain u.text = domain) ∧
        ((∀ domain, domain ≠ "" → lowerAscii u.host ≠ "www." ++ domain) →
          normalizedDomain u.text = lowerAscii u.host)) := by
  refine ⟨u.host?_text, fun htrim => ?_⟩
  have hdomain : normalizedDomain u.text = .ofList (withoutWww (lowerAscii u.host).toList) :=
    normalizedDomain_of_host? (by rw [htrim, u.host?_text]) u.host_nonempty
  refine ⟨u.pageHost?_text htrim, fun domain hne hwww => ?_, fun hother => ?_⟩
  · have hnonempty : domain.toList ≠ [] := by
      rwa [ne_eq, String.toList_eq_nil_iff]
    rw [hdomain, hwww, String.toList_append, withoutWww_append hnonempty, String.ofList_toList]
  · rw [hdomain, withoutWww_eq_self, String.ofList_toList]
    intro rest hne hwww
    refine hother (.ofList rest) ?_ ?_
    · rwa [ne_eq, ← String.toList_eq_nil_iff, String.toList_ofList]
    · rw [← String.toList_inj, hwww, String.toList_append]
      exact congrArg ("www.".toList ++ ·) String.toList_ofList.symm

/-- A URL with another one, and with at signs and colons, in its query. -/
def linkInQuery : UrlForm where
  scheme := "https"
  userinfo := some "user:pw"
  host := "www.Example.com"
  port := some "8080"
  rest := "?next=http://a@b:1"
  scheme_free := by decide
  userinfo_free := by simp
  host_nonempty := by decide
  host_free := by simp
  port_digits := by simp [isAsciiDigit]
  rest_starts := by simp

/-- What is in the query is not taken for the host. -/
theorem linkInQuery_hosts :
    linkInQuery.text = "https://user:pw@www.Example.com:8080?next=http://a@b:1" ∧
      host? linkInQuery.text = some "www.Example.com" ∧
      trimmed linkInQuery.text = linkInQuery.text ∧
      pageHost? linkInQuery.text = some (lowerAscii "www.Example.com") ∧
      normalizedDomain linkInQuery.text = "example.com" := by
  have htrim : trimmed linkInQuery.text = linkInQuery.text := by decide
  obtain ⟨hhost, hpage⟩ := linkInQuery.hosts_text
  obtain ⟨hlower, hwww, -⟩ := hpage htrim
  exact ⟨by decide, hhost, htrim, hlower, hwww "example.com" (by decide) (by decide)⟩

end PageGuard.Url
