import PageGuard.Proofs.Text.Trimming
import PageGuard.Url
import Mathlib.Data.List.Basic
import Mathlib.Data.List.Infix

/-!
# Hosts inside their URLs

A URL is cut around its host without loss, so the host as written is a piece of the URL, whatever
stands before and after it.

* `occursIn_iff`: the search for a piece of text is the infix order.
* `hostSplit?_append`: the three parts of a URL make up the URL.
* `occursIn_pageHost`: a host without upper-case ASCII letters is found in its URL.
-/

namespace PageGuard

open Text

namespace Text

/-- The search for a piece of text is the infix order on lists of characters. -/
theorem hasInfix_iff {part : List Char} : ∀ {cs : List Char}, hasInfix part cs = true ↔ part <:+: cs
  | [] => by rw [hasInfix, List.isEmpty_iff, List.infix_nil]
  | c :: rest => by
    rw [hasInfix, Bool.or_eq_true, List.isPrefixOf_iff_prefix, hasInfix_iff, List.infix_cons_iff]

theorem occursIn_iff {part whole : String} :
    occursIn part whole = true ↔ part.toList <:+: whole.toList :=
  hasInfix_iff

/-- Every text holds the empty one. -/
theorem occursIn_empty (whole : String) : occursIn "" whole = true :=
  occursIn_iff.2 List.nil_infix

end Text

namespace Url

theorem splitScheme?_append {url scheme rest : List Char}
    (h : splitScheme? url = some (scheme, rest)) : scheme ++ rest = url := by
  unfold splitScheme? at h
  split at h
  · rename_i tail hdrop
    obtain ⟨rfl, rfl⟩ := Prod.mk.inj (Option.some.inj h)
    rw [List.append_assoc]
    show url.takeWhile (· ≠ ':') ++ ':' :: '/' :: '/' :: tail = url
    rw [← hdrop, List.takeWhile_append_dropWhile]
  · cases h

theorem splitUserinfo_append (cs : List Char) :
    (splitUserinfo cs).1 ++ (splitUserinfo cs).2 = cs := by
  unfold splitUserinfo
  split
  · rename_i tail hdrop
    rw [List.append_assoc, List.singleton_append, ← hdrop, List.takeWhile_append_dropWhile]
  · rfl

/-- The three parts of a URL make up the URL. -/
theorem hostSplit?_append {url : List Char} {s : HostSplit} (h : hostSplit? url = some s) :
    s.before ++ (s.host ++ s.after) = url := by
  rw [hostSplit?] at h
  obtain ⟨⟨scheme, rest⟩, hscheme, h⟩ := Option.bind_eq_some_iff.1 h
  have huserinfo := splitUserinfo_append rest
  dsimp only at h
  generalize splitUserinfo rest = userinfo at h huserinfo
  obtain rfl := Option.some.inj h
  rw [List.takeWhile_append_dropWhile, List.append_assoc, huserinfo,
    splitScheme?_append hscheme]

/-- The host of a URL is a piece of it. -/
theorem host?_isInfix {url host : String} (h : host? url = some host) :
    host.toList <:+: url.toList := by
  rw [host?] at h
  obtain ⟨s, hs, rfl⟩ := Option.map_eq_some_iff.1 h
  rw [String.toList_ofList, ← hostSplit?_append hs]
  exact ⟨s.before, s.after, by rw [List.append_assoc]⟩

/-- **A host without upper-case ASCII letters is found in its URL**, whatever blanks surround the
URL and whatever userinfo and port it has. -/
theorem occursIn_pageHost {url : String}
    (h : ∀ host, host? (trimmed url) = some host → lowerAscii host = host) :
    occursIn ((pageHost? url).getD "") url = true := by
  rw [pageHost?]
  cases hhost : host? (trimmed url) with
  | none => exact occursIn_empty url
  | some host =>
    dsimp only
    by_cases hempty : host.isEmpty = true
    · rw [if_pos hempty]
      exact occursIn_empty url
    · rw [if_neg hempty, h host hhost, Option.getD_some, occursIn_iff]
      have hinfix := host?_isInfix hhost
      rw [trimmed, String.toList_ofList] at hinfix
      exact hinfix.trans (trim_isInfix url.toList)

/-- The domain of a page is its host, except that a leading `www.` is dropped. -/
theorem normalizedDomain_of_host? {url written : String}
    (h : host? (trimmed url) = some written) (hne : written ≠ "") :
    normalizedDomain url = .ofList (withoutWww (lowerAscii written).toList) := by
  rw [normalizedDomain, pageHost?, h]
  dsimp only
  rw [if_neg]
  · rfl
  · rwa [String.isEmpty_iff]

end Url

end PageGuard
