import PageGuard.Proofs.Text.Bytes
import PageGuard.Proofs.Text.UrlParts

/-!
# Where the host of a URL is

The host can be found by searching through the bytes of a URL for the characters that end the parts
before it and the host itself.  All of them are in ASCII, so the positions where such a search stops
are between characters.

The userinfo is skipped up to the first at sign of the authority.  If there is another one, what is
taken for the host begins inside the userinfo.

* `byteHostPosition?_eq`: the search among the bytes finds the host.
* `userinfoBefore_iff`, `HostSplit.Cuts.avoids_iff`: when the host is free of userinfo.
* `hostPosition_placed`: the theorem.
-/

namespace PageGuard.Url

open Text

/-! ## The host among the bytes -/

/-- The position after `://`. -/
def byteSchemeEnd? (bytes : List UInt8) : Option Nat :=
  let colon := nextByte [':'] bytes 0
  if bytes[colon + 1]? = some '/'.toUInt8 ∧ bytes[colon + 2]? = some '/'.toUInt8 then
    some (colon + 3)
  else none

/-- The positions of the start and the end of the host. -/
def byteHostPosition? (bytes : List UInt8) : Option (Nat × Nat) := do
  let schemeEnd ← byteSchemeEnd? bytes
  let stop := nextByte ['@', '/', '?', '#'] bytes schemeEnd
  let start := if bytes[stop]? = some '@'.toUInt8 then stop + 1 else schemeEnd
  return (start, nextByte ['/', '?', '#', ':'] bytes start)

/-- Two slashes are after a colon among the bytes exactly when they are among the characters. -/
theorem slashes_iff {text pre rest : List Char} (htext : text = pre ++ ':' :: rest) :
    ((utf8 text)[byteLength pre + 1]? = some '/'.toUInt8 ∧
      (utf8 text)[byteLength pre + 2]? = some '/'.toUInt8) ↔ ∃ tail, rest = '/' :: '/' :: tail := by
  have hcolon : byteLength (pre ++ [':']) = byteLength pre + 1 := byteLength_append ..
  have hnext : byteLength (pre ++ [':', '/']) = byteLength pre + 2 := byteLength_append ..
  have hfirst : (utf8 text)[byteLength pre + 1]? = some '/'.toUInt8 ↔ rest.head? = some '/' := by
    rw [← hcolon]
    exact getElem?_utf8_eq_some_iff (by rw [htext, List.append_cons]) rfl
  have hsecond (tail : List Char) (hrest : rest = '/' :: tail) :
      (utf8 text)[byteLength pre + 2]? = some '/'.toUInt8 ↔ tail.head? = some '/' := by
    rw [← hnext]
    exact getElem?_utf8_eq_some_iff (by simp [htext, hrest]) rfl
  rw [hfirst]
  constructor
  · rintro ⟨hslash, hslash'⟩
    obtain ⟨tail, rfl⟩ := List.head?_eq_some_iff.1 hslash
    rw [hsecond tail rfl] at hslash'
    obtain ⟨tail', rfl⟩ := List.head?_eq_some_iff.1 hslash'
    exact ⟨tail', rfl⟩
  · rintro ⟨tail, rfl⟩
    exact ⟨rfl, (hsecond _ rfl).2 rfl⟩

/-- **The scheme ends among the bytes where it ends among the characters.** -/
theorem byteSchemeEnd?_eq (url : List Char) :
    byteSchemeEnd? (utf8 url) = (splitScheme? url).map fun p => byteLength p.1 := by
  obtain ⟨hurl, -, hcolon⟩ := span_spec (fun c => decide (c ≠ ':')) url
  have hnext : nextByte [':'] (utf8 url) 0 =
      byteLength (url.takeWhile fun c => decide (c ≠ ':')) := by
    have hfrom := nextByte_eq (show [':'].all isAscii = true from rfl) (List.nil_append url).symm
    simpa using hfrom
  rw [byteSchemeEnd?, hnext, splitScheme?]
  generalize url.takeWhile (fun c => decide (c ≠ ':')) = scheme at *
  generalize url.dropWhile (fun c => decide (c ≠ ':')) = tail at *
  cases tail with
  | nil =>
    have hend : (utf8 url)[byteLength scheme + 1]? = none := by
      rw [hurl, List.append_nil, List.getElem?_eq_none]
      rw [length_utf8]
      exact Nat.le_succ _
    rw [if_neg (by simp [hend])]
    rfl
  | cons c rest =>
    obtain rfl : c = ':' := by simpa using hcolon
    by_cases hslashes : ∃ tail, rest = '/' :: '/' :: tail
    · rw [if_pos ((slashes_iff hurl).2 hslashes)]
      obtain ⟨tail, rfl⟩ := hslashes
      show some (byteLength scheme + 3) = some (byteLength (scheme ++ [':', '/', '/']))
      rw [byteLength_append]
      rfl
    · rw [if_neg (mt (slashes_iff hurl).1 hslashes)]
      split
      · rename_i tail htail
        exact absurd ⟨tail, (List.cons.inj htail).2⟩ hslashes
      · rfl

/-- Up to the first of these characters there is userinfo or, without an at sign, something else. -/
theorem nextByte_userinfo {text before rest : List Char} (htext : text = before ++ rest) :
    nextByte ['@', '/', '?', '#'] (utf8 text) (byteLength before) =
      byteLength (before ++ rest.takeWhile fun c => !(endsAuthority c || c == '@')) := by
  have hstops : (fun c => decide (c ∉ ['@', '/', '?', '#'])) =
      fun c => !(endsAuthority c || c == '@') := by
    funext c
    rw [Bool.eq_iff_iff]
    simp [endsAuthority]
    tauto
  rw [nextByte_eq rfl htext, hstops]

theorem nextByte_host {text before rest : List Char} (htext : text = before ++ rest) :
    nextByte ['/', '?', '#', ':'] (utf8 text) (byteLength before) =
      byteLength before + byteLength (rest.takeWhile fun c => !endsHost c) := by
  have hstops : (fun c => decide (c ∉ ['/', '?', '#', ':'])) = fun c => !endsHost c := by
    funext c
    rw [Bool.eq_iff_iff]
    simp [endsHost, endsAuthority]
    tauto
  rw [nextByte_eq rfl htext, hstops, byteLength_append]

/-- **The host is at the same positions among the bytes as among the characters.** -/
theorem byteHostPosition?_eq (url : String) :
    byteHostPosition? (utf8 url.toList) = hostPosition? url := by
  rw [byteHostPosition?, byteSchemeEnd?_eq, hostPosition?, hostSplit?]
  cases hscheme : splitScheme? url.toList with
  | none => rfl
  | some p =>
    obtain ⟨before, rest⟩ := p
    have htext := (splitScheme?_append hscheme).symm
    generalize url.toList = text at htext
    simp only [Option.map_some, Option.bind_eq_bind, Option.bind_some, nextByte_userinfo htext]
    by_cases hat : '@' ∈ authority rest
    · obtain ⟨name, after, rfl, hat, hname⟩ := at_mem_authority_iff.1 hat
      have hsign : text = (before ++ name) ++ '@' :: after := by rw [htext, List.append_assoc]
      have hstart : byteLength (before ++ name) + 1 = byteLength (before ++ (name ++ ['@'])) := by
        rw [← List.append_assoc, byteLength_append _ ['@']]
        rfl
      have hafter : text = (before ++ (name ++ ['@'])) ++ after := by
        rw [htext, List.append_assoc, List.append_assoc, List.singleton_append]
      rw [(span_userinfo hat hname after).1, if_pos ((getElem?_utf8_eq_some_iff hsign rfl).2 rfl),
        hstart, nextByte_host hafter, splitUserinfo_at hat hname]
      rfl
    · have hcut := (span_spec (fun c => !(endsAuthority c || c == '@')) rest).1
      have hsign : text = (before ++ rest.takeWhile fun c => !(endsAuthority c || c == '@')) ++
          rest.dropWhile fun c => !(endsAuthority c || c == '@') := by
        rw [List.append_assoc, ← hcut, htext]
      have hnone : ¬ (utf8 text)[byteLength (before ++
          rest.takeWhile fun c => !(endsAuthority c || c == '@'))]? = some '@'.toUInt8 := by
        rw [getElem?_utf8_eq_some_iff hsign rfl, List.head?_eq_some_iff]
        rintro ⟨tail, hdrop⟩
        exact dropWhile_ne_at hat tail hdrop
      rw [if_neg hnone, nextByte_host htext, splitUserinfo_of_notMem hat]
      simp

/-! ## Userinfo -/

/-- Whether the userinfo of an authority, up to its last at sign, is before a position. -/
def UserinfoBefore (schemeEnd : Nat) (authority : List Char) (position : Nat) : Prop :=
  ∀ name rest, authority = name ++ '@' :: rest →
    schemeEnd + byteLength (name ++ ['@']) ≤ position

/-- The userinfo ends at a given at sign exactly when none comes after it. -/
theorem userinfoBefore_iff {name : List Char} (hat : '@' ∉ name) (schemeEnd : Nat)
    (rest : List Char) :
    UserinfoBefore schemeEnd (name ++ '@' :: rest) (schemeEnd + byteLength (name ++ ['@'])) ↔
      '@' ∉ rest := by
  constructor
  · intro h hmem
    obtain ⟨more, last, rfl⟩ := List.append_of_mem hmem
    have hle := h (name ++ '@' :: more) last (by simp)
    have hsign : byteLength ['@'] = 1 := rfl
    simp only [byteLength_append, byteLength_cons, hsign] at hle
    have hpos := ('@').utf8Size_pos
    omega
  · intro hrest name' rest' heq
    obtain ⟨rfl, -, -⟩ := (List.append_cons_inj_of_notMem hat hrest).1 heq
    exact Nat.le_refl _

theorem count_at_le_one_iff {name : List Char} (hat : '@' ∉ name) (rest : List Char) :
    (name ++ '@' :: rest).count '@' ≤ 1 ↔ '@' ∉ rest := by
  rw [List.count_append, List.count_cons_self, List.count_eq_zero_of_not_mem hat, Nat.zero_add,
    ← List.count_eq_zero]
  omega

section Cuts

variable {s : HostSplit} {url scheme userinfo : List Char}

/-- The host is in the authority behind the userinfo. -/
theorem HostSplit.Cuts.authority_eq (h : s.Cuts url scheme userinfo) :
    authority (userinfo ++ (s.host ++ s.after)) =
      userinfo ++ (s.host ++ authority s.after) := by
  have hhost : ∀ c ∈ s.host, endsAuthority c = false :=
    fun c hc => (endsHost_eq_false_iff.1 (h.host c hc)).1
  have huserinfo : ∀ c ∈ userinfo, endsAuthority c = false := by
    rcases h.userinfo with ⟨rfl, -⟩ | ⟨name, rfl, -, hname⟩
    · simp
    · intro c hc
      rcases List.mem_append.1 hc with hc | hc
      · exact hname c hc
      · obtain rfl := List.mem_singleton.1 hc
        rfl
  rw [authority_append huserinfo, authority_append hhost]

/-- **The host is free of userinfo exactly when there is no host or at most one at sign.** -/
theorem HostSplit.Cuts.avoids_iff (h : s.Cuts url scheme userinfo) :
    ('@' ∉ s.host ∧ (s.host = [] ∨
        UserinfoBefore (byteLength (scheme ++ [':', '/', '/']))
          (userinfo ++ (s.host ++ authority s.after)) (byteLength s.before))) ↔
      s.host = [] ∨ (userinfo ++ (s.host ++ authority s.after)).count '@' ≤ 1 := by
  have hmore : '@' ∉ authority (s.host ++ s.after) ↔ '@' ∉ s.host ++ authority s.after := by
    rw [authority_append fun c hc => (endsHost_eq_false_iff.1 (h.host c hc)).1]
  have hbefore : byteLength s.before =
      byteLength (scheme ++ [':', '/', '/']) + byteLength userinfo := by
    rw [h.before, byteLength_append _ userinfo]
  -- Both sides ask whether an at sign is left behind the userinfo.
  have hleft : UserinfoBefore (byteLength (scheme ++ [':', '/', '/']))
      (userinfo ++ (s.host ++ authority s.after)) (byteLength s.before) ↔
        '@' ∉ s.host ++ authority s.after := by
    rw [hbefore]
    rcases h.userinfo with ⟨rfl, hat⟩ | ⟨name, rfl, hat, -⟩
    · refine iff_of_true (fun name rest heq => ?_) (hmore.1 hat)
      have hmem : '@' ∈ s.host ++ authority s.after := by
        rw [← List.nil_append (s.host ++ authority s.after), heq]
        simp
      exact absurd hmem (hmore.1 hat)
    · rw [List.append_assoc, List.singleton_append]
      exact userinfoBefore_iff hat _ _
  have hcount : (userinfo ++ (s.host ++ authority s.after)).count '@' ≤ 1 ↔
      '@' ∉ s.host ++ authority s.after := by
    rcases h.userinfo with ⟨rfl, hat⟩ | ⟨name, rfl, hat, -⟩
    · refine iff_of_true ?_ (hmore.1 hat)
      rw [List.nil_append, List.count_eq_zero_of_not_mem (hmore.1 hat)]
      exact Nat.zero_le 1
    · rw [List.append_assoc, List.singleton_append]
      exact count_at_le_one_iff hat _
  rw [hleft, hcount]
  constructor
  · exact fun hboth => hboth.2
  · rintro (hempty | hnone)
    · exact ⟨by simp [hempty], .inl hempty⟩
    · exact ⟨fun hmem => hnone (List.mem_append_left _ hmem), .inr hnone⟩

end Cuts

/-! ## Positions -/

/-- What is true of the positions of the host of a URL, after the scheme that ends at `schemeEnd`
and in an authority. -/
structure HostAt (url : String) (schemeEnd : Nat) (authority host : List Char)
    (start stop : Nat) : Prop where
  /-- The positions are found by searching through the bytes. -/
  scanned : byteHostPosition? (utf8 url.toList) = some (start, stop)
  /-- They are behind the scheme, in order and inside the URL. -/
  behind : schemeEnd ≤ start
  ordered : start ≤ stop
  inside : stop ≤ url.utf8ByteSize
  /-- No character is cut at them. -/
  boundaries : String.Pos.Raw.IsValid url ⟨start⟩ ∧ String.Pos.Raw.IsValid url ⟨stop⟩
  /-- The host is between them, and nothing in it ends a host. -/
  slice : slice? start stop url.toList = some host
  delimiters : ∀ c ∈ host, c ≠ '/' ∧ c ≠ '?' ∧ c ≠ '#' ∧ c ≠ ':'
  /-- There is no at sign and no userinfo in it exactly when there is no host, or no second at sign
  in the authority. -/
  avoids : '@' ∉ host ∧ (host = [] ∨ UserinfoBefore schemeEnd authority start) ↔
    host = [] ∨ authority.count '@' ≤ 1

/-- **Where the host of a URL is.** -/
theorem hostPosition_placed {url : String} {start stop : Nat}
    (h : hostPosition? url = some (start, stop)) :
    ∃ schemeEnd authority host, schemeEnd? url = some schemeEnd ∧
      authority? url = some authority ∧ host? url = some (.ofList host) ∧
      HostAt url schemeEnd authority host start stop := by
  have hscanned := (byteHostPosition?_eq url).trans h
  rw [hostPosition?] at h
  obtain ⟨s, hs, hpair⟩ := Option.map_eq_some_iff.1 h
  obtain ⟨rfl, rfl⟩ := Prod.mk.inj hpair
  obtain ⟨scheme, userinfo, hcuts⟩ := hostSplit?_eq_some_iff.1 hs
  have hend : byteLength s.before + byteLength s.host = byteLength (s.before ++ s.host) :=
    (byteLength_append ..).symm
  have hbehind : url.toList = (s.before ++ s.host) ++ s.after := by
    rw [hcuts.text, List.append_assoc]
  refine ⟨_, _, s.host, by rw [schemeEnd?, hcuts.splitScheme?_eq]; rfl,
    by rw [authority?, hcuts.splitScheme?_eq]; rfl, by rw [host?, hs]; rfl, ?_⟩
  refine ⟨hscanned, ?_, Nat.le_add_right .., ?_, ⟨?_, ?_⟩, ?_, ?_, ?_⟩
  · rw [hcuts.before, byteLength_append _ userinfo]
    exact Nat.le_add_right ..
  · rw [hend, ← byteLength_toList, hbehind, byteLength_append _ s.after]
    exact Nat.le_add_right ..
  · rw [← isSome_splitAtByte?_iff, splitAtByte?_eq_some_iff.2 ⟨hcuts.text, rfl⟩]
    rfl
  · rw [← isSome_splitAtByte?_iff, splitAtByte?_eq_some_iff.2 ⟨hbehind, hend⟩]
    rfl
  · exact slice?_eq_some_iff.2 ⟨s.before, s.after, hcuts.text, rfl, hend⟩
  · intro c hc
    obtain ⟨hstays, hcolon⟩ := endsHost_eq_false_iff.1 (hcuts.host c hc)
    obtain ⟨hslash, hquery, hfragment⟩ := endsAuthority_eq_false_iff.1 hstays
    exact ⟨hslash, hquery, hfragment, hcolon⟩
  · dsimp only
    rw [hcuts.authority_eq]
    exact hcuts.avoids_iff

/-- The host behind the userinfo of a URL with a port and with at signs in its path. -/
theorem host_behind_userinfo :
    hostPosition? "https://user:pw@example.com:80/a@b" = some (16, 27) ∧
      ∃ schemeEnd authority host,
        schemeEnd? "https://user:pw@example.com:80/a@b" = some schemeEnd ∧
          authority? "https://user:pw@example.com:80/a@b" = some authority ∧
          host? "https://user:pw@example.com:80/a@b" = some (.ofList host) ∧
          HostAt "https://user:pw@example.com:80/a@b" schemeEnd authority host 16 27 := by
  have h : hostPosition? "https://user:pw@example.com:80/a@b" = some (16, 27) := by decide
  exact ⟨h, hostPosition_placed h⟩

/-- **Only the userinfo up to the first at sign is skipped**: with a second one the rest of the
userinfo is taken for the host, or for a part of it. -/
theorem second_at_in_host :
    hostPosition? "https://a@b@c/" = some (10, 13) ∧ host? "https://a@b@c/" = some "b@c" ∧
      authority? "https://a@b@c/" = some ("a@b@".toList ++ "c".toList) ∧
      host? "https://user@bank.test:pw@scam.test/" = some "bank.test" ∧
      authority? "https://user@bank.test:pw@scam.test/" =
        some ("user@bank.test:pw@".toList ++ "scam.test".toList) := by
  decide

end PageGuard.Url
