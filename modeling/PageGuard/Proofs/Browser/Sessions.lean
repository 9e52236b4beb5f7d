import PageGuard.Proofs.Browser.Calls

/-!
# Sessions and reloading

A client drives the content script: it makes a call, sees what comes back, and chooses the next one.
What comes back includes the window and the host after the call, so that a client can go on with
the same page and the same host.  It sees nothing of the state but these answers.

* `ContentScript.session`: the calls of a client with their answers.
* `ContentScript.session_congr`: states with the same engine and queue give every client the same
  session.
* `ContentScript.load_all_or_nothing`: a load that throws leaves everything as it was, and after one
  that succeeds nothing tells what was there before.
-/

namespace PageGuard.Browser

/-- What comes back from a call. -/
def Call.Answer {W : Type} : Call W → Type
  | .startLogging _ => Unit
  | .compileFeed _ => Except EntryError FeedSummary
  | .load _ _ => Except EntryError LoadSummary
  | .isLoaded => Bool
  | .process _ _ => Except EntryError PageSummary × Window W
  | .report => Except EntryError Report
  | @Call.scan _ H _ _ _ _ => Except EntryError ScanReport × H
  | @Call.navigate _ H _ _ _ _ _ => Except EntryError NavigationSummary × Window W × H

/-- A call with what came back from it. -/
structure Exchange (W : Type) where
  call : Call W
  answer : call.Answer

/-- What makes the calls: each is chosen after what came back from those before. -/
abbrev Client (W : Type) := List (Exchange W) → Call W

namespace ContentScript

variable {W N : Type} [WebPage W N] [DecidableEq N]

/-- What comes back from a call, with the window and the host after it. -/
def answer (s : ContentScript N) : (c : Call W) → c.Answer
  | .startLogging _ => ()
  | .compileFeed feed => ContentScript.compileFeed feed
  | .load database config => (s.load database config).1
  | .isLoaded => s.isLoaded
  | .process url w => ((s.processPage url w).1, (s.processPage url w).2.2)
  | .report => s.report
  | @Call.scan _ _ _ url tab host => ((s.scan url tab host).1, (s.scan url tab host).2.2)
  | @Call.navigate _ _ _ url tab w host =>
    ((s.navigate url tab w host).1, (s.navigate url tab w host).2.2)

/-- The next `n` calls of a client with what comes back from them, after those made before. -/
def session (client : Client W) :
    Nat → ContentScript N → List (Exchange W) → List (Exchange W)
  | 0, _, past => past
  | n + 1, s, past =>
    session client n (s.after (client past)) (past ++ [⟨client past, s.answer (client past)⟩])

/-! ## What sessions depend on -/

section Congruence

variable {s s' : ContentScript N}

/-- What comes back from a call depends on the engine and the queue alone. -/
theorem answer_congr (h : s.loaded = s'.loaded) (c : Call W) : s.answer c = s'.answer c := by
  obtain ⟨loaded, console⟩ := s
  obtain ⟨loaded', console'⟩ := s'
  obtain rfl : loaded = loaded' := h
  cases c with
  | startLogging level => rfl
  | compileFeed feed => rfl
  | isLoaded => rfl
  | report => rfl
  | load database config =>
    change (load _ database config).1 = (load _ database config).1
    rw [load, load]
    cases readLoad database config <;> rfl
  | process url w =>
    change ((processPage _ url w).1, (processPage _ url w).2.2) =
      ((processPage _ url w).1, (processPage _ url w).2.2)
    unfold processPage
    cases w.current with
    | error e => rfl
    | ok page => cases loaded <;> rfl
  | scan url tab host => cases loaded <;> rfl
  | navigate url tab w host =>
    change ((ContentScript.navigate _ url tab w host).1,
        (ContentScript.navigate _ url tab w host).2.2) =
      ((ContentScript.navigate _ url tab w host).1,
        (ContentScript.navigate _ url tab w host).2.2)
    unfold navigate
    cases w.current with
    | error e => rfl
    | ok page => cases loaded <;> rfl

/-- **States with the same engine and queue give every client the same session.** -/
theorem session_congr (h : s.loaded = s'.loaded) (client : Client W) (n : Nat)
    (past : List (Exchange W)) : session client n s past = session client n s' past := by
  induction n generalizing s s' past with
  | zero => rfl
  | succ n ih =>
    have hloaded : (s.after (client past)).loaded = (s'.after (client past)).loaded := by
      rw [loaded_after, loaded_after, h]
    rw [session, session, answer_congr h]
    exact ih hloaded _

end Congruence

/-! ## Loading -/

/-- A load throws when the database cannot be loaded or the configuration cannot be read. -/
theorem exists_readLoad_error_iff (database : String) (config : Option String) :
    (∃ e, readLoad database config = .error e) ↔
      (∃ e, loadDatabase database = .error e) ∨
        ∃ text, config = some text ∧ Config.ofText? text = none := by
  unfold readLoad readConfig
  cases loadDatabase database with
  | error e => simp [Except.mapError, bind, Except.bind]
  | ok compiled =>
    cases config with
    | none => simp [Except.mapError, bind, Except.bind, pure, Except.pure]
    | some text =>
      cases htext : Config.ofText? text <;>
        simp [Except.mapError, bind, Except.bind, pure, Except.pure, htext]

/-- **A load happens as a whole or not at all.**  It throws exactly when the database cannot be
loaded or the given configuration cannot be read.  Then engine, configuration and queue are what
they were, and every session goes on as without the call.  Otherwise every session goes on as with a
new content script that has made this load and nothing else; only the console is still the one from
before. -/
theorem load_all_or_nothing (s : ContentScript N) (database : String) (config : Option String) :
    ((∃ e, (s.load database config).1 = .error e) ↔
      (∃ e, loadDatabase database = .error e) ∨
        ∃ text, config = some text ∧ Config.ofText? text = none) ∧
    match s.load database config with
    | (.error _, after) =>
      after = s ∧ ∀ (client : Client W) n past,
        session client n after past = session client n s past
    | (.ok summary, after) =>
      (({} : ContentScript N).load database config).1 = .ok summary ∧
        after = { run [(.load database config : Call W)] with console := s.console } ∧
        ∀ (client : Client W) n past,
          session client n after past =
            session client n (run [(.load database config : Call W)]) past := by
  have hrun : run [(.load database config : Call W)] =
      (({} : ContentScript N).load database config).2 := rfl
  rw [hrun, ← exists_readLoad_error_iff, load, load]
  cases readLoad database config with
  | error e => exact ⟨⟨fun _ => ⟨e, rfl⟩, fun _ => ⟨e, rfl⟩⟩, rfl, fun client n past => rfl⟩
  | ok l =>
    refine ⟨⟨?_, ?_⟩, rfl, rfl, fun client n past => session_congr ?_ client n past⟩
    · rintro ⟨e, h⟩
      cases h
    · rintro ⟨e, h⟩
      cases h
    · rfl

end ContentScript

end PageGuard.Browser
