import PageGuard.Threat.Host
import Mathlib.Data.List.Basic

/-!
# Watching a host

A watched host answers every call as the host itself does and notes the call with its answer.  So a
computation that only talks to the host through its calls goes on as before, and the notes tell
which calls it made, in order.

* `Watched`: a host with the notes of its calls.
* `Watched.Follows`: a computation with a watched host runs as the one with the host itself, and a
  property relates its notes to its answer.  `Follows.pure`, `Follows.bind` and one lemma for each
  call of a host give it for whole computations.
-/

namespace PageGuard

/-- A call of a host with its answer. -/
inductive HostEvent where
  | protectionActive (feature url : String) (tab : Int) (answer : Bool)
  | isListed (domain table category : String) (answer : Bool)
  | isExempt (domain : String) (answer : Bool)
  | recordAll (type : RecordType) (tab : Int) (source hit : String) (silent : Bool)
      (answer : Except HostError Unit)
  | updateBadge (tab : Int) (answer : Except HostError Unit)
  | onScam (context : ScamContext) (answer : Except HostError String)
  | navigate (tab : Int) (url : String) (answer : Except HostError Unit)

namespace HostEvent

/-- Which effect was asked for, if any. -/
def effect? : HostEvent → Option HostEffect
  | .recordAll .. => some .recordAll
  | .updateBadge .. => some .updateBadge
  | .onScam .. => some .onScam
  | .navigate .. => some .navigate
  | _ => none

/-- The error of an answer that is one. -/
def errorOf? {α : Type} : Except HostError α → Option HostError
  | .error e => some e
  | .ok _ => none

theorem eq_error_of_errorOf? {α : Type} {answer : Except HostError α} {e : HostError}
    (h : errorOf? answer = some e) : answer = .error e := by
  cases answer with
  | ok a => cases h
  | error e' => exact congrArg Except.error (Option.some.inj h)

/-- How a call failed, if it did. -/
def failure? : HostEvent → Option HostError
  | .recordAll _ _ _ _ _ answer => errorOf? answer
  | .updateBadge _ answer => errorOf? answer
  | .onScam _ answer => errorOf? answer
  | .navigate _ _ answer => errorOf? answer
  | _ => none

/-- A call that failed is named by its failure. -/
def NamesFailure (event : HostEvent) : Prop :=
  ∀ e, event.failure? = some e → event.effect? = some e.call

end HostEvent

/-- The failures of a call name this effect. -/
def HostCall.FailsAs {H α : Type} (effect : HostEffect) (call : HostCall H α) : Prop :=
  ∀ host e, (call host).1 = .error e → e.call = effect

theorem HostCall.FailsAs.bind {H α β : Type} {effect : HostEffect} {x : HostCall H α}
    {f : α → HostCall H β} (hx : HostCall.FailsAs effect x)
    (hf : ∀ a, HostCall.FailsAs effect (f a)) : HostCall.FailsAs effect (x >>= f) := by
  intro host e h
  have hrun : (x >>= f) host = ExceptT.bindCont f (x host).1 (x host).2 := rfl
  rw [hrun] at h
  cases hanswer : (x host).1 with
  | ok a =>
    rw [hanswer] at h
    exact hf a _ e h
  | error e' =>
    rw [hanswer] at h
    exact Except.error.inj h ▸ hx host e' hanswer

theorem HostCall.FailsAs.pure {H α : Type} {effect : HostEffect} (a : α) :
    HostCall.FailsAs effect (Pure.pure a : HostCall H α) :=
  fun _ _ h => nomatch h

/-- The failures of a host name the call that failed. -/
structure Host.NamesFailures (H : Type) [Host H] : Prop where
  recordAll : ∀ type tab source hit silent,
    HostCall.FailsAs .recordAll (Host.recordAll type tab source hit silent : HostCall H Unit)
  updateBadge : ∀ tab, HostCall.FailsAs .updateBadge (Host.updateBadge tab : HostCall H Unit)
  onScam : ∀ context, HostCall.FailsAs .onScam (Host.onScam context : HostCall H String)
  navigate : ∀ tab url, HostCall.FailsAs .navigate (Host.navigate tab url : HostCall H Unit)

/-- A host with notes of its calls. -/
structure Watched (H : Type) where
  host : H
  events : List HostEvent

namespace Watched

variable {H α β : Type}

/-- A host before its first call. -/
def start (host : H) : Watched H := ⟨host, []⟩

/-- Makes a call and notes it. -/
def note (event : α → HostEvent) (call : StateM H α) : StateM (Watched H) α := fun w =>
  let (answer, host) := call w.host
  (answer, ⟨host, w.events ++ [event answer]⟩)

variable [Host H]

instance : Host (Watched H) where
  protectionActive feature url tab :=
    note (.protectionActive feature url tab) (Host.protectionActive feature url tab)
  isListed domain table category :=
    note (.isListed domain table category) (Host.isListed domain table category)
  isExempt domain := note (.isExempt domain) (Host.isExempt domain)
  recordAll type tab source hit silent :=
    note (.recordAll type tab source hit silent)
      (Host.recordAll type tab source hit silent : HostCall H Unit)
  updateBadge tab := note (.updateBadge tab) (Host.updateBadge tab : HostCall H Unit)
  onScam context := note (.onScam context) (Host.onScam context : HostCall H String)
  navigate tab url := note (.navigate tab url) (Host.navigate tab url : HostCall H Unit)

/-! ## Computations with a watched host -/

/-- A computation with a watched host answers and changes the host as the one with the host itself,
and `P` holds of the calls that it notes and its answer.  When the failures of the host name the
calls that failed, they do so in the notes. -/
structure Follows (x : StateM (Watched H) α) (y : StateM H α) (P : List HostEvent → α → Prop) :
    Prop where
  out : ∀ w : Watched H, ∃ events,
    x w = ((y w.host).1, ⟨(y w.host).2, w.events ++ events⟩) ∧
      (Host.NamesFailures H → ∀ event ∈ events, event.NamesFailure) ∧ P events (y w.host).1

namespace Follows

variable {P : List HostEvent → α → Prop}

theorem pure {a : α} (h : P [] a) : Follows (Pure.pure a) (Pure.pure a : StateM H α) P := by
  refine ⟨fun w => ⟨[], ?_, fun _ event hevent => absurd hevent List.not_mem_nil, h⟩⟩
  rw [List.append_nil]
  rfl

/-- A composed computation notes the calls of its first part and then those of its second. -/
theorem bind {x : StateM (Watched H) α} {y : StateM H α} {f : α → StateM (Watched H) β}
    {g : α → StateM H β} {Q : List HostEvent → β → Prop} (hx : Follows x y P)
    (hf : ∀ events a, P events a → Follows (f a) (g a) fun more b => Q (events ++ more) b) :
    Follows (x >>= f) (y >>= g) Q := by
  constructor
  intro w
  obtain ⟨events, hrun, hnamed, hP⟩ := hx.out w
  obtain ⟨more, hmore, hnamed', hQ⟩ :=
    (hf events (y w.host).1 hP).out ⟨(y w.host).2, w.events ++ events⟩
  refine ⟨events ++ more, ?_, fun h event hevent => ?_, hQ⟩
  · have hstep : (x >>= f) w = f (x w).1 (x w).2 := rfl
    rw [hstep, hrun, hmore, List.append_assoc]
    rfl
  · rcases List.mem_append.1 hevent with hevent | hevent
    · exact hnamed h event hevent
    · exact hnamed' h event hevent

/-- A call that may fail goes on with its answer, or ends with its failure. -/
theorem bindCall {x : HostCall (Watched H) α} {y : HostCall H α} {f : α → HostCall (Watched H) β}
    {g : α → HostCall H β} {P : List HostEvent → Except HostError α → Prop}
    {Q : List HostEvent → Except HostError β → Prop} (hx : Follows x.run y.run P)
    (hok : ∀ events a, P events (.ok a) →
      Follows (f a).run (g a).run fun more b => Q (events ++ more) b)
    (herror : ∀ events e, P events (.error e) → Q events (.error e)) :
    Follows (x >>= f).run (y >>= g).run Q := by
  refine Follows.bind (f := ExceptT.bindCont f) (g := ExceptT.bindCont g) hx
    fun events answer hP => ?_
  cases answer with
  | ok a => exact hok events a hP
  | error e =>
    refine Follows.pure ?_
    rw [List.append_nil]
    exact herror events e hP

theorem mono {x : StateM (Watched H) α} {y : StateM H α} {Q : List HostEvent → α → Prop}
    (hx : Follows x y P) (h : ∀ events a, P events a → Q events a) : Follows x y Q := by
  constructor
  intro w
  obtain ⟨events, hrun, hnamed, hP⟩ := hx.out w
  exact ⟨events, hrun, hnamed, h events _ hP⟩

theorem note {event : α → HostEvent} {call : StateM H α}
    (h : Host.NamesFailures H → ∀ host, (event (call host).1).NamesFailure) :
    Follows (Watched.note event call) call fun events a => events = [event a] := by
  refine ⟨fun w => ⟨_, rfl, fun hnames e he => ?_, rfl⟩⟩
  rw [List.mem_singleton.1 he]
  exact h hnames w.host

/-! Each call is noted with its answer. -/

theorem protectionActive (feature url : String) (tab : Int) :
    Follows (Host.protectionActive feature url tab)
      (Host.protectionActive feature url tab : StateM H Bool)
      fun events a => events = [.protectionActive feature url tab a] :=
  note fun _ _ _ h => nomatch h

theorem isListed (domain table category : String) :
    Follows (Host.isListed domain table category)
      (Host.isListed domain table category : StateM H Bool)
      fun events a => events = [.isListed domain table category a] :=
  note fun _ _ _ h => nomatch h

theorem isExempt (domain : String) :
    Follows (Host.isExempt domain) (Host.isExempt domain : StateM H Bool)
      fun events a => events = [.isExempt domain a] :=
  note fun _ _ _ h => nomatch h

/-- A call with an effect, whose failures name it when those of the host name their calls. -/
theorem noteEffect {α : Type} {effect : HostEffect} {event : Except HostError α → HostEvent}
    {call : HostCall H α} (heffect : ∀ answer, (event answer).effect? = some effect)
    (hfailure : ∀ answer, (event answer).failure? = HostEvent.errorOf? answer)
    (hnames : Host.NamesFailures H → HostCall.FailsAs effect call) :
    Follows (Watched.note event call) call fun events a => events = [event a] :=
  note fun h host e he => by
    rw [hfailure] at he
    rw [heffect, hnames h host e (HostEvent.eq_error_of_errorOf? he)]

theorem recordAll (type : RecordType) (tab : Int) (source hit : String) (silent : Bool) :
    Follows (Host.recordAll type tab source hit silent).run
      (Host.recordAll type tab source hit silent : HostCall H Unit).run
      fun events a => events = [.recordAll type tab source hit silent a] :=
  noteEffect (fun _ => rfl) (fun _ => rfl) fun h => h.recordAll type tab source hit silent

theorem updateBadge (tab : Int) :
    Follows (Host.updateBadge tab).run (Host.updateBadge tab : HostCall H Unit).run
      fun events a => events = [.updateBadge tab a] :=
  noteEffect (fun _ => rfl) (fun _ => rfl) fun h => h.updateBadge tab

theorem onScam (context : ScamContext) :
    Follows (Host.onScam context).run (Host.onScam context : HostCall H String).run
      fun events a => events = [.onScam context a] :=
  noteEffect (fun _ => rfl) (fun _ => rfl) fun h => h.onScam context

theorem navigate (tab : Int) (url : String) :
    Follows (Host.navigate tab url).run (Host.navigate tab url : HostCall H Unit).run
      fun events a => events = [.navigate tab url a] :=
  noteEffect (fun _ => rfl) (fun _ => rfl) fun h => h.navigate tab url

end Follows

end Watched

end PageGuard
