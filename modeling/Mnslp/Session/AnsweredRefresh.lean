import Mnslp.Session.NullAsserts

/-! The response timer of a forwarder after the RESPONSE. Only a REFRESH stops it, so it
goes off although its REFRESH was answered. -/
namespace Mnslp.Session
open Mnslp.Lib Mnslp.Msg
namespace NfSession

/-- An event other than a REFRESH that meets a session not yet closed. -/
def Waits (conf : NfConfig) (s : NfSession) (label : Dispatcher × Event) (next : NfSession) : Prop :=
  s.state ≠ .close ∧ label.2.ofKind .refresh = none ∧ Next conf s label next

/-- The session forwarded a REFRESH and started its response timer. -/
def Forwards (conf : NfConfig) (s : NfSession) (refresh : NtlpMsg) (timer : Nat) (next : NfSession) : Prop :=
  s.state = .metering ∧ refresh.msg.kind = .refresh ∧ ∃ d forThisNode actions seconds,
    processEvent conf d s (.msg refresh forThisNode) = .ok (next,actions) ∧ .startTimer timer seconds ∈ actions

/-- The session got a success RESPONSE to the REFRESH. -/
def Confirms (conf : NfConfig) (s : NfSession) (refresh : NtlpMsg) (next : NfSession) : Prop :=
  ∃ d evt response, evt.mnslpResponse refresh = some response ∧ response.msg.isSuccess = true ∧ Waits conf s (d,evt) next

/-- The event of a timer neither closes the session nor removes its rules nor reports the responder as not
reached, nor does it end with an exception, as one of the installer does behind a removal. -/
structure Survives (conf : NfConfig) (d : Dispatcher) (s : NfSession) (timer : Nat) : Prop where
  unchanged next actions : processEvent conf d s (.timer timer) = .ok (next,actions) →
    next.state ≠ .close ∧ (∀ rule, .remove rule ∉ actions) ∧
      ∀ m, .send m ∈ actions → m.msg.informationCode? ≠ some (MnslpMsg.scPermanentFailure,MnslpMsg.failNrNotReached)
  returns exception : processEvent conf d s (.timer timer) ≠ Call.throw exception

/-- The session is closed, or the timer is still the one its REFRESH started. -/
def Pending (timer : Nat) (s : NfSession) : Prop :=
  s.state = .close ∨ s.state = .metering ∧ s.responseTimer = timer ∧ ∃ request, s.refreshMessage = some request

section
variable {conf : NfConfig} {timer : Nat} {s next : NfSession}

theorem pending_of_forwards {refresh : NtlpMsg} (forwards : Forwards conf s refresh timer next) : next.Pending timer := by
  obtain ⟨state,kind,d,forThisNode,actions,seconds,ok,started⟩ := forwards
  have found (other : MsgKind) (same : other ≠ .refresh) : Event.ofKind other (.msg refresh forThisNode) = none := by
    have different : ¬ MsgKind.refresh = other := fun equal => same equal.symm
    simp [Event.ofKind,kind,different]
  cases step_of_processEvent ok with
  | refreshForwarded state =>
    have same : timer = d.timerId 0 := by simpa using And.left (by simpa using started)
    exact .inr ⟨state,same.symm,_,rfl⟩
  | refreshRejected | refreshDuplicate | meteringIgnored => simp [authenticationFailed] at started
  | closeRejected other | closeDiscarded other | closeNoPath other | closeAccepted other =>
    exact State.noConfusion (state.symm.trans other)
  | pendingRejected other | pendingTerminated other | pendingResent other | pendingNoPath other | pendingReplaced other
  | pendingNotReached other | pendingInstalled other | pendingInstallFailed other | pendingRefused other
  | pendingIgnored other => exact State.noConfusion (state.symm.trans other)
  | meteringNotReached | meteringTimedOut | meteringBadRoute | teardownConfirmed | refreshRefused => exact .inl rfl
  | refreshConfirmed _ _ response =>
    have response := (Event.mnslpResponse_eq_some.mp response).1
    rw [found .response (by decide)] at response
    cases response

theorem pending_waits {label : Dispatcher × Event} (pending : s.Pending timer) (waits : Waits conf s label next) :
    next.Pending timer := by
  obtain ⟨isOpen,notRefresh,actions,ok⟩ := waits
  obtain ⟨state,current,stored⟩ := pending.resolve_left isOpen
  cases step_of_processEvent ok with
  | refreshConfirmed => exact .inr ⟨state,current,stored⟩
  | meteringIgnored => exact .inr ⟨state,current,stored⟩
  | refreshRejected _ refresh | refreshDuplicate _ refresh | refreshForwarded _ refresh =>
    rw [notRefresh] at refresh
    cases refresh
  | meteringNotReached | meteringTimedOut | meteringBadRoute | teardownConfirmed | refreshRefused => exact .inl rfl
  | closeRejected other | closeDiscarded other | closeNoPath other | closeAccepted other =>
    exact absurd other isOpen
  | pendingRejected other | pendingTerminated other | pendingResent other | pendingNoPath other | pendingReplaced other
  | pendingNotReached other | pendingInstalled other | pendingInstallFailed other | pendingRefused other
  | pendingIgnored other => exact State.noConfusion (state.symm.trans other)

/-- The event of the timer in METERING: the rule is removed, with success or not. -/
theorem processEvent_expired {request : NtlpMsg} (state : s.state = .metering) (current : s.responseTimer = timer)
    (stored : s.refreshMessage = some request) (d : Dispatcher) : processEvent conf d s (.timer timer) = do
      let removed ← d.uninstall s.rule
      return ({s with stateTimer := 0, state := .close},
        removed ++ [.send (request.createResponse MnslpMsg.scPermanentFailure MnslpMsg.failNrNotReached)]) := by
  have fired : Event.isTimer (.timer timer) s.responseTimer = true := by simp [Event.isTimer,current]
  simp only [processEvent,state,handleStateMetering,Event.ofKind,fired,or_true,if_true,peerDidNotRespond,
    getLastRefreshMessage,stored,Call.assertSome]
  rfl

theorem survives_iff (pending : s.Pending timer) (d : Dispatcher) : Survives conf d s timer ↔ s.state ≠ .metering := by
  constructor
  · intro survives state
    obtain ⟨_,current,request,stored⟩ := pending.resolve_left (by simp [state])
    have expired := @processEvent_expired conf timer s request state current stored d
    rw [Dispatcher.uninstall_eq] at expired
    by_cases fails : d.RemovalFails s.rule
    · rw [if_pos fails] at expired
      exact survives.returns _ expired
    · rw [if_neg fails,Call.ok_bind] at expired
      exact (survives.unchanged _ _ expired).1 rfl
  · intro left
    have closed := pending.resolve_right fun metering => left metering.1
    have ran : processEvent conf d s (.timer timer) = Call.fault .noReturnValue := by
      simp [processEvent,closed,handleStateClose,Event.ofKind]
    constructor
    · intro next actions ok
      rw [ran] at ok
      cases ok
    · intro exception threw
      rw [ran] at threw
      cases threw

end

/-- The response timer of a REFRESH that was answered leaves the session alone exactly if
the session has left METERING by then. -/
theorem answered_refresh_iff (conf : NfConfig) (id : SessionId) (before later latest : List (Dispatcher × Event))
    (s forwarding waiting confirmed final : NfSession) (refresh : NtlpMsg) (timer : Nat)
    (_reached : Run (Next conf) (new id) before s) (forwards : Forwards conf s refresh timer forwarding)
    (_positive : forwarding.lifetime ≠ 0) (waits : Run (Waits conf) forwarding later waiting)
    (confirms : Confirms conf waiting refresh confirmed) (goesOn : Run (Waits conf) confirmed latest final)
    (d : Dispatcher) : Survives conf d final timer ↔ final.state ≠ .metering := by
  have keep (s next : NfSession) (label : Dispatcher × Event) (pending : s.Pending timer) (taken : Waits conf s label next) :
      next.Pending timer := pending_waits pending taken
  have answered : waiting.Pending timer :=
    waits.invariant (Pending timer) (fun s label next => keep s next label) (pending_of_forwards forwards)
  obtain ⟨d',evt,response,_,_,taken⟩ := confirms
  have start : confirmed.Pending timer := keep _ _ _ answered taken
  exact survives_iff (goesOn.invariant (Pending timer) (fun s label next => keep s next label) start) d

/-- A node that authorizes and installs everything, and whose next timer has the given id. -/
private def timing (id : Nat) : Dispatcher := {Dispatcher.willing with timerId := fun index => id + index}

private def refreshEvent : NtlpMsg := .sample .refresh 2 60

private def answerTo (request : NtlpMsg) : Event := .msg (request.createSuccessResponse 60) false

/-- The events that take a new forwarder to METERING. -/
private def opening : List (Dispatcher × Event) :=
  [(timing 1,.msg (.sample .configure 1 60) false),(timing 2,answerTo (.sample .configure 1 60))]

/-- The session after them, and the timers and the REFRESH that change later. -/
private def metering (stateTimer responseTimer : Nat) (refresh : Option NtlpMsg) (msn : UInt32) : NfSession where
  id := 0
  state := .metering
  msn := msn
  rule := {}
  lifetime := 60
  maxLifetime := 100
  responseTimeout := 100
  stateTimer := stateTimer
  responseTimer := responseTimer
  niMri := some (Mri.invertDirection (NtlpMsg.sample .configure 1 60).mri)
  nrMri := some (NtlpMsg.sample .configure 1 60).mri
  configureMessage := some (NtlpMsg.sample .configure 1 60).copy
  refreshMessage := refresh

private theorem opened : Run (Next ⟨100⟩) (new 0) opening (metering 2 0 none 1) := .cons ⟨_,rfl⟩ (.single ⟨_,rfl⟩)

private theorem forwarded : Forwards ⟨100⟩ (metering 2 0 none 1) refreshEvent 3 (metering 2 3 (some refreshEvent.copy) 2) :=
  ⟨rfl,rfl,timing 3,false,_,100,rfl,by right; left⟩

private theorem confirmed :
    Confirms ⟨100⟩ (metering 2 3 (some refreshEvent.copy) 2) refreshEvent (metering 4 3 (some refreshEvent.copy) 2) :=
  ⟨timing 4,answerTo refreshEvent,_,rfl,rfl,(fun other => State.noConfusion other),rfl,_,rfl⟩

/-- The session is closed by timer 3 although its REFRESH was answered. -/
theorem answered_refresh_times_out : ¬ ∀ (conf : NfConfig) (id : SessionId) (before later latest : List (Dispatcher × Event))
    (s forwarding waiting confirmed final : NfSession) (refresh : NtlpMsg) (timer : Nat),
    Run (Next conf) (new id) before s → Forwards conf s refresh timer forwarding → forwarding.lifetime ≠ 0 →
    Run (Waits conf) forwarding later waiting → Confirms conf waiting refresh confirmed →
    Run (Waits conf) confirmed latest final → ∀ d, Survives conf d final timer := by
  intro all
  have survives := all ⟨100⟩ 0 opening [] [] _ _ _ _ _ refreshEvent 3 opened forwarded (by decide) (.nil _) confirmed
    (.nil _) .willing
  exact (survives.unchanged _ _ rfl).1 rfl

/-- A session that a bad route has closed before. -/
theorem answered_refresh_iff_closed : ∃ final, final.state = .close ∧
    Run (Waits ⟨100⟩) (metering 4 3 (some refreshEvent.copy) 2) [(.willing,.routeChangedBad)] final ∧
    Survives ⟨100⟩ .willing final 3 := by
  have closes : Run (Waits ⟨100⟩) (metering 4 3 (some refreshEvent.copy) 2) [(.willing,.routeChangedBad)] _ :=
    .single ⟨(fun other => State.noConfusion other),rfl,_,rfl⟩
  refine ⟨_,rfl,closes,(answered_refresh_iff ⟨100⟩ 0 opening [] _ _ _ _ _ _ refreshEvent 3 opened forwarded (by decide)
    (.nil _) confirmed closes .willing).mpr ?_⟩
  exact State.noConfusion

end NfSession
end Mnslp.Session
