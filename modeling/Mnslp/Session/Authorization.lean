import Mnslp.Session.NfStep
import Mnslp.Session.NrStep

/-! Requests that the authorization policy rejects. The check of the lifetime comes first
in the `try` block, so a request above the maximum never reaches the check of the policy. -/
namespace Mnslp.Session
open Mnslp.Lib Mnslp.Msg

private theorem ofKind_msg (kind : MsgKind) (m : NtlpMsg) (forThisNode : Bool) :
    Event.ofKind kind (.msg m forThisNode) = if m.msg.kind = kind then some m else none := rfl

private theorem ofKind_sent {kind : MsgKind} {m found : NtlpMsg} {forThisNode : Bool}
    (same : Event.ofKind kind (.msg m forThisNode) = some found) : found = m ∧ m.msg.kind = kind := by
  obtain ⟨⟨_,sent⟩,equal⟩ := Event.ofKind_eq_some.mp same
  cases sent
  exact ⟨rfl,equal⟩

private theorem mnslpResponse_request {m request : NtlpMsg} {forThisNode : Bool}
    (kind : m.msg.kind = .configure ∨ m.msg.kind = .refresh) :
    Event.mnslpResponse (.msg m forThisNode) request = none := by
  have other : m.msg.kind ≠ .response := by
    rcases kind with same | same <;> simp [same]
  simp [Event.mnslpResponse,Event.ofKind,other]

private theorem not_authenticationFailed {m : NtlpMsg} {severity responseCode : UInt8}
    (different : responseCode ≠ MnslpMsg.failAuthenticationFailed) :
    Action.send (m.createResponse severity responseCode) ∉ authenticationFailed m := by
  intro member
  exact m.createResponse_ne different (Action.send.inj (List.mem_singleton.mp member))

namespace NfSession

structure Keeps (s next : NfSession) : Prop where
  state : next.state = s.state
  lifetime : next.lifetime = s.lifetime
  msn : next.msn = s.msn
  configureMessage : next.configureMessage = s.configureMessage
  refreshMessage : next.refreshMessage = s.refreshMessage

theorem Keeps.refl (s : NfSession) : s.Keeps s := ⟨rfl,rfl,rfl,rfl,rfl⟩

/-- The message leaves the session alone and is answered, if at all, with the failure
of its authentication. -/
def Respects (conf : NfConfig) (d : Dispatcher) (s : NfSession) (m : NtlpMsg) (forThisNode : Bool) : Prop :=
  ∃ next actions, processEvent conf d s (.msg m forThisNode) = .ok (next,actions) ∧ s.Keeps next ∧
    ∀ action ∈ actions, action ∈ authenticationFailed m

/-- What the session and a rejected request must be like for the request to end there. -/
def EndsRejected (conf : NfConfig) (s : NfSession) (m : NtlpMsg) : Prop :=
  match s.state with
  | .close => m.msg.kind = .configure ∧
      (m.msg.getSessionLifetime ≤ conf.nfMaxSessionLifetime ∨ conf.nfMaxSessionLifetime = 0)
  | .pending => ∃ previous, s.configureMessage = some previous ∧
      (m.msg.kind = .configure → previous.msg.kind = .configure)
  | .metering =>
    if m.msg.kind = .refresh then
      m.msg.getSessionLifetime ≤ s.maxLifetime ∨ isGreaterThan m.msg.getMsgSequenceNumber s.msn = false
    else ∃ request, s.refreshMessage = some request

private theorem respects_of_endsRejected {conf : NfConfig} {d : Dispatcher} {s : NfSession} {m : NtlpMsg}
    (forThisNode : Bool) (kind : m.msg.kind = .configure ∨ m.msg.kind = .refresh)
    (rejected : d.isAuthorized m = false) (ends : s.EndsRejected conf m) : Respects conf d s m forThisNode := by
  unfold EndsRejected at ends
  unfold Respects processEvent
  cases state : s.state with
  | close =>
    simp only [state] at ends
    obtain ⟨configure,bounded⟩ := ends
    simp only [handleStateClose,ofKind_msg,if_pos configure,checkPreconditions_eq,rejected,Call.ok_bind]
    by_cases exceeds : m.msg.getSessionLifetime > conf.nfMaxSessionLifetime
    · have zero : conf.nfMaxSessionLifetime = 0 := bounded.resolve_left (by simpa using exceeds)
      simp only [if_pos exceeds]
      simp only [zero,if_true]
      exact ⟨_,_,rfl,⟨rfl,rfl,rfl,rfl,rfl⟩,by simp⟩
    · simp only [if_neg exceeds,Bool.false_eq_true,if_false]
      exact ⟨_,_,rfl,⟨rfl,rfl,rfl,rfl,rfl⟩,fun action member => member⟩
  | pending =>
    simp only [state] at ends
    obtain ⟨previous,stored,same⟩ := ends
    simp only [handleStatePending,ofKind_msg]
    by_cases configure : m.msg.kind = .configure
    · simp only [if_pos configure,handleConfigureAgain,getLastConfigureMessage,stored,Call.assertSome,
        Call.ok_bind,same configure,checkAuthorization,rejected,Call.throw]
      exact ⟨_,_,rfl,.refl s,fun action member => member⟩
    · simp only [if_neg configure,Event.isNoNextNodeFound,Event.isTimer,Event.isAnyTimer,
        getLastConfigureMessage,stored,Call.assertSome,Call.ok_bind,mnslpResponse_request kind]
      exact ⟨_,_,rfl,.refl s,by simp⟩
  | metering =>
    simp only [state] at ends
    simp only [handleStateMetering,ofKind_msg]
    by_cases refresh : m.msg.kind = .refresh
    · simp only [if_pos refresh] at ends ⊢
      simp only [handleRefresh,checkPreconditions_eq,rejected,Call.ok_bind]
      by_cases exceeds : m.msg.getSessionLifetime > s.maxLifetime
      · have old := ends.resolve_left (by simpa using exceeds)
        simp only [if_pos exceeds,old]
        exact ⟨_,_,rfl,.refl s,by simp⟩
      · simp only [if_neg exceeds,Bool.false_eq_true,if_false]
        exact ⟨_,_,rfl,.refl s,fun action member => member⟩
    · simp only [if_neg refresh] at ends ⊢
      obtain ⟨request,stored⟩ := ends
      simp only [Event.isNoNextNodeFound,Event.isTimer,Event.isRouteChangedBad,getLastRefreshMessage,stored,
        Call.assertSome,Call.ok_bind,mnslpResponse_request kind]
      exact ⟨_,_,rfl,.refl s,by simp⟩

private theorem endsRejected_of_respects {conf : NfConfig} {d : Dispatcher} {s : NfSession} {m : NtlpMsg}
    {forThisNode : Bool} (kind : m.msg.kind = .configure ∨ m.msg.kind = .refresh)
    (rejected : d.isAuthorized m = false) (respects : Respects conf d s m forThisNode) : s.EndsRejected conf m := by
  obtain ⟨next,actions,ok,keeps,only⟩ := respects
  have noResponse : ∀ request, Event.mnslpResponse (.msg m forThisNode) request = none :=
    fun request => mnslpResponse_request kind
  unfold EndsRejected
  cases step_of_processEvent ok with
  | closeRejected state configure low =>
    obtain ⟨rfl,same⟩ := ofKind_sent configure
    simp only [state]
    exact ⟨same,.inl (by simpa using low)⟩
  | closeDiscarded state configure zero =>
    obtain ⟨rfl,same⟩ := ofKind_sent configure
    simp only [state]
    refine ⟨same,?_⟩
    unfold capped at zero
    split at zero
    · exact .inr zero
    · rename_i low
      exact .inl (by simpa using low)
  | closeNoPath state configure =>
    obtain ⟨rfl,same⟩ := ofKind_sent configure
    exact absurd (only _ (List.mem_singleton.mpr rfl)) (not_authenticationFailed (by decide))
  | closeAccepted state configure allowed positive accepts =>
    cases accepts
    have still := keeps.state
    rw [state] at still
    cases still
  | pendingRejected state configure stored previousKind =>
    simp only [state]
    exact ⟨_,stored,fun _ => previousKind⟩
  | pendingTerminated state configure stored authorized
  | pendingResent state configure stored authorized
  | pendingNoPath state configure stored authorized
  | pendingReplaced state configure stored authorized =>
    obtain ⟨rfl,same⟩ := ofKind_sent configure
    simp [rejected] at authorized
  | pendingNotReached state stored unreachable =>
    simp [Event.isNoNextNodeFound,Event.isTimer] at unreachable
  | pendingInstalled state stored response
  | pendingInstallFailed state stored response
  | pendingRefused state stored response
  | refreshConfirmed state stored response
  | teardownConfirmed state stored response
  | refreshRefused state stored response =>
    rw [noResponse] at response
    cases response
  | pendingIgnored state configure asked =>
    simp only [state]
    obtain ⟨request,stored⟩ := asked.resolve_left (by simp [Event.isAnyTimer])
    refine ⟨request,stored,fun same => ?_⟩
    simp [Event.ofKind,same] at configure
  | refreshRejected state refresh low =>
    obtain ⟨rfl,same⟩ := ofKind_sent refresh
    simp only [state,if_pos same]
    exact .inl (by simpa using low)
  | refreshDuplicate state refresh old =>
    obtain ⟨rfl,same⟩ := ofKind_sent refresh
    simp only [state,if_pos same]
    exact .inr old
  | refreshForwarded state refresh =>
    obtain ⟨rfl,same⟩ := ofKind_sent refresh
    have member := only _ List.mem_cons_self
    have forwarded := congrArg (fun sent => sent.msg.kind) (Action.send.inj (List.mem_singleton.mp member))
    simp [NtlpMsg.copyForForwarding,same] at forwarded
  | meteringNotReached state unreachable =>
    simp [Event.isNoNextNodeFound,Event.isTimer] at unreachable
  | meteringTimedOut state fired => simp [Event.isTimer] at fired
  | meteringBadRoute state route => simp [Event.isRouteChangedBad] at route
  | meteringIgnored state refresh stored =>
    have other : m.msg.kind ≠ .refresh := fun same => by simp [Event.ofKind,same] at refresh
    simp only [state,if_neg other]
    exact stored

theorem respects_iff {conf : NfConfig} {d : Dispatcher} {s : NfSession} {m : NtlpMsg} (forThisNode : Bool)
    (kind : m.msg.kind = .configure ∨ m.msg.kind = .refresh) (rejected : d.isAuthorized m = false) :
    Respects conf d s m forThisNode ↔ s.EndsRejected conf m :=
  ⟨endsRejected_of_respects kind rejected,respects_of_endsRejected forThisNode kind rejected⟩

end NfSession

namespace NrSession

structure Keeps (s next : NrSession) : Prop where
  state : next.state = s.state
  lifetime : next.lifetime = s.lifetime
  msn : next.msn = s.msn

/-- The message leaves the session alone and is answered, if at all, with the failure
of its authentication. -/
def Respects (d : Dispatcher) (s : NrSession) (m : NtlpMsg) (forThisNode : Bool) : Prop :=
  ∃ next actions, processEvent d s (.msg m forThisNode) = .ok (next,actions) ∧ s.Keeps next ∧
    ∀ action ∈ actions, action ∈ authenticationFailed m

/-- What the session and a rejected request must be like for the request to end there. -/
def EndsRejected (s : NrSession) (m : NtlpMsg) : Prop :=
  match s.state with
  | .close => m.msg.kind = .refresh ∨ m.msg.getSessionLifetime ≤ s.maxLifetime
  | .pending => False
  | .metering => m.msg.kind = .configure ∨ m.msg.getSessionLifetime ≤ s.maxLifetime ∨
      isGreaterThan m.msg.getMsgSequenceNumber s.msn = false

private theorem respects_of_endsRejected {d : Dispatcher} {s : NrSession} {m : NtlpMsg} (forThisNode : Bool)
    (rejected : d.isAuthorized m = false)
    (ends : s.EndsRejected m) : Respects d s m forThisNode := by
  unfold EndsRejected at ends
  unfold Respects processEvent
  cases state : s.state with
  | close =>
    simp only [state] at ends
    simp only [handleStateClose,ofKind_msg]
    by_cases configure : m.msg.kind = .configure
    · have low : ¬ m.msg.getSessionLifetime > s.maxLifetime := by simpa [configure] using ends
      simp only [if_pos configure,checkPreconditions_eq,rejected,if_neg low,Bool.false_eq_true,if_false]
      exact ⟨_,_,rfl,⟨rfl,rfl,rfl⟩,fun action member => member⟩
    · simp only [if_neg configure]
      exact ⟨_,_,rfl,⟨rfl,rfl,rfl⟩,by simp⟩
  | pending => simp only [state] at ends
  | metering =>
    simp only [state] at ends
    simp only [handleStateMetering,ofKind_msg]
    by_cases refresh : m.msg.kind = .refresh
    · simp only [if_pos refresh,handleRefresh,checkPreconditions_eq,rejected,Call.ok_bind]
      by_cases exceeds : m.msg.getSessionLifetime > s.maxLifetime
      · have old := (ends.resolve_left (by simp [refresh])).resolve_left (by simpa using exceeds)
        simp only [if_pos exceeds,old]
        exact ⟨_,_,rfl,⟨rfl,rfl,rfl⟩,by simp⟩
      · simp only [if_neg exceeds,Bool.false_eq_true,if_false]
        exact ⟨_,_,rfl,⟨rfl,rfl,rfl⟩,fun action member => member⟩
    · simp only [if_neg refresh,Event.isTimer]
      exact ⟨_,_,rfl,⟨rfl,rfl,rfl⟩,by simp⟩

private theorem endsRejected_of_respects {d : Dispatcher} {s : NrSession} {m : NtlpMsg} {forThisNode : Bool}
    (kind : m.msg.kind = .configure ∨ m.msg.kind = .refresh) (rejected : d.isAuthorized m = false)
    (respects : Respects d s m forThisNode) : s.EndsRejected m := by
  obtain ⟨next,actions,ok,keeps,only⟩ := respects
  have notConfigure (none : Event.ofKind .configure (.msg m forThisNode) = none) : m.msg.kind = .refresh :=
    kind.resolve_left (fun same => by simp [Event.ofKind,same] at none)
  have notRefresh (none : Event.ofKind .refresh (.msg m forThisNode) = none) : m.msg.kind = .configure :=
    kind.resolve_right (fun same => by simp [Event.ofKind,same] at none)
  unfold EndsRejected
  cases step_of_processEvent ok with
  | closeRejected state configure low =>
    obtain ⟨rfl,same⟩ := ofKind_sent configure
    simp only [state]
    exact .inr (by simpa using low)
  | closeZero state configure | closeIncomplete state configure =>
    obtain ⟨rfl,same⟩ := ofKind_sent configure
    exact absurd (only _ (List.mem_singleton.mpr rfl)) (not_authenticationFailed (by decide))
  | closeInstalled state configure | closeInstallFailed state configure =>
    have installed := List.mem_singleton.mp (only _ List.mem_cons_self)
    cases installed
  | closeIgnored state other =>
    simp only [state]
    exact .inl (notConfigure other)
  | refreshRejected state refresh low =>
    obtain ⟨rfl,same⟩ := ofKind_sent refresh
    simp only [state]
    exact .inr (.inl (by simpa using low))
  | refreshDuplicate state refresh old =>
    obtain ⟨rfl,same⟩ := ofKind_sent refresh
    simp only [state]
    exact .inr (.inr old)
  | refreshed state refresh =>
    obtain ⟨rfl,same⟩ := ofKind_sent refresh
    have sent := congrArg (fun resp => resp.msg.isSuccess)
      (Action.send.inj (List.mem_singleton.mp (only _ List.mem_cons_self)))
    simp only [NtlpMsg.isSuccess_createSuccessResponse] at sent
    simp [MnslpMsg.isSuccess,MnslpMsg.scSuccess,MnslpMsg.scPermanentFailure] at sent
  | tornDown state =>
    have still := keeps.state
    rw [state] at still
    cases still
  | timedOut state fired => simp [Event.isTimer] at fired
  | meteringIgnored state refresh =>
    simp only [state]
    exact .inl (notRefresh refresh)

theorem respects_iff {d : Dispatcher} {s : NrSession} {m : NtlpMsg} (forThisNode : Bool)
    (kind : m.msg.kind = .configure ∨ m.msg.kind = .refresh) (rejected : d.isAuthorized m = false) :
    Respects d s m forThisNode ↔ s.EndsRejected m :=
  ⟨endsRejected_of_respects kind rejected,respects_of_endsRejected forThisNode rejected⟩

end NrSession

/-- A rejected request has no effect exactly when it ends at the check of the policy or
as a duplicate. -/
theorem rejection_respected_iff (d : Dispatcher) (m : NtlpMsg) (forThisNode : Bool)
    (kind : m.msg.kind = .configure ∨ m.msg.kind = .refresh) (rejected : d.isAuthorized m = false) :
    (∀ conf s, NfSession.Respects conf d s m forThisNode ↔ NfSession.EndsRejected conf s m) ∧
      ∀ s, NrSession.Respects d s m forThisNode ↔ NrSession.EndsRejected s m :=
  ⟨fun _ _ => NfSession.respects_iff forThisNode kind rejected,
    fun _ => NrSession.respects_iff forThisNode kind rejected⟩

/-- A node whose policy rejects every message. -/
private def rejecting : Dispatcher := {Dispatcher.willing with isAuthorized := fun _ => false}

/-- A new responder installs for a rejected CONFIGURE of lifetime 101 if 100 is the maximum. -/
theorem rejection_bypassed :
    ¬ ∀ (d : Dispatcher) (m : NtlpMsg) (forThisNode : Bool), m.msg.kind = .configure ∨ m.msg.kind = .refresh →
      d.isAuthorized m = false → ∀ s, NrSession.Respects d s m forThisNode := by
  intro respected
  obtain ⟨next,actions,ok,keeps,-⟩ :=
    respected rejecting (.sample .configure 1 101) true (.inl rfl) rfl (.new 0 ⟨100⟩)
  cases ok
  cases keeps.state

theorem rejection_respected_below : NrSession.Respects rejecting (.new 0 ⟨100⟩) (.sample .configure 1 100) true :=
  ((rejection_respected_iff rejecting (.sample .configure 1 100) true (.inl rfl) rfl).2 _).mpr
    (.inr (by decide))

end Mnslp.Session
