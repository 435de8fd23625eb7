import Mnslp.Session.Life

/-! Events that come too late, or that are not meant for the state a session is in. -/
namespace Mnslp.Session
open Mnslp.Lib Mnslp.Msg
namespace NodeSession

/-- The timers whose events the state of a session handles. -/
def awaited : NodeSession → List Nat
  | .initiator s => match s.state with
    | .close => []
    | .pending => [s.responseTimer]
    | .metering => [s.refreshTimer,s.responseTimer]
  | .forwarder s => match s.state with
    | .close => []
    | .pending => [s.stateTimer]
    | .metering => [s.responseTimer,s.stateTimer]
  | .responder s => match s.state with
    | .metering => [s.stateTimer]
    | _ => []

/-- The request whose RESPONSE the state of a session waits for. -/
def request : NodeSession → Option NtlpMsg
  | .initiator s => if s.state = .pending then s.lastConfigureMsg else s.lastRefreshMsg
  | .forwarder s => if s.state = .pending then s.configureMessage else s.refreshMessage
  | .responder _ => none

/-- A responder sends no requests. -/
def StoresRequest : NodeSession → Prop
  | .responder _ => True
  | s => s.request ≠ none

def handles : NodeSession → List MsgKind
  | .initiator _ => [.response]
  | .forwarder s => if s.state = .pending then [.configure,.response] else [.refresh,.response]
  | .responder _ => [.refresh]

inductive Stale (s : NodeSession) : Event → Prop
  | timer {id : Nat} (nonzero : id ≠ 0) (other : id ∉ s.awaited) : Stale s (.timer id)
  | response {m : NtlpMsg} {forThisNode : Bool} (kind : m.msg.kind = .response)
      (mismatch : ∀ request, s.request = some request →
        m.msg.hasMsgSequenceNumber = false ∨ m.msg.getMsgSequenceNumber ≠ request.msg.getMsgSequenceNumber) :
      Stale s (.msg m forThisNode)
  | message {m : NtlpMsg} {forThisNode : Bool} (unhandled : m.msg.kind ∉ s.handles) : Stale s (.msg m forThisNode)

namespace Stale
variable {s : NodeSession} {evt : Event}

theorem isTimer (stale : s.Stale evt) {id : Nat} (awaits : id ∈ s.awaited) : evt.isTimer id = false := by
  cases stale with
  | timer nonzero other =>
    rename_i fired
    have different : fired ≠ id := fun same => other (same ▸ awaits)
    simp [Event.isTimer,different]
  | response | message => rfl

theorem notReached (stale : s.Stale evt) : evt.isNoNextNodeFound = false := by cases stale <;> rfl

theorem routed (stale : s.Stale evt) : evt.isRouteChangedBad = false := by cases stale <;> rfl

theorem notTorn (stale : s.Stale evt) : evt.isApiTeardown = false := by cases stale <;> rfl

theorem ofKind (stale : s.Stale evt) {kind : MsgKind} (handled : kind ∈ s.handles) (other : kind ≠ .response) :
    evt.ofKind kind = none := by
  cases stale with
  | timer => rfl
  | response isResponse _ =>
    have different : ¬ MsgKind.response = kind := fun same => other same.symm
    simp [Event.ofKind,isResponse,different]
  | message unhandled =>
    rename_i m _
    have different : m.msg.kind ≠ kind := fun same => unhandled (same ▸ handled)
    simp [Event.ofKind,different]

theorem mnslpResponse (stale : s.Stale evt) (responses : .response ∈ s.handles) {request : NtlpMsg}
    (stored : s.request = some request) : evt.mnslpResponse request = none := by
  apply Option.eq_none_iff_forall_ne_some.mpr
  intro m found
  obtain ⟨response,_,numbered,same⟩ := Event.mnslpResponse_eq_some.mp found
  obtain ⟨⟨forThisNode,rfl⟩,kind⟩ := Event.ofKind_eq_some.mp response
  cases stale with
  | response _ mismatch =>
    rcases mismatch request stored with unnumbered | different
    · rw [unnumbered] at numbered
      cases numbered
    · exact different same.symm
  | message unhandled =>
    apply unhandled
    rwa [kind]

end Stale

section
variable {d : Dispatcher} {evt : Event}

private theorem initiator_inert {s : NiSession} (isOpen : s.state ≠ .close)
    (stores : (initiator s).StoresRequest) (stale : (initiator s).Stale evt) : s.processEvent d evt = .ok (s,[]) := by
  obtain ⟨request,stored⟩ := Option.ne_none_iff_exists'.mp stores
  have unanswered : evt.mnslpResponse request = none := stale.mnslpResponse (by simp [handles]) stored
  unfold NiSession.processEvent
  cases state : s.state with
  | close => exact absurd state isOpen
  | pending =>
    have waiting : evt.isTimer s.responseTimer = false := stale.isTimer (by simp [awaited,state])
    have configure : s.lastConfigureMsg = some request := by simpa [NodeSession.request,state] using stored
    simp [NiSession.handleStatePending,waiting,stale.notReached,stale.notTorn,NiSession.getLastConfigureMessage,configure,
      Call.assertSome,unanswered]
  | metering =>
    have resting : evt.isTimer s.refreshTimer = false := stale.isTimer (by simp [awaited,state])
    have waiting : evt.isTimer s.responseTimer = false := stale.isTimer (by simp [awaited,state])
    have refresh : s.lastRefreshMsg = some request := by simpa [NodeSession.request,state] using stored
    simp [NiSession.handleStateMetering,resting,waiting,stale.notTorn,NiSession.getLastRefreshMessage,refresh,
      Call.assertSome,unanswered]

private theorem forwarder_inert {conf : NfConfig} {s : NfSession} (isOpen : s.state ≠ .close)
    (stores : (forwarder s).StoresRequest) (stale : (forwarder s).Stale evt) :
    s.processEvent conf d evt = .ok (s,[]) := by
  obtain ⟨request,stored⟩ := Option.ne_none_iff_exists'.mp stores
  have responses : .response ∈ (forwarder s).handles := by
    simp only [handles]
    split <;> simp
  have unanswered : evt.mnslpResponse request = none := stale.mnslpResponse responses stored
  unfold NfSession.processEvent
  cases state : s.state with
  | close => exact absurd state isOpen
  | pending =>
    have waiting : evt.isTimer s.stateTimer = false := stale.isTimer (by simp [awaited,state])
    have other : evt.ofKind .configure = none := stale.ofKind (by simp [handles,state]) (by decide)
    have configure : s.configureMessage = some request := by simpa [NodeSession.request,state] using stored
    simp [NfSession.handleStatePending,other,waiting,stale.notReached,NfSession.getLastConfigureMessage,configure,
      Call.assertSome,unanswered]
  | metering =>
    have waiting : evt.isTimer s.responseTimer = false := stale.isTimer (by simp [awaited,state])
    have holding : evt.isTimer s.stateTimer = false := stale.isTimer (by simp [awaited,state])
    have other : evt.ofKind .refresh = none := stale.ofKind (by simp [handles,state]) (by decide)
    have refresh : s.refreshMessage = some request := by simpa [NodeSession.request,state] using stored
    simp [NfSession.handleStateMetering,other,waiting,holding,stale.notReached,stale.routed,
      NfSession.getLastRefreshMessage,refresh,Call.assertSome,unanswered]

private theorem responder_inert {s : NrSession} (metering : s.state = .metering) (stale : (responder s).Stale evt) :
    s.processEvent d evt = .ok (s,[]) := by
  have holding : evt.isTimer s.stateTimer = false := stale.isTimer (by simp [awaited,metering])
  have other : evt.ofKind .refresh = none := stale.ofKind (by simp [handles]) (by decide)
  unfold NrSession.processEvent
  simp [metering,NrSession.handleStateMetering,other,holding]

end

/-- A responder never waits for anything. -/
def NotWaiting : NodeSession → Prop
  | .responder s => s.state ≠ .pending
  | _ => True

private theorem responder_notWaiting {s next : NrSession} {d : Dispatcher} {evt : Event} {actions : List Action}
    (notWaiting : s.state ≠ .pending) (step : NrSession.Step d s evt next actions) : next.state ≠ .pending := by
  cases step with
  | closeRejected | closeZero | closeIncomplete | closeInstallFailed | closeIgnored | refreshRejected
  | refreshDuplicate | refreshed | meteringIgnored => exact notWaiting
  | closeInstalled | tornDown | timedOut => exact fun other => State.noConfusion other

theorem notWaiting_next {net : Network} {i : Nat} {s next : NodeSession} {turn : Turn} (notWaiting : s.NotWaiting)
    (taken : Next net i s turn next) : next.NotWaiting := by
  obtain ⟨_,ok⟩ := taken
  cases s with
  | initiator s =>
    obtain ⟨s',rfl,_⟩ := initiator_step ok
    trivial
  | forwarder s =>
    obtain ⟨s',rfl,_⟩ := forwarder_step ok
    trivial
  | responder s =>
    obtain ⟨s',rfl,step⟩ := responder_step ok
    exact responder_notWaiting notWaiting step

/-- Stale events change nothing and cause nothing. -/
theorem stale_inert (net : Network) (i : Nat) (start s : NodeSession) (past : List Turn) (isNew : start.IsNew)
    (run : Run (Next net i) start past s) (isOpen : s.state ≠ .close) (stores : s.StoresRequest) (d : Dispatcher)
    (evt : Event) (stale : s.Stale evt) : s.processEvent net i d evt = .ok (s,[]) := by
  have notWaiting : s.NotWaiting := by
    refine run.invariant NotWaiting (fun _ _ _ kept taken => notWaiting_next kept taken) ?_
    cases isNew with
    | initiator | forwarder => trivial
    | responder => exact fun other => State.noConfusion other
  cases s with
  | initiator s =>
    simp only [processEvent,initiator_inert isOpen stores stale]
    rfl
  | forwarder s =>
    simp only [processEvent,forwarder_inert isOpen stores stale]
    rfl
  | responder s =>
    have metering : s.state = .metering := by
      cases state : s.state with
      | close => exact absurd state isOpen
      | pending => exact absurd state notWaiting
      | metering => rfl
    simp only [processEvent,responder_inert metering stale]
    rfl

/-- A forwarder in PENDING that gets the RESPONSE to an older CONFIGURE. -/
theorem stale_inert_older : ∃ past s, Run (Next .direct 0) (.forwarder (.new 0)) past s ∧ s.state = .pending ∧
    s.processEvent .direct 0 .willing (.msg ((NtlpMsg.sample .configure 1 60).createSuccessResponse 60) false) =
      .ok (s,[]) := by
  have isNew : IsNew (.forwarder (.new 0)) := .forwarder 0
  have accepts : processEvent .direct 0 .willing (.forwarder (.new 0)) (.msg (.sample .configure 2 60) false) =
    .ok (_,_) := rfl
  have run : Run (Next .direct 0) (.forwarder (.new 0)) [⟨_,_,_⟩] _ := .single ⟨.inl isNew,accepts⟩
  refine ⟨_,_,run,rfl,stale_inert .direct 0 _ _ _ isNew run (by decide) ?_ _ _ (.response rfl ?_)⟩
  · exact fun none => nomatch none
  · rintro request stored
    cases stored
    exact .inr (by decide)

end NodeSession
end Mnslp.Session
