import Mnslp.Session.Network

/-! What a teardown does to one session, and which facts about routing and the rule keys
in the meters every session keeps while nothing goes wrong with the removal of rules. -/
namespace Mnslp.Session
open Mnslp.Lib Mnslp.Msg

/-- The installer gives back as many keys as it gets. -/
def Dispatcher.Reliable (d : Dispatcher) : Prop := ∀ rule, ¬ d.RemovalFails rule

theorem Dispatcher.reliable_willing : Dispatcher.willing.Reliable := fun _ failed => failed.2 rfl

theorem Dispatcher.Reliable.uninstall {d : Dispatcher} (reliable : d.Reliable) (rule : MtPolicyRule) :
    d.uninstall rule = .ok (removal rule) := (uninstall_eq_ok d rule _).mpr ⟨reliable rule,rfl⟩

/-- Only responses leave against the direction of the path. -/
def NtlpMsg.Routed (m : NtlpMsg) : Prop := m.goesDown = true ∨ m.msg.kind = .response

theorem NtlpMsg.Routed.forwarded {m : NtlpMsg} (routed : m.Routed) : m.copyForForwarding.Routed := by
  rcases routed with down | response
  · exact .inl down
  · exact .inr (by simpa [copyForForwarding] using response)

namespace Action

theorem sentDown_removal_append (rule : MtPolicyRule) (actions : List Action) :
    sentDown (Dispatcher.removal rule ++ actions) = sentDown actions := by
  unfold Dispatcher.removal
  split <;> rfl

theorem meter_removal (rule : MtPolicyRule) : (Dispatcher.removal rule).foldl meter rule.keyStrings = [] := by
  unfold Dispatcher.removal
  split
  · simp [meter,List.filter_eq_nil_iff]
  · rename_i none
    have empty : rule.ruleKeys.entries = [] := List.eq_nil_of_length_eq_zero (Nat.eq_zero_of_not_pos none)
    simp [MtPolicyRule.keyStrings,OrderedMap.values,empty]

end Action

namespace NfSession

/-- The keys a session has in the meter. -/
def keysInMeter (s : NfSession) : List String := if s.state = .metering then s.rule.keyStrings else []

structure Sound (s : NfSession) (installed : List String) : Prop where
  nrMri : ∀ mri, s.nrMri = some mri → mri.goesDown = true
  installed : installed = s.keysInMeter

theorem sound_new (id : SessionId) : (new id).Sound [] := ⟨by simp [new],rfl⟩

private theorem keysInMeter_of_ne {s : NfSession} (state : s.state ≠ .metering) : s.keysInMeter = [] := if_neg state

private theorem keysInMeter_metering {s : NfSession} (state : s.state = .metering) :
    s.keysInMeter = s.rule.keyStrings := if_pos state

section
variable {conf : NfConfig} {d : Dispatcher} {s next : NfSession} {evt : Event} {actions : List Action}
  {installed : List String}

private theorem unmetered (sound : s.Sound installed) (outside : s.state ≠ .metering) : installed = [] :=
  sound.installed.trans (keysInMeter_of_ne outside)

private theorem metered (sound : s.Sound installed) (state : s.state = .metering) : installed = s.rule.keyStrings :=
  sound.installed.trans (keysInMeter_metering state)

private theorem accepts_sound {before : NfSession} {m : NtlpMsg} (accepts : Accepts d before m next actions) :
    next.Sound (actions.foldl Action.meter []) ∧ ∀ sent, .send sent ∈ actions → sent.Routed := by
  cases accepts with
  | intro pathcoupled downstream =>
    refine ⟨⟨fun mri found => ?_,rfl⟩,fun sent member => ?_⟩
    · cases found
      exact downstream
    · simp only [List.mem_cons,Action.send.injEq,reduceCtorEq,List.not_mem_nil,or_false] at member
      subst member
      exact .inl downstream

/-- The rule of a session is in the meter as long as it is in METERING. -/
private theorem sound_meter (sound : s.Sound installed) (step : Step conf d s evt next actions) :
    next.Sound (actions.foldl Action.meter installed) := by
  cases step with
  | closeRejected | closeDiscarded | pendingRejected | pendingResent | pendingIgnored | refreshRejected | refreshDuplicate
  | refreshForwarded | refreshConfirmed | meteringIgnored => exact ⟨sound.nrMri,sound.installed⟩
  | closeNoPath state | pendingTerminated state | pendingNoPath state | pendingNotReached state | pendingRefused state =>
    exact ⟨sound.nrMri,unmetered sound (by simp [state])⟩
  | closeAccepted state configure allowed positive accepts | pendingReplaced state configure stored authorized different accepts =>
    rw [unmetered sound (by simp [state])]
    exact (accepts_sound accepts).1
  | pendingInstalled state =>
    rw [unmetered sound (by simp [state])]
    refine ⟨sound.nrMri,?_⟩
    simp [Action.meter,keysInMeter]
  | pendingInstallFailed state =>
    rw [unmetered sound (by simp [state])]
    refine ⟨sound.nrMri,?_⟩
    simp only [List.foldl_append,List.foldl_cons,List.foldl_nil,Action.meter,List.nil_append,Action.meter_removal]
    rfl
  | meteringNotReached state | refreshRefused state =>
    refine ⟨sound.nrMri,?_⟩
    rw [metered sound state,List.foldl_append,Action.meter_removal]
    rfl
  | meteringTimedOut state | meteringBadRoute state =>
    refine ⟨sound.nrMri,?_⟩
    rw [metered sound state,Action.meter_removal]
    rfl
  | teardownConfirmed state =>
    refine ⟨sound.nrMri,?_⟩
    rw [metered sound state,List.foldl_append]
    exact Action.meter_removal _

theorem sound_step (sound : s.Sound installed) (incoming : ∀ m forThisNode, evt = .msg m forThisNode → m.Routed)
    (step : Step conf d s evt next actions) :
    next.Sound (actions.foldl Action.meter installed) ∧ ∀ sent, .send sent ∈ actions → sent.Routed := by
  have routed {kind : MsgKind} {m : NtlpMsg} (found : evt.ofKind kind = some m) : m.copyForForwarding.Routed := by
    obtain ⟨⟨forThisNode,sent⟩,_⟩ := Event.ofKind_eq_some.mp found
    exact (incoming m forThisNode sent).forwarded
  refine ⟨sound_meter sound step,fun sent member => ?_⟩
  cases step.origin member with
  | first state configure accepts | replaced state configure stored different accepts =>
    exact (accepts_sound accepts).2 sent member
  | resent state configure | terminated state configure => exact routed configure
  | refresh state refresh => exact routed refresh
  | response answer => exact routed (Event.mnslpResponse_eq_some.mp answer).1
  | rejected | notReached | installFailed => exact .inr (NtlpMsg.kind_createResponse _ _ _)
  | teardown state stored response success installed incomplete removable nrMri => exact .inl (sound.nrMri _ nrMri)

end
end NfSession

namespace NrSession

/-- The keys a session has in the meter. -/
def keysInMeter (s : NrSession) : List String := if s.state = .metering then s.rule.keyStrings else []

theorem keysInMeter_step {d : Dispatcher} {s next : NrSession} {evt : Event} {actions : List Action}
    (step : Step d s evt next actions) : actions.foldl Action.meter s.keysInMeter = next.keysInMeter := by
  have unmetered (state : s.state = .close) : s.keysInMeter = [] := if_neg (by simp [state])
  have metered (state : s.state = .metering) : s.keysInMeter = s.rule.keyStrings := if_pos state
  cases step with
  | closeRejected | closeZero | closeIgnored | refreshRejected | refreshDuplicate | meteringIgnored => rfl
  | closeIncomplete state =>
    rw [unmetered state]
    exact (if_neg (by simp [taking,state])).symm
  | closeInstalled state =>
    rw [unmetered state]
    simp [Action.meter,keysInMeter]
  | closeInstallFailed state =>
    rw [unmetered state]
    simp only [List.foldl_append,List.foldl_cons,List.foldl_nil,Action.meter,List.nil_append,Action.meter_removal]
    exact (if_neg (by simp [taking,state])).symm
  | refreshed state =>
    rw [metered state]
    exact (if_pos state).symm
  | tornDown state | timedOut state =>
    rw [metered state,List.foldl_append,Action.meter_removal]
    rfl

theorem routed_step {d : Dispatcher} {s next : NrSession} {evt : Event} {actions : List Action}
    (step : Step d s evt next actions) : ∀ sent, .send sent ∈ actions → sent.Routed :=
  fun _ member => .inr (step.response_sent member)

end NrSession

namespace NiSession

/-- The flow of an initiator's session points down the path. -/
def Directed (s : NiSession) : Prop := ∀ mri, s.mri = some mri → mri.goesDown = true

theorem directed_step {d : Dispatcher} {s next : NiSession} {evt : Event} {actions : List Action}
    (directed : s.Directed) (step : Step d s evt next actions) : next.Directed := by
  cases step with
  | configured =>
    intro mri found
    cases found
    rfl
  | pendingInstalled =>
    obtain ⟨interval,adopted⟩ := adopting_eq d s _
    rw [adopted]
    exact directed
  | _ => exact directed

end NiSession

namespace NfSession

/-- With a reliable installer a session in METERING does not throw. -/
theorem metering_not_thrown {conf : NfConfig} {d : Dispatcher} {s : NfSession} {evt : Event} {exception : Thrown}
    (reliable : d.Reliable) (state : s.state = .metering) :
    processEvent conf d s evt ≠ .error (.thrown exception) := by
  intro threw
  have asked {m : Option NtlpMsg} {assertion : Assertion} {f : NtlpMsg → Call (NfSession × List Action)}
      (stopped : Call.assertSome assertion m >>= f = .error (.thrown exception)) :
      ∃ request, f request = .error (.thrown exception) := by
    cases m with
    | none => cases stopped
    | some request => exact ⟨request,stopped⟩
  simp only [processEvent,state,handleStateMetering,handleRefresh,checkPreconditions_eq,Call.ok_bind,
    peerDidNotRespond,reliable.uninstall] at threw
  split at threw
  · split at threw
    · cases threw
    · split at threw <;> cases threw
  · split at threw
    · obtain ⟨request,threw⟩ := asked threw
      cases threw
    · split at threw
      · cases threw
      · split at threw
        · cases threw
        · obtain ⟨request,threw⟩ := asked threw
          split at threw
          · split at threw
            · cases threw
            · split at threw
              · cases threw
              · simp only [handleRefreshResponse,reliable.uninstall,Call.ok_bind] at threw
                split at threw
                · split at threw <;> cases threw
                · cases threw
          · cases threw

end NfSession

namespace NrSession

theorem metering_not_thrown {d : Dispatcher} {s : NrSession} {evt : Event} {exception : Thrown}
    (reliable : d.Reliable) (state : s.state = .metering) : processEvent d s evt ≠ .error (.thrown exception) := by
  intro threw
  simp only [processEvent,state,handleStateMetering,handleRefresh,checkPreconditions_eq,Call.ok_bind,
    reliable.uninstall] at threw
  split at threw
  · split at threw
    · cases threw
    · split at threw
      · cases threw
      · split at threw <;> cases threw
  · split at threw <;> cases threw

end NrSession

namespace NiSession

/-- The user's teardown closes an open session and sends a REFRESH of lifetime 0. -/
theorem Step.of_teardown {d : Dispatcher} {s next : NiSession} {actions : List Action}
    (step : Step d s .apiTeardown next actions) (isOpen : s.state ≠ .close) :
    next.state = .close ∧ ∃ mri, s.mri = some mri ∧
      actions = Dispatcher.removal s.rule ++ [.send ⟨s.id,mri,0,NtlpMsg.refreshRequest 0 (s.msn + 1)⟩] := by
  cases step with
  | closeIgnored state => exact absurd state isOpen
  | pendingRetried state fired | pendingGivenUp state fired | refreshed state fired | refreshRetried state fired
  | refreshGivenUp state fired => cases fired
  | pendingNotReached state unreachable => cases unreachable
  | pendingTeardown state teardown removable found => exact ⟨rfl,_,found,rfl⟩
  | meteringTeardown state teardown removable found => exact ⟨rfl,_,found,rfl⟩
  | pendingInstalled state stored response | pendingRefused state stored response
  | refreshConfirmed state stored response | refreshRefused state stored response => cases response
  | pendingIgnored state still | meteringIgnored state still => cases still

theorem teardown_not_thrown {d : Dispatcher} {s : NiSession} {exception : Thrown} (reliable : d.Reliable)
    (isOpen : s.state ≠ .close) : processEvent d s .apiTeardown ≠ .error (.thrown exception) := by
  intro threw
  have built {rule : MtPolicyRule} {before : NiSession}
      {last : List Action → NiSession × NtlpMsg → Call (NiSession × List Action)}
      (returns : ∀ removed refreshed, ∃ out, last removed refreshed = .ok out)
      (stopped : (d.uninstall rule >>= fun removed => before.buildRefreshMessage >>= last removed) =
        .error (.thrown exception)) : False := by
    rw [reliable.uninstall,Call.ok_bind] at stopped
    rcases Call.bind_eq_error.mp stopped with failed | ⟨refreshed,_,done⟩
    · rcases Call.bind_eq_error.mp failed with missing | ⟨_,_,done⟩
      · unfold getMri Call.assertSome at missing
        split at missing <;> cases missing
      · cases done
    · obtain ⟨out,returned⟩ := returns (Dispatcher.removal rule) refreshed
      rw [returned] at done
      cases done
  unfold processEvent at threw
  cases state : s.state with
  | close => exact isOpen state
  | pending =>
    rw [state] at threw
    exact built (fun _ _ => ⟨_,rfl⟩) threw
  | metering =>
    rw [state] at threw
    exact built (fun _ _ => ⟨_,rfl⟩) threw

end NiSession

namespace NtlpMsg

/-- The REFRESH of lifetime 0 with a given number. -/
structure IsTeardown (msn : UInt32) (m : NtlpMsg) : Prop where
  kind : m.msg.kind = .refresh
  goesDown : m.goesDown = true
  lifetime : m.msg.getSessionLifetime = 0
  msn : m.msg.msgSequenceNumber? = some msn

/-- A RESPONSE on its way up with a given number. -/
structure IsAnswer (msn : UInt32) (m : NtlpMsg) : Prop where
  kind : m.msg.kind = .response
  goesDown : m.goesDown = false
  msn : m.msg.msgSequenceNumber? = some msn

theorem IsTeardown.forwarded {msn : UInt32} {m : NtlpMsg} (torn : m.IsTeardown msn) :
    m.copyForForwarding.IsTeardown msn where
  kind := by simpa [copyForForwarding] using torn.kind
  goesDown := torn.goesDown
  lifetime := by simpa [copyForForwarding] using torn.lifetime
  msn := by simpa [copyForForwarding] using torn.msn

theorem IsAnswer.forwarded {msn : UInt32} {m : NtlpMsg} (answer : m.IsAnswer msn) :
    m.copyForForwarding.IsAnswer msn where
  kind := by simpa [copyForForwarding] using answer.kind
  goesDown := answer.goesDown
  msn := by simpa [copyForForwarding] using answer.msn

theorem IsTeardown.answered {msn : UInt32} {m : NtlpMsg} (torn : m.IsTeardown msn) (lifetime : UInt32) :
    (m.createSuccessResponse lifetime).IsAnswer msn where
  kind := kind_createSuccessResponse _ _
  goesDown := Mri.goesDown_invertDirection torn.goesDown
  msn := by simpa using torn.msn

end NtlpMsg

/-- The number of a request is greater than the one the session has, and it is authorized. -/
def Dispatcher.Accepts (d : Dispatcher) (m : NtlpMsg) (msn : UInt32) : Prop :=
  d.isAuthorized m = true ∧ isGreaterThan m.msg.getMsgSequenceNumber msn = true

namespace NfSession

/-- The session has passed a teardown on and waits for the RESPONSE. -/
structure Waiting (msn : UInt32) (s : NfSession) : Prop where
  state : s.state = .metering
  lifetime : s.lifetime = 0
  stored : ∃ r, s.refreshMessage = some r ∧ r.msg.msgSequenceNumber? = some msn

section
variable {conf : NfConfig} {d : Dispatcher} {s next : NfSession} {m : NtlpMsg} {forThisNode : Bool}
  {actions : List Action} {msn : UInt32}

theorem Step.of_teardown (step : Step conf d s (.msg m forThisNode) next actions) (torn : m.IsTeardown msn)
    (metering : s.state = .metering) (accepts : d.Accepts m s.msn) :
    next.Waiting msn ∧ actions = [.send m.copyForForwarding,.startTimer (d.timerId 0) s.responseTimeout] := by
  have own {kind : MsgKind} {found : NtlpMsg} (same : Event.ofKind kind (.msg m forThisNode) = some found) :
      found = m := by
    obtain ⟨⟨_,sent⟩,_⟩ := Event.ofKind_eq_some.mp same
    cases sent
    rfl
  have noResponse {request found : NtlpMsg} (response : Event.mnslpResponse (.msg m forThisNode) request = some found) :
      False := by
    obtain ⟨⟨_,sent⟩,kind⟩ := Event.ofKind_eq_some.mp (Event.mnslpResponse_eq_some.mp response).1
    cases sent
    exact MsgKind.noConfusion (torn.kind.symm.trans kind)
  cases step with
  | closeRejected state | closeDiscarded state | closeNoPath state | closeAccepted state
  | pendingRejected state | pendingTerminated state | pendingResent state | pendingNoPath state
  | pendingReplaced state | pendingNotReached state | pendingInstalled state | pendingInstallFailed state
  | pendingRefused state | pendingIgnored state => exact State.noConfusion (metering.symm.trans state)
  | refreshRejected state refresh low unauthorized =>
    cases own refresh
    exact Bool.noConfusion (accepts.1.symm.trans unauthorized)
  | refreshDuplicate state refresh old =>
    cases own refresh
    exact Bool.noConfusion (accepts.2.symm.trans old)
  | refreshForwarded state refresh =>
    cases own refresh
    have zero : capped m.msg.getSessionLifetime s.maxLifetime = 0 := by
      rw [torn.lifetime,capped_of_le UInt32.zero_le]
    exact ⟨⟨state,zero,_,rfl,by simpa [NtlpMsg.copy] using torn.msn⟩,rfl⟩
  | meteringNotReached state unreachable => simp [Event.isNoNextNodeFound,Event.isTimer] at unreachable
  | meteringTimedOut state fired => cases fired
  | meteringBadRoute state route => cases route
  | refreshConfirmed state stored response | teardownConfirmed state stored response
  | refreshRefused state stored response => exact (noResponse response).elim
  | meteringIgnored state refresh => simp [Event.ofKind,torn.kind] at refresh

theorem Step.of_response (step : Step conf d s (.msg m forThisNode) next actions) (waiting : s.Waiting msn)
    (kind : m.msg.kind = .response) :
    (m.msg.msgSequenceNumber? = some msn ∧ next.state = .close ∧
        ∀ sent, .send sent ∈ actions ↔ sent = m.copyForForwarding) ∨
      m.msg.msgSequenceNumber? ≠ some msn ∧ next = s ∧ actions = [] := by
  have noRequest {found : NtlpMsg} (refresh : Event.ofKind .refresh (.msg m forThisNode) = some found) : False := by
    obtain ⟨⟨_,sent⟩,other⟩ := Event.ofKind_eq_some.mp refresh
    cases sent
    exact MsgKind.noConfusion (kind.symm.trans other)
  obtain ⟨r,held,number⟩ := waiting.stored
  have matching {request found : NtlpMsg} (stored : s.refreshMessage = some request)
      (response : Event.mnslpResponse (.msg m forThisNode) request = some found) :
      found = m ∧ m.msg.msgSequenceNumber? = some msn := by
    rw [held] at stored
    cases stored
    obtain ⟨sent,_,has,same⟩ := Event.mnslpResponse_eq_some.mp response
    obtain ⟨⟨_,sent⟩,_⟩ := Event.ofKind_eq_some.mp sent
    cases sent
    refine ⟨rfl,?_⟩
    obtain ⟨value,present⟩ := Option.isSome_iff_exists.mp has
    simp only [MnslpMsg.getMsgSequenceNumber,number,present,Option.getD_some] at same
    rw [present,same]
  cases step with
  | closeRejected state | closeDiscarded state | closeNoPath state | closeAccepted state
  | pendingRejected state | pendingTerminated state | pendingResent state | pendingNoPath state
  | pendingReplaced state | pendingNotReached state | pendingInstalled state | pendingInstallFailed state
  | pendingRefused state | pendingIgnored state => exact State.noConfusion (waiting.state.symm.trans state)
  | refreshRejected state refresh | refreshDuplicate state refresh | refreshForwarded state refresh =>
    exact (noRequest refresh).elim
  | meteringNotReached state unreachable => simp [Event.isNoNextNodeFound,Event.isTimer] at unreachable
  | meteringTimedOut state fired => cases fired
  | meteringBadRoute state route => cases route
  | refreshConfirmed state stored response success positive => exact absurd waiting.lifetime positive
  | teardownConfirmed state stored response =>
    obtain ⟨rfl,same⟩ := matching stored response
    refine .inl ⟨same,rfl,fun sent => ?_⟩
    simp [Action.send_notMem_removal]
  | refreshRefused state stored response =>
    obtain ⟨rfl,same⟩ := matching stored response
    refine .inl ⟨same,rfl,fun sent => ?_⟩
    simp [Action.send_notMem_removal]
  | meteringIgnored state refresh stored unanswered =>
    refine .inr ⟨fun same => ?_,rfl,rfl⟩
    have response : Event.mnslpResponse (.msg m forThisNode) r = some m := by
      refine Event.mnslpResponse_eq_some.mpr ⟨Event.ofKind_eq_some.mpr ⟨⟨_,rfl⟩,kind⟩,?_,?_,?_⟩
      · simp [MnslpMsg.hasMsgSequenceNumber,number]
      · simp [MnslpMsg.hasMsgSequenceNumber,same]
      · simp [MnslpMsg.getMsgSequenceNumber,number,same]
    rw [unanswered r held] at response
    cases response

end
end NfSession

namespace NrSession

theorem Step.of_teardown {d : Dispatcher} {s next : NrSession} {m : NtlpMsg} {forThisNode : Bool}
    {actions : List Action} {msn : UInt32} (step : Step d s (.msg m forThisNode) next actions)
    (torn : m.IsTeardown msn) (metering : s.state = .metering) (accepts : d.Accepts m s.msn) :
    next.state = .close ∧ .send (m.createSuccessResponse 0) ∈ actions := by
  have own {kind : MsgKind} {found : NtlpMsg} (same : Event.ofKind kind (.msg m forThisNode) = some found) :
      found = m := by
    obtain ⟨⟨_,sent⟩,_⟩ := Event.ofKind_eq_some.mp same
    cases sent
    rfl
  cases step with
  | closeRejected state | closeZero state | closeIncomplete state | closeInstalled state | closeInstallFailed state
  | closeIgnored state => exact State.noConfusion (metering.symm.trans state)
  | refreshRejected state refresh low unauthorized =>
    cases own refresh
    exact Bool.noConfusion (accepts.1.symm.trans unauthorized)
  | refreshDuplicate state refresh old =>
    cases own refresh
    exact Bool.noConfusion (accepts.2.symm.trans old)
  | refreshed state refresh newer positive =>
    cases own refresh
    rw [torn.lifetime,capped_of_le UInt32.zero_le] at positive
    exact absurd rfl positive
  | tornDown state refresh =>
    cases own refresh
    exact ⟨rfl,by simp⟩
  | timedOut state fired => cases fired
  | meteringIgnored state refresh => simp [Event.ofKind,torn.kind] at refresh

end NrSession
end Mnslp.Session
