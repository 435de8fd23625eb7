import Mnslp.Session.NrSession

/-! What one event can do to a responder's session, branch by branch. -/
namespace Mnslp.Session
open Mnslp.Lib Mnslp.Msg
namespace NrSession

def taking (s : NrSession) (lifetime : UInt32) (m : NtlpMsg) : NrSession :=
  {s with lifetime := lifetime, msn := m.msg.getMsgSequenceNumber}

inductive Step (d : Dispatcher) (s : NrSession) : Event → NrSession → List Action → Prop
  | closeRejected {evt : Event} {m : NtlpMsg} (state : s.state = .close) (configure : evt.ofKind .configure = some m)
      (low : ¬ m.msg.getSessionLifetime > s.maxLifetime) (unauthorized : d.isAuthorized m = false) :
      Step d s evt s (authenticationFailed m)
  | closeZero {evt : Event} {m : NtlpMsg} (state : s.state = .close) (configure : evt.ofKind .configure = some m)
      (zero : capped m.msg.getSessionLifetime s.maxLifetime = 0) :
      Step d s evt s [.send (m.createResponse MnslpMsg.scPermanentFailure MnslpMsg.failConfigurationFailed)]
  | closeIncomplete {evt : Event} {m : NtlpMsg} {objects missing : List MspecObject} {rule : MtPolicyRule}
      (state : s.state = .close) (configure : evt.ofKind .configure = some m)
      (positive : capped m.msg.getSessionLifetime s.maxLifetime ≠ 0)
      (collected : m.msg.getMspecObjects = .ok objects)
      (selected : selectObjects d .receiver m.msg.getSelectionMeteringEntities s.rule objects = (rule,missing))
      (left : missing ≠ []) :
      Step d s evt {s.taking (capped m.msg.getSessionLifetime s.maxLifetime) m with rule := rule}
        [.send (m.createResponse MnslpMsg.scPermanentFailure MnslpMsg.failInternalError)]
  | closeInstalled {evt : Event} {m : NtlpMsg} {objects : List MspecObject} {rule result : MtPolicyRule}
      (state : s.state = .close) (configure : evt.ofKind .configure = some m)
      (allowed : m.msg.getSessionLifetime > s.maxLifetime ∨ d.isAuthorized m = true)
      (positive : capped m.msg.getSessionLifetime s.maxLifetime ≠ 0)
      (collected : m.msg.getMspecObjects = .ok objects)
      (selected : selectObjects d .receiver m.msg.getSelectionMeteringEntities s.rule objects = (rule,[]))
      (installed : d.installPolicyRules rule = .ok result)
      (complete : result.getNumberMspecObjects = rule.getNumberMspecObjects) :
      Step d s evt
        {s.taking (capped m.msg.getSessionLifetime s.maxLifetime) m with
          rule := result, stateTimer := d.timerId 0, state := .metering}
        [.install result,.send (m.createSuccessResponse (capped m.msg.getSessionLifetime s.maxLifetime)),
          .startTimer (d.timerId 0) (capped m.msg.getSessionLifetime s.maxLifetime)]
  | closeInstallFailed {evt : Event} {m : NtlpMsg} {objects : List MspecObject} {rule result : MtPolicyRule}
      (state : s.state = .close) (configure : evt.ofKind .configure = some m)
      (positive : capped m.msg.getSessionLifetime s.maxLifetime ≠ 0)
      (collected : m.msg.getMspecObjects = .ok objects)
      (selected : selectObjects d .receiver m.msg.getSelectionMeteringEntities s.rule objects = (rule,[]))
      (installed : d.installPolicyRules rule = .ok result)
      (incomplete : result.getNumberMspecObjects ≠ rule.getNumberMspecObjects)
      (removable : ¬ d.RemovalFails result) :
      Step d s evt {s.taking 0 m with rule := result} ([.install result] ++ Dispatcher.removal result ++
        [.send (m.createResponse MnslpMsg.scPermanentFailure MnslpMsg.failInternalError)])
  | closeIgnored {evt : Event} (state : s.state = .close) (other : evt.ofKind .configure = none) : Step d s evt s []
  | refreshRejected {evt : Event} {m : NtlpMsg} (state : s.state = .metering)
      (refresh : evt.ofKind .refresh = some m) (low : ¬ m.msg.getSessionLifetime > s.maxLifetime)
      (unauthorized : d.isAuthorized m = false) :
      Step d s evt s (authenticationFailed m)
  | refreshDuplicate {evt : Event} {m : NtlpMsg} (state : s.state = .metering)
      (refresh : evt.ofKind .refresh = some m)
      (old : isGreaterThan m.msg.getMsgSequenceNumber s.msn = false) :
      Step d s evt s []
  | refreshed {evt : Event} {m : NtlpMsg} (state : s.state = .metering) (refresh : evt.ofKind .refresh = some m)
      (newer : isGreaterThan m.msg.getMsgSequenceNumber s.msn = true)
      (positive : capped m.msg.getSessionLifetime s.maxLifetime ≠ 0) :
      Step d s evt
        {s.taking (capped m.msg.getSessionLifetime s.maxLifetime) m with stateTimer := d.timerId 0}
        [.send (m.createSuccessResponse (capped m.msg.getSessionLifetime s.maxLifetime)),
          .startTimer (d.timerId 0) (capped m.msg.getSessionLifetime s.maxLifetime)]
  | tornDown {evt : Event} {m : NtlpMsg} (state : s.state = .metering) (refresh : evt.ofKind .refresh = some m)
      (newer : isGreaterThan m.msg.getMsgSequenceNumber s.msn = true)
      (zero : capped m.msg.getSessionLifetime s.maxLifetime = 0) (removable : ¬ d.RemovalFails s.rule) :
      Step d s evt {s with stateTimer := 0, state := .close}
        (Dispatcher.removal s.rule ++ [.send (m.createSuccessResponse 0)])
  | timedOut {evt : Event} (state : s.state = .metering) (fired : evt.isTimer s.stateTimer = true)
      (removable : ¬ d.RemovalFails s.rule) :
      Step d s evt {s with state := .close}
        (Dispatcher.removal s.rule ++ [.reportAsyncEvent "session timed out"])
  | meteringIgnored {evt : Event} (state : s.state = .metering) (refresh : evt.ofKind .refresh = none)
      (holding : evt.isTimer s.stateTimer = false) :
      Step d s evt s []

private theorem step_initiate (d : Dispatcher) (s next : NrSession) (evt : Event) (m : NtlpMsg)
    (actions : List Action) (state : s.state = .close) (configure : evt.ofKind .configure = some m)
    (allowed : m.msg.getSessionLifetime > s.maxLifetime ∨ d.isAuthorized m = true)
    (positive : capped m.msg.getSessionLifetime s.maxLifetime ≠ 0)
    (ok : initiateSession d s m (capped m.msg.getSessionLifetime s.maxLifetime) = .ok (next,actions)) :
    Step d s evt next actions := by
  unfold initiateSession at ok
  obtain ⟨⟨saved,missing⟩,save,ok⟩ := Call.bind_eq_ok.mp ok
  simp only [] at ok
  unfold saveMtPolicyRule at save
  split at save
  · cases save
  · obtain ⟨objects,collected,save⟩ := Call.bind_eq_ok.mp save
    cases save
    split at ok
    · rename_i left
      cases ok
      exact .closeIncomplete state configure positive collected rfl (List.ne_nil_of_length_pos left)
    · rename_i none
      have selected : selectObjects d .receiver m.msg.getSelectionMeteringEntities s.rule objects =
          ((selectObjects d .receiver m.msg.getSelectionMeteringEntities s.rule objects).1,[]) :=
        Prod.ext rfl (List.eq_nil_of_length_eq_zero (Nat.eq_zero_of_not_pos none))
      obtain ⟨result,installed,ok⟩ := Call.bind_eq_ok.mp ok
      split at ok
      · rename_i complete
        cases ok
        exact .closeInstalled state configure allowed positive collected selected installed complete
      · rename_i incomplete
        obtain ⟨removed,uninstalled,ok⟩ := Call.bind_eq_ok.mp ok
        obtain ⟨removable,rfl⟩ := (Dispatcher.uninstall_eq_ok _ _ _).mp uninstalled
        cases ok
        exact .closeInstallFailed state configure positive collected selected installed incomplete removable

private theorem step_close (d : Dispatcher) (s next : NrSession) (evt : Event) (actions : List Action)
    (state : s.state = .close) (ok : handleStateClose d s evt = .ok (next,actions)) :
    Step d s evt next actions := by
  unfold handleStateClose at ok
  cases configure : evt.ofKind .configure with
  | none =>
    rw [configure] at ok
    cases ok
    exact .closeIgnored state configure
  | some m =>
    simp only [configure] at ok
    rcases checkPreconditions_cases d m s.maxLifetime with ⟨low,unauthorized,checked⟩ | ⟨allowed,checked⟩
    · rw [checked] at ok
      cases ok
      exact .closeRejected state configure low unauthorized
    · rw [checked,Call.ok_bind] at ok
      simp only [] at ok
      split at ok
      · rename_i positive
        exact step_initiate d s next evt m actions state configure allowed (UInt32.pos_iff_ne_zero.mp positive) ok
      · rename_i zero
        cases ok
        exact .closeZero state configure (by simpa using zero)

private theorem step_refresh (d : Dispatcher) (s next : NrSession) (evt : Event) (m : NtlpMsg)
    (actions : List Action) (state : s.state = .metering) (refresh : evt.ofKind .refresh = some m)
    (ok : handleRefresh d s m = .ok (next,actions)) : Step d s evt next actions := by
  unfold handleRefresh at ok
  rcases checkPreconditions_cases d m s.maxLifetime with ⟨low,unauthorized,checked⟩ | ⟨allowed,checked⟩
  · rw [checked] at ok
    cases ok
    exact .refreshRejected state refresh low unauthorized
  · rw [checked,Call.ok_bind] at ok
    simp only [] at ok
    split at ok
    · rename_i old
      cases ok
      exact .refreshDuplicate state refresh (by simpa using old)
    · rename_i newer
      split at ok
      · rename_i positive
        cases ok
        exact .refreshed state refresh (by simpa using newer) (UInt32.pos_iff_ne_zero.mp positive)
      · rename_i zero
        have none : capped m.msg.getSessionLifetime s.maxLifetime = 0 := by simpa using zero
        obtain ⟨removed,uninstalled,ok⟩ := Call.bind_eq_ok.mp ok
        obtain ⟨removable,rfl⟩ := (Dispatcher.uninstall_eq_ok _ _ _).mp uninstalled
        cases ok
        rw [none]
        exact .tornDown state refresh (by simpa using newer) none removable

private theorem step_metering (d : Dispatcher) (s next : NrSession) (evt : Event) (actions : List Action)
    (state : s.state = .metering) (ok : handleStateMetering d s evt = .ok (next,actions)) :
    Step d s evt next actions := by
  unfold handleStateMetering at ok
  cases refresh : evt.ofKind .refresh with
  | some m =>
    rw [refresh] at ok
    exact step_refresh d s next evt m actions state refresh ok
  | none =>
    simp only [refresh] at ok
    split at ok
    · rename_i fired
      obtain ⟨removed,uninstalled,ok⟩ := Call.bind_eq_ok.mp ok
      obtain ⟨removable,rfl⟩ := (Dispatcher.uninstall_eq_ok _ _ _).mp uninstalled
      cases ok
      exact .timedOut state fired removable
    · rename_i holding
      cases ok
      exact .meteringIgnored state refresh (by simpa using holding)

theorem step_of_processEvent {d : Dispatcher} {s next : NrSession} {evt : Event} {actions : List Action}
    (ok : processEvent d s evt = .ok (next,actions)) : Step d s evt next actions := by
  unfold processEvent at ok
  cases state : s.state <;> rw [state] at ok
  · exact step_close d s next evt actions state ok
  · cases ok
  · exact step_metering d s next evt actions state ok

theorem Step.entering {d : Dispatcher} {s next : NrSession} {evt : Event} {actions : List Action}
    (step : Step d s evt next actions) (outside : s.state ≠ .metering) (inside : next.state = .metering) :
    ∃ m objects rule, s.state = .close ∧ evt.ofKind .configure = some m ∧ m.msg.getMspecObjects = .ok objects ∧
      selectObjects d .receiver m.msg.getSelectionMeteringEntities s.rule objects = (rule,[]) ∧
      d.installPolicyRules rule = .ok next.rule ∧ next.rule.getNumberMspecObjects = rule.getNumberMspecObjects ∧
      .install next.rule ∈ actions := by
  cases step with
  | closeInstalled state configure allowed positive collected selected installed complete =>
    exact ⟨_,_,_,state,configure,collected,selected,installed,complete,List.mem_cons_self⟩
  | tornDown | timedOut => cases inside
  | closeRejected | closeZero | closeIncomplete | closeInstallFailed | closeIgnored | refreshRejected
  | refreshDuplicate | refreshed | meteringIgnored => exact absurd inside outside

/-- Where a message that a responder sends comes from. -/
inductive Origin (s : NrSession) (evt : Event) (next : NrSession) : NtlpMsg → Prop
  | failed {m : NtlpMsg} {kind : MsgKind} {code : UInt8} (found : evt.ofKind kind = some m) :
      Origin s evt next (m.createResponse MnslpMsg.scPermanentFailure code)
  | installed {m : NtlpMsg} (state : s.state = .close) (configure : evt.ofKind .configure = some m)
      (metering : next.state = .metering) :
      Origin s evt next (m.createSuccessResponse (capped m.msg.getSessionLifetime s.maxLifetime))
  | refreshed {m : NtlpMsg} (state : s.state = .metering) (refresh : evt.ofKind .refresh = some m)
      (positive : capped m.msg.getSessionLifetime s.maxLifetime ≠ 0) :
      Origin s evt next (m.createSuccessResponse (capped m.msg.getSessionLifetime s.maxLifetime))
  | tornDown {m : NtlpMsg} (state : s.state = .metering) (refresh : evt.ofKind .refresh = some m)
      (zero : capped m.msg.getSessionLifetime s.maxLifetime = 0) : Origin s evt next (m.createSuccessResponse 0)

theorem Step.origin {d : Dispatcher} {s next : NrSession} {evt : Event} {actions : List Action} {sent : NtlpMsg}
    (step : Step d s evt next actions) (member : .send sent ∈ actions) : Origin s evt next sent := by
  cases step with
  | closeRejected state found | closeZero state found | closeIncomplete state found | refreshRejected state found =>
    obtain rfl := Action.send.inj (List.mem_singleton.mp member)
    exact .failed found
  | closeInstalled state configure =>
    obtain rfl : sent = _ := by simpa using member
    exact .installed state configure rfl
  | closeInstallFailed state configure =>
    have last := (List.mem_append.mp member).resolve_left (by simp [Action.send_notMem_removal])
    obtain rfl := Action.send.inj (List.mem_singleton.mp last)
    exact .failed configure
  | refreshed state refresh newer positive =>
    obtain rfl : sent = _ := by simpa using member
    exact .refreshed state refresh positive
  | tornDown state refresh newer zero =>
    have last := (List.mem_append.mp member).resolve_left (Action.send_notMem_removal _ _)
    obtain rfl := Action.send.inj (List.mem_singleton.mp last)
    exact .tornDown state refresh zero
  | timedOut => simp [Action.send_notMem_removal] at member
  | closeIgnored | refreshDuplicate | meteringIgnored => cases member

theorem Step.response_sent {d : Dispatcher} {s next : NrSession} {evt : Event} {actions : List Action} {sent : NtlpMsg}
    (step : Step d s evt next actions) (member : .send sent ∈ actions) : sent.msg.kind = .response := by
  cases step.origin member with
  | failed => exact NtlpMsg.kind_createResponse _ _ _
  | installed | refreshed | tornDown => exact NtlpMsg.kind_createSuccessResponse _ _

end NrSession
end Mnslp.Session
