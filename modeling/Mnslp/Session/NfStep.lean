import Mnslp.Session.NfSession

/-! What one event can do to a forwarder's session, branch by branch. Invariants are
proved by cases on this relation and never look into the handlers. -/
namespace Mnslp.Session
open Mnslp.Lib Mnslp.Msg
namespace NfSession

def configured (conf : NfConfig) (s : NfSession) : NfSession :=
  {s with maxLifetime := conf.nfMaxSessionLifetime, responseTimeout := conf.nfMaxSessionLifetime}

def taking (s : NfSession) (lifetime : UInt32) (m : NtlpMsg) : NfSession :=
  {s with lifetime := lifetime, msn := m.msg.getMsgSequenceNumber}

def noPathCoupledMri (m : NtlpMsg) : List Action :=
  [.send (m.createResponse MnslpMsg.scPermanentFailure MnslpMsg.failConfigurationFailed)]

/-- The CONFIGURE that passed the preconditions is stored and a new one sent on. -/
inductive Accepts (d : Dispatcher) (s : NfSession) (m : NtlpMsg) : NfSession → List Action → Prop
  | intro {mri : MriPathcoupled} {objects missing : List MspecObject} {rule : MtPolicyRule}
      (pathcoupled : m.mri = .pathcoupled mri) (downstream : mri.downstream = true)
      (collected : m.msg.getMspecObjects = .ok objects)
      (selected : selectObjects d .forwarder m.msg.getSelectionMeteringEntities s.rule objects = (rule,missing)) :
      Accepts d s m (accepted d {s with configureMessage := some m.copy} mri rule)
        [.send ⟨s.id,.pathcoupled mri,0,s.configureToForward m.msg missing⟩,.startTimer (d.timerId 0) s.lifetime]

inductive Step (conf : NfConfig) (d : Dispatcher) (s : NfSession) : Event → NfSession → List Action → Prop
  | closeRejected {evt : Event} {m : NtlpMsg} (state : s.state = .close)
      (configure : evt.ofKind .configure = some m)
      (low : ¬ m.msg.getSessionLifetime > conf.nfMaxSessionLifetime) (unauthorized : d.isAuthorized m = false) :
      Step conf d s evt (s.configured conf) (authenticationFailed m)
  | closeDiscarded {evt : Event} {m : NtlpMsg} (state : s.state = .close)
      (configure : evt.ofKind .configure = some m)
      (zero : capped m.msg.getSessionLifetime conf.nfMaxSessionLifetime = 0) :
      Step conf d s evt (s.configured conf) []
  | closeNoPath {evt : Event} {m : NtlpMsg} {mrm : UInt8} (state : s.state = .close)
      (configure : evt.ofKind .configure = some m)
      (positive : capped m.msg.getSessionLifetime conf.nfMaxSessionLifetime ≠ 0) (other : m.mri = .other mrm) :
      Step conf d s evt
        {(s.configured conf).taking (capped m.msg.getSessionLifetime conf.nfMaxSessionLifetime) m with
          configureMessage := some m.copy, state := .close}
        (noPathCoupledMri m)
  | closeAccepted {evt : Event} {m : NtlpMsg} {next : NfSession} {actions : List Action} (state : s.state = .close)
      (configure : evt.ofKind .configure = some m)
      (allowed : m.msg.getSessionLifetime > conf.nfMaxSessionLifetime ∨ d.isAuthorized m = true)
      (positive : capped m.msg.getSessionLifetime conf.nfMaxSessionLifetime ≠ 0)
      (accepts : Accepts d
        ((s.configured conf).taking (capped m.msg.getSessionLifetime conf.nfMaxSessionLifetime) m) m next actions) :
      Step conf d s evt next actions
  | pendingRejected {evt : Event} {m previous : NtlpMsg} (state : s.state = .pending)
      (configure : evt.ofKind .configure = some m) (stored : s.configureMessage = some previous)
      (kind : previous.msg.kind = .configure) (unauthorized : d.isAuthorized m = false) :
      Step conf d s evt s (authenticationFailed m)
  | pendingTerminated {evt : Event} {m previous : NtlpMsg} (state : s.state = .pending)
      (configure : evt.ofKind .configure = some m) (stored : s.configureMessage = some previous)
      (authorized : d.isAuthorized m = true)
      (greater : m.msg.getMsgSequenceNumber > previous.msg.getMsgSequenceNumber)
      (zero : m.msg.getSessionLifetime = 0) :
      Step conf d s evt {s with stateTimer := 0, state := .close} [.send m.copyForForwarding]
  | pendingResent {evt : Event} {m previous : NtlpMsg} (state : s.state = .pending)
      (configure : evt.ofKind .configure = some m) (stored : s.configureMessage = some previous)
      (authorized : d.isAuthorized m = true)
      (same : m.msg.getMsgSequenceNumber = previous.msg.getMsgSequenceNumber) :
      Step conf d s evt {s with stateTimer := d.timerId 0}
        [.send m.copyForForwarding,.startTimer (d.timerId 0) s.responseTimeout]
  | pendingNoPath {evt : Event} {m previous : NtlpMsg} {mrm : UInt8} (state : s.state = .pending)
      (configure : evt.ofKind .configure = some m) (stored : s.configureMessage = some previous)
      (authorized : d.isAuthorized m = true)
      (different : m.msg.getMsgSequenceNumber ≠ previous.msg.getMsgSequenceNumber) (other : m.mri = .other mrm) :
      Step conf d s evt
        {s.taking m.msg.getSessionLifetime m with configureMessage := some m.copy, state := .close}
        (noPathCoupledMri m)
  | pendingReplaced {evt : Event} {m previous : NtlpMsg} {next : NfSession} {actions : List Action}
      (state : s.state = .pending) (configure : evt.ofKind .configure = some m)
      (stored : s.configureMessage = some previous) (authorized : d.isAuthorized m = true)
      (different : m.msg.getMsgSequenceNumber ≠ previous.msg.getMsgSequenceNumber)
      (accepts : Accepts d (s.taking m.msg.getSessionLifetime m) m next actions) :
      Step conf d s evt next actions
  | pendingNotReached {evt : Event} {latest : NtlpMsg} (state : s.state = .pending)
      (stored : s.configureMessage = some latest)
      (unreachable : evt.isNoNextNodeFound = true ∨ evt.isTimer s.stateTimer = true) :
      Step conf d s evt {s with state := .close}
        [.send (latest.createResponse MnslpMsg.scPermanentFailure MnslpMsg.failNrNotReached)]
  | pendingInstalled {evt : Event} {m request : NtlpMsg} {result : MtPolicyRule} (state : s.state = .pending)
      (stored : s.configureMessage = some request) (response : evt.mnslpResponse request = some m)
      (success : m.msg.isSuccess = true) (installed : d.installPolicyRules s.rule = .ok result)
      (complete : result.getNumberMspecObjects = s.rule.getNumberMspecObjects) :
      Step conf d s evt {s with rule := result, stateTimer := d.timerId 0, state := .metering}
        [.install result,.send m.copyForForwarding,.startTimer (d.timerId 0) s.lifetime]
  | pendingInstallFailed {evt : Event} {m request : NtlpMsg} {result : MtPolicyRule} {mri : Mri}
      (state : s.state = .pending) (stored : s.configureMessage = some request)
      (response : evt.mnslpResponse request = some m) (success : m.msg.isSuccess = true)
      (installed : d.installPolicyRules s.rule = .ok result)
      (incomplete : result.getNumberMspecObjects ≠ s.rule.getNumberMspecObjects)
      (removable : ¬ d.RemovalFails result) (nrMri : s.nrMri = some mri) :
      Step conf d s evt {s with lifetime := 0, rule := result, msn := s.msn + 1, state := .close}
        ([.install result] ++ Dispatcher.removal result ++
          [.send ⟨s.id,mri,0,NtlpMsg.refreshRequest 0 (s.msn + 1)⟩,
            .send (m.createResponse MnslpMsg.scPermanentFailure MnslpMsg.failInternalError)])
  | pendingRefused {evt : Event} {m request : NtlpMsg} (state : s.state = .pending)
      (stored : s.configureMessage = some request) (response : evt.mnslpResponse request = some m)
      (failure : m.msg.isSuccess = false) :
      Step conf d s evt {s with stateTimer := 0, state := .close} [.send m.copyForForwarding]
  | pendingIgnored {evt : Event} (state : s.state = .pending) (configure : evt.ofKind .configure = none)
      (asked : evt.isAnyTimer = true ∨ ∃ request, s.configureMessage = some request)
      (unanswered : ∀ request, s.configureMessage = some request → evt.mnslpResponse request = none)
      (waiting : evt.isTimer s.stateTimer = false) :
      Step conf d s evt s []
  | refreshRejected {evt : Event} {m : NtlpMsg} (state : s.state = .metering)
      (refresh : evt.ofKind .refresh = some m) (low : ¬ m.msg.getSessionLifetime > s.maxLifetime)
      (unauthorized : d.isAuthorized m = false) :
      Step conf d s evt s (authenticationFailed m)
  | refreshDuplicate {evt : Event} {m : NtlpMsg} (state : s.state = .metering)
      (refresh : evt.ofKind .refresh = some m)
      (old : isGreaterThan m.msg.getMsgSequenceNumber s.msn = false) :
      Step conf d s evt s []
  | refreshForwarded {evt : Event} {m : NtlpMsg} (state : s.state = .metering)
      (refresh : evt.ofKind .refresh = some m)
      (allowed : m.msg.getSessionLifetime > s.maxLifetime ∨ d.isAuthorized m = true)
      (newer : isGreaterThan m.msg.getMsgSequenceNumber s.msn = true) :
      Step conf d s evt
        {s with
          lifetime := capped m.msg.getSessionLifetime s.maxLifetime
          msn := if capped m.msg.getSessionLifetime s.maxLifetime > 0 then m.msg.getMsgSequenceNumber else s.msn
          refreshMessage := some m.copy, responseTimer := d.timerId 0}
        [.send m.copyForForwarding,.startTimer (d.timerId 0) s.responseTimeout]
  | meteringNotReached {evt : Event} {request : NtlpMsg} (state : s.state = .metering)
      (unreachable : evt.isNoNextNodeFound = true ∨ evt.isTimer s.responseTimer = true)
      (removable : ¬ d.RemovalFails s.rule) (stored : s.refreshMessage = some request) :
      Step conf d s evt {s with stateTimer := 0, state := .close} (Dispatcher.removal s.rule ++
        [.send (request.createResponse MnslpMsg.scPermanentFailure MnslpMsg.failNrNotReached)])
  | meteringTimedOut {evt : Event} (state : s.state = .metering) (fired : evt.isTimer s.stateTimer = true)
      (removable : ¬ d.RemovalFails s.rule) :
      Step conf d s evt {s with responseTimer := 0, state := .close} (Dispatcher.removal s.rule)
  | meteringBadRoute {evt : Event} (state : s.state = .metering) (route : evt.isRouteChangedBad = true)
      (removable : ¬ d.RemovalFails s.rule) :
      Step conf d s evt {s with state := .close} (Dispatcher.removal s.rule)
  | refreshConfirmed {evt : Event} {m request : NtlpMsg} (state : s.state = .metering)
      (stored : s.refreshMessage = some request) (response : evt.mnslpResponse request = some m)
      (success : m.msg.isSuccess = true) (positive : s.lifetime ≠ 0) :
      Step conf d s evt {s with stateTimer := d.timerId 0}
        [.send m.copyForForwarding,.startTimer (d.timerId 0) s.lifetime]
  | teardownConfirmed {evt : Event} {m request : NtlpMsg} (state : s.state = .metering)
      (stored : s.refreshMessage = some request) (response : evt.mnslpResponse request = some m)
      (success : m.msg.isSuccess = true) (zero : s.lifetime = 0) (removable : ¬ d.RemovalFails s.rule) :
      Step conf d s evt {s with stateTimer := 0, state := .close}
        ([.send m.copyForForwarding] ++ Dispatcher.removal s.rule)
  | refreshRefused {evt : Event} {m request : NtlpMsg} (state : s.state = .metering)
      (stored : s.refreshMessage = some request) (response : evt.mnslpResponse request = some m)
      (failure : m.msg.isSuccess = false) (removable : ¬ d.RemovalFails s.rule) :
      Step conf d s evt {s with stateTimer := 0, state := .close}
        (Dispatcher.removal s.rule ++ [.send m.copyForForwarding])
  | meteringIgnored {evt : Event} (state : s.state = .metering) (refresh : evt.ofKind .refresh = none)
      (stored : ∃ request, s.refreshMessage = some request)
      (unanswered : ∀ request, s.refreshMessage = some request → evt.mnslpResponse request = none)
      (waiting : evt.isTimer s.responseTimer = false) (holding : evt.isTimer s.stateTimer = false) :
      Step conf d s evt s []

private theorem processStateClose_ok {d : Dispatcher} {s next : NfSession} {m : NtlpMsg} {actions : List Action}
    (ok : processStateClose d s m = .ok (next,actions)) :
    (∃ mrm, m.mri = .other mrm ∧ next = {s with configureMessage := some m.copy, state := .close} ∧
      actions = noPathCoupledMri m) ∨ Accepts d s m next actions := by
  rcases processStateClose_cases d s m with
    ⟨mri,objects,rule,missing,pathcoupled,downstream,collected,selected,outcome⟩ | ⟨mrm,other,outcome⟩ |
      outcome | outcome <;> rw [outcome] at ok <;> cases ok
  · exact .inr (.intro pathcoupled downstream collected selected)
  · exact .inl ⟨mrm,other,rfl,rfl⟩

private theorem step_close (conf : NfConfig) (d : Dispatcher) (s next : NfSession) (evt : Event)
    (actions : List Action) (state : s.state = .close)
    (ok : handleStateClose conf d s evt = .ok (next,actions)) : Step conf d s evt next actions := by
  unfold handleStateClose at ok
  cases configure : evt.ofKind .configure with
  | none =>
    rw [configure] at ok
    cases ok
  | some m =>
    simp only [configure] at ok
    rcases checkPreconditions_cases d m conf.nfMaxSessionLifetime with ⟨low,unauthorized,checked⟩ | ⟨allowed,checked⟩
    · rw [checked] at ok
      cases ok
      exact .closeRejected state configure low unauthorized
    · rw [checked,Call.ok_bind] at ok
      simp only [] at ok
      split at ok
      · rename_i zero
        cases ok
        exact .closeDiscarded state configure zero
      · rename_i positive
        rcases processStateClose_ok ok with ⟨mrm,other,rfl,rfl⟩ | accepts
        · exact .closeNoPath state configure positive other
        · exact .closeAccepted state configure allowed positive accepts

private theorem step_configureAgain (conf : NfConfig) (d : Dispatcher) (s next : NfSession) (evt : Event)
    (m : NtlpMsg) (actions : List Action) (state : s.state = .pending) (configure : evt.ofKind .configure = some m)
    (ok : handleConfigureAgain d s m = .ok (next,actions)) : Step conf d s evt next actions := by
  unfold handleConfigureAgain checkAuthorization at ok
  cases stored : s.configureMessage with
  | none =>
    simp [getLastConfigureMessage,stored,Call.assertSome] at ok
  | some previous =>
    have found : s.getLastConfigureMessage = .ok previous := by
      simp only [getLastConfigureMessage,stored,Call.assertSome]
    simp only [found,Call.ok_bind] at ok
    split at ok
    · cases ok
    · rename_i kind
      by_cases authorized : d.isAuthorized m = true
      · simp only [authorized,Bool.not_true,Bool.false_eq_true,if_false] at ok
        split at ok
        · rename_i ending
          cases ok
          exact .pendingTerminated state configure stored authorized ending.1 ending.2
        · split at ok
          · rename_i same
            cases ok
            exact .pendingResent state configure stored authorized same
          · rename_i different
            rcases processStateClose_ok ok with ⟨mrm,other,rfl,rfl⟩ | accepts
            · exact .pendingNoPath state configure stored authorized different other
            · exact .pendingReplaced state configure stored authorized different accepts
      · simp only [authorized,Bool.not_false,if_true,Call.throw] at ok
        cases ok
        exact .pendingRejected state configure stored (by simpa using kind) (by simpa using authorized)

private theorem step_pendingResponse (conf : NfConfig) (d : Dispatcher) (s next : NfSession) (evt : Event)
    (m request : NtlpMsg) (actions : List Action) (state : s.state = .pending)
    (stored : s.configureMessage = some request) (response : evt.mnslpResponse request = some m)
    (ok : handleConfigureResponse d s m = .ok (next,actions)) : Step conf d s evt next actions := by
  unfold handleConfigureResponse at ok
  split at ok
  · rename_i success
    obtain ⟨result,installed,ok⟩ := Call.bind_eq_ok.mp ok
    split at ok
    · rename_i complete
      cases ok
      exact .pendingInstalled state stored response success installed complete
    · rename_i incomplete
      obtain ⟨removed,uninstalled,ok⟩ := Call.bind_eq_ok.mp ok
      obtain ⟨removable,rfl⟩ := (Dispatcher.uninstall_eq_ok _ _ _).mp uninstalled
      obtain ⟨teardown,built,ok⟩ := Call.bind_eq_ok.mp ok
      obtain ⟨mri,nrMri,built⟩ := Call.bind_eq_ok.mp built
      cases built
      cases ok
      exact .pendingInstallFailed state stored response success installed incomplete removable
        (Call.assertSome_eq_ok.mp nrMri)
  · rename_i failure
    cases ok
    exact .pendingRefused state stored response (by simpa using failure)

private theorem step_pending (conf : NfConfig) (d : Dispatcher) (s next : NfSession) (evt : Event)
    (actions : List Action) (state : s.state = .pending)
    (ok : handleStatePending d s evt = .ok (next,actions)) : Step conf d s evt next actions := by
  unfold handleStatePending at ok
  cases configure : evt.ofKind .configure with
  | some m =>
    rw [configure] at ok
    exact step_configureAgain conf d s next evt m actions state configure ok
  | none =>
    simp only [configure] at ok
    split at ok
    · rename_i unreachable
      obtain ⟨latest,stored,ok⟩ := Call.bind_eq_ok.mp ok
      cases ok
      exact .pendingNotReached state (Call.assertSome_eq_ok.mp stored) unreachable
    · rename_i reached
      have waiting : evt.isTimer s.stateTimer = false := by simpa using fun fired => reached (.inr fired)
      split at ok
      · rename_i stale
        cases ok
        refine .pendingIgnored state configure (.inl stale) (fun request _ => ?_) waiting
        cases evt <;> simp_all [Event.isAnyTimer,Event.mnslpResponse,Event.ofKind]
      · obtain ⟨request,found,ok⟩ := Call.bind_eq_ok.mp ok
        have stored : s.configureMessage = some request := Call.assertSome_eq_ok.mp found
        cases response : evt.mnslpResponse request with
        | none =>
          simp only [response] at ok
          cases ok
          refine .pendingIgnored state configure (.inr ⟨request,stored⟩) (fun other same => ?_) waiting
          rw [stored] at same
          cases same
          exact response
        | some m =>
          simp only [response,evt.isResponseTo_of_mnslpResponse response] at ok
          split at ok
          · cases ok
          · exact step_pendingResponse conf d s next evt m request actions state stored response ok

private theorem step_meteringResponse (conf : NfConfig) (d : Dispatcher) (s next : NfSession) (evt : Event)
    (m request : NtlpMsg) (actions : List Action) (state : s.state = .metering)
    (stored : s.refreshMessage = some request) (response : evt.mnslpResponse request = some m)
    (ok : handleRefreshResponse d s m = .ok (next,actions)) : Step conf d s evt next actions := by
  unfold handleRefreshResponse at ok
  split at ok
  · rename_i success
    split at ok
    · rename_i zero
      obtain ⟨removed,uninstalled,ok⟩ := Call.bind_eq_ok.mp ok
      obtain ⟨removable,rfl⟩ := (Dispatcher.uninstall_eq_ok _ _ _).mp uninstalled
      cases ok
      exact .teardownConfirmed state stored response success zero removable
    · rename_i positive
      cases ok
      exact .refreshConfirmed state stored response success positive
  · rename_i failure
    obtain ⟨removed,uninstalled,ok⟩ := Call.bind_eq_ok.mp ok
    obtain ⟨removable,rfl⟩ := (Dispatcher.uninstall_eq_ok _ _ _).mp uninstalled
    cases ok
    exact .refreshRefused state stored response (by simpa using failure) removable

private theorem step_refresh (conf : NfConfig) (d : Dispatcher) (s next : NfSession) (evt : Event)
    (m : NtlpMsg) (actions : List Action) (state : s.state = .metering) (refresh : evt.ofKind .refresh = some m)
    (ok : handleRefresh d s m = .ok (next,actions)) : Step conf d s evt next actions := by
  unfold handleRefresh at ok
  rcases checkPreconditions_cases d m s.maxLifetime with ⟨low,unauthorized,checked⟩ | ⟨allowed,checked⟩
  · rw [checked] at ok
    cases ok
    exact .refreshRejected state refresh low unauthorized
  · rw [checked,Call.ok_bind] at ok
    simp only [] at ok
    split at ok
    · rename_i old
      cases ok
      exact .refreshDuplicate state refresh (by simpa using old)
    · rename_i newer
      have forwarded : Step conf d s evt _ _ := .refreshForwarded state refresh allowed (by simpa using newer)
      cases ok
      convert forwarded using 1
      all_goals split <;> rfl

private theorem step_metering (conf : NfConfig) (d : Dispatcher) (s next : NfSession) (evt : Event)
    (actions : List Action) (state : s.state = .metering)
    (ok : handleStateMetering d s evt = .ok (next,actions)) : Step conf d s evt next actions := by
  unfold handleStateMetering at ok
  cases refresh : evt.ofKind .refresh with
  | some m =>
    rw [refresh] at ok
    exact step_refresh conf d s next evt m actions state refresh ok
  | none =>
    simp only [refresh] at ok
    split at ok
    · rename_i unreachable
      obtain ⟨removed,uninstalled,ok⟩ := Call.bind_eq_ok.mp ok
      obtain ⟨removable,rfl⟩ := (Dispatcher.uninstall_eq_ok _ _ _).mp uninstalled
      obtain ⟨request,stored,ok⟩ := Call.bind_eq_ok.mp ok
      cases ok
      exact .meteringNotReached state unreachable removable (Call.assertSome_eq_ok.mp stored)
    · rename_i reached
      have waiting : evt.isTimer s.responseTimer = false := by simpa using fun fired => reached (.inr fired)
      split at ok
      · rename_i fired
        obtain ⟨removed,uninstalled,ok⟩ := Call.bind_eq_ok.mp ok
        obtain ⟨removable,rfl⟩ := (Dispatcher.uninstall_eq_ok _ _ _).mp uninstalled
        cases ok
        exact .meteringTimedOut state fired removable
      · rename_i holding
        split at ok
        · rename_i route
          obtain ⟨removed,uninstalled,ok⟩ := Call.bind_eq_ok.mp ok
          obtain ⟨removable,rfl⟩ := (Dispatcher.uninstall_eq_ok _ _ _).mp uninstalled
          cases ok
          exact .meteringBadRoute state route removable
        · obtain ⟨request,found,ok⟩ := Call.bind_eq_ok.mp ok
          have stored : s.refreshMessage = some request := Call.assertSome_eq_ok.mp found
          cases response : evt.mnslpResponse request with
          | none =>
            simp only [response] at ok
            cases ok
            refine .meteringIgnored state refresh ⟨request,stored⟩ (fun other same => ?_) waiting (by simpa using holding)
            rw [stored] at same
            cases same
            exact response
          | some m =>
            simp only [response,evt.isResponseTo_of_mnslpResponse response] at ok
            split at ok
            · cases ok
            · exact step_meteringResponse conf d s next evt m request actions state stored response ok

/-- Every normal return of `process_event` is one of the branches. -/
theorem step_of_processEvent {conf : NfConfig} {d : Dispatcher} {s next : NfSession} {evt : Event}
    {actions : List Action} (ok : processEvent conf d s evt = .ok (next,actions)) :
    Step conf d s evt next actions := by
  unfold processEvent at ok
  cases state : s.state <;> rw [state] at ok
  · exact step_close conf d s next evt actions state ok
  · exact step_pending conf d s next evt actions state ok
  · exact step_metering conf d s next evt actions state ok

/-- The only way into METERING. -/
theorem Step.entering {conf : NfConfig} {d : Dispatcher} {s next : NfSession} {evt : Event} {actions : List Action}
    (step : Step conf d s evt next actions) (outside : s.state ≠ .metering) (inside : next.state = .metering) :
    s.state = .pending ∧ d.installPolicyRules s.rule = .ok next.rule ∧
      next.rule.getNumberMspecObjects = s.rule.getNumberMspecObjects ∧ .install next.rule ∈ actions ∧
      ∃ request m, s.configureMessage = some request ∧ evt.mnslpResponse request = some m ∧ m.msg.isSuccess = true := by
  cases step with
  | pendingInstalled state stored response success installed complete =>
    exact ⟨state,installed,complete,List.mem_cons_self,_,_,stored,response,success⟩
  | closeAccepted state configure allowed positive accepts => cases accepts; cases inside
  | pendingReplaced state configure stored authorized different accepts => cases accepts; cases inside
  | closeNoPath | pendingTerminated | pendingNoPath | pendingNotReached | pendingInstallFailed | pendingRefused
  | meteringNotReached | meteringTimedOut | meteringBadRoute | teardownConfirmed | refreshRefused => cases inside
  | closeRejected | closeDiscarded | pendingRejected | pendingResent | pendingIgnored | refreshRejected
  | refreshDuplicate | refreshForwarded | refreshConfirmed | meteringIgnored => exact absurd inside outside

/-- A CONFIGURE that is taken: the first one of the session, or one of another number. -/
def Takes (d : Dispatcher) (s : NfSession) (m : NtlpMsg) (next : NfSession) (actions : List Action) : Prop :=
  ∃ t, Accepts d t m next actions ∧ t.rule = s.rule ∧ (s.state = .close ∨ s.state = .pending ∧
    ∃ previous, s.configureMessage = some previous ∧
      m.msg.getMsgSequenceNumber ≠ previous.msg.getMsgSequenceNumber)

/-- A session that waits for a RESPONSE did so before or has taken a CONFIGURE. -/
theorem Step.into_pending {conf : NfConfig} {d : Dispatcher} {s next : NfSession} {evt : Event}
    {actions : List Action} (step : Step conf d s evt next actions) (waiting : next.state = .pending) :
    (s.state = .pending ∧ next.rule = s.rule ∧ next.configureMessage = s.configureMessage) ∨
      ∃ m, evt.ofKind .configure = some m ∧ Takes d s m next actions := by
  cases step with
  | closeAccepted state configure allowed positive accepts =>
    exact .inr ⟨_,configure,_,accepts,rfl,.inl state⟩
  | pendingReplaced state configure stored authorized different accepts =>
    exact .inr ⟨_,configure,_,accepts,rfl,.inr ⟨state,_,stored,different⟩⟩
  | pendingRejected state | pendingResent state | pendingIgnored state => exact .inl ⟨state,rfl,rfl⟩
  | closeRejected state | closeDiscarded state => exact State.noConfusion (state.symm.trans waiting)
  | closeNoPath | pendingTerminated | pendingNoPath | pendingNotReached | pendingInstalled | pendingInstallFailed
  | pendingRefused | meteringNotReached | meteringTimedOut | meteringBadRoute | teardownConfirmed | refreshRefused =>
    cases waiting
  | refreshRejected state | refreshDuplicate state | refreshForwarded state | refreshConfirmed state
  | meteringIgnored state => exact State.noConfusion (state.symm.trans waiting)

/-- Where a message that a forwarder sends comes from. -/
inductive Origin (conf : NfConfig) (d : Dispatcher) (s : NfSession) (evt : Event) (next : NfSession) (actions : List Action) :
    NtlpMsg → Prop
  | first {m sent : NtlpMsg} (state : s.state = .close) (configure : evt.ofKind .configure = some m)
      (accepts : Accepts d
        ((s.configured conf).taking (capped m.msg.getSessionLifetime conf.nfMaxSessionLifetime) m) m next actions)
      (member : .send sent ∈ actions) : Origin conf d s evt next actions sent
  | replaced {m previous sent : NtlpMsg} (state : s.state = .pending) (configure : evt.ofKind .configure = some m)
      (stored : s.configureMessage = some previous)
      (different : m.msg.getMsgSequenceNumber ≠ previous.msg.getMsgSequenceNumber)
      (accepts : Accepts d (s.taking m.msg.getSessionLifetime m) m next actions)
      (member : .send sent ∈ actions) : Origin conf d s evt next actions sent
  | resent {m previous : NtlpMsg} (state : s.state = .pending) (configure : evt.ofKind .configure = some m)
      (stored : s.configureMessage = some previous)
      (same : m.msg.getMsgSequenceNumber = previous.msg.getMsgSequenceNumber) :
      Origin conf d s evt next actions m.copyForForwarding
  | terminated {m previous : NtlpMsg} (state : s.state = .pending) (configure : evt.ofKind .configure = some m)
      (stored : s.configureMessage = some previous)
      (greater : m.msg.getMsgSequenceNumber > previous.msg.getMsgSequenceNumber) :
      Origin conf d s evt next actions m.copyForForwarding
  | refresh {m : NtlpMsg} (state : s.state = .metering) (refresh : evt.ofKind .refresh = some m)
      (allowed : m.msg.getSessionLifetime > s.maxLifetime ∨ d.isAuthorized m = true)
      (newer : isGreaterThan m.msg.getMsgSequenceNumber s.msn = true) :
      Origin conf d s evt next actions m.copyForForwarding
  | response {m request : NtlpMsg} (response : evt.mnslpResponse request = some m)
      (kept : s.refreshMessage = some request ∨ m.msg.isSuccess = false ∨ s.state = .pending ∧ next.state = .metering) :
      Origin conf d s evt next actions m.copyForForwarding
  | rejected {m : NtlpMsg} {kind : MsgKind} {code : UInt8} (request : kind = .configure ∨ kind = .refresh)
      (found : evt.ofKind kind = some m) :
      Origin conf d s evt next actions (m.createResponse MnslpMsg.scPermanentFailure code)
  | notReached {m : NtlpMsg} {code : UInt8} (stored : s.configureMessage = some m ∨ s.refreshMessage = some m) :
      Origin conf d s evt next actions (m.createResponse MnslpMsg.scPermanentFailure code)
  | teardown {m request : NtlpMsg} {result : MtPolicyRule} {mri : Mri} (state : s.state = .pending)
      (stored : s.configureMessage = some request) (response : evt.mnslpResponse request = some m)
      (success : m.msg.isSuccess = true) (installed : d.installPolicyRules s.rule = .ok result)
      (incomplete : result.getNumberMspecObjects ≠ s.rule.getNumberMspecObjects)
      (removable : ¬ d.RemovalFails result) (nrMri : s.nrMri = some mri) :
      Origin conf d s evt next actions ⟨s.id,mri,0,NtlpMsg.refreshRequest 0 (s.msn + 1)⟩
  | installFailed {m request : NtlpMsg} {result : MtPolicyRule} {code : UInt8} (state : s.state = .pending)
      (stored : s.configureMessage = some request) (response : evt.mnslpResponse request = some m)
      (success : m.msg.isSuccess = true) (installed : d.installPolicyRules s.rule = .ok result)
      (incomplete : result.getNumberMspecObjects ≠ s.rule.getNumberMspecObjects)
      (removable : ¬ d.RemovalFails result) :
      Origin conf d s evt next actions (m.createResponse MnslpMsg.scPermanentFailure code)

theorem Step.origin {conf : NfConfig} {d : Dispatcher} {s next : NfSession} {evt : Event} {actions : List Action}
    {sent : NtlpMsg} (step : Step conf d s evt next actions) (member : .send sent ∈ actions) :
    Origin conf d s evt next actions sent := by
  cases step with
  | closeAccepted state configure allowed positive accepts => exact .first state configure accepts member
  | pendingReplaced state configure stored authorized different accepts =>
    exact .replaced state configure stored different accepts member
  | closeRejected state configure | closeNoPath state configure | pendingRejected state configure
  | pendingNoPath state configure =>
    obtain rfl := Action.send.inj (List.mem_singleton.mp member)
    exact .rejected (.inl rfl) configure
  | pendingTerminated state configure stored authorized greater =>
    obtain rfl := Action.send.inj (List.mem_singleton.mp member)
    exact .terminated state configure stored greater
  | pendingResent state configure stored authorized same =>
    obtain rfl : sent = _ := by simpa using member
    exact .resent state configure stored same
  | pendingNotReached state stored =>
    obtain rfl := Action.send.inj (List.mem_singleton.mp member)
    exact .notReached (.inl stored)
  | pendingInstalled state stored answer =>
    obtain rfl : sent = _ := by simpa using member
    exact .response answer (.inr (.inr ⟨state,rfl⟩))
  | pendingInstallFailed state stored answer success installed incomplete removable nrMri =>
    simp only [List.mem_append,List.mem_cons,Action.send.injEq,reduceCtorEq,List.not_mem_nil,or_false,false_or,
      Action.send_notMem_removal] at member
    rcases member with rfl | rfl
    · exact .teardown state stored answer success installed incomplete removable nrMri
    · exact .installFailed state stored answer success installed incomplete removable
  | pendingRefused state stored answer failure =>
    obtain rfl := Action.send.inj (List.mem_singleton.mp member)
    exact .response answer (.inr (.inl failure))
  | closeDiscarded | pendingIgnored | refreshDuplicate | meteringIgnored => cases member
  | refreshRejected state refresh =>
    obtain rfl := Action.send.inj (List.mem_singleton.mp member)
    exact .rejected (.inr rfl) refresh
  | refreshForwarded state refresh allowed newer =>
    obtain rfl : sent = _ := by simpa using member
    exact .refresh state refresh allowed newer
  | refreshConfirmed state stored answer =>
    obtain rfl : sent = _ := by simpa using member
    exact .response answer (.inl stored)
  | meteringNotReached state unreachable removable stored =>
    have last := (List.mem_append.mp member).resolve_left (Action.send_notMem_removal _ _)
    obtain rfl := Action.send.inj (List.mem_singleton.mp last)
    exact .notReached (.inr stored)
  | meteringTimedOut | meteringBadRoute => exact absurd member (Action.send_notMem_removal _ _)
  | teardownConfirmed state stored answer =>
    have first := (List.mem_append.mp member).resolve_right (Action.send_notMem_removal _ _)
    obtain rfl := Action.send.inj (List.mem_singleton.mp first)
    exact .response answer (.inl stored)
  | refreshRefused state stored answer =>
    have last := (List.mem_append.mp member).resolve_left (Action.send_notMem_removal _ _)
    obtain rfl := Action.send.inj (List.mem_singleton.mp last)
    exact .response answer (.inl stored)

/-- The CONFIGUREs of a forwarder: the one it got, as it came, or one it built from it. -/
theorem Step.configure_sent {conf : NfConfig} {d : Dispatcher} {s next : NfSession} {evt : Event}
    {actions : List Action} {sent : NtlpMsg} (step : Step conf d s evt next actions)
    (member : .send sent ∈ actions) (kind : sent.msg.kind = .configure) :
    ∃ m, evt.ofKind .configure = some m ∧
      (sent = m.copyForForwarding ∧ s.state = .pending ∧ (∃ previous, s.configureMessage = some previous ∧
          previous.msg.getMsgSequenceNumber ≤ m.msg.getMsgSequenceNumber) ∨
        Takes d s m next actions) := by
  cases step.origin member with
  | first state configure accepts => exact ⟨_,configure,.inr ⟨_,accepts,rfl,.inl state⟩⟩
  | replaced state configure stored different accepts =>
    exact ⟨_,configure,.inr ⟨_,accepts,rfl,.inr ⟨state,_,stored,different⟩⟩⟩
  | terminated state configure stored greater =>
    exact ⟨_,configure,.inl ⟨rfl,state,_,stored,UInt32.le_of_lt greater⟩⟩
  | resent state configure stored same =>
    exact ⟨_,configure,.inl ⟨rfl,state,_,stored,UInt32.le_of_eq same.symm⟩⟩
  | refresh state refresh =>
    have other := (Event.ofKind_eq_some.mp refresh).2
    simp [NtlpMsg.copyForForwarding,other] at kind
  | response answer =>
    have other := (Event.ofKind_eq_some.mp (Event.mnslpResponse_eq_some.mp answer).1).2
    simp [NtlpMsg.copyForForwarding,other] at kind
  | rejected | notReached | teardown | installFailed => simp at kind

end NfSession
end Mnslp.Session
