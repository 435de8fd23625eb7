import Mnslp.Lib.Run
import Mnslp.Session.NfStep
import Mnslp.Session.NiStep

/-! Assertions on stored messages and routing information. A session that is METERING
has no last REFRESH until the first one, and the handlers of that state ask for it on
almost every event; all other pointers are set in the states that use them. -/
namespace Mnslp.Session
open Mnslp.Lib Mnslp.Msg

namespace NfSession

/-- What is stored in the states after CLOSE. -/
structure Stored (s : NfSession) : Prop where
  configure : s.state ≠ .close → ∃ m, s.configureMessage = some m
  nrMri : s.state ≠ .close → ∃ mri, s.nrMri = some mri

theorem stored_new (id : SessionId) : (new id).Stored := ⟨by simp [new],by simp [new]⟩

/-- An event that makes a METERING session look at its last REFRESH. -/
def NeedsRefresh (d : Dispatcher) (s : NfSession) (evt : Event) : Prop :=
  evt.ofKind .refresh = none ∧
    if evt.isNoNextNodeFound ∨ evt.isTimer s.responseTimer then ¬ d.RemovalFails s.rule
    else ¬ evt.isTimer s.stateTimer ∧ ¬ evt.isRouteChangedBad

private theorem processStateClose_assertsNull (d : Dispatcher) (s : NfSession) (m : NtlpMsg) :
    ¬ Call.AssertsNull (processStateClose d s m) := by
  rcases processStateClose_cases d s m with
    ⟨mri,objects,rule,missing,_,_,_,_,outcome⟩ | ⟨mrm,_,outcome⟩ | outcome | outcome <;>
    simp [outcome,Assertion.onNull]

private theorem handleStateClose_assertsNull (conf : NfConfig) (d : Dispatcher) (s : NfSession) (evt : Event) :
    ¬ Call.AssertsNull (handleStateClose conf d s evt) := by
  unfold handleStateClose
  cases evt.ofKind .configure with
  | none => simp
  | some m =>
    simp only [checkPreconditions_eq,Call.ok_bind]
    split
    · simp
    · split
      · simp
      · exact processStateClose_assertsNull _ _ _

private theorem handleConfigureAgain_assertsNull (d : Dispatcher) (s : NfSession) (m stored : NtlpMsg)
    (configure : s.configureMessage = some stored) : ¬ Call.AssertsNull (handleConfigureAgain d s m) := by
  simp only [handleConfigureAgain,getLastConfigureMessage,configure,Call.assertSome,Call.ok_bind]
  split
  · simp [Assertion.onNull]
  · unfold checkAuthorization
    by_cases authorized : d.isAuthorized m = true
    · simp only [authorized,Bool.not_true,Bool.false_eq_true,if_false]
      split
      · simp
      · split
        · simp
        · exact processStateClose_assertsNull _ _ _
    · simp [authorized,Call.throw]

private theorem handleConfigureResponse_assertsNull (d : Dispatcher) (s : NfSession) (m : NtlpMsg) (mri : Mri)
    (nrMri : s.nrMri = some mri) : ¬ Call.AssertsNull (handleConfigureResponse d s m) := by
  unfold handleConfigureResponse
  split
  · rw [Call.assertsNull_bind]
    rintro (failed | ⟨result,_,failed⟩)
    · exact Dispatcher.assertsNull_installPolicyRules _ _ failed
    · split at failed
      · simp at failed
      · simp [Call.assertsNull_bind,buildTeardownMessage,getNrMri,nrMri,Call.assertSome] at failed
  · simp

private theorem handleStatePending_assertsNull (d : Dispatcher) (s : NfSession) (evt : Event) (stored : NtlpMsg)
    (configure : s.configureMessage = some stored) (mri : Mri) (nrMri : s.nrMri = some mri) :
    ¬ Call.AssertsNull (handleStatePending d s evt) := by
  unfold handleStatePending
  split
  · exact handleConfigureAgain_assertsNull _ _ _ stored configure
  · simp only [getLastConfigureMessage,configure,Call.assertSome,Call.ok_bind,notReached]
    split
    · simp
    · split
      · simp
      · split
        · split
          · simp
          · split
            · simp
            · exact handleConfigureResponse_assertsNull _ _ _ mri nrMri
        · simp

private theorem handleRefreshResponse_assertsNull (d : Dispatcher) (s : NfSession) (m : NtlpMsg) :
    ¬ Call.AssertsNull (handleRefreshResponse d s m) := by
  unfold handleRefreshResponse
  split
  · split <;> simp [Call.assertsNull_bind]
  · simp [Call.assertsNull_bind]

private theorem handleStateMetering_assertsNull (d : Dispatcher) (s : NfSession) (evt : Event) :
    Call.AssertsNull (handleStateMetering d s evt) ↔ s.refreshMessage = none ∧ NeedsRefresh d s evt := by
  unfold handleStateMetering NeedsRefresh
  cases refresh : evt.ofKind .refresh with
  | some m =>
    simp only [handleRefresh,checkPreconditions_eq,Call.ok_bind,reduceCtorEq,false_and,and_false,iff_false]
    split
    · simp
    · split <;> simp
  | none =>
    simp only [true_and]
    by_cases noAnswer : evt.isNoNextNodeFound = true ∨ evt.isTimer s.responseTimer = true
    · simp only [if_pos noAnswer,peerDidNotRespond,Call.assertsNull_bind,Dispatcher.assertsNull_uninstall,
        Dispatcher.uninstall_eq_ok,getLastRefreshMessage,Call.assertsNull_assertSome,Assertion.onNull]
      simp [and_comm]
    · simp only [if_neg noAnswer]
      by_cases timedOut : evt.isTimer s.stateTimer = true
      · simp [timedOut,Call.assertsNull_bind]
      · by_cases badRoute : evt.isRouteChangedBad = true
        · simp [timedOut,badRoute,Call.assertsNull_bind]
        · simp only [timedOut,badRoute,Bool.false_eq_true,if_false,not_false_eq_true,and_self,and_true]
          cases stored : s.refreshMessage with
          | none => simp [getLastRefreshMessage,stored,Call.assertSome,Assertion.onNull]
          | some request =>
            simp only [getLastRefreshMessage,stored,Call.assertSome,Call.ok_bind,reduceCtorEq,iff_false]
            split
            · split
              · simp
              · split
                · simp
                · exact handleRefreshResponse_assertsNull _ _ _
            · simp

theorem processEvent_assertsNull (conf : NfConfig) (d : Dispatcher) (s : NfSession) (evt : Event) (stored : s.Stored) :
    Call.AssertsNull (processEvent conf d s evt) ↔
      s.state = .metering ∧ s.refreshMessage = none ∧ NeedsRefresh d s evt := by
  unfold processEvent
  cases state : s.state with
  | close => simp [handleStateClose_assertsNull]
  | pending =>
    obtain ⟨m,configure⟩ := stored.configure (by simp [state])
    obtain ⟨mri,nrMri⟩ := stored.nrMri (by simp [state])
    simp [handleStatePending_assertsNull d s evt m configure mri nrMri]
  | metering => simp [handleStateMetering_assertsNull]

theorem stored_step {conf : NfConfig} {d : Dispatcher} {s next : NfSession} {evt : Event}
    {actions : List Action} (stored : s.Stored) (step : Step conf d s evt next actions) : next.Stored := by
  cases step with
  | closeAccepted state configure allowed positive accepts =>
    cases accepts
    exact ⟨fun _ => ⟨_,rfl⟩,fun _ => ⟨_,rfl⟩⟩
  | pendingReplaced state configure previous authorized different accepts =>
    cases accepts
    exact ⟨fun _ => ⟨_,rfl⟩,fun _ => ⟨_,rfl⟩⟩
  | closeRejected state => exact ⟨fun open' => absurd state open',fun open' => absurd state open'⟩
  | closeDiscarded state => exact ⟨fun open' => absurd state open',fun open' => absurd state open'⟩
  | closeNoPath | pendingTerminated | pendingNoPath | pendingNotReached | pendingInstallFailed | pendingRefused
  | meteringNotReached | meteringTimedOut | meteringBadRoute | teardownConfirmed | refreshRefused =>
    exact ⟨fun open' => absurd rfl open',fun open' => absurd rfl open'⟩
  | pendingRejected | pendingIgnored | refreshRejected | refreshDuplicate | meteringIgnored => exact stored
  | pendingResent | refreshForwarded | refreshConfirmed => exact ⟨stored.configure,stored.nrMri⟩
  | pendingInstalled state =>
    have pending : s.state ≠ .close := by simp [state]
    exact ⟨fun _ => stored.configure pending,fun _ => stored.nrMri pending⟩

/-- One event that the session handled, with the dispatcher it met. -/
def Next (conf : NfConfig) (s : NfSession) (label : Dispatcher × Event) (next : NfSession) : Prop :=
  ∃ actions, processEvent conf label.1 s label.2 = .ok (next,actions)

theorem stored_run {conf : NfConfig} {id : SessionId} {labels : List (Dispatcher × Event)} {s : NfSession}
    (run : Run (Next conf) (new id) labels s) : s.Stored :=
  run.invariant Stored (fun _ _ _ stored ⟨_,ok⟩ => stored_step stored (step_of_processEvent ok)) (stored_new id)

end NfSession

namespace NiSession

structure Stored (s : NiSession) : Prop where
  configure : s.state = .pending → ∃ m, s.lastConfigureMsg = some m
  mri : s.state ≠ .close → ∃ mri, s.mri = some mri

theorem stored_new (id : SessionId) (conf : NiConfig) (randomNumber : UInt32) :
    (new id conf randomNumber).Stored := ⟨by simp [new],by simp [new]⟩

/-- An event that makes a METERING session look at its last REFRESH. -/
def NeedsRefresh (s : NiSession) (evt : Event) : Prop :=
  ¬ evt.isTimer s.refreshTimer ∧
    if evt.isTimer s.responseTimer then s.refreshCounter < s.maxRetries
    else ¬ evt.isApiTeardown ∧ ¬ evt.isAnyTimer

private theorem buildRefreshMessage_assertsNull (s : NiSession) (mri : Mri) (found : s.mri = some mri) :
    ¬ Call.AssertsNull s.buildRefreshMessage := by
  rw [buildRefreshMessage_eq_ok.mpr ⟨mri,found,rfl,rfl⟩]
  exact Call.assertsNull_ok _

private theorem teardown_assertsNull (d : Dispatcher) (s : NiSession) (rule : MtPolicyRule) (mri : Mri)
    (found : s.mri = some mri) : ¬ Call.AssertsNull (do
      let removed ← d.uninstall rule
      let (s,refresh) ← s.buildRefreshMessage
      return ({s with state := .close},removed ++ [Action.send refresh])) := by
  rw [Call.assertsNull_bind]
  rintro (failed | ⟨removed,_,failed⟩)
  · exact Dispatcher.assertsNull_uninstall _ _ failed
  · rw [buildRefreshMessage_eq_ok.mpr ⟨mri,found,rfl,rfl⟩] at failed
    exact Call.assertsNull_ok _ failed

private theorem handleStateClose_assertsNull (d : Dispatcher) (s : NiSession) (evt : Event) :
    ¬ Call.AssertsNull (handleStateClose d s evt) := by
  cases evt with
  | apiConfigure e =>
    simp only [handleStateClose,setupSession_eq]
    split
    · exact Call.assertsNull_ok _
    · simp [Assertion.onNull]
  | _ => exact Call.assertsNull_ok _

private theorem handleConfigureResponse_assertsNull (d : Dispatcher) (s : NiSession) (resp : MnslpMsg) (mri : Mri)
    (found : s.mri = some mri) : ¬ Call.AssertsNull (handleConfigureResponse d s resp) := by
  unfold handleConfigureResponse
  obtain ⟨interval,adopted⟩ := adopting_eq d s resp.getSessionLifetime
  rw [adopted]
  split
  · rw [Call.assertsNull_bind]
    rintro (failed | ⟨result,_,failed⟩)
    · exact Dispatcher.assertsNull_installPolicyRules _ _ failed
    · split at failed
      · simp at failed
      · simp only [Call.assertsNull_bind,Dispatcher.assertsNull_uninstall,false_or] at failed
        obtain ⟨removed,_,failed | ⟨refresh,_,failed⟩⟩ := failed
        · exact buildRefreshMessage_assertsNull _ mri (by exact found) failed
        · exact Call.assertsNull_fault _ failed
  · simp

private theorem handleStatePending_assertsNull (d : Dispatcher) (s : NiSession) (evt : Event) (stored : NtlpMsg)
    (configure : s.lastConfigureMsg = some stored) (mri : Mri) (found : s.mri = some mri) :
    ¬ Call.AssertsNull (handleStatePending d s evt) := by
  have got : s.getLastConfigureMessage = .ok stored := Call.assertSome_eq_ok.mpr configure
  unfold handleStatePending
  split
  · split
    · simp [getLastConfigureMessage,configure,Call.assertSome]
    · simp
  · split
    · simp
    · split
      · exact teardown_assertsNull d _ s.rule mri found
      · split
        · simp
        · rw [got,Call.ok_bind]
          split
          · split
            · simp
            · split
              · simp
              · exact handleConfigureResponse_assertsNull d s _ mri found
          · simp

private theorem handleStateMetering_assertsNull (d : Dispatcher) (s : NiSession) (evt : Event) (mri : Mri)
    (found : s.mri = some mri) :
    Call.AssertsNull (handleStateMetering d s evt) ↔ s.lastRefreshMsg = none ∧ s.NeedsRefresh evt := by
  unfold handleStateMetering NeedsRefresh
  by_cases refresh : evt.isTimer s.refreshTimer = true
  · simp [refresh,Call.assertsNull_bind,buildRefreshMessage_assertsNull s mri found]
  · simp only [refresh,Bool.false_eq_true,if_false,not_false_eq_true,true_and]
    by_cases response : evt.isTimer s.responseTimer = true
    · simp only [response,if_true]
      by_cases retries : s.refreshCounter < s.maxRetries
      · simp only [retries,if_true,and_true]
        simp [getLastRefreshMessage,Call.assertsNull_bind,Assertion.onNull]
      · simp [retries,Call.assertsNull_bind]
    · simp only [response,Bool.false_eq_true,if_false]
      by_cases teardown : evt.isApiTeardown = true
      · simp only [teardown,if_true,not_true_eq_false,false_and,and_false,iff_false]
        exact teardown_assertsNull d _ s.rule mri found
      · by_cases timer : evt.isAnyTimer = true
        · simp [teardown,timer]
        · simp only [teardown,timer,Bool.false_eq_true,if_false,not_false_eq_true,and_self,and_true]
          cases stored : s.lastRefreshMsg with
          | none => simp [getLastRefreshMessage,stored,Call.assertSome,Assertion.onNull]
          | some request =>
            simp only [getLastRefreshMessage,stored,Call.assertSome,Call.ok_bind,reduceCtorEq,iff_false]
            split
            · split
              · simp
              · split
                · simp
                · unfold handleRefreshResponse
                  split <;> simp [Call.assertsNull_bind]
            · simp

theorem processEvent_assertsNull (d : Dispatcher) (s : NiSession) (evt : Event) (stored : s.Stored) :
    Call.AssertsNull (processEvent d s evt) ↔
      s.state = .metering ∧ s.lastRefreshMsg = none ∧ s.NeedsRefresh evt := by
  unfold processEvent
  cases state : s.state with
  | close => simp [handleStateClose_assertsNull]
  | pending =>
    obtain ⟨m,configure⟩ := stored.configure state
    obtain ⟨mri,found⟩ := stored.mri (by simp [state])
    simp [handleStatePending_assertsNull d s evt m configure mri found]
  | metering =>
    obtain ⟨mri,found⟩ := stored.mri (by simp [state])
    simp [handleStateMetering_assertsNull d s evt mri found]

theorem stored_step {d : Dispatcher} {s next : NiSession} {evt : Event} {actions : List Action}
    (stored : s.Stored) (step : Step d s evt next actions) : next.Stored := by
  cases step with
  | configured => exact ⟨fun _ => ⟨_,rfl⟩,fun _ => ⟨_,rfl⟩⟩
  | closeIgnored | pendingIgnored | meteringIgnored => exact stored
  | pendingRetried => exact ⟨stored.configure,stored.mri⟩
  | pendingInstalled state =>
    refine ⟨fun other => State.noConfusion other,fun _ => ?_⟩
    obtain ⟨interval,adopted⟩ := adopting_eq d s _
    rw [adopted]
    exact stored.mri (by simp [state])
  | refreshed state | refreshRetried state | refreshConfirmed state =>
    exact ⟨fun other => by simp [state] at other,fun _ => stored.mri (by simp [state])⟩
  | pendingGivenUp | pendingNotReached | pendingTeardown | pendingRefused | refreshGivenUp | meteringTeardown
  | refreshRefused => exact ⟨fun other => State.noConfusion other,fun other => absurd rfl other⟩

/-- One event that the session handled, with the dispatcher it met. -/
def Next (s : NiSession) (label : Dispatcher × Event) (next : NiSession) : Prop :=
  ∃ actions, processEvent label.1 s label.2 = .ok (next,actions)

theorem stored_run {id : SessionId} {conf : NiConfig} {randomNumber : UInt32} {labels : List (Dispatcher × Event)}
    {s : NiSession} (run : Run Next (new id conf randomNumber) labels s) : s.Stored :=
  run.invariant Stored (fun _ _ _ stored ⟨_,ok⟩ => stored_step stored (step_of_processEvent ok))
    (stored_new id conf randomNumber)

end NiSession

/-- An event runs into an assertion on a null pointer exactly when a METERING session
that has no last REFRESH is asked for it. -/
theorem null_assertion_iff (nfConf : NfConfig) (niConf : NiConfig) (id : SessionId) (randomNumber : UInt32) :
    (∀ labels s, Run (NfSession.Next nfConf) (.new id) labels s → ∀ d evt,
      (¬ Call.AssertsNull (NfSession.processEvent nfConf d s evt) ↔
        ¬ (s.state = .metering ∧ s.refreshMessage = none ∧ s.NeedsRefresh d evt))) ∧
    ∀ labels s, Run NiSession.Next (.new id niConf randomNumber) labels s → ∀ d evt,
      (¬ Call.AssertsNull (NiSession.processEvent d s evt) ↔
        ¬ (s.state = .metering ∧ s.lastRefreshMsg = none ∧ s.NeedsRefresh evt)) := by
  constructor
  · intro labels s run d evt
    exact not_congr (NfSession.processEvent_assertsNull nfConf d s evt (NfSession.stored_run run))
  · intro labels s run d evt
    exact not_congr (NiSession.processEvent_assertsNull d s evt (NiSession.stored_run run))

/-- The events that take a new forwarder to METERING. -/
private def opening : List (Dispatcher × Event) :=
  [(.willing,.msg (.sample .configure 1 60) false),
    (.willing,.msg ((NtlpMsg.sample .configure 1 60).createSuccessResponse 60) false)]

/-- A forwarder that is told of a missing next node before the first REFRESH. -/
theorem null_assertion_reached : ¬ ∀ labels s, Run (NfSession.Next ⟨100⟩) (.new 0) labels s → ∀ d evt,
    ¬ Call.AssertsNull (NfSession.processEvent ⟨100⟩ d s evt) := by
  intro never
  have run : Run (NfSession.Next ⟨100⟩) (.new 0) opening _ := .cons ⟨_,rfl⟩ (.single ⟨_,rfl⟩)
  exact never opening _ run .willing .noNextNodeFound ⟨.lastRefreshMessage,rfl,rfl⟩

/-- With a REFRESH stored, the same event closes the session. -/
theorem null_assertion_iff_refreshed : ∃ s,
    Run (NfSession.Next ⟨100⟩) (.new 0) (opening ++ [(.willing,.msg (.sample .refresh 2 60) false)]) s ∧
      s.state = .metering ∧ ¬ Call.AssertsNull (NfSession.processEvent ⟨100⟩ .willing s .noNextNodeFound) := by
  have run : Run (NfSession.Next ⟨100⟩) (.new 0)
      (opening ++ [(.willing,.msg (.sample .refresh 2 60) false)]) _ :=
    .cons ⟨_,rfl⟩ (.cons ⟨_,rfl⟩ (.single ⟨_,rfl⟩))
  refine ⟨_,run,rfl,((null_assertion_iff ⟨100⟩ ⟨30,3,10⟩ 0 0).1 _ _ run _ _).mpr ?_⟩
  rintro ⟨_,unstored,_⟩
  cases unstored

end Mnslp.Session
