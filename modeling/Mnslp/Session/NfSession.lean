import Mnslp.Session.Session

/-! The session of a forwarder, after `nf_session.cpp`. -/
namespace Mnslp.Session
open Mnslp.Lib Mnslp.Msg

structure NfConfig where
  nfMaxSessionLifetime : UInt32

structure NfSession where
  id : SessionId
  state : State
  msn : UInt32
  rule : MtPolicyRule
  lifetime : UInt32
  maxLifetime : UInt32
  responseTimeout : UInt32
  stateTimer : Nat
  responseTimer : Nat
  niMri : Option Mri
  nrMri : Option Mri
  configureMessage : Option NtlpMsg
  refreshMessage : Option NtlpMsg

namespace NfSession

def new (id : SessionId) : NfSession where
  id := id
  state := .close
  msn := 0
  rule := {}
  lifetime := 0
  maxLifetime := 0
  responseTimeout := 0
  stateTimer := 0
  responseTimer := 0
  niMri := none
  nrMri := none
  configureMessage := none
  refreshMessage := none

def isFinal (s : NfSession) : Bool := s.state = .close

def getLastConfigureMessage (s : NfSession) : Call NtlpMsg :=
  Call.assertSome .lastConfigureMessage s.configureMessage

def getLastRefreshMessage (s : NfSession) : Call NtlpMsg :=
  Call.assertSome .lastRefreshMessage s.refreshMessage

def getNrMri (s : NfSession) : Call Mri := Call.assertSome .nrMri s.nrMri

/-- `set_pc_mri`, with `create_mri_with_dest` and `create_mri_inverted`. -/
def setPcMri (s : NfSession) (m : NtlpMsg) : Call NfSession :=
  match m.mri with
  | .pathcoupled mri =>
    if mri.downstream then
      .ok {s with nrMri := some (.pathcoupled mri), niMri := some (Mri.pathcoupled mri).invertDirection}
    else .error (.assertFailed .downstream)
  | .other _ =>
    Call.throw (.requestError "no path-coupled MRI found" MnslpMsg.scPermanentFailure
      MnslpMsg.failConfigurationFailed)

def setMtPolicyRule (d : Dispatcher) (s : NfSession) (configure : MnslpMsg) :
    Call (NfSession × List MspecObject) := do
  let objects ← configure.getMspecObjects
  let (rule,missing) := selectObjects d .forwarder configure.getSelectionMeteringEntities s.rule objects
  return ({s with rule := rule},missing)

/-- The message that `build_configure_message` wraps. -/
def configureToForward (s : NfSession) (c : MnslpMsg) (missing : List MspecObject) : MnslpMsg :=
  let configure := (MnslpMsg.new .configure).setSessionLifetime
    (if s.lifetime ≤ c.getSessionLifetime then s.lifetime else c.getSessionLifetime)
  let configure := configure.setMsgSequenceNumber c.getMsgSequenceNumber
  let configure := configure.setSelectionMeteringEntities c.getSelectionMeteringEntities
  let configure := configure.setMessageHopCount c.getMessageHopCount
  configure.setMspecObjects missing

def buildConfigureMessage (s : NfSession) (c : MnslpMsg) (missing : List MspecObject) : Call NtlpMsg := do
  let mri ← s.getNrMri
  return ⟨s.id,mri,0,s.configureToForward c missing⟩

def buildTeardownMessage (s : NfSession) : Call (NfSession × NtlpMsg) := do
  let mri ← s.getNrMri
  let s := {s with msn := s.msn + 1}
  return (s,⟨s.id,mri,0,NtlpMsg.refreshRequest 0 s.msn⟩)

/-- The statements of the `try` block of `process_state_close`. -/
def acceptConfigure (d : Dispatcher) (s : NfSession) (m : NtlpMsg) : Call (NfSession × List Action) := do
  let s ← s.setPcMri m
  let (s,missing) ← setMtPolicyRule d s m.msg
  let configure ← s.buildConfigureMessage m.msg missing
  return ({s with stateTimer := d.timerId 0, state := .pending},
    [.send configure,.startTimer (d.timerId 0) s.lifetime])

def processStateClose (d : Dispatcher) (s : NfSession) (m : NtlpMsg) : Call (NfSession × List Action) :=
  let s := {s with configureMessage := some m.copy}
  match acceptConfigure d s m with
  | .error (.thrown (.requestError _ severity code)) =>
    .ok ({s with state := .close},[.send (m.createResponse severity code)])
  | .error (.thrown (.policyRuleInstallerError _ severity code)) =>
    .ok ({s with state := .close},[.send (m.createResponse severity code)])
  | other => other

def handleStateClose (conf : NfConfig) (d : Dispatcher) (s : NfSession) (evt : Event) :
    Call (NfSession × List Action) :=
  match evt.ofKind .configure with
  | some m => do
    let s := {s with maxLifetime := conf.nfMaxSessionLifetime, responseTimeout := conf.nfMaxSessionLifetime}
    match ← checkPreconditions d m m.msg.getSessionLifetime s.maxLifetime with
    | .reject severity code => return (s,[.send (m.createResponse severity code)])
    | .proceed lifetime =>
      if lifetime = 0 then return (s,[])
      else processStateClose d {s with lifetime := lifetime, msn := m.msg.getMsgSequenceNumber} m
  | none => Call.fault .noReturnValue

/-- The branch of `handle_state_pending` for another CONFIGURE. -/
def handleConfigureAgain (d : Dispatcher) (s : NfSession) (m : NtlpMsg) : Call (NfSession × List Action) := do
  let previous ← s.getLastConfigureMessage
  if previous.msg.kind ≠ .configure then .error (.assertFailed .previousConfigure)
  else match checkAuthorization d m with
  | .error (.thrown (.requestError _ severity code)) => return (s,[.send (m.createResponse severity code)])
  | .error stop => .error stop
  | .ok () =>
    if m.msg.getMsgSequenceNumber > previous.msg.getMsgSequenceNumber ∧ m.msg.getSessionLifetime = 0 then
      return ({s with stateTimer := 0, state := .close},[.send m.copyForForwarding])
    else if m.msg.getMsgSequenceNumber = previous.msg.getMsgSequenceNumber then
      return ({s with stateTimer := d.timerId 0},
        [.send m.copyForForwarding,.startTimer (d.timerId 0) s.responseTimeout])
    else
      processStateClose d {s with
        lifetime := m.msg.getSessionLifetime, msn := m.msg.getMsgSequenceNumber} m

/-- The branch of `handle_state_pending` for a RESPONSE to the stored CONFIGURE. -/
def handleConfigureResponse (d : Dispatcher) (s : NfSession) (m : NtlpMsg) : Call (NfSession × List Action) :=
  if m.msg.isSuccess then do
    let result ← d.installPolicyRules s.rule
    if result.getNumberMspecObjects = s.rule.getNumberMspecObjects then
      return ({s with rule := result, stateTimer := d.timerId 0, state := .metering},
        [.install result,.send m.copyForForwarding,.startTimer (d.timerId 0) s.lifetime])
    else
      let s := {s with lifetime := 0, rule := result}
      let removed ← d.uninstall s.rule
      let (s,teardown) ← s.buildTeardownMessage
      return ({s with state := .close},[.install result] ++ removed ++ [.send teardown,
        .send (m.createResponse MnslpMsg.scPermanentFailure MnslpMsg.failInternalError)])
  else return ({s with stateTimer := 0, state := .close},[.send m.copyForForwarding])

/-- The branch of `handle_state_pending` for a node that cannot be reached. -/
def notReached (s : NfSession) : Call (NfSession × List Action) := do
  let latest ← s.getLastConfigureMessage
  return ({s with state := .close},
    [.send (latest.createResponse MnslpMsg.scPermanentFailure MnslpMsg.failNrNotReached)])

def handleStatePending (d : Dispatcher) (s : NfSession) (evt : Event) : Call (NfSession × List Action) :=
  match evt.ofKind .configure with
  | some m => handleConfigureAgain d s m
  | none =>
    if evt.isNoNextNodeFound ∨ evt.isTimer s.stateTimer then s.notReached
    else if evt.isAnyTimer then return (s,[])
    else do
      let configure ← s.getLastConfigureMessage
      match evt.mnslpResponse configure with
      | some m =>
        if configure.msg.kind ≠ .configure then Call.fault .nullDereference
        else if !m.msg.isResponseTo configure.msg then return (s,[])
        else handleConfigureResponse d s m
      | none => return (s,[])

/-- The branch of `handle_state_metering` for a REFRESH. -/
def handleRefresh (d : Dispatcher) (s : NfSession) (m : NtlpMsg) : Call (NfSession × List Action) := do
  match ← checkPreconditions d m m.msg.getSessionLifetime s.maxLifetime with
  | .reject severity code => return (s,[.send (m.createResponse severity code)])
  | .proceed lifetime =>
    let msn := m.msg.getMsgSequenceNumber
    if !isGreaterThan msn s.msn then return (s,[])
    else
      let s := {s with lifetime := lifetime}
      -- a REFRESH of lifetime 0 leaves the stored number as it is
      let s := if lifetime > 0 then {s with msn := msn} else s
      return ({s with refreshMessage := some m.copy, responseTimer := d.timerId 0},
        [.send m.copyForForwarding,.startTimer (d.timerId 0) s.responseTimeout])

/-- The branch of `handle_state_metering` for a downstream peer that did not respond. -/
def peerDidNotRespond (d : Dispatcher) (s : NfSession) : Call (NfSession × List Action) := do
  let removed ← d.uninstall s.rule
  let refresh ← s.getLastRefreshMessage
  return ({s with stateTimer := 0, state := .close},removed ++
    [.send (refresh.createResponse MnslpMsg.scPermanentFailure MnslpMsg.failNrNotReached)])

/-- The branch of `handle_state_metering` for a RESPONSE to the stored REFRESH. -/
def handleRefreshResponse (d : Dispatcher) (s : NfSession) (m : NtlpMsg) : Call (NfSession × List Action) :=
  if m.msg.isSuccess then
    if s.lifetime = 0 then do
      let removed ← d.uninstall s.rule
      return ({s with stateTimer := 0, state := .close},[.send m.copyForForwarding] ++ removed)
    else
      return ({s with stateTimer := d.timerId 0},
        [.send m.copyForForwarding,.startTimer (d.timerId 0) s.lifetime])
  else do
    let removed ← d.uninstall s.rule
    return ({s with stateTimer := 0, state := .close},removed ++ [.send m.copyForForwarding])

def handleStateMetering (d : Dispatcher) (s : NfSession) (evt : Event) : Call (NfSession × List Action) :=
  match evt.ofKind .refresh with
  | some m => handleRefresh d s m
  | none =>
    if evt.isNoNextNodeFound ∨ evt.isTimer s.responseTimer then peerDidNotRespond d s
    else if evt.isTimer s.stateTimer then do
      let removed ← d.uninstall s.rule
      return ({s with responseTimer := 0, state := .close},removed)
    else if evt.isRouteChangedBad then do
      let removed ← d.uninstall s.rule
      return ({s with state := .close},removed)
    else do
      let refresh ← s.getLastRefreshMessage
      match evt.mnslpResponse refresh with
      | some m =>
        if refresh.msg.kind ≠ .refresh then Call.fault .nullDereference
        else if !m.msg.isResponseTo refresh.msg then return (s,[])
        else handleRefreshResponse d s m
      | none => return (s,[])

def processEvent (conf : NfConfig) (d : Dispatcher) (s : NfSession) (evt : Event) :
    Call (NfSession × List Action) :=
  match s.state with
  | .close => handleStateClose conf d s evt
  | .pending => handleStatePending d s evt
  | .metering => handleStateMetering d s evt

section
variable (s : NfSession) (c : MnslpMsg) (missing : List MspecObject)

@[simp] theorem kind_configureToForward : (s.configureToForward c missing).kind = .configure := by
  simp [configureToForward,MnslpMsg.kind_setMspecObjects,MnslpMsg.setMessageHopCount,
    MnslpMsg.setSelectionMeteringEntities,MnslpMsg.setMsgSequenceNumber,MnslpMsg.setSessionLifetime,MnslpMsg.new]

@[simp] theorem msgSequenceNumber?_configureToForward :
    (s.configureToForward c missing).msgSequenceNumber? = some c.getMsgSequenceNumber := by
  simp only [configureToForward,MnslpMsg.msgSequenceNumber?_setMspecObjects]
  simp [MnslpMsg.msgSequenceNumber?,msgSequenceNumberType,messageHopCountType,selectionMeteringEntitiesType]

@[simp] theorem sessionLifetime?_configureToForward : (s.configureToForward c missing).sessionLifetime? =
    some (if s.lifetime ≤ c.getSessionLifetime then s.lifetime else c.getSessionLifetime) := by
  simp only [configureToForward,MnslpMsg.sessionLifetime?_setMspecObjects]
  simp [MnslpMsg.sessionLifetime?,sessionLifetimeType,messageHopCountType,selectionMeteringEntitiesType,
    msgSequenceNumberType]

/-- The count is taken over as it came. -/
@[simp] theorem getMessageHopCount_configureToForward :
    (s.configureToForward c missing).getMessageHopCount = c.getMessageHopCount := by
  simp only [configureToForward,MnslpMsg.getMessageHopCount,MnslpMsg.messageHopCount?_setMspecObjects]
  simp [MnslpMsg.messageHopCount?]

@[simp] theorem getSelectionMeteringEntities_configureToForward :
    (s.configureToForward c missing).getSelectionMeteringEntities = c.getSelectionMeteringEntities := by
  simp only [configureToForward,MnslpMsg.getSelectionMeteringEntities,
    MnslpMsg.selectionMeteringEntities?_setMspecObjects]
  simp [MnslpMsg.selectionMeteringEntities?,messageHopCountType,selectionMeteringEntitiesType]

theorem getSessionLifetime_configureToForward : (s.configureToForward c missing).getSessionLifetime =
    if s.lifetime ≤ c.getSessionLifetime then s.lifetime else c.getSessionLifetime := by
  rw [MnslpMsg.getSessionLifetime,sessionLifetime?_configureToForward]
  rfl

end

/-- The session after it accepted a CONFIGURE with the given routing information. -/
def accepted (d : Dispatcher) (s : NfSession) (mri : MriPathcoupled) (rule : MtPolicyRule) : NfSession :=
  {s with
    nrMri := some (.pathcoupled mri), niMri := some (Mri.pathcoupled mri).invertDirection, rule := rule
    stateTimer := d.timerId 0, state := .pending}

theorem acceptConfigure_downstream (d : Dispatcher) (s : NfSession) (m : NtlpMsg) (mri : MriPathcoupled)
    (pathcoupled : m.mri = .pathcoupled mri) (downstream : mri.downstream = true) :
    acceptConfigure d s m = m.msg.getMspecObjects >>= fun objects =>
      let (rule,missing) := selectObjects d .forwarder m.msg.getSelectionMeteringEntities s.rule objects
      .ok (accepted d s mri rule,
        [.send ⟨s.id,.pathcoupled mri,0,s.configureToForward m.msg missing⟩,.startTimer (d.timerId 0) s.lifetime]) := by
  simp only [acceptConfigure,setPcMri,pathcoupled,if_pos downstream,setMtPolicyRule,Call.ok_bind]
  cases m.msg.getMspecObjects with
  | error stop => rfl
  | ok objects => rfl

theorem processStateClose_cases (d : Dispatcher) (s : NfSession) (m : NtlpMsg) :
    (∃ mri objects rule missing, m.mri = .pathcoupled mri ∧ mri.downstream = true ∧
        m.msg.getMspecObjects = .ok objects ∧
        selectObjects d .forwarder m.msg.getSelectionMeteringEntities s.rule objects = (rule,missing) ∧
        processStateClose d s m = .ok (accepted d {s with configureMessage := some m.copy} mri rule,
          [.send ⟨s.id,.pathcoupled mri,0,s.configureToForward m.msg missing⟩,
            .startTimer (d.timerId 0) s.lifetime])) ∨
      (∃ mrm, m.mri = .other mrm ∧
        processStateClose d s m = .ok ({s with configureMessage := some m.copy, state := .close},
          [.send (m.createResponse MnslpMsg.scPermanentFailure MnslpMsg.failConfigurationFailed)])) ∨
      processStateClose d s m = .error (.assertFailed .downstream) ∨
      processStateClose d s m = Call.fault .nullDereference := by
  unfold processStateClose
  cases mri : m.mri with
  | other mrm =>
    refine .inr (.inl ⟨mrm,rfl,?_⟩)
    simp [acceptConfigure,setPcMri,mri,Call.throw]
  | pathcoupled pc =>
    by_cases downstream : pc.downstream = true
    · have outcome := acceptConfigure_downstream d {s with configureMessage := some m.copy} m pc mri downstream
      rcases m.msg.getMspecObjects_cases with ⟨objects,collected⟩ | failed
      · left
        rw [collected,Call.ok_bind] at outcome
        exact ⟨pc,objects,_,_,rfl,downstream,collected,rfl,by simp only [outcome]; rfl⟩
      · rw [failed] at outcome
        simp only [outcome]
        exact .inr (.inr (.inr rfl))
    · refine .inr (.inr (.inl ?_))
      simp [acceptConfigure,setPcMri,mri,downstream]

end NfSession
end Mnslp.Session
