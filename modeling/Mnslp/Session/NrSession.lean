import Mnslp.Session.Session

/-! The session of a responder, after `nr_session.cpp`. -/
namespace Mnslp.Session
open Mnslp.Lib Mnslp.Msg

structure NrConfig where
  nrMaxSessionLifetime : UInt32

structure NrSession where
  id : SessionId
  state : State
  msn : UInt32
  rule : MtPolicyRule
  lifetime : UInt32
  maxLifetime : UInt32
  stateTimer : Nat

namespace NrSession

def new (id : SessionId) (conf : NrConfig) : NrSession where
  id := id
  state := .close
  msn := 0
  rule := {}
  lifetime := 0
  maxLifetime := conf.nrMaxSessionLifetime
  stateTimer := 0

def isFinal (s : NrSession) : Bool := s.state = .close

def saveMtPolicyRule (d : Dispatcher) (s : NrSession) (m : NtlpMsg) : Call (NrSession × List MspecObject) :=
  match m.mri with
  | .other _ =>
    Call.throw (.requestError "no path-coupled MRI found" MnslpMsg.scPermanentFailure
      MnslpMsg.failConfigurationFailed)
  | .pathcoupled _ => do
    let objects ← m.msg.getMspecObjects
    let (rule,missing) := selectObjects d .receiver m.msg.getSelectionMeteringEntities s.rule objects
    return ({s with rule := rule},missing)

/-- The branch of `handle_state_close` for a positive lifetime. -/
def initiateSession (d : Dispatcher) (s : NrSession) (m : NtlpMsg) (lifetime : UInt32) :
    Call (NrSession × List Action) := do
  let s := {s with lifetime := lifetime, msn := m.msg.getMsgSequenceNumber}
  let (s,missing) ← saveMtPolicyRule d s m
  if missing.length > 0 then
    return (s,[.send (m.createResponse MnslpMsg.scPermanentFailure MnslpMsg.failInternalError)])
  else
    let result ← d.installPolicyRules s.rule
    if result.getNumberMspecObjects = s.rule.getNumberMspecObjects then
      return ({s with rule := result, stateTimer := d.timerId 0, state := .metering},
        [.install result,.send (m.createSuccessResponse lifetime),.startTimer (d.timerId 0) lifetime])
    else
      let s := {s with lifetime := 0, rule := result}
      let removed ← d.uninstall s.rule
      return (s,[.install result] ++ removed ++
        [.send (m.createResponse MnslpMsg.scPermanentFailure MnslpMsg.failInternalError)])

def handleStateClose (d : Dispatcher) (s : NrSession) (evt : Event) : Call (NrSession × List Action) :=
  match evt.ofKind .configure with
  | some m => do
    match ← checkPreconditions d m m.msg.getSessionLifetime s.maxLifetime with
    | .reject severity code => return (s,[.send (m.createResponse severity code)])
    | .proceed lifetime =>
      if lifetime > 0 then initiateSession d s m lifetime
      else return (s,[.send (m.createResponse MnslpMsg.scPermanentFailure MnslpMsg.failConfigurationFailed)])
  | none => return (s,[])

/-- The branch of `handle_state_metering` for a REFRESH. -/
def handleRefresh (d : Dispatcher) (s : NrSession) (m : NtlpMsg) : Call (NrSession × List Action) := do
  match ← checkPreconditions d m m.msg.getSessionLifetime s.maxLifetime with
  | .reject severity code => return (s,[.send (m.createResponse severity code)])
  | .proceed lifetime =>
    let msn := m.msg.getMsgSequenceNumber
    if !isGreaterThan msn s.msn then return (s,[])
    else if lifetime > 0 then
      return ({s with lifetime := lifetime, msn := msn, stateTimer := d.timerId 0},
        [.send (m.createSuccessResponse lifetime),.startTimer (d.timerId 0) lifetime])
    else
      let removed ← d.uninstall s.rule
      return ({s with stateTimer := 0, state := .close},removed ++ [.send (m.createSuccessResponse lifetime)])

def handleStateMetering (d : Dispatcher) (s : NrSession) (evt : Event) : Call (NrSession × List Action) :=
  match evt.ofKind .refresh with
  | some m => handleRefresh d s m
  | none =>
    if evt.isTimer s.stateTimer then do
      let removed ← d.uninstall s.rule
      return ({s with state := .close},removed ++ [.reportAsyncEvent "session timed out"])
    else return (s,[])

/-- `process_event`, which knows no handler for a pending responder. -/
def processEvent (d : Dispatcher) (s : NrSession) (evt : Event) : Call (NrSession × List Action) :=
  match s.state with
  | .close => handleStateClose d s evt
  | .metering => handleStateMetering d s evt
  | .pending => .error (.assertFailed .invalidState)

end NrSession
end Mnslp.Session
