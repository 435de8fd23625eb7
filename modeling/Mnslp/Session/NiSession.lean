import Mnslp.Session.Session

/-! The session of an initiator, after `ni_session.cpp`. -/
namespace Mnslp.Session
open Mnslp.Lib Mnslp.Msg

structure NiConfig where
  niResponseTimeout : UInt32
  niMaxRetries : UInt32
  niMsgHopCount : UInt32

structure NiSession where
  id : SessionId
  state : State
  msn : UInt32
  msgHopCount : UInt32
  rule : MtPolicyRule
  mri : Option Mri
  lastConfigureMsg : Option NtlpMsg
  lastRefreshMsg : Option NtlpMsg
  lifetime : UInt32
  refreshInterval : UInt32
  responseTimeout : UInt32
  configureCounter : UInt32
  refreshCounter : UInt32
  maxRetries : UInt32
  responseTimer : Nat
  refreshTimer : Nat

namespace NiSession

def new (id : SessionId) (conf : NiConfig) (randomNumber : UInt32) : NiSession where
  id := id
  state := .close
  msn := randomNumber
  msgHopCount := conf.niMsgHopCount
  rule := {}
  mri := none
  lastConfigureMsg := none
  lastRefreshMsg := none
  lifetime := 0
  refreshInterval := 20
  responseTimeout := conf.niResponseTimeout
  configureCounter := 0
  refreshCounter := 0
  maxRetries := conf.niMaxRetries
  responseTimer := 0
  refreshTimer := 0

def isFinal (s : NiSession) : Bool := s.state = .close

def getLastConfigureMessage (s : NiSession) : Call NtlpMsg :=
  Call.assertSome .lastConfigureMessage s.lastConfigureMsg

def getLastRefreshMessage (s : NiSession) : Call NtlpMsg :=
  Call.assertSome .lastRefreshMessage s.lastRefreshMsg

/-- `assert( get_mri() != NULL )` -/
def getMri (s : NiSession) : Call Mri := Call.assertSome .mri s.mri

def calRefreshInterval (s : NiSession) : NiSession := {s with refreshInterval := s.lifetime * 2 / 3}

def buildConfigureMessage (s : NiSession) (e : ApiConfigure) (missing : List MspecObject) :
    Call (NiSession × NtlpMsg) := do
  let mri ← s.getMri
  let s := {s with msn := s.msn + 1}
  let configure := (MnslpMsg.new .configure).setSessionLifetime
    (if s.lifetime ≤ e.sessionLifetime then s.lifetime else e.sessionLifetime)
  let configure := configure.setMsgSequenceNumber s.msn
  let configure := configure.setSelectionMeteringEntities e.selMetEntities
  let configure := configure.setMessageHopCount s.msgHopCount
  let configure := configure.setMspecObjects missing
  return (s,⟨s.id,mri,0,configure⟩)

def buildRefreshMessage (s : NiSession) : Call (NiSession × NtlpMsg) := do
  let mri ← s.getMri
  let s := {s with msn := s.msn + 1}
  return (s,⟨s.id,mri,0,NtlpMsg.refreshRequest s.lifetime s.msn⟩)

def nslpMri (e : ApiConfigure) : Mri :=
  .pathcoupled ⟨e.source,32,e.sourcePort,e.dest,32,e.destPort,e.protocol,0,0,0,true⟩

/-- `ceil(lifetime / ((retries+0.5)*1.5))` over exact numbers. The code computes in `double`, where a quotient
just above a whole number can be rounded to it. -/
def refreshIntervalOf (lifetime retries : UInt32) : UInt32 :=
  let divisor := 3 * (2 * retries.toNat + 1)
  UInt32.ofNat ((4 * lifetime.toNat + divisor - 1) / divisor)

/-- `ceil((((rand() % 1000) / 1000.0) + 0.5) * r)` over exact numbers. The code computes in `double`, where a
product that is a whole number can come out a little larger and be rounded up to the next one. -/
def responseTimeoutOf (rand : Nat) (r : UInt32) : UInt32 :=
  UInt32.ofNat (((rand % 1000 + 500) * r.toNat + 999) / 1000)

def setupSession (d : Dispatcher) (s : NiSession) (e : ApiConfigure) : Call (NiSession × List MspecObject) := do
  let lifetime := if e.sessionLifetime ≠ 0 then e.sessionLifetime else s.lifetime
  let r := refreshIntervalOf lifetime s.maxRetries
  if r > 0 then
    let (rule,missing) := selectObjects d .initiator e.selMetEntities s.rule e.mspecObjects
    let s := {s with
      mri := some (nslpMri e), lifetime := lifetime, refreshInterval := r
      responseTimeout := responseTimeoutOf d.rand r, rule := rule}
    return (s,missing)
  else .error (.assertFailed .refreshInterval)

def handleStateClose (d : Dispatcher) (s : NiSession) (evt : Event) : Call (NiSession × List Action) :=
  match evt with
  | .apiConfigure e => do
    let (s,missing) ← setupSession d s e
    let (s,configure) ← s.buildConfigureMessage e missing
    let s := {s with lastConfigureMsg := some configure, responseTimer := d.timerId 0, state := .pending}
    return (s,[.send configure.copy,.startTimer (d.timerId 0) s.responseTimeout] ++
      if e.returnQueue then [.enqueueSessionId] else [])
  | _ => return (s,[])

/-- The session with the lifetime of a RESPONSE and its timers set for the next REFRESH. -/
def adopting (d : Dispatcher) (s : NiSession) (lifetime : UInt32) : NiSession :=
  let s := if lifetime ≠ s.lifetime then calRefreshInterval {s with lifetime := lifetime} else s
  {s with responseTimer := 0, refreshTimer := d.timerId 0}

/-- The branch of `handle_state_pending` for a RESPONSE to the stored CONFIGURE. -/
def handleConfigureResponse (d : Dispatcher) (s : NiSession) (resp : MnslpMsg) : Call (NiSession × List Action) :=
  if resp.isSuccess then do
    let s := s.adopting d resp.getSessionLifetime
    let result ← d.installPolicyRules s.rule
    if result.getNumberMspecObjects = s.rule.getNumberMspecObjects then
      return ({s with rule := result, configureCounter := 0, state := .metering},
        [.reportAsyncEvent "CONFIGURE session initiated",.startTimer (d.timerId 0) s.refreshInterval,
          .install result])
    else
      let s := {s with lifetime := 0, lastConfigureMsg := none, rule := result}
      let _ ← d.uninstall s.rule
      let _ ← s.buildRefreshMessage
      -- the REFRESH is sent and then the branch ends without a return
      Call.fault .noReturnValue
  else return ({s with state := .close},[.reportAsyncEvent "cannot initiate Configure session"])

def handleStatePending (d : Dispatcher) (s : NiSession) (evt : Event) : Call (NiSession × List Action) :=
  if evt.isTimer s.responseTimer then
    if s.configureCounter < s.maxRetries then do
      let s := {s with configureCounter := s.configureCounter + 1}
      let configure ← s.getLastConfigureMessage
      return ({s with responseTimer := d.timerId 0},
        [.send configure.copy,.startTimer (d.timerId 0) s.responseTimeout])
    else return ({s with state := .close},[.reportAsyncEvent "got no response for our Configure"])
  else if evt.isNoNextNodeFound then return ({s with state := .close},[])
  else if evt.isApiTeardown then do
    let s := {s with lifetime := 0, lastConfigureMsg := none}
    let removed ← d.uninstall s.rule
    let (s,refresh) ← s.buildRefreshMessage
    return ({s with state := .close},removed ++ [.send refresh])
  else if evt.isAnyTimer then return (s,[])
  else do
    let configure ← s.getLastConfigureMessage
    match evt.mnslpResponse configure with
    | some m =>
      if configure.msg.kind ≠ .configure then Call.fault .nullDereference
      else if !m.msg.isResponseTo configure.msg then return (s,[])
      else handleConfigureResponse d s m.msg
    | none => return (s,[])

/-- The branch of `handle_state_metering` for a RESPONSE to the stored REFRESH. -/
def handleRefreshResponse (d : Dispatcher) (s : NiSession) (resp : MnslpMsg) : Call (NiSession × List Action) :=
  if resp.isSuccess then
    return ({s with responseTimer := 0, refreshTimer := d.timerId 0, refreshCounter := 0},
      [.reportAsyncEvent "REFRESH successful",.startTimer (d.timerId 0) s.refreshInterval])
  else do
    let removed ← d.uninstall s.rule
    return ({s with state := .close},removed ++ [.reportAsyncEvent "REFRESH session died"])

def handleStateMetering (d : Dispatcher) (s : NiSession) (evt : Event) : Call (NiSession × List Action) :=
  if evt.isTimer s.refreshTimer then do
    let (s,refresh) ← s.buildRefreshMessage
    return ({s with lastRefreshMsg := some refresh, refreshCounter := 0, responseTimer := d.timerId 0},
      [.send refresh.copy,.startTimer (d.timerId 0) s.responseTimeout])
  else if evt.isTimer s.responseTimer then
    if s.refreshCounter < s.maxRetries then do
      let s := {s with refreshCounter := s.refreshCounter + 1}
      let refresh ← s.getLastRefreshMessage
      return ({s with responseTimer := d.timerId 0},
        [.send refresh.copy,.startTimer (d.timerId 0) s.responseTimeout])
    else do
      let removed ← d.uninstall s.rule
      return ({s with state := .close},
        removed ++ [.reportAsyncEvent "got no response to our REFRESH message"])
  else if evt.isApiTeardown then do
    let s := {s with lifetime := 0, lastRefreshMsg := none}
    let removed ← d.uninstall s.rule
    let (s,refresh) ← s.buildRefreshMessage
    return ({s with state := .close},removed ++ [.send refresh])
  else if evt.isAnyTimer then return (s,[])
  else do
    let refresh ← s.getLastRefreshMessage
    match evt.mnslpResponse refresh with
    | some m =>
      if refresh.msg.kind ≠ .refresh then Call.fault .nullDereference
      else if !m.msg.isResponseTo refresh.msg then return (s,[])
      else handleRefreshResponse d s m.msg
    | none => return (s,[])

def processEvent (d : Dispatcher) (s : NiSession) (evt : Event) : Call (NiSession × List Action) :=
  match s.state with
  | .close => handleStateClose d s evt
  | .pending => handleStatePending d s evt
  | .metering => handleStateMetering d s evt

end NiSession
end Mnslp.Session
