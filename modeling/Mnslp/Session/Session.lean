import Mnslp.Msg.MnslpObject

/-! What the three kinds of session share: messages with their routing information,
events, policy rules, the dispatcher they call and the checks of the base class. -/
namespace Mnslp.Session
open Mnslp.Lib Mnslp.Msg

/-- `ntlp::mri_pathcoupled`, the members its constructor takes. -/
structure MriPathcoupled where
  sourceaddress : Nat
  sourceprefix : UInt8
  sourceport : UInt16
  destaddress : Nat
  destprefix : UInt8
  destport : UInt16
  protocol : UInt8
  flowlabel : UInt32
  dsField : UInt16
  spi : UInt32
  downstream : Bool
deriving DecidableEq, Repr

/-- Routing information; only the path-coupled method is looked into. -/
inductive Mri
  | pathcoupled (m : MriPathcoupled)
  | other (mrm : UInt8)
deriving DecidableEq, Repr

def Mri.invertDirection : Mri → Mri
  | .pathcoupled m => .pathcoupled {m with downstream := !m.downstream}
  | .other mrm => .other mrm

abbrev SessionId := BitVec 128

structure NtlpMsg where
  sid : SessionId
  mri : Mri
  siiHandle : UInt32
  msg : MnslpMsg

namespace NtlpMsg

def copy (m : NtlpMsg) : NtlpMsg := {m with msg := m.msg.copy}

def copyForForwarding (m : NtlpMsg) : NtlpMsg := {m with siiHandle := 0, msg := m.msg.copy}

def createResponse (m : NtlpMsg) (severity responseCode : UInt8) : NtlpMsg :=
  let resp := (MnslpMsg.new .response).setInformationCode severity responseCode 0
  let resp := if m.msg.hasMsgSequenceNumber then resp.setMsgSequenceNumber m.msg.getMsgSequenceNumber else resp
  ⟨m.sid,m.mri.invertDirection,0,resp⟩

def createSuccessResponse (m : NtlpMsg) (sessionLifetime : UInt32) : NtlpMsg :=
  let resp := m.createResponse MnslpMsg.scSuccess MnslpMsg.sucSuccessfullyProcessed
  {resp with msg := resp.msg.setSessionLifetime sessionLifetime}

@[simp] theorem kind_createResponse (m : NtlpMsg) (severity responseCode : UInt8) :
    (m.createResponse severity responseCode).msg.kind = .response := by
  unfold createResponse
  by_cases numbered : m.msg.hasMsgSequenceNumber <;>
    simp [numbered,MnslpMsg.setInformationCode,MnslpMsg.setMsgSequenceNumber,MnslpMsg.new]

@[simp] theorem informationCode?_createResponse (m : NtlpMsg) (severity responseCode : UInt8) :
    (m.createResponse severity responseCode).msg.informationCode? = some (severity,responseCode) := by
  unfold createResponse
  by_cases numbered : m.msg.hasMsgSequenceNumber <;>
    simp [numbered,MnslpMsg.informationCode?,informationCodeType,msgSequenceNumberType]

@[simp] theorem msgSequenceNumber?_createResponse (m : NtlpMsg) (severity responseCode : UInt8) :
    (m.createResponse severity responseCode).msg.msgSequenceNumber? = m.msg.msgSequenceNumber? := by
  unfold createResponse MnslpMsg.hasMsgSequenceNumber MnslpMsg.getMsgSequenceNumber
  cases numbered : m.msg.msgSequenceNumber? <;>
    simp [MnslpMsg.msgSequenceNumber?,informationCodeType,msgSequenceNumberType]

@[simp] theorem kind_createSuccessResponse (m : NtlpMsg) (lifetime : UInt32) :
    (m.createSuccessResponse lifetime).msg.kind = .response := by
  simp [createSuccessResponse,MnslpMsg.setSessionLifetime]

@[simp] theorem isSuccess_createSuccessResponse (m : NtlpMsg) (lifetime : UInt32) :
    (m.createSuccessResponse lifetime).msg.isSuccess = true := by
  have code := m.informationCode?_createResponse MnslpMsg.scSuccess MnslpMsg.sucSuccessfullyProcessed
  simpa [createSuccessResponse,MnslpMsg.isSuccess,MnslpMsg.informationCode?,informationCodeType,
    sessionLifetimeType] using code

@[simp] theorem msgSequenceNumber?_createSuccessResponse (m : NtlpMsg) (lifetime : UInt32) :
    (m.createSuccessResponse lifetime).msg.msgSequenceNumber? = m.msg.msgSequenceNumber? := by
  have number := m.msgSequenceNumber?_createResponse MnslpMsg.scSuccess MnslpMsg.sucSuccessfullyProcessed
  simpa [createSuccessResponse,MnslpMsg.msgSequenceNumber?,msgSequenceNumberType,sessionLifetimeType] using number

@[simp] theorem sessionLifetime?_createSuccessResponse (m : NtlpMsg) (lifetime : UInt32) :
    (m.createSuccessResponse lifetime).msg.sessionLifetime? = some lifetime := by
  simp [createSuccessResponse,MnslpMsg.sessionLifetime?]

theorem createResponse_ne (m : NtlpMsg) {severity responseCode otherSeverity otherCode : UInt8}
    (different : responseCode ≠ otherCode) :
    m.createResponse severity responseCode ≠ m.createResponse otherSeverity otherCode := by
  intro same
  have codes := congrArg (fun resp => resp.msg.informationCode?) same
  simp only [informationCode?_createResponse,Option.some.injEq,Prod.mk.injEq] at codes
  exact different codes.2

/-- The message of a REFRESH request. -/
def refreshRequest (lifetime msn : UInt32) : MnslpMsg :=
  ((MnslpMsg.new .refresh).setSessionLifetime lifetime).setMsgSequenceNumber msn

@[simp] theorem kind_refreshRequest (lifetime msn : UInt32) : (refreshRequest lifetime msn).kind = .refresh := by
  simp [refreshRequest,MnslpMsg.setMsgSequenceNumber,MnslpMsg.setSessionLifetime,MnslpMsg.new]

@[simp] theorem sessionLifetime?_refreshRequest (lifetime msn : UInt32) :
    (refreshRequest lifetime msn).sessionLifetime? = some lifetime := by
  simp [refreshRequest,MnslpMsg.sessionLifetime?,sessionLifetimeType,msgSequenceNumberType]

@[simp] theorem msgSequenceNumber?_refreshRequest (lifetime msn : UInt32) :
    (refreshRequest lifetime msn).msgSequenceNumber? = some msn := by
  simp [refreshRequest,MnslpMsg.msgSequenceNumber?]

end NtlpMsg

/-- A request along one flow, from port 1 to port 2. -/
def NtlpMsg.sample (kind : MsgKind) (msn lifetime : UInt32) : NtlpMsg :=
  ⟨0,.pathcoupled ⟨0,32,1,0,32,2,17,0,0,0,true⟩,0,
    ((MnslpMsg.new kind).setMsgSequenceNumber msn).setSessionLifetime lifetime⟩

/-- `is_greater_than`, the order of RFC-1982. -/
def isGreaterThan (s1 s2 : UInt32) : Bool :=
  s1 ≠ s2 ∧ ((s1 < s2 ∧ s2 - s1 > 2147483648) ∨ (s1 > s2 ∧ s1 - s2 < 2147483648))

structure MspecRuleKey where
  uuid : Nat
deriving DecidableEq, Repr

instance : Ranked MspecRuleKey := ⟨fun key => key.uuid⟩

structure MtPolicyRule where
  objects : OrderedMap MspecRuleKey MspecObject := .empty
  ruleKeys : OrderedMap MspecRuleKey (List String) := .empty

namespace MtPolicyRule

def getNumberMspecObjects (rule : MtPolicyRule) : Nat := rule.objects.size

def getNumberRuleKeys (rule : MtPolicyRule) : Nat := rule.ruleKeys.size

def setObject (rule : MtPolicyRule) (key : MspecRuleKey) (obj : MspecObject) : MtPolicyRule :=
  {rule with objects := rule.objects.insert key obj}

end MtPolicyRule

structure ApiConfigure where
  source : Nat
  dest : Nat
  sourcePort : UInt16
  destPort : UInt16
  protocol : UInt8
  mspecObjects : List MspecObject
  sessionLifetime : UInt32
  selMetEntities : UInt32
  returnQueue : Bool

inductive Event
  | msg (m : NtlpMsg) (forThisNode : Bool)
  | timer (id : Nat)
  | noNextNodeFound
  | routeChangedBad
  | apiConfigure (e : ApiConfigure)
  | apiTeardown
  | unexpected

namespace Event

def ofKind (kind : MsgKind) : Event → Option NtlpMsg
  | .msg m _ => if m.msg.kind = kind then some m else none
  | _ => none

/-- `is_timer(evt, t)` for a timer with the given id. -/
def isTimer (evt : Event) (id : Nat) : Bool :=
  match evt with
  | .timer fired => fired = id
  | _ => false

def isAnyTimer : Event → Bool
  | .timer _ => true
  | _ => false

def isNoNextNodeFound : Event → Bool
  | .noNextNodeFound => true
  | _ => false

def isRouteChangedBad : Event → Bool
  | .routeChangedBad => true
  | _ => false

def isApiTeardown : Event → Bool
  | .apiTeardown => true
  | _ => false

/-- `is_mnslp_response(evt, msg)`: a RESPONSE with the number of the stored request. -/
def mnslpResponse (evt : Event) (request : NtlpMsg) : Option NtlpMsg :=
  match evt.ofKind .response with
  | some m =>
    if request.msg.hasMsgSequenceNumber ∧ m.msg.hasMsgSequenceNumber ∧
        request.msg.getMsgSequenceNumber = m.msg.getMsgSequenceNumber
    then some m else none
  | none => none

theorem ofKind_eq_some {kind : MsgKind} {evt : Event} {m : NtlpMsg} :
    evt.ofKind kind = some m ↔ (∃ forThisNode, evt = .msg m forThisNode) ∧ m.msg.kind = kind := by
  cases evt with
  | msg other forThisNode =>
    simp only [ofKind]
    split
    · rename_i same
      constructor
      · intro found
        cases found
        exact ⟨⟨forThisNode,rfl⟩,same⟩
      · rintro ⟨⟨_,found⟩,_⟩
        cases found
        rfl
    · rename_i different
      constructor
      · intro found
        cases found
      · rintro ⟨⟨_,found⟩,same⟩
        cases found
        exact absurd same different
  | _ => simp [ofKind]

theorem mnslpResponse_eq_some {evt : Event} {request m : NtlpMsg} :
    evt.mnslpResponse request = some m ↔ evt.ofKind .response = some m ∧
      request.msg.hasMsgSequenceNumber = true ∧ m.msg.hasMsgSequenceNumber = true ∧
      request.msg.getMsgSequenceNumber = m.msg.getMsgSequenceNumber := by
  unfold mnslpResponse
  cases evt.ofKind .response with
  | none => simp
  | some other =>
    simp only [Option.some.injEq]
    split
    · rename_i matching
      constructor
      · intro found
        cases found
        exact ⟨rfl,matching⟩
      · rintro ⟨rfl,_⟩
        rfl
    · rename_i mismatch
      constructor
      · intro found
        cases found
      · rintro ⟨rfl,matching⟩
        exact absurd matching mismatch

/-- The test on the numbers that the handlers repeat never fails. -/
theorem isResponseTo_of_mnslpResponse {request m : NtlpMsg} (evt : Event)
    (response : evt.mnslpResponse request = some m) : (!m.msg.isResponseTo request.msg) = false := by
  simp [MnslpMsg.isResponseTo,(mnslpResponse_eq_some.mp response).2.2.2]

end Event

/-- What a session's event makes the node do. -/
inductive Action
  | send (m : NtlpMsg)
  | startTimer (id : Nat) (seconds : UInt32)
  | install (rule : MtPolicyRule)
  | remove (rule : MtPolicyRule)
  | reportAsyncEvent (text : String)
  | enqueueSessionId

/-- The dispatcher during one event: the answers of the authorization policy and of
the installer, and the timer ids, rule keys and random number handed out. -/
structure Dispatcher where
  isAuthorized : NtlpMsg → Bool
  isMsMeter : Bool
  installerCheck : MspecObject → Bool
  installer : MtPolicyRule → Except Thrown MtPolicyRule
  remover : MtPolicyRule → MtPolicyRule
  timerId : Nat → Nat
  ruleKey : Nat → MspecRuleKey
  rand : Nat

namespace Dispatcher

/-- A metering node that authorizes every message and installs every rule as it is. -/
def willing : Dispatcher where
  isAuthorized _ := true
  isMsMeter := true
  installerCheck _ := true
  installer := .ok
  remover := id
  timerId index := index + 1
  ruleKey index := ⟨index⟩
  rand := 0

def check (d : Dispatcher) (obj : MspecObject) : Bool := d.isMsMeter && d.installerCheck obj

def installPolicyRules (d : Dispatcher) (rule : MtPolicyRule) : Call MtPolicyRule :=
  (d.installer rule).mapError Stop.thrown

def removePolicyRules (d : Dispatcher) (rule : MtPolicyRule) : Call Unit :=
  if (d.remover rule).getNumberRuleKeys ≠ rule.getNumberRuleKeys then
    Call.throw (.policyRuleInstallerError "Invalid ipfix message" MnslpMsg.scSignalingSessionFailures
      MnslpMsg.sigfailWrongConfMessage)
  else .ok ()

/-- Every handler removes the rule only if it has keys. -/
def uninstall (d : Dispatcher) (rule : MtPolicyRule) : Call (List Action) :=
  if rule.getNumberRuleKeys > 0 then do
    d.removePolicyRules rule
    return [.remove rule]
  else return []

/-- The rule has keys and the installer does not give back as many of them. -/
def RemovalFails (d : Dispatcher) (rule : MtPolicyRule) : Prop :=
  rule.getNumberRuleKeys > 0 ∧ (d.remover rule).getNumberRuleKeys ≠ rule.getNumberRuleKeys

instance (d : Dispatcher) (rule : MtPolicyRule) : Decidable (d.RemovalFails rule) := inferInstanceAs (Decidable (_ ∧ _))

def removal (rule : MtPolicyRule) : List Action := if rule.getNumberRuleKeys > 0 then [.remove rule] else []

theorem uninstall_eq (d : Dispatcher) (rule : MtPolicyRule) :
    d.uninstall rule = if d.RemovalFails rule then
      Call.throw (.policyRuleInstallerError "Invalid ipfix message" MnslpMsg.scSignalingSessionFailures
        MnslpMsg.sigfailWrongConfMessage)
      else .ok (removal rule) := by
  unfold uninstall removePolicyRules RemovalFails removal
  by_cases keys : rule.getNumberRuleKeys > 0
  · by_cases other : (d.remover rule).getNumberRuleKeys = rule.getNumberRuleKeys
    · simp [keys,other]
    · simp [keys,other,Call.throw]
  · simp [keys]

@[simp] theorem uninstall_eq_ok (d : Dispatcher) (rule : MtPolicyRule) (removed : List Action) :
    d.uninstall rule = .ok removed ↔ ¬ d.RemovalFails rule ∧ removed = removal rule := by
  rw [uninstall_eq]
  split <;> simp [Call.throw, *, eq_comm]

@[simp] theorem assertsNull_uninstall (d : Dispatcher) (rule : MtPolicyRule) :
    ¬ Call.AssertsNull (d.uninstall rule) := by
  rw [uninstall_eq]
  split <;> simp

@[simp] theorem assertsNull_installPolicyRules (d : Dispatcher) (rule : MtPolicyRule) :
    ¬ Call.AssertsNull (d.installPolicyRules rule) := by
  unfold installPolicyRules
  cases d.installer rule with
  | error exception => exact Call.assertsNull_throw exception
  | ok result => exact Call.assertsNull_ok result

end Dispatcher

theorem Action.send_notMem_removal (sent : NtlpMsg) (rule : MtPolicyRule) : .send sent ∉ Dispatcher.removal rule := by
  unfold Dispatcher.removal
  split <;> simp

inductive SessionType
  | initiator | forwarder | receiver
deriving DecidableEq, Repr

def smeAll : UInt32 := 1
def smeAny : UInt32 := 2
def smeFirst : UInt32 := 3
def smeLast : UInt32 := 4
def smeFirstLast : UInt32 := 5

def checkParticipating (type : SessionType) (sme : UInt32) : Bool :=
  match type with
  | .initiator => sme = smeAll ∨ sme = smeAny ∨ sme = smeFirst ∨ sme = smeFirstLast
  | .forwarder => sme = smeAll ∨ sme = smeAny
  | .receiver => sme = smeAll ∨ sme = smeAny ∨ sme = smeFirstLast ∨ sme = smeLast

def checkLifetime (lifetime maxLifetime : UInt32) : Call Unit :=
  if lifetime > maxLifetime then
    Call.throw (.overrideLifetime "requested session lifetime too long" MnslpMsg.scInformational
      MnslpMsg.sigfailLifetimeTooBig)
  else .ok ()

def checkAuthorization (d : Dispatcher) (m : NtlpMsg) : Call Unit :=
  if !d.isAuthorized m then
    Call.throw (.requestError "authorization/authentication failed" MnslpMsg.scPermanentFailure
      MnslpMsg.failAuthenticationFailed)
  else .ok ()

/-- What the `try` block with both checks ends in. -/
inductive Checked
  | proceed (lifetime : UInt32)
  | reject (severity responseCode : UInt8)

/-- The `try` block of the handlers. The two exceptions share no base class but
`std::exception`, so the order of the `catch` clauses does not matter. -/
def checkPreconditions (d : Dispatcher) (m : NtlpMsg) (lifetime maxLifetime : UInt32) : Call Checked :=
  let checks := do
    checkLifetime lifetime maxLifetime
    checkAuthorization d m
  match checks with
  | .ok () => .ok (.proceed lifetime)
  | .error (.thrown (.overrideLifetime ..)) => .ok (.proceed maxLifetime)
  | .error (.thrown (.requestError _ severity code)) => .ok (.reject severity code)
  | .error (.thrown (.policyRuleInstallerError _ severity code)) => .ok (.reject severity code)
  | .error stop => .error stop

theorem checkPreconditions_eq (d : Dispatcher) (m : NtlpMsg) (lifetime maxLifetime : UInt32) :
    checkPreconditions d m lifetime maxLifetime = .ok (
      if lifetime > maxLifetime then .proceed maxLifetime
      else if d.isAuthorized m then .proceed lifetime
      else .reject MnslpMsg.scPermanentFailure MnslpMsg.failAuthenticationFailed) := by
  unfold checkPreconditions checkLifetime checkAuthorization
  by_cases above : lifetime > maxLifetime
  · simp [above,Call.throw]
  · by_cases authorized : d.isAuthorized m <;> simp [above,authorized,Call.throw]

/-- The lifetime of a request after `check_lifetime`. -/
def capped (lifetime maxLifetime : UInt32) : UInt32 := if lifetime > maxLifetime then maxLifetime else lifetime

theorem capped_le (lifetime maxLifetime : UInt32) : capped lifetime maxLifetime ≤ maxLifetime := by
  unfold capped
  split
  · exact UInt32.le_refl _
  · rename_i low
    exact UInt32.not_lt.mp low

theorem capped_le_left (lifetime maxLifetime : UInt32) : capped lifetime maxLifetime ≤ lifetime := by
  unfold capped
  split
  · rename_i exceeds
    exact UInt32.le_of_lt exceeds
  · exact UInt32.le_refl _

theorem capped_of_le {lifetime maxLifetime : UInt32} (low : lifetime ≤ maxLifetime) :
    capped lifetime maxLifetime = lifetime := if_neg (UInt32.not_lt.mpr low)

/-- What is sent for a request that the authorization policy rejects. -/
def authenticationFailed (m : NtlpMsg) : List Action :=
  [.send (m.createResponse MnslpMsg.scPermanentFailure MnslpMsg.failAuthenticationFailed)]

/-- A lifetime above the maximum ends the `try` block before the authorization check. -/
theorem checkPreconditions_cases (d : Dispatcher) (m : NtlpMsg) (maxLifetime : UInt32) :
    (¬ m.msg.getSessionLifetime > maxLifetime ∧ d.isAuthorized m = false ∧
        checkPreconditions d m m.msg.getSessionLifetime maxLifetime =
          .ok (.reject MnslpMsg.scPermanentFailure MnslpMsg.failAuthenticationFailed)) ∨
      ((m.msg.getSessionLifetime > maxLifetime ∨ d.isAuthorized m = true) ∧
        checkPreconditions d m m.msg.getSessionLifetime maxLifetime =
          .ok (.proceed (capped m.msg.getSessionLifetime maxLifetime))) := by
  rw [checkPreconditions_eq]
  unfold capped
  by_cases exceeds : m.msg.getSessionLifetime > maxLifetime
  · exact .inr ⟨.inl exceeds,by simp only [if_pos exceeds]⟩
  · by_cases authorized : d.isAuthorized m = true
    · exact .inr ⟨.inr authorized,by simp only [if_neg exceeds,if_pos authorized]⟩
    · exact .inl ⟨exceeds,by simpa using authorized,by simp only [if_neg exceeds,if_neg authorized]⟩

inductive State
  | close | pending | metering
deriving DecidableEq, Repr

/-- The loop that puts the objects this node can meter into the rule and leaves the
others for the next node. The keys are those of the event, in order. -/
def selectObjects (d : Dispatcher) (type : SessionType) (sme : UInt32) (rule : MtPolicyRule)
    (objects : List MspecObject) : MtPolicyRule × List MspecObject :=
  (objects.zipIdx).foldl (fun (rule,missing) (obj,index) =>
    if checkParticipating type sme ∧ d.check obj then (rule.setObject (d.ruleKey index) obj.copy,missing)
    else (rule,missing ++ [obj.copy])) (rule,[])

theorem selectObjects_eq (d : Dispatcher) (type : SessionType) (sme : UInt32) (rule : MtPolicyRule)
    (objects : List MspecObject) : selectObjects d type sme rule objects = objects.zipIdx.foldl (fun chosen entry =>
      if checkParticipating type sme ∧ d.check entry.1 then
        (chosen.1.setObject (d.ruleKey entry.2) entry.1.copy,chosen.2)
      else (chosen.1,chosen.2 ++ [entry.1.copy])) (rule,[]) := rfl

end Mnslp.Session
