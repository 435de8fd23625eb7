import Mnslp.Lib.Relay
import Mnslp.Session.Direction
import Mnslp.Session.InstalledOnce
import Mnslp.Session.Life
import Mnslp.Session.Retransmission

/-! The setup of a whole path. While nothing is lost one message is on its way: the CONFIGURE
down to the responder, which every forwarder answers with waiting, and the RESPONSE back to the
initiator, with which each node in turn begins to meter. -/
namespace Mnslp.Session
open Mnslp.Lib Mnslp.Msg

/-- It authorizes every message, and the meter takes every rule as a whole. -/
structure Dispatcher.Obliging (d : Dispatcher) : Prop where
  authorized : ∀ m, d.isAuthorized m = true
  installs : ∀ rule, ∃ result, d.installPolicyRules rule = .ok result ∧
    result.getNumberMspecObjects = rule.getNumberMspecObjects

namespace NtlpMsg
variable {number : UInt32} {m : NtlpMsg}

/-- A CONFIGURE on its way down that asks for a session. -/
structure AsksToMeter (number : UInt32) (m : NtlpMsg) : Prop where
  kind : m.msg.kind = .configure
  goesDown : m.goesDown = true
  msn : m.msg.msgSequenceNumber? = some number
  lasting : m.msg.getSessionLifetime ≠ 0
  collected : ∃ objects, m.msg.getMspecObjects = .ok objects

/-- A RESPONSE on its way up that grants the session a lifetime. -/
structure Grants (number : UInt32) (m : NtlpMsg) : Prop extends m.IsAnswer number where
  success : m.msg.isSuccess = true
  lasting : m.msg.getSessionLifetime ≠ 0

theorem AsksToMeter.copy (asks : m.AsksToMeter number) : m.copy.AsksToMeter number where
  kind := by simpa [NtlpMsg.copy] using asks.kind
  goesDown := asks.goesDown
  msn := by simpa [NtlpMsg.copy] using asks.msn
  lasting := by simpa [NtlpMsg.copy] using asks.lasting
  collected := by simpa [NtlpMsg.copy,MnslpMsg.getMspecObjects_copy] using asks.collected

theorem Grants.forwarded (grants : m.Grants number) : m.copyForForwarding.Grants number where
  toIsAnswer := grants.toIsAnswer.forwarded
  success := by simpa [copyForForwarding] using grants.success
  lasting := by simpa [copyForForwarding] using grants.lasting

/-- What a request is answered with when the session is to last. -/
theorem grants_createSuccessResponse {lifetime : UInt32} (goesDown : m.goesDown = true)
    (msn : m.msg.msgSequenceNumber? = some number) (positive : lifetime ≠ 0) :
    (m.createSuccessResponse lifetime).Grants number where
  kind := kind_createSuccessResponse _ _
  goesDown := Mri.goesDown_invertDirection goesDown
  msn := by simpa using msn
  success := by simp
  lasting := by simpa [MnslpMsg.getSessionLifetime] using positive

theorem AsksToMeter.pathcoupled (asks : m.AsksToMeter number) :
    ∃ mri, m.mri = .pathcoupled mri ∧ mri.downstream = true := by
  have down : m.mri.goesDown = true := asks.goesDown
  cases route : m.mri with
  | pathcoupled mri =>
    rw [route] at down
    exact ⟨mri,rfl,down⟩
  | other mrm =>
    rw [route] at down
    cases down

theorem AsksToMeter.numbered (asks : m.AsksToMeter number) : m.msg.getMsgSequenceNumber = number := by
  simp [MnslpMsg.getMsgSequenceNumber,asks.msn]

theorem AsksToMeter.ofKind (asks : m.AsksToMeter number) (forThisNode : Bool) :
    (Event.msg m forThisNode).ofKind .configure = some m := Event.ofKind_eq_some.mpr ⟨⟨forThisNode,rfl⟩,asks.kind⟩

end NtlpMsg

/-- A stored CONFIGURE with the number. -/
def IsAskedWith (number : UInt32) (stored : Option NtlpMsg) : Prop :=
  ∃ request, stored = some request ∧ request.msg.kind = .configure ∧ request.msg.msgSequenceNumber? = some number

theorem checkPreconditions_authorized {d : Dispatcher} {m : NtlpMsg} (authorized : d.isAuthorized m = true)
    (maxLifetime : UInt32) : checkPreconditions d m m.msg.getSessionLifetime maxLifetime =
      .ok (.proceed (capped m.msg.getSessionLifetime maxLifetime)) := by
  rcases checkPreconditions_cases d m maxLifetime with ⟨_,unauthorized,_⟩ | ⟨_,checked⟩
  · rw [authorized] at unauthorized
    cases unauthorized
  · exact checked

namespace NiSession

/-- The session waits for the RESPONSE to its CONFIGURE. -/
structure Asking (number : UInt32) (s : NiSession) : Prop where
  state : s.state = .pending
  msn : s.msn = number
  route : ∃ mri, s.mri = some mri ∧ mri.goesDown = true
  asked : IsAskedWith number s.lastConfigureMsg

/-- The session meters, and its last request had the number. -/
structure Established (number : UInt32) (s : NiSession) : Prop where
  state : s.state = .metering
  msn : s.msn = number
  route : ∃ mri, s.mri = some mri ∧ mri.goesDown = true
  lasting : s.lifetime ≠ 0

/-- The request of its user opens a session, or fails an assertion. -/
theorem processEvent_apiConfigure (d : Dispatcher) {s : NiSession} (e : ApiConfigure) (closed : s.state = .close) :
    processEvent d s (.apiConfigure e) =
      if (configuring d s e).refreshInterval > 0 then
        .ok (opened d s e,
          [.send (s.configureFor d e).copy,.startTimer (d.timerId 0) (configuring d s e).responseTimeout] ++
            if e.returnQueue then [.enqueueSessionId] else [])
      else .error (.assertFailed .refreshInterval) := by
  simp only [processEvent,closed,handleStateClose,setupSession_eq]
  split <;> rfl

/-- A session that has no lifetime yet is not opened for a lifetime of 0. -/
theorem lasting_of_positive {d : Dispatcher} {s : NiSession} {e : ApiConfigure} (new : s.lifetime = 0)
    (positive : (configuring d s e).refreshInterval > 0) : e.sessionLifetime ≠ 0 := by
  intro zero
  have none' : s.lifetimeFor e = 0 := by simp [lifetimeFor,zero,new]
  have least : (3 * (2 * s.maxRetries.toNat + 1) - 1) / (3 * (2 * s.maxRetries.toNat + 1)) = 0 :=
    Nat.div_eq_of_lt (by omega)
  simp [configuring,none',refreshIntervalOf,least] at positive

theorem sessionLifetime?_configureFor (d : Dispatcher) (s : NiSession) (e : ApiConfigure) :
    (s.configureFor d e).msg.sessionLifetime? =
      some (if s.lifetimeFor e ≤ e.sessionLifetime then s.lifetimeFor e else e.sessionLifetime) := by
  simp only [configureFor,MnslpMsg.sessionLifetime?_setMspecObjects]
  simp [MnslpMsg.sessionLifetime?,sessionLifetimeType,messageHopCountType,selectionMeteringEntitiesType,
    msgSequenceNumberType]

theorem asks_configureFor (d : Dispatcher) (s : NiSession) {e : ApiConfigure} (lasting : e.sessionLifetime ≠ 0) :
    (s.configureFor d e).AsksToMeter (s.msn + 1) where
  kind := s.kind_configureFor d e
  goesDown := rfl
  msn := s.msgSequenceNumber?_configureFor d e
  lasting := by
    rw [MnslpMsg.getSessionLifetime,sessionLifetime?_configureFor]
    simp [lifetimeFor,lasting]
  collected := ⟨_,(carries_configureFor d s e).getMspecObjects⟩

theorem processEvent_response {d : Dispatcher} {s : NiSession} {evt : Event} {request m : NtlpMsg}
    (state : s.state = .pending) (stored : s.lastConfigureMsg = some request) (kind : request.msg.kind = .configure)
    (response : evt.mnslpResponse request = some m) : processEvent d s evt = handleConfigureResponse d s m.msg := by
  have matching := Event.isResponseTo_of_mnslpResponse _ response
  obtain ⟨⟨forThisNode,rfl⟩,_⟩ := Event.ofKind_eq_some.mp (Event.mnslpResponse_eq_some.mp response).1
  simp only [processEvent,state,handleStatePending,Event.isNoNextNodeFound,Event.isTimer,Event.isAnyTimer,
    Event.isApiTeardown,Bool.false_eq_true,if_false,getLastConfigureMessage,stored,Call.assertSome,Call.ok_bind,
    response,kind,matching,ne_eq,not_true_eq_false]

theorem processEvent_grants {d : Dispatcher} {s : NiSession} {m : NtlpMsg} {number : UInt32} (obliging : d.Obliging)
    (asking : s.Asking number) (grants : m.Grants number) (forThisNode : Bool) :
    ∃ next interval, processEvent d s (.msg m forThisNode) = .ok (next,
        [.reportAsyncEvent "CONFIGURE session initiated",.startTimer (d.timerId 0) interval,.install next.rule]) ∧
      next.Established number := by
  obtain ⟨request,stored,kind,asked⟩ := asking.asked
  obtain ⟨result,installed,complete⟩ := obliging.installs s.rule
  obtain ⟨interval,adopted⟩ := adopting_eq d s m.msg.getSessionLifetime
  rw [processEvent_response asking.state stored kind (grants.mnslpResponse asked forThisNode),handleConfigureResponse,
    if_pos grants.success,adopted]
  simp only [installed,Call.ok_bind,if_pos complete]
  exact ⟨_,_,rfl,rfl,asking.msn,asking.route,grants.lasting⟩

end NiSession

namespace NfSession

structure Asking (number : UInt32) (s : NfSession) : Prop where
  state : s.state = .pending
  msn : s.msn = number
  limit : s.maxLifetime ≠ 0
  asked : IsAskedWith number s.configureMessage

structure Established (number : UInt32) (s : NfSession) : Prop where
  state : s.state = .metering
  msn : s.msn = number
  limit : s.maxLifetime ≠ 0

section
variable {conf : NfConfig} {d : Dispatcher} {s : NfSession} {m : NtlpMsg} {number : UInt32}

private theorem processStateClose_asks (asks : m.AsksToMeter number) (lasting : s.lifetime ≠ 0) (msn : s.msn = number)
    (limit : s.maxLifetime ≠ 0) : ∃ next sent timer lifetime,
      processStateClose d s m = .ok (next,[.send sent,.startTimer timer lifetime]) ∧ next.Asking number ∧
        sent.AsksToMeter number := by
  obtain ⟨mri,route,downstream⟩ := asks.pathcoupled
  obtain ⟨objects,collected⟩ := asks.collected
  have outcome := acceptConfigure_downstream d {s with configureMessage := some m.copy} m mri route downstream
  rw [collected,Call.ok_bind] at outcome
  unfold processStateClose
  simp only [outcome]
  refine ⟨_,_,_,_,rfl,?_,?_⟩
  · exact {
      state := rfl
      msn := msn
      limit := limit
      asked := ⟨m.copy,rfl,asks.copy.kind,asks.copy.msn⟩ }
  · exact {
      kind := kind_configureToForward ..
      goesDown := downstream
      msn := by simp [MnslpMsg.getMsgSequenceNumber,asks.msn]
      lasting := by
        rw [getSessionLifetime_configureToForward]
        split
        · exact lasting
        · exact asks.lasting
      collected := ⟨_,(carries_configureToForward _ _ _).getMspecObjects⟩ }

/-- A new session takes the CONFIGURE, passes it on and waits. -/
theorem processEvent_asks (obliging : d.Obliging) (limit : conf.nfMaxSessionLifetime ≠ 0) (asks : m.AsksToMeter number)
    (sid : SessionId) (forThisNode : Bool) : ∃ next sent timer lifetime,
      processEvent conf d (new sid) (.msg m forThisNode) = .ok (next,[.send sent,.startTimer timer lifetime]) ∧
        next.Asking number ∧ sent.AsksToMeter number := by
  have lasting := capped_ne_zero asks.lasting limit
  have checked := checkPreconditions_authorized (obliging.authorized m) conf.nfMaxSessionLifetime
  have entered : processEvent conf d (new sid) (.msg m forThisNode) = processStateClose d
      (((new sid).configured conf).taking (capped m.msg.getSessionLifetime conf.nfMaxSessionLifetime) m) m := by
    unfold processEvent
    simp only [new,handleStateClose,asks.ofKind forThisNode,checked,Call.ok_bind,if_neg lasting]
    rfl
  rw [entered]
  exact processStateClose_asks asks lasting asks.numbered limit

/-- A session that waits for the RESPONSE begins to meter and passes it on. -/
theorem processEvent_grants (conf : NfConfig) (obliging : d.Obliging) (asking : s.Asking number)
    (grants : m.Grants number) (forThisNode : Bool) : ∃ next timer,
      processEvent conf d s (.msg m forThisNode) =
        .ok (next,[.install next.rule,.send m.copyForForwarding,.startTimer timer s.lifetime]) ∧
        next.Established number := by
  obtain ⟨request,stored,kind,asked⟩ := asking.asked
  obtain ⟨result,installed,complete⟩ := obliging.installs s.rule
  rw [processEvent_response asking.state stored kind (grants.mnslpResponse asked forThisNode),handleConfigureResponse,
    if_pos grants.success]
  simp only [installed,Call.ok_bind,if_pos complete]
  exact ⟨_,_,rfl,rfl,asking.msn,asking.limit⟩

end
end NfSession

namespace NrSession

structure Established (number : UInt32) (s : NrSession) : Prop where
  state : s.state = .metering
  msn : s.msn = number
  limit : s.maxLifetime ≠ 0

/-- The responder takes every object that is left of the CONFIGURE. -/
def TakesRest (d : Dispatcher) (m : NtlpMsg) : Prop :=
  ∀ objects, m.msg.getMspecObjects = .ok objects →
    (selectObjects d .receiver m.msg.getSelectionMeteringEntities {} objects).2 = []

/-- A new session that can take what is left begins to meter at once. -/
theorem processEvent_asks {conf : NrConfig} {d : Dispatcher} {m : NtlpMsg} {number : UInt32} (obliging : d.Obliging)
    (limit : conf.nrMaxSessionLifetime ≠ 0) (asks : m.AsksToMeter number) (takes : TakesRest d m) (sid : SessionId)
    (forThisNode : Bool) : ∃ next sent timer lifetime,
      processEvent d (new sid conf) (.msg m forThisNode) =
        .ok (next,[.install next.rule,.send sent,.startTimer timer lifetime]) ∧
        next.Established number ∧ sent.Grants number := by
  obtain ⟨mri,route,_⟩ := asks.pathcoupled
  obtain ⟨objects,collected⟩ := asks.collected
  have lasting := capped_ne_zero asks.lasting limit
  have checked := checkPreconditions_authorized (obliging.authorized m) conf.nrMaxSessionLifetime
  have entered : processEvent d (new sid conf) (.msg m forThisNode) =
      initiateSession d (new sid conf) m (capped m.msg.getSessionLifetime conf.nrMaxSessionLifetime) := by
    simp only [processEvent,new,handleStateClose,asks.ofKind forThisNode,checked,Call.ok_bind,
      UInt32.pos_iff_ne_zero.mpr lasting,if_true]
  have rest := takes objects collected
  obtain ⟨result,installed,complete⟩ := obliging.installs
    (selectObjects d .receiver m.msg.getSelectionMeteringEntities {} objects).1
  rw [entered,initiateSession,saveMtPolicyRule]
  simp only [new,route,collected,rest,Call.ok_bind,pure_bind]
  rw [if_neg (show ¬ ([] : List MspecObject).length > 0 from Nat.lt_irrefl 0),installed,Call.ok_bind,if_pos complete]
  exact ⟨_,_,_,_,rfl,⟨rfl,asks.numbered,limit⟩,NtlpMsg.grants_createSuccessResponse asks.goesDown asks.msn lasting⟩

end NrSession

namespace NodeSession
variable {net : Network} {i : Nat} {d : Dispatcher} {evt : Event} {actions : List Action}

theorem processEvent_initiator {s next : NiSession} (ok : s.processEvent d evt = .ok (next,actions)) :
    (initiator s).processEvent net i d evt = .ok (.initiator next,actions) := by
  rw [processEvent,ok]
  rfl

theorem processEvent_forwarder {s next : NfSession} (ok : s.processEvent (net.nfConf i) d evt = .ok (next,actions)) :
    (forwarder s).processEvent net i d evt = .ok (.forwarder next,actions) := by
  rw [processEvent,ok]
  rfl

theorem processEvent_responder {s next : NrSession} (ok : s.processEvent d evt = .ok (next,actions)) :
    (responder s).processEvent net i d evt = .ok (.responder next,actions) := by
  rw [processEvent,ok]
  rfl

end NodeSession

namespace Network

/-- No node limits the lifetime of a session to nothing. -/
structure Grantable (net : Network) : Prop where
  forwarder : ∀ i, (net.nfConf i).nfMaxSessionLifetime ≠ 0
  responder : net.nrConf.nrMaxSessionLifetime ≠ 0

/-- The node's dispatcher grants what a message asks for; that of the responder leaves no object over. -/
def Obliges (net : Network) (i : Nat) (d : Dispatcher) (m : NtlpMsg) : Prop :=
  d.Obliging ∧ (i = net.forwarders + 1 → NrSession.TakesRest d m)

def Unreached (_ : Nat) (node : Node) : Prop := node.session = none ∧ node.installed = []

def AskingAt (number : UInt32) (i : Nat) (node : Node) : Prop :=
  node.installed = [] ∧ match node.session with
    | some (.initiator s) => i = 0 ∧ s.Asking number
    | some (.forwarder s) => i ≠ 0 ∧ s.Asking number
    | _ => False

/-- A session in the place of its role that meters. -/
def EstablishedIn (net : Network) (number : UInt32) (i : Nat) : NodeSession → Prop
  | .initiator s => i = 0 ∧ s.Established number
  | .forwarder s => (i ≠ 0 ∧ i ≤ net.forwarders) ∧ s.Established number
  | .responder s => i = net.forwarders + 1 ∧ s.Established number

/-- The node meters, and its meter holds the keys of the session's rule. -/
def EstablishedAt (net : Network) (number : UInt32) (i : Nat) (node : Node) : Prop :=
  ∃ s, node.session = some s ∧ net.EstablishedIn number i s ∧ node.installed = s.rule.keyStrings

section
variable {net : Network} {i : Nat} {d : Dispatcher} {evt : Event} {node : Node} {actions : List Action}

theorem reaction_of_open {s : NodeSession} (installed : List String) (isOpen : s.state ≠ .close) :
    reaction installed s actions =
      ⟨⟨some s,actions.foldl Action.meter installed⟩,Action.sentDown actions,Action.sentUp actions⟩ := by
  have notFinal : s.isFinal = false := by
    cases s <;> simpa [NodeSession.isFinal,NiSession.isFinal,NfSession.isFinal,NrSession.isFinal,NodeSession.state]
      using isOpen
  simp [reaction,notFinal]

/-- A session that does not end goes on at its node. -/
theorem process_of_open {s next : NodeSession} (session : node.session.or (net.createSession i evt) = some s)
    (ok : s.processEvent net i d evt = .ok (next,actions)) (isOpen : next.state ≠ .close) :
    net.process i d evt node = some ⟨⟨some next,actions.foldl Action.meter node.installed⟩,Action.sentDown actions,
      Action.sentUp actions⟩ := by
  simp only [process,session]
  rw [react_of_ok _ ok,reaction_of_open _ isOpen]

end

/-- A CONFIGURE and its RESPONSE are relayed by the path. -/
theorem relay_setup (net : Network) (number : UInt32) (grantable : net.Grantable) :
    Relay net.rules (net.forwarders + 1) net.Obliges (NtlpMsg.AsksToMeter number) (NtlpMsg.Grants number) Unreached
      (AskingAt number) (net.EstablishedAt number) where
  hands := by
    rintro i d m node later inside ⟨obliging,_⟩ asks ⟨absent,empty⟩
    obtain ⟨next,sent,timer,lifetime,ok,asking,sends⟩ :=
      NfSession.processEvent_asks obliging (grantable.forwarder i) asks m.sid (i = net.forwarders + 1)
    have created : node.session.or (net.createSession i (.msg m (i = net.forwarders + 1))) =
        some (.forwarder (.new m.sid)) := by
      rw [absent,Option.none_or,createSession,asks.ofKind]
      simp only [if_neg later,if_pos (Nat.lt_succ_iff.mp inside)]
    have goesDown : sent.goesDown = true := sends.goesDown
    refine ⟨⟨some (.forwarder next),[]⟩,sent,?_,⟨rfl,later,asking⟩,sends⟩
    refine (process_of_open created (NodeSession.processEvent_forwarder ok)
      (by simp [NodeSession.state,asking.state])).trans ?_
    simp [Action.sentDown,Action.sentUp,Action.sent,Action.meter,goesDown,empty]
  turns := by
    rintro d m node ⟨obliging,takes⟩ asks ⟨absent,empty⟩
    obtain ⟨next,sent,timer,lifetime,ok,established,grants⟩ :=
      NrSession.processEvent_asks obliging grantable.responder asks (takes rfl) m.sid
        (net.forwarders + 1 = net.forwarders + 1)
    have created : node.session.or (net.createSession (net.forwarders + 1)
        (.msg m (net.forwarders + 1 = net.forwarders + 1))) =
        some (.responder (.new m.sid net.nrConf)) := by
      rw [absent,Option.none_or,createSession,asks.ofKind]
      simp
    have goesUp : sent.goesDown = false := grants.goesDown
    refine ⟨⟨some (.responder next),next.rule.keyStrings⟩,sent,?_,⟨_,rfl,⟨rfl,established⟩,rfl⟩,grants⟩
    refine (process_of_open created (NodeSession.processEvent_responder ok)
      (by simp [NodeSession.state,established.state])).trans ?_
    simp [Action.sentDown,Action.sentUp,Action.sent,Action.meter,List.filterMap_cons,goesUp,empty]
  returns := by
    rintro i d m node later inside ⟨obliging,_⟩ grants ⟨empty,waits⟩
    split at waits
    · exact absurd waits.1 later
    · rename_i s session
      obtain ⟨next,timer,ok,established⟩ :=
        NfSession.processEvent_grants (net.nfConf i) obliging waits.2 grants (i = net.forwarders + 1)
      have sends := grants.forwarded
      have goesUp : m.copyForForwarding.goesDown = false := sends.goesDown
      refine ⟨⟨some (.forwarder next),next.rule.keyStrings⟩,m.copyForForwarding,?_,
        ⟨_,rfl,⟨⟨later,Nat.lt_succ_iff.mp inside⟩,established⟩,rfl⟩,sends⟩
      refine (process_of_open (by rw [session,Option.some_or]) (NodeSession.processEvent_forwarder ok)
        (by simp [NodeSession.state,established.state])).trans ?_
      simp [Action.sentDown,Action.sentUp,Action.sent,Action.meter,List.filterMap_cons,goesUp,empty]
    · exact waits.elim
  ends := by
    rintro d m node ⟨obliging,_⟩ grants ⟨empty,waits⟩
    split at waits
    · rename_i s session
      obtain ⟨next,interval,ok,established⟩ :=
        NiSession.processEvent_grants obliging waits.2 grants (0 = net.forwarders + 1)
      refine ⟨⟨some (.initiator next),next.rule.keyStrings⟩,[],?_,⟨_,rfl,⟨rfl,established⟩,rfl⟩⟩
      refine (process_of_open (by rw [session,Option.some_or]) (NodeSession.processEvent_initiator ok)
        (by simp [NodeSession.state,established.state])).trans ?_
      simp [Action.sentDown,Action.sentUp,Action.sent,Action.meter,empty]
    · exact absurd rfl waits.1
    · exact waits.elim

/-- The request of the user puts the CONFIGURE on its way. -/
theorem setup_begins (net : Network) (d : Dispatcher) (e : ApiConfigure) {asked : Path}
    (opens : net.Next net.start (.input 0 d (.apiConfigure e)) asked) :
    Relay.At (net.forwarders + 1) (NtlpMsg.AsksToMeter net.number) (NtlpMsg.Grants net.number) Unreached
      (AskingAt net.number) (net.EstablishedAt net.number) asked 0 := by
  have handled := net.opener.processEvent_apiConfigure d e rfl
  by_cases positive : (NiSession.configuring d net.opener e).refreshInterval > 0
  · rw [if_pos positive] at handled
    have asks := (net.opener.asks_configureFor d (NiSession.lasting_of_positive rfl positive)).copy
    have goesDown : (net.opener.configureFor d e).copy.goesDown = true := asks.goesDown
    have takes : net.rules.take 0 d (.apiConfigure e) (net.start.node 0) =
        some ⟨⟨some (.initiator (NiSession.opened d net.opener e)),[]⟩,[(net.opener.configureFor d e).copy],[]⟩ := by
      have session : (net.start.node 0).session.or (net.createSession 0 (.apiConfigure e)) = some (.initiator net.opener) := rfl
      refine (process_of_open session (NodeSession.processEvent_initiator handled)
        (by simp [NodeSession.state,NiSession.opened])).trans ?_
      cases e.returnQueue <;> simp [start,Action.sentDown,Action.sentUp,Action.sent,Action.meter,goesDown]
    refine .begins (Nat.succ_pos _) ⟨fun _ => rfl,fun _ => rfl⟩ opens takes asks ⟨rfl,rfl,?_⟩ fun i later _ => ?_
    · exact ⟨rfl,rfl,⟨_,rfl,rfl⟩,_,rfl,NiSession.kind_configureFor ..,NiSession.msgSequenceNumber?_configureFor ..⟩
    · simp [Unreached,start,Nat.pos_iff_ne_zero.mp later]
  · obtain ⟨r,takes,_⟩ := Chain.input_taken opens
    have outcome : net.react 0 d (.apiConfigure e) [] (.initiator net.opener) = some r := takes
    rw [if_neg positive] at handled
    simp [react,NodeSession.processEvent,handled] at outcome

/-- How far the setup has come after some deliveries. -/
theorem setup_run {net : Network} (d : Dispatcher) (e : ApiConfigure) {asked final : Path} {labels : List Label}
    (grantable : net.Grantable) (opens : net.Next net.start (.input 0 d (.apiConfigure e)) asked)
    (delivered : Run (Chain.DeliversNext net.rules net.Obliges) asked labels final) :
    Relay.At (net.forwarders + 1) (NtlpMsg.AsksToMeter net.number) (NtlpMsg.Grants net.number) Unreached
      (AskingAt net.number) (net.EstablishedAt net.number) final labels.length := by
  have reached := (net.relay_setup net.number grantable).run (net.setup_begins d e opens) delivered
  rwa [Nat.zero_add] at reached

/-- After the request of its user a session is set up by two deliveries for each channel, whatever
dispatchers that grant it the nodes have. Before the last of them one message is on its way, and its
delivery is possible; after it every node meters and no message is left. -/
theorem setup_complete (net : Network) (d : Dispatcher) (e : ApiConfigure) (asked final : Path) (labels : List Label)
    (grantable : net.Grantable) (opens : net.Next net.start (.input 0 d (.apiConfigure e)) asked)
    (delivered : Run (Chain.DeliversNext net.rules net.Obliges) asked labels final) :
    labels.length ≤ 2 * (net.forwarders + 1) ∧
      (labels.length < 2 * (net.forwarders + 1) → Chain.Moving net.rules net.Obliges final) ∧
      (labels.length = 2 * (net.forwarders + 1) →
        final.Emptied ∧ ∀ i ≤ net.forwarders + 1, net.EstablishedAt net.number i (final.node i)) := by
  have reached := setup_run d e grantable opens delivered
  exact ⟨reached.le,(net.relay_setup net.number grantable).moving reached,reached.finished⟩

/-- A path over one forwarder, whose first sequence number wraps. -/
def threeInRow : Network where
  forwarders := 1
  niConf := ⟨30,3,10⟩
  nfConf _ := ⟨100⟩
  nrConf := ⟨100⟩
  id := 0
  randomNumber := 4294967295

def meterOne : ApiConfigure where
  source := 0
  dest := 0
  sourcePort := 1
  destPort := 2
  protocol := 17
  mspecObjects := [⟨.mandatory,⟨.null,0,0,[],true,true⟩⟩]
  sessionLifetime := 60
  selMetEntities := smeAll
  returnQueue := true

/-- Only the responder's meter knows the object. -/
def keyingAt (i : Nat) : Dispatcher := {Dispatcher.keying with installerCheck := fun _ => decide (i = 2)}

theorem obliging_keyingAt (i : Nat) : (keyingAt i).Obliging := ⟨fun _ => rfl,fun _ => ⟨_,rfl,rfl⟩⟩

/-- The deliveries of a setup. -/
def setUpByAll : List Label := [.deliverDown 0 0 (keyingAt 1),.deliverDown 1 0 (keyingAt 2),
  .deliverUp 1 0 (keyingAt 1),.deliverUp 0 0 (keyingAt 0)]

/-- Where the path is after its user's request and some steps. -/
def inRow (labels : List Label) : Path :=
  (.input 0 (keyingAt 0) (.apiConfigure meterOne) :: labels).foldl
    (fun c label => (Chain.step threeInRow.rules c label).getD c) threeInRow.start

theorem delivered_setUpByAll :
    Run (Chain.DeliversNext threeInRow.rules threeInRow.Obliges) (inRow []) setUpByAll (inRow setUpByAll) := by
  refine .cons ⟨fun m _ => ⟨obliging_keyingAt 1,fun last => by cases last⟩,rfl⟩ (.cons ⟨fun m found => ?_,rfl⟩
    (.cons ⟨fun m _ => ⟨obliging_keyingAt 1,fun last => by cases last⟩,rfl⟩
      (.single ⟨fun m _ => ⟨obliging_keyingAt 0,fun last => by cases last⟩,rfl⟩)))
  cases found
  refine ⟨obliging_keyingAt 2,fun _ objects collected => ?_⟩
  cases collected
  rfl

theorem grantable_threeInRow : threeInRow.Grantable := ⟨fun _ => show (100 : UInt32) ≠ 0 by decide,by decide⟩

/-- The responder takes the object of the CONFIGURE, whose number has wrapped to 0. -/
theorem setup_complete_row : (inRow setUpByAll).Emptied ∧
    ∀ i ≤ 2, threeInRow.EstablishedAt threeInRow.number i ((inRow setUpByAll).node i) :=
  (setup_complete threeInRow (keyingAt 0) meterOne _ _ setUpByAll grantable_threeInRow rfl delivered_setUpByAll).2.2 rfl

end Network
end Mnslp.Session
