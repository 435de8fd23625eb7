import Mnslp.Session.OldRefresh
import Mnslp.Session.SetupComplete

/-! A session that is refreshed. The REFRESH goes down a path whose nodes meter and its RESPONSE
comes back, and every node has the next number then. As each REFRESH carries the number after
the last one no number is ever taken for an old one, however often they go round. -/
namespace Mnslp.Session
open Mnslp.Lib Mnslp.Msg

theorem isGreaterThan_next (number : UInt32) : isGreaterThan (number + 1) number = true := by
  have bound := number.toNat_lt
  have next : (number + 1).toNat = (number.toNat + 1) % 2 ^ 32 := UInt32.toNat_add number 1
  simp only [isGreaterThan,decide_eq_true_eq,ne_eq,UInt32.lt_iff_toNat_lt,gt_iff_lt,← UInt32.toNat_inj,UInt32.toNat_sub,
    UInt32.reduceToNat]
  omega

/-- A stored REFRESH with the number. -/
def IsRefreshedWith (number : UInt32) (stored : Option NtlpMsg) : Prop :=
  ∃ request, stored = some request ∧ request.msg.kind = .refresh ∧ request.msg.msgSequenceNumber? = some number

theorem NtlpMsg.IsRefresh.copyForForwarding {number : UInt32} {m : NtlpMsg} (refresh : m.IsRefresh number) :
    m.copyForForwarding.IsRefresh number where
  kind := by simpa [NtlpMsg.copyForForwarding] using refresh.kind
  goesDown := refresh.goesDown
  lifetime := by simpa [NtlpMsg.copyForForwarding] using refresh.lifetime
  msn := by simpa [NtlpMsg.copyForForwarding] using refresh.msn

theorem NtlpMsg.IsRefresh.numbered {number : UInt32} {m : NtlpMsg} (refresh : m.IsRefresh number) :
    m.msg.getMsgSequenceNumber = number := by
  simp [MnslpMsg.getMsgSequenceNumber,refresh.msn]

namespace NiSession

/-- The session meters and waits for the RESPONSE to its REFRESH. -/
structure Refreshing (number : UInt32) (s : NiSession) : Prop extends s.Established number where
  asked : IsRefreshedWith number s.lastRefreshMsg

section
variable {s : NiSession} {number : UInt32}

theorem processEvent_refreshTimer (d : Dispatcher) (established : s.Established number) : ∃ next sent timer timeout,
    processEvent d s (.timer s.refreshTimer) = .ok (next,[.send sent,.startTimer timer timeout]) ∧
      next.Refreshing (number + 1) ∧ next.rule = s.rule ∧ sent.IsRefresh (number + 1) ∧ sent.sid = s.id ∧
        ∃ lifetime msn, sent.msg = (NtlpMsg.refreshRequest lifetime msn).copy := by
  obtain ⟨mri,found,goesDown⟩ := established.route
  have built : s.buildRefreshMessage = .ok ({s with msn := s.msn + 1},s.refreshFor mri) :=
    buildRefreshMessage_eq_ok.mpr ⟨mri,found,rfl,rfl⟩
  have refresh : (s.refreshFor mri).IsRefresh (number + 1) := {
    kind := NtlpMsg.kind_refreshRequest _ _
    goesDown := goesDown
    lifetime := by simpa [refreshFor,MnslpMsg.getSessionLifetime] using established.lasting
    msn := by simp [refreshFor,established.msn] }
  simp only [processEvent,established.state,handleStateMetering,Event.isTimer,decide_true,if_true,built,Call.ok_bind]
  refine ⟨_,_,_,_,rfl,?_,rfl,refresh.copy,rfl,_,_,rfl⟩
  exact {
    state := rfl
    msn := by simp [established.msn]
    route := established.route
    lasting := established.lasting
    asked := ⟨_,rfl,refresh.kind,refresh.msn⟩ }

theorem processEvent_refreshResponse {d : Dispatcher} {evt : Event} {request m : NtlpMsg} (state : s.state = .metering)
    (stored : s.lastRefreshMsg = some request) (kind : request.msg.kind = .refresh)
    (response : evt.mnslpResponse request = some m) : processEvent d s evt = handleRefreshResponse d s m.msg := by
  have matching := Event.isResponseTo_of_mnslpResponse _ response
  obtain ⟨⟨forThisNode,rfl⟩,_⟩ := Event.ofKind_eq_some.mp (Event.mnslpResponse_eq_some.mp response).1
  simp only [processEvent,state,handleStateMetering,Event.isTimer,Event.isAnyTimer,Event.isApiTeardown,
    Bool.false_eq_true,if_false,getLastRefreshMessage,stored,Call.assertSome,Call.ok_bind,response,kind,matching,ne_eq,
    not_true_eq_false]

/-- The RESPONSE ends the round. -/
theorem processEvent_refreshed (d : Dispatcher) {m : NtlpMsg} (refreshing : s.Refreshing number)
    (grants : m.Grants number) (forThisNode : Bool) : ∃ next report timer interval,
      processEvent d s (.msg m forThisNode) = .ok (next,[.reportAsyncEvent report,.startTimer timer interval]) ∧
        next.Established number ∧ next.rule = s.rule := by
  obtain ⟨request,stored,kind,asked⟩ := refreshing.asked
  rw [processEvent_refreshResponse refreshing.state stored kind (grants.mnslpResponse asked forThisNode),
    handleRefreshResponse,if_pos grants.success]
  exact ⟨_,_,_,_,rfl,⟨refreshing.state,refreshing.msn,refreshing.route,refreshing.lasting⟩,rfl⟩

end
end NiSession

namespace NfSession

/-- The session meters and waits for the RESPONSE to the REFRESH that it passed on. -/
structure Refreshing (number : UInt32) (s : NfSession) : Prop extends s.Established number where
  lasting : s.lifetime ≠ 0
  asked : IsRefreshedWith number s.refreshMessage

section
variable {d : Dispatcher} {s : NfSession} {m : NtlpMsg} {number : UInt32}

theorem processEvent_passesOn (conf : NfConfig) (authorized : d.isAuthorized m = true) (established : s.Established number)
    (refresh : m.IsRefresh (number + 1)) (forThisNode : Bool) : ∃ next timer timeout,
      processEvent conf d s (.msg m forThisNode) =
        .ok (next,[.send m.copyForForwarding,.startTimer timer timeout]) ∧
        next.Refreshing (number + 1) ∧ next.rule = s.rule := by
  have lasting := capped_ne_zero refresh.lifetime established.limit
  have newer : isGreaterThan m.msg.getMsgSequenceNumber s.msn = true := by
    rw [refresh.numbered,established.msn]
    exact isGreaterThan_next number
  rw [processEvent_refresh established.state refresh.kind,handleRefresh,checkPreconditions_authorized authorized]
  simp only [Call.ok_bind,newer,Bool.not_true,Bool.false_eq_true,if_false,UInt32.pos_iff_ne_zero.mpr lasting,gt_iff_lt,
    if_true]
  refine ⟨_,_,_,rfl,?_,rfl⟩
  exact {
    state := established.state
    msn := refresh.numbered
    limit := established.limit
    lasting := lasting
    asked := ⟨_,rfl,refresh.copy.kind,refresh.copy.msn⟩ }

theorem processEvent_refreshResponse {conf : NfConfig} {evt : Event} {request : NtlpMsg} (state : s.state = .metering)
    (stored : s.refreshMessage = some request) (kind : request.msg.kind = .refresh)
    (response : evt.mnslpResponse request = some m) : processEvent conf d s evt = handleRefreshResponse d s m := by
  have matching := Event.isResponseTo_of_mnslpResponse _ response
  obtain ⟨⟨forThisNode,rfl⟩,same⟩ := Event.ofKind_eq_some.mp (Event.mnslpResponse_eq_some.mp response).1
  have other : Event.ofKind .refresh (.msg m forThisNode) = none := by simp [Event.ofKind,same]
  simp only [processEvent,state,handleStateMetering,other,Event.isNoNextNodeFound,Event.isTimer,Event.isRouteChangedBad,
    Bool.false_eq_true,or_self,if_false,getLastRefreshMessage,stored,Call.assertSome,Call.ok_bind,response,kind,
    matching,ne_eq,not_true_eq_false]

theorem processEvent_refreshed (conf : NfConfig) (d : Dispatcher) (refreshing : s.Refreshing number)
    (grants : m.Grants number) (forThisNode : Bool) : ∃ next timer lifetime,
      processEvent conf d s (.msg m forThisNode) =
        .ok (next,[.send m.copyForForwarding,.startTimer timer lifetime]) ∧
        next.Established number ∧ next.rule = s.rule := by
  obtain ⟨request,stored,kind,asked⟩ := refreshing.asked
  rw [processEvent_refreshResponse refreshing.state stored kind (grants.mnslpResponse asked forThisNode),
    handleRefreshResponse,if_pos grants.success,if_neg refreshing.lasting]
  exact ⟨_,_,_,rfl,⟨refreshing.state,refreshing.msn,refreshing.limit⟩,rfl⟩

end
end NfSession

namespace NrSession

/-- The responder takes the REFRESH and answers it. -/
theorem processEvent_answers {d : Dispatcher} {s : NrSession} {m : NtlpMsg} {number : UInt32}
    (authorized : d.isAuthorized m = true) (established : s.Established number) (refresh : m.IsRefresh (number + 1))
    (forThisNode : Bool) : ∃ next granted timer lifetime,
      processEvent d s (.msg m forThisNode) =
        .ok (next,[.send (m.createSuccessResponse granted),.startTimer timer lifetime]) ∧
        next.Established (number + 1) ∧ next.rule = s.rule ∧ granted ≠ 0 := by
  have lasting := capped_ne_zero refresh.lifetime established.limit
  have newer : isGreaterThan m.msg.getMsgSequenceNumber s.msn = true := by
    rw [refresh.numbered,established.msn]
    exact isGreaterThan_next number
  rw [processEvent_refresh established.state refresh.kind,handleRefresh,checkPreconditions_authorized authorized]
  simp only [Call.ok_bind,newer,Bool.not_true,Bool.false_eq_true,if_false,UInt32.pos_iff_ne_zero.mpr lasting,gt_iff_lt,
    if_true]
  exact ⟨_,_,_,_,rfl,⟨established.state,refresh.numbered,established.limit⟩,rfl,lasting⟩

end NrSession

namespace Network

/-- The message is authorized at the node. -/
def Authorizes (_ : Nat) (d : Dispatcher) (m : NtlpMsg) : Prop := d.isAuthorized m = true

/-- A node that meters, with the given keys in its meter. -/
def MetersAt (net : Network) (meters : Nat → List String) (number : UInt32) (i : Nat) (node : Node) : Prop :=
  net.EstablishedAt number i node ∧ node.installed = meters i

/-- A node that waits for the RESPONSE to a REFRESH. -/
def RefreshingAt (meters : Nat → List String) (number : UInt32) (i : Nat) (node : Node) : Prop :=
  node.installed = meters i ∧ match node.session with
    | some (.initiator s) => i = 0 ∧ s.Refreshing number ∧ node.installed = s.rule.keyStrings
    | some (.forwarder s) => i ≠ 0 ∧ s.Refreshing number ∧ node.installed = s.rule.keyStrings
    | _ => False

/-- With the RESPONSE the initiator meters on, and sends nothing. -/
theorem RefreshingAt.ends {meters : Nat → List String} {number : UInt32} {node : Node} (waits : RefreshingAt meters number 0 node)
    (net : Network) (d : Dispatcher) {m : NtlpMsg} (grants : m.Grants number) : ∃ next,
      net.rules.receive 0 d m node = some ⟨next,[],[]⟩ ∧ net.MetersAt meters number 0 next := by
  obtain ⟨kept,waits⟩ := waits
  split at waits
  · rename_i s session
    obtain ⟨_,refreshing,keys⟩ := waits
    obtain ⟨next,report,timer,interval,ok,established,rule⟩ :=
      NiSession.processEvent_refreshed d refreshing grants (0 = net.forwarders + 1)
    refine ⟨⟨some (.initiator next),node.installed⟩,?_,⟨_,rfl,⟨rfl,established⟩,?_⟩,kept⟩
    · refine (process_of_open (by rw [session,Option.some_or]) (NodeSession.processEvent_initiator ok)
        (by simp [NodeSession.state,established.state])).trans ?_
      simp [Action.sentDown,Action.sentUp,Action.sent,Action.meter]
    · exact keys.trans (congrArg MtPolicyRule.keyStrings rule.symm)
  · exact absurd rfl waits.1
  · exact waits.elim

/-- REFRESHs and RESPONSEs that stay among themselves on their way. -/
structure RefreshTraffic (number : UInt32) (asks answers : NtlpMsg → Prop) : Prop where
  refresh : ∀ m, asks m → m.IsRefresh number
  grants : ∀ m, answers m → m.Grants number
  handed : ∀ m, asks m → asks m.copyForForwarding
  answered : ∀ m lifetime, asks m → lifetime ≠ 0 → answers (m.createSuccessResponse lifetime)
  returned : ∀ m, answers m → answers m.copyForForwarding

theorem refreshTraffic (number : UInt32) : RefreshTraffic number (NtlpMsg.IsRefresh number) (NtlpMsg.Grants number) where
  refresh _ asks := asks
  grants _ answers := answers
  handed _ asks := asks.copyForForwarding
  answered _ _ asks lasting := NtlpMsg.grants_createSuccessResponse asks.goesDown asks.msn lasting
  returned _ answers := answers.forwarded

/-- They are relayed by a path that meters. -/
theorem relay_traffic (net : Network) (meters : Nat → List String) (number : UInt32) {asks answers : NtlpMsg → Prop}
    (traffic : RefreshTraffic (number + 1) asks answers) :
    Relay net.rules (net.forwarders + 1) Authorizes asks answers
      (net.MetersAt meters number) (RefreshingAt meters (number + 1)) (net.MetersAt meters (number + 1)) where
  hands := by
    rintro i d m node later inside authorized asks ⟨⟨s,session,established,keys⟩,kept⟩
    have refresh := traffic.refresh m asks
    cases s with
    | initiator s => exact absurd established.1 later
    | responder s => exact absurd established.1 (Nat.ne_of_lt inside)
    | forwarder s =>
      obtain ⟨next,timer,timeout,ok,refreshing,rule⟩ :=
        NfSession.processEvent_passesOn (net.nfConf i) authorized established.2 refresh (i = net.forwarders + 1)
      have goesDown : m.copyForForwarding.goesDown = true := refresh.goesDown
      refine ⟨⟨some (.forwarder next),node.installed⟩,m.copyForForwarding,?_,⟨kept,later,refreshing,?_⟩,
        traffic.handed m asks⟩
      · refine (process_of_open (by rw [session,Option.some_or]) (NodeSession.processEvent_forwarder ok)
          (by simp [NodeSession.state,refreshing.state])).trans ?_
        simp [Action.sentDown,Action.sentUp,Action.sent,Action.meter,goesDown]
      · rw [rule]
        exact keys
  turns := by
    rintro d m node authorized asks ⟨⟨s,session,established,keys⟩,kept⟩
    have refresh := traffic.refresh m asks
    cases s with
    | initiator s => exact absurd established.1 (Nat.succ_ne_zero _)
    | forwarder s => exact absurd established.1.2 (Nat.not_succ_le_self _)
    | responder s =>
      obtain ⟨next,granted,timer,lifetime,ok,established,rule,lasting⟩ :=
        NrSession.processEvent_answers authorized established.2 refresh (net.forwarders + 1 = net.forwarders + 1)
      have answers := traffic.answered m granted asks lasting
      have goesUp : (m.createSuccessResponse granted).goesDown = false := (traffic.grants _ answers).goesDown
      refine ⟨⟨some (.responder next),node.installed⟩,m.createSuccessResponse granted,?_,
        ⟨⟨_,rfl,⟨rfl,established⟩,?_⟩,kept⟩,answers⟩
      · refine (process_of_open (by rw [session,Option.some_or]) (NodeSession.processEvent_responder ok)
          (by simp [NodeSession.state,established.state])).trans ?_
        simp [Action.sentDown,Action.sentUp,Action.sent,Action.meter,goesUp]
      · exact keys.trans (congrArg MtPolicyRule.keyStrings rule.symm)
  returns := by
    rintro i d m node later inside _ answers ⟨kept,waits⟩
    have grants := traffic.grants m answers
    split at waits
    · exact absurd waits.1 later
    · rename_i s session
      obtain ⟨_,refreshing,keys⟩ := waits
      obtain ⟨next,timer,lifetime,ok,established,rule⟩ :=
        NfSession.processEvent_refreshed (net.nfConf i) d refreshing grants (i = net.forwarders + 1)
      have sends := grants.forwarded
      have goesUp : m.copyForForwarding.goesDown = false := sends.goesDown
      refine ⟨⟨some (.forwarder next),node.installed⟩,m.copyForForwarding,?_,
        ⟨⟨_,rfl,⟨⟨later,Nat.lt_succ_iff.mp inside⟩,established⟩,?_⟩,kept⟩,traffic.returned m answers⟩
      · refine (process_of_open (by rw [session,Option.some_or]) (NodeSession.processEvent_forwarder ok)
          (by simp [NodeSession.state,established.state])).trans ?_
        simp [Action.sentDown,Action.sentUp,Action.sent,Action.meter,goesUp]
      · exact keys.trans (congrArg MtPolicyRule.keyStrings rule.symm)
    · exact waits.elim
  ends := by
    intro d m node _ answers waits
    obtain ⟨next,reacts,meter⟩ := waits.ends net d (traffic.grants m answers)
    exact ⟨next,[],reacts,meter⟩

theorem relay_refresh (net : Network) (meters : Nat → List String) (number : UInt32) :
    Relay net.rules (net.forwarders + 1) Authorizes (NtlpMsg.IsRefresh (number + 1)) (NtlpMsg.Grants (number + 1))
      (net.MetersAt meters number) (RefreshingAt meters (number + 1)) (net.MetersAt meters (number + 1)) :=
  net.relay_traffic meters number (refreshTraffic (number + 1))

/-- Every node of the path meters, and no message is on its way. -/
structure InService (net : Network) (meters : Nat → List String) (number : UInt32) (c : Path) : Prop where
  empty : c.Emptied
  all : ∀ i ≤ net.forwarders + 1, net.MetersAt meters number i (c.node i)

section
variable {net : Network} {meters : Nat → List String} {number : UInt32} {c begun next final : Path} {s : NiSession}
  {d : Dispatcher} {node : Node}

theorem MetersAt.initiator (meter : net.MetersAt meters number 0 node) : ∃ s, node.session = some (.initiator s) ∧
    s.Established number ∧ node.installed = s.rule.keyStrings := by
  obtain ⟨⟨s,session,established,keys⟩,_⟩ := meter
  cases s with
  | initiator s => exact ⟨s,session,established.2,keys⟩
  | forwarder s => exact absurd rfl established.1.1
  | responder s => exact absurd established.1 (Nat.succ_ne_zero _).symm

/-- The refresh timer of the initiator puts a REFRESH on its way. -/
theorem MetersAt.takes_refreshTimer (meter : net.MetersAt meters number 0 node) (d : Dispatcher)
    (session : node.session = some (.initiator s)) : ∃ (next : NiSession) (sent : NtlpMsg),
      net.rules.take 0 d (.timer s.refreshTimer) node = some ⟨⟨some (.initiator next),node.installed⟩,[sent],[]⟩ ∧
        RefreshingAt meters (number + 1) 0 ⟨some (.initiator next),node.installed⟩ ∧ sent.IsRefresh (number + 1) ∧
          sent.sid = s.id ∧ ∃ lifetime msn, sent.msg = (NtlpMsg.refreshRequest lifetime msn).copy := by
  obtain ⟨own,same,established,keys⟩ := meter.initiator
  rw [session] at same
  cases same
  obtain ⟨next,sent,timer,timeout,ok,refreshing,rule,refresh,made⟩ := s.processEvent_refreshTimer d established
  have goesDown : sent.goesDown = true := refresh.goesDown
  have stays : node.installed = next.rule.keyStrings := keys.trans (congrArg MtPolicyRule.keyStrings rule.symm)
  refine ⟨next,sent,?_,⟨meter.2,rfl,refreshing,stays⟩,refresh,made⟩
  refine (process_of_open (by rw [session,Option.some_or]) (NodeSession.processEvent_initiator ok)
    (by simp [NodeSession.state,refreshing.state])).trans ?_
  simp [Action.sentDown,Action.sentUp,Action.sent,Action.meter,goesDown]

theorem refresh_begins (up : net.InService meters number c) (session : (c.node 0).session = some (.initiator s))
    (fires : net.Next c (.input 0 d (.timer s.refreshTimer)) begun) :
    Relay.At (net.forwarders + 1) (NtlpMsg.IsRefresh (number + 1)) (NtlpMsg.Grants (number + 1))
      (net.MetersAt meters number) (RefreshingAt meters (number + 1)) (net.MetersAt meters (number + 1)) begun 0 := by
  obtain ⟨next,sent,takes,refreshing,refresh,_⟩ := (up.all 0 (Nat.zero_le _)).takes_refreshTimer d session
  exact .begins (Nat.succ_pos _) up.empty fires takes refresh refreshing fun i _ within => up.all i within

/-- How far a round has come after some deliveries. -/
theorem refresh_run {labels : List Label} (up : net.InService meters number c)
    (session : (c.node 0).session = some (.initiator s))
    (fires : net.Next c (.input 0 d (.timer s.refreshTimer)) begun)
    (delivered : Run (Chain.DeliversNext net.rules Authorizes) begun labels final) :
    Relay.At (net.forwarders + 1) (NtlpMsg.IsRefresh (number + 1)) (NtlpMsg.Grants (number + 1))
      (net.MetersAt meters number) (RefreshingAt meters (number + 1)) (net.MetersAt meters (number + 1)) final
      labels.length := by
  have reached := (net.relay_refresh meters number).run (refresh_begins up session fires) delivered
  rwa [Nat.zero_add] at reached

/-- While messages are authorized and none is lost a round is over after two deliveries for each channel. -/
theorem refresh_complete (net : Network) (meters : Nat → List String) (number : UInt32) (c begun final : Path)
    (labels : List Label) (d : Dispatcher) (s : NiSession) (up : net.InService meters number c)
    (session : (c.node 0).session = some (.initiator s))
    (fires : net.Next c (.input 0 d (.timer s.refreshTimer)) begun)
    (delivered : Run (Chain.DeliversNext net.rules Authorizes) begun labels final) :
    labels.length ≤ 2 * (net.forwarders + 1) ∧
      (labels.length < 2 * (net.forwarders + 1) → Chain.Moving net.rules Authorizes final) ∧
      (labels.length = 2 * (net.forwarders + 1) → net.InService meters (number + 1) final) := by
  have reached := refresh_run up session fires delivered
  refine ⟨reached.le,(net.relay_refresh meters number).moving reached,fun all => ?_⟩
  obtain ⟨empty,meter⟩ := reached.finished all
  exact ⟨empty,meter⟩

/-- One round: the refresh timer of the initiator runs out, and messages are delivered until none is left. -/
def Round (net : Network) (c : Path) (d : Dispatcher) (next : Path) : Prop :=
  ∃ s begun labels, (c.node 0).session = some (.initiator s) ∧
    net.Next c (.input 0 d (.timer s.refreshTimer)) begun ∧
    Run (Chain.DeliversNext net.rules Authorizes) begun labels next ∧ next.Emptied

theorem InService.round (up : net.InService meters number c) (round : net.Round c d next) : net.InService meters (number + 1) next := by
  obtain ⟨s,begun,labels,session,fires,delivered,empty⟩ := round
  have reached := refresh_run up session fires delivered
  have all : labels.length = 2 * (net.forwarders + 1) := by
    by_contra other
    have short := reached.le
    exact empty.not_moving ((net.relay_refresh meters number).moving reached (by omega))
  exact ⟨empty,(reached.finished all).2⟩

/-- Whoever the initiator asks, its next round can begin. -/
theorem InService.next_round (up : net.InService meters number c) (d : Dispatcher) :
    ∃ s begun, (c.node 0).session = some (.initiator s) ∧ net.Next c (.input 0 d (.timer s.refreshTimer)) begun := by
  have first := up.all 0 (Nat.zero_le _)
  obtain ⟨s,session,_⟩ := first.initiator
  obtain ⟨next,sent,takes,_⟩ := first.takes_refreshTimer d session
  have taken : Chain.step net.rules c (.input 0 d (.timer s.refreshTimer)) =
      some (c.act 0 ⟨⟨some (.initiator next),(c.node 0).installed⟩,[sent],[]⟩) := by
    rw [Chain.step,takes]
    rfl
  exact ⟨s,_,session,taken⟩

theorem inService_of_established (empty : c.Emptied) (established : ∀ i ≤ net.forwarders + 1, net.EstablishedAt number i (c.node i)) :
    net.InService (fun i => (c.node i).installed) number c :=
  ⟨empty,fun i within => ⟨established i within,rfl⟩⟩

/-- A session that was set up meters the same after any number of rounds, even when its numbers have
gone round, and its initiator can begin another one. -/
theorem kept_up (net : Network) (d : Dispatcher) (e : ApiConfigure) (asked c final : Path) (labels : List Label)
    (rounds : List Dispatcher) (grantable : net.Grantable)
    (opens : net.Next net.start (.input 0 d (.apiConfigure e)) asked)
    (delivered : Run (Chain.DeliversNext net.rules net.Obliges) asked labels c)
    (all : labels.length = 2 * (net.forwarders + 1)) (refreshed : Run net.Round c rounds final) :
    net.InService (fun i => (c.node i).installed) (net.number + UInt32.ofNat rounds.length) final ∧
      ∀ d, ∃ s begun, (final.node 0).session = some (.initiator s) ∧
        net.Next final (.input 0 d (.timer s.refreshTimer)) begun := by
  obtain ⟨empty,established⟩ := (setup_run d e grantable opens delivered).finished all
  have up : net.InService (fun i => (c.node i).installed) (net.number + UInt32.ofNat rounds.length) final :=
    refreshed.history (fun past c' => net.InService (fun i => (c.node i).installed) (net.number + UInt32.ofNat past.length) c')
      (fun past c' d next up round => by
        have after := up.round round
        rw [List.length_append,List.length_singleton,UInt32.ofNat_add,← UInt32.add_assoc]
        exact after)
      (by simpa using inService_of_established empty established)
  exact ⟨up,up.next_round⟩

end

/-- The steps of a round after the setup. -/
private def refreshedByAll : List Label := .input 0 (keyingAt 0) (.timer 1) :: setUpByAll

private theorem delivered_refreshedByAll : Run (Chain.DeliversNext threeInRow.rules Authorizes)
    (inRow (setUpByAll ++ [.input 0 (keyingAt 0) (.timer 1)])) setUpByAll (inRow (setUpByAll ++ refreshedByAll)) :=
  .cons ⟨fun _ _ => rfl,rfl⟩ (.cons ⟨fun _ _ => rfl,rfl⟩ (.cons ⟨fun _ _ => rfl,rfl⟩ (.single ⟨fun _ _ => rfl,rfl⟩)))

theorem up_inRow : threeInRow.InService (fun i => ((inRow setUpByAll).node i).installed) 0 (inRow setUpByAll) := by
  obtain ⟨empty,established⟩ :=
    (setup_run (keyingAt 0) meterOne grantable_threeInRow rfl delivered_setUpByAll).finished rfl
  exact inService_of_established empty established

/-- The first round after the setup. -/
theorem refresh_complete_row : threeInRow.InService (fun i => ((inRow setUpByAll).node i).installed) 1
    (inRow (setUpByAll ++ refreshedByAll)) :=
  (refresh_complete threeInRow _ 0 _ _ _ setUpByAll (keyingAt 0) _ up_inRow rfl rfl delivered_refreshedByAll).2.2 rfl

/-- Its meters hold the keys that the setup gave them. -/
theorem kept_up_row : threeInRow.InService (fun i => ((inRow setUpByAll).node i).installed) 1
    (inRow (setUpByAll ++ refreshedByAll)) :=
  (kept_up threeInRow (keyingAt 0) meterOne _ _ _ setUpByAll [keyingAt 0] grantable_threeInRow rfl
    delivered_setUpByAll rfl
    (.single ⟨_,_,setUpByAll,rfl,rfl,delivered_refreshedByAll,
      ((refresh_run up_inRow rfl rfl delivered_refreshedByAll).finished rfl).1⟩)).1

end Network
end Mnslp.Session
