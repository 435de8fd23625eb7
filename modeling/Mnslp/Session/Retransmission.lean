import Mnslp.Session.Opening
import Mnslp.Session.Teardown

/-! A REFRESH over a channel that loses messages. The initiator sends it again until an answer
comes; the responder answers the first copy that it accepts, and discards the others. -/
namespace Mnslp.Session
open Mnslp.Lib Mnslp.Msg

namespace NtlpMsg

/-- A REFRESH that prolongs the session, with a given number. -/
structure IsRefresh (number : UInt32) (m : NtlpMsg) : Prop where
  kind : m.msg.kind = .refresh
  goesDown : m.goesDown = true
  lifetime : m.msg.getSessionLifetime ≠ 0
  msn : m.msg.msgSequenceNumber? = some number

section
variable {number : UInt32} {m : NtlpMsg}

theorem IsRefresh.copy (refresh : m.IsRefresh number) : m.copy.IsRefresh number where
  kind := by simpa [NtlpMsg.copy] using refresh.kind
  goesDown := refresh.goesDown
  lifetime := by simpa [NtlpMsg.copy] using refresh.lifetime
  msn := by simpa [NtlpMsg.copy] using refresh.msn

theorem IsRefresh.refused (refresh : m.IsRefresh number) (severity code : UInt8) :
    (m.createResponse severity code).IsAnswer number where
  kind := kind_createResponse _ _ _
  goesDown := Mri.goesDown_invertDirection refresh.goesDown
  msn := by simpa using refresh.msn

theorem IsRefresh.answered (refresh : m.IsRefresh number) (lifetime : UInt32) :
    (m.createSuccessResponse lifetime).IsAnswer number where
  kind := kind_createSuccessResponse _ _
  goesDown := Mri.goesDown_invertDirection refresh.goesDown
  msn := by simpa using refresh.msn

theorem IsAnswer.mnslpResponse {request : NtlpMsg} (answer : m.IsAnswer number)
    (asked : request.msg.msgSequenceNumber? = some number) (forThisNode : Bool) :
    (Event.msg m forThisNode).mnslpResponse request = some m := by
  refine Event.mnslpResponse_eq_some.mpr ⟨Event.ofKind_eq_some.mpr ⟨⟨forThisNode,rfl⟩,answer.kind⟩,?_,?_,?_⟩
  · simp [MnslpMsg.hasMsgSequenceNumber,asked]
  · simp [MnslpMsg.hasMsgSequenceNumber,answer.msn]
  · simp [MnslpMsg.getMsgSequenceNumber,asked,answer.msn]

end
end NtlpMsg

theorem capped_zero (lifetime : UInt32) : capped lifetime 0 = 0 := by
  unfold capped
  split
  · rfl
  · rename_i low
    exact UInt32.le_zero_iff.mp (UInt32.not_lt.mp low)

theorem capped_ne_zero {lifetime maxLifetime : UInt32} (asked : lifetime ≠ 0) (granted : maxLifetime ≠ 0) :
    capped lifetime maxLifetime ≠ 0 := by
  unfold capped
  split
  · exact granted
  · exact asked

namespace NrSession

/-- A responder in METERING may last. -/
def Lasting (s : NrSession) : Prop := s.state = .metering → s.maxLifetime ≠ 0

section
variable {d : Dispatcher} {s next : NrSession} {evt : Event} {actions : List Action} {m : NtlpMsg} {number : UInt32}
  {forThisNode : Bool}

theorem lasting_step (lasting : s.Lasting) (step : Step d s evt next actions) : next.Lasting := by
  cases step with
  | closeInstalled state configure allowed positive =>
    intro _ zero
    have none' : s.maxLifetime = 0 := zero
    rw [none',capped_zero] at positive
    exact positive rfl
  | closeIncomplete state | closeInstallFailed state =>
    intro metering
    exact State.noConfusion (state.symm.trans metering)
  | refreshed state => exact fun _ => lasting state
  | tornDown | timedOut => exact fun metering => State.noConfusion metering
  | closeRejected | closeZero | closeIgnored | refreshRejected | refreshDuplicate | meteringIgnored => exact lasting

theorem Step.of_refresh (step : Step d s (.msg m forThisNode) next actions) (refresh : m.IsRefresh number)
    (metering : s.state = .metering) (lasting : s.maxLifetime ≠ 0) :
    next.state = .metering ∧ next.maxLifetime = s.maxLifetime ∧
      (actions = [] ∧ isGreaterThan number s.msn = false ∨
        ∃ a, a.IsAnswer number ∧ Action.sentDown actions = [] ∧ Action.sentUp actions = [a]) := by
  have own {kind : MsgKind} {found : NtlpMsg} (same : Event.ofKind kind (.msg m forThisNode) = some found) :
      found = m := by
    obtain ⟨⟨_,sent⟩,_⟩ := Event.ofKind_eq_some.mp same
    cases sent
    rfl
  have asks : Event.ofKind .refresh (.msg m forThisNode) = some m :=
    Event.ofKind_eq_some.mpr ⟨⟨_,rfl⟩,refresh.kind⟩
  have numbered : m.msg.getMsgSequenceNumber = number := by simp [MnslpMsg.getMsgSequenceNumber,refresh.msn]
  cases step with
  | refreshRejected state found =>
    cases own found
    have answer := refresh.refused MnslpMsg.scPermanentFailure MnslpMsg.failAuthenticationFailed
    refine ⟨metering,rfl,.inr ⟨_,answer,?_,?_⟩⟩
    · simp [authenticationFailed,Action.sentDown,Action.sent,answer.goesDown]
    · simp [authenticationFailed,Action.sentUp,Action.sent,answer.goesDown]
  | refreshDuplicate state found old =>
    cases own found
    rw [numbered] at old
    exact ⟨metering,rfl,.inl ⟨rfl,old⟩⟩
  | refreshed state found =>
    cases own found
    have answer := refresh.answered (capped m.msg.getSessionLifetime s.maxLifetime)
    refine ⟨metering,rfl,.inr ⟨_,answer,?_,?_⟩⟩
    · simp [Action.sentDown,Action.sent,answer.goesDown]
    · simp [Action.sentUp,Action.sent,answer.goesDown]
  | tornDown state found newer zero =>
    cases own found
    exact absurd zero (capped_ne_zero refresh.lifetime lasting)
  | timedOut state fired => cases fired
  | meteringIgnored state other =>
    rw [asks] at other
    cases other
  | closeRejected other | closeZero other | closeIncomplete other | closeInstalled other | closeInstallFailed other
  | closeIgnored other => exact State.noConfusion (metering.symm.trans other)

theorem refresh_not_thrown {exception : Thrown} (refresh : m.IsRefresh number) (metering : s.state = .metering)
    (lasting : s.maxLifetime ≠ 0) : processEvent d s (.msg m forThisNode) ≠ .error (.thrown exception) := by
  intro threw
  have asks : Event.ofKind .refresh (.msg m forThisNode) = some m :=
    Event.ofKind_eq_some.mpr ⟨⟨_,rfl⟩,refresh.kind⟩
  simp only [processEvent,metering,handleStateMetering,asks,handleRefresh] at threw
  rcases checkPreconditions_cases d m s.maxLifetime with ⟨_,_,checked⟩ | ⟨_,checked⟩
  · rw [checked] at threw
    cases threw
  · rw [checked,Call.ok_bind] at threw
    simp only [UInt32.pos_iff_ne_zero.mpr (capped_ne_zero refresh.lifetime lasting),if_true] at threw
    split at threw <;> cases threw

end
end NrSession

namespace NiSession
variable {d : Dispatcher} {s next : NiSession} {actions : List Action} {m request : NtlpMsg} {number : UInt32}

theorem Step.of_answer {forThisNode : Bool} (step : Step d s (.msg m forThisNode) next actions)
    (metering : s.state = .metering) (stored : s.lastRefreshMsg = some request)
    (asked : request.msg.msgSequenceNumber? = some number) (answer : m.IsAnswer number) :
    (next.state = .close ∨ next.responseTimer = 0) ∧ ∀ sent, .send sent ∉ actions := by
  have response := answer.mnslpResponse asked forThisNode
  cases step with
  | refreshConfirmed => exact ⟨.inr rfl,by simp⟩
  | refreshRefused => exact ⟨.inl rfl,by simp [Action.send_notMem_removal]⟩
  | meteringIgnored state still unanswered =>
    rw [unanswered request stored] at response
    cases response
  | refreshed state fired | refreshRetried state fired | refreshGivenUp state fired => cases fired
  | meteringTeardown state teardown => cases teardown
  | closeIgnored other | pendingRetried other | pendingGivenUp other | pendingNotReached other | pendingTeardown other
  | pendingInstalled other | pendingRefused other | pendingIgnored other =>
    exact State.noConfusion (metering.symm.trans other)

theorem Step.of_responseTimer (step : Step d s (.timer s.responseTimer) next actions)
    (metering : s.state = .metering) (stored : s.lastRefreshMsg = some request) (own : s.responseTimer ≠ s.refreshTimer) :
    (next = {s with refreshCounter := s.refreshCounter + 1, responseTimer := d.timerId 0} ∧
      actions = [.send request.copy,.startTimer (d.timerId 0) s.responseTimeout]) ∨
    (next.state = .close ∧ ∀ sent, .send sent ∉ actions) := by
  cases step with
  | refreshRetried state fired retries found =>
    rw [stored] at found
    cases found
    exact .inl ⟨rfl,rfl⟩
  | refreshGivenUp => exact .inr ⟨rfl,by simp [Action.send_notMem_removal]⟩
  | refreshed state fired => exact absurd (by simpa [Event.isTimer] using fired) own
  | meteringIgnored state still unanswered resting waiting => simp [Event.isTimer] at waiting
  | refreshConfirmed state found response | refreshRefused state found response =>
    cases Event.mnslpResponse_eq_some.mp response with
    | intro arrived _ => cases arrived
  | meteringTeardown state teardown => cases teardown
  | closeIgnored other | pendingRetried other | pendingGivenUp other | pendingNotReached other | pendingTeardown other
  | pendingInstalled other | pendingRefused other | pendingIgnored other =>
    exact State.noConfusion (metering.symm.trans other)

theorem refresh_sent (ok : processEvent d s (.timer s.refreshTimer) = .ok (next,actions)) (metering : s.state = .metering)
    (directed : s.Directed) (positive : s.lifetime ≠ 0) : ∃ r : NtlpMsg, r.IsRefresh (s.msn + 1) ∧
      next.state = .metering ∧ next.lastRefreshMsg = some r ∧
      actions = [.send r.copy,.startTimer (d.timerId 0) s.responseTimeout] := by
  simp only [processEvent,metering,handleStateMetering,Event.isTimer,decide_true,if_true] at ok
  obtain ⟨⟨sent,refresh⟩,built,done⟩ := Call.bind_eq_ok.mp ok
  obtain ⟨mri,found,rfl,rfl⟩ := buildRefreshMessage_eq_ok.mp built
  cases done
  refine ⟨_,⟨?_,directed _ found,?_,?_⟩,metering,rfl,rfl⟩
  · exact NtlpMsg.kind_refreshRequest _ _
  · simpa [refreshFor,MnslpMsg.getSessionLifetime] using positive
  · exact NtlpMsg.msgSequenceNumber?_refreshRequest _ _

end NiSession
namespace Network

/-- What can happen on a channel that loses messages: a message arrives before the timer of
the initiator runs out, or it does not arrive. -/
inductive Loses (c : Path) : Label → Prop
  | deliverDown (d : Dispatcher) : Loses c (.deliverDown 0 0 d)
  | deliverUp (d : Dispatcher) : Loses c (.deliverUp 0 0 d)
  | dropDown : Loses c (.dropDown 0 0)
  | dropUp : Loses c (.dropUp 0 0)
  | timeout {d : Dispatcher} {s : NiSession} (down : c.down 0 = []) (up : c.up 0 = [])
      (session : (c.node 0).session = some (.initiator s)) (running : s.responseTimer ≠ 0)
      (own : s.responseTimer ≠ s.refreshTimer) : Loses c (.input 0 d (.timer s.responseTimer))

def Lossy (net : Network) (c : Path) (label : Label) (next : Path) : Prop := net.Next c label next ∧ Loses c label

/-- A session `s` between two nodes has sent a REFRESH. -/
structure Refreshes (net : Network) (s : NiSession) (begun : Path) : Prop where
  direct : net.forwarders = 0
  positive : s.lifetime ≠ 0
  metering : s.state = .metering
  sent : ∃ past c d n, Run net.Next net.start past c ∧ (c.node 0).session = some (.initiator s) ∧
    (c.node 1).session = some (.responder n) ∧ n.state = .metering ∧ c.down 0 = [] ∧ c.up 0 = [] ∧
    net.Next c (.input 0 d (.timer s.refreshTimer)) begun

/-- The initiator closes because no answer came. -/
def GivesUp (_ : Path) (label : Label) (next : Path) : Prop :=
  (∃ d id, label = .input 0 d (.timer id)) ∧ (next.node 0).session = none

/-- The initiator receives a RESPONSE that matches its REFRESH. -/
def Receives (net : Network) (number : UInt32) (c : Path) (label : Label) (_ : Path) : Prop :=
  ∃ d evt m s r, net.Gets c label 0 d evt ∧ (c.node 0).session = some (.initiator s) ∧ s.state = .metering ∧
    s.lastRefreshMsg = some r ∧ r.msg.getMsgSequenceNumber = number ∧ evt.mnslpResponse r = some m

/-- Both nodes are in METERING, and the initiator waits for an answer. -/
structure Asking (number : UInt32) (down up : List NtlpMsg) (c : Path) : Prop where
  initiator : ∃ s r, (c.node 0).session = some (.initiator s) ∧ s.state = .metering ∧ s.lastRefreshMsg = some r ∧
    r.IsRefresh number
  responder : ∃ n, (c.node 1).session = some (.responder n) ∧ n.state = .metering ∧ n.maxLifetime ≠ 0
  down : c.down 0 = down
  up : c.up 0 = up

/-- The initiator waits no more. -/
structure Rests (c : Path) : Prop where
  initiator : ∀ s, (c.node 0).session = some s → ∃ n, s = .initiator n ∧ n.responseTimer = 0
  down : c.down 0 = []
  up : c.up 0 = []

section
variable {net : Network} {c next : Path} {label : Label} {number : UInt32} {d : Dispatcher} {m a : NtlpMsg}

theorem Asking.received (asking : Asking number [m] [] c) (refresh : m.IsRefresh number)
    (taken : net.Next c (.deliverDown 0 0 d) next) :
    (Asking number [] [] next ∧
      ∀ n, (c.node 1).session = some (.responder n) → isGreaterThan number n.msn = false) ∨
    ∃ a, a.IsAnswer number ∧ Asking number [] [a] next := by
  obtain ⟨n,session,metering,lasting⟩ := asking.responder
  obtain ⟨sent,rest,r,channel,receives,moved⟩ := Chain.deliverDown_first taken
  rw [asking.down] at channel
  cases channel
  have outcome : net.process 1 d (.msg m (0 + 1 = net.forwarders + 1)) (c.node 1) = some r := receives
  have initiator : (next.node 0).session = (c.node 0).session := by rw [moved.others 0 (Nat.zero_ne_one)]
  cases handled outcome with
  | discarded absent =>
    rw [session] at absent
    cases absent
  | initiator existing =>
    rw [session] at existing
    cases existing
  | forwarder has => exact NodeSession.noConfusion (has.existing session)
  | responder has step ok =>
    rename_i own after actions
    cases has.existing session
    obtain ⟨still,most,reaction⟩ := step.of_refresh refresh metering lasting
    have standing : ∃ n, (next.node 1).session = some (.responder n) ∧ n.state = .metering ∧ n.maxLifetime ≠ 0 := by
      refine ⟨after,?_,still,most ▸ lasting⟩
      rw [moved.node]
      simp [Network.reaction,NodeSession.isFinal,NrSession.isFinal,still]
    rcases reaction with ⟨rfl,old⟩ | ⟨answer,isAnswer,down,up⟩
    · refine .inl ⟨⟨initiator ▸ asking.initiator,standing,moved.rest,?_⟩,fun other present => ?_⟩
      · rw [moved.answered,asking.up]
        rfl
      · rw [session] at present
        cases present
        exact old
    · refine .inr ⟨answer,isAnswer,initiator ▸ asking.initiator,standing,moved.rest,?_⟩
      rw [moved.answered,asking.up]
      exact up
  | threw has threw =>
    cases has.existing session
    exact absurd (NodeSession.responder_threw threw) (NrSession.refresh_not_thrown refresh metering lasting)

theorem Asking.answered (asking : Asking number [] [a] c) (answer : a.IsAnswer number)
    (taken : net.Next c (.deliverUp 0 0 d) next) :
    Rests next ∧ net.Receives number c (.deliverUp 0 0 d) next := by
  obtain ⟨s,request,session,metering,stored,asked⟩ := asking.initiator
  obtain ⟨sent,rest,r,channel,receives,moved⟩ := Chain.deliverUp_first taken
  rw [asking.up] at channel
  cases channel
  have outcome : net.process 0 d (.msg a (0 = net.forwarders + 1)) (c.node 0) = some r := receives
  refine ⟨?_,d,.msg a (0 = net.forwarders + 1),a,s,request,.up ?_,session,metering,stored,?_,?_⟩
  · have silent (actions : List Action) (none' : ∀ sent, .send sent ∉ actions) : Action.sentDown actions = [] :=
      List.eq_nil_iff_forall_not_mem.mpr fun sent member => none' sent (Action.mem_sentDown.mp member).1
    cases handled outcome with
    | discarded absent =>
      rw [session] at absent
      cases absent
    | initiator existing step ok =>
      rename_i own after actions
      rw [session] at existing
      cases existing
      obtain ⟨ended,none'⟩ := step.of_answer metering stored asked.msn answer
      refine ⟨fun kept present => ?_,?_,moved.rest⟩
      · rw [moved.node] at present
        rcases ended with closed | stopped
        · simp [reaction,NodeSession.isFinal,NiSession.isFinal,closed] at present
        · by_cases closed : after.state = .close
          · simp [reaction,NodeSession.isFinal,NiSession.isFinal,closed] at present
          · simp only [reaction,NodeSession.isFinal,NiSession.isFinal,closed,decide_false] at present
            exact ⟨after,(Option.some.inj present).symm,stopped⟩
      · rw [moved.sent,asking.down]
        exact silent actions none'
    | forwarder has => exact NodeSession.noConfusion (has.existing session)
    | responder has => exact NodeSession.noConfusion (has.existing session)
    | threw has threw =>
      cases has.existing session
      refine ⟨fun kept present => ?_,?_,moved.rest⟩
      · rw [moved.node] at present
        cases present
      · rw [moved.sent,asking.down]
        rfl
  · rw [asking.up]
    rfl
  · simp [MnslpMsg.getMsgSequenceNumber,asked.msn]
  · exact answer.mnslpResponse asked.msn _

theorem Asking.timedOut {s : NiSession} (asking : Asking number [] [] c)
    (session : (c.node 0).session = some (.initiator s)) (own : s.responseTimer ≠ s.refreshTimer)
    (taken : net.Next c (.input 0 d (.timer s.responseTimer)) next) :
    (∃ m, m.IsRefresh number ∧ Asking number [m] [] next) ∨ Rests next ∧ (next.node 0).session = none := by
  obtain ⟨same,request,present,metering,stored,asked⟩ := asking.initiator
  rw [session] at present
  cases present
  obtain ⟨r,takes,rfl⟩ := Chain.input_taken taken
  have outcome : net.process 0 d (.timer s.responseTimer) (c.node 0) = some r := takes
  have ends (installed : List String) (lost : List NtlpMsg) : Rests (c.act 0 ⟨⟨none,installed⟩,[],lost⟩) := by
    refine ⟨fun kept present => ?_,?_,?_⟩
    · rw [Chain.act_node_self] at present
      cases present
    · rw [Chain.act_down_self,asking.down]
      rfl
    · rw [Chain.act_up_of_ne _ _ (Nat.succ_ne_zero 0),asking.up]
  cases handled outcome with
  | discarded absent =>
    rw [session] at absent
    cases absent
  | initiator existing step ok =>
    rename_i other after actions
    rw [session] at existing
    cases existing
    rcases step.of_responseTimer metering stored own with ⟨rfl,rfl⟩ | ⟨closed,none'⟩
    · have down : request.copy.goesDown = true := asked.goesDown
      refine .inl ⟨_,asked.copy,⟨{s with refreshCounter := s.refreshCounter + 1, responseTimer := d.timerId 0},
        request,?_,metering,stored,asked⟩,?_,?_,?_⟩
      · rw [Chain.act_node_self]
        simp [reaction,NodeSession.isFinal,NiSession.isFinal,metering]
      · rw [Chain.act_node_of_ne _ _ Nat.one_ne_zero]
        exact asking.responder
      · rw [Chain.act_down_self,asking.down]
        simp [reaction,Action.sentDown,Action.sent,down]
      · rw [Chain.act_up_of_ne _ _ (Nat.succ_ne_zero 0),asking.up]
    · have silent : Action.sentDown actions = [] :=
        List.eq_nil_iff_forall_not_mem.mpr fun sent member => none' sent (Action.mem_sentDown.mp member).1
      have gone : reaction (c.node 0).installed (.initiator after) actions =
          ⟨⟨none,actions.foldl Action.meter (c.node 0).installed⟩,[],Action.sentUp actions⟩ := by
        simp [reaction,NodeSession.isFinal,NiSession.isFinal,closed,silent]
      rw [gone]
      exact .inr ⟨ends _ _,by rw [Chain.act_node_self]⟩
  | forwarder has => exact NodeSession.noConfusion (has.existing session)
  | responder has => exact NodeSession.noConfusion (has.existing session)
  | threw has threw =>
    cases has.existing session
    exact .inr ⟨ends _ _,by rw [Chain.act_node_self]⟩

/-- What the initiator waits for is on the way, or nothing is. -/
inductive Waiting (number : UInt32) (c : Path) : Prop
  | refresh {m : NtlpMsg} (refresh : m.IsRefresh number) (asking : Asking number [m] [] c)
  | nothing (asking : Asking number [] [] c)
  | answer {a : NtlpMsg} (answer : a.IsAnswer number) (asking : Asking number [] [a] c)

section
variable {down up : List NtlpMsg}

theorem Asking.droppedDown (asking : Asking number down up c) (taken : net.Next c (.dropDown 0 0) next) :
    Asking number (down.eraseIdx 0) up next := by
  obtain ⟨node,less,same⟩ := Chain.dropDown_taken taken
  rw [asking.down] at less
  exact ⟨node ▸ asking.initiator,node ▸ asking.responder,less,same ▸ asking.up⟩

theorem Asking.droppedUp (asking : Asking number down up c) (taken : net.Next c (.dropUp 0 0) next) :
    Asking number down (up.eraseIdx 0) next := by
  obtain ⟨node,same,less⟩ := Chain.dropUp_taken taken
  rw [asking.up] at less
  exact ⟨node ▸ asking.initiator,node ▸ asking.responder,same ▸ asking.down,less⟩

theorem Asking.not_givesUp (asking : Asking number down up next) : ¬ GivesUp c label next := by
  intro ⟨_,gone⟩
  obtain ⟨s,_,session,_⟩ := asking.initiator
  rw [gone] at session
  cases session

private theorem noneDown (empty : c.down 0 = []) : ¬ net.Next c (.deliverDown 0 0 d) next := by
  intro taken
  obtain ⟨_,_,_,channel,_⟩ := Chain.deliverDown_first taken
  rw [empty] at channel
  cases channel

private theorem noneUp (empty : c.up 0 = []) : ¬ net.Next c (.deliverUp 0 0 d) next := by
  intro taken
  obtain ⟨_,_,_,channel,_⟩ := Chain.deliverUp_first taken
  rw [empty] at channel
  cases channel

end

theorem Asking.answer_step (asking : Asking number [] [a] c) (answer : a.IsAnswer number) (step : net.Lossy c label next)
    (delivered : label ≠ .dropUp 0 0) : (Asking number [] [a] next ∧ ¬ GivesUp c label next) ∨
      Rests next ∧ net.Receives number c label next ∧ ¬ GivesUp c label next := by
  obtain ⟨taken,loses⟩ := step
  cases loses with
  | deliverDown d => exact absurd taken (noneDown asking.down)
  | deliverUp d =>
    obtain ⟨rests,receives⟩ := asking.answered answer taken
    refine .inr ⟨rests,receives,?_⟩
    intro ⟨⟨_,_,same⟩,_⟩
    cases same
  | dropDown =>
    have still := asking.droppedDown taken
    exact .inl ⟨still,still.not_givesUp⟩
  | dropUp => exact absurd rfl delivered
  | timeout down up =>
    rw [asking.up] at up
    cases up

theorem Waiting.step (waiting : Waiting number c) (step : net.Lossy c label next) :
    (Waiting number next ∧ ¬ GivesUp c label next) ∨ Rests next := by
  obtain ⟨taken,loses⟩ := step
  cases waiting with
  | refresh refresh asking =>
    cases loses with
    | deliverDown d =>
      rcases asking.received refresh taken with ⟨still,_⟩ | ⟨a,answer,still⟩
      · exact .inl ⟨.nothing still,still.not_givesUp⟩
      · exact .inl ⟨.answer answer still,still.not_givesUp⟩
    | deliverUp d => exact absurd taken (noneUp asking.up)
    | dropDown =>
      have still := asking.droppedDown taken
      exact .inl ⟨.nothing still,still.not_givesUp⟩
    | dropUp =>
      have still := asking.droppedUp taken
      exact .inl ⟨.refresh refresh still,still.not_givesUp⟩
    | timeout down =>
      rw [asking.down] at down
      cases down
  | nothing asking =>
    cases loses with
    | deliverDown d => exact absurd taken (noneDown asking.down)
    | deliverUp d => exact absurd taken (noneUp asking.up)
    | dropDown =>
      have still := asking.droppedDown taken
      exact .inl ⟨.nothing still,still.not_givesUp⟩
    | dropUp =>
      have still := asking.droppedUp taken
      exact .inl ⟨.nothing still,still.not_givesUp⟩
    | timeout down up session running own =>
      rcases asking.timedOut session own taken with ⟨m,refresh,still⟩ | ⟨rests,_⟩
      · exact .inl ⟨.refresh refresh still,still.not_givesUp⟩
      · exact .inr rests
  | answer answer asking =>
    by_cases lost : label = .dropUp 0 0
    · subst lost
      have still := asking.droppedUp taken
      exact .inl ⟨.nothing still,still.not_givesUp⟩
    · rcases asking.answer_step answer ⟨taken,loses⟩ lost with ⟨still,not⟩ | ⟨rests,_⟩
      · exact .inl ⟨.answer answer still,not⟩
      · exact .inr rests

/-- An initiator that waits no more has no timer that runs. -/
theorem Rests.step (rests : Rests c) (step : net.Lossy c label next) : Rests next ∧ ¬ GivesUp c label next := by
  obtain ⟨taken,loses⟩ := step
  cases loses with
  | deliverDown d => exact absurd taken (noneDown rests.down)
  | deliverUp d => exact absurd taken (noneUp rests.up)
  | dropDown =>
    obtain ⟨node,less,same⟩ := Chain.dropDown_taken taken
    rw [rests.down] at less
    exact ⟨⟨node ▸ rests.initiator,less,same ▸ rests.up⟩,fun ⟨⟨_,_,other⟩,_⟩ => (by cases other)⟩
  | dropUp =>
    obtain ⟨node,same,less⟩ := Chain.dropUp_taken taken
    rw [rests.up] at less
    exact ⟨⟨node ▸ rests.initiator,same ▸ rests.down,less⟩,fun ⟨⟨_,_,other⟩,_⟩ => (by cases other)⟩
  | timeout down up session running =>
    obtain ⟨n,same,stopped⟩ := rests.initiator _ session
    cases same
    exact absurd stopped running

end

/-- What the two ends of the path are in every run. -/
def FitAt (node : Node) : Prop :=
  match node.session with
  | some (.initiator s) => s.Directed
  | some (.responder n) => n.Lasting
  | _ => True

section
variable {net : Network} {c next : Path} {label : Label} {past : List Label}

private theorem process_fit {i : Nat} {d : Dispatcher} {evt : Event} {node : Node} {r : Reaction Node NtlpMsg}
    (fit : FitAt node) (outcome : net.process i d evt node = some r) : FitAt r.node := by
  cases handled outcome with
  | discarded => exact fit
  | initiator session step =>
    unfold FitAt at fit
    rw [session] at fit
    rename_i s next actions ok
    have directed := NiSession.directed_step fit step
    unfold FitAt
    rcases reaction_session node.installed (.initiator next) actions with gone | kept
    · rw [gone]
      exact True.intro
    · rw [kept]
      exact directed
  | forwarder has step =>
    rename_i s next actions ok
    unfold FitAt
    rcases reaction_session node.installed (.forwarder next) actions with gone | kept
    · rw [gone]
      exact True.intro
    · rw [kept]
      exact True.intro
  | responder has step =>
    rename_i n next actions ok
    have lasting : n.Lasting := by
      rcases has.responder with existing | ⟨_,_,sid,rfl⟩
      · unfold FitAt at fit
        rwa [existing] at fit
      · exact fun metering => (by cases metering)
    have still := NrSession.lasting_step lasting step
    unfold FitAt
    rcases reaction_session node.installed (.responder next) actions with gone | kept
    · rw [gone]
      exact True.intro
    · rw [kept]
      exact still
  | threw => exact True.intro

theorem fit_of_run (run : Run net.Next net.start past c) (i : Nat) : FitAt (c.node i) := by
  have all : Chain.Locally (fun _ => FitAt) (fun _ (_ : NtlpMsg) => True) (fun _ _ => True) c := by
    apply run.invariant (Chain.Locally (fun _ => FitAt) (fun _ (_ : NtlpMsg) => True) (fun _ _ => True))
    · intro c label next fit taken
      apply fit.step taken
      intro i r reacts _
      obtain ⟨d,evt,_,outcome⟩ := gets_of_reacts reacts
      exact ⟨process_fit (fit.node i) outcome,fun _ _ => True.intro,fun _ _ _ => True.intro⟩
    · refine ⟨fun i => ?_,fun _ _ _ => True.intro,fun _ _ _ => True.intro⟩
      unfold FitAt start
      by_cases first : i = 0
      · simp only [first,if_true]
        exact fun mri found => (by cases found)
      · simp [first]
  exact all.node i

/-- A REFRESH that has been sent is on the way. -/
theorem Refreshes.waiting {s : NiSession} {begun : Path} (refreshes : net.Refreshes s begun) :
    Waiting (s.msn + 1) begun := by
  obtain ⟨past,c,d,n,run,session,responder,lasts,down,up,taken⟩ := refreshes.sent
  have directed : s.Directed := by
    have fit := fit_of_run run 0
    unfold FitAt at fit
    rwa [session] at fit
  have lasting : n.maxLifetime ≠ 0 := by
    have fit := fit_of_run run 1
    unfold FitAt at fit
    rw [responder] at fit
    exact fit lasts
  obtain ⟨r,takes,rfl⟩ := Chain.input_taken taken
  have outcome : net.process 0 d (.timer s.refreshTimer) (c.node 0) = some r := takes
  have unthrown {exception : Thrown} : s.processEvent d (.timer s.refreshTimer) ≠ .error (.thrown exception) := by
    intro threw
    simp only [NiSession.processEvent,refreshes.metering,NiSession.handleStateMetering,Event.isTimer,decide_true,
      if_true] at threw
    rcases Call.bind_eq_error.mp threw with threw | ⟨_,_,done⟩
    · rcases Call.bind_eq_error.mp threw with threw | ⟨_,_,done⟩
      · cases mri : s.mri <;> simp [NiSession.getMri,mri,Call.assertSome] at threw
      · cases done
    · cases done
  cases handled outcome with
  | discarded absent =>
    rw [session] at absent
    cases absent
  | initiator existing step ok =>
    rename_i own after actions
    rw [session] at existing
    cases existing
    obtain ⟨⟨_,_⟩,ok,done⟩ := Call.bind_eq_ok.mp ok
    cases done
    obtain ⟨request,refresh,metering,stored,rfl⟩ := NiSession.refresh_sent ok refreshes.metering directed refreshes.positive
    have goesDown : request.copy.goesDown = true := refresh.goesDown
    refine .refresh refresh.copy ⟨⟨after,request,?_,metering,stored,refresh⟩,⟨n,?_,lasts,lasting⟩,?_,?_⟩
    · rw [Chain.act_node_self]
      simp [reaction,NodeSession.isFinal,NiSession.isFinal,metering]
    · rw [Chain.act_node_of_ne _ _ Nat.one_ne_zero]
      exact responder
    · rw [Chain.act_down_self,down]
      simp [reaction,Action.sentDown,Action.sent,goesDown]
    · rw [Chain.act_up_of_ne _ _ (Nat.succ_ne_zero 0),up]
  | forwarder has => exact NodeSession.noConfusion (has.existing session)
  | responder has => exact NodeSession.noConfusion (has.existing session)
  | threw has threw =>
    cases has.existing session
    exact absurd (NodeSession.initiator_threw threw) unthrown

def GaveUp (net : Network) (begun : Path) (past : List Label) : Prop := Run.Happened net.Lossy begun GivesUp past

def Received (net : Network) (s : NiSession) (begun : Path) (past : List Label) : Prop :=
  Run.Happened net.Lossy begun (net.Receives (s.msn + 1)) past

private theorem lossy_functional (c : Path) (label : Label) (a b : Path) (first : net.Lossy c label a)
    (second : net.Lossy c label b) : a = b :=
  Option.some.inj ((show _ = some a from first.1).symm.trans second.1)

/-- The initiator does not give up while a copy of its REFRESH is on the way. -/
private theorem waiting_of_run {s : NiSession} {begun : Path} (refreshes : net.Refreshes s begun)
    (run : Run net.Lossy begun past c) :
    Run net.Lossy begun past c ∧ ((Waiting (s.msn + 1) c ∧ ¬ net.GaveUp begun past) ∨ Rests c) := by
  refine run.history (fun past c => Run net.Lossy begun past c ∧
    ((Waiting (s.msn + 1) c ∧ ¬ net.GaveUp begun past) ∨ Rests c)) (fun past c label next story step => ?_)
    ⟨.nil _,.inl ⟨refreshes.waiting,Run.not_happened_nil⟩⟩
  obtain ⟨run,⟨waiting,still⟩ | rests⟩ := story
  · refine ⟨run.append (.single step),?_⟩
    rcases waiting.step step with ⟨waiting,not⟩ | rests
    · refine .inl ⟨waiting,fun gaveUp => ?_⟩
      rcases Run.happened_concat lossy_functional run step gaveUp with before | now
      · exact still before
      · exact not now
    · exact .inr rests
  · exact ⟨run.append (.single step),.inr (rests.step step).1⟩

/-- If the responder gets a copy of the REFRESH when it has not accepted one yet, and what it
sends from then on is not lost, the initiator receives the answer and does not give up. -/
theorem refresh_answered (net : Network) (s : NiSession) (begun middle next final : Path) (before after : List Label)
    (d : Dispatcher) (n : NrSession) (refreshes : net.Refreshes s begun) (run : Run net.Lossy begun before middle)
    (responder : (middle.node 1).session = some (.responder n)) (newer : isGreaterThan (s.msn + 1) n.msn = true)
    (arrives : net.Lossy middle (.deliverDown 0 0 d) next) (rest : Run net.Lossy next after final)
    (delivered : .dropUp 0 0 ∉ after) :
    ¬ net.GaveUp begun (before ++ [.deliverDown 0 0 d] ++ after) ∧
      (final.down 0 = [] → final.up 0 = [] → net.Received s begun (before ++ [.deliverDown 0 0 d] ++ after)) := by
  obtain ⟨waiting,still⟩ : Waiting (s.msn + 1) middle ∧ ¬ net.GaveUp begun before := by
    rcases (waiting_of_run refreshes run).2 with waiting | rests
    · exact waiting
    · exact absurd arrives.1 (noneDown rests.down)
  obtain ⟨a,answer,asking⟩ : ∃ a : NtlpMsg, a.IsAnswer (s.msn + 1) ∧ Asking (s.msn + 1) [] [a] next := by
    cases waiting with
    | refresh refresh asking =>
      rcases asking.received refresh arrives.1 with ⟨_,old⟩ | answered
      · rw [old n responder] at newer
        cases newer
      · exact answered
    | nothing asking => exact absurd arrives.1 (noneDown asking.down)
    | answer _ asking => exact absurd arrives.1 (noneDown asking.down)
  have start : ¬ net.GaveUp begun (before ++ [.deliverDown 0 0 d] ++ []) := by
    rw [List.append_nil]
    intro gaveUp
    rcases Run.happened_concat lossy_functional run arrives gaveUp with earlier | now
    · exact still earlier
    · exact asking.not_givesUp now
  have kept : Run (fun c label next => net.Lossy c label next ∧ label ≠ .dropUp 0 0) next after final :=
    rest.mono_mem fun label member _ _ step => ⟨step,fun lost => delivered (lost ▸ member)⟩
  obtain ⟨_,notGivenUp,end'⟩ := kept.history (fun later c =>
      Run net.Lossy begun (before ++ [.deliverDown 0 0 d] ++ later) c ∧
      ¬ net.GaveUp begun (before ++ [.deliverDown 0 0 d] ++ later) ∧
      (Asking (s.msn + 1) [] [a] c ∨ Rests c ∧ net.Received s begun (before ++ [.deliverDown 0 0 d] ++ later)))
    (fun later c label next story step => by
      obtain ⟨run,still,phase⟩ := story
      obtain ⟨step,delivered⟩ := step
      rw [← List.append_assoc]
      have go : ¬ GivesUp c label next → ¬ net.GaveUp begun (before ++ [.deliverDown 0 0 d] ++ later ++ [label]) := by
        intro not gaveUp
        rcases Run.happened_concat lossy_functional run step gaveUp with earlier | now
        · exact still earlier
        · exact not now
      refine ⟨run.append (.single step),?_⟩
      rcases phase with asking | ⟨rests,received⟩
      · rcases asking.answer_step answer step delivered with ⟨asking,not⟩ | ⟨rests,receives,not⟩
        · exact ⟨go not,.inl asking⟩
        · exact ⟨go not,.inr ⟨rests,_,label,[],c,next,rfl,run,step,receives⟩⟩
      · obtain ⟨rests,not⟩ := rests.step step
        exact ⟨go not,.inr ⟨rests,received.later label⟩⟩)
    ⟨by simpa using run.append (.single arrives),start,.inl asking⟩
  refine ⟨notGivenUp,fun _ up => ?_⟩
  rcases end' with asking | ⟨_,received⟩
  · rw [asking.up] at up
    cases up
  · exact received

end

private def link : Network where
  forwarders := 0
  niConf := ⟨30,1,10⟩
  nfConf _ := ⟨100⟩
  nrConf := ⟨100⟩
  id := 0
  randomNumber := 4

private def meterLink : ApiConfigure where
  source := 0
  dest := 0
  sourcePort := 1
  destPort := 2
  protocol := 17
  mspecObjects := []
  sessionLifetime := 60
  selMetEntities := smeAll
  returnQueue := false

/-- A dispatcher whose next timer has the given id. -/
private def clock (id : Nat) : Dispatcher := {Dispatcher.willing with timerId := fun index => id + index}

private def onLink (labels : List Label) : Path :=
  labels.foldl (fun c label => (Chain.step link.rules c label).getD c) link.start

private def initiatorAfter (labels : List Label) : NiSession :=
  match ((onLink labels).node 0).session with
  | some (.initiator s) => s
  | _ => link.opener

private def setUp : List Label := [.input 0 (clock 1) (.apiConfigure meterLink),.deliverDown 0 0 (clock 1),
  .deliverUp 0 0 (clock 2)]

private def toRefresh : List Label := setUp ++ [.input 0 (clock 3) (.timer 2)]

private theorem link_refreshes : link.Refreshes (initiatorAfter setUp) (onLink toRefresh) where
  direct := rfl
  positive := by decide
  metering := rfl
  sent := ⟨setUp,onLink setUp,clock 3,_,Chain.run_of_foldlM rfl,rfl,rfl,rfl,rfl,rfl,rfl⟩

/-- The first copy of the REFRESH is lost. -/
private def requestLost : List Label := [.dropDown 0 0,.input 0 (clock 4) (.timer 3)]

private theorem run_requestLost : Run link.Lossy (onLink toRefresh) requestLost (onLink (toRefresh ++ requestLost)) := by
  have drops : link.Lossy (onLink toRefresh) (.dropDown 0 0) (onLink (toRefresh ++ [.dropDown 0 0])) := ⟨rfl,.dropDown⟩
  have retries : link.Lossy (onLink (toRefresh ++ [.dropDown 0 0])) (.input 0 (clock 4) (.timer 3))
      (onLink (toRefresh ++ requestLost)) :=
    ⟨rfl,@Loses.timeout _ _ (initiatorAfter (toRefresh ++ [.dropDown 0 0])) rfl rfl rfl (by decide) (by decide)⟩
  exact .cons drops (.single retries)

/-- The second copy and its answer arrive. -/
theorem refresh_answered_again : link.Received (initiatorAfter setUp) (onLink toRefresh)
    (requestLost ++ [.deliverDown 0 0 (clock 1)] ++ [.deliverUp 0 0 (clock 5)]) := by
  have arrives : link.Lossy (onLink (toRefresh ++ requestLost)) (.deliverDown 0 0 (clock 1))
      (onLink (toRefresh ++ requestLost ++ [.deliverDown 0 0 (clock 1)])) := ⟨rfl,.deliverDown _⟩
  have last : link.Lossy (onLink (toRefresh ++ requestLost ++ [.deliverDown 0 0 (clock 1)])) (.deliverUp 0 0 (clock 5))
      (onLink (toRefresh ++ requestLost ++ [.deliverDown 0 0 (clock 1),.deliverUp 0 0 (clock 5)])) :=
    ⟨rfl,.deliverUp _⟩
  exact (refresh_answered link _ _ _ _ _ _ _ _ _ link_refreshes run_requestLost rfl (by decide) arrives (.single last)
    (by simp)).2 rfl rfl

/-- The first copy of the REFRESH arrives and its answer is lost. -/
private def answerLost : List Label := [.deliverDown 0 0 (clock 1),.dropUp 0 0,.input 0 (clock 4) (.timer 3)]

private theorem run_answerLost : Run link.Lossy (onLink toRefresh) answerLost (onLink (toRefresh ++ answerLost)) := by
  have drops : link.Lossy (onLink (toRefresh ++ [.deliverDown 0 0 (clock 1)])) (.dropUp 0 0)
      (onLink (toRefresh ++ [.deliverDown 0 0 (clock 1),.dropUp 0 0])) := ⟨rfl,.dropUp⟩
  have retries : link.Lossy (onLink (toRefresh ++ [.deliverDown 0 0 (clock 1),.dropUp 0 0]))
      (.input 0 (clock 4) (.timer 3)) (onLink (toRefresh ++ answerLost)) :=
    ⟨rfl,@Loses.timeout _ _ (initiatorAfter (toRefresh ++ [.deliverDown 0 0 (clock 1),.dropUp 0 0]))
      rfl rfl rfl (by decide) (by decide)⟩
  exact .cons ⟨rfl,.deliverDown _⟩ (.cons drops (.single retries))

/-- The responder gets the second copy too, and does not answer it. -/
theorem lost_answer_not_recovered : ¬ ∀ (net : Network) (s : NiSession) (begun middle next final : Path)
    (before after : List Label) (d : Dispatcher), net.Refreshes s begun → 1 ≤ s.maxRetries →
      Run net.Lossy begun before middle → (∃ d', .deliverDown 0 0 d' ∈ before) →
      net.Lossy middle (.deliverDown 0 0 d) next → Run net.Lossy next after final → .dropUp 0 0 ∉ after →
      ¬ net.GaveUp begun (before ++ [.deliverDown 0 0 d] ++ after) ∧
        (final.down 0 = [] → final.up 0 = [] → net.Received s begun (before ++ [.deliverDown 0 0 d] ++ after)) := by
  intro recovers
  have again : link.Lossy (onLink (toRefresh ++ answerLost)) (.deliverDown 0 0 (clock 1))
      (onLink (toRefresh ++ answerLost ++ [.deliverDown 0 0 (clock 1)])) := ⟨rfl,.deliverDown _⟩
  have closes : link.Lossy (onLink (toRefresh ++ answerLost ++ [.deliverDown 0 0 (clock 1)]))
      (.input 0 (clock 5) (.timer 4))
      (onLink (toRefresh ++ answerLost ++ [.deliverDown 0 0 (clock 1),.input 0 (clock 5) (.timer 4)])) :=
    ⟨rfl,@Loses.timeout _ _ (initiatorAfter (toRefresh ++ answerLost ++ [.deliverDown 0 0 (clock 1)]))
      rfl rfl rfl (by decide) (by decide)⟩
  obtain ⟨neverGaveUp,_⟩ := recovers link (initiatorAfter setUp) _ _ _ _ _ _ _ link_refreshes (by decide) run_answerLost
    ⟨_,.head _⟩ again (.single closes) (by simp)
  exact neverGaveUp ⟨_,_,[],_,_,rfl,run_answerLost.append (.single again),closes,⟨_,_,rfl⟩,rfl⟩

end Network
end Mnslp.Session
