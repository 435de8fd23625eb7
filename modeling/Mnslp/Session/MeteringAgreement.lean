import Mnslp.Session.Life
import Mnslp.Session.Opening

/-! The initiator is the last to enter METERING. What links the nodes is the number of its
CONFIGURE: a RESPONSE with this number has passed only nodes that are in METERING. -/
namespace Mnslp.Session
open Mnslp.Lib Mnslp.Msg

/-- The CONFIGURE a session is set up for. -/
def NodeSession.configure (s : NodeSession) (evt : Event) : Option NtlpMsg :=
  match s with
  | .initiator s => s.lastConfigureMsg
  | .forwarder s => s.configureMessage
  | .responder _ => evt.ofKind .configure

/-- A session enters METERING after it installed the whole of a rule. -/
structure NodeSession.Enters (net : Network) (i : Nat) (d : Dispatcher) (s : NodeSession) (evt : Event)
    (number : UInt32) (next : NodeSession) : Prop where
  outside : s.state ≠ .metering
  inside : next.state = .metering
  handled : ∃ actions, s.processEvent net i d evt = .ok (next,actions) ∧ .install next.rule ∈ actions
  complete : ∃ rule, d.installPolicyRules rule = .ok next.rule ∧
    next.rule.getNumberMspecObjects = rule.getNumberMspecObjects
  configured : ∃ m, s.configure evt = some m ∧ m.msg.getMsgSequenceNumber = number

namespace Network

/-- Node `j` enters METERING with a step of the path. -/
def Enters (net : Network) (j : Nat) (number : UInt32) (c : Path) (label : Label) (next : Path) : Prop :=
  ∃ d evt s s', net.Gets c label j d evt ∧ net.Has j evt (c.node j) s ∧ s.Enters net j d evt number s' ∧
    (next.node j).session = some s'

/-- One of the steps from the start on was the one with which node `j` entered METERING. -/
def EnteredBefore (net : Network) (past : List Label) (j : Nat) (number : UInt32) : Prop :=
  Run.Happened net.Next net.start (net.Enters j number) past

/-- What goes down while the initiator waits for the answer to its CONFIGURE. -/
structure Asks (number : UInt32) (m : NtlpMsg) : Prop where
  goesDown : m.goesDown = true
  configure : m.msg.kind = .configure → m.msg.getMsgSequenceNumber = number
  refresh : m.msg.kind = .refresh → m.msg.getMsgSequenceNumber ≠ number
  response : m.msg.kind = .response → m.msg.isSuccess = false

/-- What goes up to node `i`, where `known` holds of the nodes that have entered METERING. -/
structure Confirms (net : Network) (number : UInt32) (known : Nat → Prop) (i : Nat) (m : NtlpMsg) : Prop where
  goesUp : m.goesDown = false
  kind : m.msg.kind = .response
  success : m.msg.isSuccess = true → m.msg.getMsgSequenceNumber = number →
    ∀ j, i < j → j ≤ net.forwarders + 1 → known j

structure ForwarderReady (number : UInt32) (s : NfSession) : Prop where
  nrMri : ∀ mri, s.nrMri = some mri → mri.goesDown = true
  stored : ∀ c, s.configureMessage = some c → c.msg.getMsgSequenceNumber = number
  pending : s.state = .pending → s.msn = number
  refresh : ∀ r, s.refreshMessage = some r → r.msg.getMsgSequenceNumber ≠ number

structure InitiatorWaits (number : UInt32) (s : NiSession) : Prop where
  state : s.state = .pending
  stored : ∃ c, s.lastConfigureMsg = some c ∧ c.msg.kind = .configure ∧ c.msg.getMsgSequenceNumber = number

section
variable {net : Network} {number : UInt32} {known : Nat → Prop} {i : Nat} {d : Dispatcher} {evt : Event}
  {actions : List Action}

/-- What node `i + 1` may receive. -/
def Arrives (net : Network) (number : UInt32) (known : Nat → Prop) (i : Nat) (evt : Event) : Prop :=
  ∀ m forThisNode, evt = .msg m forThisNode → Asks number m ∨ net.Confirms number known (i + 1) m

/-- What node `i + 1` may send. -/
structure Sends (net : Network) (number : UInt32) (known : Nat → Prop) (i : Nat) (m : NtlpMsg) : Prop where
  down : m.goesDown = true → Asks number m
  up : m.goesDown = false → net.Confirms number known i m

theorem Arrives.asks {m : NtlpMsg} {kind : MsgKind} (arrives : net.Arrives number known i evt)
    (message : evt.ofKind kind = some m) (request : kind ≠ .response) : m.msg.kind = kind ∧ Asks number m := by
  obtain ⟨⟨forThisNode,sent⟩,same⟩ := Event.ofKind_eq_some.mp message
  rcases arrives m forThisNode sent with asks | confirms
  · exact ⟨same,asks⟩
  · rw [confirms.kind] at same
    exact absurd same.symm request

theorem Sends.ofFailure {m : NtlpMsg} {severity code : UInt8} (failure : severity ≠ MnslpMsg.scSuccess) :
    net.Sends number known i (m.createResponse severity code) := by
  have kind : (m.createResponse severity code).msg.kind = .response := NtlpMsg.kind_createResponse _ _ _
  have fails : (m.createResponse severity code).msg.isSuccess = false := by simp [MnslpMsg.isSuccess,failure]
  constructor
  · intro goesDown
    refine ⟨goesDown,fun other => ?_,fun other => ?_,fun _ => fails⟩ <;> simp at other
  · intro goesUp
    refine ⟨goesUp,kind,fun success => ?_⟩
    rw [fails] at success
    cases success

theorem Asks.copyForForwarding {m : NtlpMsg} (asks : Asks number m) : Asks number m.copyForForwarding where
  goesDown := asks.goesDown
  configure := by simpa [NtlpMsg.copyForForwarding] using asks.configure
  refresh := by simpa [NtlpMsg.copyForForwarding] using asks.refresh
  response := by simpa [NtlpMsg.copyForForwarding] using asks.response

theorem Sends.ofAsks {m : NtlpMsg} (asks : Asks number m) : net.Sends number known i m := by
  refine ⟨fun _ => asks,fun goesUp => ?_⟩
  rw [asks.goesDown] at goesUp
  cases goesUp

/-- A node that passes the confirmation on is in METERING itself. -/
theorem Sends.ofForwarded {m request : NtlpMsg} (arrives : net.Arrives number known i evt)
    (response : evt.mnslpResponse request = some m)
    (own : m.msg.isSuccess = true → m.msg.getMsgSequenceNumber = number → known (i + 1)) :
    net.Sends number known i m.copyForForwarding := by
  obtain ⟨⟨forThisNode,sent⟩,kind⟩ := Event.ofKind_eq_some.mp (Event.mnslpResponse_eq_some.mp response).1
  rcases arrives m forThisNode sent with asks | confirms
  · exact .ofAsks asks.copyForForwarding
  · constructor
    · intro goesDown
      have goesUp : m.copyForForwarding.goesDown = false := confirms.goesUp
      rw [goesUp] at goesDown
      cases goesDown
    · intro goesUp
      refine ⟨goesUp,by simpa [NtlpMsg.copyForForwarding] using kind,fun success same j above inside => ?_⟩
      have succeeded : m.msg.isSuccess = true := by simpa [NtlpMsg.copyForForwarding] using success
      have numbered : m.msg.getMsgSequenceNumber = number := by simpa [NtlpMsg.copyForForwarding] using same
      rcases Nat.eq_or_lt_of_le (Nat.succ_le_of_lt above) with here | beyond
      · exact here ▸ own succeeded numbered
      · exact confirms.success succeeded numbered j beyond inside

private theorem accepts_ready {s next : NfSession} {m : NtlpMsg} (refresh : ForwarderReady number s)
    (numbered : m.msg.getMsgSequenceNumber = number) (msn : s.msn = number)
    (accepts : NfSession.Accepts d s m next actions) :
    ForwarderReady number next ∧ ∀ sent, .send sent ∈ actions → net.Sends number known i sent := by
  cases accepts with
  | intro pathcoupled downstream collected selected =>
    refine ⟨⟨fun mri found => ?_,fun c stored => ?_,fun _ => msn,refresh.refresh⟩,fun sent member => ?_⟩
    · cases found
      exact downstream
    · cases stored
      simpa [NtlpMsg.copy] using numbered
    · simp only [List.mem_cons,Action.send.injEq,reduceCtorEq,List.not_mem_nil,or_false] at member
      subst member
      refine .ofAsks ⟨downstream,fun _ => ?_,fun other => ?_,fun other => ?_⟩
      · simpa [MnslpMsg.getMsgSequenceNumber] using numbered
      · simp at other
      · simp at other

private theorem taken_ready {s before next : NfSession} {m : NtlpMsg} (ready : ForwarderReady number s)
    (arrives : net.Arrives number known i evt) (configure : evt.ofKind .configure = some m)
    (accepts : NfSession.Accepts d before m next actions) (stored : before.configureMessage = s.configureMessage)
    (refresh : before.refreshMessage = s.refreshMessage) (nrMri : before.nrMri = s.nrMri)
    (msn : before.msn = m.msg.getMsgSequenceNumber) :
    ForwarderReady number next ∧ ∀ sent, .send sent ∈ actions → net.Sends number known i sent := by
  obtain ⟨kind,asks⟩ := arrives.asks configure (by decide)
  have numbered := asks.configure kind
  refine accepts_ready ?_ numbered (msn.trans numbered) accepts
  exact ⟨fun mri found => ready.nrMri mri (nrMri ▸ found),fun c found => ready.stored c (stored ▸ found),
    fun _ => msn.trans numbered,fun r found => ready.refresh r (refresh ▸ found)⟩

private theorem ForwarderReady.closed {s next : NfSession} (ready : ForwarderReady number s) (state : next.state = .close)
    (nrMri : next.nrMri = s.nrMri) (stored : ∀ c, next.configureMessage = some c → c.msg.getMsgSequenceNumber = number)
    (refresh : next.refreshMessage = s.refreshMessage) : ForwarderReady number next := by
  refine ⟨fun mri found => ready.nrMri mri (nrMri ▸ found),stored,fun open' => ?_,
    fun r found => ready.refresh r (refresh ▸ found)⟩
  rw [state] at open'
  cases open'

private theorem forwarderReady_next {conf : NfConfig} {s next : NfSession} (ready : ForwarderReady number s)
    (arrives : net.Arrives number known i evt) (step : NfSession.Step conf d s evt next actions) :
    ForwarderReady number next := by
  cases step with
  | closeRejected state | closeDiscarded state => exact ready.closed state rfl ready.stored rfl
  | closeNoPath state configure | pendingNoPath state configure =>
    refine ready.closed rfl rfl (fun c stored => ?_) rfl
    cases stored
    obtain ⟨kind,asks⟩ := arrives.asks configure (by decide)
    simpa [NtlpMsg.copy] using asks.configure kind
  | closeAccepted state configure allowed positive accepts | pendingReplaced state configure stored authorized different accepts =>
    exact (taken_ready ready arrives configure accepts rfl rfl rfl rfl).1
  | pendingInstalled => exact ⟨ready.nrMri,ready.stored,fun open' => (by cases open'),ready.refresh⟩
  | refreshForwarded state refresh =>
    obtain ⟨kind,asks⟩ := arrives.asks refresh (by decide)
    refine ⟨ready.nrMri,ready.stored,fun open' => ?_,fun r stored => ?_⟩
    · simp [state] at open'
    · cases stored
      simpa [NtlpMsg.copy] using asks.refresh kind
  | pendingTerminated | pendingNotReached | pendingInstallFailed | pendingRefused | meteringNotReached | meteringTimedOut
  | meteringBadRoute | teardownConfirmed | refreshRefused => exact ready.closed rfl rfl ready.stored rfl
  | pendingRejected | pendingResent | pendingIgnored | refreshRejected | refreshDuplicate | refreshConfirmed
  | meteringIgnored => exact ⟨ready.nrMri,ready.stored,ready.pending,ready.refresh⟩

theorem forwarderReady_step {s next : NfSession} (ready : ForwarderReady number s)
    (arrives : net.Arrives number known i evt) (step : NfSession.Step (net.nfConf (i + 1)) d s evt next actions)
    (enters : s.state = .pending → next.state = .metering → known (i + 1)) :
    ForwarderReady number next ∧ ∀ sent, .send sent ∈ actions → net.Sends number known i sent := by
  refine ⟨forwarderReady_next ready arrives step,fun sent member => ?_⟩
  cases step.origin member with
  | first state configure accepts | replaced state configure stored different accepts =>
    exact (taken_ready ready arrives configure accepts rfl rfl rfl rfl).2 sent member
  | resent state configure | terminated state configure =>
    exact .ofAsks (arrives.asks configure (by decide)).2.copyForForwarding
  | refresh state refresh => exact .ofAsks (arrives.asks refresh (by decide)).2.copyForForwarding
  | response answer kept =>
    refine .ofForwarded arrives answer fun success same => ?_
    rcases kept with stored | failure | ⟨state,metering⟩
    · have different := ready.refresh _ stored
      rw [(Event.mnslpResponse_eq_some.mp answer).2.2.2] at different
      exact absurd same different
    · rw [failure] at success
      cases success
    · exact enters state metering
  | rejected | notReached | installFailed => exact .ofFailure (by decide)
  | teardown state stored response success installed incomplete removable nrMri =>
    refine .ofAsks ⟨ready.nrMri _ nrMri,fun other => ?_,fun _ => ?_,fun other => ?_⟩
    · simp at other
    · simp [MnslpMsg.getMsgSequenceNumber,ready.pending state]
    · simp at other

/-- The answer to a message that came down goes up. -/
theorem Sends.ofSuccess {m : NtlpMsg} {lifetime : UInt32} (goesDown : m.goesDown = true)
    (own : m.msg.getMsgSequenceNumber = number → ∀ j, i < j → j ≤ net.forwarders + 1 → known j) :
    net.Sends number known i (m.createSuccessResponse lifetime) := by
  have goesUp : (m.createSuccessResponse lifetime).goesDown = false := Mri.goesDown_invertDirection goesDown
  constructor
  · intro wrong
    rw [goesUp] at wrong
    cases wrong
  · intro _
    refine ⟨goesUp,NtlpMsg.kind_createSuccessResponse _ _,fun _ same => own ?_⟩
    simpa [MnslpMsg.getMsgSequenceNumber] using same

theorem responder_sends {s next : NrSession} (arrives : net.Arrives number known net.forwarders evt)
    (step : NrSession.Step d s evt next actions)
    (enters : s.state = .close → next.state = .metering → known (net.forwarders + 1)) :
    ∀ sent, .send sent ∈ actions → net.Sends number known net.forwarders sent := by
  intro sent member
  cases step.origin member with
  | failed => exact .ofFailure (by decide)
  | installed state configure metering =>
    refine .ofSuccess (arrives.asks configure (by decide)).2.goesDown fun _ j above inside => ?_
    have last : j = net.forwarders + 1 := by omega
    rw [last]
    exact enters state metering
  | refreshed state refresh | tornDown state refresh =>
    obtain ⟨kind,asks⟩ := arrives.asks refresh (by decide)
    exact .ofSuccess asks.goesDown fun same => absurd same (asks.refresh kind)

/-- An initiator that goes on waiting repeats its CONFIGURE or does nothing. -/
theorem initiatorWaits_step {s next : NiSession} (waits : InitiatorWaits number s)
    (step : NiSession.Step d s evt next actions) (still : next.state = .pending) :
    InitiatorWaits number next ∧ ∀ sent, .send sent ∈ actions → sent.goesDown = true → Asks number sent := by
  obtain ⟨state,c,stored,kind,numbered⟩ := waits
  constructor
  · cases step with
    | pendingRetried | pendingIgnored => exact ⟨state,c,stored,kind,numbered⟩
    | configured other | closeIgnored other => exact State.noConfusion (state.symm.trans other)
    | pendingGivenUp | pendingNotReached | pendingTeardown | pendingInstalled | pendingRefused => cases still
    | refreshed other | refreshRetried other | refreshGivenUp other | meteringTeardown other
    | refreshConfirmed other | refreshRefused other | meteringIgnored other =>
      exact State.noConfusion (state.symm.trans other)
  · intro sent member goesDown
    cases step.origin member with
    | configure other | refresh other | refreshAgain other => exact State.noConfusion (state.symm.trans other)
    | configureAgain _ found =>
      rw [stored] at found
      cases found
      refine ⟨goesDown,fun _ => ?_,fun other => ?_,fun other => ?_⟩
      · simpa [NtlpMsg.copy] using numbered
      · simp [NtlpMsg.copy,kind] at other
      · simp [NtlpMsg.copy,kind] at other
    | teardown found closes => exact State.noConfusion (still.symm.trans closes)

/-- What holds at a node while the initiator waits. -/
def AwaitsAt (net : Network) (number : UInt32) (i : Nat) (node : Node) : Prop :=
  match node.session with
  | none => i ≠ 0
  | some (.initiator s) => i = 0 ∧ InitiatorWaits number s
  | some (.forwarder s) => (i ≠ 0 ∧ i ≤ net.forwarders) ∧ ForwarderReady number s
  | some (.responder _) => i = net.forwarders + 1

abbrev Awaits (net : Network) (number : UInt32) (known : Nat → Prop) (c : Path) : Prop :=
  Chain.Locally (net.AwaitsAt number) (fun _ => Asks number) (net.Confirms number known) c

abbrev AwaitsAfter (net : Network) (number : UInt32) (known : Nat → Prop) (i : Nat) (r : Reaction Node NtlpMsg) : Prop :=
  Chain.Allowed (net.AwaitsAt number) (fun _ => Asks number) (net.Confirms number known) i r

private theorem awaits_of_sends {node : Node} (at' : net.AwaitsAt number (i + 1) node)
    (sends : ∀ sent, .send sent ∈ actions → net.Sends number known i sent) :
    net.AwaitsAfter number known (i + 1) ⟨node,Action.sentDown actions,Action.sentUp actions⟩ where
  node := at'
  down sent member := (sends sent (Action.mem_sentDown.mp member).1).down (Action.mem_sentDown.mp member).2
  up _ sent member := (sends sent (Action.mem_sentUp.mp member).1).up (Action.mem_sentUp.mp member).2

private theorem awaitsAt_forwarder {node : Node} {s : NfSession} (has : net.Has i evt node (.forwarder s))
    (at' : net.AwaitsAt number i node) : (i ≠ 0 ∧ i ≤ net.forwarders) ∧ ForwarderReady number s := by
  rcases has.forwarder with existing | ⟨_,place,sid,rfl⟩
  · unfold AwaitsAt at at'
    rwa [existing] at at'
  · refine ⟨place,fun mri found => ?_,fun c stored => ?_,fun open' => ?_,fun r stored => ?_⟩
    · cases found
    · cases stored
    · cases open'
    · cases stored

private theorem awaitsAt_responder {node : Node} {s : NrSession} (has : net.Has i evt node (.responder s))
    (at' : net.AwaitsAt number i node) : i = net.forwarders + 1 := by
  rcases has.responder with existing | ⟨_,last,_⟩
  · unfold AwaitsAt at at'
    rwa [existing] at at'
  · exact last

private theorem awaitsAt_reaction {s : NodeSession} {installed : List String} (later : i ≠ 0)
    (open' : net.AwaitsAt number i {session := some s, installed}) :
    net.AwaitsAt number i {session := if s.isFinal then none else some s, installed} := by
  split
  · exact later
  · exact open'

private theorem process_awaits {node : Node} {r : Reaction Node NtlpMsg} (at' : net.AwaitsAt number i node)
    (arrives : ∀ m forThisNode, evt = .msg m forThisNode → Asks number m ∨ net.Confirms number known i m)
    (enters : ∀ s next, net.Has i evt node s → s.Enters net i d evt number next → r.node.session = some next → known i)
    (waits : i = 0 → ∃ s, r.node.session = some (.initiator s) ∧ s.state = .pending)
    (outcome : net.process i d evt node = some r) : net.AwaitsAfter number known i r := by
  cases handled outcome with
  | discarded => exact ⟨at',fun _ member => by simp at member,fun _ _ member => by simp at member⟩
  | initiator session step =>
    rename_i s next actions ok
    unfold AwaitsAt at at'
    rw [session] at at'
    obtain ⟨rfl,awaits⟩ := at'
    obtain ⟨s',kept,state⟩ := waits rfl
    have open' : (NodeSession.initiator next).isFinal = false := by
      cases final : (NodeSession.initiator next).isFinal with
      | false => rfl
      | true => simp [reaction,final] at kept
    have same : next = s' := by simpa [reaction,open'] using kept
    subst same
    obtain ⟨still,sends⟩ := initiatorWaits_step awaits step state
    refine ⟨?_,fun sent member => ?_,fun first => absurd rfl first⟩
    · simp only [reaction,open']
      exact ⟨rfl,still⟩
    · exact sends sent (Action.mem_sentDown.mp member).1 (Action.mem_sentDown.mp member).2
  | forwarder has step ok =>
    rename_i s next actions
    obtain ⟨⟨later,inside⟩,ready⟩ := awaitsAt_forwarder has at'
    obtain ⟨j,rfl⟩ := Nat.exists_eq_succ_of_ne_zero later
    obtain ⟨still,sends⟩ := forwarderReady_step ready arrives step fun pending metering => by
      have outside : s.state ≠ .metering := by simp [pending]
      obtain ⟨_,installed,complete,member,request,_,stored,_⟩ := step.entering outside metering
      have open' : (NodeSession.forwarder next).isFinal = false := by simp [NodeSession.isFinal,NfSession.isFinal,metering]
      apply enters (.forwarder s) (.forwarder next) has
      · exact ⟨outside,metering,⟨actions,ok,member⟩,⟨s.rule,installed,complete⟩,⟨request,stored,ready.stored _ stored⟩⟩
      · simp [reaction,open']
    exact awaits_of_sends (awaitsAt_reaction later ⟨⟨later,inside⟩,still⟩) sends
  | responder has step ok =>
    rename_i s next actions
    obtain rfl := awaitsAt_responder has at'
    refine awaits_of_sends (awaitsAt_reaction (Nat.succ_ne_zero _) rfl) ?_
    refine responder_sends arrives step fun closed metering => ?_
    have outside : s.state ≠ .metering := by simp [closed]
    obtain ⟨m,objects,rule,_,configure,_,_,installed,complete,member⟩ := step.entering outside metering
    have open' : (NodeSession.responder next).isFinal = false := by simp [NodeSession.isFinal,NrSession.isFinal,metering]
    obtain ⟨kind,asks⟩ := Arrives.asks arrives configure (by decide)
    apply enters (.responder s) (.responder next) has
    · exact ⟨outside,metering,⟨actions,ok,member⟩,⟨rule,installed,complete⟩,⟨m,configure,asks.configure kind⟩⟩
    · simp [reaction,open']
  | threw has =>
    rename_i s exception
    have later : i ≠ 0 := by
      intro first
      obtain ⟨_,kept,_⟩ := waits first
      cases kept
    obtain ⟨j,rfl⟩ := Nat.exists_eq_succ_of_ne_zero later
    refine awaits_of_sends later fun sent member => ?_
    obtain ⟨f,request,response,rfl,stored,found,rfl⟩ := NodeSession.mem_sentBeforeThrow member
    obtain ⟨_,ready⟩ := awaitsAt_forwarder has at'
    refine .ofForwarded arrives found fun _ same => ?_
    have different := ready.refresh request stored
    rw [(Event.mnslpResponse_eq_some.mp found).2.2.2] at different
    exact absurd same different

end

/-- The initiator has left PENDING for METERING, or its session is gone. -/
def Settled (c : Path) : Prop :=
  ∀ s, (c.node 0).session = some s → ∃ n, s = .initiator n ∧ n.state = .metering

section
variable {net : Network} {c next : Path} {label : Label} {past : List Label}

/-- The number of the CONFIGURE of the initiator. -/
def number (net : Network) : UInt32 := net.opener.msn + 1

theorem Opened.awaits {d : Dispatcher} {e : ApiConfigure} (opened : net.Opened d e c) (known : Nat → Prop) :
    net.Awaits net.number known c where
  node i := by
    unfold AwaitsAt
    by_cases first : i = 0
    · rw [first,opened.initiator]
      refine ⟨rfl,rfl,_,rfl,NiSession.kind_configureFor d net.opener e,?_⟩
      simp [MnslpMsg.getMsgSequenceNumber,number]
    · rw [opened.others i first]
      exact first
  down i sent member := by
    obtain ⟨rfl,same⟩ := opened.down i sent member
    have kind : sent.msg.kind = .configure := by
      rw [same]
      exact NiSession.kind_configureFor d net.opener e
    refine ⟨by rw [same]; rfl,fun _ => ?_,fun other => ?_,fun other => ?_⟩
    · rw [same]
      simp [NtlpMsg.copy,MnslpMsg.getMsgSequenceNumber,number]
    · simp [kind] at other
    · simp [kind] at other
  up i sent member := by
    rw [opened.up i] at member
    cases member

private theorem Awaits.mono {known more : Nat → Prop} (awaits : net.Awaits net.number known c)
    (learns : ∀ j, known j → more j) : net.Awaits net.number more c where
  node := awaits.node
  down := awaits.down
  up i m member := by
    obtain ⟨goesUp,kind,success⟩ := awaits.up i m member
    exact ⟨goesUp,kind,fun succeeded same j above inside => learns j (success succeeded same j above inside)⟩

theorem Awaits.initiator {known : Nat → Prop} (awaits : net.Awaits net.number known c) :
    ∃ s, (c.node 0).session = some (.initiator s) ∧ InitiatorWaits net.number s := by
  have at' := awaits.node 0
  unfold AwaitsAt at at'
  cases session : (c.node 0).session with
  | none =>
    rw [session] at at'
    exact absurd rfl at'
  | some s =>
    rw [session] at at'
    cases s with
    | initiator s => exact ⟨s,rfl,at'.2⟩
    | forwarder s => exact absurd rfl at'.1.1
    | responder s => exact absurd at' (by omega)

private theorem awaits_initiator {known : Nat → Prop} (awaits : net.Awaits net.number known c)
    (taken : net.Next c label next) :
    (∃ s, (next.node 0).session = some (.initiator s) ∧ s.state = .pending) ∨ Settled next := by
  obtain ⟨s,session,waits⟩ := awaits.initiator
  rcases initiator_next session taken with same | gone | ⟨d,evt,s',actions,_,step,open',kept⟩
  · exact .inl ⟨s,same,waits.state⟩
  · refine .inr fun other present => ?_
    rw [gone] at present
    cases present
  · cases state : s'.state with
    | close => exact absurd state open'
    | pending => exact .inl ⟨s',kept,state⟩
    | metering =>
      refine .inr fun other present => ?_
      rw [kept] at present
      cases present
      exact ⟨s',rfl,state⟩

private theorem settled_next (settled : Settled c) (taken : net.Next c label next) : Settled next := by
  intro s' session
  cases before : (c.node 0).session with
  | none =>
    rw [initiator_gone before taken] at session
    cases session
  | some s =>
    obtain ⟨n,rfl,metering⟩ := settled s before
    rcases initiator_next before taken with same | gone | ⟨d,evt,n',actions,_,step,open',kept⟩
    · rw [same] at session
      cases session
      exact ⟨n,rfl,metering⟩
    · rw [gone] at session
      cases session
    · rw [kept] at session
      cases session
      exact ⟨n',rfl,(step.of_metering metering).resolve_right open'⟩

/-- What holds of the past and the state it led to. -/
def Ordered (net : Network) (past : List Label) (c : Path) : Prop :=
  Run net.Next net.start past c ∧
    (Settled c ∨ net.Fresh c ∨ net.Awaits net.number (fun j => net.EnteredBefore past j net.number) c)

theorem ordered_start (net : Network) : net.Ordered [] net.start := ⟨.nil _,.inr (.inl (fresh_start net))⟩

theorem ordered_step (ordered : net.Ordered past c) (taken : net.Next c label next) :
    net.Ordered (past ++ [label]) next := by
  obtain ⟨run,settled | fresh | awaits⟩ := ordered
  · exact ⟨run.append (.single taken),.inl (settled_next settled taken)⟩
  · refine ⟨run.append (.single taken),?_⟩
    rcases fresh_step fresh taken with gone | ⟨fresh,_⟩ | ⟨d,e,_,opened⟩
    · refine .inl fun s session => ?_
      rw [gone.nodes 0] at session
      cases session
    · exact .inr (.inl fresh)
    · exact .inr (.inr (opened.awaits _))
  · refine ⟨run.append (.single taken),?_⟩
    rcases awaits_initiator awaits taken with waits | settled
    · refine .inr (.inr ?_)
      have learnt := awaits.mono fun j entered => entered.later label
      refine learnt.step taken fun i r reacts same => ?_
      obtain ⟨d,evt,gets,outcome⟩ := gets_of_reacts reacts
      refine process_awaits (learnt.node i) (fun m forThisNode sent => ?_) (fun s s' has enters kept => ?_)
        (fun first => ?_) outcome
      · subst sent
        rcases gets.message with ⟨j,_,member⟩ | member
        · exact .inl (learnt.down j m member)
        · exact .inr (learnt.up i m member)
      · rw [← same] at kept
        exact ⟨past,label,[],c,next,rfl,run,taken,d,evt,s,s',gets,has,enters,kept⟩
      · subst first
        rw [← same]
        exact waits
    · exact .inl settled

theorem ordered_run (run : Run net.Next net.start past c) : net.Ordered past c :=
  run.history net.Ordered (fun _ _ _ _ ordered taken => ordered_step ordered taken) (ordered_start net)

/-- Behind an initiator that enters METERING every node has done so. -/
theorem Ordered.entered (ordered : net.Ordered past c) {label : Label} {next : Path} (taken : net.Next c label next)
    {s s' : NiSession} (before : (c.node 0).session = some (.initiator s))
    (after : (next.node 0).session = some (.initiator s')) (outside : s.state ≠ .metering) (inside : s'.state = .metering) :
    ∃ configure, s.lastConfigureMsg = some configure ∧ ∀ j, j ≠ 0 → j ≤ net.forwarders + 1 →
      net.EnteredBefore past j configure.msg.getMsgSequenceNumber := by
  obtain ⟨d,evt,gets,step⟩ : ∃ d evt, net.Gets c label 0 d evt ∧ ∃ actions, NiSession.Step d s evt s' actions := by
    rcases initiator_next before taken with same | gone | ⟨d,evt,other,actions,gets,step,_,kept⟩
    · rw [after] at same
      cases same
      exact absurd inside outside
    · rw [after] at gone
      cases gone
    · rw [after] at kept
      cases kept
      exact ⟨d,evt,gets,actions,step⟩
  obtain ⟨actions,step⟩ := step
  obtain ⟨pending,_,_,request,m,stored,response,success⟩ := step.entering outside inside
  refine ⟨request,stored,?_⟩
  rcases ordered.2 with settled | fresh | awaits
  · obtain ⟨n,same,metering⟩ := settled _ before
    cases same
    exact absurd metering outside
  · rw [fresh.initiator] at before
    cases before
    cases pending
  · obtain ⟨own,session,waits⟩ := awaits.initiator
    rw [before] at session
    cases session
    obtain ⟨_,configure,found,_,numbered⟩ := waits
    rw [stored] at found
    cases found
    obtain ⟨arrived,_,_,answers⟩ := Event.mnslpResponse_eq_some.mp response
    obtain ⟨⟨forThisNode,sent⟩,_⟩ := Event.ofKind_eq_some.mp arrived
    subst sent
    have member : m ∈ c.up 0 := by
      rcases gets.message with ⟨j,impossible,_⟩ | member
      · cases impossible
      · exact member
    intro j later within
    rw [numbered]
    exact (awaits.up 0 m member).success success (answers.symm.trans numbered) j (Nat.pos_of_ne_zero later) within

/-- When the initiator enters METERING every node behind it has done so, for a CONFIGURE with
the number of the initiator's, and after it installed its whole rule. -/
theorem metering_agreement (net : Network) (past : List Label) (c next : Path) (label : Label)
    (run : Run net.Next net.start past c) (taken : net.Next c label next) (s s' : NiSession)
    (before : (c.node 0).session = some (.initiator s)) (after : (next.node 0).session = some (.initiator s'))
    (outside : s.state ≠ .metering) (inside : s'.state = .metering) :
    ∃ configure, s.lastConfigureMsg = some configure ∧ ∀ j, j ≠ 0 → j ≤ net.forwarders + 1 →
      net.EnteredBefore past j configure.msg.getMsgSequenceNumber :=
  (ordered_run run).entered taken before after outside inside

end

private def viaForwarder : Network where
  forwarders := 1
  niConf := ⟨30,3,10⟩
  nfConf _ := ⟨100⟩
  nrConf := ⟨100⟩
  id := 0
  randomNumber := 4

private def meterForMinute : ApiConfigure where
  source := 0
  dest := 0
  sourcePort := 1
  destPort := 2
  protocol := 17
  mspecObjects := []
  sessionLifetime := 60
  selMetEntities := smeAll
  returnQueue := false

private def stateAfter (labels : List Label) : Path :=
  labels.foldl (fun c label => (Chain.step viaForwarder.rules c label).getD c) viaForwarder.start

private def untilAnswer : List Label := [.input 0 .willing (.apiConfigure meterForMinute),.deliverDown 0 0 .willing,
  .deliverDown 1 0 .willing,.deliverUp 1 0 .willing]

/-- Over one forwarder, which enters METERING when the RESPONSE passes it. -/
theorem metering_agreement_forwarder :
    viaForwarder.Next (stateAfter untilAnswer) (.deliverUp 0 0 .willing)
      (stateAfter (untilAnswer ++ [.deliverUp 0 0 .willing])) ∧
    viaForwarder.EnteredBefore untilAnswer 1 5 ∧ viaForwarder.EnteredBefore untilAnswer 2 5 := by
  have run : Run viaForwarder.Next viaForwarder.start untilAnswer (stateAfter untilAnswer) :=
    .cons rfl (.cons rfl (.cons rfl (.single rfl)))
  have taken : viaForwarder.Next (stateAfter untilAnswer) (.deliverUp 0 0 .willing)
      (stateAfter (untilAnswer ++ [.deliverUp 0 0 .willing])) := rfl
  obtain ⟨configure,stored,entered⟩ := metering_agreement viaForwarder _ _ _ _ run taken _ _ rfl rfl (by decide) rfl
  cases stored
  exact ⟨taken,entered 1 (by decide) (by decide),entered 2 (by decide) (by decide)⟩

end Network
end Mnslp.Session
