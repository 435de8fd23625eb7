import Mnslp.Lib.Traffic
import Mnslp.Session.Teardown
import Mnslp.Session.Life

/-! The messages of a path feed no storm: whatever the channels lose, reorder and repeat, the
number of messages that arrive is bounded by that of the inputs and the repetitions. A
forwarder in PENDING may answer one RESPONSE with two messages, so its state has a weight. -/
namespace Mnslp.Session
open Mnslp.Lib Mnslp.Msg

theorem NtlpMsg.goesDown_createResponse {m : NtlpMsg} (down : m.goesDown = true) (severity code : UInt8) :
    (m.createResponse severity code).goesDown = false := Mri.goesDown_invertDirection down

theorem NtlpMsg.goesDown_createSuccessResponse {m : NtlpMsg} (down : m.goesDown = true) (lifetime : UInt32) :
    (m.createSuccessResponse lifetime).goesDown = false := Mri.goesDown_invertDirection down

namespace Network

/-- The nodes that have channels, and one more. -/
def extent (net : Network) : Nat := net.forwarders + 2

def pendingWeight (net : Network) : Nat := 4 * net.extent

/-- The most that one input or one repetition brings in. -/
def cost (net : Network) : Nat := net.extent * (net.pendingWeight + 1)

def downWeight (net : Network) (i : Nat) (m : NtlpMsg) : Nat :=
  if m.msg.kind = .configure then (net.extent - i) * (net.pendingWeight + 1) else 2 * net.extent - i

def sessionWeight (net : Network) : NodeSession → Nat
  | .forwarder s => if s.state = .pending then net.pendingWeight else 0
  | _ => 0

def nodeWeight (net : Network) (node : Node) : Nat :=
  match node.session with
  | some s => net.sessionWeight s
  | none => 0

def weights (net : Network) : Chain.Weights Node NtlpMsg where
  node _ := net.nodeWeight
  down := net.downWeight
  up i _ := i + 1

/-- The weight of a message that node `i` sends. -/
def fare (net : Network) (i : Nat) (m : NtlpMsg) : Nat := if m.goesDown then net.downWeight i m else i

/-- The weight of all messages that node `i` sends. -/
def load (net : Network) (i : Nat) (actions : List Action) : Nat :=
  Chain.weigh (net.fare i) (actions.filterMap Action.sent)

/-- A message that may arrive at node `i`, and its weight. -/
inductive Arriving (net : Network) : Nat → NtlpMsg → Nat → Prop
  | down {i : Nat} {m : NtlpMsg} (goesDown : m.goesDown = true) (inside : i ≤ net.forwarders) :
      Arriving net (i + 1) m (net.downWeight i m)
  | up {i : Nat} {m : NtlpMsg} (goesUp : m.goesDown = false) (kind : m.msg.kind = .response)
      (inside : i ≤ net.forwarders) : Arriving net i m (i + 1)

section
variable (net : Network) (i : Nat)

@[simp] theorem load_nil : net.load i [] = 0 := rfl

@[simp] theorem load_cons (action : Action) (actions : List Action) :
    net.load i (action :: actions) = (action.sent.map (net.fare i)).getD 0 + net.load i actions := by
  unfold load
  cases sent : action.sent with
  | none => simp [sent]
  | some m => simp [sent]

@[simp] theorem load_append (actions more : List Action) :
    net.load i (actions ++ more) = net.load i actions + net.load i more := by
  simp [load]

@[simp] theorem load_removal (rule : MtPolicyRule) : net.load i (Dispatcher.removal rule) = 0 := by
  unfold Dispatcher.removal
  split <;> rfl

theorem load_eq (actions : List Action) : net.load i actions =
    Chain.weigh (net.downWeight i) (Action.sentDown actions) + if i = 0 then 0 else Chain.weigh (fun _ => i) (Action.sentUp actions) := by
  unfold load Action.sentDown Action.sentUp
  induction actions.filterMap Action.sent with
  | nil => simp
  | cons m messages ih =>
    have whole : Chain.weigh (net.fare i) (m :: messages) = net.fare i m + Chain.weigh (net.fare i) messages := by
      simp [Chain.weigh]
    rw [whole,ih,fare]
    cases down : m.goesDown <;> by_cases first : i = 0 <;> simp [down,first] <;> omega

theorem emitted_eq (node : Node) (actions : List Action) :
    Chain.emitted net.weights i ⟨node,Action.sentDown actions,Action.sentUp actions⟩ = net.nodeWeight node + net.load i actions := by
  rw [load_eq]
  unfold Chain.emitted weights
  by_cases first : i = 0
  · simp [first]
  · simp [first,Nat.sub_add_cancel (Nat.pos_of_ne_zero first),Nat.add_assoc]

theorem emitted_reaction (installed : List String) (next : NodeSession) (actions : List Action) :
    Chain.emitted net.weights i (reaction installed next actions) ≤ net.sessionWeight next + net.load i actions := by
  have node : net.nodeWeight (reaction installed next actions).node ≤ net.sessionWeight next := by
    unfold nodeWeight
    rcases reaction_session installed next actions with closed | kept
    · rw [closed]
      exact Nat.zero_le _
    · rw [kept]
  have whole := net.emitted_eq i (reaction installed next actions).node actions
  exact Nat.le_trans (Nat.le_of_eq whole) (Nat.add_le_add_right node _)

theorem emitted_discarded (node : Node) : Chain.emitted net.weights i ⟨node,[],[]⟩ = net.nodeWeight node :=
  net.emitted_eq i node []

end

section
variable {net : Network} {i price : Nat} {m : NtlpMsg}

private theorem configure_falls (net : Network) (i : Nat) (inside : i < net.extent) :
    (net.extent - (i + 1)) * (net.pendingWeight + 1) + (net.pendingWeight + 1) = (net.extent - i) * (net.pendingWeight + 1) := by
  have one : net.extent - i = net.extent - (i + 1) + 1 := by omega
  rw [one,Nat.succ_mul]

theorem le_downWeight (net : Network) (i : Nat) (m : NtlpMsg) (inside : i < net.extent) : 2 * net.extent - i ≤ net.downWeight i m := by
  unfold downWeight
  split
  · have falls := configure_falls net i inside
    unfold pendingWeight at *
    omega
  · exact Nat.le_refl _

theorem downWeight_le_cost (net : Network) (i : Nat) (m : NtlpMsg) (inside : i < net.extent) : net.downWeight i m ≤ net.cost := by
  unfold downWeight cost
  split
  · exact Nat.mul_le_mul_right _ (Nat.sub_le ..)
  · have whole := configure_falls net 0 (by omega)
    rw [Nat.sub_zero] at whole
    unfold pendingWeight at *
    omega

/-- What is not a CONFIGURE weighs little. -/
theorem fare_le (net : Network) (i : Nat) (m : NtlpMsg) (small : m.msg.kind ≠ .configure) (inside : i < net.extent) : net.fare i m ≤ 2 * net.extent := by
  unfold fare downWeight
  split
  · exact Nat.sub_le ..
  · omega

theorem Arriving.forwarded (arriving : net.Arriving i m price) : net.fare i m.copyForForwarding < price := by
  have kind : m.copyForForwarding.msg.kind = m.msg.kind := by simp [NtlpMsg.copyForForwarding]
  have direction : m.copyForForwarding.goesDown = m.goesDown := rfl
  unfold fare
  rw [direction]
  cases arriving with
  | @down i _ goesDown inside =>
    have falls := configure_falls net i (by unfold extent; omega)
    rw [if_pos goesDown]
    unfold downWeight
    rw [kind]
    unfold extent at *
    split <;> omega
  | up goesUp kind inside =>
    rw [goesUp]
    exact Nat.lt_succ_self i

/-- A RESPONSE to what came down goes up. -/
theorem Arriving.answered {response : NtlpMsg} (arriving : net.Arriving i m price) (request : m.msg.kind ≠ .response)
    (answer : m.goesDown = true → response.goesDown = false) : net.fare i response < price := by
  cases arriving with
  | @down i _ goesDown inside =>
    have enough := le_downWeight net i m (by unfold extent; omega)
    rw [fare,answer goesDown]
    unfold extent at *
    simp only [Bool.false_eq_true,if_false]
    omega
  | up goesUp kind inside => exact absurd kind request

theorem Arriving.accepted (configure : NtlpMsg) (arriving : net.Arriving i m price) (kind : m.msg.kind = .configure)
    (sent : configure.msg.kind = .configure) (down : configure.goesDown = true) :
    net.pendingWeight + net.fare i configure < price := by
  cases arriving with
  | @down i _ goesDown inside =>
    have falls := configure_falls net i (by unfold extent; omega)
    rw [fare,if_pos down,downWeight,downWeight,if_pos kind,if_pos sent]
    omega
  | up goesUp response inside => exact MsgKind.noConfusion (kind.symm.trans response)

theorem Arriving.positive (arriving : net.Arriving i m price) : 0 < price := Nat.zero_lt_of_lt arriving.forwarded

theorem Arriving.inside (arriving : net.Arriving i m price) : i < net.extent := by
  unfold extent
  cases arriving with
  | down _ inside => omega
  | up _ _ inside => omega

end

section
variable {net : Network} {i price : Nat} {m : NtlpMsg} {d : Dispatcher} {forThisNode : Bool} {actions : List Action}

theorem sessionWeight_pending {s : NfSession} (state : s.state = .pending) :
    net.sessionWeight (.forwarder s) = net.pendingWeight := if_pos state

/-- The weight falls unless the session gets into PENDING. -/
theorem sessionWeight_le {s next : NfSession} (still : next.state = .pending → s.state = .pending) :
    net.sessionWeight (.forwarder next) ≤ net.sessionWeight (.forwarder s) := by
  by_cases waits : next.state = .pending
  · rw [sessionWeight_pending waits,sessionWeight_pending (still waits)]
  · have none : net.sessionWeight (.forwarder next) = 0 := if_neg waits
    rw [none]
    exact Nat.zero_le _

/-- The message of an event, as a step of a session finds it. -/
private theorem own {kind : MsgKind} {found : NtlpMsg} (same : Event.ofKind kind (.msg m forThisNode) = some found) :
    found = m ∧ m.msg.kind = kind := by
  obtain ⟨⟨_,sent⟩,other⟩ := Event.ofKind_eq_some.mp same
  cases sent
  exact ⟨rfl,other⟩

private theorem ownResponse {request found : NtlpMsg} (response : Event.mnslpResponse (.msg m forThisNode) request = some found) :
    found = m ∧ m.msg.kind = .response := own (Event.mnslpResponse_eq_some.mp response).1

private theorem load_rejection (request : m.msg.kind ≠ .response) (arriving : net.Arriving i m price) (code : UInt8) :
    net.load i [.send (m.createResponse MnslpMsg.scPermanentFailure code)] < price := by
  simpa [Action.sent] using arriving.answered request fun down => NtlpMsg.goesDown_createResponse down _ _

private theorem accepts_pays {before next : NfSession} (accepts : NfSession.Accepts d before m next actions)
    (arriving : net.Arriving i m price) (kind : m.msg.kind = .configure) :
    net.sessionWeight (.forwarder next) + net.load i actions < price := by
  cases accepts with
  | @intro mri objects missing rule pathcoupled downstream =>
    have paid := arriving.accepted ⟨before.id,.pathcoupled mri,0,before.configureToForward m.msg missing⟩ kind
      (NfSession.kind_configureToForward ..) downstream
    rw [sessionWeight_pending rfl]
    simpa [Action.sent] using paid

/-- A forwarder that does not accept a CONFIGURE sends at most one message for one, or it
leaves PENDING with two. -/
private theorem forwarder_sends {conf : NfConfig} {s next : NfSession}
    (step : NfSession.Step conf d s (.msg m forThisNode) next actions) (arriving : net.Arriving i m price) :
    (m.msg.kind = .configure ∧ ∃ before, NfSession.Accepts d before m next actions) ∨
      (s.state = .pending ∧ next.state = .close ∧ net.load i actions ≤ 4 * net.extent) ∨
      (next.state = .pending → s.state = .pending) ∧ net.load i actions < price := by
  have forwarded : net.load i [.send m.copyForForwarding] < price := by simpa [Action.sent] using arriving.forwarded
  cases step with
  | closeRejected state configure | pendingRejected state configure =>
    obtain ⟨rfl,kind⟩ := own configure
    exact .inr (.inr ⟨fun waits => waits,load_rejection (by simp [kind]) arriving _⟩)
  | closeNoPath state configure | pendingNoPath state configure =>
    obtain ⟨rfl,kind⟩ := own configure
    exact .inr (.inr ⟨fun waits => State.noConfusion waits,load_rejection (by simp [kind]) arriving _⟩)
  | refreshRejected state refresh =>
    obtain ⟨rfl,kind⟩ := own refresh
    exact .inr (.inr ⟨fun waits => waits,load_rejection (by simp [kind]) arriving _⟩)
  | closeDiscarded | pendingIgnored | refreshDuplicate | meteringIgnored => exact .inr (.inr ⟨fun waits => waits,arriving.positive⟩)
  | closeAccepted state configure allowed positive accepts =>
    obtain ⟨rfl,kind⟩ := own configure
    exact .inl ⟨kind,_,accepts⟩
  | pendingReplaced state configure stored authorized different accepts =>
    obtain ⟨rfl,kind⟩ := own configure
    exact .inl ⟨kind,_,accepts⟩
  | pendingTerminated state configure =>
    obtain ⟨rfl,kind⟩ := own configure
    exact .inr (.inr ⟨fun waits => State.noConfusion waits,forwarded⟩)
  | pendingResent state configure =>
    obtain ⟨rfl,kind⟩ := own configure
    exact .inr (.inr ⟨fun waits => waits,forwarded⟩)
  | refreshForwarded state refresh =>
    obtain ⟨rfl,kind⟩ := own refresh
    exact .inr (.inr ⟨fun waits => waits,forwarded⟩)
  | pendingInstalled state stored response =>
    obtain ⟨rfl,kind⟩ := ownResponse response
    exact .inr (.inr ⟨fun waits => State.noConfusion waits,forwarded⟩)
  | pendingInstallFailed state stored response success installed incomplete removable nrMri =>
    obtain ⟨rfl,kind⟩ := ownResponse response
    rename_i m request result mri
    have teardown := fare_le net i ⟨s.id,mri,0,NtlpMsg.refreshRequest 0 (s.msn + 1)⟩ (by simp) arriving.inside
    have failure := fare_le net i (m.createResponse MnslpMsg.scPermanentFailure MnslpMsg.failInternalError)
      (by simp) arriving.inside
    refine .inr (.inl ⟨state,rfl,?_⟩)
    simp [Action.sent]
    omega
  | pendingRefused state stored response =>
    obtain ⟨rfl,kind⟩ := ownResponse response
    exact .inr (.inr ⟨fun waits => State.noConfusion waits,forwarded⟩)
  | refreshConfirmed state stored response =>
    obtain ⟨rfl,kind⟩ := ownResponse response
    exact .inr (.inr ⟨fun waits => waits,forwarded⟩)
  | teardownConfirmed state stored response =>
    obtain ⟨rfl,kind⟩ := ownResponse response
    refine .inr (.inr ⟨fun waits => State.noConfusion waits,?_⟩)
    rwa [load_append,load_removal,Nat.add_zero]
  | refreshRefused state stored response =>
    obtain ⟨rfl,kind⟩ := ownResponse response
    refine .inr (.inr ⟨fun waits => State.noConfusion waits,?_⟩)
    rwa [load_append,load_removal,Nat.zero_add]
  | pendingNotReached state stored unreachable =>
    simp [Event.isNoNextNodeFound,Event.isTimer] at unreachable
  | meteringNotReached state unreachable => simp [Event.isNoNextNodeFound,Event.isTimer] at unreachable
  | meteringTimedOut state fired => cases fired
  | meteringBadRoute state route => cases route

/-- A forwarder pays for what it sends with the message it takes and the weight it loses. -/
theorem forwarder_pays {conf : NfConfig} {s next : NfSession}
    (step : NfSession.Step conf d s (.msg m forThisNode) next actions) (arriving : net.Arriving i m price) :
    net.sessionWeight (.forwarder next) + net.load i actions < net.sessionWeight (.forwarder s) + price := by
  rcases forwarder_sends step arriving with ⟨kind,before,accepts⟩ | ⟨pending,closed,two⟩ | ⟨still,less⟩
  · exact Nat.lt_of_lt_of_le (accepts_pays accepts arriving kind) (Nat.le_add_left ..)
  · have gone : net.sessionWeight (.forwarder next) = 0 := if_neg (by simp [closed])
    have positive := arriving.positive
    rw [gone,sessionWeight_pending pending]
    unfold pendingWeight
    omega
  · exact Nat.add_lt_add_of_le_of_lt (sessionWeight_le still) less

theorem responder_pays {s next : NrSession} (step : NrSession.Step d s (.msg m forThisNode) next actions)
    (arriving : net.Arriving i m price) : net.load i actions < price := by
  have succeeded (request : m.msg.kind ≠ .response) (lifetime : UInt32) :
      net.load i [.send (m.createSuccessResponse lifetime)] < price := by
    simpa [Action.sent] using arriving.answered request fun down => NtlpMsg.goesDown_createSuccessResponse down _
  cases step with
  | closeRejected state configure | closeZero state configure =>
    obtain ⟨rfl,kind⟩ := own configure
    exact load_rejection (by simp [kind]) arriving _
  | closeIncomplete state configure =>
    obtain ⟨rfl,kind⟩ := own configure
    exact load_rejection (by simp [kind]) arriving _
  | closeInstalled state configure =>
    obtain ⟨rfl,kind⟩ := own configure
    exact succeeded (by simp [kind]) _
  | closeInstallFailed state configure =>
    obtain ⟨rfl,kind⟩ := own configure
    have rejection := load_rejection (by simp [kind]) arriving MnslpMsg.failInternalError
    simpa [Action.sent] using rejection
  | refreshRejected state refresh =>
    obtain ⟨rfl,kind⟩ := own refresh
    exact load_rejection (by simp [kind]) arriving _
  | refreshed state refresh =>
    obtain ⟨rfl,kind⟩ := own refresh
    exact succeeded (by simp [kind]) _
  | tornDown state refresh =>
    obtain ⟨rfl,kind⟩ := own refresh
    rw [load_append,load_removal,Nat.zero_add]
    exact succeeded (by simp [kind]) _
  | closeIgnored | refreshDuplicate | meteringIgnored => exact arriving.positive
  | timedOut state fired => cases fired

/-- An initiator never answers. -/
theorem initiator_pays (net : Network) (i : Nat) {s next : NiSession} (step : NiSession.Step d s (.msg m forThisNode) next actions) :
    net.load i actions = 0 := by
  cases step with
  | closeIgnored | pendingInstalled | pendingRefused | pendingIgnored | refreshConfirmed | meteringIgnored => rfl
  | refreshRefused => simp [Action.sent]
  | pendingRetried state fired | pendingGivenUp state fired | pendingNotReached state fired | pendingTeardown state fired
  | refreshed state fired | refreshRetried state fired | refreshGivenUp state fired | meteringTeardown state fired => cases fired

end

section
variable {net : Network} {i : Nat} {m : NtlpMsg} {d : Dispatcher} {x : Input} {actions : List Action}

/-- A single message that is sent on an input. -/
private theorem fare_le_cost (m : NtlpMsg) (inside : i < net.extent) : net.fare i m ≤ net.cost := by
  unfold fare
  split
  · exact downWeight_le_cost net i m inside
  · have most := downWeight_le_cost net 0 m (by omega)
    have least := le_downWeight net 0 m (by omega)
    omega

theorem forwarder_affords {conf : NfConfig} {s next : NfSession} (step : NfSession.Step conf d s x.event next actions)
    (inside : i < net.extent) :
    net.sessionWeight (.forwarder next) + net.load i actions ≤ net.sessionWeight (.forwarder s) + net.cost := by
  have noRequest {kind : MsgKind} {found : NtlpMsg} (request : x.event.ofKind kind = some found) : False := by
    rw [Input.ofKind_event] at request
    cases request
  have noResponse {request found : NtlpMsg} (response : x.event.mnslpResponse request = some found) : False :=
    noRequest (Event.mnslpResponse_eq_some.mp response).1
  cases step with
  | closeRejected state configure | closeDiscarded state configure | closeNoPath state configure
  | closeAccepted state configure | pendingRejected state configure | pendingTerminated state configure
  | pendingResent state configure | pendingNoPath state configure | pendingReplaced state configure
  | refreshRejected state configure | refreshDuplicate state configure | refreshForwarded state configure =>
    exact (noRequest configure).elim
  | pendingInstalled state stored response | pendingInstallFailed state stored response
  | pendingRefused state stored response | refreshConfirmed state stored response
  | teardownConfirmed state stored response | refreshRefused state stored response => exact (noResponse response).elim
  | pendingNotReached | meteringNotReached =>
    refine Nat.add_le_add (sessionWeight_le fun waits => State.noConfusion waits) ?_
    simpa [Action.sent] using fare_le_cost _ inside
  | meteringTimedOut | meteringBadRoute =>
    refine Nat.add_le_add (sessionWeight_le fun waits => State.noConfusion waits) ?_
    simp
  | pendingIgnored | meteringIgnored => exact Nat.add_le_add_left (Nat.zero_le _) _

theorem responder_affords (net : Network) (i : Nat) {s next : NrSession} (step : NrSession.Step d s x.event next actions) : net.load i actions = 0 := by
  have noRequest {kind : MsgKind} {found : NtlpMsg} (request : x.event.ofKind kind = some found) : False := by
    rw [Input.ofKind_event] at request
    cases request
  cases step with
  | closeRejected state configure | closeZero state configure | closeIncomplete state configure
  | closeInstalled state configure | closeInstallFailed state configure | refreshRejected state configure
  | refreshDuplicate state configure | refreshed state configure | tornDown state configure => exact (noRequest configure).elim
  | closeIgnored | meteringIgnored => rfl
  | timedOut => simp [Action.sent]

/-- An initiator sends one message at most. -/
theorem initiator_affords {s next : NiSession} {evt : Event} (step : NiSession.Step d s evt next actions)
    (inside : i < net.extent) : net.load i actions ≤ net.cost := by
  cases step with
  | configured =>
    split <;> simpa [Action.sent] using fare_le_cost _ inside
  | pendingRetried | refreshed | refreshRetried | pendingTeardown | meteringTeardown =>
    simpa [Action.sent] using fare_le_cost _ inside
  | refreshGivenUp | refreshRefused => simp [Action.sent]
  | _ => exact Nat.zero_le _

end

/-- The session of a node is of the kind that has its place there. -/
def Placed (net : Network) (i : Nat) (node : Node) : Prop :=
  match node.session with
  | none => True
  | some (.initiator _) => i = 0
  | some (.forwarder s) => (i ≠ 0 ∧ i ≤ net.forwarders) ∧ ∀ mri, s.nrMri = some mri → mri.goesDown = true
  | some (.responder _) => i = net.forwarders + 1

/-- Roles at the nodes, and what is on its way between them. -/
abbrev Arranged (net : Network) (c : Path) : Prop :=
  Chain.Locally net.Placed (fun i m => m.goesDown = true ∧ i ≤ net.forwarders)
    (fun i m => (m.goesDown = false ∧ m.msg.kind = .response) ∧ i ≤ net.forwarders) c

abbrev ArrangedAfter (net : Network) (i : Nat) (r : Reaction Node NtlpMsg) : Prop :=
  Chain.Allowed net.Placed (fun i m => m.goesDown = true ∧ i ≤ net.forwarders)
    (fun i m => (m.goesDown = false ∧ m.msg.kind = .response) ∧ i ≤ net.forwarders) i r

theorem arranged_start (net : Network) : net.Arranged net.start where
  node i := by
    unfold Placed start
    by_cases first : i = 0 <;> simp [first]
  down i m member := by cases member
  up i m member := by cases member

section
variable {net : Network} {i price : Nat} {m : NtlpMsg} {d : Dispatcher} {evt : Event} {node : Node} {r : Reaction Node NtlpMsg}
  {actions : List Action}

theorem Arriving.routed (arriving : net.Arriving i m price) : m.Routed := by
  cases arriving with
  | down goesDown => exact .inl goesDown
  | up _ kind => exact .inr kind

private theorem placed_reaction {installed : List String} {next : NodeSession}
    (placed : ∀ kept, net.Placed i ⟨some next,kept⟩) : net.Placed i (reaction installed next actions).node := by
  unfold Placed
  rcases reaction_session installed next actions with closed | kept
  · rw [closed]
    trivial
  · rw [kept]
    exact placed []

private theorem placed_forwarder {s : NfSession} (at' : net.Placed i node) (has : net.Has i evt node (.forwarder s)) :
    (i ≠ 0 ∧ i ≤ net.forwarders) ∧ ∀ mri, s.nrMri = some mri → mri.goesDown = true := by
  unfold Placed at at'
  rcases has.forwarder with existing | ⟨absent,place,sid,rfl⟩
  · rwa [existing] at at'
  · exact ⟨place,fun mri found => by cases found⟩

private theorem placed_responder {s : NrSession} (at' : net.Placed i node) (has : net.Has i evt node (.responder s)) :
    i = net.forwarders + 1 := by
  unfold Placed at at'
  rcases has.responder with existing | ⟨absent,last,sid,rfl⟩
  · rwa [existing] at at'
  · exact last

end

end Network

namespace NfSession

/-- What a forwarder sends goes down, or it is a RESPONSE. -/
theorem routed_sent {conf : NfConfig} {d : Dispatcher} {s next : NfSession} {evt : Event} {actions : List Action}
    (aimed : ∀ mri, s.nrMri = some mri → mri.goesDown = true)
    (incoming : ∀ m forThisNode, evt = .msg m forThisNode → m.Routed) (step : Step conf d s evt next actions) :
    (∀ mri, next.nrMri = some mri → mri.goesDown = true) ∧ ∀ sent, .send sent ∈ actions → sent.Routed := by
  have accepted {before : NfSession} {m : NtlpMsg} (accepts : Accepts d before m next actions) :
      (∀ mri, next.nrMri = some mri → mri.goesDown = true) ∧ ∀ sent, .send sent ∈ actions → sent.Routed := by
    cases accepts with
    | intro pathcoupled downstream =>
      refine ⟨fun mri found => ?_,fun sent member => ?_⟩
      · cases found
        exact downstream
      · simp only [List.mem_cons,Action.send.injEq,reduceCtorEq,List.not_mem_nil,or_false] at member
        subst member
        exact .inl downstream
  have routed {kind : MsgKind} {m : NtlpMsg} (found : evt.ofKind kind = some m) : m.copyForForwarding.Routed := by
    obtain ⟨⟨forThisNode,sent⟩,_⟩ := Event.ofKind_eq_some.mp found
    exact (incoming m forThisNode sent).forwarded
  constructor
  · cases step with
    | closeAccepted state configure allowed positive accepts => exact (accepted accepts).1
    | pendingReplaced state configure stored authorized different accepts => exact (accepted accepts).1
    | _ => exact aimed
  · intro sent member
    cases step.origin member with
    | first state configure accepts | replaced state configure stored different accepts => exact (accepted accepts).2 sent member
    | resent state configure | terminated state configure => exact routed configure
    | refresh state refresh => exact routed refresh
    | response answer => exact routed (Event.mnslpResponse_eq_some.mp answer).1
    | rejected | notReached | installFailed => exact .inr (NtlpMsg.kind_createResponse _ _ _)
    | teardown state stored response success installed incomplete removable nrMri => exact .inl (aimed _ nrMri)

end NfSession

namespace Network
section
variable {net : Network} {i : Nat} {d : Dispatcher} {evt : Event} {node : Node} {r : Reaction Node NtlpMsg}
  {actions : List Action}

private theorem arranged_of_routed {node : Node} (placed : net.Placed i node) (inside : i ≤ net.forwarders)
    (routed : ∀ sent, .send sent ∈ actions → sent.Routed) :
    net.ArrangedAfter i ⟨node,Action.sentDown actions,Action.sentUp actions⟩ where
  node := placed
  down sent member := ⟨(Action.mem_sentDown.mp member).2,inside⟩
  up _ sent member := by
    obtain ⟨action,notDown⟩ := Action.mem_sentUp.mp member
    refine ⟨⟨notDown,(routed sent action).resolve_left ?_⟩,by omega⟩
    simp [notDown]

/-- The last node sends up only. -/
private theorem arranged_of_answers {node : Node} (placed : net.Placed i node) (inside : i = net.forwarders + 1)
    (answers : ∀ sent, .send sent ∈ actions → sent.goesDown = false ∧ sent.msg.kind = .response) :
    net.ArrangedAfter i ⟨node,Action.sentDown actions,Action.sentUp actions⟩ where
  node := placed
  down sent member := by
    obtain ⟨action,down⟩ := Action.mem_sentDown.mp member
    exact Bool.noConfusion ((answers sent action).1.symm.trans down)
  up _ sent member := ⟨answers sent (Action.mem_sentUp.mp member).1,by omega⟩

private theorem process_arranged (at' : net.Placed i node)
    (incoming : ∀ m forThisNode, evt = .msg m forThisNode → ∃ price, net.Arriving i m price)
    (outcome : net.process i d evt node = some r) : net.ArrangedAfter i r := by
  have routed (m : NtlpMsg) (forThisNode : Bool) (sent : evt = .msg m forThisNode) : m.Routed := by
    obtain ⟨price,arriving⟩ := incoming m forThisNode sent
    exact arriving.routed
  cases handled outcome with
  | discarded => exact ⟨at',fun _ member => by simp at member,fun _ _ member => by simp at member⟩
  | initiator session step ok =>
    unfold Placed at at'
    rw [session] at at'
    subst at'
    refine ⟨placed_reaction fun _ => rfl,fun sent member => ⟨(Action.mem_sentDown.mp member).2,Nat.zero_le _⟩,?_⟩
    exact fun first => absurd rfl first
  | forwarder has step ok =>
    obtain ⟨place,aimed⟩ := placed_forwarder at' has
    obtain ⟨still,sends⟩ := NfSession.routed_sent aimed routed step
    exact arranged_of_routed (placed_reaction fun _ => ⟨place,still⟩) place.2 sends
  | responder has step ok =>
    have last := placed_responder at' has
    refine arranged_of_answers (placed_reaction fun _ => last) last fun sent member => ?_
    have down {kind : MsgKind} {m : NtlpMsg} (found : evt.ofKind kind = some m) : m.goesDown = true := by
      obtain ⟨⟨forThisNode,same⟩,_⟩ := Event.ofKind_eq_some.mp found
      obtain ⟨price,arriving⟩ := incoming m forThisNode same
      cases arriving with
      | down goesDown => exact goesDown
      | up _ _ inside => omega
    refine ⟨?_,step.response_sent member⟩
    cases step.origin member with
    | failed found => exact NtlpMsg.goesDown_createResponse (down found) _ _
    | installed state found | refreshed state found | tornDown state found =>
      exact NtlpMsg.goesDown_createSuccessResponse (down found) _
  | threw has threw =>
    rename_i s exception
    have sends (sent : NtlpMsg) (member : .send sent ∈ s.sentBeforeThrow evt) : sent.Routed := by
      obtain ⟨_,request,response,_,_,found,rfl⟩ := NodeSession.mem_sentBeforeThrow member
      obtain ⟨⟨forThisNode,same⟩,_⟩ := Event.ofKind_eq_some.mp (Event.mnslpResponse_eq_some.mp found).1
      exact (routed response forThisNode same).forwarded
    cases s with
    | forwarder s => exact arranged_of_routed trivial (placed_forwarder at' has).1.2 sends
    | initiator s | responder s =>
      exact ⟨trivial,fun _ member => absurd member List.not_mem_nil,fun _ _ member => absurd member List.not_mem_nil⟩

theorem arranged_next {c next : Path} {label : Label} (arranged : net.Arranged c) (taken : net.Next c label next) :
    net.Arranged next := by
  refine arranged.step taken fun i r reacts same => ?_
  cases reacts with
  | down found receives =>
    rename_i i position d m
    have there := arranged.down i m (List.mem_of_getElem? found)
    refine process_arranged (arranged.node _) (fun other _ sent => ?_) receives
    cases sent
    exact ⟨_,.down there.1 there.2⟩
  | up found receives =>
    rename_i position d m
    have there := arranged.up i m (List.mem_of_getElem? found)
    refine process_arranged (arranged.node _) (fun other _ sent => ?_) receives
    cases sent
    exact ⟨_,.up there.1.1 there.1.2 there.2⟩
  | input takes =>
    rename_i d x
    refine process_arranged (arranged.node _) (fun other _ sent => ?_) takes
    cases x <;> cases sent

private theorem weight_forwarder {s : NfSession} (has : net.Has i evt node (.forwarder s)) :
    net.sessionWeight (.forwarder s) ≤ net.nodeWeight node := by
  unfold nodeWeight
  rcases has.forwarder with existing | ⟨absent,_,sid,rfl⟩
  · rw [existing]
  · exact Nat.zero_le _

private theorem sentBeforeThrow_cases (s : NodeSession) (evt : Event) : s.sentBeforeThrow evt = [] ∨
    ∃ request m, evt.mnslpResponse request = some m ∧ s.sentBeforeThrow evt = [.send m.copyForForwarding] := by
  cases sends : s.sentBeforeThrow evt with
  | nil => exact .inl rfl
  | cons action rest =>
    unfold NodeSession.sentBeforeThrow at sends
    split at sends
    · split at sends
      · split at sends
        · rename_i request _ _ m response
          split at sends
          · exact .inr ⟨_,m,response,sends.symm⟩
          · cases sends
        · cases sends
      · cases sends
    · cases sends

/-- What a node sends for a message, it pays for with this message. -/
private theorem message_pays {m : NtlpMsg} {forThisNode : Bool} {price : Nat} (arriving : net.Arriving i m price)
    (outcome : net.process i d (.msg m forThisNode) node = some r) :
    Chain.emitted net.weights i r < net.nodeWeight node + price := by
  have positive := arriving.positive
  cases handled outcome with
  | discarded =>
    rw [emitted_discarded]
    omega
  | initiator session step ok =>
    rename_i s next actions
    have emits := net.emitted_reaction i node.installed (.initiator next) actions
    have none : net.sessionWeight (.initiator next) = 0 := rfl
    have silent := initiator_pays net i step
    omega
  | forwarder has step ok =>
    rename_i s next actions
    have emits := net.emitted_reaction i node.installed (.forwarder next) actions
    have before := weight_forwarder has
    have paid := forwarder_pays step arriving
    omega
  | responder has step ok =>
    rename_i s next actions
    have emits := net.emitted_reaction i node.installed (.responder next) actions
    have none : net.sessionWeight (.responder next) = 0 := rfl
    have paid := responder_pays step arriving
    omega
  | threw has threw =>
    rename_i s exception
    have gone : net.nodeWeight ⟨none,node.installed⟩ = 0 := rfl
    rw [emitted_eq,gone]
    rcases sentBeforeThrow_cases s (.msg m forThisNode) with nothing | ⟨request,response,found,forwards⟩
    · rw [nothing,load_nil]
      omega
    · obtain ⟨rfl,_⟩ := ownResponse found
      have paid := arriving.forwarded
      rw [forwards]
      simp only [load_cons,Action.sent,Option.map_some,Option.getD_some,load_nil]
      omega

private theorem input_affords {x : Input} (inside : i < net.extent) (outcome : net.process i d x.event node = some r) :
    Chain.emitted net.weights i r ≤ net.nodeWeight node + net.cost := by
  cases handled outcome with
  | discarded =>
    rw [emitted_discarded]
    omega
  | initiator session step ok =>
    rename_i s next actions
    have emits := net.emitted_reaction i node.installed (.initiator next) actions
    have none : net.sessionWeight (.initiator next) = 0 := rfl
    have paid := initiator_affords step inside
    omega
  | forwarder has step ok =>
    rename_i s next actions
    have emits := net.emitted_reaction i node.installed (.forwarder next) actions
    have before := weight_forwarder has
    have paid := forwarder_affords step inside
    omega
  | responder has step ok =>
    rename_i s next actions
    have emits := net.emitted_reaction i node.installed (.responder next) actions
    have none : net.sessionWeight (.responder next) = 0 := rfl
    have silent := responder_affords net i step
    omega
  | threw has threw =>
    rename_i s exception
    have gone : net.nodeWeight ⟨none,node.installed⟩ = 0 := rfl
    rw [emitted_eq,gone]
    rcases sentBeforeThrow_cases s x.event with nothing | ⟨request,response,found,_⟩
    · rw [nothing,load_nil]
      omega
    · have impossible := (Event.mnslpResponse_eq_some.mp found).1
      rw [Input.ofKind_event] at impossible
      cases impossible

/-- Only nodes of the path have a session or open one. -/
private theorem discarded_outside {x : Input} (placed : net.Placed i node) (outside : net.extent ≤ i)
    (outcome : net.process i d x.event node = some r) : r = ⟨node,[],[]⟩ := by
  have uncreated : net.createSession i x.event = none := by simp [createSession]
  refine discarded_of_absent ?_ uncreated outcome
  unfold Placed at placed
  unfold extent at outside
  cases session : node.session with
  | none => rfl
  | some s =>
    rw [session] at placed
    cases s <;> simp only at placed <;> omega

private theorem pays (net : Network) : Chain.Pays net.rules net.weights net.extent net.cost net.Arranged where
  bounded c arranged := by
    refine ⟨fun i m member => ?_,fun i m member => ?_⟩
    · have inside := (arranged.down i m member).2
      unfold extent
      exact ⟨by omega,downWeight_le_cost net i m (by unfold extent; omega)⟩
    · have inside := (arranged.up i m member).2
      have most := downWeight_le_cost net 0 m (by unfold extent; omega)
      have least := le_downWeight net 0 m (by unfold extent; omega)
      change i < net.extent ∧ i + 1 ≤ net.cost
      unfold extent at *
      omega
  receiveDown c i d m r arranged member receives :=
    message_pays (.down (arranged.down i m member).1 (arranged.down i m member).2) receives
  receiveUp c i d m r arranged member receives :=
    message_pays (.up (arranged.up i m member).1.1 (arranged.up i m member).1.2 (arranged.up i m member).2) receives
  take c i d x r arranged takes := by
    rcases Nat.lt_or_ge i net.extent with inside | outside
    · exact .inr ⟨inside,input_affords inside takes⟩
    · exact .inl (discarded_outside (arranged.node i) outside takes)

theorem potential_start (net : Network) : Chain.potential net.weights net.extent net.start = 0 := by
  have light (i : Nat) : net.weights.node i (net.start.node i) = 0 := by
    unfold start
    by_cases first : i = 0 <;> simp [first,weights,nodeWeight,sessionWeight]
  have empty (weight : NtlpMsg → Nat) (i : Nat) :
      Chain.weigh weight (net.start.down i) = 0 ∧ Chain.weigh weight (net.start.up i) = 0 := ⟨rfl,rfl⟩
  unfold Chain.potential
  simp only [light,empty,Finset.sum_const_zero,Nat.add_zero]

/-- In every run of a path with `k` forwarders, each message that arrives is paid for: there are
at most `(k + 2) * (4 * k + 9)` for each input and each repetition. -/
theorem traffic_bounded (net : Network) (labels : List Label) (c : Path) (run : Run net.Next net.start labels c) :
    labels.countP Chain.isDelivery ≤ (net.forwarders + 2) * (4 * net.forwarders + 9) * labels.countP Chain.isSource := by
  have paid := (pays net).run (fun arranged taken => arranged_next arranged taken) (arranged_start net) run
  have each : net.cost = (net.forwarders + 2) * (4 * net.forwarders + 9) := by
    unfold cost pendingWeight extent
    congr 1
  rw [potential_start,each] at paid
  omega

end

private def oneHour : ApiConfigure where
  source := 0
  dest := 0
  sourcePort := 1
  destPort := 2
  protocol := 17
  mspecObjects := []
  sessionLifetime := 3600
  selMetEntities := smeAll
  returnQueue := false

/-- A CONFIGURE over one hop that arrives twice, and two answers of which one is lost. -/
theorem traffic_bounded_repeated : ∃ labels c, Run Network.direct.Next Network.direct.start labels c ∧
    labels.countP Chain.isDelivery = 3 ∧ 3 ≤ 2 * 9 * labels.countP Chain.isSource := by
  have run : Run Network.direct.Next Network.direct.start
      [.input 0 .willing (.apiConfigure oneHour),.duplicateDown 0 0,.deliverDown 0 1 .willing,.deliverDown 0 0 .willing,
        .deliverUp 0 0 .willing] _ := .cons rfl (.cons rfl (.cons rfl (.cons rfl (.single rfl))))
  exact ⟨_,_,run,rfl,traffic_bounded .direct _ _ run⟩

end Network
end Mnslp.Session
