import Mnslp.Lib.Chain
import Mnslp.Session.NiStep
import Mnslp.Session.NfStep
import Mnslp.Session.NrStep

/-! One session along a path: an initiator, forwarders and a responder, each behind its
dispatcher. A message reaches the neighbour that its routing information points to. -/
namespace Mnslp.Session
open Mnslp.Lib Mnslp.Msg

inductive NodeSession
  | initiator (s : NiSession)
  | forwarder (s : NfSession)
  | responder (s : NrSession)

/-- A node of the path: the session it has and the rule keys its meter holds. -/
structure Node where
  session : Option NodeSession := none
  installed : List String := []

/-- The path. Nodes 1 to `forwarders` are between the initiator's and the responder's. -/
structure Network where
  forwarders : Nat
  niConf : NiConfig
  nfConf : Nat → NfConfig
  nrConf : NrConfig
  id : SessionId
  randomNumber : UInt32

def Mri.goesDown : Mri → Bool
  | .pathcoupled m => m.downstream
  | .other _ => false

theorem Mri.goesDown_invertDirection {mri : Mri} (down : mri.goesDown = true) : mri.invertDirection.goesDown = false := by
  cases mri with
  | pathcoupled route =>
    have downstream : route.downstream = true := down
    simp [Mri.invertDirection,Mri.goesDown,downstream]
  | other mrm => cases down

def NtlpMsg.goesDown (m : NtlpMsg) : Bool := m.mri.goesDown

def MtPolicyRule.keyStrings (rule : MtPolicyRule) : List String := rule.ruleKeys.values.flatten

namespace Action

def sent : Action → Option NtlpMsg
  | .send m => some m
  | _ => none

/-- The keys in the meter after an action. -/
def meter (installed : List String) : Action → List String
  | .install rule => installed ++ rule.keyStrings
  | .remove rule => installed.filter fun key => key ∉ rule.keyStrings
  | _ => installed

def sentDown (actions : List Action) : List NtlpMsg := (actions.filterMap sent).filter NtlpMsg.goesDown

def sentUp (actions : List Action) : List NtlpMsg := (actions.filterMap sent).filter fun m => !m.goesDown

private theorem mem_sent {actions : List Action} {m : NtlpMsg} : m ∈ actions.filterMap sent ↔ .send m ∈ actions := by
  rw [List.mem_filterMap]
  constructor
  · rintro ⟨action,member,same⟩
    cases action <;> cases same
    exact member
  · intro member
    exact ⟨_,member,rfl⟩

theorem mem_sentDown {actions : List Action} {m : NtlpMsg} :
    m ∈ sentDown actions ↔ .send m ∈ actions ∧ m.goesDown = true := by
  rw [sentDown,List.mem_filter,mem_sent]

theorem mem_sentUp {actions : List Action} {m : NtlpMsg} :
    m ∈ sentUp actions ↔ .send m ∈ actions ∧ m.goesDown = false := by
  rw [sentUp,List.mem_filter,mem_sent,Bool.not_eq_true']

end Action

namespace NodeSession

def isFinal : NodeSession → Bool
  | .initiator s => s.isFinal
  | .forwarder s => s.isFinal
  | .responder s => s.isFinal

def processEvent (net : Network) (i : Nat) (d : Dispatcher) (s : NodeSession) (evt : Event) :
    Call (NodeSession × List Action) :=
  match s with
  | .initiator s => do
    let (s,actions) ← s.processEvent d evt
    return (.initiator s,actions)
  | .forwarder s => do
    let (s,actions) ← s.processEvent (net.nfConf i) d evt
    return (.forwarder s,actions)
  | .responder s => do
    let (s,actions) ← s.processEvent d evt
    return (.responder s,actions)

/-- What a session that threw has sent before. Only the removal of a rule after a
confirmed teardown comes after a message. -/
def sentBeforeThrow (s : NodeSession) (evt : Event) : List Action :=
  match s with
  | .forwarder s =>
    match s.state,s.refreshMessage with
    | .metering,some refresh =>
      match evt.mnslpResponse refresh with
      | some m => if m.msg.isSuccess ∧ s.lifetime = 0 then [.send m.copyForForwarding] else []
      | none => []
    | _,_ => []
  | _ => []

section
variable {net : Network} {i : Nat} {d : Dispatcher} {evt : Event} {next : NodeSession} {actions : List Action}

theorem initiator_step {s : NiSession} (ok : (initiator s).processEvent net i d evt = .ok (next,actions)) :
    ∃ s', next = .initiator s' ∧ NiSession.Step d s evt s' actions := by
  obtain ⟨⟨s',_⟩,handled,done⟩ := Call.bind_eq_ok.mp ok
  cases done
  exact ⟨s',rfl,NiSession.step_of_processEvent handled⟩

theorem forwarder_step {s : NfSession} (ok : (forwarder s).processEvent net i d evt = .ok (next,actions)) :
    ∃ s', next = .forwarder s' ∧ NfSession.Step (net.nfConf i) d s evt s' actions := by
  obtain ⟨⟨s',_⟩,handled,done⟩ := Call.bind_eq_ok.mp ok
  cases done
  exact ⟨s',rfl,NfSession.step_of_processEvent handled⟩

theorem responder_step {s : NrSession} (ok : (responder s).processEvent net i d evt = .ok (next,actions)) :
    ∃ s', next = .responder s' ∧ NrSession.Step d s evt s' actions := by
  obtain ⟨⟨s',_⟩,handled,done⟩ := Call.bind_eq_ok.mp ok
  cases done
  exact ⟨s',rfl,NrSession.step_of_processEvent handled⟩

theorem initiator_threw {s : NiSession} {stop : Stop} (threw : (initiator s).processEvent net i d evt = .error stop) :
    s.processEvent d evt = .error stop := by
  rcases Call.bind_eq_error.mp threw with threw | ⟨_,_,done⟩
  · exact threw
  · cases done

theorem forwarder_threw {s : NfSession} {stop : Stop} (threw : (forwarder s).processEvent net i d evt = .error stop) :
    s.processEvent (net.nfConf i) d evt = .error stop := by
  rcases Call.bind_eq_error.mp threw with threw | ⟨_,_,done⟩
  · exact threw
  · cases done

theorem responder_threw {s : NrSession} {stop : Stop} (threw : (responder s).processEvent net i d evt = .error stop) :
    s.processEvent d evt = .error stop := by
  rcases Call.bind_eq_error.mp threw with threw | ⟨_,_,done⟩
  · exact threw
  · cases done

end

/-- It is the RESPONSE to a stored REFRESH, passed on. -/
theorem mem_sentBeforeThrow {s : NodeSession} {evt : Event} {m : NtlpMsg} (member : .send m ∈ s.sentBeforeThrow evt) :
    ∃ f request response, s = .forwarder f ∧ f.refreshMessage = some request ∧
      evt.mnslpResponse request = some response ∧ m = response.copyForForwarding := by
  unfold sentBeforeThrow at member
  split at member
  · rename_i f
    split at member
    · rename_i request _ stored
      split at member
      · rename_i response found
        split at member
        · exact ⟨f,request,response,rfl,stored,found,Action.send.inj (List.mem_singleton.mp member)⟩
        · cases member
      · cases member
    · cases member
  · cases member

end NodeSession

namespace Network

/-- `create_session`. The CONFIGUREs of a session never get back to its initiator. -/
def createSession (net : Network) (i : Nat) (evt : Event) : Option NodeSession :=
  match evt.ofKind .configure with
  | some m =>
    if i = 0 then none
    else if i ≤ net.forwarders then some (.forwarder (.new m.sid))
    else if i = net.forwarders + 1 then some (.responder (.new m.sid net.nrConf))
    else none
  | none => none

def reaction (installed : List String) (next : NodeSession) (actions : List Action) : Reaction Node NtlpMsg :=
  ⟨⟨if next.isFinal then none else some next,actions.foldl Action.meter installed⟩,
    Action.sentDown actions,Action.sentUp actions⟩

theorem reaction_session (installed : List String) (next : NodeSession) (actions : List Action) :
    (reaction installed next actions).node.session = none ∨
      (reaction installed next actions).node.session = some next := by
  dsimp only [reaction]
  split
  · exact .inl rfl
  · exact .inr rfl

/-- A session that throws or is final is removed; a failed assertion or a fault ends the run. -/
def react (net : Network) (i : Nat) (d : Dispatcher) (evt : Event) (installed : List String) (s : NodeSession) :
    Option (Reaction Node NtlpMsg) :=
  match s.processEvent net i d evt with
  | .ok (next,actions) => some (reaction installed next actions)
  | .error (.thrown _) =>
    let actions := s.sentBeforeThrow evt
    some ⟨⟨none,installed⟩,Action.sentDown actions,Action.sentUp actions⟩
  | .error _ => none

theorem react_of_ok {net : Network} {i : Nat} {d : Dispatcher} {evt : Event} {s next : NodeSession} {actions : List Action}
    (installed : List String) (ok : s.processEvent net i d evt = .ok (next,actions)) :
    net.react i d evt installed s = some (reaction installed next actions) := by
  unfold react
  rw [ok]

theorem react_of_threw {net : Network} {i : Nat} {d : Dispatcher} {evt : Event} {s : NodeSession} {exception : Thrown}
    (installed : List String) (threw : s.processEvent net i d evt = .error (.thrown exception)) :
    net.react i d evt installed s = some ⟨⟨none,installed⟩,Action.sentDown (s.sentBeforeThrow evt),
      Action.sentUp (s.sentBeforeThrow evt)⟩ := by
  unfold react
  rw [threw]

/-- `dispatcher::process` -/
def process (net : Network) (i : Nat) (d : Dispatcher) (evt : Event) (node : Node) : Option (Reaction Node NtlpMsg) :=
  match node.session.or (net.createSession i evt) with
  | none => some ⟨node,[],[]⟩
  | some s => net.react i d evt node.installed s

/-- The events of a node itself: timers and requests of its user, but no messages. -/
inductive Input
  | timer (id : Nat)
  | noNextNodeFound
  | routeChangedBad
  | apiConfigure (e : ApiConfigure)
  | apiTeardown
  | unexpected

def Input.event : Input → Event
  | .timer id => .timer id
  | .noNextNodeFound => .noNextNodeFound
  | .routeChangedBad => .routeChangedBad
  | .apiConfigure e => .apiConfigure e
  | .apiTeardown => .apiTeardown
  | .unexpected => .unexpected

@[simp] theorem Input.ofKind_event (x : Input) (kind : MsgKind) : x.event.ofKind kind = none := by cases x <;> rfl

abbrev Path := Chain Node NtlpMsg
abbrev Label := ChainLabel Dispatcher Input

def rules (net : Network) : ChainRules Node NtlpMsg Dispatcher Input where
  receive i d m node := net.process i d (.msg m (i = net.forwarders + 1)) node
  take i d x node := net.process i d x.event node

/-- The path when the dispatcher of the initiator has created its session. -/
def start (net : Network) : Path where
  node i := if i = 0 then {session := some (.initiator (.new net.id net.niConf net.randomNumber))} else {}
  down _ := []
  up _ := []

abbrev Next (net : Network) : Path → Label → Path → Prop := Chain.Next net.rules

/-- The session that handles an event: the node's own or a new one. -/
def Has (net : Network) (i : Nat) (evt : Event) (node : Node) (s : NodeSession) : Prop :=
  node.session = some s ∨ node.session = none ∧ net.createSession i evt = some s

theorem createSession_cases {net : Network} {i : Nat} {evt : Event} {s : NodeSession}
    (created : net.createSession i evt = some s) : ∃ m, evt.ofKind .configure = some m ∧
      ((i ≠ 0 ∧ i ≤ net.forwarders ∧ s = .forwarder (.new m.sid)) ∨
        (i = net.forwarders + 1 ∧ s = .responder (.new m.sid net.nrConf))) := by
  unfold createSession at created
  split at created
  · rename_i m configure
    refine ⟨m,configure,?_⟩
    split at created
    · cases created
    · rename_i later
      split at created
      · rename_i inside
        cases created
        exact .inl ⟨later,inside,rfl⟩
      · split at created
        · rename_i last
          cases created
          exact .inr ⟨last,rfl⟩
        · cases created
  · cases created

section
variable {net : Network} {i : Nat} {evt : Event} {node : Node}

theorem Has.existing {s own : NodeSession} (has : net.Has i evt node s) (session : node.session = some own) :
    s = own := by
  rcases has with existing | ⟨absent,_⟩
  · rw [session] at existing
    exact (Option.some.inj existing).symm
  · rw [session] at absent
    cases absent

theorem Has.initiator {s : NiSession} (has : net.Has i evt node (.initiator s)) :
    node.session = some (.initiator s) := by
  rcases has with existing | ⟨_,created⟩
  · exact existing
  · obtain ⟨m,_,⟨_,_,other⟩ | ⟨_,other⟩⟩ := createSession_cases created <;> cases other

theorem Has.forwarder {s : NfSession} (has : net.Has i evt node (.forwarder s)) :
    node.session = some (.forwarder s) ∨
      node.session = none ∧ (i ≠ 0 ∧ i ≤ net.forwarders) ∧ ∃ sid, s = .new sid := by
  rcases has with existing | ⟨absent,created⟩
  · exact .inl existing
  · obtain ⟨m,_,⟨later,inside,same⟩ | ⟨_,other⟩⟩ := createSession_cases created
    · cases same
      exact .inr ⟨absent,⟨later,inside⟩,_,rfl⟩
    · cases other

theorem Has.responder {s : NrSession} (has : net.Has i evt node (.responder s)) :
    node.session = some (.responder s) ∨
      node.session = none ∧ i = net.forwarders + 1 ∧ ∃ sid, s = .new sid net.nrConf := by
  rcases has with existing | ⟨absent,created⟩
  · exact .inl existing
  · obtain ⟨m,_,⟨_,_,other⟩ | ⟨last,same⟩⟩ := createSession_cases created
    · cases other
    · cases same
      exact .inr ⟨absent,last,_,rfl⟩

end

/-- What a node does with an event, by the role of its session. -/
inductive Handled (net : Network) (i : Nat) (d : Dispatcher) (evt : Event) (node : Node) :
    Reaction Node NtlpMsg → Prop
  | discarded (absent : node.session = none) (uncreated : net.createSession i evt = none) :
      Handled net i d evt node ⟨node,[],[]⟩
  | initiator {s next : NiSession} {actions : List Action} (session : node.session = some (.initiator s))
      (step : NiSession.Step d s evt next actions)
      (ok : (NodeSession.initiator s).processEvent net i d evt = .ok (.initiator next,actions)) :
      Handled net i d evt node (reaction node.installed (.initiator next) actions)
  | forwarder {s next : NfSession} {actions : List Action} (session : net.Has i evt node (.forwarder s))
      (step : NfSession.Step (net.nfConf i) d s evt next actions)
      (ok : (NodeSession.forwarder s).processEvent net i d evt = .ok (.forwarder next,actions)) :
      Handled net i d evt node (reaction node.installed (.forwarder next) actions)
  | responder {s next : NrSession} {actions : List Action} (session : net.Has i evt node (.responder s))
      (step : NrSession.Step d s evt next actions)
      (ok : (NodeSession.responder s).processEvent net i d evt = .ok (.responder next,actions)) :
      Handled net i d evt node (reaction node.installed (.responder next) actions)
  | threw {s : NodeSession} {exception : Thrown} (session : net.Has i evt node s)
      (threw : s.processEvent net i d evt = .error (.thrown exception)) :
      Handled net i d evt node ⟨⟨none,node.installed⟩,Action.sentDown (s.sentBeforeThrow evt),
        Action.sentUp (s.sentBeforeThrow evt)⟩

theorem handled {net : Network} {i : Nat} {d : Dispatcher} {evt : Event} {node : Node}
    {r : Reaction Node NtlpMsg} (outcome : net.process i d evt node = some r) : net.Handled i d evt node r := by
  have bySession (s : NodeSession) (session : net.Has i evt node s)
      (reacts : net.react i d evt node.installed s = some r) : net.Handled i d evt node r := by
    unfold react at reacts
    split at reacts
    · rename_i next actions ok
      cases reacts
      cases s with
      | initiator s =>
        obtain ⟨s',rfl,step⟩ := NodeSession.initiator_step ok
        exact .initiator session.initiator step ok
      | forwarder s =>
        obtain ⟨s',rfl,step⟩ := NodeSession.forwarder_step ok
        exact .forwarder session step ok
      | responder s =>
        obtain ⟨s',rfl,step⟩ := NodeSession.responder_step ok
        exact .responder session step ok
    · rename_i threw
      cases reacts
      exact .threw session threw
    · cases reacts
  unfold process at outcome
  cases session : node.session with
  | none =>
    rw [session,Option.none_or] at outcome
    cases created : net.createSession i evt with
    | none =>
      rw [created] at outcome
      cases outcome
      exact .discarded session created
    | some s =>
      rw [created] at outcome
      exact bySession s (.inr ⟨session,created⟩) outcome
  | some s =>
    rw [session,Option.some_or] at outcome
    exact bySession s (.inl session) outcome

/-- The event that a node gets with a step of the path. -/
inductive Gets (net : Network) (c : Path) : Label → Nat → Dispatcher → Event → Prop
  | down {i position : Nat} {d : Dispatcher} {m : NtlpMsg} (found : (c.down i)[position]? = some m) :
      Gets net c (.deliverDown i position d) (i + 1) d (.msg m (i + 1 = net.forwarders + 1))
  | up {i position : Nat} {d : Dispatcher} {m : NtlpMsg} (found : (c.up i)[position]? = some m) :
      Gets net c (.deliverUp i position d) i d (.msg m (i = net.forwarders + 1))
  | input {i : Nat} {d : Dispatcher} {x : Input} : Gets net c (.input i d x) i d x.event

theorem Gets.message {net : Network} {c : Path} {label : Label} {i : Nat} {d : Dispatcher} {m : NtlpMsg}
    {forThisNode : Bool} (gets : net.Gets c label i d (.msg m forThisNode)) :
    (∃ j, i = j + 1 ∧ m ∈ c.down j) ∨ m ∈ c.up i := by
  generalize event : Event.msg m forThisNode = evt at gets
  cases gets with
  | down found =>
    cases event
    exact .inl ⟨_,rfl,List.mem_of_getElem? found⟩
  | up found =>
    cases event
    exact .inr (List.mem_of_getElem? found)
  | input =>
    rename_i x
    cases x <;> cases event

theorem gets_of_reacts {net : Network} {c : Path} {label : Label} {i : Nat} {r : Reaction Node NtlpMsg}
    (reacts : Chain.Reacts net.rules c label i r) :
    ∃ d evt, net.Gets c label i d evt ∧ net.process i d evt (c.node i) = some r := by
  cases reacts with
  | down found receives => exact ⟨_,_,.down found,receives⟩
  | up found receives => exact ⟨_,_,.up found,receives⟩
  | input takes => exact ⟨_,_,.input,takes⟩

theorem discarded_of_absent {net : Network} {i : Nat} {d : Dispatcher} {evt : Event} {node : Node}
    {r : Reaction Node NtlpMsg} (absent : node.session = none) (uncreated : net.createSession i evt = none)
    (outcome : net.process i d evt node = some r) : r = ⟨node,[],[]⟩ := by
  unfold process at outcome
  rw [absent,uncreated,Option.none_or] at outcome
  cases outcome
  rfl

end Network
end Mnslp.Session
