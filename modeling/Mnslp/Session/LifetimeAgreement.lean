import Mnslp.Session.Lifetime
import Mnslp.Session.Opening

/-! The lifetimes agree along the whole path, over channels that may lose, delay and
repeat messages, as long as no forwarder passes a longer lifetime on than its own. -/
namespace Mnslp.Session
open Mnslp.Lib Mnslp.Msg
namespace Network

section
variable (net : Network) (requested number : UInt32)

/-- What holds at a node; that of the initiator has its session. -/
def AgreesAt (i : Nat) (node : Node) : Prop :=
  match node.session with
  | none => i ≠ 0
  | some (.initiator s) => i = 0 ∧ net.InitiatorAgrees requested number s
  | some (.forwarder s) => (i ≠ 0 ∧ i ≤ net.forwarders) ∧ net.ForwarderAgrees requested number i s
  | some (.responder s) => i = net.forwarders + 1 ∧ net.ResponderAgrees requested s

abbrev Agrees (c : Path) : Prop :=
  Chain.Locally (net.AgreesAt requested number) (net.Down requested number)
    (fun _ => net.Up requested number) c

abbrev AgreesAfter (i : Nat) (r : Reaction Node NtlpMsg) : Prop :=
  Chain.Allowed (net.AgreesAt requested number) (net.Down requested number)
    (fun _ => net.Up requested number) i r

end

/-- No forwarder resends a CONFIGURE with a lifetime above its own, and none passes a
teardown on while the initiator's session is there. -/
def KeepsLifetimes (c : Path) : Label → Prop
  | .deliverDown i position d => ∀ m s, (c.down i)[position]? = some m →
      (c.node (i + 1)).session = some (.forwarder s) →
      ResentCapped s m ∧ ((c.node 0).session.isSome = true → ¬ TearsDown d s m)
  | _ => True

section
variable {net : Network} {requested number : UInt32} {i : Nat} {d : Dispatcher} {evt : Event} {node : Node}
  {r : Reaction Node NtlpMsg}

private theorem allowed_of_outgoing {node : Node} {actions : List Action} (at' : net.AgreesAt requested number i node)
    (outgoing : ∀ sent, .send sent ∈ actions → net.Outgoing requested number i sent) :
    net.AgreesAfter requested number i ⟨node,Action.sentDown actions,Action.sentUp actions⟩ where
  node := at'
  down sent member := (outgoing sent (Action.mem_sentDown.mp member).1).down (Action.mem_sentDown.mp member).2
  up _ sent member := (outgoing sent (Action.mem_sentUp.mp member).1).up (Action.mem_sentUp.mp member).2

private theorem outgoing_beforeThrow {s : NodeSession} (incoming : net.IncomingEvent requested number i evt)
    {j : Nat} (sent : NtlpMsg) (member : .send sent ∈ s.sentBeforeThrow evt) :
    net.Outgoing requested number j sent := by
  obtain ⟨_,request,response,_,_,found,rfl⟩ := NodeSession.mem_sentBeforeThrow member
  exact .ofForwarded (incoming.ofResponse found).1 (incoming.ofResponse found).2

private theorem agreesAt_initiator {s : NiSession} (session : node.session = some (.initiator s)) :
    net.AgreesAt requested number i node ↔ i = 0 ∧ net.InitiatorAgrees requested number s := by
  unfold AgreesAt
  rw [session]

private theorem agreesAt_forwarder {s : NfSession} (session : net.Has i evt node (.forwarder s))
    (at' : net.AgreesAt requested number i node) :
    (i ≠ 0 ∧ i ≤ net.forwarders) ∧ net.ForwarderAgrees requested number i s := by
  rcases session.forwarder with existing | ⟨_,place,sid,rfl⟩
  · unfold AgreesAt at at'
    rwa [existing] at at'
  · exact ⟨place,net.forwarderAgrees_new requested number i sid⟩

private theorem agreesAt_responder {s : NrSession} (session : net.Has i evt node (.responder s))
    (at' : net.AgreesAt requested number i node) : i = net.forwarders + 1 ∧ net.ResponderAgrees requested s := by
  rcases session.responder with existing | ⟨_,last,sid,rfl⟩
  · unfold AgreesAt at at'
    rwa [existing] at at'
  · exact ⟨last,responderAgrees_new sid⟩

private theorem process_agrees (at' : net.AgreesAt requested number i node)
    (incoming : net.IncomingEvent requested number (i - 1) evt)
    (keeps : ∀ m forThisNode s, evt = .msg m forThisNode → node.session = some (.forwarder s) →
      ResentCapped s m ∧ ¬ TearsDown d s m)
    (stays : i = 0 → r.node.session ≠ none) (outcome : net.process i d evt node = some r) :
    net.AgreesAfter requested number i r := by
  cases handled outcome with
  | discarded => exact ⟨at',fun _ member => by simp at member,fun _ _ member => by simp at member⟩
  | initiator session step ok =>
    rename_i s next actions
    obtain ⟨rfl,agrees⟩ := (agreesAt_initiator session).mp at'
    have isOpen : next.state ≠ .close := by
      intro state
      exact stays rfl (by simp [reaction,NodeSession.isFinal,NiSession.isFinal,state])
    obtain ⟨still,outgoing⟩ := initiatorAgrees_step agrees incoming step isOpen
    refine ⟨(agreesAt_initiator (s := next) ?_).mpr ⟨rfl,still⟩,fun sent member => ?_,fun first => absurd rfl first⟩
    · simp [reaction,NodeSession.isFinal,NiSession.isFinal,isOpen]
    · exact outgoing sent (Action.mem_sentDown.mp member).1 (Action.mem_sentDown.mp member).2
  | forwarder session step ok =>
    rename_i s next actions
    obtain ⟨⟨later,inside⟩,agrees⟩ := agreesAt_forwarder session at'
    obtain ⟨j,rfl⟩ := Nat.exists_eq_succ_of_ne_zero later
    have kept : ∀ m forThisNode, evt = .msg m forThisNode → ResentCapped s m ∧ ¬ TearsDown d s m := by
      intro m forThisNode sent
      rcases session.forwarder with existing | ⟨_,_,sid,rfl⟩
      · exact keeps m forThisNode s sent existing
      · exact ⟨fun state => State.noConfusion state,fun torn => State.noConfusion torn.1⟩
    obtain ⟨still,outgoing⟩ := forwarderAgrees_step inside rfl agrees incoming
      (fun m forThisNode sent => (kept m forThisNode sent).1) (fun m forThisNode sent => (kept m forThisNode sent).2) step
    refine allowed_of_outgoing ?_ outgoing
    unfold AgreesAt
    by_cases final : NodeSession.isFinal (.forwarder next) = true
    · simp [final]
    · simp only [final]
      exact ⟨⟨later,inside⟩,still⟩
  | responder session step ok =>
    rename_i s next actions
    obtain ⟨rfl,agrees⟩ := agreesAt_responder session at'
    obtain ⟨still,outgoing⟩ := responderAgrees_step agrees incoming step
    refine allowed_of_outgoing ?_ outgoing
    unfold AgreesAt
    by_cases final : NodeSession.isFinal (.responder next) = true
    · simp [final]
    · simp only [final]
      exact ⟨trivial,still⟩
  | threw session =>
    refine allowed_of_outgoing ?_ (outgoing_beforeThrow incoming)
    exact fun first => stays first rfl

theorem agrees_step {c next : Path} {label : Label} (agrees : net.Agrees requested number c)
    (keeps : KeepsLifetimes c label) (taken : c.step net.rules label = some next)
    (stays : (next.node 0).session ≠ none) : net.Agrees requested number next := by
  have present : (c.node 0).session.isSome = true := by
    have at' := agrees.node 0
    unfold AgreesAt at at'
    cases session : (c.node 0).session with
    | none =>
      rw [session] at at'
      exact absurd rfl at'
    | some s => rfl
  refine agrees.step taken fun i r reacts same => ?_
  have stays' : i = 0 → r.node.session ≠ none := by
    rintro rfl
    rwa [← same]
  cases reacts with
  | down found receives =>
    rename_i i position d m
    refine process_agrees (agrees.node _) ?_ ?_ stays' receives
    · intro other _ sent
      cases sent
      exact .inl (agrees.down i m (List.mem_of_getElem? found))
    · intro other _ s sent session
      cases sent
      have kept := keeps m s found session
      exact ⟨kept.1,kept.2 present⟩
  | up found receives =>
    rename_i position d m
    have coming := agrees.up i m (List.mem_of_getElem? found)
    refine process_agrees (agrees.node _) ?_ ?_ stays' receives
    · intro other _ sent
      cases sent
      exact .inr coming
    · intro other _ s sent _
      cases sent
      exact ⟨fun _ kind => MsgKind.noConfusion (coming.kind.symm.trans kind),
        fun torn => MsgKind.noConfusion (coming.kind.symm.trans torn.2.1)⟩
  | input takes =>
    rename_i d x
    refine process_agrees (agrees.node _) ?_ ?_ stays' takes
    · intro other _ sent
      cases x <;> cases sent
    · intro other _ s sent _
      cases x <;> cases sent

end

private theorem Opened.agrees {net : Network} {c : Path} {d : Dispatcher} {e : ApiConfigure}
    (opened : net.Opened d e c) :
    net.Agrees (net.opener.configureFor d e).msg.getSessionLifetime (net.opener.msn + 1) c where
  node i := by
    unfold AgreesAt
    by_cases first : i = 0
    · rw [first,opened.initiator]
      refine ⟨rfl,by simp [NiSession.opened],fun _ => ?_,fun open' => ?_,fun r stored => ?_⟩
      · refine ⟨_,rfl,NiSession.kind_configureFor d net.opener e,?_,rfl⟩
        simp [MnslpMsg.getMsgSequenceNumber]
      · simp [NiSession.opened] at open'
      · cases stored
    · rw [opened.others i first]
      exact first
  down i sent member := by
    obtain ⟨rfl,same⟩ := opened.down i sent member
    subst same
    refine .configure (NiSession.kind_configureFor d net.opener e) rfl ?_ ?_
    · simp [NtlpMsg.copy,MnslpMsg.getMsgSequenceNumber]
    · simp [NtlpMsg.copy,granted]
  up i sent member := by
    rw [opened.up i] at member
    cases member

end Network

/-- A session in METERING is kept at least as long as a given lifetime. -/
def NodeSession.Outlasts (lifetime : UInt32) : NodeSession → Prop
  | .initiator _ => True
  | .forwarder s => s.state = .metering → lifetime ≤ s.lifetime
  | .responder s => s.state = .metering → lifetime ≤ s.lifetime

namespace Network

private theorem outlasts_of_agrees {net : Network} {requested number : UInt32} {c : Path}
    (agrees : net.Agrees requested number c) {s : NiSession} (session : (c.node 0).session = some (.initiator s))
    (metering : s.state = .metering) (i : Nat) (found : NodeSession) (present : (c.node i).session = some found) :
    found.Outlasts s.lifetime := by
  rw [((agreesAt_initiator session).mp (agrees.node 0)).2.metering metering]
  have at' := agrees.node i
  unfold AgreesAt at at'
  rw [present] at at'
  cases found with
  | initiator other => trivial
  | forwarder f => exact at'.2.metering
  | responder r => exact at'.2.metering

/-- What holds of every state of a run that keeps the lifetimes. -/
def Reached (net : Network) (c : Path) : Prop :=
  (c.node 0).session = none ∨ net.Fresh c ∨ ∃ requested number, net.Agrees requested number c

private theorem reached_step {net : Network} {c next : Path} {label : Label} (reached : net.Reached c)
    (keeps : KeepsLifetimes c label) (taken : net.Next c label next) : net.Reached next := by
  rcases reached with gone | fresh | ⟨requested,number,agrees⟩
  · exact .inl (initiator_gone gone taken)
  · rcases fresh_step fresh taken with gone | ⟨fresh,_⟩ | ⟨d,e,_,opened⟩
    · exact .inl (gone.nodes 0)
    · exact .inr (.inl fresh)
    · exact .inr (.inr ⟨_,_,opened.agrees⟩)
  · by_cases gone : (next.node 0).session = none
    · exact .inl gone
    · exact .inr (.inr ⟨requested,number,agrees_step agrees keeps taken gone⟩)

/-- In every run that keeps the lifetimes, an initiator in METERING refreshes for no
longer than any node of its path keeps the session. -/
theorem lifetime_agreement (net : Network) (labels : List Label) (c : Path)
    (run : Run (fun c label next => KeepsLifetimes c label ∧ net.Next c label next) net.start labels c) :
    ∀ s, (c.node 0).session = some (.initiator s) → s.state = .metering →
      ∀ i found, (c.node i).session = some found → found.Outlasts s.lifetime := by
  have reached : net.Reached c :=
    run.invariant net.Reached (fun _ _ _ reached taken => reached_step reached taken.1 taken.2) (.inr (.inl (fresh_start net)))
  intro s session metering
  rcases reached with gone | fresh | ⟨requested,number,agrees⟩
  · rw [session] at gone
    cases gone
  · rw [fresh.initiator] at session
    cases session
    cases metering
  · exact outlasts_of_agrees agrees session metering

/-- A path over one forwarder that keeps sessions half as long as the responder. -/
private def shortLived : Network where
  forwarders := 1
  niConf := ⟨30,3,10⟩
  nfConf _ := ⟨50⟩
  nrConf := ⟨100⟩
  id := 0
  randomNumber := 0

private def hundredSeconds : ApiConfigure where
  source := 0
  dest := 0
  sourcePort := 1
  destPort := 2
  protocol := 17
  mspecObjects := []
  sessionLifetime := 100
  selMetEntities := smeAll
  returnQueue := false

/-- The capped CONFIGURE is lost and the initiator repeats its own. -/
private def repeated : List Label :=
  [.input 0 .willing (.apiConfigure hundredSeconds),.deliverDown 0 0 .willing,.dropDown 1 0,
    .input 0 .willing (.timer 1),.deliverDown 0 0 .willing,.deliverDown 1 0 .willing,.deliverUp 1 0 .willing,
    .deliverUp 0 0 .willing]

theorem lifetimes_disagree : ¬ ∀ (net : Network) (labels : List Label) (c : Path), Run net.Next net.start labels c →
    ∀ s, (c.node 0).session = some (.initiator s) → s.state = .metering →
      ∀ i found, (c.node i).session = some found → found.Outlasts s.lifetime := by
  intro agreement
  have run : Run shortLived.Next shortLived.start repeated _ :=
    .cons rfl (.cons rfl (.cons rfl (.cons rfl (.cons rfl (.cons rfl (.cons rfl (.single rfl)))))))
  have low := agreement shortLived repeated _ run _ rfl rfl 1 _ rfl rfl
  exact absurd low (by decide)

/-- Without losses the initiator adopts what the forwarder stored. -/
theorem lifetime_agreement_undisturbed : ∃ c s f,
    Run shortLived.Next shortLived.start [.input 0 .willing (.apiConfigure hundredSeconds),.deliverDown 0 0 .willing,
      .deliverDown 1 0 .willing,.deliverUp 1 0 .willing,.deliverUp 0 0 .willing] c ∧
    (c.node 0).session = some (.initiator s) ∧ (c.node 1).session = some (.forwarder f) ∧ s.state = .metering ∧
    f.state = .metering ∧ s.lifetime ≤ f.lifetime := by
  have absent {s : NfSession} (session : (none : Option NodeSession) = some (.forwarder s)) : False := by
    cases session
  have run : Run (fun c label next => KeepsLifetimes c label ∧ shortLived.Next c label next) shortLived.start
      [.input 0 .willing (.apiConfigure hundredSeconds),.deliverDown 0 0 .willing,
        .deliverDown 1 0 .willing,.deliverUp 1 0 .willing,.deliverUp 0 0 .willing] _ :=
    .cons ⟨trivial,rfl⟩ (.cons ⟨fun _ _ _ session => (absent session).elim,rfl⟩
      (.cons ⟨fun _ _ _ session => (absent session).elim,rfl⟩ (.cons ⟨trivial,rfl⟩ (.single ⟨trivial,rfl⟩))))
  exact ⟨_,_,_,run.mono fun _ _ _ taken => taken.2,rfl,rfl,rfl,rfl,
    lifetime_agreement shortLived _ _ run _ rfl rfl 1 _ rfl rfl⟩

end Network
end Mnslp.Session
