import Mnslp.Session.Network

/-! The hop count of a CONFIGURE. No forwarder increments it, on none of the three ways
on which it sends a CONFIGURE, so the responder gets the value of the initiator. -/
namespace Mnslp.Session
open Mnslp.Lib Mnslp.Msg
namespace Network

/-- A message with the given hop count, if it is a CONFIGURE. -/
def Carries (count : UInt32) (m : NtlpMsg) : Prop :=
  m.msg.kind = .configure → m.msg.getMessageHopCount = count

structure InitiatorCarries (count : UInt32) (s : NiSession) : Prop where
  own : s.msgHopCount = count
  stored : ∀ c, s.lastConfigureMsg = some c → Carries count c
  refresh : ∀ r, s.lastRefreshMsg = some r → Carries count r

def CarriesAt (count : UInt32) (node : Node) : Prop :=
  ∀ s, node.session = some (.initiator s) → InitiatorCarries count s

abbrev CarriesAll (count : UInt32) (c : Path) : Prop :=
  Chain.Locally (fun _ => CarriesAt count) (fun _ => Carries count) (fun _ => Carries count) c

section
variable {net : Network} {count : UInt32} {i : Nat} {d : Dispatcher} {evt : Event} {actions : List Action}

theorem Carries.ofKind {m : NtlpMsg} {kind : MsgKind} (same : m.msg.kind = kind) (other : kind ≠ .configure) :
    Carries count m := by
  intro configure
  rw [same] at configure
  exact absurd configure other

theorem Carries.copy {m : NtlpMsg} (carries : Carries count m) : Carries count m.copy := by
  intro configure
  have kind : m.msg.kind = .configure := by simpa [NtlpMsg.copy] using configure
  simpa [NtlpMsg.copy] using carries kind

theorem Carries.copyForForwarding {m : NtlpMsg} (carries : Carries count m) : Carries count m.copyForForwarding := by
  intro configure
  have kind : m.msg.kind = .configure := by simpa [NtlpMsg.copyForForwarding] using configure
  simpa [NtlpMsg.copyForForwarding] using carries kind

private theorem carries_refreshFor (s : NiSession) (mri : Mri) : Carries count (s.refreshFor mri) :=
  .ofKind (NtlpMsg.kind_refreshRequest _ _) (by decide)

private theorem carries_configureFor {s : NiSession} (carries : InitiatorCarries count s) (e : ApiConfigure) :
    Carries count (s.configureFor d e) := by
  intro _
  rw [NiSession.getMessageHopCount_configureFor]
  exact carries.own

/-- Every CONFIGURE that an initiator sends has its own hop count. -/
theorem initiatorCarries_step {s next : NiSession} (carries : InitiatorCarries count s)
    (step : NiSession.Step d s evt next actions) :
    InitiatorCarries count next ∧ ∀ sent, .send sent ∈ actions → Carries count sent := by
  constructor
  · cases step with
    | configured =>
      refine ⟨carries.own,fun c stored => ?_,carries.refresh⟩
      cases stored
      exact carries_configureFor carries _
    | pendingTeardown => exact ⟨carries.own,fun c stored => (by cases stored),carries.refresh⟩
    | pendingInstalled =>
      rename_i m _ _ _ _ _ _ _ _
      obtain ⟨interval,adopted⟩ := NiSession.adopting_eq d s m.msg.getSessionLifetime
      rw [adopted]
      exact ⟨carries.own,carries.stored,carries.refresh⟩
    | refreshed =>
      refine ⟨carries.own,carries.stored,fun r stored => ?_⟩
      cases stored
      exact carries_refreshFor _ _
    | meteringTeardown => exact ⟨carries.own,carries.stored,fun r stored => by cases stored⟩
    | _ => exact ⟨carries.own,carries.stored,carries.refresh⟩
  · intro sent member
    cases step.origin member with
    | configure => exact (carries_configureFor carries _).copy
    | configureAgain state stored => exact (carries.stored _ stored).copy
    | refresh => exact (carries_refreshFor _ _).copy
    | refreshAgain state stored => exact (carries.refresh _ stored).copy
    | teardown => exact carries_refreshFor _ _

/-- The same for the message of an event, if it has one. -/
def EventCarries (count : UInt32) (evt : Event) : Prop := ∀ m forThisNode, evt = .msg m forThisNode → Carries count m

theorem EventCarries.ofKind {m : NtlpMsg} {kind : MsgKind} (carries : EventCarries count evt)
    (message : evt.ofKind kind = some m) : Carries count m := by
  obtain ⟨⟨forThisNode,sent⟩,_⟩ := Event.ofKind_eq_some.mp message
  exact carries m forThisNode sent

theorem EventCarries.ofResponse {m request : NtlpMsg} (carries : EventCarries count evt)
    (response : evt.mnslpResponse request = some m) : Carries count m :=
  carries.ofKind (Event.mnslpResponse_eq_some.mp response).1

/-- A CONFIGURE built from another one takes its count over. -/
private theorem carries_accepted {s next : NfSession} {m sent : NtlpMsg} (kind : m.msg.kind = .configure)
    (carries : Carries count m) (accepts : NfSession.Accepts d s m next actions) (member : .send sent ∈ actions) :
    Carries count sent := by
  cases accepts with
  | intro pathcoupled downstream collected selected =>
    simp only [List.mem_cons,Action.send.injEq,reduceCtorEq,List.not_mem_nil,or_false] at member
    subst member
    intro _
    rw [NfSession.getMessageHopCount_configureToForward]
    exact carries kind

/-- First, repeated or replaced: the CONFIGURE leaves a forwarder with the count it came with. -/
theorem forwarderCarries_step {conf : NfConfig} {s next : NfSession} (carries : EventCarries count evt)
    (step : NfSession.Step conf d s evt next actions) : ∀ sent, .send sent ∈ actions → Carries count sent := by
  intro sent member configure
  obtain ⟨m,message,⟨same,_⟩ | ⟨t,accepts,_⟩⟩ := step.configure_sent member configure
  · rw [same] at configure ⊢
    exact (carries.ofKind message).copyForForwarding configure
  · exact carries_accepted (Event.ofKind_eq_some.mp message).2 (carries.ofKind message) accepts member configure

theorem responderCarries_step {s next : NrSession} (step : NrSession.Step d s evt next actions) :
    ∀ sent, .send sent ∈ actions → Carries count sent := by
  intro sent member
  exact .ofKind (step.response_sent member) (by decide)

private theorem allowed_of_carries {node : Node} (at' : CarriesAt count node)
    (sends : ∀ sent, .send sent ∈ actions → Carries count sent) :
    Chain.Allowed (fun _ => CarriesAt count) (fun _ => Carries count) (fun _ => Carries count) i
      ⟨node,Action.sentDown actions,Action.sentUp actions⟩ where
  node := at'
  down sent member := sends sent (Action.mem_sentDown.mp member).1
  up _ sent member := sends sent (Action.mem_sentUp.mp member).1

private theorem process_carries {node : Node} {r : Reaction Node NtlpMsg} (at' : CarriesAt count node)
    (carries : EventCarries count evt) (outcome : net.process i d evt node = some r) :
    Chain.Allowed (fun _ => CarriesAt count) (fun _ => Carries count) (fun _ => Carries count) i r := by
  cases handled outcome with
  | discarded => exact ⟨at',fun _ member => by simp at member,fun _ _ member => by simp at member⟩
  | initiator session step ok =>
    rename_i s next actions
    obtain ⟨still,sends⟩ := initiatorCarries_step (at' s session) step
    refine allowed_of_carries (fun other present => ?_) sends
    rcases reaction_session node.installed (.initiator next) actions with gone | kept
    · cases gone.symm.trans present
    · cases kept.symm.trans present
      exact still
  | forwarder session step ok =>
    refine allowed_of_carries (fun other present => ?_) (forwarderCarries_step carries step)
    dsimp only [reaction] at present
    split at present <;> cases present
  | responder session step ok =>
    refine allowed_of_carries (fun other present => ?_) (responderCarries_step step)
    dsimp only [reaction] at present
    split at present <;> cases present
  | threw =>
    refine allowed_of_carries (fun other present => by cases present) fun sent member => ?_
    obtain ⟨_,request,response,_,_,found,rfl⟩ := NodeSession.mem_sentBeforeThrow member
    exact (carries.ofResponse found).copyForForwarding

theorem carriesAll_step {c next : Path} {label : Label} (carries : CarriesAll count c)
    (taken : net.Next c label next) : CarriesAll count next := by
  refine carries.step taken fun i r reacts _ => ?_
  obtain ⟨d,evt,gets,outcome⟩ := gets_of_reacts reacts
  refine process_carries (carries.node i) (fun m forThisNode sent => ?_) outcome
  subst sent
  rcases gets.message with ⟨j,_,member⟩ | member
  · exact carries.down j m member
  · exact carries.up i m member

theorem carriesAll_start (net : Network) : CarriesAll net.niConf.niMsgHopCount net.start where
  node i s session := by
    by_cases first : i = 0
    · simp only [start,if_pos first] at session
      cases session
      exact ⟨rfl,fun c stored => (by cases stored),fun r stored => (by cases stored)⟩
    · simp only [start,if_neg first] at session
      cases session
  down _ _ member := by cases member
  up _ _ member := by cases member

/-- The CONFIGURE that reaches the responder has counted the forwarders if there are none. -/
theorem hop_count_iff (net : Network) (labels : List Label) (c : Path) (run : Run net.Next net.start labels c)
    (m : NtlpMsg) (member : m ∈ c.down net.forwarders) (configure : m.msg.kind = .configure) :
    m.msg.getMessageHopCount = net.niConf.niMsgHopCount + UInt32.ofNat net.forwarders ↔
      UInt32.ofNat net.forwarders = 0 := by
  have carries : CarriesAll net.niConf.niMsgHopCount c :=
    run.invariant _ (fun _ _ _ carries taken => carriesAll_step carries taken) (carriesAll_start net)
  rw [carries.down _ m member configure]
  constructor
  · intro same
    simpa using same.symm
  · intro zero
    rw [zero,UInt32.add_zero]

private def pathOver (forwarders : Nat) : Network where
  forwarders := forwarders
  niConf := ⟨30,3,10⟩
  nfConf _ := ⟨100⟩
  nrConf := ⟨100⟩
  id := 0
  randomNumber := 0

private def toMeter : ApiConfigure where
  source := 0
  dest := 0
  sourcePort := 1
  destPort := 2
  protocol := 17
  mspecObjects := []
  sessionLifetime := 60
  selMetEntities := smeAll
  returnQueue := false

/-- Over one forwarder the responder gets the initiator's own value. -/
theorem hop_not_counted : ¬ ∀ (net : Network) (labels : List Label) (c : Path), Run net.Next net.start labels c →
    ∀ m ∈ c.down net.forwarders, m.msg.kind = .configure →
      m.msg.getMessageHopCount = net.niConf.niMsgHopCount + UInt32.ofNat net.forwarders := by
  intro counted
  have run : Run (pathOver 1).Next (pathOver 1).start
      [.input 0 .willing (.apiConfigure toMeter),.deliverDown 0 0 .willing] _ := .cons rfl (.single rfl)
  have wrong := counted (pathOver 1) _ _ run _ List.mem_cons_self rfl
  exact absurd wrong (by decide)

theorem hop_count_iff_direct : ∃ c m, Run (pathOver 0).Next (pathOver 0).start
    [.input 0 .willing (.apiConfigure toMeter)] c ∧ m ∈ c.down 0 ∧ m.msg.getMessageHopCount = 10 := by
  have run : Run (pathOver 0).Next (pathOver 0).start [.input 0 .willing (.apiConfigure toMeter)] _ := .single rfl
  exact ⟨_,_,run,List.mem_cons_self,(hop_count_iff (pathOver 0) _ _ run _ List.mem_cons_self rfl).mpr rfl⟩

end
end Network
end Mnslp.Session
