import Mnslp.Session.SharedObjects

/-! Every object of a request is metered by one node of the path, unless a forwarder that
waits passes the CONFIGURE on again with the objects it has taken itself. -/
namespace Mnslp.Session
open Mnslp.Lib Mnslp.Msg

theorem NiSession.carries_configureFor (d : Dispatcher) (s : NiSession) (e : ApiConfigure) :
    (s.configureFor d e).msg.Carries
      ((selectObjects d .initiator e.selMetEntities s.rule e.mspecObjects).2.map MspecObject.copy) := by
  have bare := ((((MnslpMsg.bare_new .configure).setSessionLifetime
    (if s.lifetimeFor e ≤ e.sessionLifetime then s.lifetimeFor e else e.sessionLifetime)).setMsgSequenceNumber
    (s.msn + 1)).setSelectionMeteringEntities e.selMetEntities).setMessageHopCount s.msgHopCount
  exact bare.carries.setMspecObjects _

namespace Network

/-- A CONFIGURE with the given objects. -/
structure Distributes (number : UInt32) (objects : List MspecObject) (m : NtlpMsg) : Prop where
  goesDown : m.goesDown = true
  numbered : m.msg.getMsgSequenceNumber = number
  all : AllParticipate m.msg.getSelectionMeteringEntities
  carries : m.msg.Carries objects

/-- A forwarder in PENDING has no use for the objects of a CONFIGURE that comes again. -/
def ResentLeft (accept : Nat → MspecObject → Bool) (i : Nat) (s : NfSession) (m : NtlpMsg) : Prop :=
  s.state = .pending → m.msg.kind = .configure →
    ∀ previous, s.configureMessage = some previous →
      m.msg.getMsgSequenceNumber = previous.msg.getMsgSequenceNumber →
        ∀ objects, m.msg.getMspecObjects = .ok objects → ∀ obj ∈ objects, accept i obj = false

/-- No step hands a forwarder a CONFIGURE again with objects that it has taken itself. -/
def KeepsDivided (net : Network) (accept : Nat → MspecObject → Bool) (c : Path) (label : Label) : Prop :=
  ∀ i d m forThisNode s, net.Gets c label i d (.msg m forThisNode) →
    (c.node i).session = some (.forwarder s) → ResentLeft accept i s m

/-- Every node meters what it always meters. -/
def SteadyNodes (net : Network) (accept : Nat → MspecObject → Bool) (c : Path) (label : Label) : Prop :=
  ∀ i d evt, net.Gets c label i d evt → d.Steady (accept i)

section
variable (net : Network) (accept : Nat → MspecObject → Bool) (e : ApiConfigure)

/-- What reaches node `i`. -/
def Reaches (i : Nat) (m : NtlpMsg) : Prop :=
  m.msg.kind = .configure → Distributes net.number (arriving accept e i) m

structure InitiatorShares (s : NiSession) : Prop where
  isOpen : s.state ≠ .close
  stored : ∀ c, s.lastConfigureMsg = some c → Distributes net.number (arriving accept e 1) c
  refresh : ∀ r, s.lastRefreshMsg = some r → r.msg.kind = .refresh
  taken : s.state = .pending → s.rule.Selects (accept 0) (arriving accept e 0)

structure ForwarderShares (i : Nat) (s : NfSession) : Prop where
  stored : ∀ c, s.configureMessage = some c → c.msg.getMsgSequenceNumber = net.number
  taken : s.rule.Selects (accept i) (arriving accept e i)

def SharesAt (i : Nat) (node : Node) : Prop :=
  match node.session with
  | none => True
  | some (.initiator s) => i = 0 ∧ net.InitiatorShares accept e s
  | some (.forwarder s) => (i ≠ 0 ∧ i ≤ net.forwarders) ∧ s.state ≠ .close ∧
      (s.state = .pending → net.ForwarderShares accept e i s)
  | some (.responder s) => i = net.forwarders + 1 ∧ s.state ≠ .close

abbrev Shares (c : Path) : Prop :=
  Chain.Locally (net.SharesAt accept e) (fun i => net.Reaches accept e (i + 1))
    (fun _ m => m.msg.kind ≠ .configure) c

abbrev SharesAfter (i : Nat) (r : Reaction Node NtlpMsg) : Prop :=
  Chain.Allowed (net.SharesAt accept e) (fun i => net.Reaches accept e (i + 1))
    (fun _ m => m.msg.kind ≠ .configure) i r

end

section
variable {net : Network} {accept : Nat → MspecObject → Bool} {e : ApiConfigure} {i : Nat} {d : Dispatcher} {evt : Event}
  {actions : List Action}

theorem Distributes.copy {number : UInt32} {objects : List MspecObject} {m : NtlpMsg} (copies : Copies objects)
    (distributes : Distributes number objects m) : Distributes number objects m.copy where
  goesDown := distributes.goesDown
  numbered := by simpa [NtlpMsg.copy] using distributes.numbered
  all := by simpa [NtlpMsg.copy] using distributes.all
  carries := by
    have carries := distributes.carries.copy
    rwa [copies.map_eq] at carries

theorem Distributes.copyForForwarding {number : UInt32} {objects : List MspecObject} {m : NtlpMsg}
    (copies : Copies objects) (distributes : Distributes number objects m) :
    Distributes number objects m.copyForForwarding where
  goesDown := distributes.goesDown
  numbered := by simpa [NtlpMsg.copyForForwarding] using distributes.numbered
  all := by simpa [NtlpMsg.copyForForwarding] using distributes.all
  carries := by
    have carries := distributes.carries.copy
    rwa [copies.map_eq] at carries

theorem Distributes.getMspecObjects {number : UInt32} {objects : List MspecObject} {m : NtlpMsg}
    (copies : Copies objects) (distributes : Distributes number objects m) : m.msg.getMspecObjects = .ok objects := by
  rw [distributes.carries.getMspecObjects,copies.map_eq]

/-- What an event may bring to node `i`. -/
def Brings (net : Network) (accept : Nat → MspecObject → Bool) (e : ApiConfigure) (i : Nat) (evt : Event) : Prop :=
  ∀ m forThisNode, evt = .msg m forThisNode → net.Reaches accept e i m

theorem Brings.configure {m : NtlpMsg} (brings : net.Brings accept e i evt) (configure : evt.ofKind .configure = some m) :
    Distributes net.number (arriving accept e i) m := by
  obtain ⟨⟨forThisNode,sent⟩,kind⟩ := Event.ofKind_eq_some.mp configure
  exact brings m forThisNode sent kind

/-- A forwarder that takes a CONFIGURE divides its objects. -/
private theorem divided_of_accepts {t next : NfSession} {m : NtlpMsg} (steady : d.Steady (accept i))
    (distributes : Distributes net.number (arriving accept e i) m) (empty : t.rule.objects = .empty)
    (accepts : NfSession.Accepts d t m next actions) :
    net.ForwarderShares accept e i next ∧
      ∀ sent, .send sent ∈ actions → Distributes net.number (arriving accept e (i + 1)) sent := by
  have copies := @copies_arriving accept e i
  cases accepts with
  | intro pathcoupled downstream collected selected =>
    rename_i mri objects missing rule
    rw [distributes.getMspecObjects copies] at collected
    cases collected
    obtain ⟨selects,left⟩ := selectObjects_steady steady .forwarder distributes.all empty selected
    rw [copies.map_eq] at selects left
    have left : missing = arriving accept e (i + 1) := left
    subst left
    refine ⟨⟨fun c stored => ?_,selects⟩,fun sent member => ?_⟩
    · cases stored
      simpa [NtlpMsg.copy] using distributes.numbered
    · simp only [List.mem_cons,Action.send.injEq,reduceCtorEq,List.not_mem_nil,or_false] at member
      subst member
      refine ⟨downstream,?_,?_,?_⟩
      · simpa [MnslpMsg.getMsgSequenceNumber] using distributes.numbered
      · simpa using distributes.all
      · have carries := t.carries_configureToForward m.msg (arriving accept e (i + 1))
        rwa [(copies_arriving (i + 1)).map_eq] at carries

/-- What one event does to a forwarder that is new or waits, if it gets no CONFIGURE again
with objects of its own. -/
private theorem forwarder_shares {conf : NfConfig} {s next : NfSession} (steady : d.Steady (accept i))
    (brings : net.Brings accept e i evt) (fresh : s.state = .close → s.rule.objects = .empty)
    (waiting : s.state = .pending → net.ForwarderShares accept e i s)
    (resent : ∀ m forThisNode, evt = .msg m forThisNode → ResentLeft accept i s m)
    (step : NfSession.Step conf d s evt next actions) :
    (next.state = .pending → net.ForwarderShares accept e i next) ∧
      ∀ sent, .send sent ∈ actions → sent.msg.kind = .configure →
        Distributes net.number (arriving accept e (i + 1)) sent := by
  have taken (m : NtlpMsg) (configure : evt.ofKind .configure = some m) (takes : NfSession.Takes d s m next actions) :
      net.ForwarderShares accept e i next ∧
        ∀ sent, .send sent ∈ actions → Distributes net.number (arriving accept e (i + 1)) sent := by
    have distributes := brings.configure configure
    obtain ⟨t,accepts,rule,closed | ⟨pending,previous,stored,different⟩⟩ := takes
    · exact divided_of_accepts steady distributes (by rw [rule]; exact fresh closed) accepts
    · rw [distributes.numbered,(waiting pending).stored previous stored] at different
      exact absurd rfl different
  constructor
  · intro pending
    rcases step.into_pending pending with ⟨before,rule,stored⟩ | ⟨m,configure,takes⟩
    · have shares := waiting before
      exact ⟨fun c found => shares.stored c (stored ▸ found),rule ▸ shares.taken⟩
    · exact (taken m configure takes).1
  · intro sent member kind
    obtain ⟨m,configure,⟨rfl,pending,previous,stored,_⟩ | takes⟩ := step.configure_sent member kind
    · have distributes := brings.configure configure
      have copies := @copies_arriving accept e i
      obtain ⟨⟨forThisNode,event⟩,configures⟩ := Event.ofKind_eq_some.mp configure
      have same := distributes.numbered.trans ((waiting pending).stored previous stored).symm
      have left := resent m forThisNode event pending configures previous stored same _
        (distributes.getMspecObjects copies)
      have unchanged : arriving accept e (i + 1) = arriving accept e i := by
        apply List.filter_eq_self.mpr
        intro obj member
        rw [left obj member]
        rfl
      rw [unchanged]
      exact distributes.copyForForwarding copies
    · exact (taken m configure takes).2 sent member

private theorem initiator_shares {s next : NiSession} (shares : net.InitiatorShares accept e s)
    (step : NiSession.Step d s evt next actions) :
    (next.state ≠ .close → net.InitiatorShares accept e next) ∧
      ∀ sent, .send sent ∈ actions → sent.msg.kind = .configure →
        Distributes net.number (arriving accept e 1) sent := by
  constructor
  · intro isOpen
    cases step with
    | configured state | closeIgnored state => exact absurd state shares.isOpen
    | pendingRetried => exact ⟨isOpen,shares.stored,shares.refresh,shares.taken⟩
    | pendingGivenUp | pendingNotReached | pendingTeardown | pendingRefused | refreshGivenUp | meteringTeardown
    | refreshRefused => exact absurd rfl isOpen
    | pendingInstalled state stored response success installed complete =>
      rename_i m request result
      obtain ⟨interval,adopted⟩ := NiSession.adopting_eq d s m.msg.getSessionLifetime
      rw [adopted]
      exact ⟨fun closed => (by cases closed),shares.stored,shares.refresh,fun pending => (by cases pending)⟩
    | pendingIgnored | meteringIgnored => exact shares
    | refreshed state =>
      refine ⟨isOpen,shares.stored,fun r stored => ?_,fun pending => ?_⟩
      · cases stored
        exact NtlpMsg.kind_refreshRequest _ _
      · simp [state] at pending
    | refreshRetried | refreshConfirmed => exact ⟨isOpen,shares.stored,shares.refresh,shares.taken⟩
  · intro sent member kind
    obtain ⟨c,stored,rfl⟩ := step.configure_sent shares.isOpen shares.refresh member kind
    exact (shares.stored c stored).copy (copies_arriving 1)

private theorem shares_of_sends {node : Node} (at' : net.SharesAt accept e i node)
    (sends : ∀ sent, .send sent ∈ actions → sent.msg.kind = .configure →
      Distributes net.number (arriving accept e (i + 1)) sent) :
    net.SharesAfter accept e i ⟨node,Action.sentDown actions,Action.sentUp actions⟩ where
  node := at'
  down sent member kind := sends sent (Action.mem_sentDown.mp member).1 kind
  up _ sent member kind := by
    obtain ⟨inside,goesUp⟩ := Action.mem_sentUp.mp member
    have goesDown := (sends sent inside kind).goesDown
    rw [goesUp] at goesDown
    cases goesDown

private theorem sharesAt_reaction {s : NodeSession} {installed : List String}
    (isOpen : s.isFinal = false → net.SharesAt accept e i {session := some s, installed}) :
    net.SharesAt accept e i {session := if s.isFinal then none else some s, installed} := by
  cases final : s.isFinal with
  | true => exact True.intro
  | false => exact isOpen final

private theorem sharesAt_forwarder {node : Node} {s : NfSession} (has : net.Has i evt node (.forwarder s))
    (at' : net.SharesAt accept e i node) :
    (i ≠ 0 ∧ i ≤ net.forwarders) ∧ (s.state = .close → s.rule.objects = .empty) ∧
      (s.state = .pending → net.ForwarderShares accept e i s) ∧
      (node.session = some (.forwarder s) ∨ s.state = .close) := by
  rcases has.forwarder with existing | ⟨_,place,sid,rfl⟩
  · unfold SharesAt at at'
    rw [existing] at at'
    obtain ⟨place,isOpen,waiting⟩ := at'
    exact ⟨place,fun closed => absurd closed isOpen,waiting,.inl existing⟩
  · exact ⟨place,fun _ => rfl,fun waiting => (by cases waiting),.inr rfl⟩

private theorem sharesAt_responder {node : Node} {s : NrSession} (has : net.Has i evt node (.responder s))
    (at' : net.SharesAt accept e i node) :
    i = net.forwarders + 1 ∧ (s.state = .close → s.rule.objects = .empty) := by
  rcases has.responder with existing | ⟨_,last,sid,rfl⟩
  · unfold SharesAt at at'
    rw [existing] at at'
    exact ⟨at'.1,fun closed => absurd closed at'.2⟩
  · exact ⟨last,fun _ => rfl⟩

private theorem process_shares {node : Node} {r : Reaction Node NtlpMsg} (steady : d.Steady (accept i))
    (at' : net.SharesAt accept e i node) (brings : net.Brings accept e i evt)
    (resent : ∀ m forThisNode s, evt = .msg m forThisNode → node.session = some (.forwarder s) →
      ResentLeft accept i s m)
    (outcome : net.process i d evt node = some r) : net.SharesAfter accept e i r := by
  cases handled outcome with
  | discarded => exact ⟨at',fun _ member => by simp at member,fun _ _ member => by simp at member⟩
  | initiator session step ok =>
    unfold SharesAt at at'
    rw [session] at at'
    obtain ⟨rfl,shares⟩ := at'
    obtain ⟨still,sends⟩ := initiator_shares shares step
    apply shares_of_sends
    · apply sharesAt_reaction
      intro isOpen
      exact ⟨rfl,still (by simpa [NodeSession.isFinal,NiSession.isFinal] using isOpen)⟩
    · exact sends
  | forwarder has step ok =>
    obtain ⟨place,fresh,waiting,known⟩ := sharesAt_forwarder has at'
    obtain ⟨still,sends⟩ := forwarder_shares steady brings fresh waiting
      (fun m forThisNode event pending => by
        rcases known with existing | closed
        · exact resent m forThisNode _ event existing pending
        · rw [closed] at pending
          cases pending) step
    apply shares_of_sends
    · apply sharesAt_reaction
      intro isOpen
      exact ⟨place,by simpa [NodeSession.isFinal,NfSession.isFinal] using isOpen,still⟩
    · exact sends
  | responder has step ok =>
    obtain ⟨last,_⟩ := sharesAt_responder has at'
    apply shares_of_sends
    · apply sharesAt_reaction
      intro isOpen
      exact ⟨last,by simpa [NodeSession.isFinal,NrSession.isFinal] using isOpen⟩
    · intro sent member kind
      rw [step.response_sent member] at kind
      cases kind
  | threw has =>
    apply shares_of_sends
    · exact True.intro
    · intro sent member kind
      obtain ⟨f,request,response,_,_,found,rfl⟩ := NodeSession.mem_sentBeforeThrow member
      obtain ⟨_,answer⟩ := Event.ofKind_eq_some.mp (Event.mnslpResponse_eq_some.mp found).1
      simp [NtlpMsg.copyForForwarding,answer] at kind

variable {c next : Path} {label : Label}

theorem Shares.brings (shares : net.Shares accept e c) (gets : net.Gets c label i d evt) : net.Brings accept e i evt := by
  intro m forThisNode sent kind
  subst sent
  rcases gets.message with ⟨j,rfl,member⟩ | member
  · exact shares.down j m member kind
  · exact absurd kind (shares.up i m member)

theorem shares_step (shares : net.Shares accept e c) (taken : net.Next c label next)
    (steady : net.SteadyNodes accept c label) (divided : net.KeepsDivided accept c label) : net.Shares accept e next := by
  apply shares.step taken
  intro i r reacts _
  obtain ⟨d,evt,gets,outcome⟩ := gets_of_reacts reacts
  apply process_shares (steady i d evt gets) (shares.node i) (shares.brings gets) _ outcome
  intro m forThisNode s sent session
  subst sent
  exact divided i d m forThisNode s gets session

theorem Opened.shares (opened : net.Opened d e c) (steady : d.Steady (accept 0))
    (all : AllParticipate e.selMetEntities) : net.Shares accept e c := by
  have empty : net.opener.rule.objects = .empty := rfl
  have selected := (Prod.eta (selectObjects d .initiator e.selMetEntities net.opener.rule e.mspecObjects)).symm
  obtain ⟨selects,left⟩ := selectObjects_steady steady .initiator all empty selected
  have distributes : Distributes net.number (arriving accept e 1) (net.opener.configureFor d e) := by
    refine ⟨rfl,by simp [MnslpMsg.getMsgSequenceNumber,number],by simpa using all,?_⟩
    have carries := net.opener.carries_configureFor d e
    have left : _ = arriving accept e 1 := left
    rw [left] at carries
    rwa [(copies_arriving 1).map_eq] at carries
  constructor
  · intro i
    unfold SharesAt
    by_cases first : i = 0
    · subst first
      rw [opened.initiator]
      refine ⟨rfl,fun closed => (by cases closed),fun m stored => ?_,fun m stored => (by cases stored),fun _ => selects⟩
      cases stored
      exact distributes
    · rw [opened.others i first]
      exact True.intro
  · intro i m member _
    obtain ⟨rfl,rfl⟩ := opened.down i m member
    exact distributes.copy (copies_arriving 1)
  · intro i m member
    rw [opened.up i] at member
    cases member

end

/-- Node `k` enters METERING with a rule. -/
def Installs (net : Network) (k : Nat) (rule : MtPolicyRule) (c : Path) (label : Label) (next : Path) : Prop :=
  ∃ number d evt s s', net.Gets c label k d evt ∧ net.Has k evt (c.node k) s ∧ s.Enters net k d evt number s' ∧
    (next.node k).session = some s' ∧ s'.rule = rule

def HasInstalled (net : Network) (past : List Label) (k : Nat) (rule : MtPolicyRule) : Prop :=
  Run.Happened net.Next net.start (net.Installs k rule) past

/-- The user of an initiator that waits for it asks to meter. -/
def Requests (e : ApiConfigure) (c : Path) (label : Label) (_ : Path) : Prop :=
  (∃ d, label = .input 0 d (.apiConfigure e)) ∧ ∃ s, (c.node 0).session = some (.initiator s) ∧ s.state = .close

def Requested (net : Network) (past : List Label) (e : ApiConfigure) : Prop :=
  Run.Happened net.Next net.start (Requests e) past

/-- Each object of a request is in the installed rule of one node, the first whose check accepts it. -/
def MeteredOnce (net : Network) (accept : Nat → MspecObject → Bool) (past : List Label) (e : ApiConfigure) : Prop :=
  ∀ obj ∈ e.mspecObjects, ∃ i ≤ net.forwarders + 1,
    (accept i obj.copy = true ∧ ∀ j < i, accept j obj.copy = false) ∧
      ∀ k ≤ net.forwarders + 1, (∃ rule, net.HasInstalled past k rule) ∧
        ∀ rule, net.HasInstalled past k rule → (obj.copy ∈ rule.objects.values ↔ k = i)

/-- What node `k` installs if every node before it kept what it accepts. -/
structure Right (net : Network) (accept : Nat → MspecObject → Bool) (e : ApiConfigure) (k : Nat)
    (rule : MtPolicyRule) : Prop where
  selects : rule.Selects (accept k) (arriving accept e k)
  last : k = net.forwarders + 1 → arriving accept e (k + 1) = []

section
variable {net : Network} {accept : Nat → MspecObject → Bool} {e : ApiConfigure} {c next : Path} {label : Label}
  {past : List Label} {k : Nat} {rule : MtPolicyRule}

theorem Shares.right (shares : net.Shares accept e c) (steady : net.SteadyNodes accept c label)
    (installs : net.Installs k rule c label next) : net.Right accept e k rule := by
  obtain ⟨number,d,evt,s,s',gets,has,⟨outside,inside,⟨actions,ok,_⟩,_,_⟩,_,rfl⟩ := installs
  have steady := steady k d evt gets
  have at' := shares.node k
  have copies := @copies_arriving accept e k
  cases s with
  | initiator s =>
    obtain ⟨next,rfl,step⟩ := NodeSession.initiator_step ok
    obtain ⟨pending,installed,complete,_⟩ := step.entering outside inside
    unfold SharesAt at at'
    rw [has.initiator] at at'
    obtain ⟨rfl,waits⟩ := at'
    exact ⟨selects_installed steady copies (waits.taken pending) installed complete,fun last => (by cases last)⟩
  | forwarder s =>
    obtain ⟨next,rfl,step⟩ := NodeSession.forwarder_step ok
    obtain ⟨pending,installed,complete,_⟩ := step.entering outside inside
    obtain ⟨place,_,waiting,_⟩ := sharesAt_forwarder has at'
    exact ⟨selects_installed steady copies (waiting pending).taken installed complete,fun last => by omega⟩
  | responder s =>
    obtain ⟨next,rfl,step⟩ := NodeSession.responder_step ok
    obtain ⟨m,objects,rule,closed,configure,collected,selected,installed,complete,_⟩ := step.entering outside inside
    obtain ⟨last,fresh⟩ := sharesAt_responder has at'
    have distributes := (shares.brings gets).configure configure
    rw [distributes.getMspecObjects copies] at collected
    cases collected
    obtain ⟨selects,left⟩ := selectObjects_steady steady .receiver distributes.all (fresh closed) selected
    rw [copies.map_eq] at selects left
    exact ⟨selects_installed steady copies selects installed complete,fun _ => left.symm⟩

theorem Fresh.installs_not (fresh : net.Fresh c) : ¬ net.Installs k rule c label next := by
  intro ⟨number,d,evt,s,s',gets,has,⟨outside,inside,⟨actions,ok,_⟩,_,_⟩,_⟩
  have noMessage (kind : MsgKind) : evt.ofKind kind = none := by
    cases gets with
    | down found => simp [fresh.down] at found
    | up found => simp [fresh.up] at found
    | input => exact Input.ofKind_event _ kind
  rcases has with existing | ⟨_,created⟩
  · by_cases first : k = 0
    · subst first
      rw [fresh.initiator] at existing
      cases existing
      obtain ⟨next,rfl,step⟩ := NodeSession.initiator_step ok
      obtain ⟨pending,_⟩ := step.entering outside inside
      cases pending
    · rw [fresh.others k first] at existing
      cases existing
  · obtain ⟨m,configure,_⟩ := createSession_cases created
    rw [noMessage] at configure
    cases configure

theorem Over.shares (ended : Over c) : net.Shares accept e c where
  node i := by
    unfold SharesAt
    rw [ended.nodes i]
    exact True.intro
  down i m member := by
    rw [ended.down i] at member
    cases member
  up i m member := by
    rw [ended.up i] at member
    cases member

/-- What holds of the past and the state it led to. -/
structure Shared (net : Network) (accept : Nat → MspecObject → Bool) (e : ApiConfigure) (past : List Label)
    (c : Path) : Prop where
  run : Run net.Next net.start past c
  cases : (net.Fresh c ∧ ¬ net.Requested past e ∧ ∀ k rule, ¬ net.HasInstalled past k rule) ∨
    ((∀ s, (c.node 0).session = some (.initiator s) → s.state ≠ .close) ∧
      (net.Requested past e → net.Shares accept e c ∧
        ∀ k rule, net.HasInstalled past k rule → net.Right accept e k rule))

private theorem functional (c : Path) (label : Label) (a b : Path) (first : net.Next c label a)
    (second : net.Next c label b) : a = b :=
  Option.some.inj ((show _ = some a from first).symm.trans second)

theorem shared_start : net.Shared accept e [] net.start :=
  ⟨.nil _,.inl ⟨fresh_start net,Run.not_happened_nil,fun _ _ => Run.not_happened_nil⟩⟩

theorem shared_step (all : AllParticipate e.selMetEntities) (shared : net.Shared accept e past c)
    (taken : net.Next c label next) (steady : net.SteadyNodes accept c label)
    (divided : net.KeepsDivided accept c label) : net.Shared accept e (past ++ [label]) next := by
  have run := shared.run
  refine ⟨run.append (.single taken),?_⟩
  have asked (requested : net.Requested (past ++ [label]) e) : net.Requested past e ∨ Requests e c label next :=
    Run.happened_concat functional run taken requested
  have known (k : Nat) (rule : MtPolicyRule) (installed : net.HasInstalled (past ++ [label]) k rule) :
      net.HasInstalled past k rule ∨ net.Installs k rule c label next :=
    Run.happened_concat functional run taken installed
  rcases shared.cases with ⟨fresh,unasked,uninstalled⟩ | ⟨isOpen,shares⟩
  · have still (k : Nat) (rule : MtPolicyRule) : ¬ net.HasInstalled (past ++ [label]) k rule := by
      intro installed
      rcases known k rule installed with before | now
      · exact uninstalled k rule before
      · exact fresh.installs_not now
    rcases fresh_step fresh taken with gone | ⟨fresh,other⟩ | ⟨d,e',rfl,opened⟩
    · refine .inr ⟨fun s session => ?_,fun _ => ⟨gone.shares,fun k rule installed => absurd installed (still k rule)⟩⟩
      rw [gone.nodes 0] at session
      cases session
    · refine .inl ⟨fresh,fun requested => ?_,still⟩
      rcases asked requested with before | ⟨⟨d,same⟩,_⟩
      · exact unasked before
      · exact other d _ same
    · refine .inr ⟨fun s session => ?_,fun requested => ?_⟩
      · rw [opened.initiator] at session
        cases session
        intro closed
        cases closed
      · obtain ⟨⟨_,same⟩,_⟩ := (asked requested).resolve_left unasked
        cases same
        refine ⟨opened.shares (steady 0 d _ .input) all,fun k rule installed => ?_⟩
        exact absurd installed (still k rule)
  · refine .inr ⟨fun s session => ?_,fun requested => ?_⟩
    · cases before : (c.node 0).session with
      | none =>
        rw [initiator_gone before taken] at session
        cases session
      | some own =>
        obtain ⟨n,rfl⟩ := initiator_first run before
        rcases initiator_next before taken with same | gone | ⟨_,_,n',_,_,_,stays,kept⟩
        · rw [same] at session
          cases session
          exact isOpen _ before
        · rw [gone] at session
          cases session
        · rw [kept] at session
          cases session
          exact stays
    · rcases asked requested with before | ⟨_,s,session,closed⟩
      · obtain ⟨now,right⟩ := shares before
        refine ⟨shares_step now taken steady divided,fun k rule installed => ?_⟩
        rcases known k rule installed with earlier | here
        · exact right k rule earlier
        · exact now.right steady here
      · exact absurd closed (isOpen s session)

/-- A step in which the nodes meter what they always meter and no forwarder gets objects
that it has taken again. -/
def Divides (net : Network) (accept : Nat → MspecObject → Bool) (c : Path) (label : Label) (next : Path) : Prop :=
  net.Next c label next ∧ net.SteadyNodes accept c label ∧ net.KeepsDivided accept c label

private theorem installed_of_entered {number : UInt32} (entered : net.EnteredBefore past k number) :
    ∃ rule, net.HasInstalled past k rule := by
  obtain ⟨earlier,own,later,c,next,same,run,taken,d,evt,s,s',gets,has,enters,kept⟩ := entered
  exact ⟨s'.rule,earlier,own,later,c,next,same,run,taken,number,d,evt,s,s',gets,has,enters,kept,rfl⟩

/-- When the initiator has entered METERING every node has installed a rule. -/
private theorem all_installed {number : UInt32} (entered : net.EnteredBefore past 0 number)
    (within : k ≤ net.forwarders + 1) : ∃ rule, net.HasInstalled past k rule := by
  by_cases first : k = 0
  · subst first
    exact installed_of_entered entered
  · obtain ⟨earlier,own,later,c,next,rfl,run,taken,d,evt,s,s',gets,has,enters,kept⟩ := entered
    have session : (c.node 0).session = some s := by
      rcases has with existing | ⟨_,created⟩
      · exact existing
      · obtain ⟨m,_,⟨later,_⟩ | ⟨last,_⟩⟩ := createSession_cases created
        · exact absurd rfl later
        · cases last
    obtain ⟨n,rfl⟩ := initiator_first run session
    obtain ⟨actions,ok,_⟩ := enters.handled
    obtain ⟨n',rfl,_⟩ := NodeSession.initiator_step ok
    obtain ⟨configure,_,before⟩ := (ordered_run run).entered taken session kept enters.outside enters.inside
    obtain ⟨rule,installed⟩ := installed_of_entered (before k first within)
    exact ⟨rule,installed.append (own :: later)⟩

/-- If no forwarder that waits gets objects again that it has taken, then once the initiator
has entered METERING each object is in the installed rule of one node, the first that accepts it. -/
theorem installed_once (net : Network) (accept : Nat → MspecObject → Bool) (e : ApiConfigure) (past : List Label)
    (c : Path) (number : UInt32) (run : Run (net.Divides accept) net.start past c)
    (all : AllParticipate e.selMetEntities) (requested : net.Requested past e)
    (entered : net.EnteredBefore past 0 number) : net.MeteredOnce accept past e := by
  have shared : net.Shared accept e past c :=
    run.history (net.Shared accept e) (fun _ _ _ _ shared step => shared_step all shared step.1 step.2.1 step.2.2)
      shared_start
  have right : ∀ k rule, net.HasInstalled past k rule → net.Right accept e k rule := by
    rcases shared.cases with ⟨_,unasked,_⟩ | ⟨_,shares⟩
    · exact absurd requested unasked
    · exact (shares requested).2
  intro obj member
  have given : obj.copy ∈ e.mspecObjects.map MspecObject.copy := List.mem_map_of_mem member
  obtain ⟨rule,installed⟩ := all_installed entered (Nat.le_refl (net.forwarders + 1))
  have nothingLeft := (right _ rule installed).last rfl
  have some' : ∃ i, i ≤ net.forwarders + 1 ∧ accept i obj.copy = true := by
    by_contra none'
    have passed : obj.copy ∈ arriving accept e (net.forwarders + 1 + 1) := by
      refine mem_arriving.mpr ⟨given,fun j below => ?_⟩
      cases accepted : accept j obj.copy with
      | false => rfl
      | true => exact absurd ⟨j,by omega,accepted⟩ none'
    rw [nothingLeft] at passed
    cases passed
  have first : ∃ i, accept i obj.copy = true := some'.imp fun _ found => found.2
  have before : ∀ j < Nat.find first, accept j obj.copy = false := by
    intro j below
    simpa using Nat.find_min first below
  obtain ⟨i,within,accepted⟩ := some'
  refine ⟨Nat.find first,(Nat.find_min' first accepted).trans within,⟨Nat.find_spec first,before⟩,?_⟩
  intro k inside
  refine ⟨all_installed entered inside,fun rule installed => ?_⟩
  rw [(right k rule installed).selects,mem_arriving]
  constructor
  · intro ⟨⟨_,unaccepted⟩,here⟩
    rcases Nat.lt_trichotomy k (Nat.find first) with below | same | above
    · rw [before k below] at here
      cases here
    · exact same
    · have found := Nat.find_spec first
      rw [unaccepted _ above] at found
      cases found
  · intro same
    rw [same]
    exact ⟨⟨given,before⟩,Nat.find_spec first⟩

end

private def threeNodes : Network where
  forwarders := 1
  niConf := ⟨30,3,10⟩
  nfConf _ := ⟨100⟩
  nrConf := ⟨100⟩
  id := 0
  randomNumber := 4

private def oneTemplate : MspecObject := ⟨.mandatory,⟨.null,0,0,[],true,true⟩⟩

private def meterTemplate : ApiConfigure where
  source := 0
  dest := 0
  sourcePort := 1
  destPort := 2
  protocol := 17
  mspecObjects := [oneTemplate]
  sessionLifetime := 60
  selMetEntities := smeAll
  returnQueue := false

/-- All nodes but the first meter everything. -/
private def behindFirst (i : Nat) (_ : MspecObject) : Bool := decide (i ≠ 0)

private def meterAt (i : Nat) : Dispatcher :=
  {Dispatcher.willing with
    installerCheck := behindFirst i
    installer := fun rule => .ok {rule with objects := rule.objects.mapValues MspecObject.copy}}

private theorem steady_meterAt (i : Nat) : (meterAt i).Steady (behindFirst i) where
  checks _ := rfl
  keys a b same := by cases same; rfl
  installs rule result installed := by
    cases installed
    exact List.Sublist.refl _

private def onThree (labels : List Label) : Path :=
  labels.foldl (fun c label => (Chain.step threeNodes.rules c label).getD c) threeNodes.start

private def undisturbed : List Label := [.input 0 (meterAt 0) (.apiConfigure meterTemplate),.deliverDown 0 0 (meterAt 1),
  .deliverDown 1 0 (meterAt 2),.deliverUp 1 0 (meterAt 1),.deliverUp 0 0 (meterAt 0)]

private theorem entered_undisturbed : threeNodes.EnteredBefore undisturbed 0 5 :=
  ⟨undisturbed.take 4,_,[],onThree (undisturbed.take 4),onThree undisturbed,rfl,Chain.run_of_foldlM rfl,rfl,
    _,_,_,_,.up rfl,.inl rfl,⟨by decide,rfl,⟨_,rfl,.tail _ (.tail _ (.head _))⟩,⟨_,rfl,rfl⟩,⟨_,rfl,rfl⟩⟩,rfl⟩

private theorem requested_undisturbed : threeNodes.Requested undisturbed meterTemplate :=
  ⟨[],_,_,threeNodes.start,_,rfl,.nil _,rfl,⟨_,rfl⟩,_,rfl,rfl⟩

/-- No forwarder gets a CONFIGURE while it waits. -/
private theorem divides_undisturbed :
    Run (threeNodes.Divides behindFirst) threeNodes.start undisturbed (onThree undisturbed) := by
  have steady (c : Path) : ∀ label ∈ undisturbed, threeNodes.SteadyNodes behindFirst c label := by
    intro label member i d evt gets
    simp only [undisturbed,List.mem_cons,List.not_mem_nil,or_false] at member
    rcases member with rfl | rfl | rfl | rfl | rfl <;> cases gets <;> exact steady_meterAt _
  refine .cons ⟨rfl,steady _ _ (.head _),?_⟩ (.cons ⟨rfl,steady _ _ (.tail _ (.head _)),?_⟩
    (.cons ⟨rfl,steady _ _ (by simp [undisturbed]),?_⟩ (.cons ⟨rfl,steady _ _ (by simp [undisturbed]),?_⟩
      (.single ⟨rfl,steady _ _ (by simp [undisturbed]),?_⟩))))
  · intro i d m forThisNode s gets
    cases gets
  · intro i d m forThisNode s gets session
    cases gets
    cases session
  · intro i d m forThisNode s gets session
    cases gets
    cases session
  · intro i d m forThisNode s gets session _ kind
    cases gets with
    | up found =>
      cases found
      cases kind
  · intro i d m forThisNode s gets session
    cases gets
    cases session

/-- On an undisturbed path the forwarder has the object and the responder has not. -/
theorem installed_once_undisturbed : threeNodes.MeteredOnce behindFirst undisturbed meterTemplate :=
  installed_once threeNodes behindFirst meterTemplate undisturbed _ 5 divides_undisturbed (.inl rfl)
    requested_undisturbed entered_undisturbed

/-- The CONFIGURE of the forwarder is lost, and the initiator sends its own again. -/
private def repeatedConfigure : List Label := [.input 0 (meterAt 0) (.apiConfigure meterTemplate),
  .deliverDown 0 0 (meterAt 1),.dropDown 1 0,.input 0 (meterAt 0) (.timer 1),.deliverDown 0 0 (meterAt 1),
  .deliverDown 1 0 (meterAt 2),.deliverUp 1 0 (meterAt 1),.deliverUp 0 0 (meterAt 0)]

private theorem forwarder_installed : ∃ rule, threeNodes.HasInstalled repeatedConfigure 1 rule ∧
    oneTemplate.copy ∈ rule.objects.values :=
  ⟨_,⟨repeatedConfigure.take 6,_,_,onThree (repeatedConfigure.take 6),onThree (repeatedConfigure.take 7),rfl,
    Chain.run_of_foldlM rfl,rfl,5,_,_,_,_,.up rfl,.inl rfl,
    ⟨by decide,rfl,⟨_,rfl,.head _⟩,⟨_,rfl,rfl⟩,⟨_,rfl,rfl⟩⟩,rfl,rfl⟩,.head _⟩

private theorem responder_installed : ∃ rule, threeNodes.HasInstalled repeatedConfigure 2 rule ∧
    oneTemplate.copy ∈ rule.objects.values :=
  ⟨_,⟨repeatedConfigure.take 5,_,_,onThree (repeatedConfigure.take 5),onThree (repeatedConfigure.take 6),rfl,
    Chain.run_of_foldlM rfl,rfl,5,_,_,_,_,.down rfl,.inr ⟨rfl,rfl⟩,
    ⟨by decide,rfl,⟨_,rfl,.head _⟩,⟨_,rfl,rfl⟩,⟨_,rfl,rfl⟩⟩,rfl,rfl⟩,.head _⟩

/-- The forwarder passes the CONFIGURE on with the object that it has taken, and the responder takes it too. -/
theorem installed_twice :
    ∃ (net : Network) (accept : Nat → MspecObject → Bool) (e : ApiConfigure) (past : List Label) (c : Path) (number : UInt32),
      Run (fun c label next => net.Next c label next ∧ net.SteadyNodes accept c label) net.start past c ∧
      AllParticipate e.selMetEntities ∧ net.Requested past e ∧ net.EnteredBefore past 0 number ∧
      ¬ net.MeteredOnce accept past e := by
  have run : Run threeNodes.Next threeNodes.start repeatedConfigure (onThree repeatedConfigure) :=
    Chain.run_of_foldlM rfl
  refine ⟨threeNodes,behindFirst,meterTemplate,repeatedConfigure,_,5,run.mono_mem fun label member c next taken => ?_,
    .inl rfl,?_,?_,fun once => ?_⟩
  · refine ⟨taken,fun i d evt gets => ?_⟩
    simp only [repeatedConfigure,List.mem_cons,List.not_mem_nil,or_false] at member
    rcases member with rfl | rfl | rfl | rfl | rfl | rfl | rfl | rfl <;> cases gets <;> exact steady_meterAt _
  · exact ⟨[],_,_,threeNodes.start,_,rfl,.nil _,rfl,⟨_,rfl⟩,_,rfl,rfl⟩
  · exact ⟨repeatedConfigure.take 7,_,[],onThree (repeatedConfigure.take 7),onThree repeatedConfigure,rfl,
      Chain.run_of_foldlM rfl,rfl,_,_,_,_,.up rfl,.inl rfl,
      ⟨by decide,rfl,⟨_,rfl,.tail _ (.tail _ (.head _))⟩,⟨_,rfl,rfl⟩,⟨_,rfl,rfl⟩⟩,rfl⟩
  · obtain ⟨i,_,_,nodes⟩ := once oneTemplate (.head _)
    obtain ⟨first,installed,inside⟩ := forwarder_installed
    obtain ⟨second,installed',inside'⟩ := responder_installed
    have one : 1 = i := ((nodes 1 (by decide)).2 first installed).mp inside
    have two : 2 = i := ((nodes 2 (by decide)).2 second installed').mp inside'
    omega

end Network
end Mnslp.Session
