import Mnslp.Session.Teardown

/-! The teardown of a whole path. Behind the front of the teardown every forwarder waits
for the RESPONSE or is gone, and nothing comes down any more; a forwarder that waits has
waiting neighbours up to the front or up to a RESPONSE on its way. A PENDING forwarder
discards the teardown, which is where real paths leave this picture. -/
namespace Mnslp.Session
open Mnslp.Lib Mnslp.Msg
namespace Network

/-- Roles, routing and meters at a node. -/
def SoundAt (net : Network) (i : Nat) (node : Node) : Prop :=
  match node.session with
  | none => i ≠ 0 → node.installed = []
  | some (.initiator s) => i = 0 ∧ s.Directed
  | some (.forwarder s) => (i ≠ 0 ∧ i ≤ net.forwarders) ∧ s.Sound node.installed
  | some (.responder s) => i = net.forwarders + 1 ∧ node.installed = s.keysInMeter

abbrev Sound (net : Network) (c : Path) : Prop :=
  Chain.Locally net.SoundAt (fun _ m => m.goesDown = true)
    (fun _ m => m.goesDown = false ∧ m.msg.kind = .response) c

abbrev SoundAfter (net : Network) (i : Nat) (r : Reaction Node NtlpMsg) : Prop :=
  Chain.Allowed net.SoundAt (fun _ m => m.goesDown = true)
    (fun _ m => m.goesDown = false ∧ m.msg.kind = .response) i r

def ReliableLabel : Label → Prop
  | .deliverDown _ _ d => d.Reliable
  | .deliverUp _ _ d => d.Reliable
  | .input _ d _ => d.Reliable
  | _ => True

theorem sound_start (net : Network) : net.Sound net.start where
  node i := by
    unfold SoundAt start
    by_cases first : i = 0
    · subst first
      exact ⟨rfl,fun mri found => by cases found⟩
    · simp [first]
  down i m member := by cases member
  up i m member := by cases member

section
variable {net : Network} {i : Nat} {d : Dispatcher} {evt : Event} {node : Node} {r : Reaction Node NtlpMsg}

private theorem allowed_of_routed {node : Node} {actions : List Action} (at' : net.SoundAt i node)
    (routed : ∀ sent, .send sent ∈ actions → sent.Routed) :
    net.SoundAfter i ⟨node,Action.sentDown actions,Action.sentUp actions⟩ where
  node := at'
  down sent member := (Action.mem_sentDown.mp member).2
  up _ sent member := by
    obtain ⟨action,notDown⟩ := Action.mem_sentUp.mp member
    refine ⟨notDown,(routed sent action).resolve_left ?_⟩
    simp [notDown]

private theorem soundAt_forwarder {s : NfSession} (at' : net.SoundAt i node) (has : net.Has i evt node (.forwarder s)) :
    (i ≠ 0 ∧ i ≤ net.forwarders) ∧ s.Sound node.installed := by
  unfold SoundAt at at'
  rcases has.forwarder with existing | ⟨absent,place,sid,rfl⟩
  · rwa [existing] at at'
  · rw [absent] at at'
    rw [at' place.1]
    exact ⟨place,NfSession.sound_new sid⟩

private theorem soundAt_responder {s : NrSession} (at' : net.SoundAt i node) (has : net.Has i evt node (.responder s)) :
    i = net.forwarders + 1 ∧ node.installed = s.keysInMeter := by
  unfold SoundAt at at'
  rcases has.responder with existing | ⟨absent,last,sid,rfl⟩
  · rwa [existing] at at'
  · rw [absent] at at'
    refine ⟨last,?_⟩
    rw [at' (by omega)]
    rfl

private theorem process_sound (at' : net.SoundAt i node) (reliable : d.Reliable)
    (incoming : ∀ m forThisNode, evt = .msg m forThisNode → m.Routed) (outcome : net.process i d evt node = some r) :
    net.SoundAfter i r := by
  cases handled outcome with
  | discarded => exact ⟨at',fun _ member => by simp at member,fun _ _ member => by simp at member⟩
  | initiator session step ok =>
    rename_i s next actions
    unfold SoundAt at at'
    rw [session] at at'
    obtain ⟨rfl,directed⟩ := at'
    refine ⟨?_,fun sent member => (Action.mem_sentDown.mp member).2,fun first => absurd rfl first⟩
    unfold SoundAt reaction
    by_cases final : NodeSession.isFinal (.initiator next) = true
    · simp [final]
    · simp only [final]
      exact ⟨trivial,NiSession.directed_step directed step⟩
  | forwarder has step ok =>
    rename_i s next actions
    obtain ⟨place,sound⟩ := soundAt_forwarder at' has
    obtain ⟨still,routed⟩ := NfSession.sound_step sound incoming step
    refine allowed_of_routed ?_ routed
    unfold SoundAt
    by_cases final : NodeSession.isFinal (.forwarder next) = true
    · have state : next.state = .close := by simpa [NodeSession.isFinal,NfSession.isFinal] using final
      simp only [final,if_true]
      intro _
      rw [still.installed]
      exact if_neg (by simp [state])
    · simp only [final]
      exact ⟨place,still⟩
  | responder has step ok =>
    rename_i s next actions
    obtain ⟨place,meter⟩ := soundAt_responder at' has
    refine allowed_of_routed ?_ (NrSession.routed_step step)
    have still : actions.foldl Action.meter node.installed = next.keysInMeter := by
      rw [meter,NrSession.keysInMeter_step step]
    unfold SoundAt
    by_cases final : NodeSession.isFinal (.responder next) = true
    · have state : next.state = .close := by simpa [NodeSession.isFinal,NrSession.isFinal] using final
      simp only [final,if_true]
      intro _
      rw [still]
      exact if_neg (by simp [state])
    · simp only [final]
      exact ⟨place,still⟩
  | threw has threw =>
    rename_i s exception
    refine allowed_of_routed (fun later => ?_) fun sent member => ?_
    · cases s with
      | initiator s =>
        unfold SoundAt at at'
        rw [has.initiator] at at'
        exact absurd at'.1 later
      | forwarder s =>
        have unmetered : s.state ≠ .metering := by
          intro state
          exact NfSession.metering_not_thrown reliable state (NodeSession.forwarder_threw threw)
        exact (soundAt_forwarder at' has).2.installed.trans (if_neg unmetered)
      | responder s =>
        have unmetered : s.state ≠ .metering := by
          intro state
          exact NrSession.metering_not_thrown reliable state (NodeSession.responder_threw threw)
        exact (soundAt_responder at' has).2.trans (if_neg unmetered)
    · obtain ⟨_,request,response,_,_,found,rfl⟩ := NodeSession.mem_sentBeforeThrow member
      obtain ⟨⟨forThisNode,sent⟩,_⟩ := Event.ofKind_eq_some.mp (Event.mnslpResponse_eq_some.mp found).1
      exact (incoming response forThisNode sent).forwarded

theorem sound_next {c next : Path} {label : Label} (sound : net.Sound c) (reliable : ReliableLabel label)
    (taken : net.Next c label next) : net.Sound next := by
  refine sound.step taken fun i r reacts same => ?_
  cases reacts with
  | down found receives =>
    rename_i i position d m
    refine process_sound (sound.node _) reliable (fun other _ sent => ?_) receives
    cases sent
    exact .inl (sound.down i m (List.mem_of_getElem? found))
  | up found receives =>
    rename_i position d m
    refine process_sound (sound.node _) reliable (fun other _ sent => ?_) receives
    cases sent
    exact .inr (sound.up i m (List.mem_of_getElem? found)).2
  | input takes =>
    rename_i d x
    refine process_sound (sound.node _) reliable (fun other _ sent => ?_) takes
    cases x <;> cases sent

end

def WaitsAt (c : Path) (msn : UInt32) (i : Nat) : Prop :=
  ∃ s, (c.node i).session = some (.forwarder s) ∧ s.Waiting msn

/-- The teardown with a number has come to node `p` and is the last message behind it. -/
structure Tearing (net : Network) (msn : UInt32) (p : Nat) (c : Path) : Prop where
  initiator : (c.node 0).session = none
  behind : ∀ i, i ≠ 0 → i ≤ p → (c.node i).session = none ∨ WaitsAt c msn i
  emptied : ∀ i < p, c.down i = []
  front : p ≤ net.forwarders → ∃ older m, c.down p = older ++ [m] ∧ m.IsTeardown msn
  reach : p ≤ net.forwarders + 1
  source : ∀ i, i ≠ 0 → i ≤ p → WaitsAt c msn i → ∃ j, i ≤ j ∧ j ≤ p ∧ (∀ k, i ≤ k → k ≤ j → WaitsAt c msn k) ∧
    ((j = p ∧ p ≤ net.forwarders) ∨ ∃ m ∈ c.up j, m.IsAnswer msn)

/-- There is neither a session nor a message that opens one. -/
abbrev Quiet (c : Path) : Prop :=
  Chain.Locally (fun _ node => node.session = none) (fun _ m => m.msg.kind ≠ .configure)
    (fun _ m => m.msg.kind ≠ .configure) c

def InOrder : Label → Prop
  | .deliverDown _ position _ => position = 0
  | .deliverUp _ position _ => position = 0
  | _ => False

/-- The session is in METERING and accepts the request. -/
def TakenBy (d : Dispatcher) (m : NtlpMsg) : Option NodeSession → Prop
  | some (.forwarder s) => s.state = .metering ∧ d.Accepts m s.msn
  | some (.responder s) => s.state = .metering ∧ d.Accepts m s.msn
  | _ => False

/-- A teardown that is delivered next is taken, or there is nothing left to tear down. -/
def TeardownTaken (c : Path) : Label → Prop
  | .deliverDown i _ d => ∀ m, (c.down i).head? = some m → m.msg.kind = .refresh →
      m.msg.getSessionLifetime = 0 → TakenBy d m (c.node (i + 1)).session ∨ Quiet c
  | _ => True

section
variable {net : Network} {msn : UInt32} {p : Nat} {c next : Path} {i : Nat} {d : Dispatcher}

/-- What happens ahead of the front does not matter, as long as the answers stay. -/
private theorem Tearing.frame (tearing : net.Tearing msn p c) (nodes : ∀ j ≤ p, next.node j = c.node j)
    (emptied : ∀ j < p, next.down j = c.down j)
    (front : p ≤ net.forwarders → ∃ older m, next.down p = older ++ [m] ∧ m.IsTeardown msn)
    (answers : ∀ j ≤ p, WaitsAt c msn j → ∀ m ∈ c.up j, m.IsAnswer msn → m ∈ next.up j) :
    net.Tearing msn p next := by
  have waits (j : Nat) (inside : j ≤ p) : WaitsAt next msn j ↔ WaitsAt c msn j := by
    unfold WaitsAt
    rw [nodes j inside]
  refine ⟨?_,fun j later inside => ?_,fun j before => ?_,front,tearing.reach,fun j later inside waiting => ?_⟩
  · rw [nodes 0 (Nat.zero_le p)]
    exact tearing.initiator
  · rw [nodes j inside,waits j inside]
    exact tearing.behind j later inside
  · rw [emptied j before]
    exact tearing.emptied j before
  · obtain ⟨k,below,within,chain,end'⟩ := tearing.source j later inside ((waits j inside).mp waiting)
    refine ⟨k,below,within,fun l low high => (waits l (by omega)).mpr (chain l low high),?_⟩
    rcases end' with atFront | ⟨m,member,answer⟩
    · exact .inl atFront
    · exact .inr ⟨m,answers k within (chain k below (Nat.le_refl k)) m member answer,answer⟩

/-- A forwarder takes the teardown and the front moves on. -/
private theorem Tearing.forward {rest : List NtlpMsg} {r : Reaction Node NtlpMsg} {m : NtlpMsg} {s : NfSession}
    (tearing : net.Tearing msn p c) (inside : p + 1 ≤ net.forwarders)
    (moved : Chain.DeliveredDown c next p rest r) (only : rest = []) (torn : m.IsTeardown msn)
    (session : r.node.session = some (.forwarder s)) (waiting : s.Waiting msn) (sent : r.down = [m.copyForForwarding]) :
    net.Tearing msn (p + 1) next := by
  have here : WaitsAt next msn (p + 1) := ⟨s,by rw [moved.node,session],waiting⟩
  have nodes (j : Nat) (before : j ≤ p) : next.node j = c.node j := moved.others j (by omega)
  have waits (j : Nat) (before : j ≤ p) : WaitsAt next msn j ↔ WaitsAt c msn j := by
    unfold WaitsAt
    rw [nodes j before]
  refine ⟨?_,fun j later within => ?_,fun j before => ?_,fun _ => ?_,by omega,fun j later within waiting' => ?_⟩
  · rw [nodes 0 (Nat.zero_le p)]
    exact tearing.initiator
  · rcases Nat.lt_or_ge p j with beyond | before
    · have same : j = p + 1 := by omega
      subst same
      exact .inr here
    · rw [nodes j before,waits j before]
      exact tearing.behind j later before
  · rcases Nat.lt_or_ge j p with low | high
    · rw [moved.down j (by omega) (by omega)]
      exact tearing.emptied j low
    · have same : j = p := by omega
      subst same
      rw [moved.rest,only]
  · exact ⟨c.down (p + 1),m.copyForForwarding,by rw [moved.sent,sent],torn.forwarded⟩
  · rcases Nat.lt_or_ge p j with beyond | before
    · have same : j = p + 1 := by omega
      subst same
      refine ⟨p + 1,Nat.le_refl _,Nat.le_refl _,fun k low high => ?_,.inl ⟨rfl,inside⟩⟩
      have same : k = p + 1 := by omega
      rw [same]
      exact here
    · obtain ⟨k,below,upTo,chain,end'⟩ := tearing.source j later before ((waits j before).mp waiting')
      rcases end' with ⟨atFront,_⟩ | ⟨answer,member,isAnswer⟩
      · refine ⟨p + 1,by omega,Nat.le_refl _,fun l low high => ?_,.inl ⟨rfl,inside⟩⟩
        rcases Nat.lt_or_ge p l with beyond | within'
        · have same : l = p + 1 := by omega
          rw [same]
          exact here
        · exact (waits l within').mpr (chain l low (by omega))
      · refine ⟨k,below,by omega,fun l low high => (waits l (by omega)).mpr (chain l low high),.inr ⟨answer,?_,isAnswer⟩⟩
        by_cases same : k = p
        · subst same
          rw [moved.answered]
          exact List.mem_append_left _ member
        · rw [moved.up k same]
          exact member

private theorem Tearing.arrive {rest : List NtlpMsg} {r : Reaction Node NtlpMsg} {m : NtlpMsg}
    (tearing : net.Tearing msn p c) (last : p = net.forwarders)
    (moved : Chain.DeliveredDown c next p rest r) (only : rest = [])
    (session : r.node.session = none) (sent : m ∈ r.up) (answer : m.IsAnswer msn) :
    net.Tearing msn (p + 1) next := by
  have nodes (j : Nat) (before : j ≤ p) : next.node j = c.node j := moved.others j (by omega)
  have waits (j : Nat) (before : j ≤ p) : WaitsAt next msn j ↔ WaitsAt c msn j := by
    unfold WaitsAt
    rw [nodes j before]
  have gone : (next.node (p + 1)).session = none := by rw [moved.node,session]
  refine ⟨?_,fun j later within => ?_,fun j before => ?_,fun inside => by omega,by omega,fun j later within waiting => ?_⟩
  · rw [nodes 0 (Nat.zero_le p)]
    exact tearing.initiator
  · rcases Nat.lt_or_ge p j with beyond | before
    · have same : j = p + 1 := by omega
      subst same
      exact .inl gone
    · rw [nodes j before,waits j before]
      exact tearing.behind j later before
  · rcases Nat.lt_or_ge j p with low | high
    · rw [moved.down j (by omega) (by omega)]
      exact tearing.emptied j low
    · have same : j = p := by omega
      subst same
      rw [moved.rest,only]
  · rcases Nat.lt_or_ge p j with beyond | before
    · have same : j = p + 1 := by omega
      subst same
      obtain ⟨s,found,_⟩ := waiting
      rw [gone] at found
      cases found
    · obtain ⟨k,below,upTo,chain,end'⟩ := tearing.source j later before ((waits j before).mp waiting)
      refine ⟨k,below,by omega,fun l low high => (waits l (by omega)).mpr (chain l low high),.inr ?_⟩
      rcases end' with ⟨atFront,_⟩ | ⟨other,member,isAnswer⟩
      · subst atFront
        exact ⟨m,by rw [moved.answered]; exact List.mem_append_right _ sent,answer⟩
      · refine ⟨other,?_,isAnswer⟩
        by_cases same : k = p
        · subst same
          rw [moved.answered]
          exact List.mem_append_left _ member
        · rw [moved.up k same]
          exact member

private theorem Tearing.answer {rest : List NtlpMsg} {r : Reaction Node NtlpMsg} {m : NtlpMsg}
    (tearing : net.Tearing msn p c) (later : i ≠ 0) (within : i ≤ p)
    (moved : Chain.DeliveredUp c next i rest r) (session : r.node.session = none) (silent : r.down = [])
    (sent : m ∈ r.up) (answer : m.IsAnswer msn) : net.Tearing msn p next := by
  have gone : (next.node i).session = none := by rw [moved.node,session]
  have downs (j : Nat) : next.down j = c.down j := by
    by_cases same : j = i
    · subst same
      rw [moved.sent,silent,List.append_nil]
    · exact moved.down j same
  have waits (j : Nat) (other : j ≠ i) : WaitsAt next msn j ↔ WaitsAt c msn j := by
    unfold WaitsAt
    rw [moved.others j other]
  have notHere : ¬ WaitsAt next msn i := by
    rintro ⟨s,found,_⟩
    rw [gone] at found
    cases found
  refine ⟨?_,fun j later' within' => ?_,fun j before => ?_,fun inside => ?_,tearing.reach,
    fun j later' within' waiting => ?_⟩
  · rw [moved.others 0 (Ne.symm later)]
    exact tearing.initiator
  · by_cases same : j = i
    · subst same
      exact .inl gone
    · rw [moved.others j same,waits j same]
      exact tearing.behind j later' within'
  · rw [downs j]
    exact tearing.emptied j before
  · rw [downs p]
    exact tearing.front inside
  · have other : j ≠ i := fun same => notHere (same ▸ waiting)
    obtain ⟨k,below,upTo,chain,end'⟩ := tearing.source j later' within' ((waits j other).mp waiting)
    by_cases exceeds : j < i ∧ i ≤ k
    · obtain ⟨q,rfl⟩ := Nat.exists_eq_succ_of_ne_zero later
      refine ⟨q,by omega,by omega,fun l low high => (waits l (by omega)).mpr (chain l low (by omega)),
        .inr ⟨m,?_,answer⟩⟩
      rw [moved.passed q rfl]
      exact List.mem_append_right _ sent
    · refine ⟨k,below,upTo,fun l low high => (waits l (by omega)).mpr (chain l low high),?_⟩
      rcases end' with atFront | ⟨found,member,isAnswer⟩
      · exact .inl atFront
      · refine .inr ⟨found,?_,isAnswer⟩
        by_cases before : k + 1 = i
        · rw [moved.passed k before]
          exact List.mem_append_left _ member
        · rw [moved.up k (by omega) before]
          exact member

private theorem createSession_response {m : NtlpMsg} {forThisNode : Bool} (other : m.msg.kind ≠ .configure) :
    net.createSession i (.msg m forThisNode) = none := by
  simp [createSession,Event.ofKind,other]

private theorem sentDown_nil {actions : List Action} {m : NtlpMsg} (only : ∀ sent, .send sent ∈ actions ↔ sent = m)
    (goesUp : m.goesDown = false) : Action.sentDown actions = [] := by
  refine List.eq_nil_iff_forall_not_mem.mpr fun sent member => ?_
  obtain ⟨action,down⟩ := Action.mem_sentDown.mp member
  rw [(only sent).mp action,goesUp] at down
  cases down

private theorem tearing_taken {rest : List NtlpMsg} {r : Reaction Node NtlpMsg} {m : NtlpMsg} {forThisNode : Bool}
    (tearing : net.Tearing msn p c) (sound : net.Sound c) (reliable : d.Reliable)
    (moved : Chain.DeliveredDown c next p rest r) (only : rest = []) (torn : m.IsTeardown msn)
    (taken : TakenBy d m (c.node (p + 1)).session)
    (outcome : net.process (p + 1) d (.msg m forThisNode) (c.node (p + 1)) = some r) :
    net.Tearing msn (p + 1) next := by
  have at' := sound.node (p + 1)
  have existing {s : NodeSession} (has : net.Has (p + 1) (.msg m forThisNode) (c.node (p + 1)) s) :
      (c.node (p + 1)).session = some s := by
    rcases has with found | ⟨absent,_⟩
    · exact found
    · rw [absent] at taken
      exact taken.elim
  cases handled outcome with
  | discarded absent =>
    rw [absent] at taken
    exact taken.elim
  | initiator session =>
    rw [session] at taken
    exact taken.elim
  | forwarder has step ok =>
    rename_i s next' actions
    rw [existing has] at taken
    obtain ⟨place,_⟩ := soundAt_forwarder at' has
    obtain ⟨waiting,same⟩ := step.of_teardown torn taken.1 taken.2
    refine tearing.forward place.2 moved only torn (s := next') ?_ waiting ?_
    · simp [reaction,NodeSession.isFinal,NfSession.isFinal,waiting.state]
    · have down : m.copyForForwarding.goesDown = true := torn.goesDown
      simp [reaction,same,Action.sentDown,Action.sent,down]
  | responder has step ok =>
    rw [existing has] at taken
    obtain ⟨last,_⟩ := soundAt_responder at' has
    obtain ⟨closed,answers⟩ := step.of_teardown torn taken.1 taken.2
    have answer := torn.answered 0
    refine tearing.arrive (by omega) moved only ?_ (Action.mem_sentUp.mpr ⟨answers,answer.goesDown⟩) answer
    simp [reaction,NodeSession.isFinal,NrSession.isFinal,closed]
  | threw has threw =>
    rename_i s exception
    rw [existing has] at taken
    cases s with
    | initiator s => exact taken.elim
    | forwarder s => exact absurd (NodeSession.forwarder_threw threw) (NfSession.metering_not_thrown reliable taken.1)
    | responder s => exact absurd (NodeSession.responder_threw threw) (NrSession.metering_not_thrown reliable taken.1)

private theorem tearing_behind {rest : List NtlpMsg} {r : Reaction Node NtlpMsg} {m : NtlpMsg} {forThisNode : Bool}
    (tearing : net.Tearing msn p c) (sound : net.Sound c) (reliable : d.Reliable) (within : i ≤ p)
    (moved : Chain.DeliveredUp c next i rest r) (channel : c.up i = m :: rest)
    (outcome : net.process i d (.msg m forThisNode) (c.node i) = some r) : net.Tearing msn p next := by
  obtain ⟨goesUp,kind⟩ := sound.up i m (by simp [channel])
  have uncreated : net.createSession i (.msg m forThisNode) = none :=
    createSession_response (by simp [kind])
  -- nothing but the channel itself changes
  have ignored (unchanged : r = ⟨c.node i,[],[]⟩)
      (unanswered : WaitsAt c msn i → ¬ m.IsAnswer msn) : net.Tearing msn p next := by
    subst unchanged
    have nodes (j : Nat) : next.node j = c.node j := by
      by_cases same : j = i
      · subst same
        exact moved.node
      · exact moved.others j same
    have downs (j : Nat) : next.down j = c.down j := by
      by_cases same : j = i
      · subst same
        rw [moved.sent,List.append_nil]
      · exact moved.down j same
    refine tearing.frame (fun j _ => nodes j) (fun j _ => downs j) (fun inside => ?_) fun j _ waiting a member answer => ?_
    · rw [downs p]
      exact tearing.front inside
    · by_cases same : j = i
      · subst same
        rw [moved.rest]
        rw [channel] at member
        rcases List.mem_cons.mp member with rfl | tail
        · exact absurd answer (unanswered waiting)
        · exact tail
      · by_cases before : j + 1 = i
        · rw [moved.passed j before,List.append_nil]
          exact member
        · rw [moved.up j same before]
          exact member
  by_cases first : i = 0
  · subst first
    refine ignored (discarded_of_absent tearing.initiator uncreated outcome) ?_
    rintro ⟨s,found,_⟩
    rw [tearing.initiator] at found
    cases found
  · rcases tearing.behind i first within with absent | ⟨s,session,waiting⟩
    · refine ignored (discarded_of_absent absent uncreated outcome) ?_
      rintro ⟨s,found,_⟩
      rw [absent] at found
      cases found
    · cases handled outcome with
      | discarded absent =>
        rw [session] at absent
        cases absent
      | initiator existing =>
        rw [session] at existing
        cases existing
      | forwarder has step ok =>
        rename_i next' actions
        cases has.existing session
        rcases step.of_response waiting kind with ⟨number,closed,only⟩ | ⟨number,rfl,rfl⟩
        · have answer : m.IsAnswer msn := ⟨kind,goesUp,number⟩
          have up : m.copyForForwarding.goesDown = false := goesUp
          refine tearing.answer first within moved ?_ (sentDown_nil only up)
            (Action.mem_sentUp.mpr ⟨(only _).mpr rfl,up⟩) answer.forwarded
          simp [reaction,NodeSession.isFinal,NfSession.isFinal,closed]
        · refine ignored ?_ fun _ answer => number answer.msn
          have isOpen : NodeSession.isFinal (.forwarder next') = false := by
            simp [NodeSession.isFinal,NfSession.isFinal,waiting.state]
          simp [reaction,isOpen,← session,Action.sentDown,Action.sentUp]
      | responder has => exact NodeSession.noConfusion (has.existing session)
      | threw has threw =>
        cases has.existing session
        exact absurd (NodeSession.forwarder_threw threw) (NfSession.metering_not_thrown reliable waiting.state)

private theorem tearing_next {label : Label} (tearing : net.Tearing msn p c) (sound : net.Sound c)
    (reliable : ReliableLabel label) (inOrder : InOrder label) (ready : TeardownTaken c label)
    (taken : net.Next c label next) : (∃ q, net.Tearing msn q next) ∨ Quiet c := by
  cases label with
  | deliverDown i position d =>
    cases inOrder
    obtain ⟨m,rest,r,channel,receives,moved⟩ := Chain.deliverDown_first taken
    have ahead : p ≤ i := by
      by_contra behind
      rw [tearing.emptied i (by omega)] at channel
      cases channel
    have far (front : p ≤ net.forwarders → ∃ older t, next.down p = older ++ [t] ∧ t.IsTeardown msn) :
        net.Tearing msn p next := by
      refine tearing.frame (fun j before => moved.others j (by omega))
        (fun j before => moved.down j (by omega) (by omega)) front fun j before _ a member _ => ?_
      by_cases same : j = i
      · subst same
        rw [moved.answered]
        exact List.mem_append_left _ member
      · rw [moved.up j same]
        exact member
    by_cases atFront : i = p
    · subst atFront
      by_cases inside : i ≤ net.forwarders
      · obtain ⟨older,t,split,torn⟩ := tearing.front inside
        cases older with
        | nil =>
          rw [channel] at split
          cases split
          rcases ready m (by simp [channel]) torn.kind torn.lifetime with takenBy | quiet
          · exact .inl ⟨i + 1,tearing_taken tearing sound reliable moved rfl torn takenBy receives⟩
          · exact .inr quiet
        | cons first older =>
          rw [channel] at split
          cases split
          exact .inl ⟨i,far fun _ => ⟨older,t,moved.rest,torn⟩⟩
      · exact .inl ⟨i,far fun inside' => absurd inside' inside⟩
    · refine .inl ⟨p,far fun inside => ?_⟩
      rw [moved.down p (by omega) (by omega)]
      exact tearing.front inside
  | deliverUp i position d =>
    cases inOrder
    obtain ⟨m,rest,r,channel,receives,moved⟩ := Chain.deliverUp_first taken
    rcases Nat.lt_or_ge p i with beyond | within
    · refine .inl ⟨p,tearing.frame (fun j before => moved.others j (by omega)) (fun j before => moved.down j (by omega))
        (fun inside => ?_) fun j before _ a member _ => ?_⟩
      · rw [moved.down p (by omega)]
        exact tearing.front inside
      · by_cases next' : j + 1 = i
        · rw [moved.passed j next']
          exact List.mem_append_left _ member
        · rw [moved.up j (by omega) next']
          exact member
    · exact .inl ⟨p,tearing_behind tearing sound reliable within moved channel receives⟩
  | _ => exact inOrder.elim

private theorem quiet_next {label : Label} (quiet : Quiet c) (taken : net.Next c label next) : Quiet next := by
  have allowed {j : Nat} {r : Reaction Node NtlpMsg} (same : r = ⟨c.node j,[],[]⟩) :
      Chain.Allowed (fun _ node => node.session = none) (fun _ (m : NtlpMsg) => m.msg.kind ≠ .configure)
        (fun _ m => m.msg.kind ≠ .configure) j r := by
    subst same
    exact ⟨quiet.node j,fun _ member => by simp at member,fun _ _ member => by simp at member⟩
  refine quiet.step taken fun j r reacts same => allowed ?_
  cases reacts with
  | down found receives =>
    have other := quiet.down _ _ (List.mem_of_getElem? found)
    exact discarded_of_absent (quiet.node _) (createSession_response other) receives
  | up found receives =>
    have other := quiet.up _ _ (List.mem_of_getElem? found)
    exact discarded_of_absent (quiet.node _) (createSession_response other) receives
  | input takes =>
    rename_i d x
    refine discarded_of_absent (quiet.node _) ?_ takes
    cases x <;> rfl

end

private theorem tearing_start {net : Network} {c next : Path} {d : Dispatcher} {s : NiSession} (sound : net.Sound c)
    (session : (c.node 0).session = some (.initiator s)) (isOpen : s.state ≠ .close) (reliable : d.Reliable)
    (taken : net.Next c (.input 0 d .apiTeardown) next) : ∃ msn, net.Tearing msn 0 next := by
  have at' := sound.node 0
  unfold SoundAt at at'
  rw [session] at at'
  obtain ⟨_,directed⟩ := at'
  obtain ⟨r,takes,rfl⟩ := Chain.input_taken taken
  cases handled takes with
  | discarded absent =>
    rw [session] at absent
    cases absent
  | initiator existing step ok =>
    rw [session] at existing
    cases existing
    obtain ⟨closed,mri,found,rfl⟩ := NiSession.Step.of_teardown step isOpen
    have goesDown : NtlpMsg.goesDown ⟨s.id,mri,0,NtlpMsg.refreshRequest 0 (s.msn + 1)⟩ = true := directed mri found
    refine ⟨s.msn + 1,?_,fun j later inside => absurd (Nat.le_zero.mp inside) later,fun j before => by omega,
      fun _ => ?_,Nat.zero_le _,fun j later inside => absurd (Nat.le_zero.mp inside) later⟩
    · rw [Chain.act_node_self]
      simp [reaction,NodeSession.isFinal,NiSession.isFinal,closed]
    · refine ⟨c.down 0,_,?_,NtlpMsg.kind_refreshRequest _ _,goesDown,?_,NtlpMsg.msgSequenceNumber?_refreshRequest _ _⟩
      · rw [Chain.act_down_self]
        simp only [reaction,Action.sentDown_removal_append]
        simp [Action.sentDown,Action.sent,goesDown]
      · simp [MnslpMsg.getSessionLifetime]
  | forwarder has => exact NodeSession.noConfusion (has.existing session)
  | responder has => exact NodeSession.noConfusion (has.existing session)
  | threw has threw =>
    cases has.existing session
    exact absurd (NodeSession.initiator_threw threw) (NiSession.teardown_not_thrown reliable isOpen)

private theorem Sound.waits_le {net : Network} {c : Path} {msn : UInt32} {i : Nat} (sound : net.Sound c)
    (waits : WaitsAt c msn i) : i ≤ net.forwarders := by
  obtain ⟨s,session,_⟩ := waits
  have at' := sound.node i
  unfold SoundAt at at'
  rw [session] at at'
  exact at'.1.2

/-- What holds after the teardown of the user until the channels are empty. -/
def TearingDown (net : Network) (c : Path) : Prop := net.Sound c ∧ ((∃ msn p, net.Tearing msn p c) ∨ Quiet c)

private theorem tearingDown_next {net : Network} {c next : Path} {label : Label} (tearing : net.TearingDown c)
    (reliable : ReliableLabel label) (inOrder : InOrder label) (ready : TeardownTaken c label)
    (taken : net.Next c label next) : net.TearingDown next := by
  obtain ⟨sound,⟨msn,p,tearing⟩ | quiet⟩ := tearing
  · refine ⟨sound_next sound reliable taken,?_⟩
    rcases tearing_next tearing sound reliable inOrder ready taken with ⟨q,still⟩ | quiet
    · exact .inl ⟨msn,q,still⟩
    · exact .inr (quiet_next quiet taken)
  · exact ⟨sound_next sound reliable taken,.inr (quiet_next quiet taken)⟩

/-- When nothing is left in the channels no forwarder waits. -/
private theorem gone_of_drained {net : Network} {c : Path} (tearing : net.TearingDown c)
    (drained : ∀ i ≤ net.forwarders, c.down i = [] ∧ c.up i = []) (i : Nat) : (c.node i).session = none := by
  obtain ⟨sound,⟨msn,p,tearing⟩ | quiet⟩ := tearing
  · have last : p = net.forwarders + 1 := by
      by_contra before
      have reach := tearing.reach
      have inside : p ≤ net.forwarders := by omega
      obtain ⟨older,m,split,_⟩ := tearing.front inside
      simp [(drained p inside).1] at split
    by_cases first : i = 0
    · rw [first]
      exact tearing.initiator
    · rcases Nat.lt_or_ge p i with beyond | within
      · have at' := sound.node i
        unfold SoundAt at at'
        cases session : (c.node i).session with
        | none => rfl
        | some s =>
          rw [session] at at'
          cases s with
          | initiator s => exact absurd at'.1 first
          | forwarder s =>
            obtain ⟨⟨_,inside⟩,_⟩ := at'
            omega
          | responder s =>
            obtain ⟨place,_⟩ := at'
            omega
      · rcases tearing.behind i first within with gone | waiting
        · exact gone
        · obtain ⟨j,below,_,chain,⟨_,inside⟩ | ⟨m,member,_⟩⟩ := tearing.source i first within waiting
          · omega
          · have inside : j ≤ net.forwarders := sound.waits_le (chain j below (Nat.le_refl j))
            simp [(drained j inside).2] at member
  · exact quiet.node i

/-- A teardown of the initiator's user closes every session of the path and removes what
they installed, in every run in which each session that gets the teardown takes it. -/
theorem teardown_complete (net : Network) (before after : List Label) (c torn final : Path) (d : Dispatcher)
    (s : NiSession)
    (opened : Run (fun c label next => ReliableLabel label ∧ net.Next c label next) net.start before c)
    (session : (c.node 0).session = some (.initiator s)) (isOpen : s.state = .pending ∨ s.state = .metering)
    (reliable : d.Reliable) (teardown : net.Next c (.input 0 d .apiTeardown) torn)
    (delivered : Run (fun c label next => ReliableLabel label ∧ InOrder label ∧ TeardownTaken c label ∧
      net.Next c label next) torn after final)
    (drained : ∀ i ≤ net.forwarders, final.down i = [] ∧ final.up i = []) :
    ∀ i, i ≠ 0 → (final.node i).session = none ∧ (final.node i).installed = [] := by
  have sound : net.Sound c :=
    opened.invariant net.Sound (fun _ _ _ sound taken => sound_next sound taken.1 taken.2) (sound_start net)
  have notClosed : s.state ≠ .close := by
    rcases isOpen with state | state <;> simp [state]
  obtain ⟨msn,tearing⟩ := tearing_start sound session notClosed reliable teardown
  have label : ReliableLabel (.input 0 d .apiTeardown) := reliable
  have start : net.TearingDown torn := ⟨sound_next sound label teardown,.inl ⟨msn,0,tearing⟩⟩
  have ended : net.TearingDown final :=
    delivered.invariant net.TearingDown
      (fun _ _ _ tearing taken => tearingDown_next tearing taken.1 taken.2.1 taken.2.2.1 taken.2.2.2) start
  intro i later
  have gone := gone_of_drained ended drained i
  refine ⟨gone,?_⟩
  have at' := ended.1.node i
  unfold SoundAt at at'
  rw [gone] at at'
  exact at' later

private def overOneForwarder : Network where
  forwarders := 1
  niConf := ⟨30,3,10⟩
  nfConf _ := ⟨100⟩
  nrConf := ⟨100⟩
  id := 0
  randomNumber := 0

private def oneMinute : ApiConfigure where
  source := 0
  dest := 0
  sourcePort := 1
  destPort := 2
  protocol := 17
  mspecObjects := []
  sessionLifetime := 60
  selMetEntities := smeAll
  returnQueue := false

/-- Where the path over one forwarder is after some steps. -/
private def after (labels : List Label) : Path :=
  labels.foldl (fun c label => (Chain.step overOneForwarder.rules c label).getD c) overOneForwarder.start

private def configured : List Label := [.input 0 .willing (.apiConfigure oneMinute),.deliverDown 0 0 .willing]

private def throughAndBack : List Label :=
  [.deliverDown 0 0 .willing,.deliverDown 1 0 .willing,.deliverUp 1 0 .willing,.deliverUp 0 0 .willing]

/-- The teardown meets the forwarder in PENDING and is lost there. -/
theorem teardown_discarded : ¬ ∀ (net : Network) (before after : List Label) (c torn final : Path) (d : Dispatcher)
    (s : NiSession), Run (fun c label next => ReliableLabel label ∧ net.Next c label next) net.start before c →
    (c.node 0).session = some (.initiator s) → s.state = .pending ∨ s.state = .metering →
    d.Reliable → net.Next c (.input 0 d .apiTeardown) torn →
    Run (fun c label next => ReliableLabel label ∧ InOrder label ∧ net.Next c label next) torn after final →
    (∀ i ≤ net.forwarders, final.down i = [] ∧ final.up i = []) →
    ∀ i, i ≠ 0 → (final.node i).session = none ∧ (final.node i).installed = [] := by
  intro complete
  have willing : Dispatcher.willing.Reliable := Dispatcher.reliable_willing
  have opened : Run (fun c label next => ReliableLabel label ∧ overOneForwarder.Next c label next)
      overOneForwarder.start configured (after configured) :=
    .cons ⟨willing,rfl⟩ (.single ⟨willing,rfl⟩)
  have teardown : overOneForwarder.Next (after configured) (.input 0 .willing .apiTeardown)
      (after (configured ++ [.input 0 .willing .apiTeardown])) := rfl
  have delivered : Run (fun c label next => ReliableLabel label ∧ InOrder label ∧ overOneForwarder.Next c label next)
      (after (configured ++ [.input 0 .willing .apiTeardown])) throughAndBack
      (after (configured ++ .input 0 .willing .apiTeardown :: throughAndBack)) :=
    .cons ⟨willing,rfl,rfl⟩ (.cons ⟨willing,rfl,rfl⟩ (.cons ⟨willing,rfl,rfl⟩ (.single ⟨willing,rfl,rfl⟩)))
  have drained : ∀ i ≤ 1, (after (configured ++ .input 0 .willing .apiTeardown :: throughAndBack)).down i = [] ∧
      (after (configured ++ .input 0 .willing .apiTeardown :: throughAndBack)).up i = [] := by
    intro i inside
    have place : i = 0 ∨ i = 1 := by omega
    rcases place with rfl | rfl
    · exact ⟨rfl,rfl⟩
    · exact ⟨rfl,rfl⟩
  have closed := complete overOneForwarder _ _ _ _ _ .willing _ opened rfl (.inl rfl) willing teardown delivered drained
  cases (closed 1 (by decide)).1

/-- A teardown in METERING goes through. -/
theorem teardown_complete_undisturbed : ∃ (c torn final : Path) (s : NiSession) (f : NfSession),
    (c.node 0).session = some (.initiator s) ∧ (c.node 1).session = some (.forwarder f) ∧ f.state = .metering ∧
    overOneForwarder.Next c (.input 0 .willing .apiTeardown) torn ∧
    Run overOneForwarder.Next torn throughAndBack final ∧
    ∀ i, i ≠ 0 → (final.node i).session = none ∧ (final.node i).installed = [] := by
  have willing : Dispatcher.willing.Reliable := Dispatcher.reliable_willing
  have opened : Run (fun c label next => ReliableLabel label ∧ overOneForwarder.Next c label next)
      overOneForwarder.start (configured ++ throughAndBack.tail) (after (configured ++ throughAndBack.tail)) :=
    .cons ⟨willing,rfl⟩ (.cons ⟨willing,rfl⟩ (.cons ⟨willing,rfl⟩ (.cons ⟨willing,rfl⟩ (.single ⟨willing,rfl⟩))))
  have teardown : overOneForwarder.Next (after (configured ++ throughAndBack.tail)) (.input 0 .willing .apiTeardown)
      (after (configured ++ throughAndBack.tail ++ [.input 0 .willing .apiTeardown])) := rfl
  have taken (m : NtlpMsg) {d : Dispatcher} {s : NodeSession} {c : Path} {i : Nat} (head : (c.down i).head? = some m)
      (session : (c.node (i + 1)).session = some s) (takes : TakenBy d m (some s)) :
      TeardownTaken c (.deliverDown i 0 d) := by
    intro other found _ _
    rw [head] at found
    cases found
    rw [session]
    exact .inl takes
  have delivered : Run (fun c label next => ReliableLabel label ∧ InOrder label ∧ TeardownTaken c label ∧
      overOneForwarder.Next c label next)
      (after (configured ++ throughAndBack.tail ++ [.input 0 .willing .apiTeardown])) throughAndBack
      (after (configured ++ throughAndBack.tail ++ .input 0 .willing .apiTeardown :: throughAndBack)) :=
    .cons ⟨willing,rfl,taken _ rfl rfl ⟨rfl,rfl,rfl⟩,rfl⟩ (.cons ⟨willing,rfl,taken _ rfl rfl ⟨rfl,rfl,rfl⟩,rfl⟩
      (.cons ⟨willing,rfl,trivial,rfl⟩ (.single ⟨willing,rfl,trivial,rfl⟩)))
  have drained : ∀ i ≤ 1,
      (after (configured ++ throughAndBack.tail ++ .input 0 .willing .apiTeardown :: throughAndBack)).down i = [] ∧
      (after (configured ++ throughAndBack.tail ++ .input 0 .willing .apiTeardown :: throughAndBack)).up i = [] := by
    intro i inside
    have place : i = 0 ∨ i = 1 := by omega
    rcases place with rfl | rfl
    · exact ⟨rfl,rfl⟩
    · exact ⟨rfl,rfl⟩
  refine ⟨_,_,_,_,_,rfl,rfl,rfl,teardown,delivered.mono fun _ _ _ taken => taken.2.2.2,?_⟩
  exact teardown_complete overOneForwarder _ _ _ _ _ .willing _ opened rfl (.inr rfl) willing teardown delivered drained

end Network
end Mnslp.Session
