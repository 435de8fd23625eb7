import Mnslp.Session.Daemon
import Mnslp.Session.RefreshRound

/-! Refresh rounds between whole nodes. A REFRESH and its RESPONSE are made of numbers only, so that every
node reads from the bytes the very message that was sent, and the round of the path is carried out. -/
namespace Mnslp.Msg
open Mnslp.Lib Call

/-- The message has the numbers of its kind, and no IPFIX objects. -/
def MnslpMsg.Plain (m : MnslpMsg) : Prop :=
  ∃ c : Contents, m.Holds c ∧ c.Suits m.kind ∧ c.AllReadable ∧ c.ipfix = []

theorem Contents.entries_congr {c other : Contents}
    (unique : ∀ objectType ∈ uniqueTypes, other.unique objectType = c.unique objectType) (ipfix : other.ipfix = c.ipfix) :
    other.entries = c.entries := by
  have table : OrderedMap.tabulate other.table (uniqueTypes.map uniqueKey) =
      OrderedMap.tabulate c.table (uniqueTypes.map uniqueKey) := by
    apply List.filterMap_congr
    intro key member
    obtain ⟨objectType,known,rfl⟩ := List.mem_map.mp member
    exact congrArg (Option.map _) (unique objectType known)
  unfold Contents.entries
  rw [table,ipfix]

theorem MnslpObject.copy_of_unique {obj : MnslpObject} (unique : obj.isUnique = true) : obj.copy = obj := by
  obtain ⟨treatment,body⟩ := obj
  cases body with
  | ipfixMessage message => cases unique
  | informationCode | selectionMeteringEntities | messageHopCount | msgSequenceNumber | sessionLifetime => rfl

namespace MnslpMsg
variable {m : MnslpMsg}

theorem Holds.unique_of_plain {c : Contents} (holds : m.Holds c) (none : c.ipfix = []) {obj : MnslpObject}
    (member : obj ∈ m.objects.values) : obj.isUnique = true := by
  rw [holds.values] at member
  rcases Contents.mem_objects.mp member with ⟨objectType,_,found⟩ | ⟨ipfix,inside,_⟩
  · exact c.single found
  · rw [none] at inside
    cases inside

theorem Plain.copy (plain : m.Plain) : m.copy = m := by
  obtain ⟨c,holds,_,_,none⟩ := plain
  have same : m.objects.copy = m.objects := by
    apply OrderedMap.ext_entries
    change m.objects.entries.map (fun entry => (entry.1,entry.2.copy)) = m.objects.entries
    refine (List.map_congr_left fun entry member => ?_).trans (List.map_id _)
    have unique := holds.unique_of_plain none (List.mem_map_of_mem member)
    exact congrArg (Prod.mk entry.1) (MnslpObject.copy_of_unique unique)
  exact congrArg (MnslpMsg.mk m.kind) same

/-- Five numbers at most. -/
theorem Holds.getSerializedSize_le {c : Contents} (holds : m.Holds c) (none : c.ipfix = []) :
    m.getSerializedSize ≤ 44 := by
  have few : c.objects.length ≤ 5 := by
    unfold Contents.objects Contents.uniques
    rw [none,List.map_nil,List.append_nil]
    exact List.length_filterMap_le ..
  have each : ∀ size ∈ m.objects.values.map MnslpObject.getSerializedSize, size = 8 := by
    intro size member
    obtain ⟨obj,inside,rfl⟩ := List.mem_map.mp member
    have unique := holds.unique_of_plain none inside
    obtain ⟨treatment,body⟩ := obj
    cases body with
    | ipfixMessage message => cases unique
    | informationCode | selectionMeteringEntities | messageHopCount | msgSequenceNumber | sessionLifetime => rfl
  unfold getSerializedSize
  rw [List.eq_replicate_of_mem each,List.sum_replicate_nat,List.length_map,holds.values]
  omega

/-- From its bytes the message itself is read. -/
theorem Plain.round_trip (plain : m.Plain) : ∃ payload written,
    m.serialize (.ofSize m.getSerializedSize) = .ok (payload,written) ∧
      ∀ env, deserialize env payload.buffer = .ok (.object m) := by
  obtain ⟨c,holds,suits,readable,none⟩ := plain
  have all : ∀ obj ∈ c.written m.kind, obj.Readable := fun obj member =>
    readable obj (suits.written_perm.mem_iff.mpr member)
  have length := holds.length_bytesWith fun obj member => (all obj member).checked
  rw [suits.nothing,List.map_nil,List.sum_nil,Nat.add_zero] at length
  refine ⟨⟨m.bytesWith (c.written m.kind),m.getSerializedSize⟩,UInt32.ofNat m.getSerializedSize,?_,fun env => ?_⟩
  · rw [serialize_eq,serializeKeys_eq_ok]
    refine ⟨holds.check_of_suits suits,_,holds.finds_written suits.present,fun obj member => (all obj member).checked,?_,
      congrArg UInt32.ofNat length.symm⟩
    rw [← length]
    exact NetMsg.write_ofSize _
  · obtain ⟨others,other,read,kind,copies,again⟩ :=
      deserialize_bytesWith env m (written_ne_nil suits) all (written_distinct c m.kind)
    obtain ⟨uniques,ipfix⟩ := suits.read_back copies
    rw [none] at ipfix
    have entries := Contents.entries_congr uniques ((List.forall₂_nil_left_iff.mp ipfix).trans none.symm)
    have objects : other.objects = m.objects := OrderedMap.ext_entries (again.trans (entries.trans holds.symm))
    have same : other = m := by
      obtain ⟨kind',objects'⟩ := other
      cases kind
      cases objects
      rfl
    rw [read,same]

end MnslpMsg
end Mnslp.Msg

namespace Mnslp.Session
open Mnslp.Lib Mnslp.Msg

theorem OwnMessage.plain_build (o : OwnMessage) (none : o.contents.ipfix = []) (objects : o.objects = [])
    (fits : o.build.getSerializedSize < 2^32 → o.Fits) : o.build.Plain := by
  have small := o.holds_build.getSerializedSize_le none
  have sendable : ∀ obj ∈ o.objects, obj.Sendable := by
    rw [objects]
    exact nofun
  exact ⟨o.contents,o.holds_build,o.suits_build (fits (by omega)),o.allReadable_contents sendable (fits (by omega)),none⟩

namespace NtlpMsg
variable {sid : SessionId} {number : UInt32} {m : NtlpMsg}

theorem plain_refreshRequest (lifetime msn : UInt32) : (refreshRequest lifetime msn).Plain :=
  (OwnMessage.refresh lifetime msn).plain_build rfl rfl fun small => ⟨small,True.intro⟩

theorem plain_createSuccessResponse (numbered : m.msg.hasMsgSequenceNumber = true) (lifetime : UInt32) :
    (m.createSuccessResponse lifetime).msg.Plain := by
  refine (OwnMessage.successResponse m lifetime []).plain_build ?_ rfl fun small => ⟨small,numbered⟩
  unfold OwnMessage.contents OwnMessage.responseContents
  dsimp only
  rw [if_pos numbered]
  rfl

/-- A message of the session that has numbers only. -/
structure Legible (sid : SessionId) (m : NtlpMsg) : Prop where
  own : m.sid = sid
  plain : m.msg.Plain

theorem Legible.copyForForwarding (legible : m.Legible sid) : m.copyForForwarding.Legible sid where
  own := legible.own
  plain := by
    change m.msg.copy.Plain
    rw [legible.plain.copy]
    exact legible.plain

end NtlpMsg

namespace Network

theorem legibleTraffic (sid : SessionId) (number : UInt32) :
    RefreshTraffic number (fun m => m.IsRefresh number ∧ m.Legible sid) (fun m => m.Grants number ∧ m.Legible sid) where
  refresh _ asks := asks.1
  grants _ answers := answers.1
  handed _ asks := ⟨asks.1.copyForForwarding,asks.2.copyForForwarding⟩
  answered m lifetime asks lasting := by
    have numbered : m.msg.hasMsgSequenceNumber = true := by
      unfold MnslpMsg.hasMsgSequenceNumber
      rw [asks.1.msn]
      rfl
    exact ⟨NtlpMsg.grants_createSuccessResponse asks.1.goesDown asks.1.msn lasting,asks.2.own,
      NtlpMsg.plain_createSuccessResponse numbered lifetime⟩
  returned _ answers := ⟨answers.1.forwarded,answers.2.copyForForwarding⟩

/-- Such a message is read as it was written, but for the handle that the reader has for its sender. -/
theorem keeps_legible (net : Network) {p : NtlpMsg → Prop} (any : ∀ m siiHandle, p m → p {m with siiHandle := siiHandle}) :
    net.script.Keeps fun m => p m ∧ m.Legible net.id := by
  rintro m ⟨has,own,plain⟩
  obtain ⟨payload,written,serialized,back⟩ := plain.round_trip
  obtain ⟨sent,created,data,sid,mri⟩ := GistkaMapper.createApiMsg_of_serialize serialized
  refine ⟨sent,created,fun around => ⟨{m with siiHandle := around.siiHandle},?_,any m _ has,own,plain⟩⟩
  unfold script
  dsimp only
  rw [data,back,sid,own,GistkaMapper.value_createNtlpSessionId,mri]
  dsimp only
  rw [if_pos rfl,← own]

/-- Whole nodes in a row, with what is on its way between them. -/
abbrev Row := Chain Daemon SendMessage

/-- What the node reads is authorized. -/
def AuthorizesSent (net : Network) (_ : Nat) (around : Surroundings) (sent : SendMessage) : Prop :=
  ∀ m, net.script.read around sent = some m → around.d.isAuthorized m = true

/-- The session is metered at every node, and no message is on its way. Other sessions may do what they like. -/
structure Serves (net : Network) (meters : Nat → List String) (number : UInt32) (c : Row) : Prop where
  empty : c.Emptied
  all : ∀ i ≤ net.forwarders + 1, net.MetersAt meters number i ((c.node i).view net.id)

section
variable {net : Network} {meters : Nat → List String} {number : UInt32} {c begun next final : Row} {s : NiSession}
  {around : Surroundings}

theorem relay_carried (net : Network) (meters : Nat → List String) (number : UInt32) :
    Relay net.daemons (net.forwarders + 1) net.AuthorizesSent
      (net.script.Carries fun m => m.IsRefresh (number + 1) ∧ m.Legible net.id)
      (net.script.Carries fun m => m.Grants (number + 1) ∧ m.Legible net.id)
      (fun i node => net.MetersAt meters number i (node.view net.id))
      (fun i node => RefreshingAt meters (number + 1) i (node.view net.id))
      (fun i node => net.MetersAt meters (number + 1) i (node.view net.id)) := by
  refine (net.relay_traffic meters number (legibleTraffic net.id (number + 1))).enacted net.enacts_daemons
    (net.keeps_legible fun m siiHandle refresh => ⟨refresh.kind,refresh.goesDown,refresh.lifetime,refresh.msn⟩)
    (net.keeps_legible fun m siiHandle grants =>
      ⟨⟨grants.kind,grants.goesDown,grants.msn⟩,grants.success,grants.lasting⟩) ?_ ?_
  · rintro i node (⟨⟨s,session,_⟩,_⟩ | ⟨_,waits⟩)
    · rw [session]
      rfl
    · split at waits
      · rename_i session
        rw [session]
        rfl
      · rename_i session
        rw [session]
        rfl
      · exact waits.elim
  · intro d m node r _ answers waits receives
    obtain ⟨next,reacts,_⟩ := waits.ends net d answers.1
    rw [receives] at reacts
    cases reacts
    rfl

/-- The refresh timer is in the queue of the first node. -/
theorem Serves.takes_refreshTimer (serves : net.Serves meters number c)
    (session : (c.node 0).table.find net.id = some (.initiator s)) (around : Surroundings) : ∃ node sent,
      net.daemons.take 0 around (.timer net.id s.refreshTimer) (c.node 0) = some ⟨node,[sent],[]⟩ ∧
        RefreshingAt meters (number + 1) 0 (node.view net.id) ∧
        net.script.Carries (fun m => m.IsRefresh (number + 1) ∧ m.Legible net.id) sent := by
  have own : s.id = net.id := ((c.node 0).filed net.id _ session).2
  obtain ⟨next,m,takes,refreshing,refresh,sid,lifetime,msn,made⟩ :=
    (serves.all 0 (Nat.zero_le _)).takes_refreshTimer around.d session
  have plain : m.msg.Plain := by
    rw [made,(NtlpMsg.plain_refreshRequest lifetime msn).copy]
    exact NtlpMsg.plain_refreshRequest lifetime msn
  obtain ⟨sent,written,carries⟩ := (net.keeps_legible fun _ _ refresh =>
    ⟨refresh.kind,refresh.goesDown,refresh.lifetime,refresh.msn⟩).carries
      (⟨refresh,sid.trans own,plain⟩ : m.IsRefresh (number + 1) ∧ m.Legible net.id)
  have wrote : [m].mapM GistkaMapper.createApiMsg = some [sent] := by
    have written' : GistkaMapper.createApiMsg m = some sent := written
    simp [written']
  obtain ⟨node,turned,same⟩ : ∃ node, (c.node 0).mainLoop net 0 around (.timer net.id s.refreshTimer) =
      some ⟨node,[sent],[]⟩ ∧ node.view net.id = _ :=
    Daemon.mainLoop_of_react session rfl ((process_of_session session).symm.trans takes) wrote rfl
  exact ⟨node,sent,turned,by rw [same]; exact refreshing,carries⟩

/-- How far a round has come after some deliveries. -/
theorem carried_run {labels : List (ChainLabel Surroundings QueueMsg)} (serves : net.Serves meters number c)
    (session : (c.node 0).table.find net.id = some (.initiator s))
    (fires : Chain.Next net.daemons c (.input 0 around (.timer net.id s.refreshTimer)) begun)
    (delivered : Run (Chain.DeliversNext net.daemons net.AuthorizesSent) begun labels final) :
    Relay.At (net.forwarders + 1) (net.script.Carries fun m => m.IsRefresh (number + 1) ∧ m.Legible net.id)
      (net.script.Carries fun m => m.Grants (number + 1) ∧ m.Legible net.id)
      (fun i node => net.MetersAt meters number i (node.view net.id))
      (fun i node => RefreshingAt meters (number + 1) i (node.view net.id))
      (fun i node => net.MetersAt meters (number + 1) i (node.view net.id)) final labels.length := by
  obtain ⟨node,sent,takes,refreshing,carries⟩ := serves.takes_refreshTimer session around
  have reached := (net.relay_carried meters number).run
    (.begins (Nat.succ_pos _) serves.empty fires takes carries refreshing fun i _ within => serves.all i within) delivered
  rwa [Nat.zero_add] at reached

/-- One round of the nodes: the refresh timer of the initiator runs out, and messages are delivered until none is left. -/
def CarriedRound (net : Network) (c : Row) (around : Surroundings) (next : Row) : Prop :=
  ∃ s begun labels, (c.node 0).table.find net.id = some (.initiator s) ∧
    Chain.Next net.daemons c (.input 0 around (.timer net.id s.refreshTimer)) begun ∧
    Run (Chain.DeliversNext net.daemons net.AuthorizesSent) begun labels next ∧ next.Emptied

theorem Serves.round (serves : net.Serves meters number c) (round : net.CarriedRound c around next) :
    net.Serves meters (number + 1) next := by
  obtain ⟨s,begun,labels,session,fires,delivered,empty⟩ := round
  have reached := carried_run serves session fires delivered
  have all : labels.length = 2 * (net.forwarders + 1) := by
    by_contra other
    have short := reached.le
    exact empty.not_moving ((net.relay_carried meters number).moving reached (by omega))
  exact ⟨empty,(reached.finished all).2⟩

/-- Nodes that exchange bytes refresh their session any number of times. -/
theorem carried_on (net : Network) (meters : Nat → List String) (number : UInt32) (c final : Row)
    (rounds : List Surroundings) (serves : net.Serves meters number c) (refreshed : Run net.CarriedRound c rounds final) :
    net.Serves meters (number + UInt32.ofNat rounds.length) final ∧
      ∀ around, ∃ s begun, (final.node 0).table.find net.id = some (.initiator s) ∧
        Chain.Next net.daemons final (.input 0 around (.timer net.id s.refreshTimer)) begun ∧
        ∀ labels later, Run (Chain.DeliversNext net.daemons net.AuthorizesSent) begun labels later →
          labels.length ≤ 2 * (net.forwarders + 1) ∧
          (labels.length < 2 * (net.forwarders + 1) → Chain.Moving net.daemons net.AuthorizesSent later) ∧
          (labels.length = 2 * (net.forwarders + 1) →
            net.Serves meters (number + UInt32.ofNat rounds.length + 1) later) := by
  have up : net.Serves meters (number + UInt32.ofNat rounds.length) final :=
    refreshed.history (fun past c' => net.Serves meters (number + UInt32.ofNat past.length) c')
      (fun past c' around next up round => by
        have after := up.round round
        rw [List.length_append,List.length_singleton,UInt32.ofNat_add,← UInt32.add_assoc]
        exact after)
      (by simpa using serves)
  refine ⟨up,fun around => ?_⟩
  obtain ⟨s,session,_⟩ := (up.all 0 (Nat.zero_le _)).initiator
  obtain ⟨node,sent,takes,_⟩ := up.takes_refreshTimer session around
  have taken : Chain.step net.daemons final (.input 0 around (.timer net.id s.refreshTimer)) =
      some (final.act 0 ⟨node,[sent],[]⟩) := by
    rw [Chain.step,takes]
    rfl
  refine ⟨s,_,session,taken,fun labels later delivered => ?_⟩
  have reached := carried_run up session taken delivered
  exact ⟨reached.le,(net.relay_carried meters _).moving reached,fun all =>
    ⟨(reached.finished all).1,(reached.finished all).2⟩⟩

end
end Network

namespace Daemon

theorem filed_only {key : SessionId} {s : NodeSession} (isOpen : s.isFinal = false) (own : s.id = key) :
    (SessionTable.only key (some s)).Filed := by
  intro id s' found
  by_cases same : id = key
  · subst same
    rw [SessionTable.find_only] at found
    cases found
    exact ⟨isOpen,own⟩
  · rw [SessionTable.only,SessionTable.find_put_other _ _ _ same] at found
    cases found

/-- A node with one session. -/
def ofNode (key : SessionId) (node : Node) : Daemon :=
  match node.session with
  | some s =>
    if own : s.isFinal = false ∧ s.id = key then
      ⟨SessionTable.only key (some s),filed_only own.1 own.2,fun _ => node.installed⟩
    else ⟨.empty,SessionTable.filed_empty,fun _ => node.installed⟩
  | none => ⟨.empty,SessionTable.filed_empty,fun _ => node.installed⟩

end Daemon

namespace Network

/-- The three nodes after the setup, as whole nodes. -/
private def hosts : Row := ⟨fun i => .ofNode 0 ((inRow setUpByAll).node i),fun _ => [],fun _ => []⟩

private theorem serves_hosts : threeInRow.Serves (fun i => ((inRow setUpByAll).node i).installed) 0 hosts := by
  refine ⟨⟨fun _ => rfl,fun _ => rfl⟩,fun i within => ?_⟩
  have same : (hosts.node i).view threeInRow.id = (inRow setUpByAll).node i := by
    match i with
    | 0 | 1 | 2 => rfl
    | i + 3 => exact absurd within (by simp [threeInRow])
  rw [same]
  exact up_inRow.all i within

private def around : Surroundings := {d := keyingAt 0}

/-- The REFRESH and its RESPONSE over the wire. -/
private def crossings : List (ChainLabel Surroundings QueueMsg) :=
  [.deliverDown 0 0 around,.deliverDown 1 0 around,.deliverUp 1 0 around,.deliverUp 0 0 around]

private def later (labels : List (ChainLabel Surroundings QueueMsg)) : Row :=
  labels.foldl (fun c label => (Chain.step threeInRow.daemons c label).getD c) hosts

private theorem round_hosts : threeInRow.CarriedRound hosts around (later (.input 0 around (.timer 0 1) :: crossings)) := by
  refine ⟨_,later [.input 0 around (.timer 0 1)],crossings,rfl,rfl,?_,fun j => ?_,fun j => ?_⟩
  · exact .cons ⟨fun _ _ _ _ => rfl,rfl⟩ (.cons ⟨fun _ _ _ _ => rfl,rfl⟩ (.cons ⟨fun _ _ _ _ => rfl,rfl⟩
      (.single ⟨fun _ _ _ _ => rfl,rfl⟩)))
  · match j with
    | 0 | 1 | 2 => rfl
    | j + 3 => rfl
  · match j with
    | 0 | 1 => rfl
    | j + 2 => rfl

/-- One round of three nodes. -/
theorem carried_on_row : threeInRow.Serves (fun i => ((inRow setUpByAll).node i).installed) 1
    (later (.input 0 around (.timer 0 1) :: crossings)) :=
  (carried_on threeInRow _ 0 hosts _ [around] serves_hosts (.single round_hosts)).1

end Network
end Mnslp.Session
