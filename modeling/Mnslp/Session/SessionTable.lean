import Mnslp.Session.Life

/-! The session table of a node, after `session_manager.cpp`, and `dispatcher::process`,
which creates sessions, hands them their events and removes them. -/
namespace Mnslp.Session
open Mnslp.Lib Mnslp.Msg

instance : Ranked SessionId := ⟨fun id => id.toNat⟩

abbrev SessionTable := OrderedMap SessionId NodeSession

def NodeSession.id : NodeSession → SessionId
  | .initiator s => s.id
  | .forwarder s => s.id
  | .responder s => s.id

/-- What the creation of an initiator's session draws at random. -/
structure Draws where
  ids : List SessionId
  randomNumber : UInt32

namespace SessionTable
variable (table : SessionTable)

/-- The loop goes on until an id is drawn that no session has. -/
def createUniqueId (draws : Draws) : Call SessionId :=
  match draws.ids.find? fun id => (table.find id).isNone with
  | some id => .ok id
  | none => .error .endless

def createNiSession (conf : NiConfig) (draws : Draws) : Call (SessionTable × NodeSession) := do
  let id ← table.createUniqueId draws
  let s : NodeSession := .initiator (.new id conf draws.randomNumber)
  return (table.set s.id s,s)

def createNfSession (sid : SessionId) : SessionTable × NodeSession :=
  let s : NodeSession := .forwarder (.new sid)
  (table.set s.id s,s)

def createNrSession (conf : NrConfig) (sid : SessionId) : SessionTable × NodeSession :=
  let s : NodeSession := .responder (.new sid conf)
  (table.set s.id s,s)

def getSession (sid : SessionId) : Option NodeSession := table.find sid

-- the id of the removed session is logged
def removeSession (sid : SessionId) : Call SessionTable :=
  if (table.find sid).isSome then .ok (table.erase sid) else Call.fault .nullDereference

end SessionTable

/-- An event in the queue of the dispatcher. The body of a message may be missing. -/
inductive Arrival
  | routingStateCheck (sid : Option SessionId) (mri : Option Mri)
  | invalidMsg (sid : Option SessionId) (envelope : SessionId) (mri : Mri)
  | event (sid : Option SessionId) (evt : Event)

/-- What the dispatcher does for an event apart from the session table. -/
inductive Reply
  | acceptQuery (sid : SessionId) (mri : Mri)
  | actions (list : List Action)

namespace Arrival

def sid : Arrival → Option SessionId
  | .routingStateCheck sid _ => sid
  | .invalidMsg sid _ _ => sid
  | .event sid _ => sid

def isMsg : Arrival → Bool
  | .routingStateCheck _ _ => false
  | .invalidMsg _ _ _ => true
  | .event _ (.msg _ _) => true
  | .event _ _ => false

/-- An API configure or a CONFIGURE. -/
def opens : Arrival → Bool
  | .event _ (.apiConfigure _) => true
  | .event _ (.msg m _) => m.msg.kind = .configure
  | _ => false

end Arrival

namespace SessionTable

/-- `dispatcher::create_session` at node `i`. -/
def createSession (net : Network) (draws : Draws) (table : SessionTable) (sid : Option SessionId) (evt : Event) :
    Call (Option (SessionTable × NodeSession)) :=
  match evt with
  | .apiConfigure _ => do
    let created ← table.createNiSession net.niConf draws
    return some created
  | .msg m forThisNode =>
    if m.msg.kind = .configure then
      match sid with
      | none => Call.fault .nullDereference
      | some id => .ok (some (if forThisNode then table.createNrSession net.nrConf id else table.createNfSession id))
    else .ok none
  | _ => .ok none

/-- The session under `key` is changed in place. It is removed if it throws or is final. -/
def processSession (net : Network) (i : Nat) (d : Dispatcher) (table : SessionTable) (key : SessionId)
    (s : NodeSession) (evt : Event) : Call (SessionTable × Reply) :=
  match s.processEvent net i d evt with
  | .ok (next,actions) =>
    let table : SessionTable := table.set key next
    if next.isFinal then do
      let table ← table.removeSession next.id
      return (table,.actions actions)
    else .ok (table,.actions actions)
  | .error (.thrown _) => do
    let table ← table.removeSession s.id
    return (table,.actions (s.sentBeforeThrow evt))
  | .error stop => .error stop

/-- `dispatcher::process` at node `i`, which takes its configuration from the network. -/
def process (net : Network) (i : Nat) (d : Dispatcher) (draws : Draws) (table : SessionTable) (arrival : Arrival) :
    Call (SessionTable × Reply) :=
  if arrival.isMsg ∧ arrival.sid = none then .error (.assertFailed .sessionId)
  else match arrival with
  | .routingStateCheck sid mri =>
    match sid,mri with
    | some sid,some mri => .ok (table,.acceptQuery sid mri)
    | _,_ => Call.fault .nullDereference
  | .invalidMsg _ envelope mri =>
    .ok (table,.actions [.send ⟨envelope,mri.invertDirection,0,
      (MnslpMsg.new .response).setInformationCode MnslpMsg.scProtocolError 0 0⟩])
  | .event sid evt =>
    match sid.bind fun key => (table.getSession key).map fun s => (key,s) with
    | some (key,s) => processSession net i d table key s evt
    | none => do
      match ← createSession net draws table sid evt with
      | some (table,s) => processSession net i d table s.id s evt
      | none => return (table,.actions [])

end SessionTable

theorem NodeSession.id_processEvent {net : Network} {i : Nat} {d : Dispatcher} {s next : NodeSession} {evt : Event}
    {actions : List Action} (ok : s.processEvent net i d evt = .ok (next,actions)) : next.id = s.id := by
  cases s with
  | initiator s =>
    obtain ⟨s',rfl,step⟩ := initiator_step ok
    cases step with
    | pendingInstalled =>
      rename_i m request result _ _ _ _ _ _
      obtain ⟨interval,adopted⟩ := NiSession.adopting_eq d s m.msg.getSessionLifetime
      simp only [id,adopted]
    | _ => rfl
  | forwarder s =>
    obtain ⟨s',rfl,step⟩ := forwarder_step ok
    cases step with
    | closeAccepted state configure allowed positive accepts => cases accepts; rfl
    | pendingReplaced state configure stored authorized different accepts => cases accepts; rfl
    | _ => rfl
  | responder s =>
    obtain ⟨s',rfl,step⟩ := responder_step ok
    cases step <;> rfl

namespace SessionTable
variable {net : Network} {i : Nat} {d : Dispatcher} {draws : Draws} {table next : SessionTable} {reply : Reply}

theorem rank_ne {a b : SessionId} (different : a ≠ b) : Ranked.rank a ≠ Ranked.rank b := by
  intro same
  apply different
  apply BitVec.eq_of_toNat_eq
  exact Int.ofNat.inj same

theorem removeSession_eq_ok {sid : SessionId} (ok : table.removeSession sid = .ok next) : next = table.erase sid := by
  unfold removeSession at ok
  split at ok <;> cases ok
  rfl

/-- What handling an event makes of the entry of a session, the others being as they were. -/
structure Handled (net : Network) (i : Nat) (d : Dispatcher) (table : SessionTable) (s : NodeSession) (evt : Event)
    (next : SessionTable) : Prop where
  others : ∀ id, id ≠ s.id → next.find id = table.find id
  own : ∀ s', next.find s.id = some s' → s'.isFinal = false ∧ ∃ actions, s.processEvent net i d evt = .ok (s',actions)
  fewer : (table.find s.id).isSome = true → next.size ≤ table.size

theorem handled_of_processSession {s : NodeSession} {evt : Event}
    (ok : processSession net i d table s.id s evt = .ok (next,reply)) : Handled net i d table s evt next := by
  unfold processSession at ok
  split at ok
  · rename_i s' actions processed
    have same : s'.id = s.id := NodeSession.id_processEvent processed
    have others (id : SessionId) (different : id ≠ s.id) : (table.set s.id s').find id = table.find id :=
      OrderedMap.find_set_other _ _ _ _ (rank_ne different)
    have fewer (present : (table.find s.id).isSome = true) : (table.set s.id s').size ≤ table.size := by
      obtain ⟨old,found⟩ := Option.isSome_iff_exists.mp present
      exact Nat.le_of_eq (OrderedMap.size_set_of_find _ _ _ _ found)
    dsimp only at ok
    split at ok
    · obtain ⟨removed,erased,done⟩ := Call.bind_eq_ok.mp ok
      cases done
      rw [removeSession_eq_ok erased,same]
      refine ⟨fun id different => ?_,fun other found => ?_,fun present => ?_⟩
      · rw [OrderedMap.find_erase_other _ _ _ (rank_ne different)]
        exact others id different
      · rw [OrderedMap.find_erase_self] at found
        cases found
      · exact Nat.le_trans (OrderedMap.size_erase_le _ _) (fewer present)
    · rename_i open'
      cases ok
      refine ⟨others,fun other found => ?_,fewer⟩
      rw [OrderedMap.find_set_self] at found
      cases found
      exact ⟨by simpa using open',actions,processed⟩
  · obtain ⟨removed,erased,done⟩ := Call.bind_eq_ok.mp ok
    cases done
    rw [removeSession_eq_ok erased]
    refine ⟨fun id different => ?_,fun other found => ?_,fun _ => OrderedMap.size_erase_le _ _⟩
    · exact OrderedMap.find_erase_other _ _ _ (rank_ne different)
    · rw [OrderedMap.find_erase_self] at found
      cases found
  · cases ok

/-- Every stored session is open and filed under its own id. -/
def Filed (table : SessionTable) : Prop := ∀ id s, table.find id = some s → s.isFinal = false ∧ s.id = id

theorem filed_empty : Filed .empty := by
  intro id s found
  cases found

theorem Handled.filed {s : NodeSession} {evt : Event} (handled : Handled net i d table s evt next)
    (filed : table.Filed) : next.Filed := by
  intro id s' found
  by_cases same : id = s.id
  · rw [same] at found
    obtain ⟨isOpen,actions,processed⟩ := handled.own s' found
    exact ⟨isOpen,(NodeSession.id_processEvent processed).trans same.symm⟩
  · rw [handled.others id same] at found
    exact filed id s' found

private theorem createSession_eq_ok {sid : Option SessionId} {evt : Event} {created : SessionTable} {s : NodeSession}
    (ok : createSession net draws table sid evt = .ok (some (created,s))) :
    created = table.set s.id s ∧ (Arrival.event sid evt).opens = true := by
  unfold createSession at ok
  split at ok
  · obtain ⟨pair,made,done⟩ := Call.bind_eq_ok.mp ok
    obtain ⟨id,unique,built⟩ := Call.bind_eq_ok.mp made
    cases built
    cases done
    exact ⟨rfl,rfl⟩
  · split at ok
    · rename_i kind
      refine ⟨?_,by simpa [Arrival.opens] using kind⟩
      split at ok
      · cases ok
      · split at ok <;> cases ok <;> rfl
    · cases ok
  · cases ok

private theorem process_cases {arrival : Arrival} (filed : table.Filed)
    (ok : process net i d draws table arrival = .ok (next,reply)) :
    (next = table ∧ ∀ id evt, arrival = .event (some id) evt → table.find id = none) ∨
      (∃ s evt, arrival = .event (some s.id) evt ∧ table.find s.id = some s ∧ Handled net i d table s evt next) ∨
      (∃ s sid evt, arrival = .event sid evt ∧ sid.bind table.find = none ∧ arrival.opens = true ∧
        Handled net i d (table.set s.id s) s evt next) := by
  unfold process at ok
  split at ok
  · cases ok
  · split at ok
    · split at ok <;> cases ok
      exact .inl ⟨rfl,fun _ _ same => by cases same⟩
    · cases ok
      exact .inl ⟨rfl,fun _ _ same => by cases same⟩
    · rename_i sid evt _
      split at ok
      · rename_i key s found
        obtain ⟨other,rfl,found⟩ := Option.bind_eq_some_iff.mp found
        obtain ⟨stored,found,same⟩ := Option.map_eq_some_iff.mp found
        cases same
        have own := (filed key s found).2
        subst own
        exact .inr (.inl ⟨s,evt,rfl,found,handled_of_processSession ok⟩)
      · rename_i unknown
        have absent : sid.bind table.find = none := by
          cases sid with
          | none => rfl
          | some id => simpa [getSession] using unknown
        obtain ⟨created,creates,ok⟩ := Call.bind_eq_ok.mp ok
        split at ok
        · obtain ⟨rfl,opens⟩ := createSession_eq_ok creates
          exact .inr (.inr ⟨_,sid,evt,rfl,absent,opens,handled_of_processSession ok⟩)
        · cases ok
          refine .inl ⟨rfl,fun id other same => ?_⟩
          cases same
          exact absent

theorem filed_process {arrival : Arrival} (filed : table.Filed)
    (ok : process net i d draws table arrival = .ok (next,reply)) : next.Filed := by
  rcases process_cases filed ok with ⟨rfl,_⟩ | ⟨s,evt,_,_,handled⟩ | ⟨s,sid,evt,_,_,_,handled⟩
  · exact filed
  · exact handled.filed filed
  · intro id s' found
    by_cases same : id = s.id
    · rw [same] at found
      obtain ⟨isOpen,actions,processed⟩ := handled.own s' found
      exact ⟨isOpen,(NodeSession.id_processEvent processed).trans same.symm⟩
    · rw [handled.others id same,OrderedMap.find_set_other _ _ _ _ (rank_ne same)] at found
      exact filed id s' found

/-- One event: what the dispatcher, the random numbers and the queue gave. -/
structure Arrived where
  d : Dispatcher
  draws : Draws
  arrival : Arrival

def Next (net : Network) (i : Nat) (table : SessionTable) (arrived : Arrived) (next : SessionTable) : Prop :=
  ∃ reply, process net i arrived.d arrived.draws table arrived.arrival = .ok (next,reply)

/-- A CONFIGURE for a session in the table is handed to this session and makes no other. -/
structure Unrepeated (net : Network) (i : Nat) (d : Dispatcher) (table : SessionTable) (s : NodeSession)
    (evt : Event) (next : SessionTable) : Prop where
  fewer : next.size ≤ table.size
  others : ∀ id, id ≠ s.id → next.find id = table.find id
  own : ∀ s', next.find s.id = some s' → ∃ actions, s.processEvent net i d evt = .ok (s',actions)

/-- In every run of the dispatcher the table has open sessions only, each under its own
id; a CONFIGURE opens no second session and an event for an unknown session changes nothing. -/
theorem table_invariant (net : Network) (i : Nat) (events : List Arrived) (table : SessionTable)
    (run : Run (Next net i) .empty events table) :
    table.Filed ∧ ∀ arrived next, Next net i table arrived next →
      (∀ id s m forThisNode, arrived.arrival = .event (some id) (.msg m forThisNode) → m.msg.kind = .configure →
        table.find id = some s → Unrepeated net i arrived.d table s (.msg m forThisNode) next) ∧
      (arrived.arrival.sid.bind table.find = none → arrived.arrival.opens = false → next = table) := by
  have filed : table.Filed :=
    run.invariant Filed (fun _ _ _ filed taken => filed_process filed taken.choose_spec) filed_empty
  refine ⟨filed,fun arrived next ⟨reply,ok⟩ => ⟨fun id s m forThisNode event configure found => ?_,
    fun unknown still => ?_⟩⟩
  · rcases process_cases filed ok with ⟨_,unknown⟩ | ⟨s',evt,same,found',handled⟩ | ⟨s',sid,evt,same,absent,_⟩
    · rw [unknown id _ event] at found
      cases found
    · rw [event] at same
      cases same
      rw [found] at found'
      cases found'
      exact ⟨handled.fewer (by rw [found]; rfl),handled.others,fun s' kept => (handled.own s' kept).2⟩
    · rw [event] at same
      cases same
      rw [Option.bind_some,found] at absent
      cases absent
  · rcases process_cases filed ok with ⟨same,_⟩ | ⟨s',evt,same,found,handled⟩ | ⟨s',sid,evt,same,absent,opens,_⟩
    · exact same
    · rw [same] at unknown
      rw [Arrival.sid,Option.bind_some,found] at unknown
      cases unknown
    · rw [still] at opens
      cases opens

/-- A message for node `i`, which is behind the initiator and on the path of the session. -/
def OnPath (net : Network) (i : Nat) (key : SessionId) (evt : Event) : Prop :=
  (∀ e, evt ≠ .apiConfigure e) ∧ ∀ m forThisNode, evt = .msg m forThisNode →
    m.sid = key ∧ (forThisNode = true ↔ i = net.forwarders + 1) ∧ i ≠ 0 ∧ i ≤ net.forwarders + 1

private theorem react_of_processSession {s : NodeSession} {evt : Event} (installed : List String)
    (ok : processSession net i d table s.id s evt = .ok (next,reply)) :
    ∃ actions r, reply = .actions actions ∧ net.react i d evt installed s = some r ∧
      r.node.session = next.find s.id ∧ r.down = Action.sentDown actions ∧ r.up = Action.sentUp actions := by
  unfold processSession at ok
  split at ok
  · rename_i s' actions processed
    have same : s'.id = s.id := NodeSession.id_processEvent processed
    refine ⟨actions,_,?_,Network.react_of_ok installed processed,?_,rfl,rfl⟩ <;> dsimp only at ok <;>
      split at ok
    · obtain ⟨removed,erased,done⟩ := Call.bind_eq_ok.mp ok
      cases done
      rfl
    · cases ok
      rfl
    · rename_i final
      obtain ⟨removed,erased,done⟩ := Call.bind_eq_ok.mp ok
      cases done
      rw [removeSession_eq_ok erased,same,OrderedMap.find_erase_self]
      exact if_pos final
    · rename_i open'
      cases ok
      rw [OrderedMap.find_set_self]
      exact if_neg open'
  · rename_i exception threw
    obtain ⟨removed,erased,done⟩ := Call.bind_eq_ok.mp ok
    cases done
    rw [removeSession_eq_ok erased,OrderedMap.find_erase_self]
    exact ⟨s.sentBeforeThrow evt,_,rfl,Network.react_of_threw installed threw,rfl,rfl,rfl⟩
  · cases ok

private theorem createSession_onPath {key : SessionId} {evt : Event} (onPath : OnPath net i key evt) :
    createSession net draws table (some key) evt = .ok ((net.createSession i evt).map fun s => (table.set s.id s,s)) := by
  obtain ⟨notApi,message⟩ := onPath
  cases evt with
  | apiConfigure e => exact absurd rfl (notApi e)
  | msg m forThisNode =>
    obtain ⟨rfl,place,later,within⟩ := message m forThisNode rfl
    simp only [createSession,Network.createSession,Event.ofKind]
    by_cases kind : m.msg.kind = .configure
    · rw [if_pos kind,if_pos kind]
      dsimp only
      rw [if_neg later]
      by_cases last : i = net.forwarders + 1
      · rw [if_pos (place.mpr last),if_neg (by omega),if_pos last]
        rfl
      · rw [if_neg (fun here => last (place.mp here)),if_pos (by omega)]
        rfl
    · rw [if_neg kind,if_neg kind]
      rfl
  | _ => rfl

/-- A node of a path does with an event what its dispatcher does to the entry of the session. -/
theorem node_of_table {key : SessionId} {evt : Event} (filed : table.Filed) (onPath : OnPath net i key evt)
    (installed : List String) (ok : process net i d draws table (.event (some key) evt) = .ok (next,reply)) :
    ∃ actions r, reply = .actions actions ∧ net.process i d evt ⟨table.find key,installed⟩ = some r ∧
      r.node.session = next.find key ∧ r.down = Action.sentDown actions ∧ r.up = Action.sentUp actions := by
  unfold process at ok
  unfold Network.process
  rw [if_neg (by simp [Arrival.sid])] at ok
  cases found : table.find key with
  | some s =>
    have own := (filed key s found).2
    subst own
    simp only [Option.bind_some,getSession,found,Option.map_some] at ok
    exact react_of_processSession installed ok
  | none =>
    simp only [Option.bind_some,getSession,found,Option.map_none,createSession_onPath onPath,Call.ok_bind] at ok
    cases created : net.createSession i evt with
    | none =>
      rw [created] at ok
      cases ok
      exact ⟨[],_,rfl,rfl,found.symm,rfl,rfl⟩
    | some s =>
      rw [created] at ok
      have own : s.id = key := by
        obtain ⟨m,configure,place⟩ := Network.createSession_cases created
        obtain ⟨⟨forThisNode,sent⟩,_⟩ := Event.ofKind_eq_some.mp configure
        obtain ⟨same,_⟩ := onPath.2 m forThisNode sent
        rcases place with ⟨_,_,rfl⟩ | ⟨_,rfl⟩ <;> exact same
      subst own
      exact react_of_processSession installed ok

private def alone : Network where
  forwarders := 0
  niConf := ⟨30,3,10⟩
  nfConf _ := ⟨100⟩
  nrConf := ⟨100⟩
  id := 0
  randomNumber := 0

private def resent : Arrived := ⟨.willing,⟨[],0⟩,.event (some 7) (.msg (.sample .configure 1 60) false)⟩

private def strange : Arrived := ⟨.willing,⟨[],0⟩,.event (some 8) .apiTeardown⟩

/-- The table of a node behind which the path goes on. -/
private def after (events : List Arrived) : SessionTable :=
  events.foldl (fun table arrived =>
    match process alone 1 arrived.d arrived.draws table arrived.arrival with
    | .ok (next,_) => next
    | .error _ => table) .empty

/-- A forwarder gets its CONFIGURE again, and then an event for another session. -/
theorem table_invariant_repeated : Next alone 1 (after [resent]) resent (after [resent,resent]) ∧
    (after [resent,resent]).size = 1 ∧ (after [resent]).Filed ∧ (after [resent,resent]).size ≤ (after [resent]).size ∧
    after [resent,strange] = after [resent] := by
  have first : Next alone 1 .empty resent (after [resent]) := ⟨_,rfl⟩
  have again : Next alone 1 (after [resent]) resent (after [resent,resent]) := ⟨_,rfl⟩
  have other : Next alone 1 (after [resent]) strange (after [resent,strange]) := ⟨_,rfl⟩
  obtain ⟨filed,steps⟩ := table_invariant alone 1 _ _ (.single first)
  have unrepeated := (steps _ _ again).1 7 _ _ _ rfl rfl rfl
  have unchanged := (steps _ _ other).2 rfl rfl
  exact ⟨again,rfl,filed,unrepeated.fewer,unchanged⟩

end SessionTable
end Mnslp.Session
