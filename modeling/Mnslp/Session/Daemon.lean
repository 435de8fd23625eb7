import Mnslp.Lib.Enactment
import Mnslp.Session.Isolation
import Mnslp.Session.Mapper

/-! A whole node, after `mnslp_daemon::main_loop`: a message from its queue becomes an event, the dispatcher
hands the event to a session, and what the session sends is written for the next node. To one session such a
node is a node of its path. -/
namespace Mnslp.Session
open Mnslp.Lib Mnslp.Msg

/-- What a turn of the main loop finds around it. -/
structure Surroundings where
  d : Dispatcher
  draws : Draws := ⟨[],0⟩
  env : ParseEnv := fun _ => {}
  siiHandle : UInt32 := 0

/-- A node with its sessions, and the rule keys that its meter holds for each of them. -/
structure Daemon where
  table : SessionTable
  filed : table.Filed
  meter : SessionId → List String

def Reply.toActions : Reply → List Action
  | .acceptQuery _ _ => []
  | .actions list => list

namespace Daemon

/-- What the meter has been told by a session. -/
def told (meter : SessionId → List String) (sid : Option SessionId) (actions : List Action) : SessionId → List String :=
  match sid with
  | some sid => Function.update meter sid (actions.foldl Action.meter (meter sid))
  | none => meter

def process (net : Network) (i : Nat) (around : Surroundings) (node : Daemon) (arrival : Arrival) : Option (Daemon × List Action) :=
  match ok : SessionTable.process net i around.d around.draws node.table arrival with
  | .ok (table,reply) =>
    some (⟨table,SessionTable.filed_process node.filed ok,told node.meter arrival.sid reply.toActions⟩,reply.toActions)
  | .error _ => none

/-- One turn of the main loop. The node ends with a failed assertion or a fault. -/
def mainLoop (net : Network) (i : Nat) (around : Surroundings) (node : Daemon) (msg : QueueMsg) : Option (Reaction Daemon SendMessage) :=
  match GistkaMapper.mapToEvent around.env msg with
  | .error _ => none
  | .ok none => some ⟨node,[],[]⟩
  | .ok (some arrival) => do
    let (next,actions) ← node.process net i around arrival
    let down ← (Action.sentDown actions).mapM GistkaMapper.createApiMsg
    let up ← (Action.sentUp actions).mapM GistkaMapper.createApiMsg
    return ⟨next,down,up⟩

/-- What the node is to a session. -/
def view (key : SessionId) (node : Daemon) : Node := ⟨node.table.find key,node.meter key⟩

end Daemon

namespace Network

/-- Whole nodes in a row. The last one is told that the messages are for it. -/
def daemons (net : Network) : ChainRules Daemon SendMessage Surroundings QueueMsg where
  receive i around sent node := node.mainLoop net i around (.api (sent.received around.siiHandle (i = net.forwarders + 1)))
  take i around msg node := node.mainLoop net i around msg

/-- The messages of the session, as they are sent and as they are taken. -/
def script (net : Network) : Script NtlpMsg SendMessage Surroundings where
  write := GistkaMapper.createApiMsg
  read around sent :=
    match deserialize around.env sent.data with
    | .ok (.object m) =>
      if sent.sid.value = net.id then some ⟨net.id,sent.mri,around.siiHandle,m⟩ else none
    | _ => none

end Network

theorem NodeSession.foldl_sentBeforeThrow (s : NodeSession) (evt : Event) (installed : List String) :
    (s.sentBeforeThrow evt).foldl Action.meter installed = installed := by
  unfold sentBeforeThrow
  split
  · split
    · split
      · split <;> rfl
      · rfl
    · rfl
  · rfl

section
variable {net : Network} {i : Nat} {around : Surroundings} {node : Daemon} {key : SessionId} {s : NodeSession} {evt : Event}
  {r : Reaction Node NtlpMsg}

/-- A node of the path and an entry of the session table. -/
theorem Network.settle_of_react {d : Dispatcher} {installed : List String} (reacts : net.react i d evt installed s = some r) :
    ∃ actions, s.settle net i d evt = .ok (r.node.session,.actions actions) ∧
      actions.foldl Action.meter installed = r.node.installed ∧
      r.down = Action.sentDown actions ∧ r.up = Action.sentUp actions := by
  unfold react at reacts
  unfold NodeSession.settle
  cases processed : s.processEvent net i d evt with
  | ok result =>
    obtain ⟨next,actions⟩ := result
    rw [processed] at reacts
    cases reacts
    exact ⟨actions,rfl,rfl,rfl,rfl⟩
  | error stop =>
    rw [processed] at reacts
    cases stop with
    | thrown exception =>
      cases reacts
      exact ⟨s.sentBeforeThrow evt,rfl,s.foldl_sentBeforeThrow evt installed,rfl,rfl⟩
    | _ => cases reacts

namespace Daemon

theorem process_of_ok {arrival : Arrival} {table : SessionTable} {reply : Reply}
    (ok : SessionTable.process net i around.d around.draws node.table arrival = .ok (table,reply)) :
    node.process net i around arrival =
      some (⟨table,SessionTable.filed_process node.filed ok,told node.meter arrival.sid reply.toActions⟩,reply.toActions) := by
  unfold process
  split
  · rename_i other again
    cases ok.symm.trans again
    rfl
  · rename_i again
    cases ok.symm.trans again

theorem process_of_react (found : node.table.find key = some s)
    (reacts : net.react i around.d evt (node.meter key) s = some r) : ∃ next actions,
      node.process net i around (.event (some key) evt) = some (next,actions) ∧ next.view key = r.node ∧
        r.down = Action.sentDown actions ∧ r.up = Action.sentUp actions := by
  obtain ⟨actions,settled,meter,down,up⟩ := Network.settle_of_react reacts
  have owned : node.table.owner ⟨around.d,around.draws,.event (some key) evt⟩ = some key := by
    cases evt with
    | apiConfigure e => simp only [SessionTable.owner,Option.filter_some,found,Option.isSome_some,if_true]
    | _ => rfl
  obtain ⟨sid,evt',arrives,ok⟩ := @SessionTable.process_eq net i node.table ⟨around.d,around.draws,.event (some key) evt⟩ key
    node.filed owned
  cases arrives
  rw [found,entryStep,settled] at ok
  refine ⟨_,_,process_of_ok ok,?_,down,up⟩
  exact congrArg₂ Node.mk (SessionTable.find_put_self ..) ((Function.update_self ..).trans meter)

theorem mainLoop_of_react {msg : QueueMsg} {down up : List SendMessage} (found : node.table.find key = some s)
    (mapped : GistkaMapper.mapToEvent around.env msg = .ok (some (.event (some key) evt)))
    (reacts : net.react i around.d evt (node.meter key) s = some r)
    (wroteDown : r.down.mapM GistkaMapper.createApiMsg = some down)
    (wroteUp : r.up.mapM GistkaMapper.createApiMsg = some up) :
    ∃ next, node.mainLoop net i around msg = some ⟨next,down,up⟩ ∧ next.view key = r.node := by
  obtain ⟨next,actions,processed,same,sentDown,sentUp⟩ := process_of_react found reacts
  rw [sentDown] at wroteDown
  rw [sentUp] at wroteUp
  refine ⟨next,?_,same⟩
  unfold mainLoop
  simp only [mapped,processed,Option.bind_eq_bind,Option.bind_some,wroteDown,wroteUp,Option.pure_def]

end Daemon

theorem Network.process_of_session {d : Dispatcher} {node : Node} (session : node.session = some s) :
    net.process i d evt node = net.react i d evt node.installed s := by
  simp only [process,session,Option.some_or]

theorem Network.read_eq_some {sent : SendMessage} {m : NtlpMsg} (read : net.script.read around sent = some m) :
    ∃ parsed, deserialize around.env sent.data = .ok (.object parsed) ∧ sent.sid.value = net.id ∧
      m = ⟨net.id,sent.mri,around.siiHandle,parsed⟩ := by
  unfold script at read
  dsimp only at read
  split at read
  · rename_i parsed parses
    split at read
    · rename_i own
      cases read
      exact ⟨parsed,parses,own,rfl⟩
    · cases read
  · cases read

/-- Where a whole node has the session, it does what a node of the path does. -/
theorem Network.enacts_daemons (net : Network) : Enacts net.rules net.daemons net.script (Daemon.view net.id) Surroundings.d
    fun node => node.session.isSome = true where
  receive := by
    intro i around sent m node r down up read there receives wroteDown wroteUp
    obtain ⟨s,found⟩ := Option.isSome_iff_exists.mp there
    obtain ⟨parsed,parses,own,rfl⟩ := read_eq_some read
    have mapped := GistkaMapper.mapToEvent_received parses around.siiHandle (i = net.forwarders + 1)
    rw [own] at mapped
    refine Daemon.mainLoop_of_react found mapped ?_ wroteDown wroteUp
    exact (process_of_session found).symm.trans receives

end
end Mnslp.Session
