import Mnslp.Lib.Keyed
import Mnslp.Session.SessionTable

/-! The sessions of a node do not disturb one another: what the dispatcher does for one
session, it does as if the node had no other, in whatever order the others get their events. -/
namespace Mnslp.Session
open Mnslp.Lib Mnslp.Msg

/-- What is left of a session after an event, and what the dispatcher has done. -/
def NodeSession.settle (net : Network) (i : Nat) (d : Dispatcher) (s : NodeSession) (evt : Event) :
    Call (Option NodeSession × Reply) :=
  match s.processEvent net i d evt with
  | .ok (next,actions) => .ok (if next.isFinal then none else some next,.actions actions)
  | .error (.thrown _) => .ok (none,.actions (s.sentBeforeThrow evt))
  | .error stop => .error stop

/-- One entry of the session table on its own, and the event for it. -/
def entryStep (net : Network) (i : Nat) (d : Dispatcher) (randomNumber : UInt32) (key : SessionId)
    (entry : Option NodeSession) (evt : Event) : Call (Option NodeSession × Reply) :=
  match entry with
  | some s => s.settle net i d evt
  | none =>
    match evt with
    | .apiConfigure _ => (NodeSession.initiator (.new key net.niConf randomNumber)).settle net i d evt
    | .msg m forThisNode =>
      if m.msg.kind = .configure then
        (if forThisNode then NodeSession.responder (.new key net.nrConf) else .forwarder (.new key)).settle net i d evt
      else .ok (none,.actions [])
    | _ => .ok (none,.actions [])

namespace SessionTable

def put (table : SessionTable) (key : SessionId) : Option NodeSession → SessionTable
  | some s => table.set key s
  | none => table.erase key

/-- The table with at most one session. -/
def only (key : SessionId) (entry : Option NodeSession) : SessionTable := put .empty key entry

/-- The table without the other sessions. -/
def part (key : SessionId) (table : SessionTable) : SessionTable := only key (table.find key)

section
variable (table : SessionTable) (key : SessionId) (entry : Option NodeSession)

@[simp] theorem find_put_self : (table.put key entry).find key = entry := by
  cases entry with
  | some s => exact OrderedMap.find_set_self ..
  | none => exact OrderedMap.find_erase_self ..

theorem find_put_other {other : SessionId} (different : other ≠ key) :
    (table.put key entry).find other = table.find other := by
  cases entry with
  | some s => exact OrderedMap.find_set_other _ _ _ _ (rank_ne different)
  | none => exact OrderedMap.find_erase_other _ _ _ (rank_ne different)

@[simp] theorem find_only : (only key entry).find key = entry := find_put_self ..

end

private theorem ext {a b : SessionTable} (same : ∀ key, a.find key = b.find key) : a = b :=
  OrderedMap.ext_find (fun _ _ ranks => not_not.mp fun different => rank_ne different ranks) same

theorem eq_put {table next : SessionTable} {key : SessionId}
    (others : ∀ other, other ≠ key → next.find other = table.find other) : next = table.put key (next.find key) := by
  apply ext
  intro probe
  by_cases same : probe = key
  · rw [same,find_put_self]
  · rw [find_put_other _ _ _ same,others probe same]

theorem put_find (table : SessionTable) (key : SessionId) : table.put key (table.find key) = table :=
  (eq_put fun _ _ => rfl).symm

theorem put_put (table : SessionTable) (key : SessionId) (first second : Option NodeSession) :
    (table.put key first).put key second = table.put key second := by
  apply ext
  intro probe
  by_cases same : probe = key
  · rw [same,find_put_self,find_put_self]
  · rw [find_put_other _ _ _ same,find_put_other _ _ _ same,find_put_other _ _ _ same]

theorem filed_part {table : SessionTable} (filed : table.Filed) (key : SessionId) : (part key table).Filed := by
  intro id s found
  by_cases same : id = key
  · subst same
    rw [part,find_only] at found
    exact filed id s found
  · rw [part,only,find_put_other _ _ _ same] at found
    cases found

/-- The session that an event is for: the one that it names or, for an API configure that
names none in the table, the one whose id is drawn. -/
def owner (table : SessionTable) (arrived : Arrived) : Option SessionId :=
  match arrived.arrival with
  | .event sid (.apiConfigure _) =>
    match sid.filter fun key => (table.find key).isSome with
    | some key => some key
    | none => arrived.draws.ids.find? fun id => (table.find id).isNone
  | .event sid _ => sid
  | _ => none

/-- The event for a session, when its id is drawn at once. -/
def drawing (key : SessionId) (arrived : Arrived) : Arrived := {arrived with draws := {arrived.draws with ids := [key]}}

variable {net : Network} {i : Nat} {d : Dispatcher} {draws : Draws} {table next : SessionTable} {reply : Reply}

theorem processSession_eq {s : NodeSession} {evt : Event} (present : (table.find s.id).isSome = true) :
    processSession net i d table s.id s evt =
      (s.settle net i d evt).map fun settled => (table.put s.id settled.1,settled.2) := by
  unfold processSession NodeSession.settle
  cases processed : s.processEvent net i d evt with
  | ok result =>
    obtain ⟨s',actions⟩ := result
    have same : s'.id = s.id := NodeSession.id_processEvent processed
    dsimp only
    split
    · simp only [removeSession,same,OrderedMap.find_set_self,Option.isSome_some,if_true,Call.ok_bind,Call.pure_eq]
      exact congrArg (fun table => Except.ok (table,Reply.actions actions)) (put_put table s.id (some s') none)
    · rfl
  | error stop =>
    cases stop with
    | thrown exception =>
      dsimp only
      rw [removeSession,if_pos present]
      rfl
    | _ => rfl

private theorem process_present {key : SessionId} {s : NodeSession} {evt : Event} (filed : table.Filed)
    (found : table.find key = some s) : process net i d draws table (.event (some key) evt) =
      (s.settle net i d evt).map fun settled => (table.put key settled.1,settled.2) := by
  obtain rfl := (filed key s found).2
  unfold process
  rw [if_neg (by simp [Arrival.sid])]
  simp only [Option.bind_some,getSession,found,Option.map_some]
  exact processSession_eq (by rw [found]; rfl)

section
variable {sid : Option SessionId} {evt : Event} (absent : sid.bind table.find = none)
  (addressed : (Arrival.event sid evt).isMsg = true → sid ≠ none)
include absent addressed

private theorem process_absent : process net i d draws table (.event sid evt) = (do
    match ← createSession net draws table sid evt with
    | some (table,s) => processSession net i d table s.id s evt
    | none => return (table,.actions [])) := by
  unfold process
  rw [if_neg fun ⟨message,unnamed⟩ => addressed message unnamed]
  have unknown : (sid.bind fun key => (table.getSession key).map fun s => (key,s)) = none := by
    cases sid with
    | none => rfl
    | some key => simpa [getSession] using absent
  revert unknown
  dsimp only
  generalize (sid.bind fun key => (table.getSession key).map fun s => (key,s)) = found
  rintro rfl
  rfl

private theorem process_created {s : NodeSession}
    (created : createSession net draws table sid evt = .ok (some (table.set s.id s,s))) :
    process net i d draws table (.event sid evt) =
      (s.settle net i d evt).map fun settled => (table.put s.id settled.1,settled.2) := by
  rw [process_absent absent addressed,created,Call.ok_bind]
  dsimp only
  rw [processSession_eq (by rw [OrderedMap.find_set_self]; rfl)]
  exact congrArg (fun f => (s.settle net i d evt).map f) (funext fun settled =>
    congrArg (·,settled.2) (put_put table s.id (some s) settled.1))

private theorem process_discarded (uncreated : createSession net draws table sid evt = .ok none) :
    process net i d draws table (.event sid evt) = .ok (table,.actions []) := by
  rw [process_absent absent addressed,uncreated]
  rfl

end

private theorem process_opening {sid : Option SessionId} {e : ApiConfigure} {key : SessionId}
    (absent : sid.bind table.find = none) (drawn : draws.ids.find? (fun id => (table.find id).isNone) = some key) :
    process net i d draws table (.event sid (.apiConfigure e)) =
      (entryStep net i d draws.randomNumber key (table.find key) (.apiConfigure e)).map fun settled =>
        (table.put key settled.1,settled.2) := by
  have fresh : table.find key = none := by simpa using List.find?_some drawn
  have created : createSession net draws table sid (.apiConfigure e) =
      .ok (some (table.set key (.initiator (.new key net.niConf draws.randomNumber)),
        .initiator (.new key net.niConf draws.randomNumber))) := by
    simp only [createSession,createNiSession,createUniqueId,drawn,Call.ok_bind]
    rfl
  rw [process_created (s := .initiator (.new key net.niConf draws.randomNumber)) absent (by simp [Arrival.isMsg]) created,
    fresh]
  rfl

private theorem process_named {key : SessionId} {evt : Event} (filed : table.Filed)
    (handed : ∀ e, evt ≠ .apiConfigure e) : process net i d draws table (.event (some key) evt) =
      (entryStep net i d draws.randomNumber key (table.find key) evt).map fun settled =>
        (table.put key settled.1,settled.2) := by
  cases found : table.find key with
  | some s => exact process_present filed found
  | none =>
    have absent : (some key).bind table.find = none := found
    have unchanged : table.put key none = table := found ▸ table.put_find key
    have discarded (uncreated : createSession net draws table (some key) evt = .ok none) :
        process net i d draws table (.event (some key) evt) = .ok (table.put key none,.actions []) := by
      rw [unchanged]
      exact process_discarded absent (by simp) uncreated
    cases evt with
    | apiConfigure e => exact absurd rfl (handed e)
    | msg m forThisNode =>
      by_cases configure : m.msg.kind = .configure
      · simp only [entryStep,if_pos configure]
        cases forThisNode with
        | true => exact process_created absent (by simp) (by simp only [createSession,if_pos configure]; rfl)
        | false => exact process_created absent (by simp) (by simp only [createSession,if_pos configure]; rfl)
      · simp only [entryStep,if_neg configure]
        exact discarded (by simp only [createSession,if_neg configure])
    | _ => exact discarded rfl

/-- For the session that it is for, an event does what it does to its entry alone. -/
theorem process_eq {arrived : Arrived} {key : SessionId} (filed : table.Filed) (owned : table.owner arrived = some key) :
    ∃ sid evt, arrived.arrival = .event sid evt ∧ process net i arrived.d arrived.draws table arrived.arrival =
      (entryStep net i arrived.d arrived.draws.randomNumber key (table.find key) evt).map fun settled =>
        (table.put key settled.1,settled.2) := by
  unfold owner at owned
  cases event : arrived.arrival with
  | routingStateCheck sid mri =>
    rw [event] at owned
    cases owned
  | invalidMsg sid envelope mri =>
    rw [event] at owned
    cases owned
  | event sid evt =>
    refine ⟨sid,evt,rfl,?_⟩
    rw [event] at owned
    cases evt with
    | apiConfigure e =>
      dsimp only at owned
      split at owned
      · rename_i found
        cases owned
        obtain ⟨named,present⟩ := Option.filter_eq_some_iff.mp found
        obtain ⟨s,found⟩ := Option.isSome_iff_exists.mp present
        rw [named,process_present filed found,found]
        rfl
      · rename_i unfiled
        refine process_opening ?_ owned
        cases sid with
        | none => rfl
        | some id => simpa using unfiled
    | _ =>
      cases owned
      exact process_named filed (by simp)

private theorem process_ownerless {arrived : Arrived} (unowned : table.owner arrived = none)
    (ok : process net i arrived.d arrived.draws table arrived.arrival = .ok (next,reply)) : next = table := by
  unfold owner at unowned
  cases event : arrived.arrival with
  | routingStateCheck sid mri =>
    rw [event] at ok
    cases sid <;> cases mri <;> cases ok
    rfl
  | invalidMsg sid envelope mri =>
    rw [event] at ok
    cases sid <;> cases ok
    rfl
  | event sid evt =>
    rw [event] at unowned ok
    cases evt with
    | apiConfigure e =>
      dsimp only at unowned
      split at unowned
      · cases unowned
      · rename_i unfiled
        have absent : sid.bind table.find = none := by
          cases sid with
          | none => rfl
          | some id => simpa using unfiled
        rw [process_absent absent (by simp [Arrival.isMsg])] at ok
        simp only [createSession,createNiSession,createUniqueId,unowned] at ok
        cases ok
    | msg m forThisNode =>
      cases unowned
      cases ok
    | _ =>
      cases unowned
      rw [process_discarded rfl (by simp [Arrival.isMsg]) rfl] at ok
      cases ok
      rfl

private theorem owner_part {arrived : Arrived} {key : SessionId} (owned : table.owner arrived = some key) :
    (part key table).owner (drawing key arrived) = some key := by
  unfold owner drawing part at *
  cases event : arrived.arrival with
  | event sid evt =>
    rw [event] at owned
    cases evt with
    | apiConfigure e =>
      dsimp only at owned ⊢
      split at owned
      · rename_i found
        cases owned
        obtain ⟨rfl,present⟩ := Option.filter_eq_some_iff.mp found
        have known : (some key).filter (fun id => ((only key (table.find key)).find id).isSome) = some key := by
          simpa [Option.filter_eq_some_iff] using present
        simp only [known]
      · rename_i unfiled
        have fresh : table.find key = none := by simpa using List.find?_some owned
        have unknown : (sid.filter fun id => ((only key (table.find key)).find id).isSome) = none := by
          rw [Option.filter_eq_none_iff]
          intro id _
          by_cases same : id = key
          · simp [same,fresh]
          · simp [only,find_put_other _ _ _ same]
        simp only [unknown]
        simp [fresh]
    | _ => exact owned
  | _ =>
    rw [event] at owned
    cases owned

/-- A step of the dispatcher, with what it did. -/
def Answers (net : Network) (i : Nat) (table : SessionTable) (answered : Arrived × Reply) (next : SessionTable) : Prop :=
  process net i answered.1.d answered.1.draws table answered.1.arrival = .ok (next,answered.2)

/-- A step of the dispatcher changes the entry of one session, and in the table with this
session alone it does the same. -/
theorem answers_own {answered : Arrived × Reply} {key : SessionId} (filed : table.Filed)
    (answers : Answers net i table answered next) (owned : table.owner answered.1 = some key) :
    Answers net i (part key table) (drawing key answered.1,answered.2) (part key next) ∧
      ∀ other, other ≠ key → next.find other = table.find other := by
  obtain ⟨sid,evt,event,whole⟩ := process_eq filed owned
  obtain ⟨sid',evt',event',alone⟩ := process_eq (filed_part filed key) (owner_part owned)
  cases event.symm.trans event'
  unfold Answers at answers ⊢
  rw [whole] at answers
  rw [alone,part,find_only]
  cases ended : entryStep net i answered.1.d answered.1.draws.randomNumber key (table.find key) evt with
  | error stop =>
    rw [ended] at answers
    cases answers
  | ok settled =>
    rw [ended] at answers
    obtain ⟨rfl,replied⟩ := Prod.mk.inj (Except.ok.inj answers)
    refine ⟨?_,fun other different => find_put_other _ _ _ different⟩
    rw [part,find_put_self,← replied]
    refine (congrArg (Except.map _) ended).trans ?_
    exact congrArg (fun table => Except.ok (table,settled.2)) (put_put _ _ _ _)

theorem answers_other {answered : Arrived × Reply} {key : SessionId} (filed : table.Filed)
    (answers : Answers net i table answered next) (foreign : table.owner answered.1 ≠ some key) :
    next.find key = table.find key := by
  cases owned : table.owner answered.1 with
  | none => rw [process_ownerless owned answers]
  | some other =>
    refine (answers_own filed answers owned).2 key fun same => foreign ?_
    rw [owned,same]

theorem Answers.filed {answered : Arrived × Reply} (filed : table.Filed) (answers : Answers net i table answered next) :
    next.Filed := filed_process filed answers

/-- In every run of the dispatcher, what it did for the events of one session it does as
well when they are all that it gets, and the session ends as it did. -/
theorem isolated (net : Network) (i : Nat) (key : SessionId) (events : List (Arrived × Reply)) (table : SessionTable)
    (run : Run (Answers net i) .empty events table) :
    ∃ mine, Share (Answers net i) (fun table answered => table.owner answered.1)
        (fun answered => (drawing key answered.1,answered.2)) key .empty events mine table ∧
      Run (Answers net i) .empty mine (part key table) := by
  obtain ⟨mine,share⟩ := Share.of_run run
  refine ⟨mine,share,?_⟩
  have nothing : part key .empty = .empty := rfl
  rw [← nothing]
  refine share.component (part key) (Answers net i) Filed ?_ ?_ ?_ filed_empty
  · exact fun _ _ _ filed answers => Answers.filed filed answers
  · exact fun _ _ _ filed answers owned => (answers_own filed answers owned).1
  · exact fun _ _ _ filed answers foreign => congrArg (only key) (answers_other filed answers foreign)

/-- The session that an event is for, where this does not depend on the table. -/
def named (arrived : Arrived) : Option SessionId :=
  match arrived.arrival with
  | .event none (.apiConfigure _) => arrived.draws.ids.head?
  | .event sid _ => sid
  | _ => none

/-- An API configure names no session, and its id is drawn at once. -/
def Fixed (arrived : Arrived) : Prop :=
  ∀ sid e, arrived.arrival = .event sid (.apiConfigure e) → sid = none ∧ ∃ id, arrived.draws.ids = [id]

theorem owner_eq_named {arrived : Arrived} (fixed : Fixed arrived)
    (ok : process net i arrived.d arrived.draws table arrived.arrival = .ok (next,reply)) :
    table.owner arrived = named arrived := by
  unfold owner named
  cases event : arrived.arrival with
  | event sid evt =>
    cases evt with
    | apiConfigure e =>
      obtain ⟨rfl,id,drawn⟩ := fixed sid e event
      by_cases fresh : table.find id = none
      · simp [drawn,fresh]
      · rw [event,process_absent rfl (by simp [Arrival.isMsg])] at ok
        simp only [createSession,createNiSession,createUniqueId,drawn] at ok
        rw [List.find?_cons_of_neg (by simpa using fresh)] at ok
        cases ok
    | _ => cases sid <;> rfl
  | _ => rfl

/-- A step of the entry of one session, for an event whose session is fixed. -/
structure EntryAnswers (net : Network) (i : Nat) (key : SessionId) (entry : Option NodeSession)
    (answered : Arrived × Reply) (next : Option NodeSession) : Prop where
  fixed : Fixed answered.1
  step : ∃ sid evt, answered.1.arrival = .event sid evt ∧
    entryStep net i answered.1.d answered.1.draws.randomNumber key entry evt = .ok (next,answered.2)
  fresh : ∀ sid e, answered.1.arrival = .event sid (.apiConfigure e) → entry = none

private theorem entryAnswers_of_answers {answered : Arrived × Reply} {key : SessionId} (filed : table.Filed)
    (fixed : Fixed answered.1) (answers : Answers net i table answered next) (own : named answered.1 = some key) :
    EntryAnswers net i key (table.find key) answered (next.find key) := by
  have owned : table.owner answered.1 = some key := (owner_eq_named fixed answers).trans own
  obtain ⟨sid,evt,event,whole⟩ := process_eq filed owned
  refine ⟨fixed,⟨sid,evt,event,?_⟩,fun sid' e opening => ?_⟩
  · unfold Answers at answers
    rw [whole] at answers
    cases ended : entryStep net i answered.1.d answered.1.draws.randomNumber key (table.find key) evt with
    | error stop =>
      rw [ended] at answers
      cases answers
    | ok settled =>
      rw [ended] at answers
      obtain ⟨rfl,replied⟩ := Prod.mk.inj (Except.ok.inj answers)
      rw [find_put_self,← replied]
  · obtain ⟨rfl,_⟩ := fixed sid' e opening
    simp only [owner,opening,Option.filter_none] at owned
    simpa using List.find?_some owned

private theorem EntryAnswers.answers {answered : Arrived × Reply} {key : SessionId} {entry : Option NodeSession}
    (taken : EntryAnswers net i key (table.find key) answered entry) (filed : table.Filed)
    (own : named answered.1 = some key) : Answers net i table answered (table.put key entry) := by
  obtain ⟨sid,evt,event,step⟩ := taken.step
  have owned : table.owner answered.1 = some key := by
    cases evt with
    | apiConfigure e =>
      obtain ⟨rfl,id,drawn⟩ := taken.fixed sid e event
      have fresh := taken.fresh none e event
      simp only [named,event,drawn,List.head?_cons,Option.some.injEq] at own
      subst own
      simp [owner,event,drawn,fresh]
    | _ =>
      unfold named at own
      unfold owner
      rw [event] at own ⊢
      cases sid <;> exact own
  obtain ⟨sid',evt',event',whole⟩ := process_eq filed owned
  cases event.symm.trans event'
  unfold Answers
  rw [whole,step]
  rfl

private theorem process_unnamed {arrived : Arrived} {other : SessionTable} (fixed : Fixed arrived)
    (unnamed : named arrived = none) (ok : process net i arrived.d arrived.draws table arrived.arrival = .ok (next,reply)) :
    process net i arrived.d arrived.draws other arrived.arrival = .ok (other,reply) := by
  unfold named at unnamed
  cases event : arrived.arrival with
  | event sid evt =>
    rw [event] at unnamed ok
    cases sid with
    | some id =>
      cases evt with
      | apiConfigure e => cases (fixed _ e event).1
      | _ => cases unnamed
    | none =>
      cases evt with
      | apiConfigure e =>
        obtain ⟨_,id,drawn⟩ := fixed _ e event
        rw [drawn] at unnamed
        cases unnamed
      | msg m forThisNode => cases ok
      | _ =>
        rw [process_discarded rfl (by simp [Arrival.isMsg]) rfl] at ok ⊢
        cases ok
        rfl
  | routingStateCheck sid mri =>
    rw [event] at ok
    cases sid <;> cases mri <;> cases ok
    rfl
  | invalidMsg sid envelope mri =>
    rw [event] at ok
    cases sid <;> cases ok
    rfl

/-- The dispatcher does the same for every session, and ends with the same table, in every
other order of the events that keeps those of each session in theirs. -/
theorem schedule_independent (net : Network) (i : Nat) (events others : List (Arrived × Reply))
    (start table : SessionTable) (filed : start.Filed) (fixed : ∀ answered ∈ events, Fixed answered.1)
    (run : Run (Answers net i) start events table)
    (same : ∀ key, (others.filter fun answered => named answered.1 = key) =
      events.filter fun answered => named answered.1 = key) :
    Run (Answers net i) start others table := by
  have among (answered : Arrived × Reply) (member : answered ∈ others) : answered ∈ events := by
    have kept : answered ∈ others.filter fun other => named other.1 = named answered.1 :=
      List.mem_filter.mpr ⟨member,by simp⟩
    rw [same] at kept
    exact List.mem_of_mem_filter kept
  have guarded : Run (fun table answered next => Fixed answered.1 ∧ Answers net i table answered next) start events table :=
    run.mono_mem fun answered member _ _ answers => ⟨fixed answered member,answers⟩
  have components (key : SessionId) :
      Run (EntryAnswers net i key) (start.find key) (others.filter fun answered => named answered.1 = some key)
        (table.find key) := by
    obtain ⟨mine,share⟩ : ∃ mine, Share (fun table answered next => Fixed answered.1 ∧ Answers net i table answered next)
        (fun _ answered => named answered.1) id key start events mine table := Share.of_run guarded
    rw [same,← share.eq_filter]
    refine share.component (fun table => table.find key) (EntryAnswers net i key) Filed ?_ ?_ ?_ filed
    · exact fun _ _ _ filed taken => Answers.filed filed taken.2
    · exact fun _ _ _ filed taken own => entryAnswers_of_answers filed taken.1 taken.2 own
    · intro table answered next filed taken foreign
      rw [← owner_eq_named taken.1 taken.2] at foreign
      exact answers_other filed taken.2 foreign
  have ownerless (answered : Arrived × Reply) (member : answered ∈ others) (unnamed : named answered.1 = none)
      (other : SessionTable) (_ : other.Filed) : Answers net i other answered other := by
    obtain ⟨before,after,answers⟩ := run.step_of_mem (among answered member)
    exact process_unnamed (fixed answered (among answered member)) unnamed answers
  obtain ⟨final,ran,ends⟩ := Run.assemble (fun answered : Arrived × Reply => named answered.1) OrderedMap.find Filed
    (fun _ _ _ filed answers => Answers.filed filed answers)
    (fun table answered key entry filed own taken => ⟨put table key entry,EntryAnswers.answers taken filed own,
      find_put_self .., fun other different => find_put_other _ _ _ different⟩) ownerless filed components
  rwa [← show final = table from ext fun key => congrFun ends key]

private def crossroads : Network where
  forwarders := 1
  niConf := ⟨30,3,10⟩
  nfConf _ := ⟨100⟩
  nrConf := ⟨100⟩
  id := 0
  randomNumber := 0

private def opening (id : SessionId) : Arrived :=
  ⟨.willing,⟨[],0⟩,.event (some id) (.msg (.sample .configure 1 60) false)⟩

private theorem named_opening (id : SessionId) : named (opening id) = some id := rfl

private def served (table : SessionTable) (arrived : Arrived) : SessionTable × Reply :=
  match process crossroads 1 arrived.d arrived.draws table arrived.arrival with
  | .ok result => result
  | .error _ => (table,.actions [])

/-- A forwarder opens two sessions. -/
private theorem crossing : Run (Answers crossroads 1) .empty
    [(opening 7,(served .empty (opening 7)).2),(opening 8,(served (served .empty (opening 7)).1 (opening 8)).2)]
    (served (served .empty (opening 7)).1 (opening 8)).1 := .cons rfl (.cons rfl (.nil _))

theorem isolated_two : ∃ events table, Run (Answers crossroads 1) .empty events table ∧ table.size = 2 ∧
    ∃ mine, Run (Answers crossroads 1) .empty mine (part 8 table) := by
  obtain ⟨mine,_,alone⟩ := isolated crossroads 1 8 _ _ crossing
  exact ⟨_,_,crossing,rfl,mine,alone⟩

/-- It may as well open the second one first. -/
theorem schedule_independent_two : ∃ first second table,
    Run (Answers crossroads 1) .empty [(opening 7,first),(opening 8,second)] table ∧
      Run (Answers crossroads 1) .empty [(opening 8,second),(opening 7,first)] table := by
  refine ⟨_,_,_,crossing,schedule_independent crossroads 1 _ _ _ _ filed_empty ?_ crossing fun key => ?_⟩
  · intro answered member sid e event
    rcases List.mem_cons.mp member with rfl | member
    · cases event
    · cases List.mem_singleton.mp member
      cases event
  · by_cases seven : key = some 7
    · subst seven
      rfl
    · by_cases eight : key = some 8
      · subst eight
        rfl
      · have not7 : ¬ (some 7 : Option SessionId) = key := Ne.symm seven
        have not8 : ¬ (some 8 : Option SessionId) = key := Ne.symm eight
        simp only [List.filter_cons,List.filter_nil,named_opening,not7,not8,decide_false,Bool.false_eq_true,if_false]

end SessionTable
end Mnslp.Session
