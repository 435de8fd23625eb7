import Mathlib.Logic.Function.Basic
import Mnslp.Session.SessionTable

/-! The session manager with its hash map from session ids to pointers. Its purpose is a
finite map from ids to sessions, but the id of the session that it removes is logged. -/
namespace Mnslp.Session
open Mnslp.Lib Mnslp.Msg

/-- The words of a `session_id`. -/
structure Uint128 where
  w1 : UInt32
  w2 : UInt32
  w3 : UInt32
  w4 : UInt32

namespace Uint128

/-- `operator==` -/
instance : BEq Uint128 := ⟨fun a b => a.w1 == b.w1 && a.w2 == b.w2 && a.w3 == b.w3 && a.w4 == b.w4⟩

/-- `hash<session_id>` -/
instance : Hashable Uint128 := ⟨fun id => (id.w1 ^^^ id.w2 ^^^ id.w3 ^^^ id.w4).toUInt64⟩

/-- Equal ids have equal words, so the hash map finds them in one bucket. -/
instance : LawfulBEq Uint128 where
  rfl {a} := by
    show (a.w1 == a.w1 && a.w2 == a.w2 && a.w3 == a.w3 && a.w4 == a.w4) = true
    simp
  eq_of_beq {a b} same := by
    have words : (a.w1 == b.w1 && a.w2 == b.w2 && a.w3 == b.w3 && a.w4 == b.w4) = true := same
    simp only [Bool.and_eq_true,beq_iff_eq] at words
    obtain ⟨⟨⟨first,second⟩,third⟩,fourth⟩ := words
    cases a
    cases b
    simp_all

instance : DecidableEq Uint128 := instDecidableEqOfLawfulBEq

/-- The id of 128 bits. -/
def value (id : Uint128) : SessionId :=
  BitVec.ofNat 128 (((id.w1.toNat * 2^32 + id.w2.toNat) * 2^32 + id.w3.toNat) * 2^32 + id.w4.toNat)

theorem value_injective {a b : Uint128} (same : a.value = b.value) : a = b := by
  have bounds (w : UInt32) : w.toNat < 2^32 := w.toNat_lt
  have numbers := congrArg BitVec.toNat same
  have first := bounds a.w1
  have second := bounds a.w2
  have third := bounds a.w3
  have fourth := bounds a.w4
  have first' := bounds b.w1
  have second' := bounds b.w2
  have third' := bounds b.w3
  have fourth' := bounds b.w4
  simp only [value,BitVec.toNat_ofNat] at numbers
  rw [Nat.mod_eq_of_lt (by omega),Nat.mod_eq_of_lt (by omega)] at numbers
  have words : a.w1 = b.w1 ∧ a.w2 = b.w2 ∧ a.w3 = b.w3 ∧ a.w4 = b.w4 := by
    simp only [← UInt32.toNat_inj]
    omega
  cases a
  cases b
  simp_all

end Uint128

/-- A pointer to the session that was created with the given index, or NULL. -/
abbrev Pointer := Option Nat

structure SessionManager where
  niConf : NiConfig
  nrConf : NrConfig
  heap : List NodeSession
  table : Std.HashMap Uint128 Pointer

inductive ManagerCall
  | createNiSession (draws : List Uint128) (randomNumber : UInt32)
  | createNfSession (sid : Uint128)
  | createNrSession (sid : Uint128)
  | getSession (sid : Uint128)
  | removeSession (sid : Uint128)

namespace SessionManager
variable (m : SessionManager)

def new (niConf : NiConfig) (nrConf : NrConfig) : SessionManager := ⟨niConf,nrConf,[],∅⟩

/-- The session behind a pointer. -/
def deref (p : Pointer) : Call NodeSession :=
  match p with
  | none => Call.fault .nullDereference
  | some k =>
    match m.heap[k]? with
    | some s => .ok s
    | none => Call.fault .danglingPointer

/-- `session_table[sid]`, which enters NULL for an id that is not there. -/
def bracket (table : Std.HashMap Uint128 Pointer) (sid : Uint128) : Std.HashMap Uint128 Pointer × Pointer :=
  let table := table.insertIfNew sid none
  (table,table.getD sid none)

/-- `session_table[s->get_id()] = s` for a session that was just created. -/
def enter (sid : Uint128) (s : NodeSession) : SessionManager × Pointer :=
  let p : Pointer := some m.heap.length
  ({m with heap := m.heap ++ [s], table := (bracket m.table sid).1.insert sid p},p)

/-- The loop goes on until an id is drawn that is not in the table. -/
def createUniqueId (draws : List Uint128) : Call Uint128 :=
  match draws.find? fun id => !m.table.contains id with
  | some id => .ok id
  | none => .error .endless

def createNiSession (draws : List Uint128) (randomNumber : UInt32) : Call (SessionManager × Pointer) := do
  let id ← m.createUniqueId draws
  return m.enter id (.initiator (.new id.value m.niConf randomNumber))

def createNfSession (sid : Uint128) : SessionManager × Pointer := m.enter sid (.forwarder (.new sid.value))

def createNrSession (sid : Uint128) : SessionManager × Pointer := m.enter sid (.responder (.new sid.value m.nrConf))

def getSession (sid : Uint128) : Pointer :=
  match m.table[sid]? with
  | some p => p
  | none => none

def removeSession (sid : Uint128) : Call (SessionManager × Pointer) := do
  let (table,s) := bracket m.table sid
  let m := {m with table := table.erase sid}
  -- `LogInfo("removed session " << s->get_id())`
  let _ ← m.deref s
  return (m,s)

def run : ManagerCall → Call (SessionManager × Pointer)
  | .createNiSession draws randomNumber => m.createNiSession draws randomNumber
  | .createNfSession sid => .ok (m.createNfSession sid)
  | .createNrSession sid => .ok (m.createNrSession sid)
  | .getSession sid => .ok (m,m.getSession sid)
  | .removeSession sid => m.removeSession sid

end SessionManager

/-- A finite map from ids to sessions, and how many sessions there have been. -/
structure SessionMap where
  find : Uint128 → Option Nat
  created : Nat

namespace SessionMap
variable (map : SessionMap)

def empty : SessionMap := ⟨fun _ => none,0⟩

def enter (sid : Uint128) : SessionMap × Pointer :=
  (⟨Function.update map.find sid (some map.created),map.created + 1⟩,some map.created)

/-- What a call makes of the map, and what it returns. -/
def answer : ManagerCall → SessionMap × Pointer
  | .createNiSession draws _ =>
    match draws.find? fun id => (map.find id).isNone with
    | some id => map.enter id
    | none => (map,none)
  | .createNfSession sid => map.enter sid
  | .createNrSession sid => map.enter sid
  | .getSession sid => (map,map.find sid)
  | .removeSession sid => ({map with find := Function.update map.find sid none},map.find sid)

/-- `RAND_bytes` gives an id in the end that no session has. -/
def FindsUnused (map : SessionMap) : List ManagerCall → Prop
  | [] => True
  | call :: rest =>
    (∀ draws randomNumber, call = .createNiSession draws randomNumber → ∃ id ∈ draws, map.find id = none) ∧
      FindsUnused (map.answer call).1 rest

/-- Only sessions that are there are removed. -/
def RemovesPresent (map : SessionMap) : List ManagerCall → Prop
  | [] => True
  | call :: rest =>
    (∀ sid, call = .removeSession sid → (map.find sid).isSome = true) ∧ RemovesPresent (map.answer call).1 rest

end SessionMap

namespace SessionManager

/-- The table has the entries of the map, and the sessions behind them have these ids. -/
structure Agrees (m : SessionManager) (map : SessionMap) : Prop where
  created : m.heap.length = map.created
  table : ∀ sid, m.table[sid]? = (map.find sid).map some
  sessions : ∀ sid k, map.find sid = some k → ∃ s, m.heap[k]? = some s ∧ s.id = sid.value

/-- All calls return, with the results of the map, and leave a table that agrees with it. -/
def Follows (m : SessionManager) (map : SessionMap) : List ManagerCall → Prop
  | [] => m.Agrees map
  | call :: rest =>
    m.Agrees map ∧ ∃ next, m.run call = .ok (next,(map.answer call).2) ∧ Follows next (map.answer call).1 rest

section
variable {m : SessionManager} {map : SessionMap}

theorem bracket_snd (table : Std.HashMap Uint128 Pointer) (sid : Uint128) : (bracket table sid).2 = table[sid]?.getD none := by
  simp only [bracket,Std.HashMap.getD_insertIfNew]
  split
  · rename_i absent
    rw [Std.HashMap.getElem?_eq_none absent.2]
    rfl
  · exact Std.HashMap.getD_eq_getD_getElem?

theorem bracket_fst_other (table : Std.HashMap Uint128 Pointer) {sid other : Uint128} (different : sid ≠ other) :
    (bracket table sid).1[other]? = table[other]? := by
  simp only [bracket,Std.HashMap.getElem?_insertIfNew]
  exact if_neg fun new => different (beq_iff_eq.mp new.1)

theorem agrees_new (niConf : NiConfig) (nrConf : NrConfig) : (new niConf nrConf).Agrees .empty where
  created := rfl
  table sid := Std.HashMap.getElem?_empty
  sessions sid k found := by cases found

theorem Agrees.find_isNone (agrees : m.Agrees map) (sid : Uint128) : (!m.table.contains sid) = (map.find sid).isNone := by
  rw [Std.HashMap.contains_eq_isSome_getElem?,agrees.table sid]
  cases map.find sid <;> rfl

theorem Agrees.enter (agrees : m.Agrees map) (sid : Uint128) (s : NodeSession) (own : s.id = sid.value) :
    (m.enter sid s).2 = (map.enter sid).2 ∧ (m.enter sid s).1.Agrees (map.enter sid).1 := by
  refine ⟨congrArg some agrees.created,?_,fun other => ?_,fun other k found => ?_⟩
  · simp [SessionManager.enter,SessionMap.enter,agrees.created]
  · simp only [SessionManager.enter,SessionMap.enter,Std.HashMap.getElem?_insert,Function.update_apply,agrees.created]
    by_cases same : sid = other
    · rw [if_pos (beq_iff_eq.mpr same),if_pos same.symm]
      rfl
    · rw [if_neg (by simpa using same),if_neg (Ne.symm same),bracket_fst_other _ same]
      exact agrees.table other
  · simp only [SessionMap.enter,Function.update_apply] at found
    split at found
    · rename_i same
      cases found
      exact ⟨s,by simp [SessionManager.enter,← agrees.created],same ▸ own⟩
    · obtain ⟨old,at',id'⟩ := agrees.sessions other k found
      refine ⟨old,?_,id'⟩
      have below := (List.getElem?_eq_some_iff.mp at').1
      simp only [SessionManager.enter]
      rw [List.getElem?_append_left below,at']

/-- An id that is there is removed, and NULL cannot be logged for one that is not. -/
theorem Agrees.removeSession (agrees : m.Agrees map) (sid : Uint128) :
    (map.find sid = none → m.removeSession sid = Call.fault .nullDereference) ∧
      ∀ k, map.find sid = some k → ∃ next, m.removeSession sid = .ok (next,some k) ∧
        next.Agrees {map with find := Function.update map.find sid none} := by
  have entry := agrees.table sid
  constructor
  · intro absent
    rw [absent] at entry
    have looked : (bracket m.table sid).2 = none := by rw [bracket_snd,entry]; rfl
    simp only [SessionManager.removeSession,looked]
    rfl
  · intro k found
    rw [found] at entry
    have looked : (bracket m.table sid).2 = some k := by rw [bracket_snd,entry]; rfl
    obtain ⟨s,at',_⟩ := agrees.sessions sid k found
    refine ⟨{m with table := (bracket m.table sid).1.erase sid},?_,agrees.created,fun other => ?_,fun other i inside => ?_⟩
    · simp only [SessionManager.removeSession,looked,deref,at']
      rfl
    · simp only [Std.HashMap.getElem?_erase,Function.update_apply]
      by_cases same : sid = other
      · rw [if_pos (beq_iff_eq.mpr same),if_pos same.symm]
        rfl
      · rw [if_neg (by simpa using same),if_neg (Ne.symm same),bracket_fst_other _ same]
        exact agrees.table other
    · simp only [Function.update_apply] at inside
      split at inside
      · cases inside
      · exact agrees.sessions other i inside

/-- The table of ids and sessions that the dispatcher works on. -/
def Shows (m : SessionManager) (table : SessionTable) : Prop :=
  ∀ sid : Uint128, table.find sid.value = (m.getSession sid).bind fun k => m.heap[k]?

theorem Agrees.getSession (agrees : m.Agrees map) (sid : Uint128) : m.getSession sid = map.find sid := by
  simp only [SessionManager.getSession,agrees.table sid]
  cases map.find sid <;> rfl

private theorem rank_ne {a b : Uint128} (different : a ≠ b) : Ranked.rank a.value ≠ Ranked.rank b.value := by
  intro same
  exact different (Uint128.value_injective (BitVec.eq_of_toNat_eq (Int.ofNat.inj same)))

theorem Shows.enter {table : SessionTable} (shows' : m.Shows table) (agrees : m.Agrees map) (sid : Uint128)
    (s : NodeSession) (own : s.id = sid.value) : (m.enter sid s).1.Shows (table.set s.id s) := by
  have kept := (agrees.enter sid s own).2
  intro other
  rw [kept.getSession,own]
  simp only [SessionMap.enter,Function.update_apply]
  by_cases same : other = sid
  · rw [if_pos same,same,OrderedMap.find_set_self]
    simp [SessionManager.enter,← agrees.created]
  · rw [if_neg same,OrderedMap.find_set_other _ _ _ _ (rank_ne same),shows' other,agrees.getSession]
    cases found : map.find other with
    | none => rfl
    | some k =>
      obtain ⟨old,at',_⟩ := agrees.sessions other k found
      have below := (List.getElem?_eq_some_iff.mp at').1
      exact (List.getElem?_append_left below).symm

theorem Shows.createNfSession {table : SessionTable} (shows' : m.Shows table) (agrees : m.Agrees map) (sid : Uint128) :
    (m.createNfSession sid).1.Shows (table.createNfSession sid.value).1 := shows'.enter agrees sid _ rfl

theorem Shows.createNrSession {table : SessionTable} (shows' : m.Shows table) (agrees : m.Agrees map) (sid : Uint128) :
    (m.createNrSession sid).1.Shows (table.createNrSession m.nrConf sid.value).1 := shows'.enter agrees sid _ rfl

/-- Both return for the same ids. -/
theorem Shows.removeSession {table : SessionTable} (shows' : m.Shows table) (agrees : m.Agrees map) (sid : Uint128) :
    (m.removeSession sid = Call.fault .nullDereference ∧ table.removeSession sid.value = Call.fault .nullDereference) ∨
      ∃ next p next', m.removeSession sid = .ok (next,p) ∧ table.removeSession sid.value = .ok next' ∧
        next.Shows next' := by
  obtain ⟨missing,present⟩ := agrees.removeSession sid
  have entry := shows' sid
  rw [agrees.getSession] at entry
  cases found : map.find sid with
  | none =>
    rw [found] at entry
    exact .inl ⟨missing found,if_neg (by simp [entry])⟩
  | some k =>
    obtain ⟨next,ok,kept⟩ := present k found
    obtain ⟨s,at',_⟩ := agrees.sessions sid k found
    rw [found] at entry
    refine .inr ⟨next,_,_,ok,if_pos (by simp [entry,at']),fun other => ?_⟩
    have heap : next.heap = m.heap := by
      obtain ⟨_,_,same⟩ := Call.bind_eq_ok.mp ok
      rw [← (Prod.mk.inj (Except.ok.inj same)).1]
    rw [kept.getSession,heap]
    simp only [Function.update_apply]
    by_cases same : other = sid
    · rw [if_pos same,same,OrderedMap.find_erase_self]
      rfl
    · rw [if_neg same,OrderedMap.find_erase_other _ _ _ (rank_ne same),shows' other,agrees.getSession]

theorem Agrees.run (agrees : m.Agrees map) (call : ManagerCall)
    (unused : ∀ draws randomNumber, call = .createNiSession draws randomNumber → ∃ id ∈ draws, map.find id = none) :
    (∃ next, m.run call = .ok (next,(map.answer call).2) ∧ next.Agrees (map.answer call).1) ↔
      ∀ sid, call = .removeSession sid → (map.find sid).isSome = true := by
  cases call with
  | createNiSession draws randomNumber =>
    refine iff_of_true ?_ nofun
    have search : (fun id => !m.table.contains id) = fun id => (map.find id).isNone :=
      funext fun id => agrees.find_isNone id
    obtain ⟨own,member,absent⟩ := unused draws randomNumber rfl
    cases drawn : draws.find? fun id => (map.find id).isNone with
    | none =>
      have all := List.find?_eq_none.mp drawn own member
      simp [absent] at all
    | some id =>
      obtain ⟨result,kept⟩ := agrees.enter id (.initiator (.new id.value m.niConf randomNumber)) rfl
      have answer : map.answer (.createNiSession draws randomNumber) = map.enter id := by
        simp only [SessionMap.answer,drawn]
      rw [answer]
      refine ⟨_,?_,kept⟩
      simp only [SessionManager.run,createNiSession,createUniqueId,search,drawn,Call.ok_bind,← result]
      rfl
  | createNfSession sid =>
    obtain ⟨result,kept⟩ := agrees.enter sid (.forwarder (.new sid.value)) rfl
    exact iff_of_true ⟨_,congrArg Except.ok (Prod.ext rfl result),kept⟩ nofun
  | createNrSession sid =>
    obtain ⟨result,kept⟩ := agrees.enter sid (.responder (.new sid.value m.nrConf)) rfl
    exact iff_of_true ⟨_,congrArg Except.ok (Prod.ext rfl result),kept⟩ nofun
  | getSession sid =>
    exact iff_of_true ⟨m,congrArg Except.ok (Prod.ext rfl (agrees.getSession sid)),agrees⟩ nofun
  | removeSession sid =>
    obtain ⟨missing,present⟩ := agrees.removeSession sid
    simp only [SessionManager.run,SessionMap.answer,ManagerCall.removeSession.injEq,forall_eq']
    cases found : map.find sid with
    | none =>
      rw [missing found]
      exact iff_of_false (fun ⟨_,ok,_⟩ => by cases ok) nofun
    | some k => exact iff_of_true (present k found) rfl

theorem Agrees.follows_iff {calls : List ManagerCall} (agrees : m.Agrees map) (unused : map.FindsUnused calls) :
    m.Follows map calls ↔ map.RemovesPresent calls := by
  induction calls generalizing m map with
  | nil => exact iff_of_true agrees trivial
  | cons call rest ih =>
    have step := agrees.run call unused.1
    constructor
    · rintro ⟨_,next,ok,follows⟩
      have kept : next.Agrees (map.answer call).1 := by
        cases rest with
        | nil => exact follows
        | cons _ _ => exact follows.1
      exact ⟨step.mp ⟨next,ok,kept⟩,(ih kept unused.2).mp follows⟩
    · rintro ⟨present,others⟩
      obtain ⟨next,ok,kept⟩ := step.mpr present
      exact ⟨agrees,next,ok,(ih kept unused.2).mpr others⟩

end

/-- The session manager is a finite map exactly for the callers that remove only sessions that
are there. -/
theorem finite_map_iff (niConf : NiConfig) (nrConf : NrConfig) (calls : List ManagerCall)
    (unused : SessionMap.empty.FindsUnused calls) :
    (new niConf nrConf).Follows .empty calls ↔ SessionMap.empty.RemovesPresent calls :=
  (agrees_new niConf nrConf).follows_iff unused

/-- A session that was never created is removed. -/
theorem finite_map_fails : ¬ ∀ (niConf : NiConfig) (nrConf : NrConfig) (calls : List ManagerCall),
    SessionMap.empty.FindsUnused calls → (new niConf nrConf).Follows .empty calls := by
  intro always
  have unused : SessionMap.empty.FindsUnused [.removeSession ⟨0,0,0,1⟩] := ⟨nofun,trivial⟩
  have present := ((agrees_new ⟨30,3,10⟩ ⟨100⟩).follows_iff unused).mp (always ⟨30,3,10⟩ ⟨100⟩ _ unused)
  exact absurd (present.1 _ rfl) (by decide)

/-- A session is created, looked up and removed, and gone then. -/
theorem finite_map_holds : (new ⟨30,3,10⟩ ⟨100⟩).Follows .empty
    [.createNfSession ⟨0,0,0,1⟩,.getSession ⟨0,0,0,1⟩,.removeSession ⟨0,0,0,1⟩,.getSession ⟨0,0,0,1⟩] := by
  apply (finite_map_iff ⟨30,3,10⟩ ⟨100⟩ _ _).mpr
  · refine ⟨nofun,nofun,fun sid same => ?_,nofun,trivial⟩
    cases same
    rfl
  · exact ⟨nofun,nofun,nofun,nofun,trivial⟩

end SessionManager
end Mnslp.Session
