import Mnslp.Msg.Framing
import Mnslp.Msg.Forwarded
import Mnslp.Msg.IeStore
import Mnslp.Session.NrSession
import Mnslp.Session.SelectObjects

/-! From the objects of a payload to the rule of a node and the objects it leaves. -/
namespace Mnslp.Msg
open Mnslp.Lib Call

/-- The objects behind a position that can be read one behind the other. -/
def readObjects (env : ParseEnv) : Nat → NetMsg → List MnslpObject
  | 0, _ => []
  | count + 1, msg =>
    match deserializeObject env msg with
    | .ok (.object (obj,next)) => obj :: readObjects env count next
    | _ => []

/-- The objects of a payload, as they stand on the wire. -/
def objectsOf (env : ParseEnv) (payload : Bytes) : List MnslpObject :=
  readObjects env payload.length {buffer := payload, pos := 4}

theorem readObjects_ended (env : ParseEnv) {msg : NetMsg} (ended : msg.getBytesLeft = 0) (count : Nat) :
    readObjects env count msg = [] := by
  cases count with
  | zero => rfl
  | succ count =>
    have short : deserializeObject env msg = .ok (.null [.msgTooShort]) := by
      rcases msg.decode32_cases with ⟨room,_⟩ | ⟨_,threw⟩
      · omega
      · rw [deserializeObject,threw]
        rfl
    rw [readObjects,short]

section
variable {env : ParseEnv}

/-- The loop puts the objects into the message in their order. -/
theorem readObjects_of_reaches {start s : ParseState} (reaches : Machine.Reaches (ParseState.machine env) start s)
    (ended : s.msg.getBytesLeft = 0) {count : Nat} (enough : start.msg.getBytesLeft ≤ count) :
    s.m = (readObjects env count start.msg).foldl MnslpMsg.setObject start.m := by
  induction reaches generalizing count with
  | refl =>
    rw [readObjects_ended env ended]
    rfl
  | @head first next _ taken rest ih =>
    obtain ⟨more,obj,parsed,_,set⟩ := ParseState.step_inl (ParseState.machine_inl.mp taken)
    have falls := ParseState.left_falls taken
    cases count with
    | zero => omega
    | succ count =>
      rw [readObjects,parsed]
      dsimp only
      rw [List.foldl_cons,← set]
      exact ih ended (by omega)

theorem objectsOf_accepted {payload : Bytes} {m : MnslpMsg} (accepted : deserialize env payload = .ok (.object m)) :
    ∃ kind, m = (objectsOf env payload).foldl MnslpMsg.setObject (.new kind) := by
  obtain ⟨start,s,started,reaches,rfl,ended⟩ := reaches_of_deserialize accepted
  obtain ⟨kind,new⟩ := parseStart_new started
  have first := parseStart_pos started
  have enough : start.msg.getBytesLeft ≤ payload.length := by
    rw [first]
    exact Nat.sub_le _ _
  have collected := readObjects_of_reaches reaches ended enough
  rw [first,new] at collected
  exact ⟨kind,collected⟩

end

namespace MnslpMsg

theorem Holds.foldl {m : MnslpMsg} {c : Contents} (holds : m.Holds c) (objects : List MnslpObject) :
    (objects.foldl setObject m).Holds (objects.foldl .put c) := by
  induction objects generalizing m c with
  | nil => exact holds
  | cons obj rest ih => exact ih (holds.put obj)

/-- An information code passes the test on the type, and no other unique object does. -/
theorem Holds.getMspecObjects {m : MnslpMsg} {c : Contents} (holds : m.Holds c) : m.getMspecObjects =
    if (c.unique informationCodeType).isSome then fault .nullDereference else .ok (c.ipfix.map MspecObject.copy) := by
  have own : (numbered 1 c.ipfix).filter (fun entry => isMspecCandidate entry.1) = numbered 1 c.ipfix := by
    apply List.filter_eq_self.mpr
    intro entry member
    obtain ⟨⟨obj,number⟩,_,rfl⟩ := List.mem_map.mp member
    rfl
  have candidates : (uniqueTypes.map uniqueKey).filter isMspecCandidate = [uniqueKey informationCodeType] := by decide
  unfold MnslpMsg.getMspecObjects
  rw [holds,Contents.entries,List.filter_append,own,OrderedMap.filter_tabulate,candidates]
  unfold OrderedMap.tabulate
  cases found : c.unique informationCodeType with
  | none =>
    have absent : c.table (uniqueKey informationCodeType) = none := found
    simp only [List.filterMap_cons,absent,Option.map_none,List.filterMap_nil,List.nil_append]
    exact mapM_numbered 1 c.ipfix
  | some obj =>
    have there : c.table (uniqueKey informationCodeType) = some obj := found
    simp only [List.filterMap_cons,there,Option.map_some,List.filterMap_nil,List.cons_append,List.nil_append,
      List.mapM_cons]
    have single := c.single found
    obtain ⟨treatment,body⟩ := obj
    cases body with
    | ipfixMessage message => cases single
    | informationCode | selectionMeteringEntities | messageHopCount | msgSequenceNumber | sessionLifetime => rfl

end MnslpMsg
section
variable {env : ParseEnv} {payload : Bytes} {m : MnslpMsg}

theorem holds_accepted (accepted : deserialize env payload = .ok (.object m)) :
    m.Holds (Contents.ofObjects (objectsOf env payload)) := by
  obtain ⟨kind,rfl⟩ := objectsOf_accepted accepted
  exact (MnslpMsg.holds_new kind).foldl _

/-- What is collected from a message are the IPFIX objects of its payload, if it has no
information code. -/
theorem getMspecObjects_accepted (accepted : deserialize env payload = .ok (.object m)) : m.getMspecObjects =
    if ∃ obj ∈ objectsOf env payload, obj.objectType = informationCodeType then fault .nullDereference
    else .ok ((ipfixObjects (objectsOf env payload)).map MspecObject.copy) := by
  have present : ((Contents.ofObjects (objectsOf env payload)).unique informationCodeType).isSome = true ↔
      ∃ obj ∈ objectsOf env payload, obj.objectType = informationCodeType := by
    have last := Contents.unique_foldl_put (show informationCodeType ∈ uniqueTypes by decide) (objectsOf env payload) .empty
    rw [show Contents.empty.unique informationCodeType = none from rfl,Option.or_none] at last
    rw [Contents.ofObjects,last,List.getLast?_isSome]
    unfold ofType
    rw [Ne,List.filter_eq_nil_iff]
    simp
  have ipfix : (Contents.ofObjects (objectsOf env payload)).ipfix = ipfixObjects (objectsOf env payload) :=
    Contents.ipfix_foldl _ .empty
  rw [(holds_accepted accepted).getMspecObjects,ipfix]
  simp only [present]

end
end Mnslp.Msg

namespace Mnslp.Session
open Mnslp.Lib Mnslp.Msg

/-- Each of the objects is in exactly one place, added to the rule or missing. -/
def Splits (objects : List MspecObject) (before after : MtPolicyRule) (missing : List MspecObject) : Prop :=
  ∃ taken, after.objects.values.Perm (before.objects.values ++ taken) ∧ (taken ++ missing).Perm objects

theorem splits_selectObjects {d : Dispatcher} {rule : MtPolicyRule} (fresh : d.FreshKeys rule) (type : SessionType)
    (sme : UInt32) {objects : List MspecObject} (copies : Copies objects) :
    Splits objects rule (selectObjects d type sme rule objects).1 (selectObjects d type sme rule objects).2 := by
  refine ⟨_,values_selectObjects type sme fresh objects,?_⟩
  rw [missing_selectObjects,← List.map_append]
  have split := (List.filter_append_perm (fun obj => d.admits type sme obj) objects).map MspecObject.copy
  rwa [copies.map_eq] at split

/-- The objects of the message are collected, and the forwarder and the responder split them. -/
structure Collects (env : ParseEnv) (payload : Bytes) (m : MnslpMsg) : Prop where
  collected : m.getMspecObjects = .ok ((ipfixObjects (objectsOf env payload)).map MspecObject.copy)
  forwarder (d : Dispatcher) (s : NfSession) : d.FreshKeys s.rule → ∃ next missing,
    s.setMtPolicyRule d m = .ok (next,missing) ∧
      Splits ((ipfixObjects (objectsOf env payload)).map MspecObject.copy) s.rule next.rule missing
  responder (d : Dispatcher) (s : NrSession) (sid : SessionId) (mri : MriPathcoupled) (siiHandle : UInt32) :
    d.FreshKeys s.rule → ∃ next missing,
      s.saveMtPolicyRule d ⟨sid,.pathcoupled mri,siiHandle,m⟩ = .ok (next,missing) ∧
        Splits ((ipfixObjects (objectsOf env payload)).map MspecObject.copy) s.rule next.rule missing

theorem collects_iff {env : ParseEnv} {payload : Bytes} {m : MnslpMsg}
    (accepted : deserialize env payload = .ok (.object m)) :
    Collects env payload m ↔ ∀ obj ∈ objectsOf env payload, obj.objectType ≠ informationCodeType := by
  have collected := getMspecObjects_accepted accepted
  constructor
  · intro collects obj member typed
    rw [if_pos ⟨obj,member,typed⟩,collects.collected] at collected
    cases collected
  · intro none
    rw [if_neg (fun ⟨obj,member,typed⟩ => none obj member typed)] at collected
    have copies := MnslpMsg.copies_getMspecObjects collected
    refine ⟨collected,fun d s fresh => ?_,fun d s sid mri siiHandle fresh => ?_⟩
    · have splits := splits_selectObjects fresh .forwarder m.getSelectionMeteringEntities copies
      refine ⟨{s with rule := _},_,?_,splits⟩
      unfold NfSession.setMtPolicyRule
      rw [collected]
      rfl
    · have splits := splits_selectObjects fresh .receiver m.getSelectionMeteringEntities copies
      refine ⟨{s with rule := _},_,?_,splits⟩
      unfold NrSession.saveMtPolicyRule
      dsimp only
      rw [collected]
      rfl

/-- A CONFIGURE with a sequence number and an empty IPFIX message. -/
theorem collects_configure : ∃ m : MnslpMsg,
    deserialize (fun _ => {}) [1,0,0,0,0,0xF7,0,1,0,0,0,7,0,0xF9,0,4,0,10,0,16,0,0,0,0,0,0,0,0,0,0,0,0] =
      .ok (.object m) ∧ Collects (fun _ => {})
        [1,0,0,0,0,0xF7,0,1,0,0,0,7,0,0xF9,0,4,0,10,0,16,0,0,0,0,0,0,0,0,0,0,0,0] m :=
  ⟨_,rfl,(@collects_iff (fun _ => {}) [1,0,0,0,0,0xF7,0,1,0,0,0,7,0,0xF9,0,4,0,10,0,16,0,0,0,0,0,0,0,0,0,0,0,0] _
    rfl).mpr (by decide +kernel)⟩

/-- A CONFIGURE with an information code. -/
theorem not_collects : ¬ ∀ (env : ParseEnv) (payload : Bytes) (m : MnslpMsg),
    deserialize env payload = .ok (.object m) → m.kind = .configure → Collects env payload m := by
  intro always
  have collected := (always (fun _ => {}) [1,0,0,0,0,0xF4,0,1,2,1,0,0] _ rfl rfl).collected
  cases collected

end Mnslp.Session
