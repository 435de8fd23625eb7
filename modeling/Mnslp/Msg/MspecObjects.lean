import Mnslp.Msg.MnslpObject

/-! The metering objects of a message: what is put into a message is what the next node
reads from it, in the same order, each as a copy. -/
namespace Mnslp.Msg
open Mnslp.Lib

@[simp] theorem IpfixT.copy_copy (t : IpfixT) : t.copy.copy = t.copy := by
  have header : (t.csHeader.map fun _ => t.csOffset).map (fun _ => t.csOffset) = t.csHeader.map fun _ => t.csOffset := by
    cases t.csHeader <;> rfl
  simp only [IpfixT.copy,TemplateContainer.copy_copy,header]

@[simp] theorem MnslpIpfixMessage.copy_copy (m : MnslpIpfixMessage) : m.copy.copy = m.copy := by
  unfold MnslpIpfixMessage.copy
  cases m.message with
  | live t => simp
  | _ => rfl

@[simp] theorem MspecObject.copy_copy (obj : MspecObject) : obj.copy.copy = obj.copy := by
  simp [MspecObject.copy]

/-- The objects are copies, as all that a node reads from a message. -/
def Copies (objects : List MspecObject) : Prop := ∀ obj ∈ objects, obj.copy = obj

theorem copies_map (objects : List MspecObject) : Copies (objects.map MspecObject.copy) := by
  intro obj member
  obtain ⟨original,_,rfl⟩ := List.mem_map.mp member
  exact MspecObject.copy_copy original

theorem Copies.map_eq {objects : List MspecObject} (copies : Copies objects) :
    objects.map MspecObject.copy = objects :=
  (List.map_congr_left copies).trans (List.map_id _)

namespace MnslpMsg

/-- The keys of the objects that are never metering objects. -/
def plainKeys : List IeObjectKey := [uniqueKey messageHopCountType,uniqueKey selectionMeteringEntitiesType,
  uniqueKey msgSequenceNumberType,uniqueKey sessionLifetimeType]

/-- A message without metering objects. -/
def Bare (m : MnslpMsg) : Prop := ∀ entry ∈ m.objects.entries, entry.1 ∈ plainKeys

def mspecKey (number : Nat) : IeObjectKey := ⟨mnslpIpfixMessageType,number⟩

/-- The entries of metering objects that were put into a message one after another. -/
def numbered (first : Nat) (objects : List MspecObject) : List (IeObjectKey × MnslpObject) :=
  (objects.zipIdx first).map fun (obj,number) => (mspecKey number,obj.toObject)

/-- The message has these metering objects behind its other ones. -/
def Carries (m : MnslpMsg) (objects : List MspecObject) : Prop :=
  ∃ base, m.objects.entries = base ++ numbered 1 objects ∧ ∀ entry ∈ base, entry.1 ∈ plainKeys

theorem bare_new (kind : MsgKind) : Bare (new kind) := fun entry member => by cases member

private theorem bare_setObject {m : MnslpMsg} (bare : m.Bare) (obj : MnslpObject) (unique : obj.isUnique = true)
    (plain : uniqueKey obj.body.objectType ∈ plainKeys) : (m.setObject obj).Bare := by
  intro entry member
  unfold setObject at member
  rw [if_pos unique] at member
  rcases OrderedMap.mem_place_key _ _ _ _ entry member with same | ⟨old,present,same⟩
  · rw [same]
    exact plain
  · rw [← same]
    exact bare old present

section
variable {m : MnslpMsg} (bare : m.Bare) (value : UInt32)
include bare

theorem Bare.setSessionLifetime : (m.setSessionLifetime value).Bare := by
  apply bare_setObject bare _ rfl
  rw [ObjectBody.objectType]
  decide

theorem Bare.setMsgSequenceNumber : (m.setMsgSequenceNumber value).Bare := by
  apply bare_setObject bare _ rfl
  rw [ObjectBody.objectType]
  decide

theorem Bare.setSelectionMeteringEntities : (m.setSelectionMeteringEntities value).Bare := by
  apply bare_setObject bare _ rfl
  rw [ObjectBody.objectType]
  decide

theorem Bare.setMessageHopCount : (m.setMessageHopCount value).Bare := by
  apply bare_setObject bare _ rfl
  rw [ObjectBody.objectType]
  decide

theorem Bare.carries : m.Carries [] := ⟨m.objects.entries,(List.append_nil _).symm,bare⟩

end

private theorem plain_other {key : IeObjectKey} (plain : key ∈ plainKeys) :
    key.objectType ≠ mnslpIpfixMessageType ∧ Ranked.rank key < 250 := by
  have all : ∀ key ∈ plainKeys, key.objectType ≠ mnslpIpfixMessageType ∧ Ranked.rank key < 250 := by decide
  exact all key plain

private theorem plain_not_candidate {key : IeObjectKey} (plain : key ∈ plainKeys) : isMspecCandidate key = false := by
  have all : ∀ key ∈ plainKeys, isMspecCandidate key = false := by decide
  exact all key plain

private theorem maxSequence_other (keys : List IeObjectKey)
    (other : ∀ key ∈ keys, key.objectType ≠ mnslpIpfixMessageType) (result : Nat) :
    keys.foldl (fun result key =>
      if key.objectType = mnslpIpfixMessageType ∧ result ≤ key.seqNbr then key.seqNbr else result) result = result := by
  induction keys with
  | nil => rfl
  | cons key rest ih =>
    have different := other key List.mem_cons_self
    rw [List.foldl_cons,if_neg (fun both => different both.1)]
    exact ih fun key member => other key (List.mem_cons_of_mem _ member)

private theorem maxSequence_numbered (objects : List MspecObject) (result : Nat) :
    ((numbered (result + 1) objects).map Prod.fst).foldl (fun result key =>
      if key.objectType = mnslpIpfixMessageType ∧ result ≤ key.seqNbr then key.seqNbr else result) result =
    result + objects.length := by
  induction objects generalizing result with
  | nil => rfl
  | cons obj rest ih =>
    have counted := ih (result + 1)
    simp only [numbered,List.zipIdx_cons,List.map_cons,List.foldl_cons] at counted ⊢
    rw [if_pos ⟨rfl,Nat.le_succ result⟩]
    change _ = result + (rest.length + 1)
    rw [show (mspecKey (result + 1)).seqNbr = result + 1 from rfl,counted]
    omega

section
variable {m : MnslpMsg} {base : List (IeObjectKey × MnslpObject)} {objects : List MspecObject}
  (entries : m.objects.entries = base ++ numbered 1 objects)
  (other : ∀ entry ∈ base, entry.1.objectType ≠ mnslpIpfixMessageType ∧ Ranked.rank entry.1 < 250)
include entries other

/-- The largest number is that of the metering objects in the message. -/
theorem getMaxSequence_of_entries : m.objects.getMaxSequence mnslpIpfixMessageType = objects.length := by
  unfold IeStore.getMaxSequence OrderedMap.keys
  have others : ∀ key ∈ base.map Prod.fst, key.objectType ≠ mnslpIpfixMessageType := by
    intro key member
    obtain ⟨entry,inside,rfl⟩ := List.mem_map.mp member
    exact (other entry inside).1
  rw [entries,List.map_append,List.foldl_append,maxSequence_other _ others,maxSequence_numbered,Nat.zero_add]

theorem entries_setObject (obj : MspecObject) :
    (m.setObject obj.toObject).objects.entries = base ++ numbered 1 (objects ++ [obj]) := by
  have notUnique : ¬ obj.toObject.isUnique = true := by simp [MnslpObject.isUnique,MspecObject.toObject,ObjectBody.isIpfix]
  have above : ∀ entry ∈ base ++ numbered 1 objects, Ranked.rank entry.1 < Ranked.rank (mspecKey (objects.length + 1)) := by
    intro entry member
    have rank : Ranked.rank (mspecKey (objects.length + 1)) = 249 + (objects.length + 1 : Int) := rfl
    rcases List.mem_append.mp member with inside | inside
    · have low := (other entry inside).2
      omega
    · obtain ⟨⟨other,number⟩,found,rfl⟩ := List.mem_map.mp inside
      have bound := (List.mem_zipIdx found).2.1
      have own : Ranked.rank (mspecKey number) = 249 + (number : Int) := rfl
      change Ranked.rank (mspecKey number) < _
      omega
  have placed := OrderedMap.place_above (fun _ new => new) (mspecKey (objects.length + 1)) obj.toObject _ above
  have last : numbered 1 (objects ++ [obj]) = numbered 1 objects ++ [(mspecKey (objects.length + 1),obj.toObject)] := by
    simp [numbered,List.zipIdx_append,Nat.add_comm]
  have entered : (m.setObject obj.toObject).objects.entries =
      OrderedMap.place (fun _ new => new) (mspecKey (m.objects.getMaxSequence mnslpIpfixMessageType + 1)) obj.toObject
        m.objects.entries := by
    unfold MnslpMsg.setObject
    rw [if_neg notUnique]
    rfl
  rw [entered,getMaxSequence_of_entries entries other,entries,placed,last,List.append_assoc]

end

theorem Carries.setObject {m : MnslpMsg} {objects : List MspecObject} (carries : m.Carries objects)
    (obj : MspecObject) : (m.setObject obj.toObject).Carries (objects ++ [obj]) := by
  obtain ⟨base,entries,plain⟩ := carries
  exact ⟨base,entries_setObject entries (fun entry inside => plain_other (plain entry inside)) obj,plain⟩

theorem Carries.setMspecObjects {m : MnslpMsg} {objects : List MspecObject} (carries : m.Carries objects)
    (more : List MspecObject) : (m.setMspecObjects more).Carries (objects ++ more.map MspecObject.copy) := by
  unfold MnslpMsg.setMspecObjects
  induction more generalizing m objects with
  | nil => simpa using carries
  | cons obj rest ih =>
    have next := ih (carries.setObject obj.copy)
    simpa using next

theorem Carries.copy {m : MnslpMsg} {objects : List MspecObject} (carries : m.Carries objects) :
    m.copy.Carries (objects.map MspecObject.copy) := by
  obtain ⟨base,entries,plain⟩ := carries
  refine ⟨base.map fun entry => (entry.1,entry.2.copy),?_,fun entry member => ?_⟩
  · change m.objects.entries.map (fun entry => (entry.1,entry.2.copy)) = _
    rw [entries,List.map_append,numbered,numbered,List.zipIdx_map,List.map_map,List.map_map]
    rfl
  · obtain ⟨old,inside,rfl⟩ := List.mem_map.mp member
    exact plain old inside

theorem mapM_numbered (first : Nat) (objects : List MspecObject) :
    ((numbered first objects).mapM fun entry => match entry.2.body with
      | .ipfixMessage message => Except.ok (MspecObject.copy ⟨entry.2.treatment,message⟩)
      | _ => Call.fault .nullDereference) = (.ok (objects.map MspecObject.copy) : Call (List MspecObject)) := by
  induction objects generalizing first with
  | nil => rfl
  | cons obj rest ih =>
    have collected := ih (first + 1)
    simp only [numbered,List.zipIdx_cons,List.map_cons,List.mapM_cons] at collected ⊢
    rw [collected]
    rfl

/-- The next node reads copies of the objects in their order. -/
theorem Carries.getMspecObjects {m : MnslpMsg} {objects : List MspecObject} (carries : m.Carries objects) :
    m.getMspecObjects = .ok (objects.map MspecObject.copy) := by
  obtain ⟨base,entries,plain⟩ := carries
  unfold MnslpMsg.getMspecObjects
  have others : base.filter (fun entry => isMspecCandidate entry.1) = [] := by
    apply List.filter_eq_nil_iff.mpr
    intro entry member
    simp [plain_not_candidate (plain entry member)]
  have own : (numbered 1 objects).filter (fun entry => isMspecCandidate entry.1) = numbered 1 objects := by
    apply List.filter_eq_self.mpr
    intro entry member
    obtain ⟨⟨obj,number⟩,_,rfl⟩ := List.mem_map.mp member
    rfl
  rw [entries,List.filter_append,others,own,List.nil_append]
  exact mapM_numbered 1 objects

/-- What is read from a message is copied anyway. -/
theorem getMspecObjects_copy (m : MnslpMsg) : m.copy.getMspecObjects = m.getMspecObjects := by
  have same : m.copy.objects.entries.filter (fun entry => isMspecCandidate entry.1) =
      (m.objects.entries.filter fun entry => isMspecCandidate entry.1).map fun entry => (entry.1,entry.2.copy) :=
    List.filter_map
  unfold getMspecObjects
  rw [same]
  generalize m.objects.entries.filter (fun entry => isMspecCandidate entry.1) = entries
  induction entries with
  | nil => rfl
  | cons entry rest ih =>
    rw [List.map_cons,List.mapM_cons,List.mapM_cons,ih]
    obtain ⟨key,treatment,body⟩ := entry
    cases body with
    | ipfixMessage message => exact congrArg (fun obj => Except.ok obj >>= _) (MspecObject.copy_copy ⟨treatment,message⟩)
    | _ => rfl

/-- Whatever is read from a message is a copy. -/
theorem copies_getMspecObjects {m : MnslpMsg} {objects : List MspecObject} (collected : m.getMspecObjects = .ok objects) :
    Copies objects := by
  unfold getMspecObjects at collected
  generalize m.objects.entries.filter (fun entry => isMspecCandidate entry.1) = entries at collected
  induction entries generalizing objects with
  | nil =>
    cases collected
    exact fun _ member => by cases member
  | cons entry rest ih =>
    rw [List.mapM_cons] at collected
    obtain ⟨first,own,collected⟩ := Call.bind_eq_ok.mp collected
    obtain ⟨others,more,collected⟩ := Call.bind_eq_ok.mp collected
    cases collected
    intro obj member
    rcases List.mem_cons.mp member with rfl | inside
    · split at own
      · cases own
        exact MspecObject.copy_copy _
      · cases own
    · exact ih more obj inside

end MnslpMsg
end Mnslp.Msg
