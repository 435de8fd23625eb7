import Mathlib.Data.List.Forall2
import Mnslp.Msg.Wire

/-! A message that has the objects of its kind and no others is written completely, and is
read back as an equal one. -/
namespace Mnslp.Msg
open Mnslp.Lib Call

/-- The message has every unique object that its kind writes, and no object that its kind
does not write. -/
def MnslpMsg.Complete (m : MnslpMsg) : Prop :=
  (∀ objectType ∈ m.kind.writtenTypes, m.hasKey objectType = true) ∧
    ∀ key ∈ m.objects.keys, key.objectType ∈ m.kind.writtenTypes ∨
      (key.objectType = mnslpIpfixMessageType ∧ m.kind.writesIpfix = true)

namespace Contents
variable {c : Contents} {kind : MsgKind}

/-- The objects of the contents that a message of the kind writes, in its order. -/
def written (c : Contents) (kind : MsgKind) : List MnslpObject :=
  kind.writtenTypes.filterMap c.unique ++ if kind.writesIpfix then c.ipfix.map MspecObject.toObject else []

/-- The objects that it leaves out. -/
def rest (c : Contents) (kind : MsgKind) : List MnslpObject :=
  (uniqueTypes.filter fun objectType => objectType ∉ kind.writtenTypes).filterMap c.unique ++
    if kind.writesIpfix then [] else c.ipfix.map MspecObject.toObject

/-- The contents are those that a message of the kind writes. -/
structure Suits (c : Contents) (kind : MsgKind) : Prop where
  present : ∀ objectType ∈ kind.writtenTypes, (c.unique objectType).isSome = true
  nothing : c.rest kind = []

theorem writtenTypes_perm (kind : MsgKind) :
    (uniqueTypes.filter fun objectType => objectType ∈ kind.writtenTypes).Perm kind.writtenTypes := by
  cases kind <;> decide

theorem writtenTypes_subset {objectType : UInt16} (written : objectType ∈ kind.writtenTypes) :
    objectType ∈ uniqueTypes := (List.mem_filter.mp ((writtenTypes_perm kind).mem_iff.mpr written)).1

theorem objects_perm (c : Contents) (kind : MsgKind) : c.objects.Perm (c.written kind ++ c.rest kind) := by
  have types := List.filter_append_perm (fun objectType => decide (objectType ∈ kind.writtenTypes)) uniqueTypes
  have uniques := (types.symm.trans ((writtenTypes_perm kind).append_right _)).filterMap c.unique
  simp only [← decide_not,List.filterMap_append] at uniques
  unfold objects written rest
  refine (uniques.append_right _).trans ?_
  split
  · rw [List.append_nil,List.append_assoc,List.append_assoc]
    exact List.perm_append_comm.append_left _
  · rw [List.append_nil,List.append_assoc]

theorem rest_eq_nil : c.rest kind = [] ↔
    (∀ objectType ∈ uniqueTypes, objectType ∉ kind.writtenTypes → c.unique objectType = none) ∧
      (kind.writesIpfix = true ∨ c.ipfix = []) := by
  unfold rest
  rw [List.append_eq_nil_iff,List.filterMap_eq_nil_iff]
  refine and_congr ?_ ?_
  · simp only [List.mem_filter,decide_eq_true_eq,and_imp]
  · cases kind.writesIpfix <;> simp

theorem Suits.written_perm (suits : c.Suits kind) : c.objects.Perm (c.written kind) := by
  have parts := c.objects_perm kind
  rwa [suits.nothing,List.append_nil] at parts

end Contents

namespace MnslpMsg

theorem map_eq_filterMap {α β : Type} {f : α → Option β} {list : List α}
    (there : ∀ a ∈ list, (f a).isSome = true) : list.map f = (list.filterMap f).map some := by
  induction list with
  | nil => rfl
  | cons head rest ih =>
    obtain ⟨first,others⟩ := List.forall_mem_cons.mp there
    obtain ⟨value,found⟩ := Option.isSome_iff_exists.mp first
    rw [List.map_cons,List.filterMap_cons,found,ih others]
    rfl

theorem Finds.append {m : MnslpMsg} {keys more : List IeObjectKey} {objects others : List MnslpObject}
    (first : m.Finds keys objects) (second : m.Finds more others) : m.Finds (keys ++ more) (objects ++ others) := by
  unfold Finds at *
  rw [List.map_append,List.map_append,first,second]

section
variable {m : MnslpMsg} {c : Contents} (holds : m.Holds c)
include holds

theorem Holds.hasKey_iff {objectType : UInt16} : m.hasKey objectType = true ↔
    (objectType ∈ uniqueTypes ∧ (c.unique objectType).isSome = true) ∨
      (objectType = mnslpIpfixMessageType ∧ c.ipfix ≠ []) := by
  rw [← holds.mem_keys]
  simp [hasKey]

theorem Holds.complete_iff : m.Complete ↔ c.Suits m.kind := by
  constructor
  · rintro ⟨has,only⟩
    have known {objectType : UInt16} (there : (objectType ∈ uniqueTypes ∧ (c.unique objectType).isSome = true) ∨
        (objectType = mnslpIpfixMessageType ∧ c.ipfix ≠ [])) : objectType ∈ m.kind.writtenTypes ∨
          (objectType = mnslpIpfixMessageType ∧ m.kind.writesIpfix = true) := by
      obtain ⟨key,member,rfl⟩ := holds.mem_keys.mpr there
      exact only key member
    refine ⟨fun objectType member => ?_,Contents.rest_eq_nil.mpr ⟨fun objectType member other => ?_,?_⟩⟩
    · rcases holds.hasKey_iff.mp (has objectType member) with ⟨_,there⟩ | ⟨rfl,_⟩
      · exact there
      · exact absurd (Contents.writtenTypes_subset member) Contents.ipfixType_not_unique
    · by_contra there
      rcases known (.inl ⟨member,Option.isSome_iff_ne_none.mpr there⟩) with written | ⟨rfl,_⟩
      · exact other written
      · exact Contents.ipfixType_not_unique member
    · by_cases some : c.ipfix = []
      · exact .inr some
      · rcases known (.inr ⟨rfl,some⟩) with written | ⟨_,writes⟩
        · exact absurd (Contents.writtenTypes_subset written) Contents.ipfixType_not_unique
        · exact .inl writes
  · intro suits
    obtain ⟨others,ipfix⟩ := Contents.rest_eq_nil.mp suits.nothing
    refine ⟨fun objectType member => ?_,fun key member => ?_⟩
    · exact holds.hasKey_iff.mpr (.inl ⟨Contents.writtenTypes_subset member,suits.present objectType member⟩)
    · rcases holds.mem_keys.mp ⟨key,member,rfl⟩ with ⟨known,there⟩ | ⟨same,some⟩
      · refine .inl (by_contra fun other => ?_)
        rw [others _ known other] at there
        cases there
      · exact .inr ⟨same,ipfix.resolve_right some⟩

theorem Holds.finds_ipfix : m.Finds m.ipfixKeys (c.ipfix.map MspecObject.toObject) := by
  unfold Finds ipfixKeys
  rw [getMaxSequence_of_holds holds]
  apply List.ext_getElem
  · simp
  · intro i first second
    simp only [List.getElem_map,List.getElem_range]
    exact holds.getObject_mspecKey (List.getElem?_eq_getElem _)

/-- The keys that `serialize` looks up are those of the contents. -/
theorem Holds.finds_written (present : ∀ objectType ∈ m.kind.writtenTypes, (c.unique objectType).isSome = true) :
    m.Finds m.wireKeys (c.written m.kind) := by
  apply Finds.append
  · unfold Finds
    rw [List.map_map,← map_eq_filterMap present]
    apply List.map_congr_left
    intro objectType member
    exact holds.getObject_uniqueKey (Contents.writtenTypes_subset member)
  · split
    · exact holds.finds_ipfix
    · rfl

theorem Holds.length_bytesWith (checked : ∀ obj ∈ c.written m.kind, obj.check = true) :
    (m.bytesWith (c.written m.kind)).length + ((c.rest m.kind).map MnslpObject.getSerializedSize).sum =
      m.getSerializedSize := by
  have parts := c.objects_perm m.kind
  have sizes := (parts.map MnslpObject.getSerializedSize).sum_nat
  have lengths : (c.written m.kind).map (fun obj => obj.bytes.length) = (c.written m.kind).map MnslpObject.getSerializedSize := by
    apply List.map_congr_left
    intro obj member
    exact MnslpObject.length_bytes (checked obj member)
  unfold bytesWith getSerializedSize
  rw [holds.values,sizes,List.length_append,List.length_flatMap,lengths,List.map_append,List.sum_append,← Nat.add_assoc]
  rfl

theorem Holds.length_written (suits : c.Suits m.kind) :
    m.getNumObjects = m.kind.writtenTypes.length + if m.kind.writesIpfix then c.ipfix.length else 0 := by
  have values : m.getNumObjects = c.objects.length := by
    rw [← holds.values]
    exact (List.length_map _).symm
  have present := congrArg List.length (map_eq_filterMap suits.present)
  rw [List.length_map,List.length_map] at present
  rw [values,suits.written_perm.length_eq,Contents.written,List.length_append,← present]
  congr 1
  split
  · exact List.length_map _
  · rfl

theorem Holds.check_of_suits (suits : c.Suits m.kind) : m.check = true := by
  have complete := holds.complete_iff.mpr suits
  have count := holds.length_written suits
  have found {objectType : UInt16} (member : objectType ∈ m.kind.writtenTypes) :
      (m.getObject (uniqueKey objectType)).isSome = true := by
    rw [holds.getObject_uniqueKey (Contents.writtenTypes_subset member)]
    exact suits.present objectType member
  have has := complete.1
  have only := complete.2
  unfold check
  cases kind : m.kind with
  | configure =>
    rw [kind] at has
    simp only [MsgKind.writtenTypes,List.forall_mem_cons] at has
    simp [checkConfigure,has]
  | response =>
    rw [kind] at only
    apply List.all_eq_true.mpr
    intro key member
    have one := only key member
    simp only [MsgKind.writtenTypes,List.mem_cons,List.not_mem_nil,or_false,MsgKind.writesIpfix,and_true,or_assoc] at one
    exact decide_eq_true one
  | notify =>
    rw [kind] at count found
    exact decide_eq_true ⟨found List.mem_cons_self,count⟩
  | options =>
    rw [kind] at count found
    exact decide_eq_true ⟨count,found List.mem_cons_self⟩
  | refresh =>
    rw [kind] at count found
    exact decide_eq_true ⟨count,found List.mem_cons_self,found (List.mem_cons_of_mem _ List.mem_cons_self)⟩

end
end MnslpMsg

theorem MnslpObject.getSerializedSize_pos (obj : MnslpObject) : 0 < obj.getSerializedSize := by
  unfold getSerializedSize
  split <;> omega

def MnslpObject.ipfixMessage? (obj : MnslpObject) : Option MnslpIpfixMessage :=
  match obj.body with
  | .ipfixMessage message => some message
  | _ => none

theorem MnslpObject.Rebuilt.equals {obj other : MnslpObject} (rebuilt : obj.Rebuilt other) :
    obj.equals other = .ok true := by
  unfold MnslpObject.equals
  cases rebuilt with
  | number unique =>
    rw [if_pos ⟨rfl,rfl⟩]
    obtain ⟨treatment,body⟩ := obj
    cases body with
    | ipfixMessage message => cases unique
    | informationCode | selectionMeteringEntities | messageHopCount | msgSequenceNumber | sessionLifetime =>
      simp [ObjectBody.equals]
  | ipfix same =>
    rw [if_pos ⟨rfl,rfl⟩]
    exact same

/-- An IPFIX object and the one that was read from its bytes. -/
def MspecObject.Rebuilt (obj other : MspecObject) : Prop := obj.toObject.Rebuilt other.toObject

theorem MspecObject.Rebuilt.isEqual {obj other : MspecObject} (rebuilt : obj.Rebuilt other) :
    obj.message.isEqual other.message = .ok true := by
  have same := MnslpObject.Rebuilt.equals rebuilt
  unfold MnslpObject.equals at same
  split at same
  · exact same
  · cases same

/-- Two stores with the same keys and objects that were rebuilt from each other. -/
theorem IeStore.equals_of_entries {store other : IeStore}
    (same : List.Forall₂ (fun a b => a.1 = b.1 ∧ a.2.Rebuilt b.2) store.entries other.entries) :
    store.equals other = .ok true := by
  have size : store.size = other.size := same.length_eq
  unfold equals
  rw [if_neg (not_not_intro size),allM_eq_true]
  intro entry member
  obtain ⟨⟨key,copy⟩,present,rfl,rebuilt⟩ : ∃ b ∈ other.entries, entry.1 = b.1 ∧ entry.2.Rebuilt b.2 :=
    partner_of_mem same member
  rw [OrderedMap.find_of_mem other entry.1 copy present]
  exact rebuilt.equals

namespace Contents
variable {c : Contents}

theorem foldl_put_uniques {types : List UInt16} (present : ∀ objectType ∈ types, (c.unique objectType).isSome = true)
    (start : Contents) : (((types.filterMap c.unique).foldl put start).ipfix = start.ipfix) ∧
      ∀ objectType, ((types.filterMap c.unique).foldl put start).unique objectType =
        if objectType ∈ types then c.unique objectType else start.unique objectType := by
  induction types generalizing start with
  | nil => exact ⟨rfl,fun _ => rfl⟩
  | cons head types ih =>
    obtain ⟨first,others⟩ := List.forall_mem_cons.mp present
    obtain ⟨obj,found⟩ := Option.isSome_iff_exists.mp first
    have unique := c.single found
    have typed := c.typed found
    obtain ⟨ipfix,uniques⟩ := ih others (start.put obj)
    rw [List.filterMap_cons,found]
    refine ⟨ipfix.trans ?_,fun objectType => (uniques objectType).trans ?_⟩
    · rw [put,dif_pos unique]
      rfl
    · rw [unique_put,typed]
      by_cases later : objectType ∈ types
      · rw [if_pos later,if_pos (List.mem_cons_of_mem _ later)]
      · rw [if_neg later]
        by_cases here : objectType = head
        · rw [if_pos ⟨unique,here⟩,here,if_pos List.mem_cons_self,found]
        · rw [if_neg (fun both => here both.2),if_neg]
          rintro member
          rcases List.mem_cons.mp member with same | inside
          · exact here same
          · exact later inside

theorem foldl_put_ipfix {objects : List MspecObject} {others : List MnslpObject}
    (copies : List.Forall₂ MnslpObject.Rebuilt (objects.map MspecObject.toObject) others) (start : Contents) :
    (∀ objectType, (others.foldl put start).unique objectType = start.unique objectType) ∧
      ∃ more, (others.foldl put start).ipfix = start.ipfix ++ more ∧ List.Forall₂ MspecObject.Rebuilt objects more := by
  induction objects generalizing others start with
  | nil =>
    cases copies
    exact ⟨fun _ => rfl,[],(List.append_nil _).symm,.nil⟩
  | cons obj objects ih =>
    cases copies with
    | @cons _ other _ others rebuilt copies =>
      obtain ⟨imported,rfl,same⟩ : ∃ imported : MspecObject, other = imported.toObject ∧ obj.Rebuilt imported := by
        cases rebuilt with
        | number unique => cases unique
        | @ipfix treatment message imported same => exact ⟨⟨_,imported⟩,rfl,.ipfix same⟩
      obtain ⟨uniques,more,ipfix,rest⟩ := ih copies (start.put imported.toObject)
      refine ⟨uniques,imported :: more,ipfix.trans ?_,.cons same rest⟩
      exact (List.append_cons _ _ _).symm

theorem uniques_rebuilt {objects others : List MnslpObject} (copies : List.Forall₂ MnslpObject.Rebuilt objects others)
    (unique : ∀ obj ∈ objects, obj.isUnique = true) : others = objects := by
  induction copies with
  | nil => rfl
  | cons rebuilt _ ih =>
    obtain ⟨first,rest⟩ := List.forall_mem_cons.mp unique
    rw [ih rest]
    cases rebuilt with
    | number _ => rfl
    | ipfix _ => cases first

/-- What is read from the bytes of the written objects. -/
theorem Suits.read_back {kind : MsgKind} (suits : c.Suits kind) {others : List MnslpObject}
    (copies : List.Forall₂ MnslpObject.Rebuilt (c.written kind) others) :
    (∀ objectType ∈ uniqueTypes, (others.foldl put .empty).unique objectType = c.unique objectType) ∧
      List.Forall₂ MspecObject.Rebuilt c.ipfix (others.foldl put .empty).ipfix := by
  obtain ⟨absent,ipfix⟩ := rest_eq_nil.mp suits.nothing
  have written : c.written kind = kind.writtenTypes.filterMap c.unique ++ c.ipfix.map MspecObject.toObject := by
    unfold written
    rcases ipfix with writes | none
    · rw [if_pos writes]
    · rw [none,List.map_nil,ite_self]
  rw [written] at copies
  have front := List.forall₂_take (kind.writtenTypes.filterMap c.unique).length copies
  have back := List.forall₂_drop (kind.writtenTypes.filterMap c.unique).length copies
  rw [List.take_left] at front
  rw [List.drop_left] at back
  have same := uniques_rebuilt front fun obj member => by
    obtain ⟨objectType,_,found⟩ := List.mem_filterMap.mp member
    exact c.single found
  rw [← List.take_append_drop (kind.writtenTypes.filterMap c.unique).length others,same,List.foldl_append]
  obtain ⟨none,uniques⟩ := foldl_put_uniques suits.present empty
  obtain ⟨kept,more,added,rebuilt⟩ :=
    foldl_put_ipfix back ((kind.writtenTypes.filterMap c.unique).foldl put empty)
  refine ⟨fun objectType known => ?_,?_⟩
  · rw [kept,uniques]
    split
    · rfl
    · rename_i other
      exact (absent objectType known other).symm
  · rw [added,none]
    exact rebuilt

end Contents

namespace MnslpMsg

theorem numbered_rebuilt {objects others : List MspecObject} (rebuilt : List.Forall₂ MspecObject.Rebuilt objects others)
    (first : Nat) : List.Forall₂ (fun a b => a.1 = b.1 ∧ a.2.Rebuilt b.2) (numbered first objects)
      (numbered first others) := by
  induction rebuilt generalizing first with
  | nil => exact .nil
  | cons same _ ih => exact .cons ⟨rfl,same⟩ (ih (first + 1))

/-- Messages with the same unique objects and with IPFIX objects rebuilt from each other. -/
theorem equals_of_holds {m other : MnslpMsg} {c c' : Contents} (holds : m.Holds c) (again : other.Holds c')
    (kind : other.kind = m.kind) (unique : ∀ objectType ∈ uniqueTypes, c'.unique objectType = c.unique objectType)
    (ipfix : List.Forall₂ MspecObject.Rebuilt c.ipfix c'.ipfix) : m.equals other = .ok true := by
  unfold equals
  rw [if_neg (not_not_intro kind.symm)]
  apply IeStore.equals_of_entries
  rw [holds,again]
  unfold Contents.entries
  have table : OrderedMap.tabulate c'.table (uniqueTypes.map uniqueKey) =
      OrderedMap.tabulate c.table (uniqueTypes.map uniqueKey) := by
    apply List.filterMap_congr
    intro key member
    obtain ⟨objectType,known,rfl⟩ := List.mem_map.mp member
    exact congrArg (Option.map _) (unique objectType known)
  rw [table]
  apply List.rel_append
  · apply List.forall₂_same.mpr
    intro entry member
    exact ⟨rfl,.number (c.single (OrderedMap.mem_tabulate.mp member).2)⟩
  · exact numbered_rebuilt ipfix 1

theorem written_ne_nil {c : Contents} {kind : MsgKind} (suits : c.Suits kind) : c.written kind ≠ [] := by
  obtain ⟨objectType,member⟩ : ∃ objectType, objectType ∈ kind.writtenTypes := by
    cases kind <;> exact ⟨_,List.mem_cons_self⟩
  obtain ⟨obj,found⟩ := Option.isSome_iff_exists.mp (suits.present objectType member)
  exact List.ne_nil_of_mem (List.mem_append_left _ (List.mem_filterMap.mpr ⟨objectType,member,found⟩))

/-- No unique object is written twice. -/
theorem written_distinct (c : Contents) (kind : MsgKind) :
    (c.written kind).Pairwise fun a b => a.isUnique = true → a.objectType ≠ b.objectType := by
  have types : kind.writtenTypes.Nodup := by cases kind <;> decide
  refine List.pairwise_append.mpr ⟨?_,?_,?_⟩
  · refine List.pairwise_filterMap.mpr (types.imp fun different a first b second _ => ?_)
    rw [c.typed first,c.typed second]
    exact different
  · split
    · exact List.pairwise_map.mpr (List.pairwise_of_forall fun a b unique => by cases unique)
    · exact .nil
  · intro a first b second unique same
    have known := objectType_mem unique
    split at second
    · obtain ⟨obj,_,rfl⟩ := List.mem_map.mp second
      rw [same] at known
      exact Contents.ipfixType_not_unique known
    · cases second

/-- The IPFIX messages in the order of their numbers. -/
def ipfixMessages (m : MnslpMsg) : List MnslpIpfixMessage := m.objects.values.filterMap MnslpObject.ipfixMessage?

theorem Holds.ipfixMessages {m : MnslpMsg} {c : Contents} (holds : m.Holds c) :
    m.ipfixMessages = c.ipfix.map MspecObject.message := by
  unfold MnslpMsg.ipfixMessages
  rw [holds.values,Contents.objects,List.filterMap_append,List.filterMap_map]
  have none : c.uniques.filterMap MnslpObject.ipfixMessage? = [] := by
    apply List.filterMap_eq_nil_iff.mpr
    intro obj member
    obtain ⟨objectType,_,found⟩ := List.mem_filterMap.mp member
    have unique := c.single found
    obtain ⟨treatment,body⟩ := obj
    cases body with
    | ipfixMessage message => cases unique
    | informationCode | selectionMeteringEntities | messageHopCount | msgSequenceNumber | sessionLifetime => rfl
  rw [none,List.nil_append]
  exact congrFun List.filterMap_eq_map c.ipfix

/-- A message with the objects of its kind is written into a buffer of its size, fills it,
and is read back from it. -/
theorem round_trip {m : MnslpMsg} {c : Contents} (holds : m.Holds c) (suits : c.Suits m.kind)
    (readable : ∀ obj ∈ c.objects, obj.Readable) : ∃ bytes,
      m.serialize (.ofSize m.getSerializedSize) =
        .ok (⟨bytes,m.getSerializedSize⟩,UInt32.ofNat m.getSerializedSize) ∧
      ∀ env, ∃ other, deserialize env bytes = .ok (.object other) ∧ m.equals other = .ok true ∧
        List.Forall₂ (fun message imported => message.isEqual imported = .ok true) m.ipfixMessages
          other.ipfixMessages := by
  have all : ∀ obj ∈ c.written m.kind, obj.Readable := fun obj member =>
    readable obj (suits.written_perm.mem_iff.mpr member)
  have length := holds.length_bytesWith fun obj member => (all obj member).checked
  rw [suits.nothing,List.map_nil,List.sum_nil,Nat.add_zero] at length
  refine ⟨m.bytesWith (c.written m.kind),?_,fun env => ?_⟩
  · rw [serialize_eq,serializeKeys_eq_ok]
    refine ⟨holds.check_of_suits suits,_,holds.finds_written suits.present,fun obj member => (all obj member).checked,?_,
      congrArg UInt32.ofNat length.symm⟩
    rw [← length]
    exact NetMsg.write_ofSize _
  · obtain ⟨others,other,read,kind,copies,again⟩ :=
      deserialize_bytesWith env m (written_ne_nil suits) all (written_distinct c m.kind)
    obtain ⟨uniques,ipfix⟩ := suits.read_back copies
    refine ⟨other,read,equals_of_holds holds again kind uniques ipfix,?_⟩
    rw [holds.ipfixMessages,again.ipfixMessages,List.forall₂_map_left_iff,List.forall₂_map_right_iff]
    exact ipfix.imp fun _ _ rebuilt => rebuilt.isEqual

/-- A message that is written has all the objects its class writes. -/
theorem present_of_serialize {m : MnslpMsg} {c : Contents} (holds : m.Holds c) {buffer msg : NetMsg} {written : UInt32}
    (serialized : m.serialize buffer = .ok (msg,written)) : ∀ objectType ∈ m.kind.writtenTypes, (c.unique objectType).isSome = true := by
  rw [serialize_eq,serializeKeys_eq_ok] at serialized
  obtain ⟨_,objects,found,_⟩ := serialized
  intro objectType member
  have key : uniqueKey objectType ∈ m.wireKeys := List.mem_append_left _ (List.mem_map_of_mem member)
  have there := @List.mem_map_of_mem _ _ _ _ m.getObject key
  rw [found] at there
  obtain ⟨obj,_,same⟩ := List.mem_map.mp there
  rw [← holds.getObject_uniqueKey (Contents.writtenTypes_subset member),← same]
  rfl

/-- Only such a message, made of valid objects, fills the buffer. -/
theorem suits_of_serialize {m : MnslpMsg} {c : Contents} (holds : m.Holds c) {msg : NetMsg} {written : UInt32}
    (serialized : m.serialize (.ofSize m.getSerializedSize) = .ok (msg,written)) (full : msg.pos = m.getSerializedSize) :
    c.Suits m.kind ∧ ∀ obj ∈ c.written m.kind, obj.check = true := by
  have present := present_of_serialize holds serialized
  rw [serialize_eq,serializeKeys_eq_ok] at serialized
  obtain ⟨_,objects,found,checked,wrote,_⟩ := serialized
  have same : objects = c.written m.kind :=
    (List.map_injective_iff.mpr (Option.some_injective _)) (found.symm.trans (holds.finds_written present))
  subst same
  have length := holds.length_bytesWith checked
  have pos := NetMsg.pos_of_write wrote
  have nothing : ((c.rest m.kind).map MnslpObject.getSerializedSize).sum = 0 := by
    change msg.pos = 0 + _ at pos
    omega
  refine ⟨⟨present,List.eq_nil_iff_forall_not_mem.mpr fun obj member => ?_⟩,checked⟩
  have size := List.sum_eq_zero_iff_forall_eq_nat.mp nothing obj.getSerializedSize (List.mem_map_of_mem member)
  have some := obj.getSerializedSize_pos
  omega

end MnslpMsg
end Mnslp.Msg
