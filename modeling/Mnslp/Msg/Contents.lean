import Mnslp.Msg.MspecObjects

/-! What a message is for: it has at most one object of each of five types, the last that
was set, and any number of IPFIX messages in the order in which they were set. -/
namespace Mnslp.Msg
open Mnslp.Lib

/-- The types of the unique objects, in the order of their keys. -/
def uniqueTypes : List UInt16 :=
  [informationCodeType,selectionMeteringEntitiesType,messageHopCountType,msgSequenceNumberType,sessionLifetimeType]

structure Contents where
  unique : UInt16 → Option MnslpObject
  ipfix : List MspecObject
  single : ∀ {objectType obj}, unique objectType = some obj → obj.isUnique = true
  typed : ∀ {objectType obj}, unique objectType = some obj → obj.objectType = objectType

theorem objectType_mem {obj : MnslpObject} (unique : obj.isUnique = true) : obj.objectType ∈ uniqueTypes := by
  obtain ⟨treatment,body⟩ := obj
  cases body with
  | ipfixMessage message => cases unique
  | informationCode | selectionMeteringEntities | messageHopCount | msgSequenceNumber | sessionLifetime =>
    simp [MnslpObject.objectType,ObjectBody.objectType,uniqueTypes]

def MnslpObject.mspecObject? (obj : MnslpObject) : Option MspecObject :=
  match obj.body with
  | .ipfixMessage message => some ⟨obj.treatment,message⟩
  | _ => none

/-- The IPFIX objects among others, in their order. -/
def ipfixObjects (objects : List MnslpObject) : List MspecObject := objects.filterMap MnslpObject.mspecObject?

namespace Contents

theorem ipfixType_not_unique : mnslpIpfixMessageType ∉ uniqueTypes := by decide

def empty : Contents where
  unique _ := none
  ipfix := []
  single absent := by cases absent
  typed absent := by cases absent

def set (c : Contents) (obj : MnslpObject) (unique : obj.isUnique = true) : Contents where
  unique objectType := if objectType = obj.objectType then some obj else c.unique objectType
  ipfix := c.ipfix
  single {objectType other} found := by
    split at found
    · cases found
      exact unique
    · exact c.single found
  typed {objectType other} found := by
    split at found
    · rename_i same
      cases found
      exact same.symm
    · exact c.typed found

def add (c : Contents) (obj : MspecObject) : Contents := {c with ipfix := c.ipfix ++ [obj]}

/-- What `set_object` does to the contents. -/
def put (c : Contents) (obj : MnslpObject) : Contents :=
  if unique : obj.isUnique = true then c.set obj unique
  else match obj.body with
    | .ipfixMessage message => c.add ⟨obj.treatment,message⟩
    | _ => c

theorem unique_put (c : Contents) (obj : MnslpObject) (objectType : UInt16) : (c.put obj).unique objectType =
    if obj.isUnique = true ∧ objectType = obj.objectType then some obj else c.unique objectType := by
  unfold put
  by_cases unique : obj.isUnique = true
  · rw [dif_pos unique,set]
    simp only [unique,true_and]
  · rw [dif_neg unique,if_neg (fun both => unique both.1)]
    split <;> rfl

theorem ipfix_put (c : Contents) (obj : MnslpObject) : (c.put obj).ipfix = c.ipfix ++ obj.mspecObject?.toList := by
  obtain ⟨treatment,body⟩ := obj
  cases body with
  | ipfixMessage message => rfl
  | informationCode | selectionMeteringEntities | messageHopCount | msgSequenceNumber | sessionLifetime =>
    exact (List.append_nil _).symm

theorem ipfix_foldl (objects : List MnslpObject) (c : Contents) :
    (objects.foldl put c).ipfix = c.ipfix ++ ipfixObjects objects := by
  induction objects generalizing c with
  | nil => exact (List.append_nil _).symm
  | cons obj rest ih =>
    rw [List.foldl_cons,ih,ipfix_put,List.append_assoc]
    unfold ipfixObjects
    rw [List.filterMap_cons]
    cases obj.mspecObject? <;> rfl

/-- The table of the keys of the unique objects. -/
def table (c : Contents) (key : IeObjectKey) : Option MnslpObject := c.unique key.objectType

def entries (c : Contents) : List (IeObjectKey × MnslpObject) :=
  OrderedMap.tabulate c.table (uniqueTypes.map uniqueKey) ++ MnslpMsg.numbered 1 c.ipfix

/-- The unique objects that are there, in the order of their keys. -/
def uniques (c : Contents) : List MnslpObject := uniqueTypes.filterMap c.unique

/-- All objects in the order of their keys. -/
def objects (c : Contents) : List MnslpObject := c.uniques ++ c.ipfix.map MspecObject.toObject

theorem mem_objects {c : Contents} {obj : MnslpObject} : obj ∈ c.objects ↔
    (∃ objectType ∈ uniqueTypes, c.unique objectType = some obj) ∨ ∃ ipfix ∈ c.ipfix, ipfix.toObject = obj := by
  unfold objects uniques
  rw [List.mem_append,List.mem_filterMap,List.mem_map]

theorem mem_objects_put {c : Contents} {obj other : MnslpObject} (member : other ∈ (c.put obj).objects) :
    other = obj ∨ other ∈ c.objects := by
  rcases mem_objects.mp member with ⟨objectType,known,found⟩ | ⟨ipfix,inside,rfl⟩
  · rw [unique_put] at found
    split at found
    · exact .inl (Option.some.inj found).symm
    · exact .inr (mem_objects.mpr (.inl ⟨objectType,known,found⟩))
  · obtain ⟨treatment,body⟩ := obj
    cases body with
    | ipfixMessage message =>
      rcases List.mem_append.mp (show ipfix ∈ c.ipfix ++ [⟨treatment,message⟩] from inside) with old | new
      · exact .inr (mem_objects.mpr (.inr ⟨ipfix,old,rfl⟩))
      · cases List.mem_singleton.mp new
        exact .inl rfl
    | _ => exact .inr (mem_objects.mpr (.inr ⟨ipfix,inside,rfl⟩))

end Contents

namespace MnslpMsg

def Holds (m : MnslpMsg) (c : Contents) : Prop := m.objects.entries = c.entries

theorem holds_new (kind : MsgKind) : (new kind).Holds .empty := rfl

theorem sorted_uniqueKeys : (uniqueTypes.map uniqueKey).Pairwise fun a b => Ranked.rank a < Ranked.rank b := by decide

theorem other_uniqueKeys {key : IeObjectKey} (member : key ∈ uniqueTypes.map uniqueKey) :
    key.objectType ≠ mnslpIpfixMessageType ∧ Ranked.rank key < 250 := by
  have all : ∀ key ∈ uniqueTypes.map uniqueKey, key.objectType ≠ mnslpIpfixMessageType ∧ Ranked.rank key < 250 := by
    decide
  exact all key member

theorem other_tabulate {c : Contents} : ∀ entry ∈ OrderedMap.tabulate c.table (uniqueTypes.map uniqueKey),
    entry.1.objectType ≠ mnslpIpfixMessageType ∧ Ranked.rank entry.1 < 250 :=
  fun _ inside => other_uniqueKeys (OrderedMap.mem_tabulate.mp inside).1

theorem rank_numbered {first : Nat} {objects : List MspecObject} {entry : IeObjectKey × MnslpObject}
    (member : entry ∈ numbered first objects) : (0xF9 + first : Int) ≤ Ranked.rank entry.1 := by
  obtain ⟨⟨obj,number⟩,found,rfl⟩ := List.mem_map.mp member
  have bound := (List.mem_zipIdx found).1
  change (0xF9 + first : Int) ≤ 0xF9 + number
  omega

theorem setObject_some (m : MnslpMsg) (obj : MnslpObject) : (m.setObject obj).getNumObjects ≠ 0 := by
  intro none
  have empty := List.length_eq_zero_iff.mp none
  unfold setObject at empty
  split at empty <;> exact OrderedMap.place_ne_nil _ _ _ _ empty

section
variable {m : MnslpMsg} {c : Contents}

theorem Holds.set (holds : m.Holds c) (obj : MnslpObject) (unique : obj.isUnique = true) :
    (m.setObject obj).Holds (c.set obj unique) := by
  have member : uniqueKey obj.objectType ∈ uniqueTypes.map uniqueKey :=
    List.mem_map_of_mem (objectType_mem unique)
  unfold Holds setObject
  rw [if_pos unique]
  change OrderedMap.place _ _ _ m.objects.entries = _
  rw [holds,Contents.entries]
  apply OrderedMap.place_tabulate sorted_uniqueKeys _ member
  · exact if_pos rfl
  · intro other inside different
    apply if_neg
    intro same
    obtain ⟨objectType,_,rfl⟩ := List.mem_map.mp inside
    exact different (congrArg uniqueKey same)
  · intro entry inside
    have low := (other_uniqueKeys member).2
    have high := rank_numbered inside
    omega

theorem Holds.add (holds : m.Holds c) (obj : MspecObject) : (m.setObject obj.toObject).Holds (c.add obj) :=
  entries_setObject holds other_tabulate obj

theorem getMaxSequence_of_holds (holds : m.Holds c) :
    m.objects.getMaxSequence mnslpIpfixMessageType = c.ipfix.length :=
  getMaxSequence_of_entries holds other_tabulate

theorem Holds.put (holds : m.Holds c) (obj : MnslpObject) : (m.setObject obj).Holds (c.put obj) := by
  unfold Contents.put
  split
  · rename_i unique
    exact holds.set obj unique
  · rename_i multiple
    obtain ⟨treatment,body⟩ := obj
    cases body with
    | ipfixMessage message => exact holds.add ⟨treatment,message⟩
    | _ => exact absurd rfl multiple

theorem Holds.getObject_uniqueKey (holds : m.Holds c) {objectType : UInt16} (member : objectType ∈ uniqueTypes) :
    m.getObject (uniqueKey objectType) = c.unique objectType := by
  have inside : uniqueKey objectType ∈ uniqueTypes.map uniqueKey := List.mem_map_of_mem member
  cases found : c.unique objectType with
  | some obj =>
    apply OrderedMap.find_of_mem
    rw [holds,Contents.entries]
    exact List.mem_append_left _ (OrderedMap.mem_tabulate.mpr ⟨inside,found⟩)
  | none =>
    cases located : m.getObject (uniqueKey objectType) with
    | none => rfl
    | some obj =>
      obtain ⟨stored,present,same⟩ := OrderedMap.find_eq_some_mem _ _ _ located
      rw [holds,Contents.entries] at present
      rcases List.mem_append.mp present with tabulated | numbered
      · obtain ⟨known,there⟩ := OrderedMap.mem_tabulate.mp tabulated
        obtain ⟨other,_,rfl⟩ := List.mem_map.mp known
        have equal : other = objectType := by
          change (other.toNat + 1 : Int) = objectType.toNat + 1 at same
          exact UInt16.toNat_inj.mp (by omega)
        subst equal
        change c.unique other = some obj at there
        rw [found] at there
        cases there
      · have low := (other_uniqueKeys inside).2
        have high := rank_numbered numbered
        dsimp only at high
        omega

theorem Holds.getObject_mspecKey (holds : m.Holds c) {i : Nat} {obj : MspecObject} (found : c.ipfix[i]? = some obj) :
    m.getObject (mspecKey (i + 1)) = some obj.toObject := by
  apply OrderedMap.find_of_mem
  rw [holds,Contents.entries]
  refine List.mem_append_right _ (List.mem_map.mpr ⟨(obj,i + 1),?_,rfl⟩)
  rw [List.mk_mem_zipIdx_iff_le_and_getElem?_sub]
  exact ⟨Nat.le_add_left _ _,found⟩

theorem Holds.values (holds : m.Holds c) : m.objects.values = c.objects := by
  unfold OrderedMap.values Contents.objects Contents.uniques
  rw [holds,Contents.entries,List.map_append]
  congr 1
  · simp [OrderedMap.tabulate,List.map_filterMap,List.filterMap_map,Function.comp_def,Contents.table,uniqueKey]
  · have firsts := congrArg (List.map MspecObject.toObject) (List.zipIdx_map_fst 1 c.ipfix)
    rw [List.map_map] at firsts
    rw [numbered,List.map_map,← firsts]
    rfl

theorem Holds.mem_keys (holds : m.Holds c) {objectType : UInt16} :
    (∃ key ∈ m.objects.keys, key.objectType = objectType) ↔
      (objectType ∈ uniqueTypes ∧ (c.unique objectType).isSome = true) ∨
        (objectType = mnslpIpfixMessageType ∧ c.ipfix ≠ []) := by
  unfold OrderedMap.keys
  rw [holds,Contents.entries]
  constructor
  · rintro ⟨key,member,rfl⟩
    obtain ⟨entry,inside,rfl⟩ := List.mem_map.mp member
    rcases List.mem_append.mp inside with tabulated | numbered
    · obtain ⟨known,there⟩ := OrderedMap.mem_tabulate.mp tabulated
      obtain ⟨objectType,present,same⟩ := List.mem_map.mp known
      rw [← same] at there ⊢
      exact .inl ⟨present,Option.isSome_iff_exists.mpr ⟨_,there⟩⟩
    · obtain ⟨⟨obj,number⟩,found,rfl⟩ := List.mem_map.mp numbered
      refine .inr ⟨rfl,fun none => ?_⟩
      rw [none] at found
      cases found
  · rintro (⟨known,there⟩ | ⟨rfl,some⟩)
    · obtain ⟨obj,found⟩ := Option.isSome_iff_exists.mp there
      refine ⟨uniqueKey objectType,List.mem_map.mpr ⟨(_,obj),?_,rfl⟩,rfl⟩
      exact List.mem_append_left _ (OrderedMap.mem_tabulate.mpr ⟨List.mem_map_of_mem known,found⟩)
    · obtain ⟨obj,rest,same⟩ := List.exists_cons_of_ne_nil some
      refine ⟨mspecKey 1,List.mem_map.mpr ⟨(mspecKey 1,obj.toObject),?_,rfl⟩,rfl⟩
      rw [same]
      exact List.mem_append_right _ List.mem_cons_self

end
end MnslpMsg
end Mnslp.Msg
