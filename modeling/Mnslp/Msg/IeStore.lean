import Mnslp.Msg.Contents

/-! `ie_store` with the widths of its keys. The comparison adds two 32-bit numbers, so that
it goes round and takes different keys for the same one. -/
namespace Mnslp.Msg
open Mnslp.Lib

/-- `ie_object_key`. `operator==` compares both numbers, `operator<` their sums. -/
structure ObjectKey where
  objectType : UInt32
  seqNbr : UInt32
deriving DecidableEq, Repr

instance : Ranked ObjectKey := ⟨fun key => (key.objectType + key.seqNbr).toNat⟩

/-- The entries of an `ie_store`: pointers, which are NULL between two lines of its code. -/
abbrev IeEntries (α : Type) := OrderedMap ObjectKey (Option α)

namespace IeEntries
variable {α : Type}

def get (store : IeEntries α) (id : ObjectKey) : Option α := (store.find id).join

/-- `entries[id]`, which creates an entry where there is none. -/
def subscript (store : IeEntries α) (id : ObjectKey) : Option α × IeEntries α :=
  ((store.find id).getD none,store.insert id none)

def set (store : IeEntries α) (id : ObjectKey) (ie : Option α) : IeEntries α :=
  match ie with
  | none => store
  | some object =>
    let (_,store) := store.subscript id
    OrderedMap.set store id (some object)

def remove (store : IeEntries α) (id : ObjectKey) : Option α × IeEntries α :=
  let (ie,store) := store.subscript id
  (ie,store.erase id)

/-- `getMaxSequence` -/
def getMaxSequence (store : IeEntries α) (id : UInt32) : UInt32 :=
  store.keys.foldl (fun result key =>
    if key.objectType = id then if result ≤ key.seqNbr then key.seqNbr else result else result) 0

inductive Change (α : Type)
  | set (id : ObjectKey) (ie : Option α)
  | remove (id : ObjectKey)

def Change.apply (store : IeEntries α) : Change α → IeEntries α
  | .set id ie => store.set id ie
  | .remove id => (store.remove id).2

@[simp] theorem set_some (store : IeEntries α) (id : ObjectKey) (object : α) :
    store.set id (some object) = OrderedMap.set store id (some object) := OrderedMap.set_insert _ _ _ _

@[simp] theorem remove_snd (store : IeEntries α) (id : ObjectKey) : (store.remove id).2 = store.erase id :=
  OrderedMap.erase_insert _ _ _

theorem rank_eq_iff {id other : ObjectKey} :
    Ranked.rank id = Ranked.rank other ↔ id.objectType + id.seqNbr = other.objectType + other.seqNbr := by
  change (((id.objectType + id.seqNbr).toNat : Int) = (other.objectType + other.seqNbr).toNat) ↔ _
  rw [Int.ofNat_inj,UInt32.toNat_inj]

/-- What a map from keys to objects promises for two keys: `set` and `remove` of one do not
touch the other. -/
def Separates (store : IeEntries α) (id other : ObjectKey) (object : α) : Prop :=
  (store.set id (some object)).get id = some object ∧
    (store.set id (some object)).get other = store.get other ∧ (store.remove id).2.get other = store.get other

/-- Two keys are kept apart in every state exactly if their sums differ. -/
theorem separates_iff (changes : List (Change α)) (id other : ObjectKey) (object : α) :
    Separates (changes.foldl Change.apply .empty) id other object ↔
      id.objectType + id.seqNbr ≠ other.objectType + other.seqNbr := by
  generalize changes.foldl Change.apply .empty = store
  rw [Ne,← rank_eq_iff]
  unfold Separates get
  rw [set_some,remove_snd,OrderedMap.find_set_self]
  constructor
  · rintro ⟨_,kept,removed⟩ same
    rw [← OrderedMap.find_congr _ same,OrderedMap.find_set_self] at kept
    rw [← OrderedMap.find_congr _ same,OrderedMap.find_erase_self,← kept] at removed
    cases removed
  · intro different
    rw [OrderedMap.find_set_other _ _ _ _ (Ne.symm different),OrderedMap.find_erase_other _ _ _ (Ne.symm different)]
    exact ⟨rfl,rfl,rfl⟩

/-- The second information code and the only selection of metering entities. -/
theorem not_separated : ¬ ∀ (changes : List (Change Unit)) (id other : ObjectKey) (object : Unit), id ≠ other →
    Separates (changes.foldl Change.apply .empty) id other object := by
  intro separated
  obtain ⟨_,kept,_⟩ := separated [] ⟨0xF4,2⟩ ⟨0xF5,1⟩ () (by decide)
  cases kept

/-- `mnslp_msg::set_object` -/
def setObject (store : IeEntries MnslpObject) (obj : MnslpObject) : IeEntries MnslpObject :=
  if obj.isUnique then store.set ⟨obj.objectType.toUInt32,1⟩ (some obj)
  else
    let sequence := store.getMaxSequence obj.objectType.toUInt32 + 1
    store.set ⟨obj.objectType.toUInt32,sequence⟩ (some obj)

def ofObjects (objects : List MnslpObject) : IeEntries MnslpObject := objects.foldl setObject .empty

end IeEntries

/-- The objects of a type among those that were set. -/
def ofType (objectType : UInt16) (objects : List MnslpObject) : List MnslpObject :=
  objects.filter fun obj => obj.objectType = objectType

/-- What a message promises after some calls of `set_object`. -/
structure IeEntries.Keeps (store : IeEntries MnslpObject) (objects : List MnslpObject) : Prop where
  last : ∀ objectType ∈ uniqueTypes, store.get ⟨objectType.toUInt32,1⟩ = (ofType objectType objects).getLast?
  /-- The IPFIX objects as an iteration over the store visits them. -/
  numbered : (store.entries.filter fun entry => entry.1.objectType = mnslpIpfixMessageType.toUInt32).map
      (fun entry => (entry.2,entry.1.seqNbr.toNat)) =
    ((ofType mnslpIpfixMessageType objects).map some).zipIdx 1
  total : store.size = (uniqueTypes.filter fun objectType => ofType objectType objects ≠ []).length +
    (ofType mnslpIpfixMessageType objects).length

/-- The sums of the keys of IPFIX objects up to this number do not go round. -/
def maxIpfixObjects : Nat := 2^32 - 250

theorem isUnique_iff {obj : MnslpObject} : obj.isUnique = true ↔ obj.objectType ≠ mnslpIpfixMessageType := by
  obtain ⟨treatment,body⟩ := obj
  cases body with
  | ipfixMessage message => exact iff_of_false nofun fun other => other rfl
  | informationCode | selectionMeteringEntities | messageHopCount | msgSequenceNumber | sessionLifetime =>
    refine iff_of_true rfl ?_
    simp only [MnslpObject.objectType,ObjectBody.objectType]
    decide

theorem ofType_ipfix (objects : List MnslpObject) :
    ofType mnslpIpfixMessageType objects = (ipfixObjects objects).map MspecObject.toObject := by
  unfold ofType ipfixObjects
  induction objects with
  | nil => rfl
  | cons obj rest ih =>
    rw [List.filter_cons,List.filterMap_cons,ih]
    obtain ⟨treatment,body⟩ := obj
    cases body with
    | ipfixMessage message =>
      have typed : MnslpObject.objectType ⟨treatment,.ipfixMessage message⟩ = mnslpIpfixMessageType := rfl
      rw [if_pos (decide_eq_true typed)]
      rfl
    | informationCode | selectionMeteringEntities | messageHopCount | msgSequenceNumber | sessionLifetime => rfl

namespace Contents
variable {c : Contents}

def ofObjects (objects : List MnslpObject) : Contents := objects.foldl put .empty

theorem unique_foldl_put {objectType : UInt16} (known : objectType ∈ uniqueTypes) (objects : List MnslpObject) (c : Contents) :
    (objects.foldl put c).unique objectType = (ofType objectType objects).getLast?.or (c.unique objectType) := by
  induction objects generalizing c with
  | nil => rfl
  | cons obj rest ih =>
    rw [List.foldl_cons,ih,unique_put,ofType,ofType,List.filter_cons]
    by_cases same : obj.objectType = objectType
    · have unique : obj.isUnique = true := by
        rw [isUnique_iff,same]
        intro equal
        exact ipfixType_not_unique (equal ▸ known)
      rw [if_pos ⟨unique,same.symm⟩,if_pos (decide_eq_true same),List.getLast?_cons]
      cases (rest.filter fun obj => decide (obj.objectType = objectType)).getLast? <;> rfl
    · rw [if_neg fun both => same both.2.symm,if_neg (by simpa using same)]

theorem ipfix_foldl_put (objects : List MnslpObject) (c : Contents) :
    (objects.foldl put c).ipfix.map MspecObject.toObject =
      c.ipfix.map MspecObject.toObject ++ ofType mnslpIpfixMessageType objects := by
  rw [ipfix_foldl,List.map_append,ofType_ipfix]

end Contents

/-- The key with the widths of `ie_object_key`. -/
def IeObjectKey.narrow (key : IeObjectKey) : ObjectKey := ⟨key.objectType.toUInt32,UInt32.ofNat key.seqNbr⟩

theorem objectType_narrow {key : IeObjectKey} {objectType : UInt16} :
    key.narrow.objectType = objectType.toUInt32 ↔ key.objectType = objectType := by
  change key.objectType.toUInt32 = _ ↔ _
  rw [← UInt32.toNat_inj,UInt16.toNat_toUInt32,UInt16.toNat_toUInt32,UInt16.toNat_inj]

theorem rank_narrow {key : IeObjectKey} (small : key.objectType.toNat + key.seqNbr < 2^32) :
    Ranked.rank key.narrow = Ranked.rank key := by
  change (((key.objectType.toUInt32 + UInt32.ofNat key.seqNbr).toNat : Int)) = (key.objectType.toNat + key.seqNbr : Int)
  rw [UInt32.toNat_add,UInt32.toNat_ofNat',UInt16.toNat_toUInt32]
  omega

/-- The store with narrow keys has the entries of the one whose numbers are not bounded. -/
def IeEntries.Narrows (store : IeEntries MnslpObject) (objects : IeStore) : Prop :=
  store.entries = objects.entries.map (Prod.map IeObjectKey.narrow some)

theorem maxSequence_narrow (keys : List IeObjectKey) (small : ∀ key ∈ keys, key.seqNbr < 2^32) (objectType : UInt16)
    (result : Nat) (bound : result < 2^32) :
    (keys.map IeObjectKey.narrow).foldl (fun result key =>
      if key.objectType = objectType.toUInt32 then if result ≤ key.seqNbr then key.seqNbr else result else result)
        (UInt32.ofNat result) =
    UInt32.ofNat (keys.foldl (fun result key =>
      if key.objectType = objectType ∧ result ≤ key.seqNbr then key.seqNbr else result) result) := by
  induction keys generalizing result with
  | nil => rfl
  | cons key rest ih =>
    obtain ⟨here,others⟩ := List.forall_mem_cons.mp small
    have types := @objectType_narrow key objectType
    have order : UInt32.ofNat result ≤ key.narrow.seqNbr ↔ result ≤ key.seqNbr := by
      change UInt32.ofNat result ≤ UInt32.ofNat key.seqNbr ↔ _
      rw [UInt32.le_iff_toNat_le,UInt32.toNat_ofNat',UInt32.toNat_ofNat',Nat.mod_eq_of_lt bound,Nat.mod_eq_of_lt here]
    rw [List.map_cons,List.foldl_cons,List.foldl_cons]
    by_cases both : key.objectType = objectType ∧ result ≤ key.seqNbr
    · rw [if_pos (types.mpr both.1),if_pos (order.mpr both.2),if_pos both]
      exact ih others key.seqNbr here
    · rw [if_neg both]
      have stays : (if key.narrow.objectType = objectType.toUInt32 then
          if UInt32.ofNat result ≤ key.narrow.seqNbr then key.narrow.seqNbr else UInt32.ofNat result
        else UInt32.ofNat result) = UInt32.ofNat result := by
        simp only [types,order]
        split
        · rename_i same
          exact if_neg fun less => both ⟨same,less⟩
        · rfl
      rw [stays]
      exact ih others result bound

section
variable {m : MnslpMsg} {c : Contents} {store : IeEntries MnslpObject}

theorem key_small (holds : m.Holds c) (few : c.ipfix.length ≤ maxIpfixObjects) :
    ∀ entry ∈ m.objects.entries, entry.1.objectType.toNat + entry.1.seqNbr < 2^32 := by
  intro entry member
  rw [holds,Contents.entries] at member
  rcases List.mem_append.mp member with unique | ipfix
  · have low := (MnslpMsg.other_tabulate entry unique).2
    change (entry.1.objectType.toNat + entry.1.seqNbr : Int) < 250 at low
    omega
  · obtain ⟨⟨obj,number⟩,found,rfl⟩ := List.mem_map.mp ipfix
    have bound := (List.mem_zipIdx found).2.1
    unfold maxIpfixObjects at few
    change 0xF9 + number < 2^32
    omega

theorem set_narrows (narrows : store.Narrows m.objects) (small : ∀ entry ∈ m.objects.entries,
    entry.1.objectType.toNat + entry.1.seqNbr < 2^32) (key : IeObjectKey) (obj : MnslpObject)
    (own : key.objectType.toNat + key.seqNbr < 2^32) :
    (store.set key.narrow (some obj)).Narrows (OrderedMap.set m.objects key obj) := by
  rw [IeEntries.set_some]
  unfold IeEntries.Narrows at *
  change OrderedMap.place _ _ _ store.entries = (OrderedMap.place _ _ _ m.objects.entries).map _
  rw [narrows]
  exact OrderedMap.place_map _ _ _ _ _ (rank_narrow own) fun entry member => rank_narrow (small entry member)

theorem setObject_narrows (holds : m.Holds c) (narrows : store.Narrows m.objects) (obj : MnslpObject)
    (few : (c.put obj).ipfix.length ≤ maxIpfixObjects) : (store.setObject obj).Narrows (m.setObject obj).objects := by
  unfold Contents.put at few
  unfold IeEntries.setObject MnslpMsg.setObject
  by_cases unique : obj.isUnique = true
  · rw [dif_pos unique] at few
    rw [if_pos unique,if_pos unique]
    have known := (MnslpMsg.other_uniqueKeys (List.mem_map_of_mem (objectType_mem unique))).2
    change (obj.objectType.toNat + 1 : Int) < 250 at known
    exact set_narrows narrows (key_small holds few) (uniqueKey obj.objectType) obj (by
      change obj.objectType.toNat + 1 < 2^32
      omega)
  · rw [dif_neg unique] at few
    rw [if_neg unique,if_neg unique]
    have typed : obj.objectType = mnslpIpfixMessageType := by
      by_contra other
      exact unique (isUnique_iff.mpr other)
    have added : c.ipfix.length + 1 ≤ maxIpfixObjects := by
      obtain ⟨treatment,body⟩ := obj
      cases body with
      | ipfixMessage message =>
        change (c.ipfix ++ [_]).length ≤ _ at few
        rwa [List.length_append] at few
      | _ => exact absurd rfl unique
    have small := key_small holds (Nat.le_of_succ_le added)
    have sequence : store.getMaxSequence obj.objectType.toUInt32 + 1 = UInt32.ofNat (c.ipfix.length + 1) := by
      have keys : store.keys = m.objects.keys.map IeObjectKey.narrow := by
        unfold OrderedMap.keys
        rw [narrows,List.map_map,List.map_map]
        rfl
      have bounds : ∀ key ∈ m.objects.keys, key.seqNbr < 2^32 := by
        intro key member
        obtain ⟨entry,inside,rfl⟩ := List.mem_map.mp member
        have sum := small entry inside
        omega
      have largest := maxSequence_narrow m.objects.keys bounds obj.objectType 0 (by decide)
      rw [UInt32.ofNat_add,← MnslpMsg.getMaxSequence_of_holds holds,← typed]
      unfold IeEntries.getMaxSequence
      rw [keys]
      exact congrArg (· + 1) largest
    have whole := set_narrows narrows small ⟨obj.objectType,c.ipfix.length + 1⟩ obj (by
      rw [typed]
      unfold maxIpfixObjects at added
      change 0xF9 + (c.ipfix.length + 1) < 2^32
      omega)
    dsimp only
    rw [sequence,typed,MnslpMsg.getMaxSequence_of_holds holds]
    rw [typed] at whole
    exact whole

end

theorem foldl_narrows (objects : List MnslpObject) {m : MnslpMsg} {c : Contents} {store : IeEntries MnslpObject}
    (holds : m.Holds c) (narrows : store.Narrows m.objects) (few : (objects.foldl .put c).ipfix.length ≤ maxIpfixObjects) :
    (objects.foldl .setObject m).Holds (objects.foldl .put c) ∧
      (objects.foldl .setObject store).Narrows (objects.foldl .setObject m).objects := by
  induction objects generalizing m c store with
  | nil => exact ⟨holds,narrows⟩
  | cons obj rest ih =>
    have size := congrArg List.length (Contents.ipfix_foldl_put rest (c.put obj))
    rw [List.length_append,List.length_map,List.length_map] at size
    rw [List.foldl_cons] at few
    exact ih (holds.put obj) (setObject_narrows holds narrows obj (by omega)) few

theorem ipfix_ofObjects (objects : List MnslpObject) :
    (Contents.ofObjects objects).ipfix.map MspecObject.toObject = ofType mnslpIpfixMessageType objects :=
  Contents.ipfix_foldl_put objects .empty

section
variable {objects : List MnslpObject} (few : (ofType mnslpIpfixMessageType objects).length ≤ maxIpfixObjects)
include few

/-- With few IPFIX objects the store is the one whose numbers are not bounded. -/
theorem narrows_ofObjects :
    (objects.foldl MnslpMsg.setObject (.new .configure)).Holds (Contents.ofObjects objects) ∧
      (IeEntries.ofObjects objects).Narrows (objects.foldl MnslpMsg.setObject (.new .configure)).objects := by
  rw [← ipfix_ofObjects,List.length_map] at few
  have start : IeEntries.Narrows .empty (MnslpMsg.new .configure).objects := rfl
  exact foldl_narrows objects (MnslpMsg.holds_new .configure) start few

theorem get_ofObjects {objectType : UInt16} (known : objectType ∈ uniqueTypes) :
    (IeEntries.ofObjects objects).get ⟨objectType.toUInt32,1⟩ = (Contents.ofObjects objects).unique objectType := by
  obtain ⟨holds,narrows⟩ := narrows_ofObjects few
  rw [← ipfix_ofObjects,List.length_map] at few
  have low := (MnslpMsg.other_uniqueKeys (List.mem_map_of_mem known)).2
  change (objectType.toNat + 1 : Int) < 250 at low
  have own : Ranked.rank (uniqueKey objectType).narrow = Ranked.rank (uniqueKey objectType) := by
    apply rank_narrow
    change objectType.toNat + 1 < 2^32
    omega
  have found := OrderedMap.lookup_map IeObjectKey.narrow some (uniqueKey objectType) _ own
    fun entry member => rank_narrow (key_small holds few entry member)
  rw [← narrows] at found
  rw [← holds.getObject_uniqueKey known]
  unfold IeEntries.get
  change (OrderedMap.lookup (IeEntries.ofObjects objects).entries (uniqueKey objectType).narrow).join = _
  rw [found]
  unfold MnslpMsg.getObject OrderedMap.find
  cases OrderedMap.lookup _ (uniqueKey objectType) <;> rfl

theorem numbered_ofObjects :
    ((IeEntries.ofObjects objects).entries.filter fun entry =>
        entry.1.objectType = mnslpIpfixMessageType.toUInt32).map (fun entry => (entry.2,entry.1.seqNbr.toNat)) =
      ((ofType mnslpIpfixMessageType objects).map some).zipIdx 1 := by
  obtain ⟨holds,narrows⟩ := narrows_ofObjects few
  rw [← ipfix_ofObjects,List.length_map] at few
  have others : ((OrderedMap.tabulate (Contents.ofObjects objects).table (uniqueTypes.map uniqueKey)).map
      (Prod.map IeObjectKey.narrow some)).filter
      (fun entry => decide (entry.1.objectType = mnslpIpfixMessageType.toUInt32)) = [] := by
    apply List.filter_eq_nil_iff.mpr
    intro entry member
    obtain ⟨old,inside,rfl⟩ := List.mem_map.mp member
    rw [decide_eq_true_iff,Prod.map_fst,objectType_narrow]
    exact (MnslpMsg.other_tabulate old inside).1
  have own : ((MnslpMsg.numbered 1 (Contents.ofObjects objects).ipfix).map (Prod.map IeObjectKey.narrow some)).filter
      (fun entry => decide (entry.1.objectType = mnslpIpfixMessageType.toUInt32)) =
      (MnslpMsg.numbered 1 (Contents.ofObjects objects).ipfix).map (Prod.map IeObjectKey.narrow some) := by
    apply List.filter_eq_self.mpr
    intro entry member
    obtain ⟨old,inside,rfl⟩ := List.mem_map.mp member
    obtain ⟨pair,_,rfl⟩ := List.mem_map.mp inside
    rfl
  rw [narrows,holds,Contents.entries,List.map_append,List.filter_append,others,own,List.nil_append,
    ← ipfix_ofObjects,MnslpMsg.numbered,List.map_map,List.map_map,List.map_map,List.zipIdx_map]
  apply List.map_congr_left
  intro pair member
  have bound := (List.mem_zipIdx member).2.1
  refine Prod.ext rfl ?_
  change (UInt32.ofNat pair.2).toNat = pair.2
  rw [UInt32.toNat_ofNat',Nat.mod_eq_of_lt]
  unfold maxIpfixObjects at few
  omega

theorem size_ofObjects : (IeEntries.ofObjects objects).size =
    (uniqueTypes.filter fun objectType => ((Contents.ofObjects objects).unique objectType).isSome).length +
      (ofType mnslpIpfixMessageType objects).length := by
  obtain ⟨holds,narrows⟩ := narrows_ofObjects few
  unfold OrderedMap.size
  rw [narrows,holds,List.length_map,Contents.entries,List.length_append,← ipfix_ofObjects]
  congr 1
  · rw [OrderedMap.tabulate,List.length_filterMap_eq_countP,List.countP_map,List.countP_eq_length_filter]
    congr 2
    funext objectType
    exact Option.isSome_map
  · rw [MnslpMsg.numbered,List.length_map,List.length_map,List.length_zipIdx]

theorem keeps_of_few : (IeEntries.ofObjects objects).Keeps objects := by
  have unique (objectType : UInt16) (known : objectType ∈ uniqueTypes) :
      (Contents.ofObjects objects).unique objectType = (ofType objectType objects).getLast? := by
    have last := Contents.unique_foldl_put known objects .empty
    rwa [show Contents.empty.unique objectType = none from rfl,Option.or_none] at last
  refine ⟨fun objectType known => (get_ofObjects few known).trans (unique objectType known),numbered_ofObjects few,?_⟩
  rw [size_ofObjects few]
  congr 2
  apply List.filter_congr
  intro objectType known
  rw [unique objectType known,Bool.eq_iff_iff,List.getLast?_isSome,decide_eq_true_iff]

end

/-- The first key that goes round is the smallest of all. -/
theorem few_of_keeps {objects : List MnslpObject} (keeps : (IeEntries.ofObjects objects).Keeps objects) :
    (ofType mnslpIpfixMessageType objects).length ≤ maxIpfixObjects := by
  by_contra many
  have numbered := keeps.numbered
  generalize ofType mnslpIpfixMessageType objects = ipfix at many numbered
  have sorted := (IeEntries.ofObjects objects).increasing.filter
    fun entry => entry.1.objectType = mnslpIpfixMessageType.toUInt32
  have typed : ∀ entry ∈ (IeEntries.ofObjects objects).entries.filter fun entry =>
      entry.1.objectType = mnslpIpfixMessageType.toUInt32, entry.1.objectType = mnslpIpfixMessageType.toUInt32 :=
    fun entry member => of_decide_eq_true (List.mem_filter.mp member).2
  generalize (IeEntries.ofObjects objects).entries.filter _ = entries at sorted numbered typed
  have length := congrArg List.length numbered
  rw [List.length_map,List.length_zipIdx,List.length_map] at length
  have inside : maxIpfixObjects < entries.length := by omega
  have number : entries[maxIpfixObjects].1.seqNbr.toNat = 1 + maxIpfixObjects := by
    have same := congrArg (fun list => list[maxIpfixObjects]?) numbered
    rw [List.getElem?_map,List.getElem?_eq_getElem inside,List.getElem?_zipIdx] at same
    obtain ⟨_,_,pair⟩ := Option.map_eq_some_iff.mp same.symm
    exact (congrArg Prod.snd pair).symm
  have first := List.pairwise_iff_getElem.mp sorted 0 maxIpfixObjects (Nat.zero_lt_of_lt inside) inside (by decide)
  have zero : Ranked.rank entries[maxIpfixObjects].1 = 0 := by
    change (((entries[maxIpfixObjects].1.objectType + entries[maxIpfixObjects].1.seqNbr).toNat : Int)) = 0
    rw [UInt32.toNat_add,typed _ (List.getElem_mem inside),number]
    decide
  rw [zero] at first
  exact absurd first (by
    change ¬ ((entries[0].1.objectType + entries[0].1.seqNbr).toNat : Int) < 0
    omega)

/-- A message keeps what was put into it, the IPFIX objects numbered and in their order, exactly
as long as no key of theirs goes round. -/
theorem objects_kept_iff (objects : List MnslpObject) : (IeEntries.ofObjects objects).Keeps objects ↔
    (ofType mnslpIpfixMessageType objects).length < 2^32 - 249 := by
  constructor
  · intro keeps
    exact Nat.lt_succ_of_le (few_of_keeps keeps)
  · intro few
    exact keeps_of_few (Nat.le_of_lt_succ few)

/-- With one IPFIX object more the last one is visited first. -/
theorem objects_not_kept : ¬ ∀ objects : List MnslpObject, (IeEntries.ofObjects objects).Keeps objects := by
  intro always
  let obj : MnslpObject := ⟨.mandatory,.ipfixMessage ⟨.null,0,0,[],true,true⟩⟩
  have count (n : Nat) : (ofType mnslpIpfixMessageType (List.replicate n obj)).length = n := by
    have typed : obj.objectType = mnslpIpfixMessageType := rfl
    rw [ofType,List.filter_replicate,if_pos (decide_eq_true typed),List.length_replicate]
  have few := few_of_keeps (always (List.replicate (maxIpfixObjects + 1) obj))
  rw [count] at few
  exact Nat.not_succ_le_self _ few

end Mnslp.Msg
