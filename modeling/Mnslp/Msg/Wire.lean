import Mnslp.Msg.Contents
import Mnslp.Msg.ImportAgain
import Mnslp.Msg.ParseTotal

/-! The bytes of objects and messages: what is written, and that it is read back as the
same objects. -/
namespace Mnslp.Msg
open Mnslp.Lib Call

namespace NetMsg

theorem write_eq_ok {msg next : NetMsg} {bytes : Bytes} : msg.write bytes = .ok next ↔
    msg.pos + bytes.length ≤ msg.buffer.length ∧
      next = ⟨msg.buffer.take msg.pos ++ bytes ++ msg.buffer.drop (msg.pos + bytes.length),msg.pos + bytes.length⟩ := by
  unfold write
  by_cases room : msg.pos + bytes.length ≤ msg.buffer.length
  · rw [if_pos room]
    constructor
    · intro same
      exact ⟨room,(Except.ok.inj same).symm⟩
    · rintro ⟨_,rfl⟩
      rfl
  · rw [if_neg room]
    constructor
    · intro same
      cases same
    · rintro ⟨fits,_⟩
      exact absurd fits room

theorem pos_of_write {msg next : NetMsg} {bytes : Bytes} (wrote : msg.write bytes = .ok next) :
    next.pos = msg.pos + bytes.length := by
  obtain ⟨_,rfl⟩ := write_eq_ok.mp wrote
  rfl

theorem inside_of_write {msg next : NetMsg} {bytes : Bytes} (wrote : msg.write bytes = .ok next) :
    next.pos ≤ next.buffer.length := by
  obtain ⟨room,rfl⟩ := write_eq_ok.mp wrote
  simp only [List.length_append,List.length_take,List.length_drop]
  omega

theorem write_nil {msg : NetMsg} (inside : msg.pos ≤ msg.buffer.length) : msg.write [] = .ok msg := by
  rw [write_eq_ok]
  refine ⟨inside,?_⟩
  simp

theorem write_write (msg : NetMsg) (first second : Bytes) :
    (msg.write first >>= fun next => next.write second) = msg.write (first ++ second) := by
  obtain ⟨buffer,pos⟩ := msg
  unfold write
  dsimp only
  rw [List.length_append,← Nat.add_assoc]
  by_cases room : pos + first.length ≤ buffer.length
  · rw [if_pos room,ok_bind]
    have size : (buffer.take pos ++ first ++ buffer.drop (pos + first.length)).length = buffer.length := by
      simp only [List.length_append,List.length_take,List.length_drop]
      omega
    have front : (buffer.take pos ++ first).length = pos + first.length := by
      rw [List.length_append,List.length_take,Nat.min_eq_left (by omega)]
    rw [size,List.take_left' front]
    by_cases both : pos + first.length + second.length ≤ buffer.length
    · rw [if_pos both,if_pos both,← front,List.drop_append,List.drop_eq_nil_of_le (Nat.le_add_right _ _)]
      simp
    · rw [if_neg both,if_neg both]
  · rw [if_neg room,if_neg (by omega)]
    rfl

theorem write_ofSize (bytes : Bytes) : (ofSize bytes.length).write bytes = .ok ⟨bytes,bytes.length⟩ := by
  rw [write_eq_ok]
  refine ⟨?_,?_⟩
  · simp [ofSize]
  · simp [ofSize]

end NetMsg

theorem orTooShort_eq_ok {α : Type} {x : Call α} {a : α} : orTooShort x = .ok a ↔ x = .ok a := by
  unfold orTooShort
  split
  · exact iff_of_false nofun nofun
  · rfl

theorem checkSerArgs_eq_ok {valid : Bool} {done : Unit} : checkSerArgs valid = .ok done ↔ valid = true := by
  unfold checkSerArgs
  cases valid
  · exact iff_of_false nofun nofun
  · exact iff_of_true rfl rfl

namespace MnslpObject

/-- What `serialize_body` writes. -/
def bodyBytes (obj : MnslpObject) : Bytes :=
  match obj.body with
  | .informationCode severity code about =>
    [severity &&& 0xF] ++ ([code] ++ Bytes.encode .network 2 (about &&& 0xFFFF).toNat)
  | .selectionMeteringEntities value | .messageHopCount value | .msgSequenceNumber value | .sessionLifetime value =>
    Bytes.encode .network 4 value.toNat
  | .ipfixMessage m => m.getMessage.getD [] ++ List.replicate (padding m.getOffset) 0

/-- What `serialize` writes. -/
def bytes (obj : MnslpObject) : Bytes :=
  Bytes.encode .network 4
    (objectHeader obj.treatment obj.objectType (UInt16.ofNat (obj.getSerializedSize - 4))).toNat ++ obj.bodyBytes

theorem serializeBody_eq (obj : MnslpObject) (msg : NetMsg) : obj.serializeBody msg = msg.write obj.bodyBytes := by
  obtain ⟨treatment,body⟩ := obj
  cases body with
  | informationCode severity code about =>
    simp only [serializeBody,bodyBytes,NetMsg.encode8,NetMsg.encode16,NetMsg.write_write]
  | ipfixMessage m => exact NetMsg.write_write msg _ _
  | selectionMeteringEntities | messageHopCount | msgSequenceNumber | sessionLifetime => rfl

theorem serialize_eq_ok {obj : MnslpObject} {msg next : NetMsg} {written : UInt32} :
    obj.serialize msg = .ok (next,written) ↔
      obj.check = true ∧ msg.write obj.bytes = .ok next ∧ written = UInt32.ofNat obj.bytes.length := by
  constructor
  · intro ended
    obtain ⟨_,checked,ended⟩ := bind_eq_ok.mp ended
    obtain ⟨headed,header,ended⟩ := bind_eq_ok.mp ended
    obtain ⟨last,body,ended⟩ := bind_eq_ok.mp ended
    rw [orTooShort_eq_ok,serializeBody_eq] at body
    have wrote : msg.write obj.bytes = .ok last := by
      rw [bytes,← NetMsg.write_write]
      exact bind_eq_ok.mpr ⟨headed,orTooShort_eq_ok.mp header,body⟩
    cases ended
    rw [NetMsg.pos_of_write wrote,Nat.add_sub_cancel_left]
    exact ⟨checkSerArgs_eq_ok.mp checked,wrote,rfl⟩
  · rintro ⟨checked,wrote,rfl⟩
    have end_pos := NetMsg.pos_of_write wrote
    rw [bytes,← NetMsg.write_write] at wrote
    obtain ⟨headed,header,body⟩ := bind_eq_ok.mp wrote
    unfold serialize
    refine bind_eq_ok.mpr ⟨(),checkSerArgs_eq_ok.mpr checked,?_⟩
    refine bind_eq_ok.mpr ⟨headed,orTooShort_eq_ok.mpr header,?_⟩
    refine bind_eq_ok.mpr ⟨next,orTooShort_eq_ok.mpr ((obj.serializeBody_eq headed).trans body),?_⟩
    rw [end_pos,Nat.add_sub_cancel_left]
    rfl

end MnslpObject

namespace MnslpMsg

def headerBytes (m : MnslpMsg) : Bytes := Bytes.encode .network 4 (m.kind.msgType.toUInt32 <<< 24).toNat

theorem serializeHeader_eq_ok {m : MnslpMsg} {msg next : NetMsg} {written : UInt32} :
    m.serializeHeader msg = .ok (next,written) ↔
      m.check = true ∧ msg.write m.headerBytes = .ok next ∧ written = 4 := by
  unfold serializeHeader
  constructor
  · intro ended
    obtain ⟨_,checked,ended⟩ := bind_eq_ok.mp ended
    obtain ⟨last,header,ended⟩ := bind_eq_ok.mp ended
    cases ended
    exact ⟨checkSerArgs_eq_ok.mp checked,orTooShort_eq_ok.mp header,rfl⟩
  · rintro ⟨checked,header,rfl⟩
    refine bind_eq_ok.mpr ⟨(),checkSerArgs_eq_ok.mpr checked,?_⟩
    exact bind_eq_ok.mpr ⟨next,orTooShort_eq_ok.mpr header,rfl⟩

theorem serializeObject_eq_ok {m : MnslpMsg} {msg : NetMsg} {key : IeObjectKey} {ended : NetMsg × UInt32} :
    m.serializeObject msg key = .ok ended ↔ ∃ obj, m.getObject key = some obj ∧ obj.serialize msg = .ok ended := by
  unfold serializeObject
  cases m.getObject key with
  | none => exact iff_of_false nofun nofun
  | some obj => simp

/-- The objects under some keys, all of which the message has. -/
def Finds (m : MnslpMsg) (keys : List IeObjectKey) (objects : List MnslpObject) : Prop :=
  keys.map m.getObject = objects.map some

theorem serializeObjects_eq_ok {m : MnslpMsg} {keys : List IeObjectKey} {msg next : NetMsg} {before written : UInt32}
    (inside : msg.pos ≤ msg.buffer.length) :
    (keys.foldlM (fun (msg,bytesWritten) key => do
      let (msg,written) ← m.serializeObject msg key
      return (msg,bytesWritten + written)) (msg,before)) = (.ok (next,written) : Call (NetMsg × UInt32)) ↔
      ∃ objects, m.Finds keys objects ∧ (∀ obj ∈ objects, obj.check = true) ∧
        msg.write (objects.flatMap MnslpObject.bytes) = .ok next ∧
        written = before + UInt32.ofNat (objects.flatMap MnslpObject.bytes).length := by
  induction keys generalizing msg before with
  | nil =>
    constructor
    · intro ended
      cases ended
      exact ⟨[],rfl,nofun,NetMsg.write_nil inside,(UInt32.add_zero _).symm⟩
    · rintro ⟨objects,found,_,wrote,rfl⟩
      cases List.map_eq_nil_iff.mp found.symm
      cases (NetMsg.write_nil inside).symm.trans wrote
      exact congrArg (fun written => Except.ok (next,written)) (UInt32.add_zero _).symm
  | cons key keys ih =>
    rw [List.foldlM_cons]
    constructor
    · intro ended
      obtain ⟨⟨middle,sum⟩,first,ended⟩ := bind_eq_ok.mp ended
      obtain ⟨⟨_,count⟩,serialized,same⟩ := bind_eq_ok.mp first
      cases same
      obtain ⟨obj,found,serialized⟩ := serializeObject_eq_ok.mp serialized
      obtain ⟨checked,wrote,rfl⟩ := MnslpObject.serialize_eq_ok.mp serialized
      obtain ⟨objects,others,sound,rest,rfl⟩ := (ih (NetMsg.inside_of_write wrote)).mp ended
      refine ⟨obj :: objects,?_,List.forall_mem_cons.mpr ⟨checked,sound⟩,?_,?_⟩
      · exact congrArg₂ List.cons found others
      · rw [List.flatMap_cons,← NetMsg.write_write]
        exact bind_eq_ok.mpr ⟨middle,wrote,rest⟩
      · rw [List.flatMap_cons,List.length_append,UInt32.ofNat_add,UInt32.add_assoc]
    · rintro ⟨objects,found,checked,wrote,rfl⟩
      obtain ⟨obj,objects,rfl⟩ : ∃ obj rest, objects = obj :: rest := by
        cases objects with
        | nil => cases found
        | cons obj rest => exact ⟨obj,rest,rfl⟩
      obtain ⟨here,others⟩ := List.cons_eq_cons.mp found
      obtain ⟨own,sound⟩ := List.forall_mem_cons.mp checked
      rw [List.flatMap_cons,← NetMsg.write_write] at wrote
      obtain ⟨middle,first,rest⟩ := bind_eq_ok.mp wrote
      refine bind_eq_ok.mpr ⟨(middle,before + UInt32.ofNat obj.bytes.length),?_,?_⟩
      · refine bind_eq_ok.mpr ⟨(middle,UInt32.ofNat obj.bytes.length),?_,rfl⟩
        exact serializeObject_eq_ok.mpr ⟨obj,here,MnslpObject.serialize_eq_ok.mpr ⟨own,first,rfl⟩⟩
      · refine (ih (NetMsg.inside_of_write first)).mpr ⟨objects,others,sound,rest,?_⟩
        rw [List.flatMap_cons,List.length_append,UInt32.ofNat_add,UInt32.add_assoc]

/-- The bytes of the header and of some objects. -/
def bytesWith (m : MnslpMsg) (objects : List MnslpObject) : Bytes :=
  m.headerBytes ++ objects.flatMap MnslpObject.bytes

theorem serializeKeys_eq_ok {m : MnslpMsg} {keys : List IeObjectKey} {msg next : NetMsg} {written : UInt32} :
    m.serializeKeys keys msg = .ok (next,written) ↔ m.check = true ∧ ∃ objects, m.Finds keys objects ∧
      (∀ obj ∈ objects, obj.check = true) ∧ msg.write (m.bytesWith objects) = .ok next ∧
      written = UInt32.ofNat (m.bytesWith objects).length := by
  unfold serializeKeys bytesWith
  have size (objects : List MnslpObject) :
      4 + UInt32.ofNat (objects.flatMap MnslpObject.bytes).length =
        UInt32.ofNat (m.headerBytes ++ objects.flatMap MnslpObject.bytes).length := by
    rw [List.length_append,UInt32.ofNat_add]
    rfl
  constructor
  · intro ended
    obtain ⟨⟨headed,before⟩,header,ended⟩ := bind_eq_ok.mp ended
    obtain ⟨checked,wrote,rfl⟩ := serializeHeader_eq_ok.mp header
    obtain ⟨objects,found,sound,rest,rfl⟩ := (serializeObjects_eq_ok (NetMsg.inside_of_write wrote)).mp ended
    refine ⟨checked,objects,found,sound,?_,size objects⟩
    rw [← NetMsg.write_write]
    exact bind_eq_ok.mpr ⟨headed,wrote,rest⟩
  · rintro ⟨checked,objects,found,sound,wrote,rfl⟩
    rw [← NetMsg.write_write] at wrote
    obtain ⟨headed,header,rest⟩ := bind_eq_ok.mp wrote
    refine bind_eq_ok.mpr ⟨(headed,4),serializeHeader_eq_ok.mpr ⟨checked,header,rfl⟩,?_⟩
    exact (serializeObjects_eq_ok (NetMsg.inside_of_write header)).mpr ⟨objects,found,sound,rest,(size objects).symm⟩

end MnslpMsg

/-- The types of the unique objects that a message of a kind writes, in their order. -/
def MsgKind.writtenTypes : MsgKind → List UInt16
  | .configure => [msgSequenceNumberType,sessionLifetimeType,selectionMeteringEntitiesType,messageHopCountType]
  | .response => [msgSequenceNumberType,informationCodeType,sessionLifetimeType]
  | .notify => [informationCodeType]
  | .options => [msgSequenceNumberType]
  | .refresh => [msgSequenceNumberType,sessionLifetimeType]

/-- Whether it writes IPFIX messages behind them. -/
def MsgKind.writesIpfix : MsgKind → Bool
  | .configure | .response => true
  | _ => false

namespace MnslpMsg

def wireKeys (m : MnslpMsg) : List IeObjectKey :=
  m.kind.writtenTypes.map uniqueKey ++ if m.kind.writesIpfix then m.ipfixKeys else []

/-- All five classes do the same with their lists of keys. -/
theorem serialize_eq (m : MnslpMsg) : m.serialize = m.serializeKeys m.wireKeys := by
  unfold serialize wireKeys
  cases kind : m.kind with
  | configure =>
    funext msg
    dsimp only
    unfold serializeConfigure
    split
    · rfl
    · rename_i incomplete
      have failed : m.check = false := by
        unfold check
        rw [kind]
        simpa using incomplete
      simp [serializeKeys,serializeHeader,checkSerArgs,failed,Call.throw]
  | response | notify | options | refresh => rfl

end MnslpMsg

theorem padding_header (length : Nat) : padding (4 + length) = padding length := by
  unfold padding
  rw [Nat.add_mod_left]

theorem MnslpIpfixMessage.getMessage_of_offset {m : MnslpIpfixMessage} (written : 0 < m.getOffset) :
    ∃ bytes, m.getMessage = some bytes ∧ bytes.length = m.getOffset := by
  unfold getOffset at written ⊢
  unfold getMessage
  cases live : m.message with
  | live t =>
    rw [live] at written
    dsimp only at written ⊢
    split
    · rename_i required
      rw [if_pos required] at written
      exact absurd written (Nat.lt_irrefl _)
    · exact ⟨_,rfl,rfl⟩
  | null | dangling =>
    rw [live] at written
    exact absurd written (Nat.lt_irrefl _)

namespace MnslpObject

theorem offset_of_check {treatment : Treatment} {message : MnslpIpfixMessage}
    (checked : check ⟨treatment,.ipfixMessage message⟩ = true) : 0 < message.getOffset := by
  have both := of_decide_eq_true checked
  exact of_decide_eq_true both.2

/-- `serialize` writes as many bytes as `get_serialized_size` says. -/
theorem length_bytes {obj : MnslpObject} (checked : obj.check = true) : obj.bytes.length = obj.getSerializedSize := by
  obtain ⟨treatment,body⟩ := obj
  cases body with
  | ipfixMessage m =>
    have written := offset_of_check checked
    obtain ⟨message,found,size⟩ := MnslpIpfixMessage.getMessage_of_offset written
    simp only [bytes,bodyBytes,found,Option.getD_some,List.length_append,Bytes.length_encode,List.length_replicate,size,
      getSerializedSize,padding_header]
    omega
  | informationCode | selectionMeteringEntities | messageHopCount | msgSequenceNumber | sessionLifetime => rfl

end MnslpObject

theorem toNat_objectHeader {treatment : Treatment} {objectType bodyLength : UInt16} (small : objectType.toNat < 0x1000) :
    (objectHeader treatment objectType bodyLength).toNat =
      treatment.bits.toNat * 2^30 + objectType.toNat * 2^16 + bodyLength.toNat / 4 := by
  have short := bodyLength.toNat_lt
  have first : treatment.bits.toNat < 4 := by cases treatment <;> decide
  have high : (treatment.bits <<< 30).toNat = 2^30 * treatment.bits.toNat := by cases treatment <;> rfl
  have middle : (objectType.toUInt32 <<< 16).toNat = 2^16 * objectType.toNat := by
    rw [UInt32.toNat_shiftLeft,Nat.shiftLeft_eq]
    change objectType.toNat * 2^16 % 2^32 = _
    omega
  have low : (bodyLength / 4).toUInt32.toNat = bodyLength.toNat / 4 := by simp
  unfold objectHeader
  rw [UInt32.toNat_or,UInt32.toNat_or,high,middle,low,← Nat.two_pow_add_eq_or_of_lt (by omega)]
  have regroup : 2^30 * treatment.bits.toNat + 2^16 * objectType.toNat =
      2^16 * (2^14 * treatment.bits.toNat + objectType.toNat) := by omega
  rw [regroup,← Nat.two_pow_add_eq_or_of_lt (by omega)]
  omega

section
variable {treatment : Treatment} {objectType bodyLength : UInt16} (small : objectType.toNat < 0x1000)
include small

theorem extractObjectType_objectHeader : extractObjectType (objectHeader treatment objectType bodyLength) = objectType := by
  have short := bodyLength.toNat_lt
  apply UInt16.toNat_inj.mp
  unfold extractObjectType
  have mask : (0xFFF : UInt32).toNat = 2^12 - 1 := rfl
  rw [UInt32.toNat_toUInt16,UInt32.toNat_and,mask,Nat.and_two_pow_sub_one_eq_mod,UInt32.toNat_shiftRight,
    toNat_objectHeader small,Nat.shiftRight_eq_div_pow]
  change _ / 2^16 % 2^12 % 2^16 = _
  omega

theorem treatment_objectHeader :
    Treatment.ofBits (objectHeader treatment objectType bodyLength >>> 30) = treatment := by
  have bits : objectHeader treatment objectType bodyLength >>> 30 = treatment.bits := by
    apply UInt32.toNat_inj.mp
    have short := bodyLength.toNat_lt
    have first : treatment.bits.toNat < 4 := by cases treatment <;> decide
    rw [UInt32.toNat_shiftRight,toNat_objectHeader small,Nat.shiftRight_eq_div_pow]
    change _ / 2^30 = _
    omega
  rw [bits]
  cases treatment <;> rfl

theorem declaredLength_objectHeader (short : bodyLength.toNat / 4 < 0x1000) (words : bodyLength.toNat % 4 = 0) :
    declaredLength (objectHeader treatment objectType bodyLength) = bodyLength := by
  apply UInt16.toNat_inj.mp
  unfold declaredLength
  have mask : (0xFFF : UInt32).toNat = 2^12 - 1 := rfl
  rw [UInt32.toNat_toUInt16,UInt32.toNat_mul,UInt32.toNat_and,mask,Nat.and_two_pow_sub_one_eq_mod,
    toNat_objectHeader small]
  change _ % 2^12 * 4 % 2^32 % 2^16 = _
  omega

end

theorem NetMsg.decode32_encode (before after : Bytes) (value : UInt32) :
    NetMsg.decode32 ⟨before ++ (Bytes.encode .network 4 value.toNat ++ after),before.length⟩ =
      .ok (value,⟨before ++ (Bytes.encode .network 4 value.toNat ++ after),before.length + 4⟩) := by
  have slice := Bytes.slice_append_left before (Bytes.encode .network 4 value.toNat) after
  rw [Bytes.length_encode,List.append_assoc] at slice
  have decoded : UInt32.ofNat (Bytes.decode .network (Bytes.encode .network 4 value.toNat)) = value := by
    rw [Bytes.decode_encode,Nat.mod_eq_of_lt (show value.toNat < 256^4 from value.toNat_lt),UInt32.ofNat_toNat]
  unfold NetMsg.decode32 NetMsg.peek32
  dsimp only
  rw [slice]
  dsimp only
  rw [decoded]
  rfl

namespace MnslpIpfixMessage

/-- The bytes of the message as the body of an object. -/
def padded (m : MnslpIpfixMessage) : Bytes := m.getMessage.getD [] ++ List.replicate (padding m.getOffset) 0

/-- Whenever it is imported from these bytes, an equal message comes out. -/
def ReadsBack (m : MnslpIpfixMessage) : Prop :=
  ∀ env, ∃ imported nread, importBody env m.padded = .ok (imported,nread) ∧ m.isEqual imported = .ok true

theorem getMessage_eq_some {m : MnslpIpfixMessage} {bytes : Bytes} (written : m.getMessage = some bytes) :
    ∃ t, m.message = .live t ∧ t.buffer = bytes ∧ m.getOffset = bytes.length := by
  unfold getMessage at written
  unfold getOffset
  cases live : m.message with
  | live t =>
    rw [live] at written
    dsimp only at written ⊢
    split at written
    · cases written
    · rename_i done
      cases written
      exact ⟨t,rfl,rfl,if_neg done⟩
  | null | dangling =>
    rw [live] at written
    cases written

/-- What is imported from the padded bytes leaves at most the padding. -/
theorem offset_of_import {env : ImportEnv} {m imported : MnslpIpfixMessage} {body : Bytes} {nread : Nat}
    (read : importBody env body = .ok (imported,nread)) (same : m.isEqual imported = .ok true)
    (written : 0 < m.getOffset) : m.getOffset = nread ∧ nread ≤ ipfixDefaultBuflen := by
  obtain ⟨message,_,inside,small⟩ := importBody_ok read
  obtain ⟨other,live,buffer,_⟩ := getMessage_eq_some message
  obtain ⟨t,own,equal⟩ := offset_of_isEqual live same
  obtain ⟨bytes,found,size⟩ := getMessage_of_offset written
  obtain ⟨t',own',buffer',_⟩ := getMessage_eq_some found
  rw [own] at own'
  cases own'
  refine ⟨?_,small⟩
  rw [← size,← buffer']
  change t.offset = nread
  rw [equal,IpfixT.offset,buffer,List.length_take,Nat.min_eq_left inside]

end MnslpIpfixMessage

namespace MnslpObject

/-- Two objects of which the second was read from the bytes of the first. -/
inductive Rebuilt : MnslpObject → MnslpObject → Prop
  | number {obj : MnslpObject} (unique : obj.isUnique = true) : Rebuilt obj obj
  | ipfix {treatment : Treatment} {message imported : MnslpIpfixMessage} (same : message.isEqual imported = .ok true) :
      Rebuilt ⟨treatment,.ipfixMessage message⟩ ⟨treatment,.ipfixMessage imported⟩

theorem Rebuilt.same {obj other : MnslpObject} (rebuilt : obj.Rebuilt other) :
    other.isUnique = obj.isUnique ∧ other.objectType = obj.objectType := by
  cases rebuilt <;> exact ⟨rfl,rfl⟩

/-- The object can be written, and its IPFIX message is read back. -/
structure Readable (obj : MnslpObject) : Prop where
  checked : obj.check = true
  imports : ∀ message, obj.body = .ipfixMessage message → message.ReadsBack

theorem Readable.size {obj : MnslpObject} (readable : obj.Readable) :
    obj.getSerializedSize ≤ 1408 ∧ obj.getSerializedSize % 4 = 0 ∧ 8 ≤ obj.getSerializedSize := by
  obtain ⟨treatment,body⟩ := obj
  cases body with
  | ipfixMessage message =>
    have written := offset_of_check readable.checked
    obtain ⟨imported,nread,read,same⟩ := readable.imports message rfl {}
    obtain ⟨size,small⟩ := MnslpIpfixMessage.offset_of_import read same written
    have few : message.getOffset ≤ 1400 := size ▸ small
    simp only [getSerializedSize,padding]
    split <;> omega
  | informationCode | selectionMeteringEntities | messageHopCount | msgSequenceNumber | sessionLifetime =>
    simp [getSerializedSize]

end MnslpObject

def ObjectBody.objectClass : ObjectBody → ObjectClass
  | .informationCode .. => .informationCode
  | .selectionMeteringEntities _ => .selectionMeteringEntities
  | .messageHopCount _ => .messageHopCount
  | .msgSequenceNumber _ => .msgSequenceNumber
  | .sessionLifetime _ => .sessionLifetime
  | .ipfixMessage _ => .mnslpIpfixMessage

theorem newObject_objectType (obj : MnslpObject) : newObject obj.objectType = some obj.body.objectClass := by
  obtain ⟨treatment,body⟩ := obj
  cases body <;> rfl

namespace MnslpObject

theorem length_bodyBytes {obj : MnslpObject} (checked : obj.check = true) :
    obj.bodyBytes.length = obj.getSerializedSize - 4 := by
  have size := length_bytes checked
  rw [bytes,List.length_append,Bytes.length_encode] at size
  omega

theorem bodyBytes_informationCode {treatment : Treatment} {severity code : UInt8} {about : UInt16}
    (checked : check ⟨treatment,.informationCode severity code about⟩ = true) :
    severity.toNat < 16 ∧ about = 0 ∧ bodyBytes ⟨treatment,.informationCode severity code about⟩ =
      Bytes.encode .network 4 (UInt32.ofNat (severity.toNat * 2^24 + code.toNat * 2^16)).toNat := by
  have both := of_decide_eq_true checked
  have fits := of_decide_eq_true both.2
  rw [not_or,not_not,not_not] at fits
  have about_zero : about = 0 := by
    have zero := congrArg UInt16.toNat fits.2
    have mask : (0xFFFF : UInt16).toNat = 2^16 - 1 := rfl
    rw [UInt16.toNat_and,mask,Nat.and_two_pow_sub_one_eq_mod,Nat.mod_eq_of_lt about.toNat_lt] at zero
    exact UInt16.toNat_inj.mp zero
  have low : severity.toNat < 16 := by
    have zero := congrArg UInt8.toNat fits.1
    rw [UInt8.toNat_and] at zero
    have all : ∀ n < 256, n &&& 0xF0 = 0 → n < 16 := by decide +kernel
    exact all severity.toNat severity.toNat_lt zero
  refine ⟨low,about_zero,?_⟩
  subst about_zero
  have value : (UInt32.ofNat (severity.toNat * 2^24 + code.toNat * 2^16)).toNat =
      severity.toNat * 2^24 + code.toNat * 2^16 := by
    have small := code.toNat_lt
    rw [UInt32.toNat_ofNat']
    omega
  have mask : severity &&& 0xF = severity := by
    apply UInt8.toNat_inj.mp
    have mask : (0xF : UInt8).toNat = 2^4 - 1 := rfl
    rw [UInt8.toNat_and,mask,Nat.and_two_pow_sub_one_eq_mod,Nat.mod_eq_of_lt low]
  have byte {n : Nat} {b : UInt8} (same : n % 256 = b.toNat) : UInt8.ofNat n = b := by
    apply UInt8.toNat_inj.mp
    rw [UInt8.toNat_ofNat']
    exact same
  have short := severity.toNat_lt
  have small := code.toNat_lt
  rw [value]
  simp only [bodyBytes,mask,Bytes.encode,Bytes.ofNat]
  rw [@byte ((severity.toNat * 2^24 + code.toNat * 2^16) / 256 / 256 / 256) severity (by omega),
    @byte ((severity.toNat * 2^24 + code.toNat * 2^16) / 256 / 256) code (by omega),
    @byte ((severity.toNat * 2^24 + code.toNat * 2^16) / 256) 0 (by change _ = 0; omega),
    @byte (severity.toNat * 2^24 + code.toNat * 2^16) 0 (by change _ = 0; omega)]
  rfl

theorem informationCode_fields {severity : UInt8} (low : severity.toNat < 16) (code : UInt8) :
    let value := UInt32.ofNat (severity.toNat * 2^24 + code.toNat * 2^16)
    (value >>> 24 &&& 0xF).toUInt8 = severity ∧ (value >>> 16 &&& 0xFF).toUInt8 = code ∧
      (value &&& 0xFFFF).toUInt16 = 0 := by
  intro value
  have small := code.toNat_lt
  have known : value.toNat = severity.toNat * 2^24 + code.toNat * 2^16 := by
    change (UInt32.ofNat _).toNat = _
    rw [UInt32.toNat_ofNat']
    omega
  have four : (0xF : UInt32).toNat = 2^4 - 1 := rfl
  have eight : (0xFF : UInt32).toNat = 2^8 - 1 := rfl
  have sixteen : (0xFFFF : UInt32).toNat = 2^16 - 1 := rfl
  refine ⟨UInt8.toNat_inj.mp ?_,UInt8.toNat_inj.mp ?_,UInt16.toNat_inj.mp ?_⟩
  · rw [UInt32.toNat_toUInt8,UInt32.toNat_and,four,Nat.and_two_pow_sub_one_eq_mod,UInt32.toNat_shiftRight,known,
      Nat.shiftRight_eq_div_pow]
    change _ / 2^24 % 2^4 % 2^8 = _
    omega
  · rw [UInt32.toNat_toUInt8,UInt32.toNat_and,eight,Nat.and_two_pow_sub_one_eq_mod,UInt32.toNat_shiftRight,known,
      Nat.shiftRight_eq_div_pow]
    change _ / 2^16 % 2^8 % 2^8 = _
    omega
  · rw [UInt32.toNat_toUInt16,UInt32.toNat_and,sixteen,Nat.and_two_pow_sub_one_eq_mod,known]
    change _ % 2^16 % 2^16 = 0
    omega

theorem deserializeBody_bytes (env : ParseEnv) {obj : MnslpObject} (readable : obj.Readable) (front after : Bytes) :
    ∃ other, deserializeBody env obj.body.objectClass obj.treatment ⟨front ++ (obj.bodyBytes ++ after),front.length⟩
        obj.bodyBytes.length =
      .ok (.object (other,⟨front ++ (obj.bodyBytes ++ after),front.length + obj.bodyBytes.length⟩)) ∧
      obj.Rebuilt other := by
  obtain ⟨treatment,body⟩ := obj
  cases body with
  | ipfixMessage message =>
    have written := offset_of_check readable.checked
    obtain ⟨imported,nread,read,same⟩ := readable.imports message rfl (env front.length)
    obtain ⟨size,_⟩ := MnslpIpfixMessage.offset_of_import read same written
    obtain ⟨bytes,found,length⟩ := MnslpIpfixMessage.getMessage_of_offset written
    refine ⟨⟨treatment,.ipfixMessage imported⟩,?_,.ipfix same⟩
    have body : ((front ++ (message.padded ++ after)).drop front.length).take message.padded.length = message.padded := by
      rw [List.drop_left,List.take_left]
    have zeros : (message.padded.drop nread).all (· = 0) = true := by
      rw [MnslpIpfixMessage.padded,found,Option.getD_some,← size,← length,List.drop_left]
      simp
    change deserializeIpfixMessage (env front.length) treatment ⟨front ++ (message.padded ++ after),front.length⟩
      message.padded.length = _
    unfold deserializeIpfixMessage
    dsimp only
    rw [body,read,ok_bind]
    dsimp only
    rw [if_pos zeros]
    rfl
  | informationCode severity code about =>
    obtain ⟨low,rfl,same⟩ := bodyBytes_informationCode readable.checked
    rw [same]
    refine ⟨_,?_,.number rfl⟩
    refine bind_eq_ok.mpr ⟨_,NetMsg.decode32_encode front after _,?_⟩
    obtain ⟨first,second,third⟩ := informationCode_fields low code
    dsimp only
    rw [first,second,third]
    exact if_pos readable.checked
  | selectionMeteringEntities value | messageHopCount value | msgSequenceNumber value | sessionLifetime value =>
    refine ⟨_,?_,.number rfl⟩
    exact bind_eq_ok.mpr ⟨_,NetMsg.decode32_encode front after value,rfl⟩

/-- What was written is read back, wherever it stands. -/
theorem deserializeObject_bytes (env : ParseEnv) {obj : MnslpObject} (readable : obj.Readable) (before after : Bytes) :
    ∃ other, deserializeObject env ⟨before ++ (obj.bytes ++ after),before.length⟩ =
      .ok (.object (other,⟨before ++ (obj.bytes ++ after),before.length + obj.bytes.length⟩)) ∧ obj.Rebuilt other := by
  obtain ⟨few,words,some⟩ := readable.size
  have length := length_bodyBytes readable.checked
  have body_length : (UInt16.ofNat (obj.getSerializedSize - 4)).toNat = obj.bodyBytes.length := by
    rw [length,UInt16.toNat_ofNat']
    omega
  have short : (UInt16.ofNat (obj.getSerializedSize - 4)).toNat / 4 < 0x1000 := by omega
  have small : obj.objectType.toNat < 0x1000 := by
    obtain ⟨treatment,body⟩ := obj
    cases body <;> exact of_decide_eq_true rfl
  generalize header_eq : objectHeader obj.treatment obj.objectType (UInt16.ofNat (obj.getSerializedSize - 4)) = header
  have treated : Treatment.ofBits (header >>> 30) = obj.treatment := by
    rw [← header_eq,treatment_objectHeader small]
  have typed : extractObjectType header = obj.objectType := by
    rw [← header_eq,extractObjectType_objectHeader small]
  have declared : (declaredLength header).toNat = obj.bodyBytes.length := by
    rw [← header_eq,declaredLength_objectHeader small short (by omega),body_length]
  obtain ⟨other,read,rebuilt⟩ :=
    deserializeBody_bytes env readable (before ++ Bytes.encode .network 4 header.toNat) after
  have front : (before ++ Bytes.encode .network 4 header.toNat).length = before.length + 4 := by
    rw [List.length_append,Bytes.length_encode]
  have whole : obj.bytes = Bytes.encode .network 4 header.toNat ++ obj.bodyBytes := by rw [bytes,header_eq]
  rw [front,List.append_assoc] at read
  refine ⟨other,?_,rebuilt⟩
  rw [whole,List.append_assoc,List.length_append,Bytes.length_encode]
  unfold deserializeObject
  rw [NetMsg.decode32_encode]
  dsimp only
  rw [typed,newObject_objectType]
  dsimp only
  rw [declared,treated,if_neg,read,Nat.add_assoc]
  simp only [NetMsg.getBytesLeft,List.length_append,Bytes.length_encode]
  omega

end MnslpObject

namespace ParseState

theorem machine_object {env : ParseEnv} {s : ParseState} {obj : MnslpObject} {msg : NetMsg}
    (more : s.msg.getBytesLeft ≠ 0) (parsed : deserializeObject env s.msg = .ok (.object (obj,msg)))
    (single : ¬ (obj.isUnique = true ∧ (s.m.getObject (uniqueKey obj.objectType)).isSome = true)) :
    machine env s = .inl ⟨msg,s.m.setObject obj⟩ := by
  rw [machine_inl]
  unfold step
  rw [if_neg more,parsed,ok_bind]
  dsimp only
  rw [if_neg single]
  rfl

/-- The loop reads one object behind the other, if no unique one is repeated. -/
theorem reaches_objects (env : ParseEnv) {objects : List MnslpObject} (readable : ∀ obj ∈ objects, obj.Readable)
    (distinct : objects.Pairwise fun a b => a.isUnique = true → a.objectType ≠ b.objectType) (before : Bytes)
    {m : MnslpMsg} {c : Contents} (holds : m.Holds c)
    (absent : ∀ obj ∈ objects, obj.isUnique = true → c.unique obj.objectType = none) :
    ∃ others m', List.Forall₂ MnslpObject.Rebuilt objects others ∧ m'.Holds (others.foldl .put c) ∧ m'.kind = m.kind ∧
      (m'.getNumObjects = 0 → objects = [] ∧ m.getNumObjects = 0) ∧
      Machine.Reaches (machine env) ⟨⟨before ++ objects.flatMap MnslpObject.bytes,before.length⟩,m⟩
        ⟨⟨before ++ objects.flatMap MnslpObject.bytes,(before ++ objects.flatMap MnslpObject.bytes).length⟩,m'⟩ := by
  induction objects generalizing before m c with
  | nil =>
    refine ⟨[],m,.nil,holds,rfl,fun none => ⟨rfl,none⟩,?_⟩
    rw [List.flatMap_nil,List.append_nil]
    exact .refl _
  | cons obj objects ih =>
    obtain ⟨first,readable⟩ := List.forall_mem_cons.mp readable
    obtain ⟨different,distinct⟩ := List.pairwise_cons.mp distinct
    obtain ⟨missing,absent⟩ := List.forall_mem_cons.mp absent
    obtain ⟨other,read,rebuilt⟩ :=
      MnslpObject.deserializeObject_bytes env first before (objects.flatMap MnslpObject.bytes)
    obtain ⟨unique,typed⟩ := rebuilt.same
    have single : ¬ (other.isUnique = true ∧ (m.getObject (uniqueKey other.objectType)).isSome = true) := by
      rintro ⟨isUnique,there⟩
      rw [holds.getObject_uniqueKey (objectType_mem isUnique),typed,missing (unique ▸ isUnique)] at there
      cases there
    have fresh : ∀ obj ∈ objects, obj.isUnique = true → (c.put other).unique obj.objectType = none := by
      intro later member isUnique
      rw [Contents.unique_put,unique,typed,if_neg]
      · exact absent later member isUnique
      · rintro ⟨own,same⟩
        exact different later member own same.symm
    obtain ⟨others,m',copies,contents,kind,some,reaches⟩ :=
      ih readable distinct (before ++ obj.bytes) (holds.put other) fresh
    rw [List.append_assoc,← List.flatMap_cons,List.length_append] at reaches
    refine ⟨other :: others,m',.cons rebuilt copies,contents,kind.trans (MnslpMsg.kind_setObject m other),?_,
      .head ?_ reaches⟩
    · intro none
      exact absurd (some none).2 (MnslpMsg.setObject_some m other)
    · apply machine_object _ read single
      have size := first.size
      have length := MnslpObject.length_bytes first.checked
      unfold NetMsg.getBytesLeft
      simp only [List.flatMap_cons,List.length_append]
      omega

theorem finish_of_reaches {env : ParseEnv} {start final : ParseState} {result : Call (Parsed MnslpMsg)}
    (reaches : Machine.Reaches (machine env) start final) (last : machine env final = .inr result) :
    start.finish env = result := by
  obtain ⟨_,fuel,other,_,_,ended,same⟩ := finish_reaches env start
  obtain ⟨more,again⟩ := reaches.run last
  rw [same,Machine.run_unique ended again]

end ParseState

theorem parseStart_bytes (m : MnslpMsg) (objects : List MnslpObject) :
    parseStart (m.bytesWith objects) = .ok ⟨⟨m.bytesWith objects,4⟩,.new m.kind⟩ := by
  have read := NetMsg.decode32_encode [] (objects.flatMap MnslpObject.bytes) (m.kind.msgType.toUInt32 <<< 24)
  have known : newMessage (extractMsgType (m.kind.msgType.toUInt32 <<< 24)) = some m.kind := by
    cases m.kind <;> rfl
  rw [List.nil_append,List.length_nil] at read
  unfold parseStart MnslpMsg.bytesWith MnslpMsg.headerBytes
  rw [read]
  dsimp only
  rw [known]

/-- The bytes of a header and of different readable objects are parsed to a message of them. -/
theorem deserialize_bytesWith (env : ParseEnv) (m : MnslpMsg) {objects : List MnslpObject} (some : objects ≠ [])
    (readable : ∀ obj ∈ objects, obj.Readable)
    (distinct : objects.Pairwise fun a b => a.isUnique = true → a.objectType ≠ b.objectType) :
    ∃ others m', deserialize env (m.bytesWith objects) = .ok (.object m') ∧ m'.kind = m.kind ∧
      List.Forall₂ MnslpObject.Rebuilt objects others ∧ m'.Holds (others.foldl .put .empty) := by
  obtain ⟨others,m',copies,holds,kind,count,reaches⟩ := ParseState.reaches_objects env readable distinct m.headerBytes
    (MnslpMsg.holds_new m.kind) (fun _ _ _ => rfl)
  refine ⟨others,m',?_,kind,copies,holds⟩
  unfold deserialize
  rw [parseStart_bytes]
  dsimp only
  apply ParseState.finish_of_reaches reaches
  unfold ParseState.machine ParseState.step
  rw [if_pos,if_neg (fun none => some (count none).1)]
  exact Nat.sub_self _

end Mnslp.Msg
