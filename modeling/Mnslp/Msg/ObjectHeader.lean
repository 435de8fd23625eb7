import Mnslp.Msg.Framing
import Mnslp.Msg.Wire

/-! What the header of an object says after the object was written, for the classes of the
library and for any other class of objects. -/
namespace Mnslp.Msg
open Mnslp.Lib Call

/-- `mnslp_object::serialize` for an object with what was given to `set_object_type` and with
what the methods of its class return: whether the body is valid, the size with the header, the
bytes of the body. -/
def serializeAs (treatment : Treatment) (objectType : UInt16) (validBody : Bool) (serializedSize : Nat) (body : Bytes)
    (msg : NetMsg) : Call (NetMsg × UInt32) := do
  checkSerArgs (objectType &&& ~~~0xFFF = 0 ∧ validBody)
  let bodyLength := UInt16.ofNat (serializedSize - 4)
  let headed ← orTooShort (msg.encode32 (objectHeader treatment objectType bodyLength))
  let written ← orTooShort (headed.write body)
  return (written,UInt32.ofNat (written.pos - msg.pos))

/-- The header at the position gives back what was written, and the bits above the length and
above the type are not set. -/
def HeaderReadsBack (msg : NetMsg) (treatment : Treatment) (objectType : UInt16) (bodyLength : Nat) : Prop :=
  ∃ header, msg.peek32 = .ok header ∧ Treatment.ofBits (header >>> 30) = treatment ∧
    extractObjectType header = objectType ∧ (declaredLength header).toNat = bodyLength ∧
      header >>> 12 &&& 0xF = 0 ∧ header >>> 28 &&& 3 = 0

theorem MnslpObject.serialize_eq_serializeAs (obj : MnslpObject) (msg : NetMsg) : obj.serialize msg =
    serializeAs obj.treatment obj.objectType obj.checkBody obj.getSerializedSize obj.bodyBytes msg := by
  unfold MnslpObject.serialize serializeAs
  simp only [serializeBody_eq]
  rfl

theorem small_of_check {objectType : UInt16} (checked : objectType &&& ~~~0xFFF = 0) : objectType.toNat < 0x1000 := by
  have zero := congrArg UInt16.toNat checked
  rw [UInt16.toNat_and] at zero
  have parts : objectType.toNat &&& (0xFFF ||| 0xF000) = objectType.toNat :=
    (Nat.and_two_pow_sub_one_eq_mod objectType.toNat 16).trans (Nat.mod_eq_of_lt objectType.toNat_lt)
  have low : objectType.toNat &&& 0xFFF = objectType.toNat % 2^12 := Nat.and_two_pow_sub_one_eq_mod objectType.toNat 12
  rw [Nat.and_or_distrib_left,low] at parts
  change objectType.toNat &&& 0xF000 = 0 at zero
  rw [zero,Nat.or_zero] at parts
  rw [← parts]
  exact Nat.mod_lt _ (by decide)

section
variable {treatment : Treatment} {objectType : UInt16} {validBody : Bool} {size : Nat} {body : Bytes} {msg next : NetMsg}
  {written : UInt32}

theorem peek32_written {value : UInt32} {headed : NetMsg} (header : msg.encode32 value = .ok headed)
    (wrote : headed.write body = .ok next) : NetMsg.peek32 ⟨next.buffer,msg.pos⟩ = .ok value := by
  have both : msg.write (Bytes.encode .network 4 value.toNat ++ body) = .ok next := by
    rw [← NetMsg.write_write]
    exact bind_eq_ok.mpr ⟨headed,header,wrote⟩
  obtain ⟨room,rfl⟩ := NetMsg.write_eq_ok.mp both
  have front : (msg.buffer.take msg.pos).length = msg.pos := by
    rw [List.length_take,Nat.min_eq_left (by omega)]
  have read := NetMsg.decode32_encode (msg.buffer.take msg.pos)
    (body ++ msg.buffer.drop (msg.pos + (Bytes.encode .network 4 value.toNat ++ body).length)) value
  rw [front] at read
  simp only [List.append_assoc]
  exact (NetMsg.decode32_eq_ok read).1

theorem serializeAs_ok (serialized : serializeAs treatment objectType validBody size body msg = .ok (next,written)) :
    objectType.toNat < 0x1000 ∧
      NetMsg.peek32 ⟨next.buffer,msg.pos⟩ = .ok (objectHeader treatment objectType (UInt16.ofNat (size - 4))) := by
  obtain ⟨_,checked,ended⟩ := bind_eq_ok.mp serialized
  obtain ⟨headed,header,ended⟩ := bind_eq_ok.mp ended
  obtain ⟨last,wrote,ended⟩ := bind_eq_ok.mp ended
  cases ended
  have both := of_decide_eq_true (checkSerArgs_eq_ok.mp checked)
  exact ⟨small_of_check both.1,peek32_written (orTooShort_eq_ok.mp header) (orTooShort_eq_ok.mp wrote)⟩

/-- The number of words lends its low 12 bits to the length field and the two above to the
reserved bits next to it. -/
theorem headerReadsBack_iff {words : Nat}
    (serialized : serializeAs treatment objectType validBody (4 + 4 * words) body msg = .ok (next,written)) :
    HeaderReadsBack ⟨next.buffer,msg.pos⟩ treatment objectType (4 * words) ↔ words < 0x1000 := by
  obtain ⟨small,read⟩ := serializeAs_ok serialized
  rw [Nat.add_sub_cancel_left] at read
  constructor
  · rintro ⟨header,same,_,_,length,_,_⟩
    rw [toNat_declaredLength] at length
    have bound : declaredWords header < 2^12 := by
      have mask : (0xFFF : UInt32).toNat = 2^12 - 1 := rfl
      rw [declaredWords,UInt32.toNat_and,mask,Nat.and_two_pow_sub_one_eq_mod]
      exact Nat.mod_lt _ (by decide)
    omega
  · intro few
    have length : (UInt16.ofNat (4 * words)).toNat = 4 * words := by
      rw [UInt16.toNat_ofNat']
      omega
    have short : (UInt16.ofNat (4 * words)).toNat / 4 < 0x1000 := by omega
    have whole := @toNat_objectHeader treatment _ (UInt16.ofNat (4 * words)) small
    have four : (0xF : UInt32).toNat = 2^4 - 1 := rfl
    have two : (3 : UInt32).toNat = 2^2 - 1 := rfl
    refine ⟨_,read,treatment_objectHeader small,extractObjectType_objectHeader small,?_,?_,?_⟩
    · rw [declaredLength_objectHeader small short (by omega),length]
    · apply UInt32.toNat_inj.mp
      rw [UInt32.toNat_and,four,Nat.and_two_pow_sub_one_eq_mod,UInt32.toNat_shiftRight,whole,Nat.shiftRight_eq_div_pow]
      change _ / 2^12 % 2^4 = 0
      omega
    · apply UInt32.toNat_inj.mp
      rw [UInt32.toNat_and,two,Nat.and_two_pow_sub_one_eq_mod,UInt32.toNat_shiftRight,whole,Nat.shiftRight_eq_div_pow]
      change _ / 2^28 % 2^2 = 0
      omega

end

theorem MnslpObject.words_getSerializedSize (obj : MnslpObject) :
    obj.getSerializedSize = 4 + 4 * ((obj.getSerializedSize - 4) / 4) := by
  unfold MnslpObject.getSerializedSize padding
  split
  · split <;> omega
  · rfl

theorem MnslpObject.headerReadsBack_iff {obj : MnslpObject} {msg next : NetMsg} {written : UInt32}
    (serialized : obj.serialize msg = .ok (next,written)) :
    HeaderReadsBack ⟨next.buffer,msg.pos⟩ obj.treatment obj.objectType (obj.getSerializedSize - 4) ↔
      obj.getSerializedSize - 4 < 2^14 := by
  have size := obj.words_getSerializedSize
  have same : obj.getSerializedSize - 4 = 4 * ((obj.getSerializedSize - 4) / 4) := by omega
  rw [serialize_eq_serializeAs,size] at serialized
  rw [same,Msg.headerReadsBack_iff serialized]
  omega

/-- The header of an object that was written reads back exactly if the body has fewer than 2^14
bytes, for every class of objects and for those of the library. -/
theorem header_round_trip_iff (msg next : NetMsg) (written : UInt32) :
    (∀ treatment objectType validBody words body,
      serializeAs treatment objectType validBody (4 + 4 * words) body msg = .ok (next,written) →
      (HeaderReadsBack ⟨next.buffer,msg.pos⟩ treatment objectType (4 * words) ↔ 4 * words < 2^14)) ∧
    ∀ obj : MnslpObject, obj.serialize msg = .ok (next,written) →
      (HeaderReadsBack ⟨next.buffer,msg.pos⟩ obj.treatment obj.objectType (obj.getSerializedSize - 4) ↔
        obj.getSerializedSize - 4 < 2^14) := by
  refine ⟨fun treatment objectType validBody words body serialized => ?_,fun obj serialized => ?_⟩
  · rw [headerReadsBack_iff serialized]
    omega
  · exact MnslpObject.headerReadsBack_iff serialized

/-- A message of zeros that counts as written. -/
def zeroMessage (size : Nat) : MnslpIpfixMessage :=
  ⟨.live {sourceid := 0, version := ipfixVersion, buffer := List.replicate size 0},1,255,[],true,false⟩

theorem getOffset_zeroMessage (size : Nat) : (zeroMessage size).getOffset = size := by
  rw [zeroMessage,MnslpIpfixMessage.getOffset]
  exact List.length_replicate

theorem serialize_zeroMessage {size : Nat} (some : 0 < size) :
    let obj : MnslpObject := ⟨.mandatory,.ipfixMessage (zeroMessage size)⟩
    ∃ next written, obj.serialize (.ofSize obj.bytes.length) = .ok (next,written) := by
  intro obj
  have checked : obj.check = true := by
    refine decide_eq_true ⟨objectType_fits _,decide_eq_true ?_⟩
    rw [getOffset_zeroMessage]
    exact some
  exact ⟨_,_,MnslpObject.serialize_eq_ok.mpr ⟨checked,NetMsg.write_ofSize _,rfl⟩⟩

/-- An IPFIX object whose message has 2^14 bytes is written, and its header declares none. -/
theorem header_not_round_trip : ¬ ∀ (obj : MnslpObject) (msg next : NetMsg) (written : UInt32),
    obj.serialize msg = .ok (next,written) →
    HeaderReadsBack ⟨next.buffer,msg.pos⟩ obj.treatment obj.objectType (obj.getSerializedSize - 4) := by
  intro readsBack
  obtain ⟨next,written,serialized⟩ := @serialize_zeroMessage (2^14) (by decide)
  have back := readsBack _ _ _ _ serialized
  have size : MnslpObject.getSerializedSize ⟨.mandatory,.ipfixMessage (zeroMessage (2^14))⟩ = 4 + 4 * 2^12 := by
    unfold MnslpObject.getSerializedSize
    dsimp only
    rw [getOffset_zeroMessage]
    rfl
  rw [MnslpObject.serialize_eq_serializeAs,size] at serialized
  rw [size] at back
  exact absurd ((headerReadsBack_iff serialized).mp back) (by decide)

section
variable {t t' : IpfixT} {bytes : Bytes} {order : ByteOrder} {encodeNetwork newset : Bool} {templ : IpfixTemplate} {now : Nat}

theorem bufferLenght_append (ended : t.append bytes = .ok t') : t'.bufferLenght = t.bufferLenght := by
  unfold IpfixT.append at ended
  split at ended
  · cases ended
  · cases ended
    rfl

theorem bufferLenght_prepend (ended : t.prepend bytes = .ok t') :
    t'.bufferLenght = t.bufferLenght ∧ t'.offset ≤ t.bufferLenght := by
  unfold IpfixT.prepend at ended
  split at ended
  · cases ended
  · rename_i room
    cases ended
    refine ⟨rfl,?_⟩
    rw [IpfixT.offset,List.length_append]
    exact Nat.le_of_not_lt room

@[simp] theorem bufferLenght_finishCs (order : ByteOrder) (t : IpfixT) :
    (t.finishCs order).bufferLenght = t.bufferLenght := by
  unfold IpfixT.finishCs
  split <;> rfl

theorem bufferLenght_writeTemplate {templid : UInt16} (ended : writeTemplate encodeNetwork now t templid = .ok t') :
    t'.bufferLenght = t.bufferLenght := by
  unfold writeTemplate at ended
  obtain ⟨_,_,ended⟩ := bind_eq_ok.mp ended
  obtain ⟨_,_,ended⟩ := bind_eq_ok.mp ended
  obtain ⟨_,_,ended⟩ := bind_eq_ok.mp ended
  obtain ⟨written,wrote,ended⟩ := bind_eq_ok.mp ended
  cases ended
  exact (bufferLenght_prepend wrote).1

theorem bufferLenght_outputRecord {record : IpfixDataRecord} {length length' : Nat}
    (ended : outputRecord encodeNetwork newset templ (t,length) record = .ok (t',length')) :
    t'.bufferLenght = t.bufferLenght := by
  unfold outputRecord at ended
  split at ended
  · cases ended
    rfl
  · obtain ⟨_,_,ended⟩ := bind_eq_ok.mp ended
    obtain ⟨_,_,ended⟩ := bind_eq_ok.mp ended
    obtain ⟨_,_,ended⟩ := bind_eq_ok.mp ended
    obtain ⟨_,_,ended⟩ := bind_eq_ok.mp ended
    obtain ⟨written,wrote,ended⟩ := bind_eq_ok.mp ended
    cases ended
    rw [← bufferLenght_append wrote]
    split <;> split <;> simp

theorem bufferLenght_outputRecords {dataList : List IpfixDataRecord} {state final : IpfixT × Nat}
    (ended : dataList.foldlM (outputRecord encodeNetwork newset templ) state = .ok final) :
    final.1.bufferLenght = state.1.bufferLenght :=
  foldlM_invariant (fun next => next.1.bufferLenght = state.1.bufferLenght)
    (fun _ _ _ same taken => (bufferLenght_outputRecord taken).trans same) ended rfl

@[simp] theorem bufferLenght_outputFlush (order : ByteOrder) (t : IpfixT) :
    (t.outputFlush order).bufferLenght = t.bufferLenght := by
  unfold IpfixT.outputFlush
  split
  · rfl
  · split
    · exact bufferLenght_finishCs order t
    · rfl

theorem bufferLenght_outputSet {dataList : List IpfixDataRecord} {templid : UInt16}
    (ended : outputSet encodeNetwork now dataList t templid = .ok t') : t'.bufferLenght = t.bufferLenght := by
  unfold outputSet at ended
  obtain ⟨templ,_,ended⟩ := bind_eq_ok.mp ended
  dsimp only at ended
  split at ended
  · obtain ⟨headed,wrote,ended⟩ := bind_eq_ok.mp ended
    obtain ⟨last,rounds,ended⟩ := bind_eq_ok.mp ended
    have kept := bufferLenght_outputRecords rounds
    cases ended
    rw [bufferLenght_outputFlush,kept,← bufferLenght_writeTemplate wrote]
    dsimp only
    split <;> simp
  · rw [pure_eq,ok_bind] at ended
    obtain ⟨last,rounds,ended⟩ := bind_eq_ok.mp ended
    have kept := bufferLenght_outputRecords rounds
    cases ended
    rw [bufferLenght_outputFlush,kept]
    dsimp only
    split <;> simp

theorem offset_writeHdr {gTstart : Nat} (ended : writeHdr encodeNetwork now gTstart t = .ok t') :
    t'.offset ≤ t.bufferLenght := by
  unfold writeHdr at ended
  split at ended
  · obtain ⟨_,_,ended⟩ := bind_eq_ok.mp ended
    exact (bufferLenght_prepend ended).2
  · obtain ⟨_,_,ended⟩ := bind_eq_ok.mp ended
    obtain ⟨written,wrote,ended⟩ := bind_eq_ok.mp ended
    cases ended
    exact (bufferLenght_prepend wrote).2

/-- A message that `output` writes does not outgrow the buffer it starts with. -/
theorem offset_output {m m' : MnslpIpfixMessage} (ended : m.output now = .ok m') (required : m.requireOutput = true) :
    m'.getOffset ≤ ipfixDefaultBuflen := by
  unfold MnslpIpfixMessage.output at ended
  rw [if_pos required] at ended
  obtain ⟨t,_,ended⟩ := bind_eq_ok.mp ended
  obtain ⟨options,first,ended⟩ := bind_eq_ok.mp ended
  obtain ⟨sets,second,ended⟩ := bind_eq_ok.mp ended
  obtain ⟨final,header,ended⟩ := bind_eq_ok.mp ended
  cases ended
  have same {lst : List UInt16} {before after : IpfixT}
      (rounds : lst.foldlM (outputSet m.encodeNetwork now m.dataList) before = .ok after) :
      after.bufferLenght = before.bufferLenght :=
    foldlM_invariant (fun next => next.bufferLenght = before.bufferLenght)
      (fun _ _ _ same taken => (bufferLenght_outputSet taken).trans same) rounds rfl
  have size := offset_writeHdr header
  rw [same second,same first] at size
  exact size

end

/-- So the headers of the messages that the library writes itself read back. -/
theorem header_of_output {m m' : MnslpIpfixMessage} {now : Nat} (ended : m.output now = .ok m')
    (required : m.requireOutput = true) {treatment : Treatment} {msg next : NetMsg} {written : UInt32}
    (serialized : MnslpObject.serialize ⟨treatment,.ipfixMessage m'⟩ msg = .ok (next,written)) :
    HeaderReadsBack ⟨next.buffer,msg.pos⟩ treatment mnslpIpfixMessageType
      (MnslpObject.getSerializedSize ⟨treatment,.ipfixMessage m'⟩ - 4) := by
  apply (MnslpObject.headerReadsBack_iff serialized).mpr
  have small := offset_output ended required
  unfold MnslpObject.getSerializedSize padding ipfixDefaultBuflen at *
  dsimp only
  split <;> omega

end Mnslp.Msg
