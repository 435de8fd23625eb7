import Mnslp.Msg.Equality

/-! The values a field makes, through the codec of the field and back. -/
namespace Mnslp.Msg
open Mnslp.Lib

/-- The arguments of the functions called `get_ipfix_value_field`. -/
inductive GivenValue
  | int8 (v : UInt8) | int16 (v : UInt16) | int32 (v : UInt32) | int64 (v : UInt64)
  | vunit8 (v : Bytes) | vchar (v : Bytes)

/-- Width and value of a number. -/
def GivenValue.number? : GivenValue → Option (Nat × Nat)
  | int8 v => some (1,v.toNat)
  | int16 v => some (2,v.toNat)
  | int32 v => some (4,v.toNat)
  | int64 v => some (8,v.toNat)
  | vunit8 _ | vchar _ => none

namespace IpfixCoding

def integer : IpfixCoding → Bool
  | .int | .uint | .ntp => true
  | _ => false

/-- The coding has a codec for numbers of the width. -/
def codes (coding : IpfixCoding) (width : Nat) : Bool :=
  match coding with
  | .int | .uint | .ntp => true
  | .float => width = 4 ∨ width = 8
  | _ => false

end IpfixCoding

namespace IpfixFieldType

def getIpfixValueField (field : IpfixFieldType) : GivenValue → Call IpfixValueField
  | .int8 v => field.getIpfixValueField8 v
  | .int16 v => field.getIpfixValueField16 v
  | .int32 v => field.getIpfixValueField32 v
  | .int64 v => field.getIpfixValueField64 v
  | .vunit8 v => field.getIpfixValueFieldBytes v
  | .vchar v => field.getIpfixValueFieldChars v

/-- Encoding fills the length of the value, and what is decoded from it is equal to the value. -/
def ReadsBack (field : IpfixFieldType) (value : IpfixValueField) : Prop :=
  ∀ relay, ∃ bytes decoded, field.encode value relay = .ok bytes ∧ bytes.length = value.length ∧
    field.decode (bytes.take (field.bytesRead value.length)) value.length relay = .ok decoded ∧
    decoded.equals value = true

/-- Without the relay flag a number stands in network order. -/
def BigEndian (field : IpfixFieldType) (given : GivenValue) (value : IpfixValueField) : Prop :=
  field.coding.integer = true → ∀ width number, given.number? = some (width,number) →
    field.encode value false = .ok (Bytes.ofNat width number)

/-- Numbers are kept by the fields that encode them, byte strings unless they are empty. -/
def Keeps (field : IpfixFieldType) : GivenValue → Prop
  | .int8 _ => field.coding.codes 1 = true
  | .int16 _ => field.coding.codes 2 = true
  | .int32 _ => field.coding.codes 4 = true
  | .int64 _ => field.coding.codes 8 = true
  | .vunit8 v => v ≠ []
  | .vchar _ => False

variable {field : IpfixFieldType} {value : IpfixValueField}

theorem encode_number (codes : field.coding.codes value.length = true) (relay : Bool) :
    field.encode value relay = .ok (ipfixEncodeInt value relay) := by
  unfold encode
  cases coding : field.coding with
  | int | uint | ntp => rfl
  | float =>
    rw [coding] at codes
    rcases of_decide_eq_true codes with width | width <;> simp [ipfixEncodeFloat,ipfixEncodeInt,width]
  | ipaddr | bytes | string | none => simp [coding,IpfixCoding.codes] at codes

theorem decode_number {length : Nat} (codes : field.coding.codes length = true) (input : Bytes) (relay : Bool) :
    field.decode input length relay = field.ipfixDecodeInt input length relay := by
  unfold decode
  cases coding : field.coding with
  | int | uint | ntp => rfl
  | float =>
    rw [coding] at codes
    rcases of_decide_eq_true codes with rfl | rfl <;> rfl
  | ipaddr | bytes | string | none => simp [coding,IpfixCoding.codes] at codes

theorem bytesRead_number {length : Nat} (codes : field.coding.codes length = true) : field.bytesRead length =
    if length = 1 then (if field.length = 1 then 1 else 0)
    else if length = 2 ∨ length = 4 ∨ length = 8 then length else 0 := by
  unfold bytesRead
  cases coding : field.coding with
  | int | uint | ntp => rfl
  | float =>
    rw [coding] at codes
    rcases of_decide_eq_true codes with rfl | rfl <;> rfl
  | ipaddr | bytes | string | none => simp [coding,IpfixCoding.codes] at codes

/-- The bytes of a number that the codec of the field gives and reads back. -/
structure Number (field : IpfixFieldType) (value : IpfixValueField) (width number : Nat) : Prop where
  length : value.length = width
  encoded (relay : Bool) : field.encode value relay = .ok (Bytes.encode (relayOrder relay) width number)
  read : field.bytesRead width = width
  decoded (relay : Bool) :
    field.decode (Bytes.encode (relayOrder relay) width number) width relay = .ok value

theorem Number.readsBack {width number : Nat} (kept : field.Number value width number) : field.ReadsBack value := by
  intro relay
  refine ⟨_,value,kept.encoded relay,by rw [Bytes.length_encode,kept.length],?_,value.equals_self⟩
  rw [kept.length,kept.read,List.take_of_length_le (Nat.le_of_eq (Bytes.length_encode _ _ _)),kept.decoded]

theorem encode_one (order : ByteOrder) (v : UInt8) : Bytes.encode order 1 v.toNat = [v] := by
  cases order <;> simp [Bytes.encode,Bytes.ofNat]

theorem number_int8 {v : UInt8} (codes : field.coding.codes 1 = true) (accepted : field.getIpfixValueField8 v = .ok value) :
    field.Number value 1 v.toNat := by
  unfold getIpfixValueField8 at accepted
  split at accepted
  · next width =>
    cases accepted
    constructor
    · rfl
    · intro relay
      rw [encode_number codes,encode_one]
      rfl
    · rw [bytesRead_number codes,if_pos rfl,if_pos width]
    · intro relay
      rw [decode_number codes,encode_one]
      simp [ipfixDecodeInt,getIpfixValueField8,width,Bytes.decode,Bytes.toNat]
  · cases accepted

theorem number_int16 {v : UInt16} (codes : field.coding.codes 2 = true) (accepted : field.getIpfixValueField16 v = .ok value) :
    field.Number value 2 v.toNat := by
  unfold getIpfixValueField16 at accepted
  split at accepted
  · next width =>
    cases accepted
    constructor
    · rfl
    · exact encode_number codes
    · exact bytesRead_number codes
    · intro relay
      rw [decode_number codes]
      simp [ipfixDecodeInt,getIpfixValueField16,width]
  · cases accepted

theorem number_int32 {v : UInt32} (codes : field.coding.codes 4 = true) (accepted : field.getIpfixValueField32 v = .ok value) :
    field.Number value 4 v.toNat := by
  unfold getIpfixValueField32 at accepted
  split at accepted
  · next width =>
    cases accepted
    constructor
    · rfl
    · exact encode_number codes
    · exact bytesRead_number codes
    · intro relay
      rw [decode_number codes]
      simp [ipfixDecodeInt,getIpfixValueField32,width]
  · cases accepted

theorem number_int64 {v : UInt64} (codes : field.coding.codes 8 = true) (accepted : field.getIpfixValueField64 v = .ok value) :
    field.Number value 8 v.toNat := by
  unfold getIpfixValueField64 at accepted
  split at accepted
  · next width =>
    cases accepted
    constructor
    · rfl
    · exact encode_number codes
    · exact bytesRead_number codes
    · intro relay
      rw [decode_number codes]
      simp [ipfixDecodeInt,getIpfixValueField64,width]
  · cases accepted

/-- The other codings copy from a null pointer, or find no width that they know. -/
theorem not_readsBack_number {width : Nat} (bytes : value.valuebyte = none) (chars : value.valuechar = none)
    (length : value.length = width) (wide : width ≠ 0) (other : field.coding.codes width = false) : ¬ field.ReadsBack value := by
  intro reads
  obtain ⟨encoded,decoded,written,_,back,same⟩ := reads false
  unfold encode at written
  cases coding : field.coding with
  | int | uint | ntp => simp [coding,IpfixCoding.codes] at other
  | ipaddr | bytes | string | none =>
    simp [coding,ipfixEncodeBytes,bytes,length,wide,Call.fault] at written
  | float =>
    have unknown : ¬ (width = 4 ∨ width = 8) := by simpa [coding,IpfixCoding.codes] using other
    rw [not_or] at unknown
    have empty (input : Bytes) : field.ipfixDecodeFloat input width false = .ok {} := by
      unfold ipfixDecodeFloat
      split
      · exact absurd rfl unknown.1
      · exact absurd rfl unknown.2
      · rfl
    simp only [decode,coding,length,empty] at back
    cases back
    simp [IpfixValueField.equals,bytes,chars,length,Ne.symm wide] at same

theorem accepts_of_bytes {v : Bytes} (accepted : field.getIpfixValueFieldBytes v = .ok value) :
    field.acceptsBytes v.length = true ∧ value = ({} : IpfixValueField).setValueVunit8 v := by
  unfold getIpfixValueFieldBytes at accepted
  split at accepted
  · next accepts =>
    cases accepted
    exact ⟨accepts,rfl⟩
  · cases accepted

theorem codec_bytes {v : Bytes} (accepts : field.acceptsBytes v.length = true) (relay : Bool) :
    field.encode (({} : IpfixValueField).setValueVunit8 v) relay = .ok v ∧ field.bytesRead v.length = v.length ∧
      field.decode v v.length relay = .ok (({} : IpfixValueField).setValueVunit8 v).copy := by
  cases coding : field.coding with
  | ipaddr | bytes =>
    refine ⟨?_,?_,?_⟩
    · rw [encode,coding]
      simp [ipfixEncodeBytes,IpfixValueField.setValueVunit8]
    · rw [bytesRead,coding]
      exact if_pos accepts
    · rw [decode,coding]
      simp [ipfixDecodeBytes,getIpfixValueFieldBytes,accepts]
      rfl
  | int | uint | ntp | float | string | none => simp [acceptsBytes,coding] at accepts

/-- The copy of an empty byte string has lost its pointer, and so it differs. -/
theorem readsBack_bytes {v : Bytes} (accepted : field.getIpfixValueFieldBytes v = .ok value) :
    field.ReadsBack value ↔ v ≠ [] := by
  obtain ⟨accepts,rfl⟩ := accepts_of_bytes accepted
  constructor
  · rintro reads rfl
    obtain ⟨encoded,decoded,written,_,back,same⟩ := reads false
    obtain ⟨bytes,all,again⟩ := codec_bytes accepts false
    rw [bytes] at written
    cases written
    rw [List.take_nil] at back
    cases again.symm.trans back
    simp [IpfixValueField.equals,IpfixValueField.setValueVunit8,IpfixValueField.copy,IpfixValueField.equalBytes] at same
  · intro some relay
    obtain ⟨bytes,all,again⟩ := codec_bytes accepts relay
    have copied : (({} : IpfixValueField).setValueVunit8 v).copy = ({} : IpfixValueField).setValueVunit8 v :=
      if_pos (List.length_pos_of_ne_nil some)
    refine ⟨v,_,bytes,rfl,?_,IpfixValueField.equals_self _⟩
    rw [copied] at again
    exact (congrArg (field.decode · _ relay) (List.take_of_length_le (Nat.le_of_eq all.symm))).trans again

/-- A string is encoded from the pointer to its bytes, which it does not have, and no string is decoded. -/
theorem not_readsBack_chars {v : Bytes} (accepted : field.getIpfixValueFieldChars v = .ok value) : ¬ field.ReadsBack value := by
  intro reads
  unfold getIpfixValueFieldChars at accepted
  split at accepted
  · next coding =>
    obtain ⟨encoded,decoded,_,_,back,_⟩ := reads false
    simp [decode,coding,ipfixDecodeBytes,acceptsBytes,valueMismatch,Call.badArgument,Call.throw] at back
  · cases accepted

variable {given : GivenValue} {width number : Nat}

theorem number_of_codes (is : given.number? = some (width,number)) (accepted : field.getIpfixValueField given = .ok value)
    (codes : field.coding.codes width = true) : field.Number value width number := by
  cases given with
  | int8 v =>
    cases is
    exact number_int8 codes accepted
  | int16 v =>
    cases is
    exact number_int16 codes accepted
  | int32 v =>
    cases is
    exact number_int32 codes accepted
  | int64 v =>
    cases is
    exact number_int64 codes accepted
  | vunit8 v | vchar v => cases is

/-- A number is accepted by the fields of its width. -/
theorem accepted_number (is : given.number? = some (width,number)) (accepted : field.getIpfixValueField given = .ok value) :
    field.length = width ∧ number < 256^width ∧
      ((width = 1 ∧ value = ({} : IpfixValueField).setValueInt8 (UInt8.ofNat number)) ∨
        (width = 2 ∧ value = ({} : IpfixValueField).setValueInt16 (UInt16.ofNat number)) ∨
        (width = 4 ∧ value = ({} : IpfixValueField).setValueInt32 (UInt32.ofNat number)) ∨
        (width = 8 ∧ value = ({} : IpfixValueField).setValueInt64 (UInt64.ofNat number))) := by
  cases given with
  | int8 v | int16 v | int32 v | int64 v =>
    cases is
    simp only [getIpfixValueField,getIpfixValueField8,getIpfixValueField16,getIpfixValueField32,getIpfixValueField64] at accepted
    split at accepted
    · next length =>
      cases accepted
      exact ⟨length,v.toNat_lt,by simp⟩
    · cases accepted
  | vunit8 v | vchar v => cases is

theorem null_of_number (is : given.number? = some (width,number)) (accepted : field.getIpfixValueField given = .ok value) :
    value.valuebyte = none ∧ value.valuechar = none ∧ value.length = width ∧ width ≠ 0 := by
  obtain ⟨_,_,⟨rfl,rfl⟩ | ⟨rfl,rfl⟩ | ⟨rfl,rfl⟩ | ⟨rfl,rfl⟩⟩ := accepted_number is accepted <;> exact ⟨rfl,rfl,rfl,by decide⟩

theorem readsBack_number (is : given.number? = some (width,number)) (accepted : field.getIpfixValueField given = .ok value) :
    (field.ReadsBack value ∧ field.BigEndian given value) ↔ field.coding.codes width = true := by
  constructor
  · rintro ⟨reads,_⟩
    obtain ⟨bytes,chars,length,wide⟩ := null_of_number is accepted
    by_contra other
    exact not_readsBack_number bytes chars length wide (Bool.eq_false_of_not_eq_true other) reads
  · intro codes
    have kept := number_of_codes is accepted codes
    refine ⟨kept.readsBack,fun integer wide num same => ?_⟩
    cases is.symm.trans same
    exact kept.encoded false

/-- A number comes back from the fields that have a codec for its width, a byte string when it is not
empty, a string never. -/
theorem readsBack_iff (field : IpfixFieldType) (given : GivenValue) (value : IpfixValueField)
    (accepted : field.getIpfixValueField given = .ok value) :
    (field.ReadsBack value ∧ field.BigEndian given value) ↔ field.Keeps given := by
  cases given with
  | int8 v | int16 v | int32 v | int64 v => exact readsBack_number rfl accepted
  | vunit8 v =>
    rw [readsBack_bytes accepted]
    exact and_iff_left (fun _ _ _ never => nomatch never)
  | vchar v => exact iff_of_false (fun both => not_readsBack_chars accepted both.1) not_false

/-- The number 258 in a field of two bytes. -/
theorem readsBack_two : ({} : IpfixValueField).setValueInt16 258 = {value16 := 258, length := 2} ∧
    (⟨0,7,2,.uint⟩ : IpfixFieldType).ReadsBack {value16 := 258, length := 2} :=
  ⟨rfl,((readsBack_iff ⟨0,7,2,.uint⟩ (.int16 258) _ rfl).mpr rfl).1⟩

/-- The interface name "a". -/
theorem not_readsBack : ¬ ∀ field ∈ ipfixFields, field.coding ≠ .none → ∀ (given : GivenValue) (value : IpfixValueField),
    field.getIpfixValueField given = .ok value → field.ReadsBack value ∧ field.BigEndian given value := by
  intro always
  have member : (⟨0,147,65535,.string⟩ : IpfixFieldType) ∈ ipfixFields := by decide
  have both := always _ member (by decide) (.vchar [97]) _ rfl
  exact not_readsBack_chars (v := [97]) rfl both.1

end IpfixFieldType
end Mnslp.Msg
