import Mnslp.Lib.Text
import Mnslp.Msg.FieldValue
import Mnslp.Msg.IpfixMessage
import Mathlib.Data.List.TakeDrop

/-! Values as text, after `snprint` and `print_value`. A buffer is printed into from its
start, so the text that `snprint` writes says how far it writes. -/
namespace Mnslp.Msg
open Mnslp.Lib Text

/-- What `snprintf` leaves in a buffer of the given size. -/
def snprintf (size : Nat) (text : Text) : Text := if size = 0 then [] else text.take (size - 1) ++ [nul]

/-- Reads the first bytes behind a pointer of a value. -/
def readPointer (pointer : Option Bytes) (count : Nat) : Call Bytes :=
  if count = 0 then .ok []
  else match pointer with
    | none => Call.fault .nullDereference
    | some bytes => if bytes.length < count then Call.fault .readBeyondBuffer else .ok (bytes.take count)

/-- The number with so many significant bits next to `n`, the even one of two. -/
def roundBits (bits n : Nat) : Nat :=
  let shift := n.log2 + 1 - bits
  let low := n % 2^shift
  let high := n / 2^shift
  (if 2 * low > 2^shift ∨ (2 * low = 2^shift ∧ high % 2 = 1) then high + 1 else high) * 2^shift

/-- The 16-bit numbers in network order that stand in the bytes. -/
def wordsOf : Bytes → List Nat
  | high :: low :: rest => (high.toNat * 256 + low.toNat) :: wordsOf rest
  | _ => []

namespace IpfixValueField

def err : Text := "err".toList

/-- The numbers of one and two bytes come from getters of unsigned types. -/
def ipfixSnprintInt (size : Nat) (value : IpfixValueField) : Text :=
  match value.length with
  | 1 => snprintf size (decimal value.value8.toNat)
  | 2 => snprintf size (decimal value.value16.toNat)
  | 4 => snprintf size (decimalInt ((value.value32.toNat : Int).bmod (2^32)))
  | 8 => snprintf size (decimalInt ((value.value64.toNat : Int).bmod (2^64)))
  | _ => snprintf size err

def ipfixSnprintUint (size : Nat) (value : IpfixValueField) : Text :=
  match value.length with
  | 1 => snprintf size (decimal value.value8.toNat)
  | 2 => snprintf size (decimal value.value16.toNat)
  | 4 => snprintf size (decimal value.value32.toNat)
  | 8 => snprintf size (decimal value.value64.toNat)
  | _ => snprintf size err

/-- The bits of the number are not those of a float, they are converted to one. -/
def ipfixSnprintFloat (size : Nat) (value : IpfixValueField) : Text :=
  match value.length with
  | 4 => snprintf size (decimal (roundBits 24 value.value32.toNat) ++ ".000000".toList)
  | 8 => snprintf size (decimal (roundBits 53 value.value64.toNat) ++ ".000000".toList)
  | _ => snprintf size err

/-- The loop that gives up digits until the others fit, without the final NUL. -/
def dropBytes (size : Nat) : Nat → Nat
  | 0 => 0
  | len+1 => if 2 * (len + 1) + 2 > size then dropBytes size len else len + 1

def ipfixSnprintBytes (size : Nat) (value : IpfixValueField) : Call Text := do
  if size < 4 then return snprintf size err
  else if 2 * value.length + 2 ≥ 2^31 then Call.fault .signedOverflow
  else
    let bytes ← readPointer value.valuebyte (dropBytes size value.length)
    return "0x".toList ++ bytes.flatMap hexByte ++ [nul]

def ipfixSnprintString (size : Nat) (value : IpfixValueField) : Call Text := do
  let chars ← readPointer value.valuechar value.length
  if 0 ∈ chars then return snprintf size (untilNul (chars.map ofByte))
  else if value.length < size then return chars.map ofByte ++ [nul]
  else return snprintf size err

def ipfixSnprintIpaddr (size : Nat) (value : IpfixValueField) : Call Text :=
  match value.length with
  | 4 => do
    let bytes ← readPointer value.valuebyte 4
    return snprintf size (['.'].intercalate (bytes.map fun byte => decimal byte.toNat))
  | 16 => do
    let bytes ← readPointer value.valuebyte 16
    return snprintf size ([':'].intercalate ((wordsOf bytes).map (Nat.toDigits 16)))
  | _ => value.ipfixSnprintBytes size

end IpfixValueField

namespace IpfixFieldType
open IpfixValueField

/-- What `snprint` writes into a buffer of the given size. -/
def snprintText (field : IpfixFieldType) (size : Nat) (value : IpfixValueField) : Call Text :=
  match field.coding with
  | .int => .ok (value.ipfixSnprintInt size)
  | .uint | .ntp => .ok (value.ipfixSnprintUint size)
  | .float => .ok (value.ipfixSnprintFloat size)
  | .ipaddr => value.ipfixSnprintIpaddr size
  | .string => value.ipfixSnprintString size
  | .bytes | .none => value.ipfixSnprintBytes size

/-- The size of the buffer of `print_value`, from the length of the field in bytes. -/
def printLength (field : IpfixFieldType) : Nat :=
  if field.coding = .ipaddr then (if field.length = 4 then 16 else 46)
  else ((field.length + 1) % 2^64).toNat

def printValue (field : IpfixFieldType) (value : IpfixValueField) : Call Text := do
  let text ← field.snprintText field.printLength value
  if text.length > field.printLength then Call.fault .writeBeyondBuffer
  else if nul ∉ text then Call.fault .readBeyondBuffer
  else return untilNul text

end IpfixFieldType

def MnslpIpfixMessage.getFieldDataValues (m : MnslpIpfixMessage) (templ : IpfixTemplate) (field : IpfixFieldType) :
    Call (List Text) :=
  (m.dataList.filter fun record => record.templateId = templ.tid).mapM fun record => do
    let value ← record.getField field.getFieldKey
    field.printValue value.copy

theorem length_snprintf (size : Nat) (text : Text) : (snprintf size text).length ≤ size := by
  unfold snprintf
  split
  · exact Nat.zero_le _
  · rw [List.length_append,List.length_take,List.length_singleton]
    omega

theorem length_readPointer {pointer : Option Bytes} {count : Nat} {bytes : Bytes} (read : readPointer pointer count = .ok bytes) :
    bytes.length = count := by
  unfold readPointer at read
  split at read
  · next zero =>
    cases read
    exact zero.symm
  · cases pointer with
    | none => cases read
    | some behind =>
      dsimp only at read
      split at read
      · cases read
      · cases read
        rw [List.length_take]
        omega

namespace IpfixValueField

theorem dropBytes_eq {size : Nat} (two : 2 ≤ size) (len : Nat) : dropBytes size len = min len ((size - 2) / 2) := by
  induction len with
  | zero => simp [dropBytes]
  | succ len ih =>
    rw [dropBytes]
    split <;> omega

theorem length_hexBytes (bytes : Bytes) : (bytes.flatMap hexByte).length = 2 * bytes.length := by
  induction bytes with
  | nil => rfl
  | cons byte rest ih =>
    rw [List.flatMap_cons,List.length_append,ih,List.length_cons,hexByte,List.length_cons,List.length_singleton]
    omega

theorem length_ipfixSnprintInt (size : Nat) (value : IpfixValueField) : (value.ipfixSnprintInt size).length ≤ size := by
  unfold ipfixSnprintInt
  split <;> exact length_snprintf _ _

theorem length_ipfixSnprintUint (size : Nat) (value : IpfixValueField) : (value.ipfixSnprintUint size).length ≤ size := by
  unfold ipfixSnprintUint
  split <;> exact length_snprintf _ _

theorem length_ipfixSnprintFloat (size : Nat) (value : IpfixValueField) : (value.ipfixSnprintFloat size).length ≤ size := by
  unfold ipfixSnprintFloat
  split <;> exact length_snprintf _ _

end IpfixValueField

namespace IpfixFieldType
open IpfixValueField
variable {field : IpfixFieldType} {given : GivenValue} {value : IpfixValueField} {width number : Nat}

/-- The value of a number, which INT fields have signed. -/
def meant (field : IpfixFieldType) (number : Nat) : Int :=
  if field.coding = .int then (number : Int).bmod (256^field.length.toNat) else number

/-- The number that is printed: one of one or two bytes is taken for unsigned. -/
def shown (field : IpfixFieldType) (number : Nat) : Int := if field.length ≤ 2 then number else field.meant number

/-- The text has no more characters than the number has bytes, and it is that of the number. -/
def Short (field : IpfixFieldType) (number : Nat) : Prop :=
  if field.meant number < 0 then 2 < field.length ∧ -field.meant number < 10^(field.length.toNat - 1)
  else field.meant number < 10^field.length.toNat

instance (field : IpfixFieldType) (number : Nat) : Decidable (field.Short number) :=
  inferInstanceAs (Decidable (if field.meant number < 0 then
    2 < field.length ∧ -field.meant number < 10^(field.length.toNat - 1) else field.meant number < 10^field.length.toNat))

theorem printValue_of_text {text : Text} (length : field.printLength = width + 1)
    (printed : field.snprintText (width + 1) value = .ok (snprintf (width + 1) text)) (none : nul ∉ text) :
    field.printValue value = .ok (text.take width) := by
  have kept : nul ∉ text.take width := fun member => none (List.mem_of_mem_take member)
  have written : snprintf (width + 1) text = text.take width ++ [nul] := rfl
  unfold printValue
  rw [length,printed,Call.ok_bind,if_neg (Nat.not_lt_of_le (length_snprintf _ _)),written,untilNul_append [] kept]
  simp

/-- What is printed of a number. -/
theorem snprintText_number (coding : field.coding = .int ∨ field.coding = .uint) (is : given.number? = some (width,number))
    (accepted : field.getIpfixValueField given = .ok value) (size : Nat) :
    field.snprintText size value = .ok (snprintf size (decimalInt (field.shown number))) := by
  obtain ⟨length,small,⟨rfl,rfl⟩ | ⟨rfl,rfl⟩ | ⟨rfl,rfl⟩ | ⟨rfl,rfl⟩⟩ := accepted_number is accepted
  · have shown : field.shown number = number := if_pos (by omega)
    have byte : (UInt8.ofNat number).toNat = number := UInt8.toNat_ofNat_of_lt small
    rw [shown,decimalInt_natCast]
    rcases coding with coding | coding <;>
      simp only [snprintText,coding,ipfixSnprintInt,ipfixSnprintUint,setValueInt8,byte]
  · have shown : field.shown number = number := if_pos (by omega)
    have bytes : (UInt16.ofNat number).toNat = number := UInt16.toNat_ofNat_of_lt small
    rw [shown,decimalInt_natCast]
    rcases coding with coding | coding <;>
      simp only [snprintText,coding,ipfixSnprintInt,ipfixSnprintUint,setValueInt16,bytes]
  · have shown : field.shown number = field.meant number := if_neg (by omega)
    have bytes : (UInt32.ofNat number).toNat = number := UInt32.toNat_ofNat_of_lt small
    have bits : (256 : Nat)^4 = 2^32 := by norm_num
    rw [shown,meant,length,Int.toNat_natCast,bits]
    rcases coding with coding | coding
    · simp only [snprintText,coding,ipfixSnprintInt,setValueInt32,bytes,if_pos]
    · simp only [snprintText,coding,ipfixSnprintUint,setValueInt32,bytes,reduceCtorEq,if_false,decimalInt_natCast]
  · have shown : field.shown number = field.meant number := if_neg (by omega)
    have bytes : (UInt64.ofNat number).toNat = number := UInt64.toNat_ofNat_of_lt small
    have bits : (256 : Nat)^8 = 2^64 := by norm_num
    rw [shown,meant,length,Int.toNat_natCast,bits]
    rcases coding with coding | coding
    · simp only [snprintText,coding,ipfixSnprintInt,setValueInt64,bytes,if_pos]
    · simp only [snprintText,coding,ipfixSnprintUint,setValueInt64,bytes,reduceCtorEq,if_false,decimalInt_natCast]

/-- The first characters of the number that is printed, as many as it has bytes. -/
theorem printValue_number (coding : field.coding = .int ∨ field.coding = .uint) (is : given.number? = some (width,number))
    (accepted : field.getIpfixValueField given = .ok value) :
    field.printValue value = .ok ((decimalInt (field.shown number)).take width) := by
  apply printValue_of_text _ (snprintText_number coding is accepted _) (nul_notMem_decimalInt _)
  have other : field.coding ≠ .ipaddr := by rcases coding with coding | coding <;> simp [coding]
  obtain ⟨length,_,⟨rfl,_⟩ | ⟨rfl,_⟩ | ⟨rfl,_⟩ | ⟨rfl,_⟩⟩ := accepted_number is accepted <;>
    simp [printLength,other,length]

theorem length_decimalInt_le {a : Int} {k : Nat} (two : 2 ≤ k) : (decimalInt a).length ≤ k ↔
    if a < 0 then -a < 10^(k - 1) else a < 10^k := by
  cases a with
  | ofNat n =>
    rw [if_neg (by simp),decimalInt,length_decimal_le (by omega),Int.ofNat_eq_natCast]
    norm_cast
  | negSucc n =>
    rw [if_pos (Int.negSucc_lt_zero n),decimalInt,List.length_cons,← Nat.le_sub_iff_add_le (by omega),
      length_decimal_le (by omega)]
    rw [Int.neg_negSucc]
    norm_cast

theorem meant_emod (small : number < 256^field.length.toNat) :
    field.meant number % (256^field.length.toNat : Nat) = number := by
  unfold meant
  split
  · rw [Int.bmod_emod]
    exact Int.emod_eq_of_lt (Int.natCast_nonneg _) (by exact_mod_cast small)
  · exact Int.emod_eq_of_lt (Int.natCast_nonneg _) (by exact_mod_cast small)

theorem meant_nonneg (small : number < 256^field.length.toNat) (nonneg : 0 ≤ field.meant number) :
    field.meant number = number := by
  have least : field.meant number < (256^field.length.toNat : Nat) := by
    unfold meant
    split
    · have positive : 0 < 256^field.length.toNat := Nat.pow_pos (by decide)
      have bound := Int.bmod_lt (x := number) positive
      omega
    · exact_mod_cast small
  rw [← Int.emod_eq_of_lt nonneg least,meant_emod small]

theorem take_ne_decimalInt (n : Nat) (a : Int) (negative : a < 0) :
    (decimal n).take width ≠ decimalInt a := by
  obtain ⟨m,rfl⟩ := Int.eq_negSucc_of_lt_zero negative
  intro same
  have minus : '-' ∈ decimal n := List.mem_of_mem_take (i := width) (same ▸ List.mem_cons_self)
  cases isDigit_of_mem_decimal minus

/-- A negative number of one or two bytes is not printed as it is meant, every other number is, as far as
the buffer goes. -/
theorem printValue_full (coding : field.coding = .int ∨ field.coding = .uint) (is : given.number? = some (width,number))
    (accepted : field.getIpfixValueField given = .ok value) :
    field.printValue value = .ok (decimalInt (field.meant number)) ↔ field.Short number := by
  obtain ⟨length,small,widths⟩ := accepted_number is accepted
  have wide : field.length.toNat = width := by omega
  have positive : 0 < width := by omega
  rw [printValue_number coding is accepted,Except.ok.injEq,Short,wide]
  by_cases negative : field.meant number < 0
  · rw [if_pos negative]
    by_cases two : field.length ≤ 2
    · rw [shown,if_pos two,decimalInt_natCast]
      exact iff_of_false (take_ne_decimalInt number _ negative) (fun both => by omega)
    · rw [shown,if_neg two,List.take_eq_self_iff,length_decimalInt_le (by omega),if_pos negative,and_iff_right (by omega)]
  · have unsigned := meant_nonneg (wide ▸ small) (by omega)
    have same : field.shown number = number := by
      unfold shown
      split
      · rfl
      · exact unsigned
    rw [if_neg negative,same,unsigned,decimalInt_natCast,List.take_eq_self_iff,length_decimal_le positive]
    norm_cast

/-- The record has the number in the field. -/
def HoldsNumber (field : IpfixFieldType) (record : IpfixDataRecord) (number : Nat) : Prop :=
  ∃ given value width, field.getIpfixValueField given = .ok value ∧ given.number? = some (width,number) ∧
    record.getField field.getFieldKey = .ok value

/-- The numbers as texts, in full, and no text for two of them. -/
def FilterValues (field : IpfixFieldType) (numbers : List Nat) (texts : List Text) : Prop :=
  texts = numbers.map (fun number => decimalInt (field.meant number)) ∧
    ∀ i j : Nat, texts[i]? = texts[j]? → numbers[i]? = numbers[j]?

theorem HoldsNumber.printed {record : IpfixDataRecord} (coding : field.coding = .int ∨ field.coding = .uint)
    (holds : field.HoldsNumber record number) :
    (do let value ← record.getField field.getFieldKey; field.printValue value.copy) =
      .ok ((decimalInt (field.shown number)).take field.length.toNat) := by
  obtain ⟨given,value,width,accepted,is,found⟩ := holds
  obtain ⟨length,_,_⟩ := accepted_number is accepted
  obtain ⟨_,_,_,wide⟩ := null_of_number is accepted
  have copied : value.copy = value := if_pos (by omega)
  rw [found,Call.ok_bind,copied,printValue_number coding is accepted,length,Int.toNat_natCast]

theorem HoldsNumber.full {record : IpfixDataRecord} (coding : field.coding = .int ∨ field.coding = .uint)
    (holds : field.HoldsNumber record number) :
    (decimalInt (field.shown number)).take field.length.toNat = decimalInt (field.meant number) ↔ field.Short number := by
  obtain ⟨given,value,width,accepted,is,_⟩ := holds
  obtain ⟨length,_,_⟩ := accepted_number is accepted
  rw [← printValue_full coding is accepted,printValue_number coding is accepted,Except.ok.injEq,length,Int.toNat_natCast]

theorem HoldsNumber.small {record : IpfixDataRecord} (holds : field.HoldsNumber record number) :
    number < 256^field.length.toNat := by
  obtain ⟨given,value,width,accepted,is,_⟩ := holds
  obtain ⟨length,small,_⟩ := accepted_number is accepted
  rwa [length,Int.toNat_natCast]

theorem holdsNumber_of_mem {records : List IpfixDataRecord} {numbers : List Nat}
    (holds : List.Forall₂ field.HoldsNumber records numbers) (member : number ∈ numbers) :
    ∃ record, field.HoldsNumber record number := by
  have flipped : List.Forall₂ (flip field.HoldsNumber) numbers records := holds.flip
  obtain ⟨record,_,one⟩ := partner_of_mem flipped member
  exact ⟨record,one⟩

theorem meant_injective {n m : Nat} (first : n < 256^field.length.toNat) (second : m < 256^field.length.toNat)
    (same : field.meant n = field.meant m) : n = m := by
  have values := meant_emod first
  rw [same,meant_emod second] at values
  exact_mod_cast values.symm

theorem getFieldDataValues_numbers {m : MnslpIpfixMessage} {templ : IpfixTemplate} {numbers : List Nat}
    (coding : field.coding = .int ∨ field.coding = .uint)
    (holds : List.Forall₂ field.HoldsNumber (m.dataList.filter fun record => record.templateId = templ.tid) numbers) :
    m.getFieldDataValues templ field =
      .ok (numbers.map fun number => (decimalInt (field.shown number)).take field.length.toNat) := by
  unfold MnslpIpfixMessage.getFieldDataValues
  rw [Call.mapM_eq_ok,List.forall₂_map_right_iff]
  exact holds.imp fun _ _ one => one.printed coding

/-- The values are printed in full as long as their texts have at most as many characters as the field has
bytes; of the negative values, only those of four and eight bytes. -/
theorem printsInFull_iff (field : IpfixFieldType) (coding : field.coding = .int ∨ field.coding = .uint) :
    (∀ given value width number, field.getIpfixValueField given = .ok value → given.number? = some (width,number) →
      (field.printValue value = .ok (decimalInt (field.meant number)) ↔ field.Short number)) ∧
    ∀ (m : MnslpIpfixMessage) (templ : IpfixTemplate) (numbers : List Nat),
      List.Forall₂ field.HoldsNumber (m.dataList.filter fun record => record.templateId = templ.tid) numbers →
      ((∃ texts, m.getFieldDataValues templ field = .ok texts ∧ field.FilterValues numbers texts) ↔
        ∀ number ∈ numbers, field.Short number) := by
  refine ⟨fun given value width number accepted is => printValue_full coding is accepted,fun m templ numbers holds => ?_⟩
  rw [getFieldDataValues_numbers coding holds]
  constructor
  · rintro ⟨texts,printed,full,_⟩ number member
    cases printed
    obtain ⟨record,one⟩ := holdsNumber_of_mem holds member
    exact (one.full coding).mp (List.map_inj_left.mp full number member)
  · intro short
    have full : numbers.map (fun number => (decimalInt (field.shown number)).take field.length.toNat) =
        numbers.map fun number => decimalInt (field.meant number) := by
      apply List.map_congr_left
      intro number member
      obtain ⟨record,one⟩ := holdsNumber_of_mem holds member
      exact (one.full coding).mpr (short number member)
    refine ⟨_,rfl,full,fun i j same => ?_⟩
    rw [full,List.getElem?_map,List.getElem?_map] at same
    cases first : numbers[i]? with
    | none =>
      cases second : numbers[j]? with
      | none => rfl
      | some m => simp [first,second] at same
    | some n =>
      cases second : numbers[j]? with
      | none => simp [first,second] at same
      | some m =>
        obtain ⟨_,one⟩ := holdsNumber_of_mem holds (List.mem_of_getElem? first)
        obtain ⟨_,other⟩ := holdsNumber_of_mem holds (List.mem_of_getElem? second)
        rw [first,second] at same
        rw [meant_injective one.small other.small (decimalInt_injective (Option.some.inj same))]

/-- The number 7 in a field of one byte. -/
theorem printsInFull_seven : (⟨0,4,1,.uint⟩ : IpfixFieldType).printValue {value8 := 7, length := 1} = .ok ['7'] :=
  (((printsInFull_iff ⟨0,4,1,.uint⟩ (.inr rfl)).1 (.int8 7) _ 1 7 rfl rfl).mpr (by decide)).trans (by decide)

/-- Destination port 40000, of which the first two digits are printed. -/
theorem not_printsInFull : ¬ ∀ field ∈ ipfixFields, field.coding = .int ∨ field.coding = .uint →
    ∀ given value width number, field.getIpfixValueField given = .ok value → given.number? = some (width,number) →
      field.printValue value = .ok (decimalInt (field.meant number)) := by
  intro always
  have member : (⟨0,11,2,.uint⟩ : IpfixFieldType) ∈ ipfixFields := by decide
  have full := always _ member (.inr rfl) (.int16 40000) _ 2 40000 rfl rfl
  have printed := printValue_number (.inr rfl) (rfl : GivenValue.number? (.int16 40000) = some (2,40000))
    (rfl : (⟨0,11,2,.uint⟩ : IpfixFieldType).getIpfixValueField (.int16 40000) = _)
  exact absurd (printed.symm.trans full) (by decide)

end IpfixFieldType
end Mnslp.Msg
