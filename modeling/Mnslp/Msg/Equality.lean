import Mnslp.Lib.Walk
import Mnslp.Msg.MnslpObject

/-! Equality of messages, after the operators `==` and `!=` of the classes a message is
made of. None of them compares the lengths of the lists it walks through. -/
namespace Mnslp.Msg
open Mnslp.Lib

namespace IpfixValueField

/-- The comparison of one of the two pointers with the bytes behind it. -/
def equalBytes (own other : Option Bytes) (length otherLength : Nat) : Bool :=
  match own,other with
  | none,none => true
  | some bytes,some others => length = otherLength ∧ bytes.take otherLength = others.take otherLength
  | _,_ => false

/-- `operator==` -/
def equals (value param : IpfixValueField) : Bool :=
  if param.valuechar.isNone ∧ value.valuechar.isNone ∧ param.valuebyte.isNone ∧ value.valuebyte.isNone then
    value.length = param.length ∧ (value.length = 1 → value.value8 = param.value8) ∧
      (value.length = 2 → value.value16 = param.value16) ∧ (value.length = 4 → value.value32 = param.value32) ∧
      (value.length = 8 → value.value64 = param.value64)
  else equalBytes value.valuechar param.valuechar value.length param.length ∧
    equalBytes value.valuebyte param.valuebyte value.length param.length

end IpfixValueField

/-- The four comparisons of the fields of templates; elements are compared by their keys. -/
def IpfixTemplateField.equals (field other : IpfixTemplateField) : Bool :=
  field.flength = other.flength ∧ field.unknownF = other.unknownF ∧ field.relayF = other.relayF ∧
    field.elem.getFieldKey = other.elem.getFieldKey

namespace IpfixTemplate

/-- The loop over the own fields. -/
def equalFields : List IpfixTemplateField → List IpfixTemplateField → Call Bool
  | [],_ => .ok true
  | _ :: _,[] => Call.fault .readBeyondVector
  | field :: fields,other :: others => if field.equals other then equalFields fields others else .ok false

/-- `operator==` -/
def equals (templ rhs : IpfixTemplate) : Call Bool :=
  if rhs.type ≠ templ.type ∨ rhs.tid ≠ templ.tid ∨ rhs.maxfields ≠ templ.maxfields then .ok false
  else do
    if ← equalFields templ.datafields rhs.datafields then equalFields templ.scopefields rhs.scopefields
    else return false

end IpfixTemplate

/-- `operator==`, which takes the exception for an absent template for a difference. -/
def TemplateContainer.equals (templates rhs : TemplateContainer) : Call Bool :=
  if rhs.size ≠ templates.size then .ok false
  else templates.entries.allM fun entry =>
    match rhs.find entry.1 with
    | some templ => entry.2.equals templ
    | none => .ok false

/-- `operator==`, which compares no byte of the buffers. -/
def IpfixT.equals (t rhs : IpfixT) : Call Bool := do
  if t.sourceid ≠ rhs.sourceid ∨ t.version ≠ rhs.version then return false
  else if ← t.templates.equals rhs.templates then
    return t.nrecords = rhs.nrecords ∧ t.offset = rhs.offset ∧ t.bufferLenght = rhs.bufferLenght ∧
      t.seqno = rhs.seqno ∧
      (t.version = ipfixVersionNf9 → rhs.count = t.count ∧ rhs.sysuptime = t.sysuptime ∧ rhs.unixtime = t.unixtime) ∧
      (t.version = ipfixVersion → rhs.length = t.length ∧ rhs.exporttime = t.exporttime)
  else return false

/-- `operator!=`. The exception for a value that the other record lacks leaves it. -/
def IpfixDataRecord.differs (record rhs : IpfixDataRecord) : Call Bool :=
  record.fieldData.entries.anyM fun entry => do
    let value ← rhs.getField entry.1
    return !value.copy.equals entry.2.copy

namespace MnslpIpfixMessage

/-- The loop over the own data records. -/
def equalRecords : List IpfixDataRecord → List IpfixDataRecord → Call Bool
  | [],_ => .ok true
  | _ :: _,[] => Call.fault .readBeyondVector
  | record :: records,other :: others => do
    if ← record.differs other then return false else equalRecords records others

def isEqual (m rhs : MnslpIpfixMessage) : Call Bool :=
  match rhs.message,m.message with
  | .null,.null => .ok true
  | .null,_ => .ok false
  | _,.null => .ok false
  | _,_ => do
    let other ← rhs.liveMessage
    let t ← m.liveMessage
    if ← other.equals t then equalRecords m.dataList rhs.dataList else return false

end MnslpIpfixMessage

/-- `equals_body`, after the casts of the classes of objects. -/
def ObjectBody.equals (body other : ObjectBody) : Call Bool :=
  match body,other with
  | .informationCode severity code about,.informationCode severity' code' about' =>
    .ok (severity = severity' ∧ code = code' ∧ about = about')
  | .selectionMeteringEntities value,.selectionMeteringEntities value' => .ok (value = value')
  | .messageHopCount value,.messageHopCount value' => .ok (value = value')
  | .msgSequenceNumber value,.msgSequenceNumber value' => .ok (value = value')
  | .sessionLifetime value,.sessionLifetime value' => .ok (value = value')
  | .ipfixMessage message,.ipfixMessage message' => message.isEqual message'
  | _,_ => .ok false

/-- `operator==` -/
def MnslpObject.equals (obj other : MnslpObject) : Call Bool :=
  if obj.objectType = other.objectType ∧ obj.treatment = other.treatment then obj.body.equals other.body
  else .ok false

/-- `operator==` -/
def IeStore.equals (store other : IeStore) : Call Bool :=
  if store.size ≠ other.size then .ok false
  else store.entries.allM fun entry =>
    match other.find entry.1 with
    | some obj => entry.2.equals obj
    | none => .ok false

/-- `operator==` -/
def MnslpMsg.equals (m other : MnslpMsg) : Call Bool :=
  if m.kind ≠ other.kind then .ok false else m.objects.equals other.objects

@[simp] theorem IpfixValueField.equals_self (value : IpfixValueField) : value.equals value = true := by
  have bytes (own : Option Bytes) (length : Nat) : equalBytes own own length length = true := by
    cases own <;> simp [equalBytes]
  unfold equals
  split <;> simp [bytes]

@[simp] theorem IpfixTemplateField.equals_self (field : IpfixTemplateField) : field.equals field = true := by
  simp [equals]

@[simp] theorem IpfixTemplate.equalFields_self (fields : List IpfixTemplateField) :
    equalFields fields fields = .ok true := by
  induction fields with
  | nil => rfl
  | cons field rest ih => rw [equalFields,if_pos field.equals_self,ih]

@[simp] theorem IpfixTemplate.equals_self (templ : IpfixTemplate) : templ.equals templ = .ok true := by
  simp [equals]

@[simp] theorem TemplateContainer.equals_self (templates : TemplateContainer) : templates.equals templates = .ok true := by
  unfold equals
  rw [if_neg (not_not_intro rfl),allM_eq_true]
  intro entry member
  rw [OrderedMap.find_of_mem _ entry.1 entry.2 member]
  exact entry.2.equals_self

@[simp] theorem IpfixDataRecord.differs_self (record : IpfixDataRecord) : record.differs record = .ok false := by
  have all : (record.fieldData.entries.allM fun entry => (do
      let value ← record.getField entry.1
      return !value.copy.equals entry.2.copy).map not) = .ok true := by
    apply allM_eq_true.mpr
    intro entry member
    unfold getField
    rw [OrderedMap.find_of_mem _ entry.1 entry.2 member]
    simp [Except.map]
  unfold differs
  rw [anyM_eq_allM,all]
  rfl

@[simp] theorem MnslpIpfixMessage.equalRecords_self (records : List IpfixDataRecord) :
    equalRecords records records = .ok true := by
  induction records with
  | nil => rfl
  | cons record rest ih => simp [equalRecords,ih]

namespace MnslpIpfixMessage

/-- Two messages that are found equal have as many bytes. -/
theorem offset_of_isEqual {m rhs : MnslpIpfixMessage} {other : IpfixT} (live : rhs.message = .live other)
    (same : m.isEqual rhs = .ok true) : ∃ t, m.message = .live t ∧ t.offset = other.offset := by
  unfold isEqual at same
  rw [live] at same
  cases own : m.message with
  | null =>
    rw [own] at same
    cases same
  | dangling => simp [own,liveMessage,live,Call.fault] at same
  | live t =>
    refine ⟨t,rfl,?_⟩
    simp only [own,liveMessage,live,Call.ok_bind] at same
    obtain ⟨equal,compared,same⟩ := Call.bind_eq_ok.mp same
    cases equal with
    | false => cases same
    | true =>
      unfold IpfixT.equals at compared
      split at compared
      · cases compared
      · obtain ⟨templates,_,compared⟩ := Call.bind_eq_ok.mp compared
        cases templates with
        | false => cases compared
        | true =>
          have fields := Except.ok.inj compared
          simp only [decide_eq_true_eq] at fields
          exact fields.2.1.symm

end MnslpIpfixMessage
end Mnslp.Msg
