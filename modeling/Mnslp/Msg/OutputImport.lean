import Mnslp.Msg.EqualityLaws
import Mnslp.Msg.FieldValue
import Mnslp.Msg.ImportMeaning
import Mnslp.Msg.OutputContent

/-! What is output is imported again, for the messages whose templates keep their ids. -/
namespace Mnslp.Msg
open Mnslp.Lib Call

namespace IpfixFieldType
variable {elem : IpfixFieldType} {value : IpfixValueField}

/-- The value was made by the field, and the field keeps it. -/
def Carries (elem : IpfixFieldType) (value : IpfixValueField) : Prop :=
  ∃ given, elem.getIpfixValueField given = .ok value ∧ elem.Keeps given

theorem Number.codec {width number : Nat} (kept : elem.Number value width number) (relay : Bool) : ∃ bytes,
    elem.encode value relay = .ok bytes ∧ bytes.length = value.length ∧
      elem.decode (bytes.take (elem.bytesRead bytes.length)) bytes.length relay = .ok value := by
  refine ⟨_,kept.encoded relay,by rw [Bytes.length_encode,kept.length],?_⟩
  rw [Bytes.length_encode,kept.read,List.take_of_length_le (Nat.le_of_eq (Bytes.length_encode _ _ _)),kept.decoded]

theorem Carries.length_pos (carries : elem.Carries value) : 0 < value.length := by
  obtain ⟨given,accepted,keeps⟩ := carries
  cases given with
  | int8 v | int16 v | int32 v | int64 v =>
    obtain ⟨_,_,length,wide⟩ := null_of_number rfl accepted
    omega
  | vunit8 v =>
    obtain ⟨_,rfl⟩ := accepts_of_bytes accepted
    exact List.length_pos_of_ne_nil keeps
  | vchar v => exact keeps.elim

theorem Carries.copy (carries : elem.Carries value) : value.copy = value := if_pos carries.length_pos

/-- What is encoded is decoded as the same value. -/
theorem Carries.codec (carries : elem.Carries value) (relay : Bool) : ∃ bytes, elem.encode value relay = .ok bytes ∧
    bytes.length = value.length ∧
    elem.decode (bytes.take (elem.bytesRead bytes.length)) bytes.length relay = .ok value := by
  have same := carries.copy
  obtain ⟨given,accepted,keeps⟩ := carries
  cases given with
  | int8 v | int16 v | int32 v | int64 v => exact (number_of_codes rfl accepted keeps).codec relay
  | vunit8 v =>
    obtain ⟨accepts,rfl⟩ := accepts_of_bytes accepted
    obtain ⟨encoded,all,decoded⟩ := codec_bytes accepts relay
    refine ⟨v,encoded,rfl,?_⟩
    rw [all,List.take_length,decoded,same]
  | vchar v => exact keeps.elim

end IpfixFieldType

/-- The types stand in their order, the one for unknown elements behind them. -/
theorem increasing_ipfixElements : (0 :: ipfixElements.dropLast.map Prod.fst).IsChain (· < ·) := by
  decide +kernel

theorem nodup_ipfixElements : (ipfixElements.map Prod.fst).Nodup := by
  have distinct := increasing_ipfixElements.pairwise.imp fun less => Int.ne_of_lt less
  have last : ipfixElements.map Prod.fst = ipfixElements.dropLast.map Prod.fst ++ [0] := rfl
  rw [last]
  exact (List.perm_append_singleton 0 _).nodup_iff.mpr distinct

theorem nodup_ipfixFields : (ipfixFields.map IpfixFieldType.getFieldKey).Nodup := by
  have keys (eno : Int) : (ipfixElements.map fun entry => (⟨eno,entry.1,entry.2.1,entry.2.2⟩ : IpfixFieldType)).map
      IpfixFieldType.getFieldKey = (ipfixElements.map Prod.fst).map (IpfixFieldKey.mk eno) := by
    rw [List.map_map,List.map_map]
    rfl
  have fields : ipfixFields = (ipfixElements.map fun entry => ⟨0,entry.1,entry.2.1,entry.2.2⟩) ++
      ipfixElements.map fun entry => ⟨revPen,entry.1,entry.2.1,entry.2.2⟩ := rfl
  have each (eno : Int) : ((ipfixElements.map Prod.fst).map (IpfixFieldKey.mk eno)).Nodup :=
    nodup_ipfixElements.map fun _ _ same => (IpfixFieldKey.mk.inj same).2
  rw [fields,List.map_append,keys,keys]
  refine List.nodup_append.mpr ⟨each 0,each revPen,fun key member other inside same => ?_⟩
  obtain ⟨_,_,rfl⟩ := List.mem_map.mp member
  obtain ⟨_,_,rfl⟩ := List.mem_map.mp inside
  exact absurd (IpfixFieldKey.mk.inj same).1 (by decide)

/-- The elements of the container are found by their numbers. -/
theorem getFieldType_of_mem {elem : IpfixFieldType} (member : elem ∈ ipfixFields) :
    getFieldType elem.eno elem.ftype = .ok elem := by
  unfold getFieldType
  cases found : ipfixFields.find? (fun field => field.ftype == elem.ftype && field.eno == elem.eno) with
  | none =>
    refine absurd ?_ (List.find?_eq_none.mp found elem member)
    rw [beq_self_eq_true,beq_self_eq_true]
    rfl
  | some other =>
    have same := List.find?_some found
    rw [Bool.and_eq_true,beq_iff_eq,beq_iff_eq] at same
    have key : other.getFieldKey = elem.getFieldKey := by
      unfold IpfixFieldType.getFieldKey
      rw [same.1,same.2]
    rw [List.inj_on_of_nodup_map nodup_ipfixFields (List.mem_of_find?_eq_some found) member key]

theorem ipfixFields_numbers : ∀ elem ∈ ipfixFields, (0 ≤ elem.ftype ∧ elem.ftype < 2^15) ∧ (elem.eno = 0 ∨ elem.eno = revPen) := by
  decide +kernel

namespace IpfixTemplateField
variable {field : IpfixTemplateField} {relay : Bool}

/-- How the field stands in a template record. -/
def specifier (field : IpfixTemplateField) : FieldSpecifier where
  eno := if field.elem.eno = 0 then none else some (UInt32.ofNat (intBits 32 field.elem.eno))
  ftype := UInt16.ofNat (intBits 15 field.elem.ftype)
  length := field.flength
  small := by
    have bits : intBits 15 field.elem.ftype < 2^15 := by
      unfold intBits
      omega
    rw [UInt16.lt_iff_toNat_lt,UInt16.toNat_ofNat_of_lt' (show _ < 2^16 by omega)]
    exact bits

/-- A field of a message of the given mode, with an element of the container. -/
structure Listed (relay : Bool) (field : IpfixTemplateField) : Prop where
  known : field.unknownF = .known
  mode : field.relayF = relay
  listed : field.elem ∈ ipfixFields

theorem Listed.ftype (listed : field.Listed relay) : intBits 15 field.elem.ftype = intBits 16 field.elem.ftype ∧
    (UInt16.ofNat (intBits 15 field.elem.ftype)).toNat = intBits 15 field.elem.ftype ∧
    intBits 15 field.elem.ftype < 2^15 ∧ (intBits 15 field.elem.ftype : Int) = field.elem.ftype := by
  obtain ⟨⟨least,most⟩,_⟩ := ipfixFields_numbers field.elem listed.listed
  have bits : intBits 15 field.elem.ftype < 2^15 := by
    unfold intBits
    omega
  refine ⟨?_,UInt16.toNat_ofNat_of_lt' (show _ < 2^16 by omega),bits,?_⟩
  · unfold intBits
    omega
  · unfold intBits
    omega

theorem Listed.bytes (listed : field.Listed relay) (order : ByteOrder) :
    field.specifier.bytes order = fieldSpecifier order field := by
  obtain ⟨same,whole,small,_⟩ := listed.ftype
  unfold FieldSpecifier.bytes specifier fieldSpecifier
  dsimp only
  rw [whole,← same]
  by_cases plain : field.elem.eno = 0
  · rw [if_pos plain,if_pos plain]
  · rw [if_neg plain,if_neg plain]
    dsimp only
    have bit : ipfixEftVendorBit.toNat = 2^15 * 1 := rfl
    have number : (UInt32.ofNat (intBits 32 field.elem.eno)).toNat = intBits 32 field.elem.eno := by
      refine UInt32.toNat_ofNat_of_lt' (show _ < 2^32 from ?_)
      unfold intBits
      omega
    rw [number,bit,Nat.or_comm,← Nat.two_pow_add_eq_or_of_lt small,Nat.add_comm]

/-- The reader finds the same element. -/
theorem Listed.found (listed : field.Listed relay) : field.specifier.field relay = field := by
  obtain ⟨_,whole,_,number⟩ := listed.ftype
  have eno : (((field.specifier.eno.getD 0).toNat : Int).bmod (2^32)) = field.elem.eno := by
    unfold specifier
    dsimp only
    rcases (ipfixFields_numbers field.elem listed.listed).2 with plain | reverse
    · rw [plain]
      decide
    · rw [reverse]
      decide
  have element : field.specifier.element = .ok field.elem := by
    unfold FieldSpecifier.element
    rw [eno,specifier]
    dsimp only
    rw [whole,number]
    exact getFieldType_of_mem listed.listed
  obtain ⟨flength,unknownF,relayF,elem⟩ := field
  obtain ⟨rfl,rfl,_⟩ := listed
  unfold FieldSpecifier.field
  rw [element]
  rfl

end IpfixTemplateField

namespace IpfixTemplate
variable {templ : IpfixTemplate} {relay : Bool}

/-- The sets in which templates of the type stand. -/
def setidOf : IpfixTemplType → UInt16
  | .dataTemplate => 2
  | .optionTemplate => 3

/-- How the template stands in a message. -/
def record (templ : IpfixTemplate) : TemplateRecord where
  setid := setidOf templ.type
  templid := templ.tid
  scope := templ.scopefields.map IpfixTemplateField.specifier
  data := templ.datafields.map IpfixTemplateField.specifier

/-- A template with all its fields, that has not been sent. Only an option template has a scope. -/
structure Listed (relay : Bool) (templ : IpfixTemplate) : Prop where
  fields : ∀ field ∈ templ.allFields, field.Listed relay
  one : templ.OneKind
  filled : templ.getNumfields = templ.maxfields
  some : 0 < templ.maxfields
  plain : templ.type = .dataTemplate → templ.scopefields = []
  unsent : templ.tsend = 0

theorem specifiers_record (templ : IpfixTemplate) :
    templ.record.specifiers = templ.allFields.map IpfixTemplateField.specifier := List.map_append.symm

theorem count_record (templ : IpfixTemplate) : templ.record.count = templ.getNumfields := by
  rw [TemplateRecord.count,specifiers_record,List.length_map,allFields,List.length_append,getNumfields,Nat.add_comm]

theorem Listed.template (listed : templ.Listed relay) : templ.record.template relay = templ := by
  have same (fields : List IpfixTemplateField) (inside : ∀ field ∈ fields, field.Listed relay) :
      (fields.map IpfixTemplateField.specifier).map (FieldSpecifier.field relay) = fields := by
    rw [List.map_map]
    exact (List.map_congr_left fun field member => (inside field member).found).trans (List.map_id _)
  have scope := same templ.scopefields fun field member => listed.fields field (List.mem_append_left _ member)
  have data := same templ.datafields fun field member => listed.fields field (List.mem_append_right _ member)
  have count := templ.count_record.trans listed.filled
  have unsent := listed.unsent
  unfold TemplateRecord.template
  rw [count]
  unfold record
  rw [scope,data]
  obtain ⟨type,tsend,tid,maxfields,datafields,scopefields⟩ := templ
  cases unsent
  cases type <;> rfl

theorem Listed.bytes_fields (listed : templ.Listed relay) (order : ByteOrder) :
    templ.record.specifiers.flatMap (FieldSpecifier.bytes order) = templ.allFields.flatMap (fieldSpecifier order) := by
  rw [specifiers_record,List.flatMap_map]
  exact List.flatMap_congr fun field member => (listed.fields field member).bytes order

/-- The set that is written for the template. -/
theorem Listed.bytes (listed : templ.Listed relay) (order : ByteOrder) :
    (IpfixSet.templates templ.record.setid [templ.record] 0).bytes order = templ.templateSet order ipfixVersion := by
  have fields := listed.bytes_fields order
  have size : (templ.record.specifiers.flatMap (FieldSpecifier.bytes order)).length =
      specifierBytes templ.scopefields + specifierBytes templ.datafields := by
    have each : (fun field => (fieldSpecifier order field).length) = fieldSpecifierSize := funext (length_fieldSpecifier order)
    rw [fields,← specifierBytes_allFields,List.length_flatMap,each]
    rfl
  have count := templ.count_record
  have body : (IpfixSet.templates templ.record.setid [templ.record] 0).body order = templ.record.bytes order := by
    unfold IpfixSet.body IpfixSet.templateBytes
    dsimp only
    rw [List.flatMap_singleton,List.replicate_zero,List.append_nil]
  have length : (templ.record.bytes order).length = templ.record.headerSize +
      (specifierBytes templ.scopefields + specifierBytes templ.datafields) := by
    rw [TemplateRecord.bytes,List.length_append,size,TemplateRecord.length_header]
  have setid : templ.record.setid = setidOf templ.type := rfl
  have scope : templ.record.scope.length = templ.getNumberScopefields := List.length_map _
  unfold IpfixSet.bytes Msg.setBytes IpfixSet.setid
  rw [body,length,TemplateRecord.bytes,fields]
  unfold templateSet templateHeader TemplateRecord.headerSize TemplateRecord.header
  dsimp only
  rw [count,setid,scope]
  cases templ.type with
  | dataTemplate =>
    have total : 4 + (4 + (specifierBytes templ.scopefields + specifierBytes templ.datafields)) =
        8 + specifierBytes templ.datafields + specifierBytes templ.scopefields := by omega
    simp [setidOf,isOptionSet,total,ipfixVersion,ipfixVersionNf9]
    rfl
  | optionTemplate =>
    have total : 4 + (6 + (specifierBytes templ.scopefields + specifierBytes templ.datafields)) =
        10 + specifierBytes templ.datafields + specifierBytes templ.scopefields := by omega
    simp [setidOf,isOptionSet,total,ipfixVersion,ipfixVersionNf9]
    rfl

theorem Listed.wellFormed (listed : templ.Listed relay) (few : templ.getNumfields < 2^16) : templ.record.WellFormed := by
  refine ⟨⟨?_,?_,fun data => ?_⟩,?_,fun one => ?_⟩
  · change (setidOf templ.type).toNat ≤ 3
    cases templ.type <;> decide
  · rw [count_record]
    exact few
  · refine List.map_eq_nil_iff.mpr (listed.plain ?_)
    change isOptionSet (setidOf templ.type) = false at data
    cases type : templ.type with
    | dataTemplate => rfl
    | optionTemplate =>
      rw [type] at data
      cases data
  · rw [count_record,listed.filled]
    exact listed.some
  · change setidOf templ.type = 1 at one
    cases type : templ.type <;> rw [type] at one <;> exact absurd one (by decide)

theorem specifierBytes_ge (fields : List IpfixTemplateField) : 4 * fields.length ≤ specifierBytes fields := by
  induction fields with
  | nil => exact Nat.zero_le _
  | cons field rest ih =>
    have least : 4 ≤ fieldSpecifierSize field := by
      unfold fieldSpecifierSize
      split <;> decide
    unfold specifierBytes at ih ⊢
    rw [List.map_cons,List.sum_cons,List.length_cons]
    omega

theorem few_of_room {offset : Nat} (room : templ.setBytes + offset ≤ ipfixDefaultBuflen) : templ.getNumfields < 2^16 := by
  have each := specifierBytes_ge templ.allFields
  have buflen : ipfixDefaultBuflen = 1400 := rfl
  rw [allFields,List.length_append] at each
  unfold setBytes at room
  unfold getNumfields
  rw [← allFields] at each
  omega

end IpfixTemplate

/-- The value comes back from the field: it has the length of the field, and there is room to print it. -/
structure IpfixTemplateField.Carries (field : IpfixTemplateField) (value : IpfixValueField) : Prop where
  kept : field.elem.Carries value
  length : field.flength = ipfixFtVarlen ∨ value.length = field.flength.toNat
  printed : field.elem.snprintFits 30 value.length = true

namespace IpfixDataRecord
variable {record : IpfixDataRecord} {templ : IpfixTemplate} {field : IpfixTemplateField} {relay : Bool} {order : ByteOrder}

def value (record : IpfixDataRecord) (field : IpfixTemplateField) : IpfixValueField :=
  (record.fieldData.find field.elem.getFieldKey).getD {}

def encodedValue (record : IpfixDataRecord) (field : IpfixTemplateField) : Bytes :=
  match field.elem.encode (record.value field) field.relayF with
  | .ok bytes => bytes
  | .error _ => []

/-- The record has a value for each field of the template and no other, and they come back. -/
structure Fitting (templ : IpfixTemplate) (record : IpfixDataRecord) : Prop where
  named : record.templateId = templ.tid
  keys : record.fieldData.keys.Perm (templ.allFields.map fun field => field.elem.getFieldKey)
  values : ∀ field ∈ templ.allFields, field.Carries (record.value field)

theorem Fitting.found (fitting : record.Fitting templ) (member : field ∈ templ.allFields) :
    record.fieldData.find field.elem.getFieldKey = some (record.value field) := by
  have inside := fitting.keys.mem_iff.mpr (List.mem_map.mpr ⟨field,member,rfl⟩)
  obtain ⟨⟨key,value⟩,stored,same⟩ := List.mem_map.mp inside
  have there := record.fieldData.find_of_mem key value stored
  dsimp only at same
  rw [same] at there
  unfold IpfixDataRecord.value
  rw [there]
  rfl

/-- The entries of the record in the order of the fields. -/
theorem Fitting.entries (fitting : record.Fitting templ) :
    (templ.allFields.map fun field => (field.elem.getFieldKey,record.value field)).Perm record.fieldData.entries := by
  have pairs := (fitting.keys.map fun key => (key,(record.fieldData.find key).getD {})).symm
  have own : record.fieldData.keys.map (fun key => (key,(record.fieldData.find key).getD {})) = record.fieldData.entries := by
    rw [OrderedMap.keys,List.map_map]
    refine (List.map_congr_left fun entry member => ?_).trans (List.map_id _)
    rw [Function.comp_apply,record.fieldData.find_of_mem entry.1 entry.2 member]
    rfl
  rw [own,List.map_map] at pairs
  exact pairs

theorem encodedValue_codec (carries : field.Carries (record.value field)) :
    field.elem.encode (record.value field) field.relayF = .ok (record.encodedValue field) ∧
      (record.encodedValue field).length = (record.value field).length ∧
      field.elem.decode ((record.encodedValue field).take (field.elem.bytesRead (record.encodedValue field).length))
        (record.encodedValue field).length field.relayF = .ok (record.value field) := by
  obtain ⟨bytes,encoded,length,decoded⟩ := carries.kept.codec field.relayF
  have same : record.encodedValue field = bytes := by
    unfold encodedValue
    rw [encoded]
  rw [same]
  exact ⟨encoded,length,decoded⟩

/-- What is written of a value is what the specifier of its field asks for. -/
theorem fieldBytes_eq (found : record.fieldData.find field.elem.getFieldKey = some (record.value field))
    (carries : field.Carries (record.value field)) (small : (record.value field).length < 2^16) (order : ByteOrder) :
    record.fieldBytes order field = field.specifier.valueBytes order (record.encodedValue field) := by
  obtain ⟨encoded,length,_⟩ := encodedValue_codec carries
  have got : record.getField field.elem.getFieldKey = .ok (record.value field) := by
    unfold getField
    rw [found]
  have whole : ¬ (record.encodedValue field).length ≠ (UInt16.ofNat (record.value field).length).toNat := by
    rw [length,toNat_length small]
    exact not_not_intro rfl
  unfold fieldBytes Msg.valueBytes FieldSpecifier.valueBytes
  rw [getLength_of_getField got,ok_bind,got,ok_bind,encoded,ok_bind,if_neg whole,length]
  rfl

theorem allows_encodedValue (carries : field.Carries (record.value field)) (small : (record.value field).length < 2^16) :
    field.specifier.Allows (record.encodedValue field) := by
  obtain ⟨_,length,_⟩ := encodedValue_codec carries
  unfold FieldSpecifier.Allows
  change if field.flength = ipfixFtVarlen then _ else _ = field.flength.toNat
  rw [length]
  by_cases varlen : field.flength = ipfixFtVarlen
  · rw [if_pos varlen]
    exact small
  · rw [if_neg varlen]
    exact carries.length.resolve_left varlen

/-- The reader puts the value into its record again. -/
theorem enter_encodedValue (listed : field.Listed relay) (carries : field.Carries (record.value field)) (read : IpfixDataRecord) :
    FieldSpecifier.enter relay read (field.specifier,record.encodedValue field) =
      .ok {read with fieldData := read.fieldData.insert field.elem.getFieldKey (record.value field)} := by
  obtain ⟨_,length,decoded⟩ := encodedValue_codec carries
  unfold FieldSpecifier.enter
  dsimp only
  rw [listed.found,← listed.mode,decoded,ok_bind]
  unfold IpfixFieldType.snprint
  rw [if_pos carries.printed,ok_bind,insertField,carries.kept.copy]
  rfl

theorem recordOf_row (listed : templ.Listed relay) (fitting : record.Fitting templ) :
    templ.record.recordOf relay (templ.allFields.map record.encodedValue) = .ok record := by
  have each (fields : List IpfixTemplateField) (inside : ∀ field ∈ fields, field ∈ templ.allFields) :
      ∀ read : IpfixDataRecord, ((fields.map IpfixTemplateField.specifier).zip (fields.map record.encodedValue)).foldlM
        (FieldSpecifier.enter relay) read = .ok {read with
          fieldData := (fields.map fun field => (field.elem.getFieldKey,record.value field)).foldl
            (fun map entry => map.insert entry.1 entry.2) read.fieldData} := by
    induction fields with
    | nil => exact fun read => rfl
    | cons field rest ih =>
      intro read
      obtain ⟨here,others⟩ := List.forall_mem_cons.mp inside
      rw [List.map_cons,List.map_cons,List.zip_cons_cons,List.foldlM_cons,
        enter_encodedValue (listed.fields field here) (fitting.values field here),ok_bind,ih others]
      rfl
  unfold TemplateRecord.recordOf
  rw [IpfixTemplate.specifiers_record,each templ.allFields (fun _ member => member)]
  have whole : (templ.allFields.map fun field => (field.elem.getFieldKey,record.value field)).foldl
      (fun map entry => map.insert entry.1 entry.2) .empty = record.fieldData :=
    OrderedMap.foldl_insert_perm fitting.entries
  change Except.ok (⟨templ.tid,_⟩ : IpfixDataRecord) = _
  rw [← fitting.named]
  exact congrArg (fun data => Except.ok (⟨record.templateId,data⟩ : IpfixDataRecord)) whole

end IpfixDataRecord

theorem setFits_of_setsFit {dataList : List IpfixDataRecord} {limit header offset : Nat} {templs : List IpfixTemplate}
    (fits : setsFit dataList limit header offset templs) : ∀ templ ∈ templs, ∃ before, templ.SetFits dataList limit before := by
  induction templs generalizing offset with
  | nil => exact fun _ none => absurd none List.not_mem_nil
  | cons templ rest ih => exact List.forall_mem_cons.mpr ⟨⟨offset,fits.1⟩,ih fits.2⟩

def IpfixTemplate.set (templ : IpfixTemplate) : IpfixSet := .templates templ.record.setid [templ.record] 0

/-- The set of a record and its template. -/
def recordSet (pair : IpfixTemplate × IpfixDataRecord) : IpfixSet :=
  .data pair.1.record [pair.1.allFields.map pair.2.encodedValue] 0

section
variable {relay : Bool} {templ : IpfixTemplate} {record : IpfixDataRecord} {order : ByteOrder}

theorem length_value (fitting : record.Fitting templ) (writable : IpfixDataRecord.Writable templ record)
    {field : IpfixTemplateField} (member : field ∈ templ.allFields) : (record.value field).length < 2^16 := by
  obtain ⟨value,got,_,small,_⟩ := writable field member
  unfold IpfixDataRecord.getField at got
  rw [fitting.found member] at got
  cases got
  exact small

theorem dataBytes_row (fitting : record.Fitting templ) (writable : IpfixDataRecord.Writable templ record) (order : ByteOrder) :
    IpfixSet.dataBytes order templ.record (templ.allFields.map record.encodedValue) =
      IpfixDataRecord.valuesBytes order templ record := by
  unfold IpfixSet.dataBytes IpfixDataRecord.valuesBytes
  rw [IpfixTemplate.specifiers_record,List.zipWith_map,List.zipWith_self,List.flatMap_def]
  refine congrArg List.flatten (List.map_congr_left fun field member => ?_)
  exact (IpfixDataRecord.fieldBytes_eq (fitting.found member) (fitting.values field member)
    (length_value fitting writable member) order).symm

theorem bytes_recordSet (fitting : record.Fitting templ) (writable : IpfixDataRecord.Writable templ record)
    (order : ByteOrder) : (recordSet (templ,record)).bytes order = IpfixDataRecord.dataSet order templ record := by
  have body : (recordSet (templ,record)).body order = IpfixDataRecord.valuesBytes order templ record := by
    unfold recordSet IpfixSet.body
    dsimp only
    rw [List.flatMap_singleton,List.replicate_zero,List.append_nil,dataBytes_row fitting writable]
  unfold IpfixSet.bytes setBytes IpfixDataRecord.dataSet IpfixDataRecord.setHeader
  rw [body,IpfixDataRecord.length_valuesBytes order writable]
  rfl

theorem wellFormed_row (listed : templ.Listed relay) (fitting : record.Fitting templ)
    (writable : IpfixDataRecord.Writable templ record) :
    List.Forall₂ FieldSpecifier.Allows templ.record.specifiers (templ.allFields.map record.encodedValue) ∧
      ∀ order, IpfixSet.dataBytes order templ.record (templ.allFields.map record.encodedValue) ≠ [] := by
  constructor
  · rw [IpfixTemplate.specifiers_record,List.forall₂_map_left_iff,List.forall₂_map_right_iff]
    refine List.forall₂_same.mpr fun field member => ?_
    exact IpfixDataRecord.allows_encodedValue (fitting.values field member) (length_value fitting writable member)
  · intro order
    have some : templ.allFields ≠ [] := by
      refine List.ne_nil_of_length_pos ?_
      have filled := listed.filled
      have some := listed.some
      rw [IpfixTemplate.getNumfields] at filled
      rw [IpfixTemplate.allFields,List.length_append]
      omega
    obtain ⟨field,rest,split⟩ := List.exists_cons_of_ne_nil some
    have member : field ∈ templ.allFields := by
      rw [split]
      exact List.mem_cons_self
    obtain ⟨_,length,_⟩ := IpfixDataRecord.encodedValue_codec (fitting.values field member)
    have long := (fitting.values field member).kept.length_pos
    have filled : field.specifier.valueBytes order (record.encodedValue field) ≠ [] := by
      unfold FieldSpecifier.valueBytes
      have own : record.encodedValue field ≠ [] := List.ne_nil_of_length_pos (by omega)
      split
      · exact List.append_ne_nil_of_right_ne_nil _ own
      · exact own
    unfold IpfixSet.dataBytes
    rw [IpfixTemplate.specifiers_record,List.zipWith_map,List.zipWith_self,split,List.map_cons,List.flatten_cons]
    exact List.append_ne_nil_of_left_ne_nil filled _

end

namespace IpfixT
variable {t : IpfixT} {relay : Bool} {dataList : List IpfixDataRecord} {now count : Nat}

/-- A message that the reader takes for the same: it numbers the templates as they are numbered. -/
structure Portable (relay : Bool) (dataList : List IpfixDataRecord) (t : IpfixT) : Prop where
  version : t.version = ipfixVersion
  numbered i templ : t.outputOrder.reverse[i]? = some templ → templ.tid.toNat = 256 + i
  templates : ∀ templ ∈ t.outputOrder, templ.Listed relay
  records : ∀ record ∈ dataList, ∃ templ, t.templates.find record.templateId = some templ ∧ record.Fitting templ

/-- What an output says. -/
def content (now count : Nat) (dataList : List IpfixDataRecord) (t : IpfixT) : IpfixContent where
  exporttime := UInt32.ofNat now
  seqno := UInt32.ofNat count
  sourceid := t.sourceid
  sets := t.outputOrder.reverse.map IpfixTemplate.set ++ (grouped dataList t.outputOrder).map recordSet

/-- The records in the order in which they are written. -/
def sentRecords (dataList : List IpfixDataRecord) (t : IpfixT) : List IpfixDataRecord :=
  t.outputOrder.flatMap (IpfixTemplate.recordsIn dataList)

theorem sentRecords_eq (dataList : List IpfixDataRecord) (t : IpfixT) :
    t.sentRecords dataList = (grouped dataList t.outputOrder).map Prod.snd := by
  unfold sentRecords grouped
  rw [List.map_flatMap]
  refine List.flatMap_congr fun templ _ => ?_
  rw [List.map_map]
  exact (List.map_id _).symm

theorem Portable.grouped (portable : t.Portable relay dataList) (keyed : t.templates.Keyed)
    {pair : IpfixTemplate × IpfixDataRecord} (member : pair ∈ grouped dataList t.outputOrder) :
    pair.1 ∈ t.outputOrder ∧ pair.2.Fitting pair.1 := by
  obtain ⟨inside,included,named⟩ := mem_grouped member
  obtain ⟨templ,found,fitting⟩ := portable.records pair.2 included
  rw [named,(holds_outputOrder keyed).found pair.1 inside] at found
  cases found
  exact ⟨inside,fitting⟩

theorem writable_grouped (fits : t.OutputFits dataList) {pair : IpfixTemplate × IpfixDataRecord}
    (member : pair ∈ Msg.grouped dataList t.outputOrder) : IpfixDataRecord.Writable pair.1 pair.2 := by
  obtain ⟨inside,included,named⟩ := mem_grouped member
  obtain ⟨_,setFits⟩ := setFits_of_setsFit fits pair.1 inside
  exact setFits.writable pair.2 (IpfixTemplate.mem_recordsIn.mpr ⟨included,named⟩)

theorem Portable.tid (portable : t.Portable relay dataList) {templ : IpfixTemplate} (member : templ ∈ t.outputOrder) :
    256 ≤ templ.tid.toNat := by
  obtain ⟨i,inside,rfl⟩ := List.getElem_of_mem (List.mem_reverse.mpr member)
  rw [portable.numbered i _ (List.getElem?_eq_getElem inside)]
  exact Nat.le_add_right _ _

/-- The content is written as the sets of the output. -/
theorem Portable.body (portable : t.Portable relay dataList) (keyed : t.templates.Keyed) (fits : t.OutputFits dataList)
    (now count : Nat) (order : ByteOrder) : (t.content now count dataList).body order = t.allSets order dataList := by
  have fronts : t.outputOrder.reverse.flatMap (IpfixTemplate.frontSet order t.version) =
      (t.outputOrder.reverse.map IpfixTemplate.set).flatMap (IpfixSet.bytes order) := by
    rw [List.flatMap_map]
    refine List.flatMap_congr fun templ member => ?_
    have listed := portable.templates templ (List.mem_reverse.mp member)
    rw [IpfixTemplate.frontSet,if_pos listed.unsent,portable.version]
    exact (listed.bytes order).symm
  have behinds : ((Msg.grouped dataList t.outputOrder).map fun pair => IpfixDataRecord.writtenSet order pair.1 pair.2).flatten =
      ((Msg.grouped dataList t.outputOrder).map recordSet).flatMap (IpfixSet.bytes order) := by
    rw [List.flatMap_map,List.flatMap_def]
    refine congrArg List.flatten (List.map_congr_left fun pair member => ?_)
    obtain ⟨inside,fitting⟩ := portable.grouped keyed member
    have headed : pair.1.tid ≠ 0 := by
      intro zero
      have high := portable.tid inside
      rw [zero] at high
      exact absurd high (by decide)
    rw [IpfixDataRecord.writtenSet,if_neg headed]
    exact (bytes_recordSet fitting (writable_grouped fits member) order).symm
  unfold IpfixContent.body content allSets
  rw [List.flatMap_append,flatMap_recordSets,fronts,behinds]

/-- The length is the same for both orders. -/
theorem length_allSets_of_fits (fits : t.OutputFits dataList) (order : ByteOrder) : (t.allSets order dataList).length =
    (t.outputOrder.map IpfixTemplate.frontBytes).sum + (t.outputOrder.map (IpfixTemplate.recordBytes dataList)).sum := by
  have fronts : (t.outputOrder.reverse.map fun templ => (templ.frontSet order t.version).length).sum =
      (t.outputOrder.map IpfixTemplate.frontBytes).sum := by
    rw [((List.reverse_perm t.outputOrder).map _).sum_eq]
    exact congrArg List.sum (List.map_congr_left fun templ _ => templ.length_frontSet order t.version)
  have behinds : t.outputOrder.map (fun templ => (templ.recordSets order dataList).length) =
      t.outputOrder.map (IpfixTemplate.recordBytes dataList) := by
    refine List.map_congr_left fun templ member => ?_
    obtain ⟨_,setFits⟩ := setFits_of_setsFit fits templ member
    exact IpfixTemplate.length_recordSets order setFits.writable
  rw [allSets,List.length_append,List.length_flatMap,List.length_flatMap,fronts,behinds]

theorem flatMap_recordSet (pairs : List (IpfixTemplate × IpfixDataRecord)) :
    (pairs.map recordSet).flatMap IpfixSet.templateRecords = [] := by
  rw [List.flatMap_map]
  exact List.flatMap_eq_nil_iff.mpr fun _ _ => rfl

theorem flatMap_templateSet (templs : List IpfixTemplate) :
    (templs.map IpfixTemplate.set).flatMap IpfixSet.templateRecords = templs.map IpfixTemplate.record := by
  rw [List.flatMap_map]
  exact List.flatMap_pure_eq_map _ _

theorem templateRecords_content (t : IpfixT) (now count : Nat) (dataList : List IpfixDataRecord) :
    (t.content now count dataList).templateRecords = t.outputOrder.reverse.map IpfixTemplate.record := by
  unfold IpfixContent.templateRecords content
  rw [List.flatMap_append,flatMap_recordSet,flatMap_templateSet,List.append_nil]

theorem find?_record (templs : List IpfixTemplate) (id : UInt16) :
    (templs.map IpfixTemplate.record).find? (fun record => decide (record.templid = id)) =
      (templs.find? fun templ => decide (templ.tid = id)).map IpfixTemplate.record := by
  rw [List.find?_map]
  rfl

/-- A set behind the templates, or one of the templates. -/
theorem Portable.sets (portable : t.Portable relay dataList) (keyed : t.templates.Keyed) (fits : t.OutputFits dataList)
    (before after : List IpfixSet) (set : IpfixSet) (split : (t.content now count dataList).sets = before ++ set :: after) :
    set.WellFormed (before.flatMap IpfixSet.templateRecords) := by
  have data {pairs : List (IpfixTemplate × IpfixDataRecord)} (split : before = t.outputOrder.reverse.map IpfixTemplate.set ++
      pairs.map recordSet) {pair : IpfixTemplate × IpfixDataRecord} (member : pair ∈ Msg.grouped dataList t.outputOrder) :
      (recordSet pair).WellFormed (before.flatMap IpfixSet.templateRecords) := by
    obtain ⟨inside,fitting⟩ := portable.grouped keyed member
    have shapes := wellFormed_row (portable.templates pair.1 inside) fitting (writable_grouped fits member)
    refine ⟨?_,portable.tid inside,List.cons_ne_nil _ _,by decide,fun values row => ?_⟩
    · rw [split,List.flatMap_append,flatMap_recordSet,List.append_nil,flatMap_templateSet,← List.map_reverse,List.reverse_reverse,
        find?_record]
      change (t.outputOrder.find? fun templ => decide (templ.tid = pair.1.tid)).map _ = _
      rw [find?_outputOrder keyed,(holds_outputOrder keyed).found pair.1 inside]
      rfl
    · cases List.mem_singleton.mp row
      exact shapes
  have templates (member : set ∈ t.outputOrder.reverse.map IpfixTemplate.set) :
      set.WellFormed (before.flatMap IpfixSet.templateRecords) := by
    obtain ⟨templ,inside,rfl⟩ := List.mem_map.mp member
    have ordered := List.mem_reverse.mp inside
    have listed := portable.templates templ ordered
    have kind : templ.record.setid = 2 ∨ templ.record.setid = 3 := by
      change IpfixTemplate.setidOf templ.type = 2 ∨ IpfixTemplate.setidOf templ.type = 3
      cases templ.type
      · exact .inl rfl
      · exact .inr rfl
    refine ⟨kind,List.cons_ne_nil _ _,by decide,fun record inside => ?_⟩
    cases List.mem_singleton.mp inside
    obtain ⟨_,setFits⟩ := setFits_of_setsFit fits templ ordered
    exact ⟨rfl,listed.wellFormed (IpfixTemplate.few_of_room (setFits.front listed.unsent)),portable.tid ordered⟩
  rcases List.append_eq_append_iff.mp split with ⟨middle,front,behind⟩ | ⟨middle,front,behind⟩
  · obtain ⟨pairs,others,inside,rfl,rest⟩ := List.map_eq_append_iff.mp behind
    obtain ⟨pair,more,whole,rfl,rfl⟩ := List.map_eq_cons_iff.mp rest
    refine data front ?_
    rw [inside,whole]
    exact List.mem_append_right _ List.mem_cons_self
  · cases middle with
    | nil =>
      obtain ⟨pair,more,whole,rfl,rfl⟩ := List.map_eq_cons_iff.mp behind.symm
      refine @data [] ?_ pair (by rw [whole]; exact List.mem_cons_self)
      rw [front]
      simp
    | cons first rest =>
      cases behind
      refine templates ?_
      rw [front]
      exact List.mem_append_right _ List.mem_cons_self

theorem Portable.regular (portable : t.Portable relay dataList) (keyed : t.templates.Keyed) (fits : t.OutputFits dataList)
    (room : ∀ order, 16 + (t.allSets order dataList).length < 2^16) : (t.content now count dataList).Regular := by
  refine ⟨⟨fun order => ?_,portable.sets keyed fits⟩,?_,?_⟩
  · rw [IpfixContent.length_bytes,portable.body keyed fits]
    exact room order
  · intro i record placed
    rw [templateRecords_content,List.getElem?_map,Option.map_eq_some_iff] at placed
    obtain ⟨templ,placed,rfl⟩ := placed
    exact portable.numbered i templ placed
  · intro templ rows padding member
    rcases List.mem_append.mp member with front | behind
    · obtain ⟨_,_,same⟩ := List.mem_map.mp front
      cases same
    · obtain ⟨pair,inside,same⟩ := List.mem_map.mp behind
      cases same
      have one := (portable.templates pair.1 (portable.grouped keyed inside).1).one
      exact ⟨rfl,one.imp List.map_eq_nil_iff.mpr List.map_eq_nil_iff.mpr⟩

/-- It says the records in the order in which they are written. -/
theorem Portable.meaning (portable : t.Portable relay dataList) (keyed : t.templates.Keyed) :
    (t.content now count dataList).meaning relay = .ok (t.sentRecords dataList) := by
  have sources : (t.content now count dataList).dataRecords = (Msg.grouped dataList t.outputOrder).map
      fun pair => (pair.1.record,pair.1.allFields.map pair.2.encodedValue) := by
    have templates (templs : List IpfixTemplate) : (templs.map IpfixTemplate.set).flatMap IpfixSet.dataRecords = [] := by
      rw [List.flatMap_map]
      exact List.flatMap_eq_nil_iff.mpr fun _ _ => rfl
    unfold IpfixContent.dataRecords content
    rw [List.flatMap_append,templates,List.nil_append,List.flatMap_map]
    exact List.flatMap_pure_eq_map _ _
  unfold IpfixContent.meaning
  rw [sources,List.mapM_map,sentRecords_eq]
  refine mapM_of_forall fun pair member => ?_
  obtain ⟨inside,fitting⟩ := portable.grouped keyed member
  exact IpfixDataRecord.recordOf_row (portable.templates pair.1 inside) fitting

theorem Portable.found (portable : t.Portable relay dataList) (keyed : t.templates.Keyed) (id : UInt16) :
    ((t.content now count dataList).templateRecords.find? fun record => decide (record.templid = id)).map
      (TemplateRecord.template relay) = t.templates.find id := by
  have distinct : (t.outputOrder.reverse.map IpfixTemplate.tid).Nodup := by
    rw [List.map_reverse,List.nodup_reverse]
    exact (holds_outputOrder keyed).distinct
  rw [templateRecords_content,find?_record,find?_perm IpfixTemplate.tid distinct (List.reverse_perm _),find?_outputOrder keyed]
  cases found : t.templates.find id with
  | none => rfl
  | some templ =>
    obtain ⟨stored,member,_⟩ := t.templates.find_eq_some_mem _ _ found
    have inside := t.perm_outputOrder.mem_iff.mpr (List.mem_map.mpr ⟨_,member,rfl⟩)
    exact congrArg some (portable.templates templ inside).template

end IpfixT

/-- The counters of an IPFIX message behind some more records. -/
structure IpfixT.Counts (t t' : IpfixT) (count : Nat) : Prop where
  version : t'.version = ipfixVersion
  nrecords : t'.nrecords = t.nrecords + count
  seqno : t'.seqno = t.seqno + UInt32.ofNat count

section
variable {encodeNetwork newset : Bool} {now seen : Nat} {t t' : IpfixT} {templ : IpfixTemplate} {dataList : List IpfixDataRecord}

theorem IpfixT.Counts.refl (version : t.version = ipfixVersion) : t.Counts t 0 := ⟨version,rfl,(UInt32.add_zero _).symm⟩

theorem IpfixT.Counts.trans {t'' : IpfixT} {first second : Nat} (counts : t.Counts t' first) (more : t'.Counts t'' second) :
    t.Counts t'' (first + second) where
  version := more.version
  nrecords := by rw [more.nrecords,counts.nrecords,Nat.add_assoc]
  seqno := by rw [more.seqno,counts.seqno,UInt32.ofNat_add,UInt32.add_assoc]

/-- Closing a set counts nothing. -/
theorem IpfixT.Counts.finishCs {count : Nat} (counts : t.Counts t' count) (order : ByteOrder) :
    t.Counts (t'.finishCs order) count := by
  unfold IpfixT.finishCs
  split
  · exact counts
  · exact ⟨counts.version,counts.nrecords,counts.seqno⟩

theorem outputRecord_counts {record : IpfixDataRecord} {final : IpfixT × Nat} (version : t.version = ipfixVersion)
    (mine : record.templateId = templ.tid)
    (ended : outputRecord encodeNetwork newset templ (t,seen) record = .ok final) : t.Counts final.1 1 := by
  unfold outputRecord at ended
  rw [if_neg (not_not_intro mine)] at ended
  obtain ⟨fields,_,ended⟩ := bind_eq_ok.mp ended
  obtain ⟨sizes,_,ended⟩ := bind_eq_ok.mp ended
  obtain ⟨_,_,ended⟩ := bind_eq_ok.mp ended
  obtain ⟨values,_,ended⟩ := bind_eq_ok.mp ended
  obtain ⟨written,wrote,ended⟩ := bind_eq_ok.mp ended
  obtain ⟨_,rfl⟩ := IpfixT.append_eq_ok.mp wrote
  cases ended
  have closed (opened : IpfixT) (same : opened.version = t.version) (more : opened.nrecords = t.nrecords + 1) :
      t.Counts {opened.finishCs (headerOrder encodeNetwork) with
        seqno := if t.version = ipfixVersion then t.seqno + 1 else t.seqno} 1 := by
    have kept : (opened.finishCs (headerOrder encodeNetwork)).version = opened.version ∧
        (opened.finishCs (headerOrder encodeNetwork)).nrecords = opened.nrecords := by
      unfold IpfixT.finishCs
      split <;> exact ⟨rfl,rfl⟩
    exact ⟨kept.1.trans (same.trans version),kept.2.trans more,if_pos version⟩
  refine closed _ ?_ rfl
  split <;> rfl

theorem outputRecords_counts {final : IpfixT × Nat} (version : t.version = ipfixVersion)
    (ended : (templ.recordsIn dataList).foldlM (outputRecord encodeNetwork newset templ) (t,seen) = .ok final) :
    t.Counts final.1 (templ.recordsIn dataList).length := by
  have mine : ∀ record ∈ templ.recordsIn dataList, record.templateId = templ.tid := fun record member =>
    (IpfixTemplate.mem_recordsIn.mp member).2
  revert mine ended
  generalize templ.recordsIn dataList = records
  intro ended mine
  induction records generalizing t seen with
  | nil =>
    cases ended
    exact .refl version
  | cons record rest ih =>
    rw [List.foldlM_cons] at ended
    obtain ⟨next,first,later⟩ := bind_eq_ok.mp ended
    obtain ⟨here,others⟩ := List.forall_mem_cons.mp mine
    have counts := outputRecord_counts version here first
    rw [List.length_cons,Nat.add_comm]
    exact counts.trans (ih counts.version later others)

theorem outputSet_counts {templid : UInt16} (version : t.version = ipfixVersion) (idle : t.Idle)
    (found : t.templates.find templid = some templ)
    (ended : outputSet encodeNetwork now dataList t templid = .ok t') : t.Counts t' (templ.recordsIn dataList).length := by
  have fits := of_outputSet idle found ended
  obtain ⟨fronted,front,grows,_⟩ := frontStep_grows encodeNetwork now idle found (fun unsent => fits.one (.inl unsent)) fits.front
  have fronts : t.Counts fronted 0 := by
    unfold frontStep at front
    split at front
    · obtain ⟨_,_,rfl⟩ := (writeTemplate_eq_ok encodeNetwork now found).mp front
      refine ⟨version,?_,(UInt32.add_zero _).symm⟩
      dsimp only
      rw [version,if_neg (by decide)]
      rfl
    · cases front
      exact .refl version
  rw [outputSet_eq found front grows.toIdle] at ended
  obtain ⟨final,rounds,ended⟩ := bind_eq_ok.mp ended
  cases ended
  have counts := fronts.trans (outputRecords_counts fronts.version rounds)
  rw [Nat.zero_add] at counts
  unfold IpfixT.outputFlush
  split
  · exact counts
  · split
    · exact counts.finishCs _
    · exact counts

theorem outputSets_counts {templs : List IpfixTemplate} (version : t.version = ipfixVersion) (idle : t.Idle)
    (holds : t.Holds templs)
    (ended : (templs.map IpfixTemplate.tid).foldlM (outputSet encodeNetwork now dataList) t = .ok t') :
    t.Counts t' (templs.flatMap (IpfixTemplate.recordsIn dataList)).length := by
  induction templs generalizing t with
  | nil =>
    cases ended
    exact .refl version
  | cons templ rest ih =>
    rw [List.map_cons,List.foldlM_cons] at ended
    obtain ⟨next,first,later⟩ := bind_eq_ok.mp ended
    have found := holds.found templ List.mem_cons_self
    obtain ⟨next',again,grows,others⟩ := outputSet_grows encodeNetwork now idle found (of_outputSet idle found first)
    cases first.symm.trans again
    have counts := outputSet_counts version idle found first
    rw [List.flatMap_cons,List.length_append]
    exact counts.trans (ih counts.version grows.toIdle (holds.behind others) later)

end

namespace MnslpIpfixMessage
variable {m : MnslpIpfixMessage} {t : IpfixT}

theorem bytes_content {sets : IpfixT} (portable : t.Portable m.encodeNetwork m.dataList) (keyed : t.templates.Keyed)
    (fits : t.OutputFits m.dataList) (version : sets.version = t.version) (sourceid : sets.sourceid = t.sourceid)
    (buffer : sets.buffer = t.allSets (headerOrder m.encodeNetwork) m.dataList) (now : Nat) :
    (t.content now sets.nrecords m.dataList).bytes (headerOrder m.encodeNetwork) =
      sets.hdr m.encodeNetwork now m.gTstart ++ sets.buffer := by
  have number (value : Nat) : Bytes.encode (headerOrder m.encodeNetwork) 4 (UInt32.ofNat value).toNat =
      Bytes.encode (headerOrder m.encodeNetwork) 4 value := by
    rw [UInt32.toNat_ofNat']
    exact Bytes.encode_mod _ 4 value
  have offset : sets.offset = (t.allSets (headerOrder m.encodeNetwork) m.dataList).length := congrArg List.length buffer
  unfold IpfixContent.bytes IpfixT.hdr
  rw [portable.body keyed fits,version,portable.version,if_neg (by decide),buffer,offset,sourceid]
  unfold IpfixT.content
  dsimp only
  rw [number,number,Nat.add_comm 16]

/-- What a reader makes of the bytes: the templates, and behind the records that it had those of the
message in the order in which they were written. -/
structure ReadBy (m : MnslpIpfixMessage) (t sent : IpfixT) (reader next : MnslpIpfixMessage) (u : IpfixT) : Prop where
  live : next.message = .live u
  templates : u.templates = t.templates
  dataList : next.dataList = reader.dataList ++ t.sentRecords m.dataList
  version : u.version = t.version
  sourceid : u.sourceid = t.sourceid
  buffer : u.buffer = sent.buffer

/-- The bytes of an output are those of its content, which a reader understands. -/
structure Sent (m : MnslpIpfixMessage) (t : IpfixT) (now : Nat) (sent : IpfixT) : Prop where
  content : sent.templates.copy = t.templates.copy
  counts : t.Counts sent (t.sentRecords m.dataList).length
  sourceid : sent.sourceid = t.sourceid
  exporttime : sent.exporttime = UInt32.ofNat now
  length : sent.length = UInt16.ofNat sent.offset
  bufferLenght : sent.bufferLenght = ipfixDefaultBuflen
  buffer : sent.buffer = (t.content now sent.nrecords m.dataList).bytes (headerOrder m.encodeNetwork)
  regular : (t.content now sent.nrecords m.dataList).Regular
  inside : sent.offset ≤ ipfixDefaultBuflen

theorem sent_of_output (settled : m.Settled t) (required : m.requireOutput = true)
    (portable : t.Portable m.encodeNetwork m.dataList) (fits : t.OutputFits m.dataList) (now : Nat) : ∃ sent,
      m.output now = .ok {m with message := .live sent, requireOutput := false} ∧ m.Sent t now sent := by
  have empty : t.reinitiateBuffer.Idle := ⟨settled.idle.csTid,settled.idle.csHeader⟩
  have holds : t.reinitiateBuffer.Holds t.outputOrder :=
    ⟨(holds_outputOrder settled.keyed).found,(holds_outputOrder settled.keyed).distinct⟩
  obtain ⟨sets,rounds,grows,room⟩ := outputSets_grows m.encodeNetwork now t.outputOrder empty holds fits
  have counts := outputSets_counts (show t.reinitiateBuffer.version = _ from portable.version) empty holds rounds
  have header : hdrBytes t.reinitiateBuffer.version = 16 := by
    change hdrBytes t.version = 16
    rw [portable.version]
    rfl
  have buffer : sets.buffer = t.allSets (headerOrder m.encodeNetwork) m.dataList := by
    rw [grows.buffer]
    exact congrArg (· ++ _) (List.append_nil _)
  have hdrLength : (sets.hdr m.encodeNetwork now m.gTstart).length = 16 := by
    rw [length_hdr,counts.version]
    rfl
  have limit : t.reinitiateBuffer.bufferLenght = 1400 := rfl
  have inside : 16 + sets.offset ≤ 1400 := by
    rw [← header,← limit]
    exact room
  have wrote : writeHdr m.encodeNetwork now m.gTstart sets = .ok {sets with
      buffer := sets.hdr m.encodeNetwork now m.gTstart ++ sets.buffer
      length := UInt16.ofNat (sets.offset + 16)
      exporttime := UInt32.ofNat now } := by
    have space : sets.checkSpace 16 = .ok () :=
      (IpfixT.checkSpace_eq_ok 16).mpr (.inl (by rw [grows.bufferLenght,limit]; exact inside))
    have fits : (sets.hdr m.encodeNetwork now m.gTstart).length + sets.offset ≤ sets.bufferLenght := by
      rw [hdrLength,grows.bufferLenght,limit]
      exact inside
    have other : ¬ sets.version = ipfixVersionNf9 := by
      rw [counts.version]
      decide
    unfold writeHdr
    unfold IpfixT.hdr at fits ⊢
    simp only [other,if_false] at fits ⊢
    rw [space,ok_bind,IpfixT.prepend_eq_ok.mpr ⟨fits,rfl⟩]
    rfl
  have written : sets.offset = (t.allSets (headerOrder m.encodeNetwork) m.dataList).length := congrArg List.length buffer
  rw [IpfixT.length_allSets_of_fits fits] at written
  have offset : (sets.hdr m.encodeNetwork now m.gTstart ++ sets.buffer).length = sets.offset + 16 := by
    rw [List.length_append,hdrLength,Nat.add_comm]
    rfl
  rw [output_eq settled.live settled.keyed required,rounds,ok_bind,wrote]
  refine ⟨_,rfl,⟨grows.content,⟨counts.version,counts.nrecords,counts.seqno⟩,grows.sourceid,rfl,?_,grows.bufferLenght,?_,
    portable.regular settled.keyed fits fun order => ?_,?_⟩⟩
  · exact congrArg UInt16.ofNat offset.symm
  · exact (bytes_content portable settled.keyed fits grows.version grows.sourceid buffer now).symm
  · rw [IpfixT.length_allSets_of_fits fits]
    omega
  · change (sets.hdr m.encodeNetwork now m.gTstart ++ sets.buffer).length ≤ 1400
    omega

theorem Sent.read {sent : IpfixT} {now : Nat} (made : m.Sent t now sent) (keyed : t.templates.Keyed)
    (portable : t.Portable m.encodeNetwork m.dataList) {reader : MnslpIpfixMessage} {input : ImportInput} {padding : Bytes}
    (mode : reader.encodeNetwork = m.encodeNetwork) (few : padding.length ≤ 4) (same : input.buffer = sent.buffer ++ padding) :
    ∃ next u, mnslpIpfixImport input reader = some (.ok (next,sent.offset)) ∧ m.ReadBy t sent reader next u ∧
      (t.content now sent.nrecords m.dataList).ReadInto reader (t.sentRecords m.dataList) next u := by
  have written := made.buffer
  have inside := made.inside
  have offset : sent.offset = ((t.content now sent.nrecords m.dataList).bytes (headerOrder m.encodeNetwork)).length :=
    congrArg List.length written
  have buflen : ipfixDefaultBuflen = 1400 := rfl
  have short : input.messageLength < 2^16 := by
    unfold ImportInput.messageLength
    rw [same,List.length_append]
    change sent.offset + _ < _
    omega
  have said : (t.content now sent.nrecords m.dataList).meaning reader.encodeNetwork = .ok (t.sentRecords m.dataList) := by
    rw [mode]
    exact portable.meaning keyed
  rw [written,← mode] at same
  have imported := IpfixContent.imported_of_meaning short same made.regular few said
  rw [mode,← offset,if_pos inside] at imported
  obtain ⟨next,u,ended,into⟩ := imported
  refine ⟨next,u,ended,⟨into.live,?_,into.dataList,into.version.trans portable.version.symm,into.sourceid,?_⟩,into⟩
  · refine OrderedMap.ext_find (fun _ _ same => TemplateContainer.eq_of_rank same) fun id => ?_
    rw [into.templates,mode]
    exact portable.found keyed id
  · rw [into.buffer,mode,written]

/-- The first bytes of a packet, as many as there is room to print. -/
theorem portable_sectionState {v : Bytes} (some : v ≠ []) (short : v.length ≤ 13) : sectionState.Portable true [sectionRecord v] := by
  have long := List.length_pos_of_ne_nil some
  have copied : (({} : IpfixValueField).setValueVunit8 v).copy = ({} : IpfixValueField).setValueVunit8 v := if_pos long
  have order : sectionState.outputOrder = [sectionTemplate] := rfl
  refine ⟨rfl,fun i templ placed => ?_,fun templ member => ?_,fun record member => ?_⟩
  · rw [order] at placed
    rcases i with _ | i
    · cases placed
      rfl
    · cases placed
  · rw [order] at member
    cases List.mem_singleton.mp member
    refine ⟨fun field inside => ?_,.inl rfl,rfl,by decide,fun _ => rfl,rfl⟩
    cases List.mem_singleton.mp inside
    exact ⟨rfl,rfl,by decide⟩
  · cases List.mem_singleton.mp member
    refine ⟨sectionTemplate,rfl,rfl,.refl _,fun field inside => ?_⟩
    cases List.mem_singleton.mp inside
    have value : (sectionRecord v).value ⟨ipfixFtVarlen,.known,true,⟨0,313,65535,.bytes⟩⟩ = ({} : IpfixValueField).setValueVunit8 v := copied
    rw [value]
    have taken : IpfixFieldType.acceptsBytes ⟨0,313,65535,.bytes⟩ v.length = true := decide_eq_true (Or.inr rfl)
    have made : IpfixFieldType.getIpfixValueFieldBytes ⟨0,313,65535,.bytes⟩ v = .ok (({} : IpfixValueField).setValueVunit8 v) :=
      if_pos taken
    refine ⟨⟨.vunit8 v,made,some⟩,.inl rfl,?_⟩
    change decide (2 + 2 * min v.length 14 + 1 ≤ 30) = true
    exact decide_eq_true (by omega)

theorem outputFits_sectionState : sectionState.OutputFits [sectionRecord [1,2,3]] := by
  obtain ⟨_,live,fits⟩ := (fits_sectionMessage [1,2,3]).mpr (by decide) rfl
  cases live
  exact fits

end MnslpIpfixMessage
end Mnslp.Msg
