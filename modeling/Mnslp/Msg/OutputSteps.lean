import Mnslp.Msg.TemplateFields

/-! What the steps of an output put into the buffer and when they return: a template in front
of all that was written, the header of the message before it, a record behind. -/
namespace Mnslp.Msg
open Mnslp.Lib Call

theorem length_fieldSpecifier (order : ByteOrder) (field : IpfixTemplateField) :
    (fieldSpecifier order field).length = fieldSpecifierSize field := by
  unfold fieldSpecifier fieldSpecifierSize
  split <;> simp

namespace IpfixTemplate

/-- A template whose fields `get_field` hands out. -/
def OneKind (templ : IpfixTemplate) : Prop := templ.scopefields = [] ∨ templ.datafields = []

def allFields (templ : IpfixTemplate) : List IpfixTemplateField := templ.scopefields ++ templ.datafields

theorem fields_eq_ok {templ : IpfixTemplate} {fields : List IpfixTemplateField} :
    templ.fields = .ok fields ↔ templ.OneKind ∧ fields = templ.allFields := by
  constructor
  · intro read
    have one := oneKind_of_fields read
    rw [templ.fields_of_oneKind one] at read
    cases read
    exact ⟨one,rfl⟩
  · rintro ⟨one,rfl⟩
    exact templ.fields_of_oneKind one

/-- The bytes of the fields of one kind in a template. -/
def specifierBytes (fields : List IpfixTemplateField) : Nat := (fields.map fieldSpecifierSize).sum

/-- The set with which a message describes the template. -/
def templateSet (order : ByteOrder) (version : UInt16) (templ : IpfixTemplate) : Bytes :=
  templateHeader order version templ (specifierBytes templ.scopefields) (specifierBytes templ.datafields) ++
    templ.allFields.flatMap (fieldSpecifier order)

def headerBytes (templ : IpfixTemplate) : Nat :=
  match templ.type with
  | .optionTemplate => 10
  | .dataTemplate => 8

def setBytes (templ : IpfixTemplate) : Nat := templ.headerBytes + specifierBytes templ.allFields

theorem specifierBytes_allFields (templ : IpfixTemplate) : specifierBytes templ.allFields =
    specifierBytes templ.scopefields + specifierBytes templ.datafields := by
  unfold specifierBytes allFields
  rw [List.map_append,List.sum_append]

theorem length_templateHeader (order : ByteOrder) (version : UInt16) (templ : IpfixTemplate) (ssize osize : Nat) :
    (templateHeader order version templ ssize osize).length = templ.headerBytes := by
  unfold templateHeader headerBytes
  by_cases nf9 : version = ipfixVersionNf9 <;> cases templ.type <;> simp [nf9]

theorem length_templateSet (order : ByteOrder) (version : UInt16) (templ : IpfixTemplate) :
    (templ.templateSet order version).length = templ.setBytes := by
  have each : (fun field => (fieldSpecifier order field).length) = fieldSpecifierSize :=
    funext (length_fieldSpecifier order)
  rw [templateSet,List.length_append,length_templateHeader,List.length_flatMap,each]
  rfl

end IpfixTemplate

namespace IpfixT
variable {t t' : IpfixT}

/-- No data set is open. -/
structure Idle (t : IpfixT) : Prop where
  csTid : t.csTid = 0
  csHeader : t.csHeader = none

/-- A step that writes bytes in front of the buffer and behind it. -/
structure Grows (t t' : IpfixT) (front behind : Bytes) : Prop extends t'.Idle where
  buffer : t'.buffer = front ++ t.buffer ++ behind
  bufferLenght : t'.bufferLenght = t.bufferLenght
  version : t'.version = t.version
  sourceid : t'.sourceid = t.sourceid
  content : t'.templates.copy = t.templates.copy

theorem Grows.refl (idle : t.Idle) : t.Grows t [] [] where
  toIdle := idle
  buffer := by simp
  bufferLenght := rfl
  version := rfl
  sourceid := rfl
  content := rfl

theorem Grows.trans {t'' : IpfixT} {front behind front' behind' : Bytes} (first : t.Grows t' front behind)
    (second : t'.Grows t'' front' behind') : t.Grows t'' (front' ++ front) (behind ++ behind') where
  toIdle := second.toIdle
  buffer := by rw [second.buffer,first.buffer]; simp
  bufferLenght := second.bufferLenght.trans first.bufferLenght
  version := second.version.trans first.version
  sourceid := second.sourceid.trans first.sourceid
  content := second.content.trans first.content

theorem Grows.offset {front behind : Bytes} (grows : t.Grows t' front behind) :
    t'.offset = front.length + t.offset + behind.length := by
  rw [IpfixT.offset,grows.buffer,List.length_append,List.length_append]
  rfl

/-- The buffer never grows. A request up to twice what is left is let through, though. -/
theorem checkSpace_eq_ok (size : Nat) : t.checkSpace size = .ok () ↔
    size + t.offset ≤ t.bufferLenght ∨ size + 2 * t.offset ≤ 2 * t.bufferLenght := by
  unfold checkSpace allocateAdditionalMemory
  by_cases more : size + t.offset > t.bufferLenght
  · rw [if_pos more]
    by_cases grow : t.offset + (size + t.offset - t.bufferLenght) > t.bufferLenght
    · rw [if_pos grow]
      exact iff_of_false (fun same => nomatch same) (by omega)
    · rw [if_neg grow]
      exact iff_of_true rfl (by omega)
  · rw [if_neg more]
    exact iff_of_true rfl (by omega)

theorem prepend_eq_ok {bytes : Bytes} : t.prepend bytes = .ok t' ↔
    bytes.length + t.offset ≤ t.bufferLenght ∧ t' = {t with buffer := bytes ++ t.buffer} := by
  unfold prepend
  by_cases beyond : bytes.length + t.offset > t.bufferLenght
  · rw [if_pos beyond]
    exact iff_of_false (fun same => nomatch same) (by omega)
  · rw [if_neg beyond,Except.ok.injEq,eq_comm,and_iff_right (by omega)]

theorem append_eq_ok {bytes : Bytes} : t.append bytes = .ok t' ↔
    t.offset + bytes.length ≤ t.bufferLenght ∧ t' = {t with buffer := t.buffer ++ bytes} := by
  unfold append
  by_cases beyond : t.offset + bytes.length > t.bufferLenght
  · rw [if_pos beyond]
    exact iff_of_false (fun same => nomatch same) (by omega)
  · rw [if_neg beyond,Except.ok.injEq,eq_comm,and_iff_right (by omega)]

end IpfixT

section
variable {encodeNetwork : Bool} {now : Nat} {t t' : IpfixT} {templid : UInt16} {templ : IpfixTemplate}

theorem TemplateContainer.copy_updateTemplate {templates : TemplateContainer} (found : templates.find templid = some templ)
    {f : IpfixTemplate → IpfixTemplate} (same : (f templ).copy = templ.copy) :
    (templates.updateTemplate templid f).copy = templates.copy := by
  unfold updateTemplate
  rw [found]
  exact OrderedMap.mapValues_set IpfixTemplate.copy templates found same

namespace TemplateContainer
variable {templates : TemplateContainer}

/-- Every template stands under its own id. -/
def Keyed (templates : TemplateContainer) : Prop := ∀ id templ, templates.find id = some templ → templ.tid = id

theorem Keyed.find (keyed : templates.Keyed) (member : templ ∈ templates.values) :
    templates.find templ.tid = some templ := by
  obtain ⟨entry,inside,rfl⟩ := List.mem_map.mp member
  have found := templates.find_of_mem _ _ inside
  rw [keyed _ _ found]
  exact found

theorem Keyed.keys (keyed : templates.Keyed) : templates.keys = templates.values.map IpfixTemplate.tid := by
  unfold OrderedMap.keys OrderedMap.values
  rw [List.map_map]
  exact List.map_congr_left fun entry member => (keyed _ _ (templates.find_of_mem _ _ member)).symm

theorem Keyed.filter_keys (keyed : templates.Keyed) (p : IpfixTemplate → Bool) (q : UInt16 → Bool)
    (same : ∀ templid templ, templates.find templid = some templ → q templid = p templ) :
    templates.keys.filter q = (templates.values.filter p).map IpfixTemplate.tid := by
  rw [keyed.keys,List.filter_map]
  refine congrArg _ (List.filter_congr fun templ member => ?_)
  exact same _ _ (keyed.find member)

theorem keyed_empty : Keyed .empty := by
  intro id templ found
  cases found

theorem Keyed.addTemplate (keyed : templates.Keyed) (templ : IpfixTemplate) : (templates.addTemplate templ).Keyed := by
  intro id other found
  unfold TemplateContainer.addTemplate at found
  cases present : templates.find templ.tid with
  | some old =>
    rw [templates.insert_of_present _ old _ present] at found
    exact keyed id other found
  | none =>
    by_cases same : id = templ.tid
    · rw [same,templates.find_insert_self_of_absent _ _ _ present rfl] at found
      cases found
      exact same.symm
    · rw [templates.find_insert_other _ _ _ (rank_ne same)] at found
      exact keyed id other found

theorem Keyed.updateTemplate (keyed : templates.Keyed) {f : IpfixTemplate → IpfixTemplate}
    (named : ∀ templ, (f templ).tid = templ.tid) (templid : UInt16) : (templates.updateTemplate templid f).Keyed := by
  intro id other found
  by_cases same : id = templid
  · cases present : templates.find templid with
    | none =>
      unfold TemplateContainer.updateTemplate at found
      rw [present] at found
      exact keyed id other found
    | some templ =>
      rw [same,find_updateTemplate_self present] at found
      cases found
      rw [named,keyed _ _ present,same]
  · rw [find_updateTemplate_other _ same] at found
    exact keyed id other found

theorem Keyed.erase (keyed : templates.Keyed) (templid : UInt16) : Keyed (OrderedMap.erase templates templid) :=
  fun id other found => keyed id other (templates.find_of_find_erase found)

theorem keyed_copy : templates.copy.Keyed ↔ templates.Keyed := by
  unfold Keyed TemplateContainer.copy
  simp only [OrderedMap.find_mapValues,Option.map_eq_some_iff]
  constructor
  · intro keyed id templ found
    exact keyed id templ.copy ⟨templ,found,rfl⟩
  · rintro keyed id _ ⟨templ,found,rfl⟩
    exact keyed id templ found

end TemplateContainer

theorem writeTemplate_eq_ok (encodeNetwork : Bool) (now : Nat) (found : t.templates.find templid = some templ) :
    writeTemplate encodeNetwork now t templid = .ok t' ↔
      templ.OneKind ∧ templ.setBytes + t.offset ≤ t.bufferLenght ∧ t' = {t with
        buffer := templ.templateSet (headerOrder encodeNetwork) t.version ++ t.buffer
        csHeader := if t.offset > 0 ∧ t.csTid ≠ 0 then t.csHeader.map (· + templ.setBytes) else t.csHeader
        csOffset := if t.offset > 0 then t.csOffset + templ.setBytes else t.csOffset
        templates := t.templates.updateTemplate templid (fun templ => {templ with tsend := now})
        nrecords := if t.version = ipfixVersionNf9 then t.nrecords + 1 else t.nrecords} := by
  have bytes : templateHeader (headerOrder encodeNetwork) t.version templ
      (((templ.allFields.take templ.getNumberScopefields).map fieldSpecifierSize).sum)
      (((templ.allFields.drop templ.getNumberScopefields).map fieldSpecifierSize).sum) ++
        templ.allFields.flatMap (fieldSpecifier (headerOrder encodeNetwork)) =
      templ.templateSet (headerOrder encodeNetwork) t.version := by
    rw [IpfixTemplate.getNumberScopefields,IpfixTemplate.allFields,List.take_left,List.drop_left]
    rfl
  unfold writeTemplate
  rw [TemplateContainer.getTemplate_of_find found,ok_bind]
  constructor
  · intro ended
    obtain ⟨fields,read,ended⟩ := bind_eq_ok.mp ended
    obtain ⟨one,rfl⟩ := IpfixTemplate.fields_eq_ok.mp read
    dsimp only at ended
    rw [bytes,IpfixTemplate.length_templateSet] at ended
    obtain ⟨_,_,ended⟩ := bind_eq_ok.mp ended
    obtain ⟨written,wrote,ended⟩ := bind_eq_ok.mp ended
    obtain ⟨room,rfl⟩ := IpfixT.prepend_eq_ok.mp wrote
    rw [IpfixTemplate.length_templateSet] at room
    cases ended
    exact ⟨one,room,rfl⟩
  · rintro ⟨one,room,rfl⟩
    rw [IpfixTemplate.fields_eq_ok.mpr ⟨one,rfl⟩,ok_bind]
    dsimp only
    rw [bytes,IpfixTemplate.length_templateSet,(IpfixT.checkSpace_eq_ok _).mpr (.inl room),ok_bind,
      IpfixT.prepend_eq_ok.mpr ⟨by rw [IpfixTemplate.length_templateSet]; exact room,rfl⟩]
    rfl

/-- The template stands in front of all that was written before, and only its time of sending is set. -/
theorem writeTemplate_grows (idle : t.Idle) (found : t.templates.find templid = some templ)
    (ended : writeTemplate encodeNetwork now t templid = .ok t') :
    t.Grows t' (templ.templateSet (headerOrder encodeNetwork) t.version) [] ∧
      ∀ other, other ≠ templid → t'.templates.find other = t.templates.find other := by
  obtain ⟨_,_,rfl⟩ := (writeTemplate_eq_ok _ _ found).mp ended
  refine ⟨⟨⟨idle.csTid,?_⟩,?_,rfl,rfl,rfl,?_⟩,fun other differs => ?_⟩
  · dsimp only
    rw [if_neg (fun both => both.2 idle.csTid),idle.csHeader]
  · rw [List.append_nil]
  · exact TemplateContainer.copy_updateTemplate found rfl
  · exact TemplateContainer.find_updateTemplate_other _ differs _

end

/-- The value has the bytes that its length announces, as far as the coding of the field copies them. -/
def IpfixFieldType.Encodes (field : IpfixFieldType) (value : IpfixValueField) : Prop :=
  match field.coding with
  | .int | .uint | .ntp | .float => True
  | .ipaddr | .string | .bytes | .none =>
    value.length = 0 ∨ ∃ bytes, value.valuebyte = some bytes ∧ value.length ≤ bytes.length

theorem IpfixFieldType.length_of_encode {field : IpfixFieldType} {value : IpfixValueField} {relay : Bool} {bytes : Bytes}
    (encoded : field.encode value relay = .ok bytes) : bytes.length = value.length := by
  have copied {bytes : Bytes} (encoded : ipfixEncodeBytes value = .ok bytes) : bytes.length = value.length := by
    unfold ipfixEncodeBytes at encoded
    split at encoded
    · split at encoded
      · cases encoded
      · cases encoded
        rw [List.length_take]
        omega
    · split at encoded
      · rename_i none
        cases encoded
        exact none.symm
      · cases encoded
  have number : (ipfixEncodeInt value relay).length = value.length := by
    unfold ipfixEncodeInt
    split <;> simp_all
  have float : (ipfixEncodeFloat value relay).length = value.length := by
    unfold ipfixEncodeFloat
    split <;> simp_all
  unfold encode at encoded
  cases coding : field.coding with
  | int | uint | ntp =>
    simp only [coding] at encoded
    cases encoded
    exact number
  | float =>
    simp only [coding] at encoded
    cases encoded
    exact float
  | ipaddr | string | bytes | none =>
    simp only [coding] at encoded
    exact copied encoded

theorem IpfixFieldType.encode_returns (field : IpfixFieldType) (value : IpfixValueField) (relay : Bool) :
    (∃ bytes, field.encode value relay = .ok bytes) ↔ field.Encodes value := by
  have copied : (∃ bytes, ipfixEncodeBytes value = .ok bytes) ↔
      (value.length = 0 ∨ ∃ bytes, value.valuebyte = some bytes ∧ value.length ≤ bytes.length) := by
    unfold ipfixEncodeBytes
    cases value.valuebyte with
    | none =>
      by_cases empty : value.length = 0
      · simp [empty]
      · simp [empty,Call.fault]
    | some bytes =>
      by_cases short : bytes.length < value.length
      · simp only [short,if_true]
        refine iff_of_false ?_ ?_
        · rintro ⟨_,⟨⟩⟩
        · rintro (empty | ⟨other,same,enough⟩)
          · omega
          · cases same
            omega
      · simp only [short,if_false]
        exact iff_of_true ⟨_,rfl⟩ (.inr ⟨bytes,rfl,Nat.le_of_not_lt short⟩)
  unfold encode Encodes
  cases field.coding with
  | int | uint | ntp | float => exact iff_of_true ⟨_,rfl⟩ trivial
  | ipaddr | string | bytes | none => exact copied

namespace IpfixDataRecord
variable {order : ByteOrder} {record : IpfixDataRecord} {field : IpfixTemplateField}

/-- The record has a value for the field that can be written in its place. -/
def Fills (record : IpfixDataRecord) (field : IpfixTemplateField) : Prop :=
  ∃ value, record.getField field.elem.getFieldKey = .ok value ∧ field.elem.Encodes value ∧ value.length < 2^16 ∧
    (field.flength = ipfixFtVarlen ∨ value.length ≤ field.flength.toNat)

/-- The bytes that the value of the field takes. -/
def span (record : IpfixDataRecord) (field : IpfixTemplateField) : Nat :=
  match record.getField field.elem.getFieldKey with
  | .ok value =>
    if field.flength = ipfixFtVarlen then (if value.length > 254 then 3 else 1) + value.length else value.length
  | .error _ => 0

/-- What stands for the field in a data set. -/
def fieldBytes (order : ByteOrder) (record : IpfixDataRecord) (field : IpfixTemplateField) : Bytes :=
  match valueBytes order record field with
  | .ok bytes => bytes
  | .error _ => []

theorem getLength_of_getField {key : IpfixFieldKey} {value : IpfixValueField} (found : record.getField key = .ok value) :
    record.getLength key = .ok (UInt16.ofNat value.length) := by
  rw [getLength,found]
  rfl

theorem length_varlenPrefix (order : ByteOrder) (length : UInt16) :
    (varlenPrefix order length).length = if length > 254 then 3 else 1 := by
  unfold varlenPrefix
  split <;> simp

theorem toNat_length {length : Nat} (small : length < 2^16) : (UInt16.ofNat length).toNat = length :=
  UInt16.toNat_ofNat_of_lt' small

theorem longer_iff {length : Nat} (small : length < 2^16) (most : UInt16) :
    UInt16.ofNat length > most ↔ length > most.toNat := by
  rw [gt_iff_lt,UInt16.lt_iff_toNat_lt,toNat_length small]

theorem valueSize_of_fills (fills : record.Fills field) : valueSize record field = .ok (record.span field) := by
  obtain ⟨value,found,_,small,fits⟩ := fills
  unfold valueSize span
  rw [getLength_of_getField found,ok_bind,found]
  dsimp only
  by_cases variable' : field.flength = ipfixFtVarlen
  · simp only [variable',if_true,pure_eq,toNat_length small,longer_iff small,UInt16.reduceToNat]
  · have short : ¬ value.length > field.flength.toNat := Nat.not_lt_of_le (fits.resolve_left variable')
    simp only [variable',if_false,pure_eq,toNat_length small,longer_iff small,short]

theorem valueBytes_of_fills (order : ByteOrder) (fills : record.Fills field) :
    valueBytes order record field = .ok (record.fieldBytes order field) ∧
      (record.fieldBytes order field).length = record.span field := by
  have size := valueSize_of_fills fills
  obtain ⟨value,found,encodes,small,_⟩ := fills
  obtain ⟨bytes,encoded⟩ := (field.elem.encode_returns value field.relayF).mpr encodes
  have length := IpfixFieldType.length_of_encode encoded
  have whole : ¬ bytes.length ≠ (UInt16.ofNat value.length).toNat := by
    rw [length,toNat_length small]
    exact not_not_intro rfl
  have written : valueBytes order record field = .ok (if field.flength = ipfixFtVarlen then
      varlenPrefix order (UInt16.ofNat value.length) ++ bytes else bytes) := by
    unfold valueBytes
    rw [getLength_of_getField found,ok_bind,found,ok_bind,encoded,ok_bind,if_neg whole]
    rfl
  unfold fieldBytes span
  rw [written,found]
  refine ⟨rfl,?_⟩
  dsimp only
  split
  · rw [List.length_append,length_varlenPrefix,length]
    simp only [longer_iff small,UInt16.reduceToNat]
  · exact length

theorem fills_of_written {size : Nat} {bytes : Bytes} (sized : valueSize record field = .ok size)
    (written : valueBytes order record field = .ok bytes) : record.Fills field := by
  unfold valueBytes at written
  obtain ⟨length,measured,written⟩ := bind_eq_ok.mp written
  obtain ⟨value,found,written⟩ := bind_eq_ok.mp written
  obtain ⟨encoded,encoding,written⟩ := bind_eq_ok.mp written
  rw [getLength_of_getField found] at measured
  cases measured
  have whole : encoded.length = (UInt16.ofNat value.length).toNat := by
    by_contra differs
    rw [if_pos differs] at written
    cases written
  rw [IpfixFieldType.length_of_encode encoding] at whole
  have small : value.length < 2^16 := by
    rw [whole]
    exact UInt16.toNat_lt _
  refine ⟨value,found,(field.elem.encode_returns value field.relayF).mp ⟨encoded,encoding⟩,small,?_⟩
  unfold valueSize at sized
  rw [getLength_of_getField found,ok_bind] at sized
  by_cases variable' : field.flength = ipfixFtVarlen
  · exact .inl variable'
  · rw [if_neg variable'] at sized
    right
    by_contra tooLong
    rw [if_pos ((longer_iff small _).mpr (Nat.lt_of_not_le tooLong))] at sized
    cases sized

/-- All fields of the template can be written from the record. -/
def Writable (templ : IpfixTemplate) (record : IpfixDataRecord) : Prop := ∀ field ∈ templ.allFields, record.Fills field

def valuesSpan (templ : IpfixTemplate) (record : IpfixDataRecord) : Nat := (templ.allFields.map record.span).sum

def valuesBytes (order : ByteOrder) (templ : IpfixTemplate) (record : IpfixDataRecord) : Bytes :=
  templ.allFields.flatMap (record.fieldBytes order)

def setHeader (order : ByteOrder) (templ : IpfixTemplate) (record : IpfixDataRecord) : Bytes :=
  Bytes.encode order 2 templ.tid.toNat ++ Bytes.encode order 2 (4 + valuesSpan templ record)

/-- The data set of one record. -/
def dataSet (order : ByteOrder) (templ : IpfixTemplate) (record : IpfixDataRecord) : Bytes :=
  setHeader order templ record ++ valuesBytes order templ record

/-- The data set as it is written: the template 0 is taken for the one whose set is open, so its
sets get no header. -/
def writtenSet (order : ByteOrder) (templ : IpfixTemplate) (record : IpfixDataRecord) : Bytes :=
  if templ.tid = 0 then valuesBytes order templ record else dataSet order templ record

variable {templ : IpfixTemplate}

theorem length_valuesBytes (order : ByteOrder) (writable : Writable templ record) :
    (valuesBytes order templ record).length = valuesSpan templ record := by
  have each : templ.allFields.map (fun field => (record.fieldBytes order field).length) = templ.allFields.map record.span :=
    List.map_congr_left fun field member => (valueBytes_of_fills order (writable field member)).2
  rw [valuesBytes,List.length_flatMap,each]
  rfl

theorem sizes_of_writable (writable : Writable templ record) :
    templ.allFields.mapM (valueSize record) = .ok (templ.allFields.map record.span) :=
  mapM_of_forall fun field member => valueSize_of_fills (writable field member)

theorem bytes_of_writable (order : ByteOrder) (writable : Writable templ record) :
    templ.allFields.mapM (valueBytes order record) = .ok (templ.allFields.map (record.fieldBytes order)) :=
  mapM_of_forall fun field member => (valueBytes_of_fills order (writable field member)).1

theorem writable_of_written {sizes : List Nat} {values : List Bytes} (sized : templ.allFields.mapM (valueSize record) = .ok sizes)
    (written : templ.allFields.mapM (valueBytes order record) = .ok values) : Writable templ record := by
  intro field member
  obtain ⟨size,_,measured⟩ := partner_of_mem (mapM_eq_ok.mp sized) member
  obtain ⟨bytes,_,copied⟩ := partner_of_mem (mapM_eq_ok.mp written) member
  exact fills_of_written measured copied

end IpfixDataRecord

section
variable {encodeNetwork : Bool} {t t' : IpfixT} {templ : IpfixTemplate} {record : IpfixDataRecord} {seen : Nat}

/-- The bytes of the header that `output_set` puts before each record. -/
def IpfixTemplate.headBytes (templ : IpfixTemplate) : Nat := if templ.tid = 0 then 0 else 4

theorem length_writtenSet (order : ByteOrder) (writable : IpfixDataRecord.Writable templ record) :
    (IpfixDataRecord.writtenSet order templ record).length =
      templ.headBytes + IpfixDataRecord.valuesSpan templ record := by
  unfold IpfixDataRecord.writtenSet IpfixTemplate.headBytes
  split
  · rw [IpfixDataRecord.length_valuesBytes order writable,Nat.zero_add]
  · simp only [IpfixDataRecord.dataSet,IpfixDataRecord.setHeader,List.length_append,Bytes.length_encode,
      IpfixDataRecord.length_valuesBytes order writable]

/-- There is room for the record behind what was written. The length asked for counts the records
that the set already has. -/
def IpfixT.HasRoom (t : IpfixT) (head seen span : Nat) : Prop :=
  t.offset + head + span ≤ t.bufferLenght ∧ seen + span + 2 * t.offset ≤ 2 * t.bufferLenght

/-- The bytes of the record before its set is closed. -/
def openedSet (order : ByteOrder) (seen : Nat) (templ : IpfixTemplate) (record : IpfixDataRecord) : Bytes :=
  (if templ.tid.toNat ≠ 0 then
    Bytes.encode order 2 templ.tid.toNat ++ Bytes.encode order 2 (seen + IpfixDataRecord.valuesSpan templ record)
  else []) ++ IpfixDataRecord.valuesBytes order templ record

theorem length_openedSet (order : ByteOrder) (seen : Nat) (writable : IpfixDataRecord.Writable templ record) :
    (openedSet order seen templ record).length = templ.headBytes + IpfixDataRecord.valuesSpan templ record := by
  have zero : templ.tid = 0 ↔ templ.tid.toNat = 0 := UInt16.toNat_inj.symm
  unfold openedSet IpfixTemplate.headBytes
  rw [List.length_append,IpfixDataRecord.length_valuesBytes order writable]
  by_cases none : templ.tid.toNat = 0
  · rw [if_neg (not_not_intro none),if_pos (zero.mpr none)]
    rfl
  · rw [if_pos none,if_neg (fun same => none (zero.mp same)),List.length_append,Bytes.length_encode,Bytes.length_encode]

theorem outputRecord_other (differs : record.templateId ≠ templ.tid) (newset : Bool) (state : IpfixT × Nat) :
    outputRecord encodeNetwork newset templ state record = .ok state := by
  unfold outputRecord
  exact if_pos differs

theorem drop_openedSet (order : ByteOrder) (some : templ.tid.toNat ≠ 0) (record : IpfixDataRecord) :
    (openedSet order seen templ record).drop 4 = IpfixDataRecord.valuesBytes order templ record := by
  unfold openedSet
  rw [if_pos some]
  exact List.drop_left' (by rw [List.length_append,Bytes.length_encode,Bytes.length_encode])

/-- Closing the set puts its own length into the header. -/
theorem finishCs_openedSet (order : ByteOrder) (some : templ.tid.toNat ≠ 0) (writable : IpfixDataRecord.Writable templ record)
    {opened : IpfixT} (buffer : opened.buffer = t.buffer ++ openedSet order seen templ record)
    (csTid : opened.csTid = templ.tid.toNat) (csHeader : opened.csHeader = .some t.offset)
    (csBytes : opened.csBytes = (openedSet order seen templ record).length) : opened.finishCs order = {opened with
      buffer := t.buffer ++ IpfixDataRecord.dataSet order templ record
      csTid := 0, csBytes := 0, csOffset := 0, csHeader := none} := by
  have head : templ.headBytes = 4 := if_neg fun same => some (congrArg UInt16.toNat same)
  have behind : (t.buffer ++ openedSet order seen templ record).drop (t.offset + 4) =
      IpfixDataRecord.valuesBytes order templ record := by
    rw [IpfixT.offset,List.drop_append,List.drop_of_length_le (by omega),Nat.add_sub_cancel_left,drop_openedSet order some]
    rfl
  have before : (t.buffer ++ openedSet order seen templ record).take t.offset = t.buffer := List.take_left
  unfold IpfixT.finishCs
  rw [csHeader]
  dsimp only
  rw [buffer,csTid,csBytes,before,behind,length_openedSet order seen writable,head]
  simp only [IpfixDataRecord.dataSet,IpfixDataRecord.setHeader,List.append_assoc]

theorem outputRecord_grows (encodeNetwork : Bool) (idle : t.Idle) (mine : record.templateId = templ.tid) (one : templ.OneKind)
    (writable : IpfixDataRecord.Writable templ record)
    (room : t.HasRoom templ.headBytes seen (IpfixDataRecord.valuesSpan templ record)) :
    ∃ t', outputRecord encodeNetwork (decide (templ.tid.toNat ≠ 0)) templ (t,seen) record =
        .ok (t',seen + IpfixDataRecord.valuesSpan templ record) ∧
      t.Grows t' [] (IpfixDataRecord.writtenSet (headerOrder encodeNetwork) templ record) ∧
      t'.templates = t.templates := by
  have length := length_openedSet (headerOrder encodeNetwork) seen writable
  have space : t.checkSpace (seen + IpfixDataRecord.valuesSpan templ record) = .ok () :=
    (IpfixT.checkSpace_eq_ok _).mpr (.inr room.2)
  have appended : t.append (openedSet (headerOrder encodeNetwork) seen templ record) =
      .ok {t with buffer := t.buffer ++ openedSet (headerOrder encodeNetwork) seen templ record} :=
    IpfixT.append_eq_ok.mpr ⟨by rw [length,← Nat.add_assoc]; exact room.1,rfl⟩
  unfold outputRecord
  rw [if_neg (not_not_intro mine)]
  dsimp only
  rw [IpfixTemplate.fields_eq_ok.mpr ⟨one,rfl⟩,ok_bind,IpfixDataRecord.sizes_of_writable writable,ok_bind]
  have sum : (templ.allFields.map record.span).sum = IpfixDataRecord.valuesSpan templ record := rfl
  have bytes : (if templ.tid.toNat ≠ 0 then Bytes.encode (headerOrder encodeNetwork) 2 templ.tid.toNat ++
        Bytes.encode (headerOrder encodeNetwork) 2 (seen + IpfixDataRecord.valuesSpan templ record) else []) ++
      (templ.allFields.map (record.fieldBytes (headerOrder encodeNetwork))).flatten =
        openedSet (headerOrder encodeNetwork) seen templ record := rfl
  simp only [decide_eq_true_eq,sum]
  rw [space,ok_bind,IpfixDataRecord.bytes_of_writable _ writable,ok_bind,bytes,appended,ok_bind]
  refine ⟨_,rfl,?_⟩
  by_cases none : templ.tid.toNat = 0
  · have opened : openedSet (headerOrder encodeNetwork) seen templ record =
        IpfixDataRecord.writtenSet (headerOrder encodeNetwork) templ record := by
      unfold openedSet IpfixDataRecord.writtenSet
      rw [if_neg (not_not_intro none),if_pos (UInt16.toNat_inj.mp none)]
      rfl
    simp only [none,ne_eq,not_true_eq_false,if_false,IpfixT.finishCs,idle.csHeader,opened]
    exact ⟨⟨⟨idle.csTid,rfl⟩,by simp,rfl,rfl,rfl,rfl⟩,trivial⟩
  · simp only [none,ne_eq,not_false_eq_true,if_true]
    rw [finishCs_openedSet (t := t) _ none writable rfl rfl rfl (Nat.zero_add _)]
    have headed : IpfixDataRecord.writtenSet (headerOrder encodeNetwork) templ record =
        IpfixDataRecord.dataSet (headerOrder encodeNetwork) templ record :=
      if_neg fun same => none (congrArg UInt16.toNat same)
    refine ⟨⟨⟨rfl,rfl⟩,?_,rfl,rfl,rfl,rfl⟩,rfl⟩
    rw [headed]
    rfl

theorem of_outputRecord {newset : Bool} {final : IpfixT × Nat} (mine : record.templateId = templ.tid)
    (same : newset = decide (templ.tid.toNat ≠ 0))
    (ended : outputRecord encodeNetwork newset templ (t,seen) record = .ok final) : templ.OneKind ∧
      IpfixDataRecord.Writable templ record ∧ t.HasRoom templ.headBytes seen (IpfixDataRecord.valuesSpan templ record) := by
  unfold outputRecord at ended
  rw [if_neg (not_not_intro mine)] at ended
  obtain ⟨fields,read,ended⟩ := bind_eq_ok.mp ended
  obtain ⟨one,rfl⟩ := IpfixTemplate.fields_eq_ok.mp read
  obtain ⟨sizes,sized,ended⟩ := bind_eq_ok.mp ended
  obtain ⟨_,space,ended⟩ := bind_eq_ok.mp ended
  obtain ⟨values,written,ended⟩ := bind_eq_ok.mp ended
  obtain ⟨next,appended,_⟩ := bind_eq_ok.mp ended
  have writable := IpfixDataRecord.writable_of_written sized written
  cases (IpfixDataRecord.sizes_of_writable writable).symm.trans sized
  cases (IpfixDataRecord.bytes_of_writable _ writable).symm.trans written
  refine ⟨one,writable,?_⟩
  have inside := (IpfixT.append_eq_ok.mp appended).1
  have asked := (IpfixT.checkSpace_eq_ok _).mp space
  have length := length_openedSet (headerOrder encodeNetwork) seen writable
  rw [same] at inside
  simp only [decide_eq_true_eq] at inside
  change t.offset + (openedSet (headerOrder encodeNetwork) seen templ record).length ≤ _ at inside
  rw [length] at inside
  unfold IpfixDataRecord.valuesSpan at inside
  constructor
  · unfold IpfixDataRecord.valuesSpan
    omega
  · unfold IpfixDataRecord.valuesSpan
    omega

end

end Mnslp.Msg
