import Mnslp.Msg.ImportStep

/-! Template records as they stand in a message, and what decoding one of them does to the
templates of the message. -/
namespace Mnslp.Msg
open Mnslp.Lib Call

/-- The description of a field in a template record. With an enterprise number the first bit
of the type is set on the wire. -/
structure FieldSpecifier where
  eno : Option UInt32
  ftype : UInt16
  length : UInt16
  small : ftype < ipfixEftVendorBit

namespace FieldSpecifier

def size (spec : FieldSpecifier) : Nat := if spec.eno.isSome then 8 else 4

def bytes (order : ByteOrder) (spec : FieldSpecifier) : Bytes :=
  match spec.eno with
  | none => Bytes.encode order 2 spec.ftype.toNat ++ Bytes.encode order 2 spec.length.toNat
  | some eno => Bytes.encode order 2 (spec.ftype.toNat + ipfixEftVendorBit.toNat) ++
      Bytes.encode order 2 spec.length.toNat ++ Bytes.encode order 4 eno.toNat

/-- The element that the container has for the field, or the one that stands for unknown ones. -/
def element (spec : FieldSpecifier) : Call IpfixFieldType :=
  getFieldType (((spec.eno.getD 0).toNat : Int).bmod (2^32)) spec.ftype.toNat

def unknownElement : IpfixFieldType := ⟨0,0,-1,.none⟩

def field (relay : Bool) (spec : FieldSpecifier) : IpfixTemplateField :=
  match spec.element with
  | .ok elem => ⟨spec.length,.known,relay,elem⟩
  | .error _ => ⟨spec.length,.unknown,relay,unknownElement⟩

theorem length_bytes (order : ByteOrder) (spec : FieldSpecifier) : (spec.bytes order).length = spec.size := by
  unfold bytes size
  cases spec.eno <;> simp

theorem sizes_ge (specs : List FieldSpecifier) : 4 * specs.length ≤ (specs.map size).sum := by
  induction specs with
  | nil => exact Nat.le_refl 0
  | cons spec rest ih =>
    have least : 4 ≤ spec.size := by
      unfold size
      split <;> decide
    rw [List.map_cons,List.sum_cons,List.length_cons]
    omega

end FieldSpecifier

/-- A record of a set of templates (0 and 2) or of option templates (1 and 3). -/
structure TemplateRecord where
  setid : UInt16
  templid : UInt16
  scope : List FieldSpecifier
  data : List FieldSpecifier

namespace TemplateRecord

def specifiers (record : TemplateRecord) : List FieldSpecifier := record.scope ++ record.data

def count (record : TemplateRecord) : Nat := record.specifiers.length

def header (record : TemplateRecord) : List Nat :=
  if record.setid = 3 then [record.templid.toNat,record.count,record.scope.length]
  else if record.setid = 1 then [record.templid.toNat,4 * record.scope.length,4 * record.data.length]
  else [record.templid.toNat,record.count]

def bytes (order : ByteOrder) (record : TemplateRecord) : Bytes :=
  record.header.flatMap (Bytes.encode order 2) ++ record.specifiers.flatMap (FieldSpecifier.bytes order)

def headerSize (record : TemplateRecord) : Nat := if isOptionSet record.setid then 6 else 4

def size (record : TemplateRecord) : Nat := record.headerSize + (record.specifiers.map FieldSpecifier.size).sum

def template (relay : Bool) (record : TemplateRecord) : IpfixTemplate where
  type := typeOfSet record.setid
  tid := record.templid
  maxfields := record.count
  scopefields := record.scope.map (FieldSpecifier.field relay)
  datafields := record.data.map (FieldSpecifier.field relay)

/-- The header of the record can count its fields, and only options have a scope. -/
structure Counted (record : TemplateRecord) : Prop where
  kind : record.setid.toNat ≤ 3
  few : record.count < 2^16
  plain : isOptionSet record.setid = false → record.scope = []

/-- A record with fields. NetFlow 9 counts the bytes of its options and knows no enterprise
numbers in them. -/
structure WellFormed (record : TemplateRecord) : Prop extends record.Counted where
  some : 0 < record.count
  short : record.setid = 1 → (∀ spec ∈ record.specifiers, spec.eno = none) ∧
    4 * record.scope.length < 2^16 ∧ 4 * record.data.length < 2^16

theorem WellFormed.ofNat_count_ne_zero {record : TemplateRecord} (wellFormed : record.WellFormed) :
    UInt16.ofNat record.count ≠ 0 := by
  intro none
  have count : (UInt16.ofNat record.count).toNat = record.count := UInt16.toNat_ofNat_of_lt' wellFormed.few
  rw [none] at count
  exact Nat.ne_of_gt wellFormed.some count.symm

theorem WellFormed.size_ge {record : TemplateRecord} (wellFormed : record.WellFormed) : 8 ≤ record.size := by
  have some := wellFormed.some
  have each := FieldSpecifier.sizes_ge record.specifiers
  have header : 4 ≤ record.headerSize := by
    unfold headerSize
    split <;> decide
  unfold count at some
  unfold size
  omega

theorem length_header (record : TemplateRecord) (order : ByteOrder) :
    (record.header.flatMap (Bytes.encode order 2)).length = record.headerSize := by
  unfold header headerSize isOptionSet
  by_cases three : record.setid = 3
  · simp [three]
  · by_cases one : record.setid = 1
    · simp [one]
    · simp [three,one]

theorem length_bytes (record : TemplateRecord) (order : ByteOrder) : (record.bytes order).length = record.size := by
  have each : (FieldSpecifier.bytes order · |>.length) = FieldSpecifier.size := funext (FieldSpecifier.length_bytes order)
  rw [bytes,size,List.length_append,length_header,List.length_flatMap]
  exact congrArg (fun f => _ + (record.specifiers.map f).sum) each

end TemplateRecord

section
variable {order : ByteOrder} {buffer : Bytes} {pos len : Nat}

theorem readNumber_stands_mod {width value : Nat} (wide : width ≠ 0)
    (stands : Bytes.Stands (Bytes.encode order width value) buffer pos) :
    readNumber order width buffer pos = .ok (value % 256^width) := by
  have some : Bytes.encode order width value ≠ [] := by
    intro none
    have length := Bytes.length_encode order width value
    rw [none] at length
    exact wide length.symm
  obtain ⟨inside,found⟩ := stands.slice some
  rw [Bytes.length_encode] at inside found
  rw [readNumber_inside order inside,found,Bytes.decode_encode]

theorem readNumber_stands {width value : Nat} (wide : width ≠ 0) (small : value < 256^width)
    (stands : Bytes.Stands (Bytes.encode order width value) buffer pos) : readNumber order width buffer pos = .ok value := by
  rw [readNumber_stands_mod wide stands,Nat.mod_eq_of_lt small]

theorem readU16_stands {value : Nat} (small : value < 2^16) (stands : Bytes.Stands (Bytes.encode order 2 value) buffer pos) :
    readNumber order 2 buffer pos = .ok value := readNumber_stands (Nat.succ_ne_zero 1) small stands

theorem readU32_stands {value : Nat} (small : value < 2^32) (stands : Bytes.Stands (Bytes.encode order 4 value) buffer pos) :
    readNumber order 4 buffer pos = .ok value := readNumber_stands (Nat.succ_ne_zero 3) small stands

theorem readTrecordHeader_stands {record : TemplateRecord} (counted : record.Counted) (later : record.setid ≠ 1)
    (stands : Bytes.Stands (record.header.flatMap (Bytes.encode order 2)) buffer pos) (room : record.headerSize ≤ len)
    (leftover : Leftover) : readTrecordHeader leftover order buffer record.setid pos len =
      .ok ⟨record.templid,UInt16.ofNat record.count,UInt16.ofNat record.scope.length,record.headerSize⟩ := by
  have few := counted.few
  have scope : record.scope.length ≤ record.count := by
    rw [TemplateRecord.count,TemplateRecord.specifiers,List.length_append]
    exact Nat.le_add_right _ _
  unfold readTrecordHeader
  unfold TemplateRecord.header at stands
  unfold TemplateRecord.headerSize isOptionSet at *
  by_cases three : record.setid = 3
  · rw [if_pos three,List.flatMap_cons,List.flatMap_cons,List.flatMap_cons,Bytes.stands_append,Bytes.stands_append,
      Bytes.stands_append] at stands
    obtain ⟨first,second,third,_⟩ := stands
    simp only [Bytes.length_encode] at second third
    simp only [three,or_true,decide_true,if_true] at room ⊢
    rw [if_neg (by omega),readU16_stands record.templid.toNat_lt first,ok_bind,
      readU16_stands few second,ok_bind,readU16_stands (by omega) third]
    simp
  · have data : record.setid = 2 ∨ record.setid = 0 := by
      have kind := counted.kind
      have other (setid : UInt16) (differs : record.setid ≠ setid) : record.setid.toNat ≠ setid.toNat :=
        fun same => differs (UInt16.toNat_inj.mp same)
      have first : record.setid.toNat ≠ 1 := other 1 later
      have second : record.setid.toNat ≠ 3 := other 3 three
      have left : record.setid.toNat = 2 ∨ record.setid.toNat = 0 := by omega
      exact left.imp UInt16.toNat_inj.mp UInt16.toNat_inj.mp
    have none : record.scope = [] := counted.plain (by simp [isOptionSet,later,three])
    rw [if_neg three,if_neg later,List.flatMap_cons,List.flatMap_cons,Bytes.stands_append,Bytes.stands_append] at stands
    obtain ⟨first,second,_⟩ := stands
    simp only [Bytes.length_encode] at second
    simp only [three,later,or_false,decide_false,Bool.false_eq_true,if_false] at room ⊢
    rw [if_pos data,if_neg (by omega),readU16_stands record.templid.toNat_lt first,ok_bind,
      readU16_stands few second]
    simp [none]

/-- The element is found, or the one for unknown elements is taken. -/
theorem fieldTypeOrUnknown_element (spec : FieldSpecifier) (relay : Bool) :
    fieldTypeOrUnknown (((spec.eno.getD 0).toNat : Int).bmod (2^32)) spec.ftype.toNat =
      .ok ((spec.field relay).elem,(spec.field relay).unknownF) := by
  unfold fieldTypeOrUnknown FieldSpecifier.field FieldSpecifier.element
  cases getFieldType (((spec.eno.getD 0).toNat : Int).bmod (2^32)) spec.ftype.toNat with
  | ok elem => rfl
  | error stop =>
    have anyElement : getFieldType 0 0 = .ok FieldSpecifier.unknownElement := rfl
    dsimp only
    rw [anyElement]
    rfl

def IpfixTemplate.addFields (templ : IpfixTemplate) (isscopefield : Bool) (fields : List IpfixTemplateField) :
    IpfixTemplate :=
  if isscopefield then {templ with scopefields := templ.scopefields ++ fields}
  else {templ with datafields := templ.datafields ++ fields}

theorem IpfixTemplate.addFields_addFields (templ : IpfixTemplate) (isscopefield : Bool)
    (first second : List IpfixTemplateField) : (templ.addFields isscopefield first).addFields isscopefield second =
      templ.addFields isscopefield (first ++ second) := by
  cases isscopefield <;> simp [addFields]

theorem IpfixTemplate.getNumfields_addFields (templ : IpfixTemplate) (isscopefield : Bool)
    (fields : List IpfixTemplateField) :
    (templ.addFields isscopefield fields).getNumfields = templ.getNumfields + fields.length := by
  cases isscopefield
  · simp only [addFields,getNumfields,Bool.false_eq_true,if_false,List.length_append]
    omega
  · simp only [addFields,getNumfields,if_true,List.length_append]
    omega

theorem IpfixTemplate.maxfields_addFields (templ : IpfixTemplate) (isscopefield : Bool)
    (fields : List IpfixTemplateField) : (templ.addFields isscopefield fields).maxfields = templ.maxfields := by
  cases isscopefield <;> rfl

theorem readField_stands {spec : FieldSpecifier} {templ : IpfixTemplate} (relay isscopefield : Bool)
    (stands : Bytes.Stands (spec.bytes order) buffer pos) (room : spec.size ≤ len)
    (more : templ.getNumfields < templ.maxfields) : readField order relay buffer templ isscopefield pos len =
      .ok (templ.addFields isscopefield [spec.field relay],spec.size) := by
  have whole : (⟨spec.length,(spec.field relay).unknownF,relay,(spec.field relay).elem⟩ : IpfixTemplateField) =
      spec.field relay := by
    unfold FieldSpecifier.field
    cases spec.element <;> rfl
  have small : spec.ftype.toNat < 2^15 := spec.small
  have looked := fieldTypeOrUnknown_element spec relay
  unfold readField
  unfold FieldSpecifier.bytes at stands
  unfold FieldSpecifier.size at room ⊢
  rw [if_neg (by split at room <;> omega),if_neg (by omega)]
  cases vendor : spec.eno with
  | none =>
    rw [vendor,Bytes.stands_append] at stands
    rw [vendor] at looked
    obtain ⟨first,second⟩ := stands
    rw [Bytes.length_encode] at second
    have plain : ¬ spec.ftype.toNat ≥ ipfixEftVendorBit.toNat := Nat.not_le_of_lt small
    rw [readU16_stands spec.ftype.toNat_lt first,ok_bind,
      readU16_stands spec.length.toNat_lt second,ok_bind]
    simp only [plain,decide_false,Bool.false_eq_true,false_and,if_false,readEno,ok_bind]
    rw [Nat.mod_eq_of_lt (Nat.lt_of_not_le plain)]
    change fieldTypeOrUnknown (((0 : Nat) : Int).bmod (2^32)) spec.ftype.toNat = _ at looked
    rw [looked]
    simp only [ok_bind,UInt16.ofNat_toNat,whole]
    rfl
  | some eno =>
    rw [vendor,Bytes.stands_append,Bytes.stands_append] at stands
    rw [vendor] at looked room
    obtain ⟨⟨first,second⟩,third⟩ := stands
    simp only [List.length_append,Bytes.length_encode] at second third
    have bit : ipfixEftVendorBit.toNat = 2^15 := rfl
    have marked : spec.ftype.toNat + ipfixEftVendorBit.toNat ≥ ipfixEftVendorBit.toNat := Nat.le_add_left _ _
    have long : ¬ len < 8 := Nat.not_lt_of_le room
    rw [readU16_stands (by omega) first,ok_bind,
      readU16_stands spec.length.toNat_lt second,ok_bind]
    simp only [marked,decide_true,true_and,if_neg long,readEno,if_true]
    rw [readU32_stands eno.toNat_lt third,ok_bind,Nat.add_mod_right,Nat.mod_eq_of_lt (by omega)]
    change fieldTypeOrUnknown ((eno.toNat : Int).bmod (2^32)) spec.ftype.toNat = _ at looked
    rw [looked]
    simp only [ok_bind,UInt16.ofNat_toNat,whole]
    rfl

theorem readFieldAt_stands {spec : FieldSpecifier} {templ : IpfixTemplate} {header : TrecordHeader} {offset i : Nat}
    (relay isscopefield : Bool) (kind : decide (i < header.nscopefields.toNat) = isscopefield)
    (stands : Bytes.Stands (spec.bytes order) buffer (pos + offset)) (room : offset + spec.size ≤ len)
    (more : templ.getNumfields < templ.maxfields) :
    readFieldAt order relay buffer header pos len (templ,offset) i =
      .ok (templ.addFields isscopefield [spec.field relay],offset + spec.size) := by
  have some : 0 < spec.size := by
    unfold FieldSpecifier.size
    split <;> decide
  unfold readFieldAt
  rw [kind]
  dsimp only
  rw [if_neg (by omega),readField_stands relay isscopefield stands (by omega) more]
  rfl

/-- The fields of one kind are read in their order. -/
theorem readFields_stands {header : TrecordHeader} (relay isscopefield : Bool) (specs : List FieldSpecifier)
    (templ : IpfixTemplate) (first offset : Nat)
    (kind : ∀ i, first ≤ i → i < first + specs.length → decide (i < header.nscopefields.toNat) = isscopefield)
    (stands : Bytes.Stands (specs.flatMap (FieldSpecifier.bytes order)) buffer (pos + offset))
    (room : offset + (specs.map FieldSpecifier.size).sum ≤ len)
    (more : templ.getNumfields + specs.length ≤ templ.maxfields) :
    (List.range' first specs.length).foldlM (readFieldAt order relay buffer header pos len) (templ,offset) =
      .ok (templ.addFields isscopefield (specs.map (FieldSpecifier.field relay)),
        offset + (specs.map FieldSpecifier.size).sum) := by
  induction specs generalizing templ first offset with
  | nil => cases isscopefield <;> simp [IpfixTemplate.addFields]
  | cons spec rest ih =>
    rw [List.flatMap_cons,Bytes.stands_append,FieldSpecifier.length_bytes,Nat.add_assoc] at stands
    simp only [List.map_cons,List.sum_cons,List.length_cons] at room more kind ⊢
    rw [List.range'_succ,List.foldlM_cons,
      readFieldAt_stands relay isscopefield (kind first (Nat.le_refl _) (by omega)) stands.1 (by omega) (by omega),ok_bind]
    have left : (templ.addFields isscopefield [spec.field relay]).getNumfields + rest.length ≤
        (templ.addFields isscopefield [spec.field relay]).maxfields := by
      rw [IpfixTemplate.getNumfields_addFields,IpfixTemplate.maxfields_addFields,List.length_singleton]
      omega
    rw [ih _ (first + 1) _ (fun i lower upper => kind i (by omega) (by omega)) stands.2 (by omega) left,
      IpfixTemplate.addFields_addFields,Nat.add_assoc]
    rfl

theorem readRecord_stands {record : TemplateRecord} (relay : Bool) (numbered : UInt16) (few : record.count < 2^16)
    (stands : Bytes.Stands (record.bytes order) buffer pos) (room : record.size ≤ len) :
    (List.range record.count).foldlM (readFieldAt order relay buffer
        ⟨record.templid,UInt16.ofNat record.count,UInt16.ofNat record.scope.length,record.headerSize⟩ pos len)
        ({type := typeOfSet record.setid, tid := numbered, maxfields := record.count},record.headerSize) =
      .ok ({record.template relay with tid := numbered},record.size) := by
  have count : record.count = record.scope.length + record.data.length := List.length_append
  have scope : (UInt16.ofNat record.scope.length).toNat = record.scope.length := UInt16.toNat_ofNat_of_lt' (show _ < 2^16 by omega)
  unfold TemplateRecord.bytes TemplateRecord.specifiers at stands
  unfold TemplateRecord.size TemplateRecord.specifiers at room ⊢
  rw [Bytes.stands_append,TemplateRecord.length_header,List.flatMap_append,Bytes.stands_append] at stands
  obtain ⟨_,inScope,inData⟩ := stands
  rw [List.length_flatMap] at inData
  have sizes : record.scope.map (fun spec => (spec.bytes order).length) = record.scope.map FieldSpecifier.size :=
    List.map_congr_left fun spec _ => spec.length_bytes order
  rw [sizes,Nat.add_assoc] at inData
  rw [List.map_append,List.sum_append] at room ⊢
  rw [List.range_eq_range',count,← List.range'_append,List.foldlM_append,
    readFields_stands relay true record.scope _ 0 record.headerSize
      (fun i _ upper => decide_eq_true (by rw [scope]; omega)) inScope (by omega)
      (by simp only [IpfixTemplate.getNumfields,List.length_nil]; omega),ok_bind]
  rw [show 0 + 1 * record.scope.length = record.scope.length by omega,
    readFields_stands relay false record.data _ record.scope.length _
      (fun i lower _ => decide_eq_false (by rw [scope]; omega)) inData (by omega)
      (by simp only [IpfixTemplate.addFields,IpfixTemplate.getNumfields,if_true,List.length_append,List.length_nil,
        List.length_map]; omega)]
  simp only [IpfixTemplate.addFields,TemplateRecord.template,Nat.add_assoc,count]
  simp

end

namespace TemplateContainer

theorem find_renew_other (templates : TemplateContainer) {named numbered other : UInt16} (type : IpfixTemplType)
    (nfields : Nat) (differs : other ≠ numbered) :
    (templates.renew named numbered type nfields).find other = (templates.erase named).find other := by
  unfold renew addTemplate
  rw [find_updateTemplate_other _ differs]
  exact OrderedMap.find_insert_other _ _ _ _ (rank_ne differs)

theorem find_renew_self (templates : TemplateContainer) {named numbered : UInt16}
    (fresh : (templates.erase named).find numbered = none) (type : IpfixTemplType) (nfields : Nat) :
    (templates.renew named numbered type nfields).find numbered =
      some {type := type, tid := numbered, maxfields := nfields} := by
  have added : (addTemplate (templates.erase named) {type := .dataTemplate, tid := numbered, maxfields := nfields}).find
      numbered = some {type := .dataTemplate, tid := numbered, maxfields := nfields} :=
    OrderedMap.find_insert_self_of_absent _ _ _ _ fresh rfl
  exact find_updateTemplate_self added fun templ => {templ with type := type}

end TemplateContainer

section
variable {leftover : Leftover} {buffer : Bytes} {m : MnslpIpfixMessage} {t : IpfixT} {setid : UInt16} {pos len : Nat}
variable {header : TrecordHeader}

/-- The template that the record names is erased, and the one that the counter names is
written. -/
theorem decodeTrecord_find {next : MnslpIpfixMessage} {bytes : Nat} (live : m.message = .live t)
    (read : readTrecordHeader leftover (headerOrder m.encodeNetwork) buffer setid pos len = .ok header)
    (some : header.nfields ≠ 0) (decoded : decodeTrecord leftover buffer m setid pos len = .ok (next,bytes)) :
    ∃ t', next.message = .live t' ∧
      ∀ other, other ≠ m.gLasttid + 1 → t'.templates.find other = (t.templates.erase header.templid).find other := by
  rw [decodeTrecord_eq live read some] at decoded
  obtain ⟨templ,_,decoded⟩ := bind_eq_ok.mp decoded
  obtain ⟨⟨filled,nread⟩,_,decoded⟩ := bind_eq_ok.mp decoded
  cases decoded
  refine ⟨_,rfl,fun other differs => ?_⟩
  rw [TemplateContainer.find_updateTemplate_other _ differs,TemplateContainer.find_renew_other _ _ _ differs]

/-- A record that the counter gives the id of no other template. -/
theorem decodeTrecord_stands {record : TemplateRecord} (wellFormed : record.WellFormed) (later : record.setid ≠ 1)
    (live : m.message = .live t) (fresh : (t.templates.erase record.templid).find (m.gLasttid + 1) = none)
    (leftover : Leftover) (stands : Bytes.Stands (record.bytes (headerOrder m.encodeNetwork)) buffer pos)
    (room : record.size ≤ len) : ∃ templates : TemplateContainer,
      decodeTrecord leftover buffer m record.setid pos len =
        .ok ({m with
          message := .live {t with templates := templates}
          gLasttid := m.gLasttid + 1
          requireOutput := true },record.size) ∧
      templates.find (m.gLasttid + 1) = some {record.template m.encodeNetwork with tid := m.gLasttid + 1} ∧
      ∀ other, other ≠ m.gLasttid + 1 → templates.find other = (t.templates.erase record.templid).find other := by
  have few := wellFormed.few
  have header := readTrecordHeader_stands wellFormed.toCounted later (Bytes.stands_append.mp stands).1
    (Nat.le_trans (Nat.le_add_right _ _) room) leftover
  have count : (UInt16.ofNat record.count).toNat = record.count := UInt16.toNat_ofNat_of_lt' few
  have many := wellFormed.ofNat_count_ne_zero
  have renewed := t.templates.find_renew_self fresh (typeOfSet record.setid) record.count
  have read := readRecord_stands m.encodeNetwork (m.gLasttid + 1) few stands room
  have decoded := decodeTrecord_eq live header many
  simp only [count,TemplateContainer.getTemplate_of_find renewed,ok_bind,read,rethrown] at decoded
  refine ⟨_,decoded,?_,fun other differs => ?_⟩
  · exact TemplateContainer.find_updateTemplate_self renewed _
  · rw [TemplateContainer.find_updateTemplate_other _ differs,TemplateContainer.find_renew_other _ _ _ differs]

/-- Wherever the record stands, its template is stored under its id when it is decoded, and
the other templates stay. -/
def TemplateRecord.KeptBy (record : TemplateRecord) (m : MnslpIpfixMessage) : Prop :=
  ∀ leftover buffer pos len, Bytes.Stands (record.bytes (headerOrder m.encodeNetwork)) buffer pos →
    record.size ≤ len → pos + len ≤ buffer.length →
    ∃ t next t' nread, m.message = .live t ∧ decodeTrecord leftover buffer m record.setid pos len = .ok (next,nread) ∧
      next.message = .live t' ∧ t'.templates.getTemplate record.templid = .ok (record.template m.encodeNetwork) ∧
      ∀ other, other ≠ record.templid → t'.templates.find other = t.templates.find other

/-- The lengths of the options of NetFlow 9 are compared with the bytes that are left, which
hold the header of the record as well. -/
theorem readTrecordHeader_short {order : ByteOrder} {templid scopelen optionlen : Nat}
    (stands : Bytes.Stands ([templid,scopelen,optionlen].flatMap (Bytes.encode order 2)) buffer pos)
    (room : 6 ≤ len) (short : scopelen % 2^16 + optionlen % 2^16 < len) :
    readTrecordHeader {} order buffer 1 pos len = badArgument "Invalid template data" := by
  rw [List.flatMap_cons,List.flatMap_cons,List.flatMap_cons,Bytes.stands_append,Bytes.stands_append,
    Bytes.stands_append] at stands
  obtain ⟨first,second,third,_⟩ := stands
  simp only [Bytes.length_encode] at second third
  have whole (value : Nat) : partlyAssigned order 0 (value % 2^16) = value % 2^16 := by
    cases order
    · rfl
    · exact Nat.mod_eq_of_lt (by omega)
  have second : readNumber order 2 buffer (pos + 2) = .ok (scopelen % 2^16) := readNumber_stands_mod (by decide) second
  have third : readNumber order 2 buffer (pos + 4) = .ok (optionlen % 2^16) := readNumber_stands_mod (by decide) third
  unfold readTrecordHeader
  rw [if_neg (by decide),if_pos rfl,if_neg (by omega),readNumber_stands_mod (by decide) first,ok_bind]
  rw [second,ok_bind,third,ok_bind]
  dsimp only
  rw [whole,whole,if_pos (by omega)]

theorem readTrecordHeader_optionsNf9 {record : TemplateRecord} (wellFormed : record.WellFormed) (one : record.setid = 1)
    (order : ByteOrder) :
    readTrecordHeader {} order (record.bytes order) record.setid 0 record.size = badArgument "Invalid template data" := by
  obtain ⟨plain,_,_⟩ := wellFormed.short one
  have stands := (Bytes.stands_append.mp (Bytes.stands_self (record.bytes order))).1
  have size : record.size = 6 + 4 * record.scope.length + 4 * record.data.length := by
    have each : record.specifiers.map FieldSpecifier.size = record.specifiers.map fun _ => 4 :=
      List.map_congr_left fun spec member => by rw [FieldSpecifier.size,plain spec member]; rfl
    have header : record.headerSize = 6 := by simp [TemplateRecord.headerSize,isOptionSet,one]
    rw [TemplateRecord.size,each,header,List.map_const',List.sum_replicate_nat,TemplateRecord.specifiers,
      List.length_append]
    omega
  rw [TemplateRecord.header,if_neg (by rw [one]; decide),if_pos one] at stands
  have scope := Nat.mod_le (4 * record.scope.length) (2^16)
  have data := Nat.mod_le (4 * record.data.length) (2^16)
  rw [one]
  exact readTrecordHeader_short stands (by omega) (by omega)

namespace TemplateRecord
variable {record : TemplateRecord}

theorem KeptBy.decoded (kept : record.KeptBy m) :
    ∃ t next t' nread, m.message = .live t ∧
      decodeTrecord {} (record.bytes (headerOrder m.encodeNetwork)) m record.setid 0 record.size = .ok (next,nread) ∧
      next.message = .live t' ∧ t'.templates.getTemplate record.templid = .ok (record.template m.encodeNetwork) := by
  obtain ⟨t,next,t',nread,live,decoded,live',found,_⟩ := kept {} (record.bytes (headerOrder m.encodeNetwork)) 0
    record.size (Bytes.stands_self _) (Nat.le_refl _) (by rw [record.length_bytes,Nat.zero_add])
  exact ⟨t,next,t',nread,live,decoded,live',found⟩

theorem KeptBy.later (kept : record.KeptBy m) (wellFormed : record.WellFormed) : record.setid ≠ 1 := by
  intro one
  obtain ⟨t,next,t',nread,live,decoded,_⟩ := kept.decoded
  unfold decodeTrecord at decoded
  simp only [readTrecordHeader_optionsNf9 wellFormed one] at decoded
  cases decoded

/-- With another id the record leaves no template under its own. -/
theorem KeptBy.numbered (kept : record.KeptBy m) (wellFormed : record.WellFormed) :
    record.templid = m.gLasttid + 1 := by
  obtain ⟨t,next,t',nread,live,decoded,live',found⟩ := kept.decoded
  by_contra differs
  have room : record.headerSize ≤ record.size := Nat.le_add_right _ _
  have header := readTrecordHeader_stands wellFormed.toCounted (kept.later wellFormed)
    (Bytes.stands_append.mp (Bytes.stands_self (record.bytes (headerOrder m.encodeNetwork)))).1 room {}
  obtain ⟨after,same,others⟩ := decodeTrecord_find live header wellFormed.ofNat_count_ne_zero decoded
  rw [live'] at same
  cases same
  have absent : t'.templates.find record.templid = none := by
    rw [others _ differs]
    exact t.templates.find_erase_self _
  rw [TemplateContainer.getTemplate_of_absent absent] at found
  cases found

theorem keptBy_iff (wellFormed : record.WellFormed) (m : MnslpIpfixMessage) :
    record.KeptBy m ↔ (∃ t, m.message = .live t) ∧ record.setid ≠ 1 ∧ record.templid = m.gLasttid + 1 := by
  constructor
  · intro kept
    obtain ⟨t,_,_,_,live,_⟩ := kept.decoded
    exact ⟨⟨t,live⟩,kept.later wellFormed,kept.numbered wellFormed⟩
  · rintro ⟨⟨t,live⟩,later,numbered⟩ leftover buffer pos len stands room _
    have fresh : (t.templates.erase record.templid).find (m.gLasttid + 1) = none := by
      rw [← numbered]
      exact t.templates.find_erase_self _
    obtain ⟨templates,decoded,found,others⟩ := decodeTrecord_stands wellFormed later live fresh leftover stands room
    rw [← numbered] at found others
    refine ⟨t,_,_,record.size,live,decoded,rfl,TemplateContainer.getTemplate_of_find found,fun other differs => ?_⟩
    rw [others other differs]
    exact t.templates.find_erase_other _ _ (TemplateContainer.rank_ne differs)

/-- A field of the element 1. -/
def octetDeltaCount (length : UInt16) : FieldSpecifier := ⟨none,1,length,by decide⟩

def octets (templid : UInt16) : TemplateRecord := ⟨2,templid,[],[octetDeltaCount 4]⟩

theorem wellFormed_octets (templid : UInt16) : (octets templid).WellFormed where
  kind := show 2 ≤ 3 by decide
  some := Nat.one_pos
  few := show 1 < 2^16 by decide
  plain _ := rfl
  short one := absurd one (show (2 : UInt16) ≠ 1 by decide)

/-- The message behind the header of an import. -/
def opened : MnslpIpfixMessage := .init ⟨.null,0,0,[],true,true⟩ 0 0 ipfixVersion

theorem keptBy_opened : (octets 256).KeptBy opened :=
  (keptBy_iff (wellFormed_octets 256) opened).mpr ⟨⟨_,rfl⟩,by decide,by decide⟩

/-- The id 300 is none that the counter names in an empty message. -/
theorem not_keptBy_opened : (octets 300).WellFormed ∧ ¬ (octets 300).KeptBy opened := by
  refine ⟨wellFormed_octets 300,fun kept => ?_⟩
  have numbered := kept.numbered (wellFormed_octets 300)
  exact absurd numbered (by decide)

def withdrawal (setid templid : UInt16) : TemplateRecord := ⟨setid,templid,[],[]⟩

/-- The record is read, exactly its template is gone, or all of them, and an import goes on
behind it. -/
def Withdraws (record : TemplateRecord) (leftover : Leftover) (buffer : Bytes) (m : MnslpIpfixMessage) (pos len : Nat) :
    Prop :=
  ∃ t next t', m.message = .live t ∧
    decodeTrecord leftover buffer m record.setid pos len = .ok (next,if isOptionSet record.setid then 6 else 4) ∧
    next.message = .live t' ∧
    (∀ id, t'.templates.find id =
      if id = record.templid ∨ record.templid = record.setid then none else t.templates.find id) ∧
    ∀ (input : ImportInput) (s : ImportState), input.leftover = leftover → input.buffer = buffer → s.m = m →
      s.setid = record.setid → s.point = .templates pos len → 4 < len →
      s.step input = .ok (.inl {s with m := next, point := .templates (pos + record.size) (len - record.size)})

theorem counted_withdrawal {setid : UInt16} (kind : setid.toNat ≤ 3) (templid : UInt16) :
    (withdrawal setid templid).Counted where
  kind := kind
  few := show 0 < 2^16 by decide
  plain _ := rfl

theorem decodeTrecord_withdrawal_stands {setid templid : UInt16} (kind : setid.toNat ≤ 3) (later : setid ≠ 1)
    (live : m.message = .live t) (leftover : Leftover)
    (stands : Bytes.Stands ((withdrawal setid templid).bytes (headerOrder m.encodeNetwork)) buffer pos)
    (room : (withdrawal setid templid).size ≤ len) : decodeTrecord leftover buffer m setid pos len =
      if templid = setid ∨ (t.templates.find templid).isSome then badArgument "Invalid number of fields"
      else fault .eraseEnd := by
  have header := readTrecordHeader_stands (counted_withdrawal kind templid) later (Bytes.stands_append.mp stands).1
    (Nat.le_trans (Nat.le_add_right _ _) room) leftover
  change readTrecordHeader leftover _ buffer setid pos len = .ok ⟨templid,0,0,_⟩ at header
  rw [decodeTrecord_withdrawal live header rfl]
  unfold withdrawTemplate TemplateContainer.deleteTemplate
  rw [if_neg (not_not_intro rfl)]
  by_cases all : templid = setid
  · rw [if_pos all,if_pos (.inl all)]
    rfl
  · rw [if_neg all]
    cases found : t.templates.find templid with
    | none =>
      simp only [all,Option.isSome_none,Bool.false_eq_true,or_false,if_false]
      rfl
    | some templ => simp

theorem not_withdraws (leftover : Leftover) (buffer : Bytes) (m : MnslpIpfixMessage) (setid templid : UInt16)
    (pos len : Nat) : ¬ (withdrawal setid templid).Withdraws leftover buffer m pos len := by
  rintro ⟨t,next,t',live,decoded,_⟩
  exact Nat.lt_irrefl _ (decodeTrecord_ok live decoded).1.1

def templated : MnslpIpfixMessage :=
  {opened with message := .live {sourceid := 0, version := ipfixVersion, templates :=
    TemplateContainer.addTemplate .empty {type := .dataTemplate, tid := 256, maxfields := 1}}}

theorem not_withdraws_templated :
    ¬ (withdrawal 2 256).Withdraws {} ((withdrawal 2 256).bytes .network) templated 0 4 := by
  rintro ⟨t,next,t',live,decoded,_⟩
  have stands : Bytes.Stands ((withdrawal 2 256).bytes (headerOrder templated.encodeNetwork))
      ((withdrawal 2 256).bytes .network) 0 := Bytes.stands_self _
  have ended := decodeTrecord_withdrawal_stands (by decide) (by decide) live {} stands (Nat.le_refl 4)
  change decodeTrecord _ _ _ 2 0 4 = _ at ended
  rw [show decodeTrecord _ _ _ 2 0 4 = _ from decoded] at ended
  by_cases known : (256 : UInt16) = 2 ∨ (t.templates.find 256).isSome
  · rw [if_pos known] at ended
    cases ended
  · rw [if_neg known] at ended
    cases ended

end TemplateRecord
end
end Mnslp.Msg
