import Mnslp.Lib.Computes
import Mnslp.Msg.FieldValue
import Mnslp.Msg.ImportBounds
import Mnslp.Msg.IpfixContent
import Mnslp.Msg.TemplateFields

/-! What an IPFIX message says: a template for each template record, a data record for each row of
values. The import makes this of its bytes where the templates have the ids that it gives itself. -/
namespace Mnslp.Msg
open Mnslp.Lib Call

/-- The value of a field is put into a record under the key of its element. -/
def FieldSpecifier.enter (relay : Bool) (record : IpfixDataRecord) (entry : FieldSpecifier × Bytes) : Call IpfixDataRecord := do
  let elem := (entry.1.field relay).elem
  let value ← elem.decode (entry.2.take (elem.bytesRead entry.2.length)) entry.2.length relay
  elem.snprint 30 value
  return record.insertField elem.getFieldKey value

/-- The data record for which the values stand. -/
def TemplateRecord.recordOf (relay : Bool) (templ : TemplateRecord) (values : List Bytes) : Call IpfixDataRecord :=
  (templ.specifiers.zip values).foldlM (FieldSpecifier.enter relay) (.new templ.templid)

/-- The data records for which the message stands, or why there are none. -/
def IpfixContent.meaning (relay : Bool) (content : IpfixContent) : Call (List IpfixDataRecord) :=
  content.dataRecords.mapM fun source => source.1.recordOf relay source.2

/-- The import gives each template its own id again, the records of a template have fields of one kind,
and nothing stands behind the records of a set. -/
structure IpfixContent.Regular (content : IpfixContent) : Prop extends content.WellFormed where
  numbered i record : content.templateRecords[i]? = some record → record.templid.toNat = 256 + i
  packed templ rows padding : IpfixSet.data templ rows padding ∈ content.sets →
    padding = 0 ∧ (templ.scope = [] ∨ templ.data = [])

/-- Each data set finds the template it belongs to, which has fields of one kind, and ends with its records. -/
structure IpfixContent.Legible (content : IpfixContent) : Prop extends content.WellFormed where
  held before after templ rows padding : content.sets = before ++ .data templ rows padding :: after →
    TemplateRecord.held (before.flatMap IpfixSet.templateRecords).reverse templ.templid = some templ
  packed templ rows padding : IpfixSet.data templ rows padding ∈ content.sets →
    padding = 0 ∧ (templ.scope = [] ∨ templ.data = [])

theorem IpfixContent.Regular.legible {content : IpfixContent} (regular : content.Regular) : content.Legible := by
  refine ⟨regular.toWellFormed,fun before after templ rows padding split => ?_,regular.packed⟩
  have numbered (i : Nat) (record : TemplateRecord) (placed : (before.flatMap IpfixSet.templateRecords)[i]? = some record)
      (_ : True) : record.templid.toNat = 256 + i := by
    refine regular.numbered i record ?_
    rw [templateRecords,split,List.flatMap_append,List.getElem?_append_left (List.getElem?_eq_some_iff.mp placed).1]
    exact placed
  exact (TemplateRecord.held_eq_some_iff numbered True.intro).mpr (regular.sets before after _ split).1

theorem FieldSpecifier.flength_field (relay : Bool) (spec : FieldSpecifier) : (spec.field relay).flength = spec.length := by
  unfold field
  cases spec.element <;> rfl

theorem IpfixFieldType.bytesRead_le (field : IpfixFieldType) (length : Nat) : field.bytesRead length ≤ length := by
  unfold bytesRead
  cases field.coding with
  | int | uint | ntp =>
    dsimp only
    split
    · split <;> omega
    · split <;> omega
  | float | ipaddr | bytes =>
    dsimp only
    split <;> omega
  | string | none => exact Nat.zero_le _

section
variable {relay : Bool} {order : ByteOrder} {readable : Bytes} {pos : Nat}

theorem readBytes_stands {value : Bytes} {count : Nat} (stands : Bytes.Stands value readable pos) (part : count ≤ value.length) :
    readBytes readable pos count = .ok (value.take count) := by
  by_cases none : count = 0
  · rw [none,readBytes,if_pos rfl,List.take_zero]
  · have inside := stands.length_le
    rw [List.length_drop] at inside
    obtain ⟨rest,whole⟩ := stands
    rw [readBytes_inside (by omega),← whole,List.take_append_of_le_length part]

/-- The length in front of a value of variable length is found, and behind it the value. -/
theorem readValueLength_stands {spec : FieldSpecifier} {value : Bytes} (allows : spec.Allows value)
    (stands : Bytes.Stands (spec.valueBytes order value) readable pos) : ∃ lead,
      readValueLength order readable (spec.field relay) pos = .ok (value.length,lead) ∧
      lead + value.length = (spec.valueBytes order value).length ∧ Bytes.Stands value readable (pos + lead) := by
  unfold FieldSpecifier.Allows at allows
  unfold FieldSpecifier.valueBytes at stands ⊢
  unfold readValueLength
  rw [FieldSpecifier.flength_field]
  by_cases varlen : spec.length = ipfixFtVarlen
  · rw [if_pos varlen] at allows stands
    rw [if_pos varlen,if_pos varlen]
    rw [Bytes.stands_append] at stands
    obtain ⟨prefixed,behind⟩ := stands
    have whole : (UInt16.ofNat value.length).toNat = value.length := UInt16.toNat_ofNat_of_lt' allows
    have one (byte : UInt8) (rest : Bytes) (here : Bytes.Stands (byte :: rest) readable pos) :
        readNumber order 1 readable pos = .ok byte.toNat := by
      rw [← List.singleton_append,Bytes.stands_append,← IpfixFieldType.encode_one order byte] at here
      exact readNumber_stands (by decide) byte.toNat_lt here.1
    have longer : UInt16.ofNat value.length > 254 ↔ value.length > 254 := by
      rw [gt_iff_lt,UInt16.lt_iff_toNat_lt,whole]
      rfl
    unfold varlenPrefix at prefixed behind ⊢
    by_cases long : value.length > 254
    · simp only [longer.mpr long,if_true] at prefixed behind ⊢
      have both := prefixed
      rw [← List.singleton_append,Bytes.stands_append,whole] at both
      have second : Bytes.Stands (Bytes.encode order 2 value.length) readable (pos + 1) := both.2
      rw [one _ _ prefixed,ok_bind,if_pos (by rfl),readU16_stands allows second,ok_bind]
      simp only [List.length_cons,Bytes.length_encode] at behind
      refine ⟨3,rfl,?_,behind⟩
      simp only [List.length_append,List.length_cons,Bytes.length_encode]
    · simp only [mt longer.mp long,if_false,whole] at prefixed behind ⊢
      have small : (UInt8.ofNat value.length).toNat = value.length := UInt8.toNat_ofNat_of_lt' (show _ < 256 by omega)
      rw [one _ _ prefixed,ok_bind,small,if_neg (by omega)]
      refine ⟨1,rfl,?_,behind⟩
      simp only [List.length_append,List.length_cons,List.length_nil]
  · rw [if_neg varlen] at allows stands
    rw [if_neg varlen,if_neg varlen]
    refine ⟨0,?_,Nat.zero_add _,stands⟩
    rw [allows]
    rfl

theorem decodeField_stands {templ : IpfixTemplate} {spec : FieldSpecifier} {value : Bytes} {read : RecordProgress} {i : Nat}
    (found : templ.getField i = .ok (spec.field relay)) (allows : spec.Allows value)
    (stands : Bytes.Stands (spec.valueBytes (headerOrder relay) value) readable (pos + read.nread))
    (enough : value.length ≤ read.bytesleft) : decodeField relay readable templ pos read i = do
      let record ← FieldSpecifier.enter relay read.record (spec,value)
      return ⟨read.nread + (spec.valueBytes (headerOrder relay) value).length,read.bytesleft - value.length,record⟩ := by
  obtain ⟨lead,measured,covered,behind⟩ := @readValueLength_stands relay _ _ _ spec value allows stands
  have taken := readBytes_stands behind ((spec.field relay).elem.bytesRead_le value.length)
  rw [decodeField_inside found measured (Nat.not_lt.mpr enough) taken,← covered]
  simp only [FieldSpecifier.enter,bind_assoc,pure_eq,ok_bind,Nat.add_assoc]

/-- The fields of a template one behind the other. -/
theorem decodeFields_stands {templ : IpfixTemplate} {specs : List FieldSpecifier} {values : List Bytes}
    (allows : List.Forall₂ FieldSpecifier.Allows specs values) : ∀ (first : Nat) (read : RecordProgress),
      (∀ i spec, specs[i]? = some spec → templ.getField (first + i) = .ok (spec.field relay)) →
      Bytes.Stands (List.zipWith (FieldSpecifier.valueBytes (headerOrder relay)) specs values).flatten readable
        (pos + read.nread) →
      values.flatten.length ≤ read.bytesleft →
      (List.range' first specs.length).foldlM (decodeField relay readable templ pos) read = do
        let record ← (specs.zip values).foldlM (FieldSpecifier.enter relay) read.record
        return ⟨read.nread + (List.zipWith (FieldSpecifier.valueBytes (headerOrder relay)) specs values).flatten.length,
          read.bytesleft - values.flatten.length,record⟩ := by
  induction allows with
  | nil =>
    intro first read _ _ _
    rfl
  | @cons spec value specs values here _ ih =>
    intro first read fields stands room
    rw [List.zipWith_cons_cons,List.flatten_cons,Bytes.stands_append,Nat.add_assoc] at stands
    rw [List.flatten_cons,List.length_append] at room
    have one := decodeField_stands (fields 0 spec rfl) here stands.1 (by omega)
    rw [Nat.add_zero] at one
    rw [List.length_cons,List.range'_succ,List.foldlM_cons,one,List.zip_cons_cons,List.foldlM_cons,bind_assoc,bind_assoc]
    congr 1
    funext record
    have others (i : Nat) (other : FieldSpecifier) (placed : specs[i]? = some other) :
        templ.getField (first + 1 + i) = .ok (other.field relay) := by
      rw [Nat.add_assoc,Nat.add_comm 1 i]
      exact fields (i + 1) other placed
    rw [pure_eq,ok_bind,ih (first + 1) _ others stands.2 (Nat.le_sub_of_add_le (by omega))]
    simp only [List.zipWith_cons_cons,List.flatten_cons,List.length_append,Nat.add_assoc,Nat.sub_sub]

theorem length_flatten_le {specs : List FieldSpecifier} {values : List Bytes}
    (allows : List.Forall₂ FieldSpecifier.Allows specs values) (order : ByteOrder) :
    values.flatten.length ≤ (List.zipWith (FieldSpecifier.valueBytes order) specs values).flatten.length := by
  induction allows with
  | nil => exact Nat.le_refl 0
  | @cons spec value specs values _ _ ih =>
    have least : value.length ≤ (spec.valueBytes order value).length := by
      unfold FieldSpecifier.valueBytes
      split
      · rw [List.length_append]
        exact Nat.le_add_left _ _
      · exact Nat.le_refl _
    rw [List.zipWith_cons_cons,List.flatten_cons,List.flatten_cons,List.length_append,List.length_append]
    omega

/-- A row of values is read as the record for which it stands. -/
theorem decodeDatarecord_stands {record : TemplateRecord} {values : List Bytes} {buflen : Nat}
    (one : record.scope = [] ∨ record.data = []) (allows : List.Forall₂ FieldSpecifier.Allows record.specifiers values)
    (stands : Bytes.Stands (IpfixSet.dataBytes (headerOrder relay) record values) readable pos)
    (room : (IpfixSet.dataBytes (headerOrder relay) record values).length ≤ buflen) :
    decodeDatarecord relay readable (record.template relay) pos buflen = do
      let read ← record.recordOf relay values
      return (read,(IpfixSet.dataBytes (headerOrder relay) record values).length) := by
  have all : (record.template relay).scopefields ++ (record.template relay).datafields =
      record.specifiers.map (FieldSpecifier.field relay) := List.map_append.symm
  have kind : (record.template relay).scopefields = [] ∨ (record.template relay).datafields = [] :=
    one.imp (fun none => List.map_eq_nil_iff.mpr none) (fun none => List.map_eq_nil_iff.mpr none)
  have fields (i : Nat) (spec : FieldSpecifier) (placed : record.specifiers[i]? = some spec) :
      (record.template relay).getField (0 + i) = .ok (spec.field relay) := by
    rw [Nat.zero_add]
    refine (record.template relay).getField_of_oneKind kind ?_
    rw [all,List.getElem?_map,placed]
    rfl
  have count : (record.template relay).getNumfields = record.specifiers.length := by
    unfold IpfixTemplate.getNumfields
    rw [Nat.add_comm,← List.length_append,all,List.length_map]
  have enough := Nat.le_trans (length_flatten_le allows (headerOrder relay)) room
  have read := decodeFields_stands allows 0 ⟨0,buflen,.new record.templid⟩ fields stands enough
  unfold decodeDatarecord
  rw [count,List.range_eq_range']
  change (List.range' 0 record.specifiers.length).foldlM _ (⟨0,buflen,.new record.templid⟩ : RecordProgress) >>= _ = _
  rw [read,bind_assoc]
  simp only [pure_eq,ok_bind,Nat.zero_add]
  rfl

end

/-- What the header of the message is read as. -/
def IpfixContent.header (order : ByteOrder) (content : IpfixContent) : IpfixT where
  sourceid := content.sourceid
  version := ipfixVersion
  length := UInt16.ofNat (content.bytes order).length
  exporttime := content.exporttime
  seqno := content.seqno

/-- The message while its sets are read: the templates of the records read so far under the ids that
they were given, and the data records for which the values stand. -/
structure Loaded (m : MnslpIpfixMessage) (content : IpfixContent) (known : List TemplateRecord) (records : List IpfixDataRecord)
    (current : MnslpIpfixMessage) (t : IpfixT) : Prop where
  live : current.message = .live t
  header : t = {content.header (headerOrder m.encodeNetwork) with templates := t.templates}
  templates id : t.templates.find id =
    (TemplateRecord.held known.reverse id).map fun record => {record.template m.encodeNetwork with tid := id}
  last : current.gLasttid.toNat = 255 + known.length
  network : current.encodeNetwork = m.encodeNetwork
  data : current.dataList = m.dataList ++ records

namespace Loaded
variable {m current : MnslpIpfixMessage} {content : IpfixContent} {known : List TemplateRecord} {records : List IpfixDataRecord}
  {t : IpfixT}

theorem version (loaded : Loaded m content known records current t) : t.version = ipfixVersion := by
  rw [loaded.header]
  rfl

/-- The next id is free. -/
theorem find_next (loaded : Loaded m content known records current t) {id : UInt16} (next : id.toNat = 256 + known.length) :
    t.templates.find id = none := by
  rw [loaded.templates,TemplateRecord.held_eq_none _ (by rw [List.length_reverse]; omega)]
  rfl

/-- A template record gets the next id. -/
theorem decodeTrecord (loaded : Loaded m content known records current t) (few : 256 + known.length < 2^16)
    {record : TemplateRecord} (wellFormed : record.WellFormed) (later : record.setid ≠ 1) (leftover : Leftover)
    {buffer : Bytes} {pos len : Nat} (stands : Bytes.Stands (record.bytes (headerOrder m.encodeNetwork)) buffer pos)
    (room : record.size ≤ len) : ∃ next t',
      decodeTrecord leftover buffer current record.setid pos len = .ok (next,record.size) ∧
      Loaded m content (known ++ [record]) records next t' := by
  have next : (current.gLasttid + 1).toNat = 256 + known.length := by
    rw [UInt16.toNat_add,loaded.last,UInt16.toNat_one]
    omega
  have fresh : (t.templates.erase record.templid).find (current.gLasttid + 1) = none := by
    cases found : (t.templates.erase record.templid).find (current.gLasttid + 1) with
    | none => rfl
    | some templ =>
      have before := t.templates.find_of_find_erase found
      rw [loaded.find_next next] at before
      cases before
  rw [← loaded.network] at stands
  obtain ⟨templates,decoded,found,others⟩ := decodeTrecord_stands wellFormed later loaded.live fresh leftover stands room
  refine ⟨_,_,decoded,rfl,?_,fun id => ?_,?_,loaded.network,loaded.data⟩
  · rw [loaded.header]
  · dsimp only
    rw [TemplateRecord.held_concat]
    by_cases newest : id = current.gLasttid + 1
    · rw [newest,found,if_pos next,loaded.network]
      rfl
    · have older : id.toNat ≠ 256 + known.length := fun same => newest (UInt16.toNat_inj.mp (same.trans next.symm))
      rw [others id newest,if_neg older]
      by_cases named : id = record.templid
      · rw [if_pos named,named,t.templates.find_erase_self]
        rfl
      · rw [if_neg named,t.templates.find_erase_other _ _ (TemplateContainer.rank_ne named),loaded.templates]
  · dsimp only
    rw [next,List.length_append,List.length_singleton]
    omega

theorem take (loaded : Loaded m content known records current t) (record : IpfixDataRecord) :
    Loaded m content known (records ++ [record]) {current with dataList := current.dataList ++ [record]} t := by
  refine ⟨loaded.live,loaded.header,loaded.templates,loaded.last,loaded.network,?_⟩
  dsimp only
  rw [loaded.data,List.append_assoc]

end Loaded

namespace ImportState
variable {input : ImportInput} {m : MnslpIpfixMessage} {content : IpfixContent} {known : List TemplateRecord}
  {records : List IpfixDataRecord} {s : ImportState} {t : IpfixT}

theorem step_known (loaded : Loaded m content known records s.m t) (few : 256 + known.length < 2^16) {record : TemplateRecord}
    {offset left : Nat} (same : record.setid = s.setid) (wellFormed : record.WellFormed) (later : s.setid ≠ 1)
    (point : s.point = .templates offset (record.size + left))
    (stands : Bytes.Stands (record.bytes (headerOrder m.encodeNetwork)) input.buffer offset) :
    ∃ next t', machine input s = .inl {s with m := next, point := .templates (offset + record.size) left} ∧
      Loaded m content (known ++ [record]) records next t' := by
  have size := wellFormed.size_ge
  obtain ⟨next,t',decoded,still⟩ := loaded.decodeTrecord few wellFormed (same ▸ later) input.leftover stands
    (Nat.le_add_right record.size left)
  refine ⟨next,t',machine_inl.mpr ?_,still⟩
  unfold step
  rw [point]
  dsimp only
  rw [if_pos (by omega),← same,decoded,ok_bind,Nat.add_sub_cancel_left]
  rfl

theorem reaches_known {padding : Nat} (short : input.messageLength < 2^16) (added : List TemplateRecord) :
    ∀ (s : ImportState) (t : IpfixT) (known : List TemplateRecord) (offset : Nat), Loaded m content known records s.m t →
      8 * known.length ≤ offset →
      s.point = .templates offset ((IpfixSet.templateBytes (headerOrder m.encodeNetwork) added).length + padding) →
      Bytes.Stands (IpfixSet.templateBytes (headerOrder m.encodeNetwork) added) input.buffer offset →
      (∀ record ∈ added, record.setid = s.setid ∧ record.WellFormed) → s.setid ≠ 1 →
      ∃ next t', Machine.Reaches (machine input) s {s with
        m := next
        point := .templates (offset + (IpfixSet.templateBytes (headerOrder m.encodeNetwork) added).length) padding } ∧
        Loaded m content (known ++ added) records next t' ∧
        8 * (known ++ added).length ≤ offset + (IpfixSet.templateBytes (headerOrder m.encodeNetwork) added).length := by
  induction added with
  | nil =>
    intro s t known offset loaded small point _ _ _
    have none : (IpfixSet.templateBytes (headerOrder m.encodeNetwork) []).length = 0 := rfl
    rw [none,Nat.zero_add] at point
    rw [none,Nat.add_zero,List.append_nil,← point]
    exact ⟨s.m,t,.refl s,loaded,small⟩
  | cons record rest ih =>
    intro s t known offset loaded small point stands shapes later
    obtain ⟨same,wellFormed⟩ := shapes record (List.mem_cons_self ..)
    have size := wellFormed.size_ge
    have split : IpfixSet.templateBytes (headerOrder m.encodeNetwork) (record :: rest) =
        record.bytes (headerOrder m.encodeNetwork) ++ IpfixSet.templateBytes (headerOrder m.encodeNetwork) rest :=
      List.flatMap_cons
    have length : (IpfixSet.templateBytes (headerOrder m.encodeNetwork) (record :: rest)).length =
        record.size + (IpfixSet.templateBytes (headerOrder m.encodeNetwork) rest).length := by
      rw [split,List.length_append,record.length_bytes]
    have covered := stands.within (List.ne_nil_of_length_pos (by omega))
    rw [split,Bytes.stands_append,record.length_bytes] at stands
    rw [length] at point covered ⊢
    have inside : offset + record.size ≤ input.messageLength := by
      unfold ImportInput.messageLength
      omega
    rw [Nat.add_assoc] at point
    obtain ⟨middle,t',taken,still⟩ := step_known loaded (by omega) same wellFormed later point stands.1
    obtain ⟨next,t'',reaches,final,bound⟩ := ih {s with
        m := middle
        point := .templates (offset + record.size)
          ((IpfixSet.templateBytes (headerOrder m.encodeNetwork) rest).length + padding) }
      t' (known ++ [record]) (offset + record.size) still (by rw [List.length_append,List.length_singleton]; omega) rfl stands.2
      (fun other member => shapes other (List.mem_cons_of_mem _ member)) later
    rw [List.append_assoc,List.singleton_append] at final bound
    rw [← Nat.add_assoc]
    exact ⟨next,t'',.head taken reaches,final,bound⟩

/-- What is left of the set is no record. -/
def AtSetEnd (s : ImportState) : Prop :=
  match s.point with
  | .sets => False
  | .templates _ bytesleft => bytesleft ≤ 4
  | .records _ _ bytesleft => bytesleft = 0

theorem step_close (input : ImportInput) {s : ImportState} (atEnd : s.AtSetEnd) (inside : s.nread + s.setlen.toNat < 2^31) :
    machine input s = .inl {s with nread := s.nread + s.setlen.toNat, i := s.i + 1, point := .sets} := by
  have closed : s.closeSet = .ok {s with nread := s.nread + s.setlen.toNat, i := s.i + 1, point := .sets} := by
    rw [closeSet,addInt,if_pos inside]
    rfl
  unfold AtSetEnd at atEnd
  apply machine_inl.mpr
  cases point : s.point with
  | sets =>
    rw [point] at atEnd
    exact atEnd.elim
  | templates offset bytesleft =>
    rw [point] at atEnd
    unfold step
    rw [point]
    dsimp only at atEnd ⊢
    rw [if_neg (Nat.not_lt.mpr atEnd),closed]
    rfl
  | records templ offset bytesleft =>
    rw [point] at atEnd
    unfold step
    rw [point]
    dsimp only at atEnd ⊢
    rw [if_neg (Nat.not_lt.mpr (Nat.le_of_eq atEnd)),closed]
    rfl

/-- A whole set of template records. -/
theorem reaches_templateSet {setid : UInt16} {added : List TemplateRecord} {padding : Nat} (short : input.messageLength < 2^16)
    (atSets : s.point = .sets) (loaded : Loaded m content known records s.m t) (few : 8 * known.length ≤ s.nread)
    (kind : setid = 2 ∨ setid = 3) (some : added ≠ []) (padded : padding < 4)
    (shapes : ∀ record ∈ added, record.setid = setid ∧ record.WellFormed)
    (stands : Bytes.Stands ((IpfixSet.templates setid added padding).bytes (headerOrder m.encodeNetwork)) input.buffer s.nread) :
    ∃ next t', Machine.Reaches (machine input) s next ∧ next.point = .sets ∧
      next.nread = s.nread + ((IpfixSet.templates setid added padding).bytes (headerOrder m.encodeNetwork)).length ∧
      Loaded m content (known ++ added) records next.m t' ∧ 8 * (known ++ added).length ≤ next.nread := by
  unfold IpfixSet.bytes IpfixSet.body IpfixSet.setid at stands ⊢
  dsimp only at stands ⊢
  have size : (IpfixSet.templateBytes (headerOrder m.encodeNetwork) added ++ List.replicate padding 0).length =
      (IpfixSet.templateBytes (headerOrder m.encodeNetwork) added).length + padding := by
    rw [List.length_append,List.length_replicate]
  have filled : IpfixSet.templateBytes (headerOrder m.encodeNetwork) added ++ List.replicate padding 0 ≠ [] := by
    obtain ⟨record,rest,rfl⟩ := List.exists_cons_of_ne_nil some
    have least := (shapes record (List.mem_cons_self ..)).2.size_ge
    have length : (IpfixSet.templateBytes (headerOrder m.encodeNetwork) (record :: rest)).length =
        record.size + (IpfixSet.templateBytes (headerOrder m.encodeNetwork) rest).length := by
      rw [IpfixSet.templateBytes,List.flatMap_cons,List.length_append,record.length_bytes]
      rfl
    exact List.ne_nil_of_length_pos (by omega)
  obtain ⟨taken,inside⟩ := step_stands short (congrArg headerOrder loaded.network.symm) atSets loaded.live loaded.version stands filled
  rw [readSet_body (by omega) inside] at taken
  have low : setid ≤ 3 := by
    rcases kind with rfl | rfl <;> decide
  have notNf9 : setid ≠ 1 := by
    rcases kind with rfl | rfl <;> decide
  dsimp only at taken
  rw [if_pos low,size] at taken
  have opened := Bytes.stands_append.mp (Bytes.stands_append.mp stands).2
  rw [List.length_append,Bytes.length_encode,Bytes.length_encode] at opened
  obtain ⟨next,t',reaches,final,bound⟩ := reaches_known short added {s with
      setid := setid
      setlen := UInt16.ofNat ((IpfixSet.templateBytes (headerOrder m.encodeNetwork) added).length + padding)
      nread := s.nread + 4
      point := .templates (s.nread + 4) ((IpfixSet.templateBytes (headerOrder m.encodeNetwork) added).length + padding) }
    t known (s.nread + 4) loaded (by omega) rfl opened.1 shapes notNf9
  have left : (UInt16.ofNat ((IpfixSet.templateBytes (headerOrder m.encodeNetwork) added).length + padding)).toNat =
      (IpfixSet.templateBytes (headerOrder m.encodeNetwork) added).length + padding :=
    UInt16.toNat_ofNat_of_lt' (show _ < 2^16 by omega)
  refine ⟨_,t',.head (machine_inl.mpr taken) (reaches.trans (.single (step_close input ?_ ?_))),rfl,?_,final,?_⟩
  · exact Nat.le_of_lt padded
  · dsimp only
    rw [left]
    omega
  · rw [length_setBytes,size,left]
    exact Nat.add_assoc _ _ _
  · dsimp only
    rw [left]
    omega

theorem readable_stands {part : Bytes} {pos setEnd : Nat} (stands : Bytes.Stands part input.buffer pos)
    (inside : pos + part.length ≤ setEnd) : Bytes.Stands part (input.readable setEnd) pos := by
  unfold ImportInput.readable
  split
  · exact stands.take inside
  · exact stands

/-- One row of values. -/
theorem computes_row {templ : TemplateRecord} {values : List Bytes} {offset left : Nat} (loaded : Loaded m content known records s.m t)
    (one : templ.scope = [] ∨ templ.data = []) (allows : List.Forall₂ FieldSpecifier.Allows templ.specifiers values)
    (some : IpfixSet.dataBytes (headerOrder m.encodeNetwork) templ values ≠ [])
    (point : s.point = .records (templ.template m.encodeNetwork) offset
      ((IpfixSet.dataBytes (headerOrder m.encodeNetwork) templ values).length + left))
    (stands : Bytes.Stands (IpfixSet.dataBytes (headerOrder m.encodeNetwork) templ values) input.buffer offset)
    (inside : offset + (IpfixSet.dataBytes (headerOrder m.encodeNetwork) templ values).length ≤ s.nread + s.setlen.toNat) :
    Machine.Computes (machine input) s (templ.recordOf m.encodeNetwork values) fun record final => ∃ next, final = {s with
      m := next
      point := .records (templ.template m.encodeNetwork)
        (offset + (IpfixSet.dataBytes (headerOrder m.encodeNetwork) templ values).length) left } ∧
      Loaded m content known (records ++ [record]) next t := by
  have long := List.length_pos_iff.mpr some
  have decoded := decodeDatarecord_stands one allows (readable_stands stands inside) (Nat.le_add_right _ left)
  have taken : s.step input = do
      let record ← templ.recordOf m.encodeNetwork values
      return .inl {s with
        m := {s.m with dataList := s.m.dataList ++ [record]}
        point := .records (templ.template m.encodeNetwork)
          (offset + (IpfixSet.dataBytes (headerOrder m.encodeNetwork) templ values).length) left } := by
    unfold step
    rw [point]
    dsimp only
    rw [if_pos (by omega),loaded.network,decoded]
    simp only [bind_assoc,pure_eq,ok_bind,Nat.add_sub_cancel_left]
  cases made : templ.recordOf m.encodeNetwork values with
  | error stop =>
    rw [made] at taken
    exact .failed (machine_inr.mpr taken)
  | ok record =>
    rw [made] at taken
    exact .behind (.single (machine_inl.mpr taken)) (.here ⟨_,rfl,loaded.take record⟩)

theorem computes_rows {templ : TemplateRecord} {left : Nat} (one : templ.scope = [] ∨ templ.data = []) (rows : List (List Bytes)) :
    ∀ (s : ImportState) (records : List IpfixDataRecord) (offset : Nat), Loaded m content known records s.m t →
      s.point = .records (templ.template m.encodeNetwork) offset
        ((rows.flatMap (IpfixSet.dataBytes (headerOrder m.encodeNetwork) templ)).length + left) →
      Bytes.Stands (rows.flatMap (IpfixSet.dataBytes (headerOrder m.encodeNetwork) templ)) input.buffer offset →
      offset + (rows.flatMap (IpfixSet.dataBytes (headerOrder m.encodeNetwork) templ)).length ≤ s.nread + s.setlen.toNat →
      (∀ values ∈ rows, List.Forall₂ FieldSpecifier.Allows templ.specifiers values ∧
        ∀ order, IpfixSet.dataBytes order templ values ≠ []) →
      Machine.Computes (machine input) s (rows.mapM (templ.recordOf m.encodeNetwork)) fun more final => ∃ next, final = {s with
        m := next
        point := .records (templ.template m.encodeNetwork)
          (offset + (rows.flatMap (IpfixSet.dataBytes (headerOrder m.encodeNetwork) templ)).length) left } ∧
        Loaded m content known (records ++ more) next t := by
  induction rows with
  | nil =>
    intro s records offset loaded point _ _ _
    rw [List.mapM_nil]
    refine .here ⟨s.m,?_,?_⟩
    · rw [List.flatMap_nil,List.length_nil,Nat.zero_add] at point
      rw [List.flatMap_nil,List.length_nil,Nat.add_zero,← point]
    · rw [List.append_nil]
      exact loaded
  | cons values rest ih =>
    intro s records offset loaded point stands inside shapes
    obtain ⟨allows,some⟩ := shapes values (List.mem_cons_self ..)
    rw [List.flatMap_cons,List.length_append] at point inside ⊢
    rw [Nat.add_assoc] at point
    rw [List.flatMap_cons,Bytes.stands_append] at stands
    rw [List.mapM_cons]
    refine (computes_row loaded one allows (some _) point stands.1 (by omega)).bind ?_
    rintro record middle ⟨next,rfl,still⟩
    refine (ih _ (records ++ [record]) (offset + (IpfixSet.dataBytes (headerOrder m.encodeNetwork) templ values).length)
      still rfl stands.2 (by dsimp only; omega) fun other member => shapes other (List.mem_cons_of_mem _ member)).bind ?_
    rintro more final ⟨last,rfl,ended⟩
    refine .here ⟨last,?_,?_⟩
    · rw [Nat.add_assoc]
    · rw [List.append_assoc,List.singleton_append] at ended
      exact ended

/-- The template of a data set is looked for, and its records are read up to the end of the set. -/
theorem step_dataSet {setid : UInt16} {body : Bytes} (short : input.messageLength < 2^16) (atSets : s.point = .sets)
    (loaded : Loaded m content known records s.m t) (high : 255 < setid) (some : body ≠ [])
    (stands : Bytes.Stands (setBytes (headerOrder m.encodeNetwork) setid body) input.buffer s.nread) :
    s.step input = (do
      let templ ← t.templates.getTemplate setid
      return .inl {s with
        setid := setid
        setlen := UInt16.ofNat body.length
        nread := s.nread + 4
        point := .records templ (s.nread + 4) body.length }) ∧
    (UInt16.ofNat body.length).toNat = body.length ∧ s.nread + 4 + body.length ≤ input.messageLength := by
  obtain ⟨taken,inside⟩ := step_stands short (congrArg headerOrder loaded.network.symm) atSets loaded.live loaded.version stands some
  rw [readSet_body (by omega) inside] at taken
  have low : ¬ setid ≤ 3 := by
    rw [UInt16.le_iff_toNat_le]
    rw [UInt16.lt_iff_toNat_lt] at high
    change 255 < setid.toNat at high
    change ¬ setid.toNat ≤ 3
    omega
  dsimp only at taken
  rw [if_neg low,if_pos high] at taken
  exact ⟨taken,UInt16.toNat_ofNat_of_lt' (show _ < 2^16 by omega),inside⟩

theorem rows_ne_nil {templ : TemplateRecord} {rows : List (List Bytes)} {order : ByteOrder} (some : rows ≠ [])
    (filled : ∀ values ∈ rows, IpfixSet.dataBytes order templ values ≠ []) :
    rows.flatMap (IpfixSet.dataBytes order templ) ≠ [] := by
  obtain ⟨values,rest,rfl⟩ := List.exists_cons_of_ne_nil some
  rw [List.flatMap_cons]
  exact List.append_ne_nil_of_left_ne_nil (filled values (List.mem_cons_self ..)) _

/-- The rows of a data set of a template that is held, up to the padding. -/
theorem computes_dataRows {templ : TemplateRecord} {rows : List (List Bytes)} {padding : Nat} (short : input.messageLength < 2^16)
    (atSets : s.point = .sets) (loaded : Loaded m content known records s.m t)
    (stored : TemplateRecord.held known.reverse templ.templid = some templ) (high : 255 < templ.templid)
    (one : templ.scope = [] ∨ templ.data = []) (some : rows ≠ [])
    (shapes : ∀ values ∈ rows, List.Forall₂ FieldSpecifier.Allows templ.specifiers values ∧
      ∀ order, IpfixSet.dataBytes order templ values ≠ [])
    (stands : Bytes.Stands ((IpfixSet.data templ rows padding).bytes (headerOrder m.encodeNetwork)) input.buffer s.nread) :
    Machine.Computes (machine input) s (rows.mapM (templ.recordOf m.encodeNetwork)) fun more final =>
      (∃ offset, final.point = .records (templ.template m.encodeNetwork) offset padding) ∧
      final.nread + final.setlen.toNat =
        s.nread + ((IpfixSet.data templ rows padding).bytes (headerOrder m.encodeNetwork)).length ∧
      final.nread + final.setlen.toNat ≤ input.messageLength ∧ Loaded m content known (records ++ more) final.m t := by
  have filled := List.append_ne_nil_of_left_ne_nil (rows_ne_nil some fun values member =>
    (shapes values member).2 (headerOrder m.encodeNetwork)) (List.replicate padding (0 : UInt8))
  obtain ⟨taken,left,inside⟩ := step_dataSet short atSets loaded high filled stands
  have found := loaded.templates templ.templid
  rw [stored] at found
  rw [TemplateContainer.getTemplate_of_find found,ok_bind] at taken
  have opened := (Bytes.stands_append.mp stands).2
  rw [List.length_append,Bytes.length_encode,Bytes.length_encode] at opened
  unfold IpfixSet.bytes IpfixSet.body IpfixSet.setid
  dsimp only
  refine .behind (.single (machine_inl.mpr taken)) ?_
  rw [← bind_pure (rows.mapM _)]
  refine (computes_rows one rows {s with
      setid := templ.templid
      setlen := UInt16.ofNat (rows.flatMap (IpfixSet.dataBytes (headerOrder m.encodeNetwork) templ) ++ List.replicate padding 0).length
      nread := s.nread + 4
      point := .records (templ.template m.encodeNetwork) (s.nread + 4)
        (rows.flatMap (IpfixSet.dataBytes (headerOrder m.encodeNetwork) templ) ++ List.replicate padding 0).length }
    records (s.nread + 4) loaded (by rw [List.length_append,List.length_replicate]) (Bytes.stands_append.mp opened).1 ?_
    shapes).bind ?_
  · dsimp only
    rw [left,List.length_append]
    omega
  rintro more middle ⟨next,rfl,still⟩
  refine .here ⟨⟨_,rfl⟩,?_,?_,still⟩
  · dsimp only
    rw [length_setBytes,left]
    exact Nat.add_assoc _ _ _
  · dsimp only
    rw [left]
    exact inside

/-- A whole data set without padding. -/
theorem computes_dataSet {templ : TemplateRecord} {rows : List (List Bytes)} (short : input.messageLength < 2^16)
    (atSets : s.point = .sets) (loaded : Loaded m content known records s.m t)
    (stored : TemplateRecord.held known.reverse templ.templid = some templ) (high : 255 < templ.templid)
    (one : templ.scope = [] ∨ templ.data = []) (some : rows ≠ [])
    (shapes : ∀ values ∈ rows, List.Forall₂ FieldSpecifier.Allows templ.specifiers values ∧
      ∀ order, IpfixSet.dataBytes order templ values ≠ [])
    (stands : Bytes.Stands ((IpfixSet.data templ rows 0).bytes (headerOrder m.encodeNetwork)) input.buffer s.nread) :
    Machine.Computes (machine input) s (rows.mapM (templ.recordOf m.encodeNetwork)) fun more final => final.point = .sets ∧
      final.nread = s.nread + ((IpfixSet.data templ rows 0).bytes (headerOrder m.encodeNetwork)).length ∧
      Loaded m content known (records ++ more) final.m t := by
  rw [← bind_pure (rows.mapM _)]
  refine (computes_dataRows short atSets loaded stored high one some shapes stands).bind ?_
  rintro more middle ⟨⟨offset,point⟩,covered,inside,still⟩
  have atEnd : middle.AtSetEnd := by
    unfold AtSetEnd
    rw [point]
  exact .behind (.single (step_close input atEnd (by omega))) (.here ⟨rfl,covered,still⟩)

theorem computes_sets (short : input.messageLength < 2^16) (legible : content.Legible) (sets : List IpfixSet) :
    ∀ (before : List IpfixSet) (s : ImportState) (t : IpfixT) (records : List IpfixDataRecord), content.sets = before ++ sets →
      Loaded m content (before.flatMap IpfixSet.templateRecords) records s.m t →
      8 * (before.flatMap IpfixSet.templateRecords).length ≤ s.nread → s.point = .sets →
      Bytes.Stands (sets.flatMap (IpfixSet.bytes (headerOrder m.encodeNetwork))) input.buffer s.nread →
      Machine.Computes (machine input) s
        ((sets.flatMap IpfixSet.dataRecords).mapM fun source => source.1.recordOf m.encodeNetwork source.2) fun more final =>
        final.point = .sets ∧
        final.nread = s.nread + (sets.flatMap (IpfixSet.bytes (headerOrder m.encodeNetwork))).length ∧
        ∃ t', Loaded m content content.templateRecords (records ++ more) final.m t' := by
  induction sets with
  | nil =>
    intro before s t records split loaded _ atSets _
    rw [List.append_nil] at split
    rw [List.flatMap_nil,List.mapM_nil]
    refine .here ⟨atSets,rfl,t,?_⟩
    rw [List.append_nil,IpfixContent.templateRecords,split]
    exact loaded
  | cons set rest ih =>
    intro before s t records split loaded few atSets stands
    have shape := legible.sets before rest set split
    have next : content.sets = (before ++ [set]) ++ rest := by rw [split,List.append_assoc,List.singleton_append]
    have templates : (before ++ [set]).flatMap IpfixSet.templateRecords =
        before.flatMap IpfixSet.templateRecords ++ set.templateRecords := by
      rw [List.flatMap_append,List.flatMap_singleton]
    rw [List.flatMap_cons,Bytes.stands_append] at stands
    have behind (more : List IpfixDataRecord) (middle : ImportState) (t' : IpfixT)
        (still : Loaded m content (before.flatMap IpfixSet.templateRecords ++ set.templateRecords) (records ++ more) middle.m t')
        (bound : 8 * (before.flatMap IpfixSet.templateRecords ++ set.templateRecords).length ≤ middle.nread)
        (point : middle.point = .sets) (nread : middle.nread = s.nread + (set.bytes (headerOrder m.encodeNetwork)).length) :=
      ih (before ++ [set]) middle t' (records ++ more) next (by rw [templates]; exact still) (by rw [templates]; exact bound) point
        (by rw [nread]; exact stands.2)
    rw [List.flatMap_cons,List.mapM_append]
    simp only [List.flatMap_cons,List.length_append]
    cases set with
    | templates setid added padding =>
      obtain ⟨kind,some,padded,each⟩ := shape
      obtain ⟨middle,t',reaches,point,nread,still,bound⟩ := reaches_templateSet short atSets loaded few kind some padded
        (fun record member => ⟨(each record member).1,(each record member).2.1⟩) stands.1
      have rounds := behind [] middle t' (by rw [List.append_nil]; exact still) bound point nread
      rw [nread] at rounds
      change Machine.Computes _ _ (do
        let none ← (.ok [] : Call (List IpfixDataRecord))
        let more ← (rest.flatMap IpfixSet.dataRecords).mapM fun source => source.1.recordOf m.encodeNetwork source.2
        return none ++ more) _
      rw [ok_bind]
      refine .behind reaches (rounds.bind ?_)
      rintro more final ⟨atEnd,read,t'',ended⟩
      refine .here ⟨atEnd,by rw [read,Nat.add_assoc],t'',?_⟩
      rw [List.append_nil] at ended
      exact ended
    | data templ rows padding =>
      obtain ⟨_,high,some,_,each⟩ := shape
      obtain ⟨rfl,one⟩ := legible.packed templ rows padding (by rw [split]; exact List.mem_append_right _ List.mem_cons_self)
      have first := computes_dataSet short atSets loaded (legible.held before rest templ rows 0 split) high one some each stands.1
      change Machine.Computes _ _ (do
        let more ← (rows.map fun values => (templ,values)).mapM fun source => source.1.recordOf m.encodeNetwork source.2
        let others ← (rest.flatMap IpfixSet.dataRecords).mapM fun source => source.1.recordOf m.encodeNetwork source.2
        return more ++ others) _
      rw [List.mapM_map]
      refine first.bind ?_
      rintro more middle ⟨point,nread,still⟩
      have rounds := behind more middle t (by rw [show (IpfixSet.data templ rows 0).templateRecords = [] from rfl,List.append_nil]; exact still)
        (by rw [show (IpfixSet.data templ rows 0).templateRecords = [] from rfl,List.append_nil,nread]; omega) point nread
      refine rounds.bind ?_
      rintro others final ⟨atEnd,read,t'',ended⟩
      refine .here ⟨atEnd,by rw [read,nread,Nat.add_assoc],t'',?_⟩
      rw [List.append_assoc] at ended
      exact ended

/-- Up to 4 bytes behind the sets are no set. -/
theorem step_end (s : ImportState) {t : IpfixT} (short : input.messageLength < 2^16) (live : s.m.message = .live t)
    (atSets : s.point = .sets) (inside : s.nread ≤ input.messageLength) (atEnd : input.messageLength ≤ s.nread + 4) :
    s.step input = (do return .inr (← s.finish input)) := by
  unfold step openSet
  rw [atSets]
  dsimp only
  rw [addInt,if_pos (by omega),ok_bind,MnslpIpfixMessage.liveMessage_eq_ok live,ok_bind,if_pos (by omega)]

end ImportState

namespace IpfixContent
variable {content : IpfixContent} {m : MnslpIpfixMessage}

/-- The message that the import leaves behind `m`: the templates under their ids, and the records behind
those that there were. -/
structure ReadInto (content : IpfixContent) (m : MnslpIpfixMessage) (records : List IpfixDataRecord) (next : MnslpIpfixMessage)
    (t : IpfixT) : Prop where
  live : next.message = .live t
  version : t.version = ipfixVersion
  sourceid : t.sourceid = content.sourceid
  exporttime : t.exporttime = content.exporttime
  seqno : t.seqno = content.seqno
  length : t.length = UInt16.ofNat (content.bytes (headerOrder m.encodeNetwork)).length
  nrecords : t.nrecords = next.dataList.length
  buffer : t.buffer = content.bytes (headerOrder m.encodeNetwork)
  bufferLenght : t.bufferLenght = ipfixDefaultBuflen
  templates id : t.templates.find id =
    (content.templateRecords.find? fun record => decide (record.templid = id)).map (TemplateRecord.template m.encodeNetwork)
  dataList : next.dataList = m.dataList ++ records

section
variable {input : ImportInput} {padding : Bytes} (short : input.messageLength < 2^16)
  (same : input.buffer = content.bytes (headerOrder m.encodeNetwork) ++ padding)
include short same

theorem importStart_loaded : ∃ s t, importStart input m = .ok s ∧ s.point = .sets ∧ s.nread = 16 ∧
    Loaded m content [] [] s.m t ∧ Bytes.Stands (content.body (headerOrder m.encodeNetwork)) input.buffer 16 := by
  have stands : Bytes.Stands (content.bytes (headerOrder m.encodeNetwork)) input.buffer 0 := by
    rw [same]
    exact List.prefix_append _ _
  unfold bytes at stands
  simp only [Bytes.stands_append,List.length_append,Bytes.length_encode] at stands
  obtain ⟨⟨⟨⟨⟨version,length⟩,exporttime⟩,seqno⟩,sourceid⟩,body⟩ := stands
  have long : 16 + (content.body (headerOrder m.encodeNetwork)).length + padding.length = input.messageLength := by
    unfold ImportInput.messageLength
    rw [same,List.length_append,length_bytes]
  have signed : ((input.messageLength : Int).bmod (2^32)) = input.messageLength := by
    apply Int.bmod_eq_of_le <;> omega
  have small : 16 + (content.body (headerOrder m.encodeNetwork)).length < 2^16 := by omega
  have parsed : ∃ next, parseHdr input m = .ok next ∧ Loaded m content [] [] next (content.header (headerOrder m.encodeNetwork)) := by
    unfold parseHdr
    rw [signed]
    dsimp only
    rw [readU16_stands (by decide) version,ok_bind,if_neg (by decide),if_pos rfl,if_neg (by omega)]
    rw [readU16_stands small length,ok_bind,readU32_stands content.exporttime.toNat_lt exporttime,ok_bind,
      readU32_stands content.seqno.toNat_lt seqno,ok_bind,
      readU32_stands content.sourceid.toNat_lt sourceid,ok_bind]
    refine ⟨_,rfl,?_,rfl,fun _ => rfl,rfl,rfl,?_⟩
    · simp only [UInt32.ofNat_toNat,header,length_bytes]
    · exact (List.append_nil _).symm
  obtain ⟨next,parsed,loaded⟩ := parsed
  refine ⟨⟨next,0,16,input.leftover.setid,input.leftover.setlen,.sets⟩,_,?_,rfl,rfl,loaded,body⟩
  unfold importStart
  rw [if_neg (by omega),parsed,ok_bind,MnslpIpfixMessage.liveMessage_eq_ok loaded.live,ok_bind]
  dsimp only
  rw [loaded.version,if_neg (by decide),if_pos rfl]
  rfl

omit short in
theorem finish_eq {s : ImportState} {t : IpfixT} {known : List TemplateRecord} {records : List IpfixDataRecord}
    (loaded : Loaded m content known records s.m t)
    (atEnd : s.nread = (content.bytes (headerOrder m.encodeNetwork)).length) : s.finish input =
      if (content.bytes (headerOrder m.encodeNetwork)).length ≤ ipfixDefaultBuflen then
        let offset := (((s.nread : Int) - s.setlen.toNat) % 2^64).toNat
        let t := {t with buffer := content.bytes (headerOrder m.encodeNetwork)}
        let t := if s.setid > 255 then
            {t with csTid := s.setid.toNat, csBytes := s.setlen.toNat, csOffset := offset, csHeader := some offset}
          else t
        .ok ({s.m with message := .live {t with nrecords := s.m.dataList.length}, requireOutput := false},s.nread)
      else fault .writeBeyondBuffer := by
  have whole : input.buffer.take s.nread = content.bytes (headerOrder m.encodeNetwork) := by
    rw [atEnd,same,List.take_left]
  have copied : t.copyRawMessage (content.bytes (headerOrder m.encodeNetwork)) =
      if (content.bytes (headerOrder m.encodeNetwork)).length > ipfixDefaultBuflen then fault .writeBeyondBuffer
      else .ok {t with buffer := content.bytes (headerOrder m.encodeNetwork)} :=
    ImportState.copyRawMessage_new (by rw [loaded.header]; rfl) (by rw [loaded.header]; rfl) _
  unfold ImportState.finish
  rw [MnslpIpfixMessage.liveMessage_eq_ok loaded.live,ok_bind,whole,copied]
  by_cases small : (content.bytes (headerOrder m.encodeNetwork)).length ≤ ipfixDefaultBuflen
  · rw [if_pos small,if_neg (Nat.not_lt.mpr small),ok_bind]
    rfl
  · rw [if_neg small,if_pos (Nat.lt_of_not_le small)]
    rfl

omit short in
theorem finish_loaded {s : ImportState} {t : IpfixT} {records : List IpfixDataRecord} (regular : content.Regular)
    (loaded : Loaded m content content.templateRecords records s.m t)
    (atEnd : s.nread = (content.bytes (headerOrder m.encodeNetwork)).length) :
    if (content.bytes (headerOrder m.encodeNetwork)).length ≤ ipfixDefaultBuflen then
      ∃ next t', s.finish input = .ok (next,(content.bytes (headerOrder m.encodeNetwork)).length) ∧
        content.ReadInto m records next t'
    else s.finish input = fault .writeBeyondBuffer := by
  have stored (id : UInt16) : t.templates.find id =
      (content.templateRecords.find? fun record => decide (record.templid = id)).map (TemplateRecord.template m.encodeNetwork) := by
    rw [loaded.templates,TemplateRecord.held_eq_find regular.numbered]
    refine Option.map_congr fun record found => ?_
    have bears := List.find?_some found
    rw [decide_eq_true_eq] at bears
    rw [← bears]
    rfl
  rw [finish_eq same loaded atEnd]
  by_cases small : (content.bytes (headerOrder m.encodeNetwork)).length ≤ ipfixDefaultBuflen
  · rw [if_pos small,if_pos small,atEnd]
    refine ⟨_,_,rfl,rfl,?_,?_,?_,?_,?_,rfl,?_,?_,fun id => ?_,loaded.data⟩
    · split <;> exact loaded.version
    · split <;> exact congrArg IpfixT.sourceid loaded.header
    · split <;> exact congrArg IpfixT.exporttime loaded.header
    · split <;> exact congrArg IpfixT.seqno loaded.header
    · split <;> exact congrArg IpfixT.length loaded.header
    · split <;> rfl
    · split <;> exact congrArg IpfixT.bufferLenght loaded.header
    · split <;> exact stored id
  · rw [if_neg small,if_neg small]

/-- From the start to the end of the sets. -/
theorem import_computes (legible : content.Legible) : ∃ s, importStart input m = .ok s ∧
    Machine.Computes (ImportState.machine input) s (content.meaning m.encodeNetwork) fun records final =>
      final.point = .sets ∧ final.nread = (content.bytes (headerOrder m.encodeNetwork)).length ∧
      ∃ t, Loaded m content content.templateRecords records final.m t := by
  obtain ⟨s,t,started,atSets,nread,loaded,stands⟩ := importStart_loaded short same
  rw [← nread] at stands
  have computes := ImportState.computes_sets short legible content.sets [] s t [] rfl loaded (Nat.zero_le _) atSets stands
  rw [nread] at computes
  rw [length_bytes]
  exact ⟨s,started,computes⟩

theorem imported_of_meaning (regular : content.Regular) (few : padding.length ≤ 4) {records : List IpfixDataRecord}
    (said : content.meaning m.encodeNetwork = .ok records) :
    if (content.bytes (headerOrder m.encodeNetwork)).length ≤ ipfixDefaultBuflen then
      ∃ next t, mnslpIpfixImport input m = some (.ok (next,(content.bytes (headerOrder m.encodeNetwork)).length)) ∧
        content.ReadInto m records next t
    else mnslpIpfixImport input m = some (fault .writeBeyondBuffer) := by
  obtain ⟨s,started,computes⟩ := import_computes short same regular.legible
  rw [said] at computes
  obtain ⟨final,reaches,point,atEnd,t,ended⟩ := computes
  have whole : input.messageLength = (content.bytes (headerOrder m.encodeNetwork)).length + padding.length := by
    unfold ImportInput.messageLength
    rw [same,List.length_append]
  have taken := final.step_end (by omega) ended.live point (by omega) (by omega)
  have finished := finish_loaded same regular ended atEnd
  by_cases fits : (content.bytes (headerOrder m.encodeNetwork)).length ≤ ipfixDefaultBuflen
  · rw [if_pos fits] at finished ⊢
    obtain ⟨next,t',made,into⟩ := finished
    rw [made] at taken
    exact ⟨next,t',import_of_reaches started reaches (ImportState.machine_inr.mpr taken),into⟩
  · rw [if_neg fits] at finished ⊢
    rw [finished] at taken
    exact import_of_reaches started reaches (ImportState.machine_inr.mpr taken)

end

/-- A counter and a label of any length. -/
def labelled : TemplateRecord := ⟨2,256,[],[TemplateRecord.octetDeltaCount 8,⟨none,70,ipfixFtVarlen,by decide⟩]⟩

/-- The same counter as the scope of an option. -/
def counterScope : TemplateRecord := ⟨3,257,[TemplateRecord.octetDeltaCount 8],[]⟩

/-- Two templates, the second with two bytes of padding, and two records of the first. -/
def labels : IpfixContent := ⟨60,1,7,[.templates 2 [labelled] 0,.templates 3 [counterScope] 2,
  .data labelled [[[0,0,0,0,0,0,0,9],[1,2]],[[0,0,0,0,0,0,1,0],[]]] 0]⟩

end IpfixContent
end Mnslp.Msg
