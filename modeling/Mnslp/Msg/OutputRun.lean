import Mnslp.Msg.OutputSteps

/-! A whole output: the records of a template, the sets of the templates and the header, with the
sizes for which each of them returns. -/
namespace Mnslp.Msg
open Mnslp.Lib Call

namespace IpfixTemplate

def recordsIn (dataList : List IpfixDataRecord) (templ : IpfixTemplate) : List IpfixDataRecord :=
  dataList.filter fun record => decide (record.templateId = templ.tid)

theorem mem_recordsIn {dataList : List IpfixDataRecord} {templ : IpfixTemplate} {record : IpfixDataRecord} :
    record ∈ templ.recordsIn dataList ↔ record ∈ dataList ∧ record.templateId = templ.tid := by
  rw [recordsIn,List.mem_filter,decide_eq_true_eq]

end IpfixTemplate

/-- There is room for records of the given sizes one behind the other. -/
def recordsFit (limit head : Nat) : Nat → Nat → List Nat → Prop
  | _, _, [] => True
  | offset, seen, span :: rest =>
    (offset + head + span ≤ limit ∧ seen + span + 2 * offset ≤ 2 * limit) ∧
      recordsFit limit head (offset + head + span) (seen + span) rest

section
variable {encodeNetwork : Bool} {t : IpfixT} {templ : IpfixTemplate} {seen : Nat}

theorem foldlM_recordsIn (newset : Bool) (dataList : List IpfixDataRecord) (state : IpfixT × Nat) :
    dataList.foldlM (outputRecord encodeNetwork newset templ) state =
      (templ.recordsIn dataList).foldlM (outputRecord encodeNetwork newset templ) state := by
  induction dataList generalizing state with
  | nil => rfl
  | cons record rest ih =>
    unfold IpfixTemplate.recordsIn at ih ⊢
    rw [List.foldlM_cons,List.filter_cons]
    by_cases mine : record.templateId = templ.tid
    · rw [decide_eq_true mine,if_pos rfl,List.foldlM_cons]
      exact bind_congr ih
    · rw [outputRecord_other mine,ok_bind,decide_eq_false mine,ih]
      rfl

theorem offset_record {t' : IpfixT} {order : ByteOrder} {record : IpfixDataRecord}
    (writable : IpfixDataRecord.Writable templ record) (grows : t.Grows t' [] (IpfixDataRecord.writtenSet order templ record)) :
    t'.offset = t.offset + templ.headBytes + IpfixDataRecord.valuesSpan templ record := by
  rw [grows.offset,length_writtenSet order writable,List.length_nil,Nat.zero_add,Nat.add_assoc]

theorem outputRecords_grows (idle : t.Idle) (one : templ.OneKind) (records : List IpfixDataRecord)
    (mine : ∀ record ∈ records, record.templateId = templ.tid)
    (writable : ∀ record ∈ records, IpfixDataRecord.Writable templ record)
    (fits : recordsFit t.bufferLenght templ.headBytes t.offset seen (records.map (IpfixDataRecord.valuesSpan templ))) :
    ∃ final, records.foldlM (outputRecord encodeNetwork (decide (templ.tid.toNat ≠ 0)) templ) (t,seen) = .ok final ∧
      t.Grows final.1 [] (records.flatMap (IpfixDataRecord.writtenSet (headerOrder encodeNetwork) templ)) ∧
      final.1.templates = t.templates := by
  induction records generalizing t seen with
  | nil => exact ⟨_,rfl,.refl idle,rfl⟩
  | cons record rest ih =>
    obtain ⟨room,behind⟩ := fits
    obtain ⟨next,first,grows,templates⟩ := outputRecord_grows encodeNetwork idle
      (mine record List.mem_cons_self) one (writable record List.mem_cons_self) room
    rw [← offset_record (writable record List.mem_cons_self) grows,← grows.bufferLenght] at behind
    obtain ⟨final,later,grown,kept⟩ := ih grows.toIdle (fun other member => mine other (List.mem_cons_of_mem _ member))
      (fun other member => writable other (List.mem_cons_of_mem _ member)) behind
    refine ⟨final,?_,grows.trans grown,kept.trans templates⟩
    rw [List.foldlM_cons,first,ok_bind]
    exact later

theorem of_outputRecords (idle : t.Idle) {records : List IpfixDataRecord} {final : IpfixT × Nat}
    (mine : ∀ record ∈ records, record.templateId = templ.tid)
    (ended : records.foldlM (outputRecord encodeNetwork (decide (templ.tid.toNat ≠ 0)) templ) (t,seen) = .ok final) :
    (records ≠ [] → templ.OneKind) ∧ (∀ record ∈ records, IpfixDataRecord.Writable templ record) ∧
      recordsFit t.bufferLenght templ.headBytes t.offset seen (records.map (IpfixDataRecord.valuesSpan templ)) := by
  induction records generalizing t seen with
  | nil => exact ⟨fun some => absurd rfl some,fun _ none => absurd none List.not_mem_nil,trivial⟩
  | cons record rest ih =>
    rw [List.foldlM_cons] at ended
    obtain ⟨next,first,later⟩ := bind_eq_ok.mp ended
    obtain ⟨one,writable,room⟩ := of_outputRecord (mine record List.mem_cons_self) rfl first
    obtain ⟨next',taken,grows,_⟩ := outputRecord_grows encodeNetwork idle
      (mine record List.mem_cons_self) one writable room
    cases first.symm.trans taken
    obtain ⟨_,others,behind⟩ := ih grows.toIdle (fun other member => mine other (List.mem_cons_of_mem _ member)) later
    rw [offset_record writable grows,grows.bufferLenght] at behind
    exact ⟨fun _ => one,List.forall_mem_cons.mpr ⟨writable,others⟩,room,behind⟩

end

namespace IpfixTemplate

/-- What the template puts in front of the buffer, once. -/
def frontSet (order : ByteOrder) (version : UInt16) (templ : IpfixTemplate) : Bytes :=
  if templ.tsend = 0 then templ.templateSet order version else []

def frontBytes (templ : IpfixTemplate) : Nat := if templ.tsend = 0 then templ.setBytes else 0

/-- What its records put behind. -/
def recordSets (order : ByteOrder) (dataList : List IpfixDataRecord) (templ : IpfixTemplate) : Bytes :=
  (templ.recordsIn dataList).flatMap (IpfixDataRecord.writtenSet order templ)

def recordBytes (dataList : List IpfixDataRecord) (templ : IpfixTemplate) : Nat :=
  ((templ.recordsIn dataList).map fun record => templ.headBytes + IpfixDataRecord.valuesSpan templ record).sum

/-- The template and its records can be written and have room. -/
structure SetFits (dataList : List IpfixDataRecord) (limit offset : Nat) (templ : IpfixTemplate) : Prop where
  one : templ.tsend = 0 ∨ templ.recordsIn dataList ≠ [] → templ.OneKind
  writable : ∀ record ∈ templ.recordsIn dataList, IpfixDataRecord.Writable templ record
  front : templ.tsend = 0 → templ.setBytes + offset ≤ limit
  behind : recordsFit limit templ.headBytes (templ.frontBytes + offset) templ.headBytes
    ((templ.recordsIn dataList).map (IpfixDataRecord.valuesSpan templ))

theorem length_frontSet (order : ByteOrder) (version : UInt16) (templ : IpfixTemplate) :
    (templ.frontSet order version).length = templ.frontBytes := by
  unfold frontSet frontBytes
  split
  · exact templ.length_templateSet order version
  · rfl

theorem length_recordSets (order : ByteOrder) {dataList : List IpfixDataRecord} {templ : IpfixTemplate}
    (writable : ∀ record ∈ templ.recordsIn dataList, IpfixDataRecord.Writable templ record) :
    (templ.recordSets order dataList).length = templ.recordBytes dataList := by
  unfold recordSets recordBytes
  rw [List.length_flatMap]
  exact congrArg List.sum (List.map_congr_left fun record member => length_writtenSet order (writable record member))

end IpfixTemplate

section
variable {encodeNetwork : Bool} {now : Nat} {t t' : IpfixT} {templid : UInt16} {templ : IpfixTemplate}
  {dataList : List IpfixDataRecord}

theorem outputFlush_idle (order : ByteOrder) (idle : t.Idle) : t.outputFlush order = t := by
  unfold IpfixT.outputFlush
  split
  · rfl
  · exact if_neg (by rw [idle.csTid]; exact Nat.lt_irrefl 0)

/-- What `output_set` writes of the template, if anything. -/
def frontStep (encodeNetwork : Bool) (now : Nat) (t : IpfixT) (templid : UInt16) (templ : IpfixTemplate) : Call IpfixT :=
  if templ.tsend = 0 then writeTemplate encodeNetwork now t templid else pure t

theorem frontStep_grows (encodeNetwork : Bool) (now : Nat) (idle : t.Idle) (found : t.templates.find templid = some templ)
    (one : templ.tsend = 0 → templ.OneKind) (room : templ.tsend = 0 → templ.setBytes + t.offset ≤ t.bufferLenght) :
    ∃ t', frontStep encodeNetwork now t templid templ = .ok t' ∧
      t.Grows t' (templ.frontSet (headerOrder encodeNetwork) t.version) [] ∧
      ∀ other, other ≠ templid → t'.templates.find other = t.templates.find other := by
  unfold frontStep IpfixTemplate.frontSet
  by_cases unsent : templ.tsend = 0
  · rw [if_pos unsent,if_pos unsent]
    have wrote := (writeTemplate_eq_ok encodeNetwork now found).mpr ⟨one unsent,room unsent,rfl⟩
    exact ⟨_,wrote,writeTemplate_grows idle found wrote⟩
  · rw [if_neg unsent,if_neg unsent]
    exact ⟨t,rfl,.refl idle,fun _ _ => rfl⟩

theorem of_frontStep (found : t.templates.find templid = some templ)
    (ended : frontStep encodeNetwork now t templid templ = .ok t') :
    templ.tsend = 0 → templ.OneKind ∧ templ.setBytes + t.offset ≤ t.bufferLenght := by
  intro unsent
  unfold frontStep at ended
  rw [if_pos unsent] at ended
  obtain ⟨one,room,_⟩ := (writeTemplate_eq_ok _ _ found).mp ended
  exact ⟨one,room⟩

/-- Between two sets none is open, so the set of a template is a new one unless its id is 0. -/
theorem outputSet_eq (found : t.templates.find templid = some templ)
    (front : frontStep encodeNetwork now t templid templ = .ok t') (idle : t'.Idle) :
    outputSet encodeNetwork now dataList t templid = do
      let final ← (templ.recordsIn dataList).foldlM (outputRecord encodeNetwork (decide (templ.tid.toNat ≠ 0)) templ)
        (t',templ.headBytes)
      return final.1.outputFlush (headerOrder encodeNetwork) := by
  have zero : templ.tid = 0 ↔ templ.tid.toNat = 0 := UInt16.toNat_inj.symm
  have head : (if decide (templ.tid.toNat ≠ 0) = true then 4 else 0) = templ.headBytes := by
    unfold IpfixTemplate.headBytes
    by_cases none : templ.tid.toNat = 0
    · rw [if_pos (zero.mpr none),if_neg (by rw [none]; decide)]
    · rw [if_neg fun same => none (zero.mp same),if_pos (decide_eq_true none)]
  have rest : (do
      let final ← dataList.foldlM (outputRecord encodeNetwork (decide (templ.tid.toNat ≠ t'.csTid)) templ)
        (if decide (templ.tid.toNat ≠ t'.csTid) = true ∧ t'.csTid > 0 then t'.finishCs (headerOrder encodeNetwork) else t',
          if decide (templ.tid.toNat ≠ t'.csTid) = true then 4 else 0)
      (.ok (final.1.outputFlush (headerOrder encodeNetwork)) : Call IpfixT)) = do
        let final ← (templ.recordsIn dataList).foldlM (outputRecord encodeNetwork (decide (templ.tid.toNat ≠ 0)) templ)
          (t',templ.headBytes)
        return final.1.outputFlush (headerOrder encodeNetwork) := by
    rw [idle.csTid,if_neg (fun both => absurd both.2 (Nat.lt_irrefl 0)),head,foldlM_recordsIn]
    rfl
  unfold outputSet
  unfold frontStep at front
  rw [TemplateContainer.getTemplate_of_find found,ok_bind]
  dsimp only
  by_cases unsent : templ.tsend = 0
  · rw [if_pos unsent] at front
    rw [if_pos unsent,front,ok_bind]
    exact rest
  · rw [if_neg unsent] at front
    cases front
    rw [if_neg unsent,pure_eq,ok_bind]
    exact rest

theorem outputSet_grows (encodeNetwork : Bool) (now : Nat) (idle : t.Idle) (found : t.templates.find templid = some templ)
    (fits : templ.SetFits dataList t.bufferLenght t.offset) :
    ∃ t', outputSet encodeNetwork now dataList t templid = .ok t' ∧
      t.Grows t' (templ.frontSet (headerOrder encodeNetwork) t.version)
        (templ.recordSets (headerOrder encodeNetwork) dataList) ∧
      ∀ other, other ≠ templid → t'.templates.find other = t.templates.find other := by
  obtain ⟨fronted,front,grows,others⟩ := frontStep_grows encodeNetwork now idle found (fun unsent => fits.one (.inl unsent))
    fits.front
  have offset : fronted.offset = templ.frontBytes + t.offset := by
    rw [grows.offset,templ.length_frontSet,List.length_nil,Nat.add_zero]
  have behind := fits.behind
  rw [← offset,← grows.bufferLenght] at behind
  rw [outputSet_eq found front grows.toIdle]
  by_cases none : templ.recordsIn dataList = []
  · refine ⟨fronted,?_,?_,others⟩
    · rw [none,List.foldlM_nil,pure_eq,ok_bind,outputFlush_idle _ grows.toIdle]
      rfl
    · rw [IpfixTemplate.recordSets,none]
      exact grows
  · obtain ⟨final,rounds,grown,kept⟩ := outputRecords_grows grows.toIdle (fits.one (.inr none)) (templ.recordsIn dataList)
      (fun record member => (IpfixTemplate.mem_recordsIn.mp member).2) fits.writable behind
    refine ⟨final.1,?_,grows.trans grown,fun other differs => ?_⟩
    · rw [rounds,ok_bind,outputFlush_idle _ grown.toIdle]
      rfl
    · rw [kept,others other differs]

theorem of_outputSet (idle : t.Idle) (found : t.templates.find templid = some templ)
    (ended : outputSet encodeNetwork now dataList t templid = .ok t') :
    templ.SetFits dataList t.bufferLenght t.offset := by
  have front : ∃ fronted, frontStep encodeNetwork now t templid templ = .ok fronted := by
    unfold outputSet at ended
    rw [TemplateContainer.getTemplate_of_find found,ok_bind] at ended
    dsimp only at ended
    unfold frontStep
    by_cases unsent : templ.tsend = 0
    · rw [if_pos unsent] at ended ⊢
      obtain ⟨fronted,wrote,_⟩ := bind_eq_ok.mp ended
      exact ⟨fronted,wrote⟩
    · exact ⟨t,if_neg unsent⟩
  obtain ⟨fronted,front⟩ := front
  have described := of_frontStep found front
  obtain ⟨fronted',again,grows,_⟩ := frontStep_grows encodeNetwork now idle found (fun unsent => (described unsent).1)
    (fun unsent => (described unsent).2)
  cases front.symm.trans again
  have offset : fronted.offset = templ.frontBytes + t.offset := by
    rw [grows.offset,templ.length_frontSet,List.length_nil,Nat.add_zero]
  rw [outputSet_eq found front grows.toIdle] at ended
  obtain ⟨final,rounds,_⟩ := bind_eq_ok.mp ended
  obtain ⟨one,writable,behind⟩ := of_outputRecords grows.toIdle
    (fun record member => (IpfixTemplate.mem_recordsIn.mp member).2) rounds
  rw [offset,grows.bufferLenght] at behind
  exact ⟨fun some => some.elim (fun unsent => (described unsent).1) one,writable,
    fun unsent => (described unsent).2,behind⟩

/-- All sets have room, in the order in which they are written, and the header after them. -/
def setsFit (dataList : List IpfixDataRecord) (limit header : Nat) : Nat → List IpfixTemplate → Prop
  | offset, [] => header + offset ≤ limit
  | offset, templ :: rest => templ.SetFits dataList limit offset ∧
      setsFit dataList limit header (templ.frontBytes + offset + templ.recordBytes dataList) rest

/-- The templates stand under their ids, each once. -/
structure IpfixT.Holds (t : IpfixT) (templs : List IpfixTemplate) : Prop where
  found : ∀ templ ∈ templs, t.templates.find templ.tid = some templ
  distinct : (templs.map IpfixTemplate.tid).Nodup

theorem IpfixT.Holds.behind {templs : List IpfixTemplate} (holds : t.Holds (templ :: templs))
    (others : ∀ other, other ≠ templ.tid → t'.templates.find other = t.templates.find other) : t'.Holds templs := by
  obtain ⟨absent,distinct⟩ := List.nodup_cons.mp holds.distinct
  refine ⟨fun other member => ?_,distinct⟩
  rw [others _ fun same => absent (List.mem_map.mpr ⟨other,member,same⟩)]
  exact holds.found other (List.mem_cons_of_mem _ member)

theorem offset_set {order : ByteOrder} {version : UInt16}
    (writable : ∀ record ∈ templ.recordsIn dataList, IpfixDataRecord.Writable templ record)
    (grows : t.Grows t' (templ.frontSet order version) (templ.recordSets order dataList)) :
    t'.offset = templ.frontBytes + t.offset + templ.recordBytes dataList := by
  rw [grows.offset,templ.length_frontSet,IpfixTemplate.length_recordSets order writable]

theorem outputSets_grows (encodeNetwork : Bool) (now : Nat) (templs : List IpfixTemplate) (idle : t.Idle)
    (holds : t.Holds templs) {header : Nat} (fits : setsFit dataList t.bufferLenght header t.offset templs) :
    ∃ t', (templs.map IpfixTemplate.tid).foldlM (outputSet encodeNetwork now dataList) t = .ok t' ∧
      t.Grows t' (templs.reverse.flatMap (IpfixTemplate.frontSet (headerOrder encodeNetwork) t.version))
        (templs.flatMap (IpfixTemplate.recordSets (headerOrder encodeNetwork) dataList)) ∧
      header + t'.offset ≤ t.bufferLenght := by
  induction templs generalizing t with
  | nil => exact ⟨t,rfl,.refl idle,fits⟩
  | cons templ rest ih =>
    obtain ⟨first,later⟩ := fits
    obtain ⟨next,ended,grows,others⟩ := outputSet_grows encodeNetwork now idle (holds.found templ List.mem_cons_self) first
    rw [← offset_set first.writable grows,← grows.bufferLenght] at later
    obtain ⟨t',rounds,grown,room⟩ := ih grows.toIdle (holds.behind others) later
    refine ⟨t',?_,?_,?_⟩
    · rw [List.map_cons,List.foldlM_cons,ended,ok_bind]
      exact rounds
    · have both := grows.trans grown
      rw [grows.version] at both
      rw [List.reverse_cons,List.flatMap_append,List.flatMap_singleton,List.flatMap_cons]
      exact both
    · rw [← grows.bufferLenght]
      exact room

theorem of_outputSets {templs : List IpfixTemplate} (idle : t.Idle) (holds : t.Holds templs)
    (ended : (templs.map IpfixTemplate.tid).foldlM (outputSet encodeNetwork now dataList) t = .ok t') :
    t'.version = t.version ∧ t'.bufferLenght = t.bufferLenght ∧
      ∀ header, header + t'.offset ≤ t.bufferLenght → setsFit dataList t.bufferLenght header t.offset templs := by
  induction templs generalizing t with
  | nil =>
    cases ended
    exact ⟨rfl,rfl,fun _ room => room⟩
  | cons templ rest ih =>
    rw [List.map_cons,List.foldlM_cons] at ended
    obtain ⟨next,first,later⟩ := bind_eq_ok.mp ended
    have found := holds.found templ List.mem_cons_self
    have fits := of_outputSet idle found first
    obtain ⟨next',taken,grows,others⟩ := outputSet_grows encodeNetwork now idle found fits
    cases first.symm.trans taken
    obtain ⟨version,bufferLenght,behind⟩ := ih grows.toIdle (holds.behind others) later
    rw [offset_set fits.writable grows,grows.bufferLenght] at behind
    exact ⟨version.trans grows.version,bufferLenght.trans grows.bufferLenght,fun header room => ⟨fits,behind header room⟩⟩

def hdrBytes (version : UInt16) : Nat := if version = ipfixVersionNf9 then 20 else 16

/-- The header before what is written, with the number of records in NetFlow 9 and with the
counters that IPFIX and NetFlow 9 count on. -/
def IpfixT.hdr (encodeNetwork : Bool) (now gTstart : Nat) (t : IpfixT) : Bytes :=
  let u16 := Bytes.encode (headerOrder encodeNetwork) 2
  let u32 := Bytes.encode (headerOrder encodeNetwork) 4
  if t.version = ipfixVersionNf9 then
    u16 t.version.toNat ++ u16 t.nrecords ++ u32 ((now - gTstart) * 1000) ++ u32 now ++ u32 (t.seqno + 1).toNat ++
      u32 t.sourceid.toNat
  else u16 t.version.toNat ++ u16 (t.offset + 16) ++ u32 now ++ u32 t.nrecords ++ u32 t.sourceid.toNat

theorem length_hdr (encodeNetwork : Bool) (now gTstart : Nat) (t : IpfixT) :
    (t.hdr encodeNetwork now gTstart).length = hdrBytes t.version := by
  unfold IpfixT.hdr hdrBytes
  split <;> simp

theorem writeHdr_grows (encodeNetwork : Bool) (now gTstart : Nat) (idle : t.Idle)
    (room : hdrBytes t.version + t.offset ≤ t.bufferLenght) : ∃ t', writeHdr encodeNetwork now gTstart t = .ok t' ∧
      t.Grows t' (t.hdr encodeNetwork now gTstart) [] := by
  have length := length_hdr encodeNetwork now gTstart t
  have fits : (t.hdr encodeNetwork now gTstart).length + t.offset ≤ t.bufferLenght := by
    rw [length]
    exact room
  unfold writeHdr
  unfold IpfixT.hdr at fits ⊢
  unfold hdrBytes at room
  by_cases nf9 : t.version = ipfixVersionNf9
  · simp only [nf9,if_true] at fits room ⊢
    rw [(IpfixT.checkSpace_eq_ok 20).mpr (.inl room),ok_bind]
    exact ⟨_,IpfixT.prepend_eq_ok.mpr ⟨fits,rfl⟩,⟨idle.csTid,idle.csHeader⟩,by simp,rfl,nf9.symm,rfl,rfl⟩
  · simp only [nf9,if_false] at fits room ⊢
    rw [(IpfixT.checkSpace_eq_ok 16).mpr (.inl room),ok_bind,IpfixT.prepend_eq_ok.mpr ⟨fits,rfl⟩]
    exact ⟨_,rfl,⟨idle.csTid,idle.csHeader⟩,by simp,rfl,rfl,rfl,rfl⟩

theorem of_writeHdr {gTstart : Nat} (ended : writeHdr encodeNetwork now gTstart t = .ok t') :
    hdrBytes t.version + t.offset ≤ t.bufferLenght := by
  unfold writeHdr at ended
  unfold hdrBytes
  split at ended
  · rename_i nf9
    obtain ⟨_,_,ended⟩ := bind_eq_ok.mp ended
    have room := (IpfixT.prepend_eq_ok.mp ended).1
    simp only [List.length_append,Bytes.length_encode] at room
    rw [if_pos nf9]
    exact room
  · rename_i other
    obtain ⟨_,_,ended⟩ := bind_eq_ok.mp ended
    obtain ⟨written,wrote,_⟩ := bind_eq_ok.mp ended
    have room := (IpfixT.prepend_eq_ok.mp wrote).1
    simp only [List.length_append,Bytes.length_encode] at room
    rw [if_neg other]
    exact room

/-- The option templates come first. -/
def IpfixT.outputOrder (t : IpfixT) : List IpfixTemplate :=
  t.templates.values.filter (fun templ => templ.type = .optionTemplate) ++
    t.templates.values.filter fun templ => templ.type ≠ .optionTemplate

theorem IpfixT.perm_outputOrder (t : IpfixT) : t.outputOrder.Perm t.templates.values := by
  have split := List.filter_append_perm (fun templ : IpfixTemplate => decide (templ.type = .optionTemplate)) t.templates.values
  simpa only [IpfixT.outputOrder,ne_eq,decide_not] using split

theorem holds_outputOrder (keyed : t.templates.Keyed) : t.Holds t.outputOrder where
  found templ member := keyed.find (t.perm_outputOrder.mem_iff.mp member)
  distinct := by
    rw [(t.perm_outputOrder.map IpfixTemplate.tid).nodup_iff,← keyed.keys]
    exact t.templates.nodup_keys

/-- All that the message writes fits into the buffer, which has its first size at each output. -/
def IpfixT.OutputFits (t : IpfixT) (dataList : List IpfixDataRecord) : Prop :=
  setsFit dataList ipfixDefaultBuflen (hdrBytes t.version) 0 t.outputOrder

theorem output_eq {m : MnslpIpfixMessage} (live : m.message = .live t) (keyed : t.templates.Keyed) (required : m.requireOutput = true) :
    m.output now = do
      let sets ← (t.outputOrder.map IpfixTemplate.tid).foldlM (outputSet m.encodeNetwork now m.dataList) t.reinitiateBuffer
      let t ← writeHdr m.encodeNetwork now m.gTstart sets
      return {m with message := .live t, requireOutput := false} := by
  have option := keyed.filter_keys (fun templ => templ.type = .optionTemplate)
    (fun templid => (t.templates.find templid).any fun templ => templ.type = .optionTemplate)
    (fun templid templ found => by rw [found]; rfl)
  have data := keyed.filter_keys (fun templ => templ.type ≠ .optionTemplate)
    (fun templid => !(t.templates.find templid).any fun templ => templ.type = .optionTemplate)
    (fun templid templ found => by rw [found]; exact decide_not.symm)
  unfold MnslpIpfixMessage.output
  rw [if_pos required,MnslpIpfixMessage.liveMessage_eq_ok live,ok_bind,IpfixT.outputOrder,List.map_append,
    List.foldlM_append,← option,← data,bind_assoc]
  rfl

theorem output_grows (now : Nat) {m : MnslpIpfixMessage} (live : m.message = .live t) (idle : t.Idle) (keyed : t.templates.Keyed)
    (required : m.requireOutput = true) (fits : t.OutputFits m.dataList) : ∃ sets t',
      m.output now = .ok {m with message := .live t', requireOutput := false} ∧
      t.reinitiateBuffer.Grows sets (t.outputOrder.reverse.flatMap (IpfixTemplate.frontSet (headerOrder m.encodeNetwork) t.version))
        (t.outputOrder.flatMap (IpfixTemplate.recordSets (headerOrder m.encodeNetwork) m.dataList)) ∧
      sets.Grows t' (sets.hdr m.encodeNetwork now m.gTstart) [] ∧ hdrBytes t.version + sets.offset ≤ ipfixDefaultBuflen := by
  have empty : t.reinitiateBuffer.Idle := ⟨idle.csTid,idle.csHeader⟩
  have holds : t.reinitiateBuffer.Holds t.outputOrder := ⟨(holds_outputOrder keyed).found,(holds_outputOrder keyed).distinct⟩
  obtain ⟨sets,rounds,grows,room⟩ := outputSets_grows m.encodeNetwork now t.outputOrder empty holds fits
  have header : hdrBytes sets.version + sets.offset ≤ sets.bufferLenght := by
    rw [grows.version,grows.bufferLenght]
    exact room
  obtain ⟨t',wrote,grown⟩ := writeHdr_grows m.encodeNetwork now m.gTstart grows.toIdle header
  refine ⟨sets,t',?_,grows,grown,room⟩
  rw [output_eq live keyed required,rounds,ok_bind,wrote]
  rfl

theorem of_output {m m' : MnslpIpfixMessage} (live : m.message = .live t) (idle : t.Idle) (keyed : t.templates.Keyed)
    (required : m.requireOutput = true) (ended : m.output now = .ok m') : t.OutputFits m.dataList := by
  have empty : t.reinitiateBuffer.Idle := ⟨idle.csTid,idle.csHeader⟩
  have holds : t.reinitiateBuffer.Holds t.outputOrder := ⟨(holds_outputOrder keyed).found,(holds_outputOrder keyed).distinct⟩
  rw [output_eq live keyed required] at ended
  obtain ⟨sets,rounds,ended⟩ := bind_eq_ok.mp ended
  obtain ⟨t',wrote,_⟩ := bind_eq_ok.mp ended
  obtain ⟨version,bufferLenght,fits⟩ := of_outputSets empty holds rounds
  have room := of_writeHdr wrote
  rw [version,bufferLenght] at room
  exact fits _ room

end

end Mnslp.Msg
