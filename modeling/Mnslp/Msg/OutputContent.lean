import Mathlib.Algebra.BigOperators.Group.List.Basic
import Mnslp.Lib.Grouping
import Mnslp.Msg.OutputBounds

/-! What an output makes of the content of a message, whatever was done with the message before. -/
namespace Mnslp.Msg
open Mnslp.Lib Call

/-- The buffer without the numbers that go on from one output to the next. -/
def withoutCounter (version : UInt16) (buffer : Bytes) : Bytes :=
  if version = ipfixVersionNf9 then buffer.take 2 ++ (buffer.drop 4).take 8 ++ buffer.drop 16
  else buffer.take 8 ++ buffer.drop 12

/-- The data set of the record, for the template that the message has under its id. -/
def IpfixDataRecord.IsSetOf (order : ByteOrder) (templates : TemplateContainer) (record : IpfixDataRecord) (set : Bytes) : Prop :=
  ∃ templ, templates.find record.templateId = some templ ∧ set = IpfixDataRecord.dataSet order templ record

namespace IpfixT

/-- The buffer is a header and then, in any order, the set of each template and of each record once. -/
def CompleteIn (order : ByteOrder) (dataList : List IpfixDataRecord) (t : IpfixT) (buffer : Bytes) : Prop :=
  ∃ (header : Bytes) (sets records : List Bytes), buffer = header ++ sets.flatten ∧ header.length = hdrBytes t.version ∧
    List.Forall₂ (IpfixDataRecord.IsSetOf order t.templates) dataList records ∧
    sets.Perm (t.templates.values.map (IpfixTemplate.templateSet order t.version) ++ records)

/-- No template was sent, and all records have one whose sets get a header. -/
structure Whole (dataList : List IpfixDataRecord) (t : IpfixT) : Prop where
  unsent : ∀ templ ∈ t.templates.values, templ.tsend = 0
  named : ∀ record ∈ dataList, record.templateId ≠ 0 ∧ (t.templates.find record.templateId).isSome

end IpfixT

/-- The records with their templates, as they are written. -/
def grouped (dataList : List IpfixDataRecord) (templs : List IpfixTemplate) : List (IpfixTemplate × IpfixDataRecord) :=
  templs.flatMap fun templ => (templ.recordsIn dataList).map (Prod.mk templ)

/-- The records with their templates, as they were included. -/
def assigned (dataList : List IpfixDataRecord) (templates : TemplateContainer) : List (IpfixTemplate × IpfixDataRecord) :=
  dataList.flatMap fun record => (templates.find record.templateId).toList.map (·,record)

section
variable {t : IpfixT} {dataList : List IpfixDataRecord} {order : ByteOrder}

theorem find?_outputOrder (keyed : t.templates.Keyed) (id : UInt16) :
    t.outputOrder.find? (fun templ => decide (templ.tid = id)) = t.templates.find id := by
  cases found : t.outputOrder.find? (fun templ => decide (templ.tid = id)) with
  | some templ =>
    have named := List.find?_some found
    rw [decide_eq_true_eq] at named
    rw [← named]
    exact ((holds_outputOrder keyed).found templ (List.mem_of_find?_eq_some found)).symm
  | none =>
    cases present : t.templates.find id with
    | none => rfl
    | some templ =>
      obtain ⟨stored,member,_⟩ := t.templates.find_eq_some_mem _ _ present
      have inside := t.perm_outputOrder.mem_iff.mpr (List.mem_map.mpr ⟨_,member,rfl⟩)
      exact absurd (decide_eq_true (keyed id templ present)) (List.find?_eq_none.mp found templ inside)

theorem perm_grouped (keyed : t.templates.Keyed) (dataList : List IpfixDataRecord) :
    (grouped dataList t.outputOrder).Perm (assigned dataList t.templates) := by
  have perm := perm_flatMap_filter IpfixTemplate.tid IpfixDataRecord.templateId (holds_outputOrder keyed).distinct dataList
  simp only [find?_outputOrder keyed] at perm
  exact perm

theorem flatMap_recordSets (order : ByteOrder) (dataList : List IpfixDataRecord) (templs : List IpfixTemplate) :
    templs.flatMap (IpfixTemplate.recordSets order dataList) =
      ((grouped dataList templs).map fun pair => IpfixDataRecord.writtenSet order pair.1 pair.2).flatten := by
  induction templs with
  | nil => rfl
  | cons templ rest ih =>
    unfold grouped at ih ⊢
    rw [List.flatMap_cons,List.flatMap_cons,List.map_append,List.flatten_append,← ih,List.map_map,IpfixTemplate.recordSets,
      List.flatMap_def]
    rfl

theorem mem_grouped {pair : IpfixTemplate × IpfixDataRecord} {templs : List IpfixTemplate}
    (member : pair ∈ grouped dataList templs) : pair.1 ∈ templs ∧ pair.2 ∈ dataList ∧ pair.2.templateId = pair.1.tid := by
  obtain ⟨templ,inside,member⟩ := List.mem_flatMap.mp member
  obtain ⟨record,mine,rfl⟩ := List.mem_map.mp member
  exact ⟨inside,IpfixTemplate.mem_recordsIn.mp mine⟩

/-- With a template for each record the sets of the records are one for each. -/
theorem isSetOf_assigned (named : ∀ record ∈ dataList, (t.templates.find record.templateId).isSome) :
    List.Forall₂ (IpfixDataRecord.IsSetOf order t.templates) dataList
      ((assigned dataList t.templates).map fun pair => IpfixDataRecord.dataSet order pair.1 pair.2) := by
  induction dataList with
  | nil => exact .nil
  | cons record rest ih =>
    obtain ⟨here,others⟩ := List.forall_mem_cons.mp named
    obtain ⟨templ,found⟩ := Option.isSome_iff_exists.mp here
    unfold assigned at ih ⊢
    rw [List.flatMap_cons,found]
    exact .cons ⟨templ,found,rfl⟩ (ih others)

theorem assigned_of_isSetOf {records : List Bytes}
    (sets : List.Forall₂ (IpfixDataRecord.IsSetOf order t.templates) dataList records) :
    records = (assigned dataList t.templates).map (fun pair => IpfixDataRecord.dataSet order pair.1 pair.2) ∧
      ∀ record ∈ dataList, (t.templates.find record.templateId).isSome := by
  induction sets with
  | nil => exact ⟨rfl,fun _ none => absurd none List.not_mem_nil⟩
  | cons here _ ih =>
    obtain ⟨templ,found,rfl⟩ := here
    refine ⟨?_,List.forall_mem_cons.mpr ⟨by rw [found]; rfl,ih.2⟩⟩
    unfold assigned at ih ⊢
    rw [List.flatMap_cons,found,ih.1]
    rfl

/-- The sets of a message, those of the templates in front. -/
def IpfixT.allSets (order : ByteOrder) (dataList : List IpfixDataRecord) (t : IpfixT) : Bytes :=
  t.outputOrder.reverse.flatMap (IpfixTemplate.frontSet order t.version) ++
    t.outputOrder.flatMap (IpfixTemplate.recordSets order dataList)

theorem buffer_of_output {m m' : MnslpIpfixMessage} {t' : IpfixT} {now : Nat} (settled : m.Settled t)
    (required : m.requireOutput = true) (ended : m.output now = .ok m') (live : m'.message = .live t') :
    ∃ sets : IpfixT, sets.version = t.version ∧ sets.sourceid = t.sourceid ∧
      sets.buffer = t.allSets (headerOrder m.encodeNetwork) m.dataList ∧
      t'.buffer = sets.hdr m.encodeNetwork now m.gTstart ++ sets.buffer := by
  have fits := of_output settled.live settled.idle settled.keyed required ended
  obtain ⟨sets,t'',again,grows,grown,_⟩ := output_grows now settled.live settled.idle settled.keyed required fits
  cases ended.symm.trans again
  cases live
  refine ⟨sets,grows.version,grows.sourceid,?_,?_⟩
  · rw [grows.buffer]
    exact congrArg (· ++ _) (List.append_nil _)
  · rw [grown.buffer,List.append_nil]

theorem withoutCounter_nf9 {ver count time seq rest : Bytes} (a : ver.length = 2) (b : count.length = 2)
    (c : time.length = 8) (d : seq.length = 4) :
    withoutCounter ipfixVersionNf9 (ver ++ count ++ time ++ seq ++ rest) = ver ++ time ++ rest := by
  unfold withoutCounter
  rw [if_pos rfl]
  simp [List.drop_append,List.drop_of_length_le,a,b,c,d]

theorem withoutCounter_ipfix {version : UInt16} (other : version ≠ ipfixVersionNf9) {front seq rest : Bytes}
    (a : front.length = 8) (b : seq.length = 4) : withoutCounter version (front ++ seq ++ rest) = front ++ rest := by
  unfold withoutCounter
  rw [if_neg other]
  simp [List.drop_append,List.drop_of_length_le,a,b]

/-- Of the header nothing but the counters depends on what was written before. -/
theorem withoutCounter_hdr {first second : IpfixT} (version : first.version = second.version)
    (sourceid : first.sourceid = second.sourceid) (buffer : first.buffer = second.buffer) (encodeNetwork : Bool)
    (now gTstart : Nat) : withoutCounter second.version (first.hdr encodeNetwork now gTstart ++ first.buffer) =
      withoutCounter second.version (second.hdr encodeNetwork now gTstart ++ second.buffer) := by
  have offset : first.offset = second.offset := congrArg List.length buffer
  unfold IpfixT.hdr
  rw [version,sourceid,buffer,offset]
  by_cases nf9 : second.version = ipfixVersionNf9
  · simp only [nf9,if_true]
    have cut (count seq : Nat) := @withoutCounter_nf9 (Bytes.encode (headerOrder encodeNetwork) 2 ipfixVersionNf9.toNat)
      (Bytes.encode (headerOrder encodeNetwork) 2 count)
      (Bytes.encode (headerOrder encodeNetwork) 4 ((now - gTstart) * 1000) ++ Bytes.encode (headerOrder encodeNetwork) 4 now)
      (Bytes.encode (headerOrder encodeNetwork) 4 seq)
      (Bytes.encode (headerOrder encodeNetwork) 4 second.sourceid.toNat ++ second.buffer) (Bytes.length_encode _ _ _)
      (Bytes.length_encode _ _ _) (by simp) (Bytes.length_encode _ _ _)
    simp only [List.append_assoc] at cut ⊢
    rw [cut,cut]
  · simp only [nf9,if_false]
    have cut (seq : Nat) := @withoutCounter_ipfix _ nf9 (Bytes.encode (headerOrder encodeNetwork) 2 second.version.toNat ++
        Bytes.encode (headerOrder encodeNetwork) 2 (second.offset + 16) ++ Bytes.encode (headerOrder encodeNetwork) 4 now)
      (Bytes.encode (headerOrder encodeNetwork) 4 seq)
      (Bytes.encode (headerOrder encodeNetwork) 4 second.sourceid.toNat ++ second.buffer) (by simp) (Bytes.length_encode _ _ _)
    simp only [List.append_assoc] at cut ⊢
    rw [cut,cut]

theorem mem_assigned {record : IpfixDataRecord} {templ : IpfixTemplate} (member : record ∈ dataList)
    (found : t.templates.find record.templateId = some templ) : (templ,record) ∈ assigned dataList t.templates := by
  refine List.mem_flatMap.mpr ⟨record,member,?_⟩
  rw [found]
  exact List.mem_singleton.mpr rfl

theorem IpfixTemplate.length_frontSet_le (order : ByteOrder) (version : UInt16) (templ : IpfixTemplate) :
    (templ.frontSet order version).length ≤ (templ.templateSet order version).length := by
  unfold frontSet
  split
  · exact Nat.le_refl _
  · exact Nat.zero_le _

theorem IpfixTemplate.unsent_of_length {templ : IpfixTemplate} (order : ByteOrder) (version : UInt16)
    (same : (templ.frontSet order version).length = (templ.templateSet order version).length) : templ.tsend = 0 := by
  by_contra sent
  have some : 0 < templ.setBytes := by
    unfold setBytes headerBytes
    split <;> omega
  rw [frontSet,if_neg sent,length_templateSet] at same
  exact Nat.ne_of_gt some same.symm

theorem IpfixDataRecord.length_dataSet (order : ByteOrder) (templ : IpfixTemplate) (record : IpfixDataRecord) :
    (dataSet order templ record).length = 4 + (valuesBytes order templ record).length := by
  rw [dataSet,setHeader,List.length_append,List.length_append,Bytes.length_encode,Bytes.length_encode]

theorem IpfixDataRecord.length_writtenSet_le (order : ByteOrder) (templ : IpfixTemplate) (record : IpfixDataRecord) :
    (writtenSet order templ record).length ≤ (dataSet order templ record).length := by
  unfold writtenSet
  split
  · rw [length_dataSet]
    exact Nat.le_add_left _ _
  · exact Nat.le_refl _

theorem IpfixDataRecord.tid_of_length (order : ByteOrder) {templ : IpfixTemplate} (record : IpfixDataRecord)
    (same : (writtenSet order templ record).length = (dataSet order templ record).length) : templ.tid ≠ 0 := by
  intro zero
  rw [writtenSet,if_pos zero,length_dataSet] at same
  omega

theorem length_allSets (order : ByteOrder) (dataList : List IpfixDataRecord) (t : IpfixT) :
    (t.allSets order dataList).length =
      (t.outputOrder.map fun templ => (templ.frontSet order t.version).length).sum +
        ((grouped dataList t.outputOrder).map fun pair => (IpfixDataRecord.writtenSet order pair.1 pair.2).length).sum := by
  rw [IpfixT.allSets,flatMap_recordSets,List.length_append,List.length_flatMap,List.length_flatten,List.map_map,
    ((List.reverse_perm t.outputOrder).map _).sum_eq]
  rfl

theorem completeIn_of_whole (keyed : t.templates.Keyed) (whole : t.Whole dataList) {header : Bytes}
    (size : header.length = hdrBytes t.version) : t.CompleteIn order dataList (header ++ t.allSets order dataList) := by
  refine ⟨header,t.outputOrder.reverse.map (IpfixTemplate.templateSet order t.version) ++
      (grouped dataList t.outputOrder).map (fun pair => IpfixDataRecord.writtenSet order pair.1 pair.2),_,?_,size,
    isSetOf_assigned fun record member => (whole.named record member).2,?_⟩
  · have fronts : t.outputOrder.reverse.map (IpfixTemplate.frontSet order t.version) =
        t.outputOrder.reverse.map (IpfixTemplate.templateSet order t.version) :=
      List.map_congr_left fun templ member =>
        if_pos (whole.unsent templ (t.perm_outputOrder.mem_iff.mp (List.mem_reverse.mp member)))
    rw [IpfixT.allSets,flatMap_recordSets,List.flatMap_def,fronts,List.flatten_append]
  · have headed : (grouped dataList t.outputOrder).map (fun pair => IpfixDataRecord.writtenSet order pair.1 pair.2) =
        (grouped dataList t.outputOrder).map fun pair => IpfixDataRecord.dataSet order pair.1 pair.2 := by
      refine List.map_congr_left fun pair member => if_neg fun zero => ?_
      obtain ⟨_,inside,mine⟩ := mem_grouped member
      exact (whole.named _ inside).1 (mine.trans zero)
    rw [headed]
    exact (((List.reverse_perm _).trans t.perm_outputOrder).map _).append ((perm_grouped keyed dataList).map _)

/-- Whatever is missing makes the buffer shorter. -/
theorem whole_of_completeIn (keyed : t.templates.Keyed) {header : Bytes} (size : header.length = hdrBytes t.version)
    (complete : t.CompleteIn order dataList (header ++ t.allSets order dataList)) : t.Whole dataList := by
  obtain ⟨header',sets,records,buffer,size',one,perm⟩ := complete
  obtain ⟨rfl,named⟩ := assigned_of_isSetOf one
  have length := congrArg List.length buffer
  rw [List.length_append,List.length_append,size,size',length_allSets,List.length_flatten,(perm.map _).sum_eq,
    List.map_append,List.sum_append,List.map_map,List.map_map,(t.perm_outputOrder.symm.map _).sum_eq,
    ((perm_grouped keyed dataList).symm.map _).sum_eq] at length
  simp only [Function.comp_def] at length
  have fronts := List.sum_le_sum fun templ (_ : templ ∈ t.outputOrder) => templ.length_frontSet_le order t.version
  have behinds := List.sum_le_sum fun pair (_ : pair ∈ grouped dataList t.outputOrder) =>
    IpfixDataRecord.length_writtenSet_le order pair.1 pair.2
  constructor
  · intro templ member
    refine IpfixTemplate.unsent_of_length order t.version ?_
    exact eq_of_sum_eq (fun templ _ => templ.length_frontSet_le order t.version) (by omega) templ
      (t.perm_outputOrder.mem_iff.mpr member)
  · intro record member
    refine ⟨?_,named record member⟩
    obtain ⟨templ,found⟩ := Option.isSome_iff_exists.mp (named record member)
    have inside := (perm_grouped keyed dataList).mem_iff.mpr (mem_assigned member found)
    rw [(mem_grouped inside).2.2]
    refine IpfixDataRecord.tid_of_length order record ?_
    exact eq_of_sum_eq (fun pair _ => IpfixDataRecord.length_writtenSet_le order pair.1 pair.2) (by omega) _ inside

end

namespace TemplateContainer

theorem copy_of_unsent {templates : TemplateContainer} (unsent : ∀ templ ∈ templates.values, templ.tsend = 0) :
    templates.copy = templates := by
  refine OrderedMap.ext_entries ((List.map_congr_left fun entry member => ?_).trans (List.map_id _))
  have zero := unsent entry.2 (List.mem_map.mpr ⟨entry,member,rfl⟩)
  obtain ⟨id,templ⟩ := entry
  obtain ⟨type,tsend,tid,maxfields,datafields,scopefields⟩ := templ
  cases zero
  rfl

end TemplateContainer

namespace MnslpIpfixMessage
variable {m a b : MnslpIpfixMessage} {s t : IpfixT} {now : Nat}

/-- An output that returns has written all templates and records, and outputs after it write nothing. -/
def OutputsAll (now : Nat) (m : MnslpIpfixMessage) (t : IpfixT) : Prop :=
  ∀ m' t', m.output now = .ok m' → m'.message = .live t' →
    t.CompleteIn (headerOrder m.encodeNetwork) m.dataList t'.buffer ∧ ∀ later, m'.output later = .ok m'

/-- Two messages with the same templates, fields and records, and with the same numbers for the header. -/
structure SameContent (a b : MnslpIpfixMessage) (s t : IpfixT) : Prop where
  first : a.message = .live s
  second : b.message = .live t
  templates : s.templates.copy = t.templates.copy
  dataList : a.dataList = b.dataList
  version : s.version = t.version
  sourceid : s.sourceid = t.sourceid
  encodeNetwork : a.encodeNetwork = b.encodeNetwork
  gTstart : a.gTstart = b.gTstart

/-- Both are written as a whole and alike. -/
structure OutputByContent (now : Nat) (a b : MnslpIpfixMessage) (s t : IpfixT) : Prop where
  first : a.OutputsAll now s
  second : b.OutputsAll now t
  same : ∀ a' b' s' t', a.output now = .ok a' → a'.message = .live s' → b.output now = .ok b' → b'.message = .live t' →
    withoutCounter t.version s'.buffer = withoutCounter t.version t'.buffer

theorem sameContent_copy (live : m.message = .live t) : SameContent m m.copy t t.copy where
  first := live
  second := by rw [copy,live]
  templates := t.templates.copy_copy.symm
  dataList := rfl
  version := rfl
  sourceid := rfl
  encodeNetwork := rfl
  gTstart := rfl

theorem outputsAll_iff (settled : m.Settled t) (required : m.requireOutput = true) :
    m.OutputsAll now t ↔ (t.OutputFits m.dataList → t.Whole m.dataList) := by
  constructor
  · intro all fits
    obtain ⟨_,t',ended,_⟩ := output_grows now settled.live settled.idle settled.keyed required fits
    obtain ⟨sets,version,_,buffer,written⟩ := buffer_of_output settled required ended rfl
    have complete := (all _ t' ended rfl).1
    rw [written,buffer] at complete
    exact whole_of_completeIn settled.keyed (by rw [length_hdr,version]) complete
  · intro whole m' t' ended live
    have fits := of_output settled.live settled.idle settled.keyed required ended
    obtain ⟨sets,version,_,buffer,written⟩ := buffer_of_output settled required ended live
    constructor
    · rw [written,buffer]
      exact completeIn_of_whole settled.keyed (whole fits) (by rw [length_hdr,version])
    · intro later
      obtain ⟨_,_,again,_⟩ := output_grows now settled.live settled.idle settled.keyed required fits
      cases ended.symm.trans again
      rfl

theorem SameContent.allSets (same : SameContent a b s t) (order : ByteOrder) (whole : s.Whole a.dataList)
    (other : t.Whole b.dataList) : s.allSets order a.dataList = t.allSets order b.dataList := by
  have templates := same.templates
  rw [TemplateContainer.copy_of_unsent whole.unsent,TemplateContainer.copy_of_unsent other.unsent] at templates
  have outputOrder : s.outputOrder = t.outputOrder := by rw [IpfixT.outputOrder,templates]; rfl
  rw [IpfixT.allSets,outputOrder,same.dataList,same.version]
  rfl

/-- An output depends on the content alone exactly if the messages that it writes have sent no
template and have a template for each record. -/
theorem outputByContent_iff (now : Nat) (a b : MnslpIpfixMessage) (s t : IpfixT) (built : a.Built) (other : b.Built)
    (content : SameContent a b s t) (required : a.requireOutput = true) (pending : b.requireOutput = true) :
    OutputByContent now a b s t ↔
      (s.OutputFits a.dataList → s.Whole a.dataList) ∧ (t.OutputFits b.dataList → t.Whole b.dataList) := by
  obtain ⟨s',first⟩ := built.settled
  cases first.live.symm.trans content.first
  obtain ⟨t',second⟩ := other.settled
  cases second.live.symm.trans content.second
  constructor
  · intro byContent
    exact ⟨(outputsAll_iff first required).mp byContent.first,(outputsAll_iff second pending).mp byContent.second⟩
  · rintro ⟨whole,whole'⟩
    refine ⟨(outputsAll_iff first required).mpr whole,(outputsAll_iff second pending).mpr whole',?_⟩
    intro a' b' s' t' ended live ended' live'
    have fits := of_output first.live first.idle first.keyed required ended
    have fits' := of_output second.live second.idle second.keyed pending ended'
    obtain ⟨sets,version,sourceid,buffer,written⟩ := buffer_of_output first required ended live
    obtain ⟨sets',version',sourceid',buffer',written'⟩ := buffer_of_output second pending ended' live'
    have same := content.allSets (headerOrder a.encodeNetwork) (whole fits) (whole' fits')
    rw [content.encodeNetwork] at same buffer
    rw [written,written',content.encodeNetwork,content.gTstart,← version']
    refine withoutCounter_hdr ?_ ?_ ?_ _ _ _
    · rw [version,version',content.version]
    · rw [sourceid,sourceid',content.sourceid]
    · rw [buffer,buffer',same]

theorem whole_sectionState (v : Bytes) : sectionState.Whole [sectionRecord v] where
  unsent := by
    intro templ member
    cases List.mem_singleton.mp member
    rfl
  named := by
    intro record member
    cases List.mem_singleton.mp member
    exact ⟨(by decide : (256 : UInt16) ≠ 0),rfl⟩

theorem whole_copied (v : Bytes) : sectionState.copy.Whole [sectionRecord v] := whole_sectionState v

/-- A message and its copy, before the first output. -/
theorem outputByContent_three : (sectionMessage [1,2,3]).Built ∧ (sectionMessage [1,2,3]).copy.Built ∧
    SameContent (sectionMessage [1,2,3]) (sectionMessage [1,2,3]).copy sectionState sectionState.copy ∧
    OutputByContent 7 (sectionMessage [1,2,3]) (sectionMessage [1,2,3]).copy sectionState sectionState.copy :=
  ⟨built_sectionMessage _,(built_sectionMessage _).copy,sameContent_copy rfl,
    (outputByContent_iff 7 _ _ _ _ (built_sectionMessage _) (built_sectionMessage _).copy (sameContent_copy rfl) rfl rfl).mpr
      ⟨fun _ => whole_sectionState _,fun _ => whole_copied _⟩⟩

/-- A second output, after another record, has no template any more; that of a copy has it. -/
theorem second_output : ∃ m₁ m₂ m₃ m₄ s₂ s₃ s₄, (sectionMessage [1]).output 5 = .ok m₁ ∧
    m₁.edit (.includeData 256 (sectionRecord [2])) = .ok m₂ ∧ m₂.requireOutput = true ∧ m₂.message = .live s₂ ∧
    s₂.version = ipfixVersion ∧ m₂.output 6 = .ok m₃ ∧ m₃.message = .live s₃ ∧
    s₃.buffer = [0,10,0,28,0,0,0,6,0,0,0,3,0,0,0,1,1,0,0,6,1,1,1,0,0,6,1,2] ∧
    m₂.copy.output 6 = .ok m₄ ∧ m₄.message = .live s₄ ∧
    s₄.buffer = [0,10,0,40,0,0,0,6,0,0,0,3,0,0,0,1,0,2,0,12,1,0,0,1,1,57,255,255,1,0,0,6,1,1,1,0,0,6,1,2] :=
  ⟨_,_,_,_,_,_,_,rfl,rfl,rfl,rfl,rfl,rfl,rfl,rfl,rfl,rfl,rfl⟩

theorem not_outputByContent : ¬ ∀ (now : Nat) (a b : MnslpIpfixMessage) (s t : IpfixT), a.Built → b.Built →
    SameContent a b s t → a.requireOutput = true → b.requireOutput = true → OutputByContent now a b s t := by
  intro always
  obtain ⟨m₁,m₂,m₃,m₄,s₂,s₃,s₄,first,included,required,live,version,again,live₃,buffer,copied,live₄,buffer'⟩ := second_output
  have built := ((built_sectionMessage [1]).output 5 first).edit _ included
  have byContent := always 6 m₂ m₂.copy s₂ s₂.copy built built.copy (sameContent_copy live) required required
  have same := byContent.same m₃ m₄ s₃ s₄ again live₃ copied live₄
  change withoutCounter s₂.version _ = withoutCounter s₂.version _ at same
  rw [version,buffer,buffer'] at same
  exact absurd same (by decide)

end MnslpIpfixMessage
end Mnslp.Msg
