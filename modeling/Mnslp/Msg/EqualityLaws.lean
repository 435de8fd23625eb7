import Mnslp.Msg.Equality
import Mnslp.Msg.OutputBounds

/-! When `isEqual` is an equivalence. Its loops look into the other message for what the own one
has, so they find what the own one has too much only by reading where the other one ends. -/
namespace Mnslp.Msg
open Mnslp.Lib

theorem IpfixTemplateField.equals_iff (field other : IpfixTemplateField) : field.equals other ↔
    field.flength = other.flength ∧ field.unknownF = other.unknownF ∧ field.relayF = other.relayF ∧
      field.elem.getFieldKey = other.elem.getFieldKey := by
  simp [equals]

theorem IpfixTemplateField.equals_symm {field other : IpfixTemplateField} (same : field.equals other) :
    other.equals field := by
  rw [equals_iff] at same ⊢
  exact ⟨same.1.symm,same.2.1.symm,same.2.2.1.symm,same.2.2.2.symm⟩

theorem IpfixTemplateField.equals_trans (field other third : IpfixTemplateField) (first : field.equals other)
    (second : other.equals third) : field.equals third := by
  rw [equals_iff] at first second ⊢
  exact ⟨first.1.trans second.1,first.2.1.trans second.2.1,first.2.2.1.trans second.2.2.1,first.2.2.2.trans second.2.2.2⟩

namespace IpfixValueField

theorem none_of_equalBytes {own other : Option Bytes} {length otherLength : Nat}
    (same : equalBytes own other length otherLength) : own = none ↔ other = none := by
  cases own <;> cases other <;> simp_all [equalBytes]

theorem equalBytes_symm {own other : Option Bytes} {length otherLength : Nat}
    (same : equalBytes own other length otherLength) : equalBytes other own otherLength length := by
  cases own <;> cases other <;> simp_all [equalBytes]

theorem equalBytes_trans {own other third : Option Bytes} {length otherLength thirdLength : Nat}
    (first : equalBytes own other length otherLength) (second : equalBytes other third otherLength thirdLength) :
    equalBytes own third length thirdLength := by
  cases own <;> cases other <;> cases third <;> simp_all [equalBytes]

/-- What is compared of values without bytes: the number that has their length. -/
def SameNumber (value param : IpfixValueField) : Prop :=
  value.length = param.length ∧ (value.length = 1 → value.value8 = param.value8) ∧
    (value.length = 2 → value.value16 = param.value16) ∧ (value.length = 4 → value.value32 = param.value32) ∧
    (value.length = 8 → value.value64 = param.value64)

theorem SameNumber.symm {value param : IpfixValueField} (same : SameNumber value param) : SameNumber param value := by
  obtain ⟨length,byte,short,int,long⟩ := same
  refine ⟨length.symm,?_⟩
  rw [← length]
  exact ⟨fun is => (byte is).symm,fun is => (short is).symm,fun is => (int is).symm,fun is => (long is).symm⟩

theorem SameNumber.trans {value param third : IpfixValueField} (first : SameNumber value param)
    (second : SameNumber param third) : SameNumber value third := by
  obtain ⟨length,byte,short,int,long⟩ := first
  unfold SameNumber at second
  rw [← length] at second
  obtain ⟨length',byte',short',int',long'⟩ := second
  exact ⟨length',fun is => (byte is).trans (byte' is),fun is => (short is).trans (short' is),
    fun is => (int is).trans (int' is),fun is => (long is).trans (long' is)⟩

theorem equals_iff (value param : IpfixValueField) : value.equals param ↔
    equalBytes value.valuechar param.valuechar value.length param.length ∧
      equalBytes value.valuebyte param.valuebyte value.length param.length ∧
      (value.valuechar = none → value.valuebyte = none → SameNumber value param) := by
  unfold equals SameNumber
  split
  · rename_i null
    simp only [Option.isNone_iff_eq_none] at null
    simp [null,equalBytes,imp_iff_not_or]
  · rename_i pointer
    simp only [Option.isNone_iff_eq_none] at pointer
    rw [Bool.decide_and,Bool.and_eq_true,decide_eq_true_eq,decide_eq_true_eq]
    constructor
    · rintro ⟨chars,bytes⟩
      refine ⟨chars,bytes,fun noChars noBytes => absurd ?_ pointer⟩
      exact ⟨(none_of_equalBytes chars).mp noChars,noChars,(none_of_equalBytes bytes).mp noBytes,noBytes⟩
    · rintro ⟨chars,bytes,_⟩
      exact ⟨chars,bytes⟩

theorem equals_symm {value param : IpfixValueField} (same : value.equals param) : param.equals value := by
  rw [equals_iff] at same ⊢
  obtain ⟨chars,bytes,number⟩ := same
  refine ⟨equalBytes_symm chars,equalBytes_symm bytes,fun noChars noBytes => ?_⟩
  exact (number ((none_of_equalBytes chars).mpr noChars) ((none_of_equalBytes bytes).mpr noBytes)).symm

theorem equals_trans {value param third : IpfixValueField} (first : value.equals param) (second : param.equals third) :
    value.equals third := by
  rw [equals_iff] at first second ⊢
  obtain ⟨chars,bytes,number⟩ := first
  obtain ⟨chars',bytes',number'⟩ := second
  refine ⟨equalBytes_trans chars chars',equalBytes_trans bytes bytes',fun noChars noBytes => ?_⟩
  have next := number' ((none_of_equalBytes chars).mp noChars) ((none_of_equalBytes bytes).mp noBytes)
  exact (number noChars noBytes).trans next

end IpfixValueField
namespace IpfixTemplate

def SameHead (templ rhs : IpfixTemplate) : Prop := rhs.type = templ.type ∧ rhs.tid = templ.tid ∧ rhs.maxfields = templ.maxfields

/-- The other template begins with the own fields. -/
def Within (templ rhs : IpfixTemplate) : Prop :=
  templ.SameHead rhs ∧ Along (fun field other => field.equals other) templ.datafields rhs.datafields ∧
    Along (fun field other => field.equals other) templ.scopefields rhs.scopefields

/-- The other template ends before the own fields and before a difference. -/
def RunsOff (templ rhs : IpfixTemplate) : Prop :=
  templ.SameHead rhs ∧
    (BreaksOff (fun field other => field.equals other) (fun _ _ => False) templ.datafields rhs.datafields ∨
      Along (fun field other => field.equals other) templ.datafields rhs.datafields ∧
      BreaksOff (fun field other => field.equals other) (fun _ _ => False) templ.scopefields rhs.scopefields)

def Alike (templ rhs : IpfixTemplate) : Prop :=
  templ.SameHead rhs ∧ List.Forall₂ (fun field other => field.equals other) templ.datafields rhs.datafields ∧
    List.Forall₂ (fun field other => field.equals other) templ.scopefields rhs.scopefields

theorem equalFields_eq_walk (fields others : List IpfixTemplateField) : equalFields fields others =
    walk (fun field other => .ok (field.equals other)) (.fault .readBeyondVector) fields others := by
  induction fields generalizing others with
  | nil => rfl
  | cons field rest ih =>
    cases others with
    | nil => rfl
    | cons other others =>
      rw [equalFields,ih]
      rfl

theorem equalFields_eq_true {fields others : List IpfixTemplateField} :
    equalFields fields others = .ok true ↔ Along (fun field other => field.equals other) fields others := by
  rw [equalFields_eq_walk]
  exact walk_eq_true fun _ _ => by simp

theorem equalFields_breaks {fields others : List IpfixTemplateField} : Breaks (equalFields fields others) ↔
    BreaksOff (fun field other => field.equals other) (fun _ _ => False) fields others := by
  rw [equalFields_eq_walk]
  exact walk_breaks (fun _ _ => by simp) fun _ _ => by simp

theorem equals_of_sameHead {templ rhs : IpfixTemplate} (same : templ.SameHead rhs) : templ.equals rhs = do
    if ← equalFields templ.datafields rhs.datafields then equalFields templ.scopefields rhs.scopefields
    else return false := by
  obtain ⟨type,tid,maxfields⟩ := same
  exact if_neg (by simp [type,tid,maxfields])

theorem equals_of_not_sameHead {templ rhs : IpfixTemplate} (differs : ¬ templ.SameHead rhs) : templ.equals rhs = .ok false :=
  if_pos (by simpa only [SameHead,not_and_or] using differs)

theorem equals_eq_true (templ rhs : IpfixTemplate) : templ.equals rhs = .ok true ↔ templ.Within rhs := by
  by_cases same : templ.SameHead rhs
  · rw [equals_of_sameHead same,both_eq_true,equalFields_eq_true,equalFields_eq_true]
    exact (and_iff_right same).symm
  · rw [equals_of_not_sameHead same]
    exact iff_of_false (by simp) fun within => same within.1

theorem equals_breaks (templ rhs : IpfixTemplate) : Breaks (templ.equals rhs) ↔ templ.RunsOff rhs := by
  by_cases same : templ.SameHead rhs
  · rw [equals_of_sameHead same,both_breaks,equalFields_breaks,equalFields_breaks,equalFields_eq_true]
    exact (and_iff_right same).symm
  · rw [equals_of_not_sameHead same]
    exact iff_of_false (not_breaks_ok false) fun off => same off.1

theorem SameHead.symm {templ rhs : IpfixTemplate} (same : templ.SameHead rhs) : rhs.SameHead templ :=
  ⟨same.1.symm,same.2.1.symm,same.2.2.symm⟩

theorem Within.trans {templ second third : IpfixTemplate} (first : templ.Within second) (next : second.Within third) :
    templ.Within third := by
  obtain ⟨head,data,scope⟩ := first
  obtain ⟨head',data',scope'⟩ := next
  refine ⟨⟨head'.1.trans head.1,head'.2.1.trans head.2.1,head'.2.2.trans head.2.2⟩,?_,?_⟩
  · exact data.trans IpfixTemplateField.equals_trans data'
  · exact scope.trans IpfixTemplateField.equals_trans scope'

theorem Within.back {templ rhs : IpfixTemplate} (within : templ.Within rhs) : rhs.Within templ ∨ rhs.RunsOff templ := by
  obtain ⟨head,data,scope⟩ := within
  have turn (field other : IpfixTemplateField) (same : field.equals other) : other.equals field ∨ False :=
    .inl (IpfixTemplateField.equals_symm same)
  rcases data.back turn with dataBack | off
  · exact (scope.back turn).imp (fun scopeBack => ⟨head.symm,dataBack,scopeBack⟩) fun off => ⟨head.symm,.inr ⟨dataBack,off⟩⟩
  · exact .inr ⟨head.symm,.inl off⟩

theorem Within.both {templ rhs : IpfixTemplate} (forth : templ.Within rhs) (back : rhs.Within templ) : templ.Alike rhs :=
  ⟨forth.1,(forth.2.1.both back.2.1).imp fun _ _ same => same.1,(forth.2.2.both back.2.2).imp fun _ _ same => same.1⟩

theorem Alike.within {templ rhs : IpfixTemplate} (alike : templ.Alike rhs) : templ.Within rhs :=
  ⟨alike.1,.of_forall₂ alike.2.1,.of_forall₂ alike.2.2⟩

theorem Alike.symm {templ rhs : IpfixTemplate} (alike : templ.Alike rhs) : rhs.Alike templ :=
  ⟨alike.1.symm,(alike.2.1.imp fun _ _ => IpfixTemplateField.equals_symm).flip,
    (alike.2.2.imp fun _ _ => IpfixTemplateField.equals_symm).flip⟩

end IpfixTemplate

namespace TemplateContainer

/-- The other container has as many templates, and all own ones. -/
def Within (templates rhs : TemplateContainer) : Prop :=
  rhs.size = templates.size ∧ templates.Inside IpfixTemplate.Within rhs

/-- The first template without an equal one has fields that the other one lacks. -/
def RunsOff (templates rhs : TemplateContainer) : Prop :=
  rhs.size = templates.size ∧
    FirstStuck (fun entry => ∃ templ, rhs.find entry.1 = some templ ∧ entry.2.Within templ)
      (fun entry => ∃ templ, rhs.find entry.1 = some templ ∧ entry.2.RunsOff templ) templates.entries

def Alike (templates rhs : TemplateContainer) : Prop :=
  List.Forall₂ (fun entry other => entry.1 = other.1 ∧ entry.2.Alike other.2) templates.entries rhs.entries

theorem equals_eq_true (templates rhs : TemplateContainer) : templates.equals rhs = .ok true ↔ templates.Within rhs := by
  unfold equals Within
  split
  · rename_i sizes
    exact iff_of_false (by simp) fun within => sizes within.1
  · rename_i sizes
    rw [and_iff_right (not_not.mp sizes)]
    apply OrderedMap.allM_find_eq_true
    · intro entry none
      rw [none]
    · intro entry templ found
      rw [found]
      exact entry.2.equals_eq_true templ

theorem equals_breaks (templates rhs : TemplateContainer) : Breaks (templates.equals rhs) ↔ templates.RunsOff rhs := by
  unfold equals RunsOff
  split
  · rename_i sizes
    exact iff_of_false (not_breaks_ok false) fun off => sizes off.1
  · rename_i sizes
    rw [and_iff_right (not_not.mp sizes)]
    apply OrderedMap.allM_find_breaks
    · intro entry none
      rw [none]
    · intro entry templ found
      rw [found]
      exact entry.2.equals_eq_true templ
    · intro entry templ found
      rw [found]
      exact entry.2.equals_breaks templ

theorem Within.trans {templates second third : TemplateContainer} (first : templates.Within second)
    (next : second.Within third) : templates.Within third :=
  ⟨next.1.trans first.1,first.2.trans (fun _ _ _ same sameNext => same.trans sameNext) next.2⟩

/-- Both have the same keys, so each template can be compared the other way. -/
theorem Within.back {templates rhs : TemplateContainer} (within : templates.Within rhs) :
    rhs.Within templates ∨ rhs.RunsOff templates := by
  have ranks := within.2.ranks_eq_of_size within.1
  have each : ∀ entry ∈ rhs.entries, (∃ templ, templates.find entry.1 = some templ ∧ entry.2.Within templ) ∨
      ∃ templ, templates.find entry.1 = some templ ∧ entry.2.RunsOff templ := by
    intro entry member
    obtain ⟨templ,found⟩ := (templates.exists_find_iff entry.1).mpr (ranks ▸ List.mem_map.mpr ⟨entry,member,rfl⟩)
    have same := within.2.turn member found
    exact same.back.imp (fun back => ⟨templ,found,back⟩) fun off => ⟨templ,found,off⟩
  exact (all_or_firstStuck each).imp (fun all => ⟨within.1.symm,all⟩) fun off => ⟨within.1.symm,off⟩

theorem eq_of_rank {templid other : UInt16} (same : Ranked.rank templid = Ranked.rank other) : templid = other :=
  not_not.mp fun differs => rank_ne differs same

theorem Within.both {templates rhs : TemplateContainer} (forth : templates.Within rhs) (back : rhs.Within templates) :
    templates.Alike rhs :=
  (forth.2.both back.2).imp fun _ _ same => ⟨eq_of_rank same.1,same.2.1.both same.2.2⟩

theorem Alike.within {templates rhs : TemplateContainer} (alike : templates.Alike rhs) : templates.Within rhs := by
  refine ⟨(List.Forall₂.length_eq alike).symm,OrderedMap.Inside.of_forall₂ (alike.imp fun _ _ same => ?_)⟩
  exact ⟨congrArg Ranked.rank same.1,same.2.within⟩

theorem Alike.symm {templates rhs : TemplateContainer} (alike : templates.Alike rhs) : rhs.Alike templates :=
  List.Forall₂.flip (alike.imp fun _ _ same => ⟨same.1.symm,same.2.symm⟩)

end TemplateContainer

namespace IpfixT

def SameSource (t rhs : IpfixT) : Prop := t.sourceid = rhs.sourceid ∧ t.version = rhs.version

/-- The members of the header that are compared after the templates. -/
def SameHeader (t rhs : IpfixT) : Prop :=
  t.nrecords = rhs.nrecords ∧ t.offset = rhs.offset ∧ t.bufferLenght = rhs.bufferLenght ∧ t.seqno = rhs.seqno ∧
    (t.version = ipfixVersionNf9 → rhs.count = t.count ∧ rhs.sysuptime = t.sysuptime ∧ rhs.unixtime = t.unixtime) ∧
    (t.version = ipfixVersion → rhs.length = t.length ∧ rhs.exporttime = t.exporttime)

theorem SameSource.symm {t rhs : IpfixT} (same : t.SameSource rhs) : rhs.SameSource t := ⟨same.1.symm,same.2.symm⟩

theorem SameHeader.symm {t rhs : IpfixT} (source : t.SameSource rhs) (same : t.SameHeader rhs) : rhs.SameHeader t := by
  obtain ⟨records,offset,buffer,seqno,nf9,ipfix⟩ := same
  rw [source.2] at nf9 ipfix
  refine ⟨records.symm,offset.symm,buffer.symm,seqno.symm,fun is => ?_,fun is => ?_⟩
  · exact ⟨(nf9 is).1.symm,(nf9 is).2.1.symm,(nf9 is).2.2.symm⟩
  · exact ⟨(ipfix is).1.symm,(ipfix is).2.symm⟩

theorem SameHeader.trans {t second third : IpfixT} (source : t.SameSource second) (first : t.SameHeader second)
    (next : second.SameHeader third) : t.SameHeader third := by
  obtain ⟨records,offset,buffer,seqno,nf9,ipfix⟩ := first
  obtain ⟨records',offset',buffer',seqno',nf9',ipfix'⟩ := next
  rw [← source.2] at nf9' ipfix'
  refine ⟨records.trans records',offset.trans offset',buffer.trans buffer',seqno.trans seqno',fun is => ?_,fun is => ?_⟩
  · obtain ⟨count,uptime,time⟩ := nf9 is
    obtain ⟨count',uptime',time'⟩ := nf9' is
    exact ⟨count'.trans count,uptime'.trans uptime,time'.trans time⟩
  · exact ⟨(ipfix' is).1.trans (ipfix is).1,(ipfix' is).2.trans (ipfix is).2⟩

theorem equals_of_sameSource {t rhs : IpfixT} (same : t.SameSource rhs) : t.equals rhs = do
    if ← t.templates.equals rhs.templates then
      return t.nrecords = rhs.nrecords ∧ t.offset = rhs.offset ∧ t.bufferLenght = rhs.bufferLenght ∧
        t.seqno = rhs.seqno ∧
        (t.version = ipfixVersionNf9 → rhs.count = t.count ∧ rhs.sysuptime = t.sysuptime ∧ rhs.unixtime = t.unixtime) ∧
        (t.version = ipfixVersion → rhs.length = t.length ∧ rhs.exporttime = t.exporttime)
    else return false :=
  if_neg (by simp [same.1,same.2])

theorem equals_of_not_sameSource {t rhs : IpfixT} (differs : ¬ t.SameSource rhs) : t.equals rhs = .ok false :=
  if_pos (by simpa only [SameSource,not_and_or] using differs)

theorem equals_eq_true (t rhs : IpfixT) :
    t.equals rhs = .ok true ↔ t.SameSource rhs ∧ t.templates.Within rhs.templates ∧ t.SameHeader rhs := by
  by_cases same : t.SameSource rhs
  · rw [equals_of_sameSource same,both_eq_true,TemplateContainer.equals_eq_true,and_iff_right same]
    refine and_congr_right fun _ => ?_
    rw [Call.pure_eq,Except.ok.injEq,decide_eq_true_eq]
    rfl
  · rw [equals_of_not_sameSource same]
    exact iff_of_false (by simp) fun all => same all.1

theorem equals_breaks (t rhs : IpfixT) :
    Breaks (t.equals rhs) ↔ t.SameSource rhs ∧ t.templates.RunsOff rhs.templates := by
  by_cases same : t.SameSource rhs
  · rw [equals_of_sameSource same,both_breaks,TemplateContainer.equals_breaks,and_iff_right same]
    exact or_iff_left fun both => not_breaks_ok _ both.2
  · rw [equals_of_not_sameSource same]
    exact iff_of_false (not_breaks_ok false) fun off => same off.1

end IpfixT

namespace IpfixDataRecord

/-- The other record has equal values under all own keys. -/
def Within (record rhs : IpfixDataRecord) : Prop :=
  record.fieldData.Inside (fun own value => value.copy.equals own.copy) rhs.fieldData

/-- The first value without an equal one has a key that the other record lacks. -/
def RunsOff (record rhs : IpfixDataRecord) : Prop :=
  FirstStuck (fun entry => ∃ value, rhs.fieldData.find entry.1 = some value ∧ value.copy.equals entry.2.copy)
    (fun entry => rhs.fieldData.find entry.1 = none) record.fieldData.entries

/-- The records have the same values in the same order, under keys that the map takes for the same. -/
def Alike (record rhs : IpfixDataRecord) : Prop :=
  List.Forall₂ (fun entry other => Ranked.rank entry.1 = Ranked.rank other.1 ∧ other.2.copy.equals entry.2.copy)
    record.fieldData.entries rhs.fieldData.entries

/-- The records are of one template, with equal values of the same fields. -/
def Same (record rhs : IpfixDataRecord) : Prop :=
  record.templateId = rhs.templateId ∧
    List.Forall₂ (fun entry other => entry.1 = other.1 ∧ other.2.copy.equals entry.2.copy) record.fieldData.entries
      rhs.fieldData.entries

/-- The comparison of one value, as the search for a difference has it. -/
theorem agrees_iff (rhs : IpfixDataRecord) (entry : IpfixFieldKey × IpfixValueField) :
    (do let value ← rhs.getField entry.1; return !value.copy.equals entry.2.copy : Call Bool).map not = .ok true ↔
      ∃ value, rhs.fieldData.find entry.1 = some value ∧ value.copy.equals entry.2.copy := by
  unfold getField
  cases rhs.fieldData.find entry.1 with
  | none => simp [Call.badArgument,Call.throw,Except.map]
  | some value => simp [Except.map]

theorem lacks_iff (rhs : IpfixDataRecord) (entry : IpfixFieldKey × IpfixValueField) :
    Breaks ((do let value ← rhs.getField entry.1; return !value.copy.equals entry.2.copy : Call Bool).map not) ↔
      rhs.fieldData.find entry.1 = none := by
  unfold getField
  cases rhs.fieldData.find entry.1 with
  | none => simp [Call.badArgument,Call.throw]
  | some value => simp

theorem not_differs_eq (record rhs : IpfixDataRecord) : (record.differs rhs).map not =
    record.fieldData.entries.allM fun entry =>
      (do let value ← rhs.getField entry.1; return !value.copy.equals entry.2.copy : Call Bool).map not := by
  unfold differs
  rw [anyM_eq_allM,map_not_not]

theorem not_differs_eq_true (record rhs : IpfixDataRecord) : (record.differs rhs).map not = .ok true ↔ record.Within rhs := by
  rw [not_differs_eq,allM_eq_true]
  exact forall₂_congr fun entry _ => agrees_iff rhs entry

theorem not_differs_breaks (record rhs : IpfixDataRecord) :
    Breaks ((record.differs rhs).map not) ↔ record.RunsOff rhs := by
  rw [not_differs_eq]
  exact allM_breaks (agrees_iff rhs) (lacks_iff rhs)

theorem Within.trans {record second third : IpfixDataRecord} (first : record.Within second) (next : second.Within third) :
    record.Within third := by
  refine OrderedMap.Inside.trans (fun own value last same sameNext => ?_) first next
  exact IpfixValueField.equals_trans sameNext same

theorem Within.back {record rhs : IpfixDataRecord} (within : record.Within rhs) : rhs.Within record ∨ rhs.RunsOff record := by
  apply all_or_firstStuck
  intro entry member
  cases found : record.fieldData.find entry.1 with
  | none => exact .inr rfl
  | some value => exact .inl ⟨value,rfl,IpfixValueField.equals_symm (OrderedMap.Inside.turn within member found)⟩

theorem Within.both {record rhs : IpfixDataRecord} (forth : record.Within rhs) (back : rhs.Within record) : record.Alike rhs :=
  (OrderedMap.Inside.both forth back).imp fun _ _ same => ⟨same.1,same.2.1⟩

theorem Alike.within {record rhs : IpfixDataRecord} (alike : record.Alike rhs) : record.Within rhs :=
  OrderedMap.Inside.of_forall₂ alike

theorem Alike.symm {record rhs : IpfixDataRecord} (alike : record.Alike rhs) : rhs.Alike record :=
  List.Forall₂.flip (alike.imp fun _ _ same => ⟨same.1.symm,IpfixValueField.equals_symm same.2⟩)

end IpfixDataRecord
namespace MnslpIpfixMessage

/-- What `isEqual` finds the same of the first message in the second one. -/
def Within (m rhs : MnslpIpfixMessage) : Prop :=
  match m.message,rhs.message with
  | .null,.null => True
  | .live t,.live other => (other.SameSource t ∧ other.templates.Within t.templates ∧ other.SameHeader t) ∧
      Along IpfixDataRecord.Within m.dataList rhs.dataList
  | _,_ => False

/-- The comparison with the second message comes to a field, a record or a value that it needs
and that is not there, before it comes to a difference. -/
def RunsOff (m rhs : MnslpIpfixMessage) : Prop :=
  match m.message,rhs.message with
  | .null,_ => False
  | _,.null => False
  | .live t,.live other => other.SameSource t ∧ other.templates.RunsOff t.templates ∨
      (other.SameSource t ∧ other.templates.Within t.templates ∧ other.SameHeader t) ∧
      BreaksOff IpfixDataRecord.Within IpfixDataRecord.RunsOff m.dataList rhs.dataList
  | _,_ => True

/-- Nothing that `isEqual` compares is different in the two messages. -/
def Alike (m rhs : MnslpIpfixMessage) : Prop :=
  match m.message,rhs.message with
  | .null,.null => True
  | .live t,.live other => (t.SameSource other ∧ t.templates.Alike other.templates ∧ t.SameHeader other) ∧
      List.Forall₂ IpfixDataRecord.Alike m.dataList rhs.dataList
  | _,_ => False

/-- The templates of the message; a message without `ipfix_t` has none. -/
def templates (m : MnslpIpfixMessage) : TemplateContainer :=
  match m.message with
  | .live t => t.templates
  | _ => .empty

/-- As many templates, pairwise with equal scope and data fields, and as many records, pairwise
with equal values of the same fields of the same template. -/
def EqualContent (m rhs : MnslpIpfixMessage) : Prop :=
  m.templates.Alike rhs.templates ∧ List.Forall₂ IpfixDataRecord.Same m.dataList rhs.dataList

theorem equalRecords_eq_walk (records others : List IpfixDataRecord) : equalRecords records others =
    walk (fun record other => (record.differs other).map not) (.fault .readBeyondVector) records others := by
  induction records generalizing others with
  | nil => rfl
  | cons record rest ih =>
    cases others with
    | nil => rfl
    | cons other others =>
      rw [equalRecords,ih,walk]
      rcases record.differs other with stop | (_ | _) <;> rfl

theorem isEqual_of_live {m rhs : MnslpIpfixMessage} {t other : IpfixT} (own : m.message = .live t)
    (given : rhs.message = .live other) : m.isEqual rhs = do
      if ← other.equals t then equalRecords m.dataList rhs.dataList else return false := by
  simp [isEqual,liveMessage,own,given]

theorem isEqual_eq_true (m rhs : MnslpIpfixMessage) : m.isEqual rhs = .ok true ↔ m.Within rhs := by
  cases own : m.message with
  | null => cases given : rhs.message <;> simp [isEqual,Within,own,given]
  | dangling => cases given : rhs.message <;> simp [isEqual,Within,liveMessage,own,given,Call.fault]
  | live t =>
    cases given : rhs.message with
    | null => simp [isEqual,Within,own,given]
    | dangling => simp [isEqual,Within,liveMessage,own,given,Call.fault]
    | live other =>
      rw [isEqual_of_live own given,both_eq_true,IpfixT.equals_eq_true,equalRecords_eq_walk,
        walk_eq_true IpfixDataRecord.not_differs_eq_true]
      simp only [Within,own,given]

theorem isEqual_breaks (m rhs : MnslpIpfixMessage) : Breaks (m.isEqual rhs) ↔ m.RunsOff rhs := by
  cases own : m.message with
  | null => cases given : rhs.message <;> simp [isEqual,RunsOff,own,given]
  | dangling => cases given : rhs.message <;> simp [isEqual,RunsOff,liveMessage,own,given,Call.fault]
  | live t =>
    cases given : rhs.message with
    | null => simp [isEqual,RunsOff,own,given]
    | dangling => simp [isEqual,RunsOff,liveMessage,own,given,Call.fault]
    | live other =>
      rw [isEqual_of_live own given,both_breaks,IpfixT.equals_breaks,IpfixT.equals_eq_true,equalRecords_eq_walk,
        walk_breaks IpfixDataRecord.not_differs_eq_true IpfixDataRecord.not_differs_breaks]
      simp only [RunsOff,own,given]

theorem Within.trans {m second third : MnslpIpfixMessage} (first : m.Within second) (next : second.Within third) :
    m.Within third := by
  unfold Within at first next ⊢
  cases own : m.message <;> cases middle : second.message <;> cases last : third.message <;>
    simp only [own,middle,last] at first next ⊢
  obtain ⟨⟨source,templates,header⟩,records⟩ := first
  obtain ⟨⟨source',templates',header'⟩,records'⟩ := next
  refine ⟨⟨?_,templates'.trans templates,header'.trans source' header⟩,?_⟩
  · exact ⟨source'.1.trans source.1,source'.2.trans source.2⟩
  · exact records.trans (fun _ _ _ within withinNext => within.trans withinNext) records'

/-- A comparison that finds no difference finds none the other way, or runs off. -/
theorem Within.back {m rhs : MnslpIpfixMessage} (within : m.Within rhs) : rhs.Within m ∨ rhs.RunsOff m := by
  unfold Within RunsOff
  unfold Within at within
  cases own : m.message <;> cases given : rhs.message <;> simp only [own,given] at within ⊢
  · exact .inl trivial
  · obtain ⟨⟨source,templates,header⟩,records⟩ := within
    rcases templates.back with templatesBack | off
    · have all := And.intro source.symm (And.intro templatesBack (header.symm source))
      exact (records.back fun _ _ same => same.back).imp (fun recordsBack => ⟨all,recordsBack⟩) fun off => .inr ⟨all,off⟩
    · exact .inr (.inl ⟨source.symm,off⟩)

theorem Within.both {m rhs : MnslpIpfixMessage} (forth : m.Within rhs) (back : rhs.Within m) : m.Alike rhs := by
  unfold Within at forth back
  unfold Alike
  cases own : m.message <;> cases given : rhs.message <;> simp only [own,given] at forth back ⊢
  obtain ⟨⟨source,templates,header⟩,records⟩ := forth
  obtain ⟨⟨_,templatesBack,_⟩,recordsBack⟩ := back
  refine ⟨⟨source.symm,templatesBack.both templates,header.symm source⟩,?_⟩
  exact (records.both recordsBack).imp fun _ _ same => same.1.both same.2

theorem Alike.within {m rhs : MnslpIpfixMessage} (alike : m.Alike rhs) : m.Within rhs := by
  unfold Alike at alike
  unfold Within
  cases own : m.message <;> cases given : rhs.message <;> simp only [own,given] at alike ⊢
  obtain ⟨⟨source,templates,header⟩,records⟩ := alike
  refine ⟨⟨source.symm,templates.symm.within,header.symm source⟩,?_⟩
  exact .of_forall₂ (records.imp fun _ _ same => same.within)

theorem Alike.symm {m rhs : MnslpIpfixMessage} (alike : m.Alike rhs) : rhs.Alike m := by
  unfold Alike at alike ⊢
  cases own : m.message <;> cases given : rhs.message <;> simp only [own,given] at alike ⊢
  obtain ⟨⟨source,templates,header⟩,records⟩ := alike
  exact ⟨⟨source.symm,templates.symm,header.symm source⟩,(records.imp fun _ _ same => same.symm).flip⟩

theorem alike_copy {m : MnslpIpfixMessage} (kept : m.message ≠ .dangling) : m.Alike m.copy := by
  unfold Alike copy
  cases own : m.message with
  | null => trivial
  | dangling => exact absurd own kept
  | live t =>
    refine ⟨⟨⟨rfl,rfl⟩,?_,⟨rfl,rfl,rfl,rfl,fun _ => ⟨rfl,rfl,rfl⟩,fun _ => ⟨rfl,rfl⟩⟩⟩,?_⟩
    · refine List.forall₂_map_right_iff.mpr (List.forall₂_same.mpr fun entry _ => ⟨rfl,⟨rfl,rfl,rfl⟩,?_,?_⟩)
      · exact List.forall₂_same.mpr fun field _ => field.equals_self
      · exact List.forall₂_same.mpr fun field _ => field.equals_self
    · refine List.forall₂_same.mpr fun record _ => List.forall₂_same.mpr fun entry _ => ⟨rfl,?_⟩
      exact entry.2.copy.equals_self

theorem Alike.templates {m rhs : MnslpIpfixMessage} (alike : m.Alike rhs) : m.templates.Alike rhs.templates := by
  unfold Alike at alike
  unfold MnslpIpfixMessage.templates
  cases own : m.message <;> cases given : rhs.message <;> simp only [own,given] at alike ⊢
  · exact .nil
  · exact alike.1.2.1

/-- The laws of an equivalence as they concern three messages, and what equality stands for. -/
def EqualityLaws (a b c : MnslpIpfixMessage) : Prop :=
  a.isEqual a = .ok true ∧ (∃ verdict, a.isEqual b = .ok verdict ∧ b.isEqual a = .ok verdict) ∧
    (a.isEqual b = .ok true → b.isEqual c = .ok true → a.isEqual c = .ok true) ∧
    (a.isEqual b = .ok true → a.EqualContent b)

theorem isEqual_self {m : MnslpIpfixMessage} (kept : m.message ≠ .dangling) : m.isEqual m = .ok true := by
  cases own : m.message with
  | null => simp [isEqual,own]
  | dangling => exact absurd own kept
  | live t =>
    rw [isEqual_of_live own own]
    have header : t.SameHeader t := ⟨rfl,rfl,rfl,rfl,fun _ => ⟨rfl,rfl,rfl⟩,fun _ => ⟨rfl,rfl⟩⟩
    have templates := (TemplateContainer.equals_eq_true _ _).mp t.templates.equals_self
    exact both_eq_true.mpr ⟨(IpfixT.equals_eq_true t t).mpr ⟨⟨rfl,rfl⟩,templates,header⟩,equalRecords_self m.dataList⟩

theorem isEqual_back {a b : MnslpIpfixMessage} (endsBack : ¬ b.RunsOff a) (same : a.isEqual b = .ok true) :
    b.isEqual a = .ok true := by
  rw [isEqual_eq_true] at same ⊢
  exact same.back.resolve_right endsBack

theorem isEqual_symm {a b : MnslpIpfixMessage} (ends : ¬ a.RunsOff b) (endsBack : ¬ b.RunsOff a) :
    ∃ verdict, a.isEqual b = .ok verdict ∧ b.isEqual a = .ok verdict := by
  obtain ⟨verdict,forth⟩ := ok_of_not_breaks (mt (isEqual_breaks a b).mp ends)
  obtain ⟨verdictBack,back⟩ := ok_of_not_breaks (mt (isEqual_breaks b a).mp endsBack)
  refine ⟨verdict,forth,?_⟩
  cases verdict with
  | true => exact isEqual_back endsBack forth
  | false =>
    cases verdictBack with
    | false => exact back
    | true => exact absurd ((isEqual_back ends back).symm.trans forth) (by simp)

theorem isEqual_trans {a b c : MnslpIpfixMessage} (first : a.isEqual b = .ok true) (next : b.isEqual c = .ok true) :
    a.isEqual c = .ok true := by
  rw [isEqual_eq_true] at first next ⊢
  exact first.trans next

/-- It is an equivalence of contents for messages of which neither runs off the other, and that
do not differ in what no loop looks at: the templates of records, and keys of one rank. -/
theorem equalityLaws_iff (a b c : MnslpIpfixMessage) : EqualityLaws a b c ↔
    a.message ≠ .dangling ∧ ¬ a.RunsOff b ∧ ¬ b.RunsOff a ∧
      (a.Alike b → List.Forall₂ IpfixDataRecord.Same a.dataList b.dataList) := by
  constructor
  · rintro ⟨self,⟨verdict,forth,back⟩,_,content⟩
    refine ⟨fun deleted => ?_,fun off => ?_,fun off => ?_,fun alike => ?_⟩
    · simp [isEqual,liveMessage,deleted,Call.fault] at self
    · have broken := (isEqual_breaks a b).mpr off
      rw [forth] at broken
      exact not_breaks_ok verdict broken
    · have broken := (isEqual_breaks b a).mpr off
      rw [back] at broken
      exact not_breaks_ok verdict broken
    · exact (content ((isEqual_eq_true a b).mpr alike.within)).2
  · rintro ⟨kept,ends,endsBack,overlooked⟩
    refine ⟨isEqual_self kept,isEqual_symm ends endsBack,isEqual_trans,fun same => ?_⟩
    have back := (isEqual_eq_true b a).mp (isEqual_back endsBack same)
    have alike := ((isEqual_eq_true a b).mp same).both back
    exact ⟨alike.templates,overlooked alike⟩

/-- A message and the same with one record more: equal one way, a read beyond the other way. -/
theorem isEqual_oneMore : ∃ m, (sectionMessage [1]).edit (.includeData 256 (sectionRecord [2])) = .ok m ∧
    (sectionMessage [1]).isEqual m = .ok true ∧ m.isEqual (sectionMessage [1]) = Call.fault .readBeyondVector :=
  ⟨_,rfl,rfl,rfl⟩

theorem not_equalityLaws :
    ¬ ∀ a b c : MnslpIpfixMessage, a.Built → b.Built → c.Built → EqualityLaws a b c := by
  intro always
  obtain ⟨m,included,_,beyond⟩ := isEqual_oneMore
  have built := built_sectionMessage [1]
  obtain ⟨_,⟨verdict,_,back⟩,_⟩ := always (sectionMessage [1]) m m built (built.edit _ included) (built.edit _ included)
  rw [beyond] at back
  cases back

end MnslpIpfixMessage
end Mnslp.Msg
