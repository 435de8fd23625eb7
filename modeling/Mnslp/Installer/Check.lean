import Mnslp.Installer.PolicyAction
import Mnslp.Msg.MnslpObject
import Mnslp.Msg.OutputSteps

/-! The check of an object before it is installed, after `check` of the class
`netmate_ipfix_policy_rule_installer`: its templates against the configurations of the metering
application and of the actions. -/
namespace Mnslp.Msg
open Mnslp.Lib

/-- The loops over the fields of a template that end with the first one that does not pass. -/
def IpfixTemplate.everyField (templ : IpfixTemplate) (passes : IpfixFieldType → Bool) : Call Bool :=
  (List.range templ.getNumfields).allM fun i => do
    let field ← templ.getField i
    return passes field.elem

/-- Whether `get_field` returns a value; it throws `mnslp_ipfix_bad_argument` otherwise. -/
def IpfixDataRecord.hasField (record : IpfixDataRecord) (field : IpfixFieldType) : Bool :=
  (record.getField field.getFieldKey).isOk

namespace MnslpIpfixMessage

def getNumTemplates (m : MnslpIpfixMessage) : Call Nat :=
  match m.message with
  | .null => .ok 0
  | _ => do return (← m.liveMessage).templates.size

def getTemplateList (m : MnslpIpfixMessage) : Call (List UInt16) :=
  match m.message with
  | .null => .ok []
  | _ => do return (← m.liveMessage).templates.keys

/-- A pointer, which is null where there is no message. -/
def getTemplate (m : MnslpIpfixMessage) (templid : UInt16) : Call (Option IpfixTemplate) :=
  match m.message with
  | .null => .ok none
  | _ => do
    let t ← m.liveMessage
    return some (← t.templates.getTemplate templid)

/-- The loop over the records, with what it returns when it comes to their end. -/
def includeLoop (templ : IpfixTemplate) (valReturn : Bool) : List IpfixDataRecord → Call Bool
  | [] => return valReturn
  | record :: rest => do
    if record.templateId = templ.tid then
      if record.getNumFields ≠ templ.getNumfields then return false
      else if ← templ.everyField record.hasField then includeLoop templ true rest
      else return false
    else includeLoop templ valReturn rest

def includeAllDataFields (m : MnslpIpfixMessage) (templ : IpfixTemplate) : Call Bool := includeLoop templ false m.dataList

end MnslpIpfixMessage
end Mnslp.Msg

namespace Mnslp.Installer
open Mnslp.Lib Mnslp.Msg

/-- The installer with what the configuration gives it. -/
structure NetmateIpfixPolicyRuleInstaller where
  meteringApplication : Text
  exportDirectory : Text := []
  applicationConfigurationContainer : PolicyApplicationConfigurationContainer
  actionContainer : PolicyActionContainer

/-- The loop that stops at the first template of a type, or at the last template. -/
def templateLoop (type : IpfixTemplType) (mess : MnslpIpfixMessage) (templ : Option IpfixTemplate) :
    List UInt16 → Call (Option IpfixTemplate)
  | [] => return templ
  | templid :: rest => do
    match ← mess.getTemplate templid with
    | none => Call.fault .nullDereference
    | some templ => if templ.type = type then return some templ else templateLoop type mess (some templ) rest

def getTemplateOfType (type : IpfixTemplType) (mess : MnslpIpfixMessage) : Call (Option IpfixTemplate) := do
  templateLoop type mess none (← mess.getTemplateList)

def getFilterTemplate := getTemplateOfType .optionTemplate

def getExportTemplate := getTemplateOfType .dataTemplate

namespace NetmateIpfixPolicyRuleInstaller
variable (installer : NetmateIpfixPolicyRuleInstaller)

def isExportField (field : IpfixFieldType) : Bool :=
  installer.applicationConfigurationContainer.isExportField installer.meteringApplication field

def handleExportFields (templ : IpfixTemplate) : Call Bool :=
  templ.everyField fun field =>
    if installer.isExportField field = false then false
    else installer.actionContainer.checkFieldAvailability installer.meteringApplication field

def handleFilterFields (templ : IpfixTemplate) : Call Bool :=
  templ.everyField (installer.applicationConfigurationContainer.checkFieldAvailability installer.meteringApplication)

/-- The errors of `check` differ in their code only. -/
def invalidMessage (responseCode : UInt8) : Call Unit :=
  Call.throw (.policyRuleInstallerError "Invalid ipfix message" MnslpMsg.scSignalingSessionFailures responseCode)

def check (mess : MnslpIpfixMessage) : Call Unit := do
  if (← mess.getNumTemplates) = 2 then
    match ← getExportTemplate mess with
    | none => invalidMessage MnslpMsg.sigfailWrongConfMessage
    | some templ =>
      if (← installer.handleExportFields templ) = false then invalidMessage MnslpMsg.sigfailRuleActionNotApplicable
    match ← getFilterTemplate mess with
    | none => invalidMessage MnslpMsg.sigfailWrongConfMessage
    | some templ =>
      if (← mess.includeAllDataFields templ) = false then invalidMessage MnslpMsg.sigfailWrongConfMessage
      if (← installer.handleFilterFields templ) = false then invalidMessage MnslpMsg.sigfailFilterActionNotApplicable
  else invalidMessage MnslpMsg.sigfailWrongConfMessage

/-- The fields of a template can be exported by an action. -/
def ExportsFields (templ : IpfixTemplate) : Prop := ∀ field ∈ templ.allFields,
  installer.isExportField field.elem = true ∧
    installer.actionContainer.checkFieldAvailability installer.meteringApplication field.elem = true

/-- There are records of a template, with a value for each of its fields, which the metering
application knows. -/
structure FiltersFields (mess : MnslpIpfixMessage) (templ : IpfixTemplate) : Prop where
  record : ∃ record ∈ mess.dataList, record.templateId = templ.tid
  values : ∀ record ∈ mess.dataList, record.templateId = templ.tid → ∀ field ∈ templ.allFields,
    ∃ value, record.getField field.elem.getFieldKey = .ok value
  available : ∀ field ∈ templ.allFields,
    installer.applicationConfigurationContainer.checkFieldAvailability installer.meteringApplication field.elem = true

/-- A proper configuration has one template for the export and one for the filter. -/
def Proper (mess : MnslpIpfixMessage) : Prop :=
  ∃ (t : IpfixT) (templ filter : IpfixTemplate), mess.message = .live t ∧
    t.templates.values.filter (fun templ => templ.type = .dataTemplate) = [templ] ∧
    t.templates.values.filter (fun templ => templ.type = .optionTemplate) = [filter] ∧
    installer.ExportsFields templ ∧ installer.FiltersFields mess filter

/-- `check` finds the fields of the template that it takes for the export to be in order. -/
def TakesExport (templ : IpfixTemplate) : Prop :=
  templ.OneKind ∧ installer.ExportsFields templ

/-- `check` finds the records and the fields of the template that it takes for the filter to be
in order. -/
def TakesFilter (mess : MnslpIpfixMessage) (templ : IpfixTemplate) : Prop :=
  templ.OneKind ∧ installer.FiltersFields mess templ ∧
    ∀ record ∈ mess.dataList, record.templateId = templ.tid → record.getNumFields = templ.getNumfields

end NetmateIpfixPolicyRuleInstaller

theorem hasField_iff {record : IpfixDataRecord} {field : IpfixFieldType} :
    record.hasField field = true ↔ ∃ value, record.getField field.getFieldKey = .ok value := by
  unfold IpfixDataRecord.hasField
  cases record.getField field.getFieldKey <;> simp [Except.isOk,Except.toBool]

section
variable {templ : IpfixTemplate} {passes : IpfixFieldType → Bool}

/-- The loop comes to the end of the fields only where it can read all of them. -/
theorem everyField_eq_true : templ.everyField passes = .ok true ↔ templ.OneKind ∧
    ∀ field ∈ templ.allFields, passes field.elem = true := by
  unfold IpfixTemplate.everyField
  rw [allM_eq_true]
  constructor
  · intro all
    have each (i : Nat) (member : i ∈ List.range templ.getNumfields) :
        ∃ field, templ.getField i = .ok field ∧ passes field.elem = true := by
      obtain ⟨field,found,same⟩ := Call.bind_eq_ok.mp (all i member)
      exact ⟨field,found,Except.ok.inj same⟩
    obtain ⟨fields,read⟩ := Call.exists_mapM.mpr fun i member => (each i member).imp fun _ => And.left
    obtain ⟨one,rfl⟩ := IpfixTemplate.fields_eq_ok.mp read
    refine ⟨one,fun field member => ?_⟩
    obtain ⟨i,inside,found⟩ := partner_of_mem (Call.mapM_eq_ok.mp read).flip member
    obtain ⟨_,again,passed⟩ := each i inside
    cases found.symm.trans again
    exact passed
  · rintro ⟨one,all⟩ i member
    obtain ⟨field,inside,found⟩ := partner_of_mem (Call.mapM_eq_ok.mp (templ.fields_of_oneKind one)) member
    rw [found]
    exact congrArg Except.ok (all field inside)

theorem includeLoop_eq_true {valReturn : Bool} {records : List IpfixDataRecord} :
    MnslpIpfixMessage.includeLoop templ valReturn records = .ok true ↔
      (valReturn = true ∨ ∃ record ∈ records, record.templateId = templ.tid) ∧
        ∀ record ∈ records, record.templateId = templ.tid →
          record.getNumFields = templ.getNumfields ∧ templ.everyField record.hasField = .ok true := by
  induction records generalizing valReturn with
  | nil => simp [MnslpIpfixMessage.includeLoop,pure,Except.pure]
  | cons record rest ih =>
    rw [MnslpIpfixMessage.includeLoop,List.forall_mem_cons]
    by_cases own : record.templateId = templ.tid
    · rw [if_pos own]
      by_cases count : record.getNumFields = templ.getNumfields
      · rw [if_neg (not_not.mpr count),both_eq_true,ih]
        constructor
        · rintro ⟨here,_,others⟩
          exact ⟨.inr ⟨record,List.mem_cons_self,own⟩,fun _ => ⟨count,here⟩,others⟩
        · rintro ⟨_,first,others⟩
          exact ⟨(first own).2,.inl rfl,others⟩
      · rw [if_pos count]
        simp [own,count,pure,Except.pure]
    · rw [if_neg own,ih]
      simp [own]

end

section
variable {mess : MnslpIpfixMessage} {t : IpfixT}

theorem getTemplate_of_mem (live : mess.message = .live t) {templid : UInt16} {templ : IpfixTemplate}
    (member : (templid,templ) ∈ t.templates.entries) : mess.getTemplate templid = .ok (some templ) := by
  have found := TemplateContainer.getTemplate_of_find (t.templates.find_of_mem templid templ member)
  unfold MnslpIpfixMessage.getTemplate
  rw [live]
  simp only [MnslpIpfixMessage.liveMessage_eq_ok live,found,Call.ok_bind,Call.pure_eq]

theorem templateLoop_eq (live : mess.message = .live t) (type : IpfixTemplType) (last : Option IpfixTemplate)
    {entries : List (UInt16 × IpfixTemplate)} (stored : ∀ entry ∈ entries, entry ∈ t.templates.entries) :
    templateLoop type mess last (entries.map Prod.fst) = .ok (((entries.map Prod.snd).find? fun templ => templ.type = type).or
      ((entries.map Prod.snd).getLast?.or last)) := by
  induction entries generalizing last with
  | nil => rfl
  | cons entry rest ih =>
    obtain ⟨own,others⟩ := List.forall_mem_cons.mp stored
    rw [List.map_cons,List.map_cons,templateLoop,getTemplate_of_mem live own,Call.ok_bind,List.find?_cons,List.getLast?_cons]
    by_cases here : entry.2.type = type
    · simp only [here,if_true,decide_true,Option.some_or,Call.pure_eq]
    · simp only [here,if_false,decide_false,ih _ others]
      cases (rest.map Prod.snd).getLast? <;> rfl

/-- The first template of the type, or the last of all templates. -/
theorem getTemplateOfType_eq (live : mess.message = .live t) (type : IpfixTemplType) : getTemplateOfType type mess =
    .ok ((t.templates.values.find? fun templ => templ.type = type).or t.templates.values.getLast?) := by
  unfold getTemplateOfType MnslpIpfixMessage.getTemplateList
  rw [live]
  simp only [MnslpIpfixMessage.liveMessage_eq_ok live,Call.ok_bind,Call.pure_eq]
  have found := templateLoop_eq live type none fun entry member => member
  rw [Option.or_none] at found
  exact found

theorem live_of_getNumTemplates {count : Nat} (counted : mess.getNumTemplates = .ok (count + 1)) :
    ∃ t, mess.message = .live t ∧ t.templates.values.length = count + 1 := by
  unfold MnslpIpfixMessage.getNumTemplates MnslpIpfixMessage.liveMessage at counted
  cases live : mess.message with
  | null =>
    rw [live] at counted
    cases counted
  | dangling =>
    rw [live] at counted
    cases counted
  | live t =>
    rw [live] at counted
    exact ⟨t,rfl,(List.length_map _).trans (Except.ok.inj counted)⟩

theorem getNumTemplates_of_live (live : mess.message = .live t) : mess.getNumTemplates = .ok t.templates.values.length := by
  unfold MnslpIpfixMessage.getNumTemplates
  rw [live]
  simp only [MnslpIpfixMessage.liveMessage_eq_ok live,Call.ok_bind,Call.pure_eq,OrderedMap.values,List.length_map]
  rfl

theorem getTemplateOfType_pair (live : mess.message = .live t) {first second : IpfixTemplate}
    (two : t.templates.values = [first,second]) (type : IpfixTemplType) :
    getTemplateOfType type mess = .ok (some (if first.type = type then first else second)) := by
  rw [getTemplateOfType_eq live,two]
  by_cases own : first.type = type
  · simp [own]
  · by_cases other : second.type = type <;> simp [own,other]

end

namespace NetmateIpfixPolicyRuleInstaller
variable {installer : NetmateIpfixPolicyRuleInstaller} {mess : MnslpIpfixMessage}

/-- A test of `check` goes on only where it is passed. -/
private theorem tested (passes : Call Bool) {failed : Call Unit} (rest : Call Unit) (fails : failed ≠ .ok ()) :
    (do if (← passes) = false then failed else rest) = .ok () ↔ passes = .ok true ∧ rest = .ok () := by
  rcases passes with stop | (_ | _) <;> simp [bind,Except.bind,fails]

theorem handleExportFields_iff {templ : IpfixTemplate} :
    installer.handleExportFields templ = .ok true ↔ installer.TakesExport templ := by
  unfold handleExportFields
  rw [everyField_eq_true]
  refine and_congr_right fun _ => forall₂_congr fun field _ => ?_
  cases installer.isExportField field.elem <;> simp

theorem takesFilter_iff {templ : IpfixTemplate} : installer.TakesFilter mess templ ↔
    mess.includeAllDataFields templ = .ok true ∧ installer.handleFilterFields templ = .ok true := by
  unfold TakesFilter handleFilterFields MnslpIpfixMessage.includeAllDataFields
  rw [includeLoop_eq_true]
  simp only [everyField_eq_true,hasField_iff]
  constructor
  · rintro ⟨one,⟨some,values,available⟩,count⟩
    exact ⟨⟨.inr some,fun record member own => ⟨count record member own,one,values record member own⟩⟩,one,available⟩
  · rintro ⟨⟨some,each⟩,one,available⟩
    have some := some.resolve_left Bool.false_ne_true
    exact ⟨one,⟨some,fun record member own => (each record member own).2.2,available⟩,
      fun record member own => (each record member own).1⟩

/-- The steps of `check` on an object with two templates. -/
theorem check_of_pair {t : IpfixT} (live : mess.message = .live t) {first second : IpfixTemplate}
    (two : t.templates.values = [first,second]) : installer.check mess = .ok () ↔
      installer.TakesExport (if first.type = .dataTemplate then first else second) ∧
        installer.TakesFilter mess (if first.type = .optionTemplate then first else second) := by
  have count := getNumTemplates_of_live live
  rw [two] at count
  rw [← handleExportFields_iff,takesFilter_iff]
  unfold check getExportTemplate getFilterTemplate
  simp only [count,getTemplateOfType_pair live two,Call.ok_bind,List.length_cons,List.length_nil,if_true]
  rw [tested _ _ (by rintro ⟨⟩),tested _ _ (by rintro ⟨⟩),tested _ _ (by rintro ⟨⟩)]
  exact and_congr_right fun _ => and_congr_right fun _ => and_iff_left rfl

theorem pair_of_check (ended : installer.check mess = .ok ()) :
    ∃ (t : IpfixT) (first second : IpfixTemplate), mess.message = .live t ∧ t.templates.values = [first,second] := by
  unfold check at ended
  obtain ⟨count,counted,ended⟩ := Call.bind_eq_ok.mp ended
  by_cases two : count = 2
  · subst two
    obtain ⟨t,live,length⟩ := live_of_getNumTemplates counted
    obtain ⟨first,second,both⟩ := List.length_eq_two.mp length
    exact ⟨t,first,second,live,both⟩
  · rw [if_neg two] at ended
    cases ended

/-- What `check` accepts is proper unless it has two templates of one type, of which the one would
pass as the template of the other type. -/
theorem check_proper_iff (installer : NetmateIpfixPolicyRuleInstaller) (mess : MnslpIpfixMessage) :
    (installer.check mess = .ok () → installer.Proper mess) ↔
      ∀ (t : IpfixT) (first second : IpfixTemplate), mess.message = .live t → t.templates.values = [first,second] →
        (first.type = .dataTemplate → second.type = .dataTemplate →
          ¬ (installer.TakesExport first ∧ installer.TakesFilter mess second)) ∧
        (first.type = .optionTemplate → second.type = .optionTemplate →
          ¬ (installer.TakesExport second ∧ installer.TakesFilter mess first)) := by
  constructor
  · intro sound t first second live two
    refine ⟨fun one other both => ?_,fun one other both => ?_⟩
    · obtain ⟨t',_,filter,live',_,option,_⟩ := sound ((check_of_pair live two).mpr (by simpa [one] using both))
      cases live.symm.trans live'
      simp [two,one,other] at option
    · obtain ⟨t',templ,_,live',data,_⟩ := sound ((check_of_pair live two).mpr (by simpa [one] using both))
      cases live.symm.trans live'
      simp [two,one,other] at data
  · intro condition ended
    obtain ⟨t,first,second,live,two⟩ := pair_of_check ended
    obtain ⟨takes,filters⟩ := (check_of_pair live two).mp ended
    obtain ⟨data,option⟩ := condition t first second live two
    cases one : first.type <;> cases other : second.type
    · exact absurd ⟨by simpa [one] using takes,by simpa [one] using filters⟩ (data one other)
    · exact ⟨t,first,second,live,by simp [two,one,other],by simp [two,one,other],
        by simpa [one] using takes.2,by simpa [one] using filters.2.1⟩
    · exact ⟨t,second,first,live,by simp [two,one,other],by simp [two,one,other],
        by simpa [one] using takes.2,by simpa [one] using filters.2.1⟩
    · exact absurd ⟨by simpa [one] using takes,by simpa [one] using filters⟩ (option one other)

/-- An installer with the protocol as a field for both purposes. -/
def protocolInstaller : NetmateIpfixPolicyRuleInstaller :=
  let mapping : ApplicationFieldMapping := {isFilterField := true, isExportField := true, applicationFieldKey := "proto".toList}
  let bandwidth : PolicyActionMapping := {
    meteringApplication := "netmate".toList
    fields := [(⟨0,4⟩,mapping)]
    meterConfig := some {meteringProcedure := "BandWidth".toList, exportProcedure := "ipfix".toList} }
  let traffic : PolicyAction := {
    action := "traffic".toList
    priority := 1
    actionMappings := Std.TreeMap.ofList [("netmate".toList,bandwidth)] }
  { meteringApplication := "netmate".toList
    applicationConfigurationContainer := [("netmate".toList,[(⟨0,4⟩,mapping)])]
    actionContainer := Std.TreeMap.ofList [("traffic".toList,traffic)] }

def protocolTemplate (type : IpfixTemplType) (tid : UInt16) : IpfixTemplate :=
  {type := type, tid := tid, maxfields := 1, datafields := [⟨1,.known,true,⟨0,4,1,.uint⟩⟩]}

/-- Two templates and a record of template 257. -/
def protocolMessage (first second : IpfixTemplate) : MnslpIpfixMessage :=
  let templates : TemplateContainer := (OrderedMap.empty.insert first.tid first).insert second.tid second
  { message := .live {sourceid := 0, version := ipfixVersion, templates := templates}
    gTstart := 0
    gLasttid := 257
    dataList := [(IpfixDataRecord.new 257).insertField ⟨0,4⟩ {value8 := 6, length := 1}]
    encodeNetwork := true
    requireOutput := true }

/-- Two templates for data, of which the last one passes as the template of the filter. -/
theorem not_check_proper : ¬ ∀ (installer : NetmateIpfixPolicyRuleInstaller) (mess : MnslpIpfixMessage),
    installer.check mess = .ok () → installer.Proper mess := by
  intro always
  obtain ⟨t,templ,filter,live,_,option,_⟩ := always protocolInstaller
    (protocolMessage (protocolTemplate .dataTemplate 256) (protocolTemplate .dataTemplate 257)) (by decide)
  cases live
  cases option

end NetmateIpfixPolicyRuleInstaller
end Mnslp.Installer
