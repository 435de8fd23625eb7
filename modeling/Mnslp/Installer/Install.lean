import Mnslp.Installer.Check
import Mnslp.Installer.PolicyRule
import Std.Data.TreeSet

/-! Installing the objects of a rule in the metering application, after `install` of the class
`netmate_ipfix_policy_rule_installer`. -/
namespace Mnslp.Session.MspecRuleKey
open Mnslp.Lib

/-- The lowest hexadecimal digits of a number. -/
def hexDigits (count n : Nat) : Text := (List.range count).reverse.map fun i => Nat.digitChar (n / 16^i % 16)

/-- `to_string`, which is `uuid_unparse_lower`. -/
def toText (key : MspecRuleKey) : Text :=
  ['-'].intercalate [hexDigits 8 (key.uuid / 16^24),hexDigits 4 (key.uuid / 16^20),hexDigits 4 (key.uuid / 16^16),
    hexDigits 4 (key.uuid / 16^12),hexDigits 12 key.uuid]

end Mnslp.Session.MspecRuleKey

namespace Mnslp.Installer
open Mnslp.Lib Mnslp.Msg Mnslp.Session

/-- The packages to run for each target of the export. -/
abbrev Exports := Std.TreeMap Text (Std.TreeSet Text)

/-- Commands by their keys, which are those of the installed rules. -/
abbrev Commands := Std.TreeMap Text Text

def addExport (exports : Exports) (target procedure : Text) : Exports :=
  match exports[target]? with
  | none => exports.insert target (Std.TreeSet.empty.insert procedure)
  | some packages => exports.insert target (packages.insert procedure)

def compKey (key : MspecRuleKey) (sequence : Nat) : Text := key.toText ++ '_' :: Text.decimal sequence

def exportCommand (key : MspecRuleKey) (sequence : Nat) (filterDef target : Text) (packages : Std.TreeSet Text) : Text :=
  "Rule=".toList ++ ruleGroup.toList ++ '.' :: compKey key sequence ++ ' ' :: filterDef ++ " -a ".toList ++
    packages.toList.flatMap (fun package => package ++ [' ']) ++ "-e target=".toList ++ target

/-- The loop over the targets, which numbers them. -/
def commandLoop (key : MspecRuleKey) (filterDef : Text) (sequence : Nat) (listCommands : Commands) :
    List (Text × Std.TreeSet Text) → Commands
  | [] => listCommands
  | (target,packages) :: rest =>
    commandLoop key filterDef (sequence + 1)
      (listCommands.insertIfNew (compKey key sequence) (exportCommand key sequence filterDef target packages)) rest

def createActionCommand : String := "/add_task"

/-- The loop over the commands of an object, which catches what `execute_command` throws. -/
def executeCommands (executeCommand : ExecuteCommand) (action : String) (state : Nat × List String) :
    List (Text × Text) → Nat × List String
  | [] => state
  | (key,postfields) :: rest =>
    let ruleKeys := if executeCommand state.1 action (String.ofList postfields) then state.2 ++ [String.ofList key] else state.2
    executeCommands executeCommand action (state.1 + 1,ruleKeys) rest

structure Installation where
  calls : Nat
  ruleReturn : MtPolicyRule

namespace NetmateIpfixPolicyRuleInstaller
variable (installer : NetmateIpfixPolicyRuleInstaller)

def exportTarget (key : MspecRuleKey) (metConf : MeteringConfig) : Text :=
  if metConf.exportProcedure = "file".toList then "file:".toList ++ metConf.exportDirectory ++ key.toText
  else if metConf.exportProcedure = "ipfix".toList then "ipfix:".toList
  else "file:".toList ++ installer.exportDirectory ++ key.toText

/-- One round of the loop over the export fields. The names of the fields are collected too and
then not used. -/
def exportField (key : MspecRuleKey) (exports : Exports) (field : IpfixFieldType) : Exports :=
  if installer.isExportField field then
    match installer.actionContainer.getPackage installer.meteringApplication field with
    | some (_,_,metConf) => addExport exports (installer.exportTarget key metConf) metConf.meteringProcedure
    | none => exports
  else exports

def buildCommandExportFields (key : MspecRuleKey) (templ : IpfixTemplate) (filterDef : Text) : Call Commands := do
  let exports ← (List.range templ.getNumfields).foldlM (fun exports i => do
    let field ← templ.getField i
    return installer.exportField key exports field.elem) {}
  return commandLoop key filterDef 1 {} exports.toList

def createPostfieldCommand (key : MspecRuleKey) (message : MnslpIpfixMessage) : Call Commands := Call.noThrow do
  let postfields : Text ← match ← getFilterTemplate message with
    | some templ => (' ' :: ·) <$>
      buildCommandFilterFields installer.applicationConfigurationContainer installer.meteringApplication message templ
    | none => pure []
  match ← getExportTemplate message with
  | some templ => installer.buildCommandExportFields key templ postfields
  | none => return {}

/-- One round of the loop over the objects; one that has no installed rule is left out. -/
def installObject (executeCommand : ExecuteCommand) (state : Installation) (entry : MspecRuleKey × MspecObject) :
    Call Installation := do
  let commands ← installer.createPostfieldCommand entry.1 entry.2.message
  let (calls,ruleKeys) := executeCommands executeCommand createActionCommand (state.calls,[]) commands.toList
  if ruleKeys.length > 0 then
    return ⟨calls,(state.ruleReturn.setObjectAt entry.1 entry.2.copy).setCommands entry.1 ruleKeys⟩
  else return ⟨calls,state.ruleReturn⟩

def install (executeCommand : ExecuteCommand) (rule : MtPolicyRule) : Call MtPolicyRule := do
  let installation ← rule.objects.entries.foldlM (installer.installObject executeCommand) ⟨0,{}⟩
  return installation.ruleReturn

/-- There are commands, with different keys that start with the key of the object. -/
structure Commanded (key : MspecRuleKey) (commands : Commands) : Prop where
  some : commands.keys ≠ []
  distinct : commands.keys.Nodup
  prefixed : ∀ name ∈ commands.keys, key.toText <+: name

/-- The rule that `install` returns when every command is executed: the same objects, with the
keys of their commands. -/
structure InstalledAll (rule result : MtPolicyRule) : Prop where
  objects : result.objects = rule.objects.mapValues MspecObject.copy
  ruleKeys (key : MspecRuleKey) (obj : MspecObject) : rule.objects.find key = some obj →
    ∃ commands, installer.createPostfieldCommand key obj.message = .ok commands ∧
      result.ruleKeys.find key = some (commands.keys.map String.ofList)
  others (key : MspecRuleKey) : rule.objects.find key = none → result.ruleKeys.find key = none

structure Installs (rule : MtPolicyRule) : Prop where
  commands (key : MspecRuleKey) (obj : MspecObject) : rule.objects.find key = some obj →
    ∃ commands, installer.createPostfieldCommand key obj.message = .ok commands ∧ Commanded key commands
  returns (executeCommand : ExecuteCommand) : (∀ call action postfields, executeCommand call action postfields = true) →
    ∃ result, installer.install executeCommand rule = .ok result ∧ installer.InstalledAll rule result

/-- The template for the export has a field. -/
def HasExport (mess : MnslpIpfixMessage) : Prop :=
  ∀ templ, getExportTemplate mess = .ok (some templ) → templ.allFields ≠ []

/-- The values of the filter fields can be printed. -/
def PrintsFilter (mess : MnslpIpfixMessage) : Prop :=
  ∀ templ, getFilterTemplate mess = .ok (some templ) →
    ∀ field ∈ templ.allFields,
      installer.applicationConfigurationContainer.isFilterField installer.meteringApplication field.elem = true →
      ∀ record ∈ mess.dataList, record.templateId = templ.tid →
        ∀ value, record.getField field.elem.getFieldKey = .ok value → ∃ text, field.elem.printValue value.copy = .ok text

end NetmateIpfixPolicyRuleInstaller

/-- The mappings have the configurations that `read_from_xml` gives them at their end. -/
def PolicyActionContainer.FullyRead (container : PolicyActionContainer) : Prop :=
  ∀ entry ∈ container.toList, ∀ mapping ∈ entry.2.actionMappings.toList, mapping.2.meterConfig.isSome

section Filter
variable {applications : PolicyApplicationConfigurationContainer} {app : Text} {m : MnslpIpfixMessage} {templ : IpfixTemplate}

theorem getFieldDataValues_returns {field : IpfixFieldType}
    (stored : ∀ record ∈ m.dataList, record.templateId = templ.tid → ∃ value, record.getField field.getFieldKey = .ok value) :
    (∃ values, m.getFieldDataValues templ field = .ok values) ↔ ∀ record ∈ m.dataList, record.templateId = templ.tid →
      ∀ value, record.getField field.getFieldKey = .ok value → ∃ text, field.printValue value.copy = .ok text := by
  unfold MnslpIpfixMessage.getFieldDataValues
  rw [Call.exists_mapM]
  simp only [List.mem_filter,decide_eq_true_eq,and_imp]
  refine forall₃_congr fun record member own => ?_
  obtain ⟨value,found⟩ := stored record member own
  simp only [found,Call.ok_bind,Except.ok.injEq,forall_eq']

/-- The command is built where the values of all filter fields can be printed. -/
theorem build_returns (one : templ.OneKind) : (∃ text, buildCommandFilterFields applications app m templ = .ok text) ↔
    ∀ field ∈ templ.allFields, applications.isFilterField app field.elem = true →
      ∃ values, m.getFieldDataValues templ field.elem = .ok values := by
  have read := templ.fields_of_oneKind one
  unfold buildCommandFilterFields
  rw [Call.foldlM_of_mapM read fun filterFields (field : IpfixTemplateField) =>
    filterField applications app m templ filterFields field.elem]
  constructor
  · rintro ⟨text,built⟩ field member filters
    obtain ⟨final,ran,_⟩ := Call.bind_eq_ok.mp built
    obtain ⟨state,next,round⟩ := Call.round_of_foldlM ran member
    unfold filterField at round
    rw [if_pos filters] at round
    obtain ⟨values,found,_⟩ := Call.bind_eq_ok.mp round
    exact ⟨values,found⟩
  · intro printed
    obtain ⟨final,ran,_⟩ := @foldlM_filterField applications app m templ
      (fun field => (m.getFieldDataValues templ field).toOption.getD []) (templ.allFields.map IpfixTemplateField.elem) {}
      fun field member filters => by
        obtain ⟨own,inside,rfl⟩ := List.mem_map.mp member
        obtain ⟨values,found⟩ := printed own inside filters
        rw [found]
        rfl
    rw [List.foldlM_map] at ran
    exact ⟨_,Call.bind_eq_ok.mpr ⟨final,ran,rfl⟩⟩

end Filter

section Commands
variable {key : MspecRuleKey} {filterDef : Text}

theorem compKey_prefix (key : MspecRuleKey) (sequence : Nat) : key.toText <+: compKey key sequence := List.prefix_append _ _

theorem commandLoop_prefixed (targets : List (Text × Std.TreeSet Text)) {sequence : Nat} {listCommands : Commands}
    (start : ∀ name ∈ listCommands, key.toText <+: name) :
    ∀ name ∈ commandLoop key filterDef sequence listCommands targets, key.toText <+: name := by
  induction targets generalizing sequence listCommands with
  | nil => exact start
  | cons entry rest ih =>
    refine ih fun name member => ?_
    rcases Std.TreeMap.mem_insertIfNew.mp member with own | before
    · exact Std.compare_eq_iff_eq.mp own ▸ compKey_prefix key sequence
    · exact start name before

theorem commandLoop_some (targets : List (Text × Std.TreeSet Text)) {sequence : Nat} {listCommands : Commands}
    (some : targets ≠ [] ∨ listCommands.isEmpty = false) :
    (commandLoop key filterDef sequence listCommands targets).isEmpty = false := by
  induction targets generalizing sequence listCommands with
  | nil => exact some.resolve_left fun differs => differs rfl
  | cons entry rest ih => exact ih (.inr Std.TreeMap.isEmpty_insertIfNew)

theorem addExport_some (exports : Exports) (target procedure : Text) : (addExport exports target procedure).isEmpty = false := by
  unfold addExport
  split <;> exact Std.TreeMap.isEmpty_insert

theorem foldl_some {α : Type} {round : Exports → α → Exports} {list : List α}
    (each : ∀ a ∈ list, ∀ exports, (round exports a).isEmpty = false) {exports : Exports}
    (some : list ≠ [] ∨ exports.isEmpty = false) : (list.foldl round exports).isEmpty = false := by
  induction list generalizing exports with
  | nil => exact some.resolve_left fun differs => differs rfl
  | cons a rest ih =>
    obtain ⟨first,others⟩ := List.forall_mem_cons.mp each
    exact ih others (.inr (first exports))

end Commands

namespace NetmateIpfixPolicyRuleInstaller
variable {installer : NetmateIpfixPolicyRuleInstaller} {key : MspecRuleKey}

/-- A field that can be exported by an action has a package. -/
theorem exportField_some (read : installer.actionContainer.FullyRead) {field : IpfixFieldType}
    (exported : installer.isExportField field = true)
    (available : installer.actionContainer.checkFieldAvailability installer.meteringApplication field = true) (exports : Exports) :
    (installer.exportField key exports field).isEmpty = false := by
  have package : (installer.actionContainer.getPackage installer.meteringApplication field).isSome := by
    obtain ⟨entry,member,leads⟩ := PolicyActionContainer.check_iff.mp available
    have stored := Std.TreeMap.mem_toList_iff_getElem?_eq_some.mpr (mem_inOrder.mp member)
    exact PolicyActionContainer.getPackage_iff.mpr ⟨entry,member,leads.covers.configured (read entry stored)⟩
  obtain ⟨⟨name,mapping,metConf⟩,found⟩ := Option.isSome_iff_exists.mp package
  unfold exportField
  rw [if_pos exported,found]
  exact addExport_some _ _ _

theorem buildCommandExportFields_returns (key : MspecRuleKey) {templ : IpfixTemplate} (read : installer.actionContainer.FullyRead)
    (takes : installer.TakesExport templ) (filterDef : Text) : ∃ commands,
      installer.buildCommandExportFields key templ filterDef = .ok commands ∧
        (commands.keys ≠ [] ↔ templ.allFields ≠ []) ∧ ∀ name ∈ commands, key.toText <+: name := by
  obtain ⟨one,exported⟩ := takes
  have fields := templ.fields_of_oneKind one
  let exports := templ.allFields.foldl (fun exports field => installer.exportField key exports field.elem) {}
  refine ⟨commandLoop key filterDef 1 {} exports.toList,?_,?_,?_⟩
  · unfold buildCommandExportFields
    rw [Call.foldlM_of_mapM fields fun exports (field : IpfixTemplateField) => pure (installer.exportField key exports field.elem),
      List.foldlM_pure]
    rfl
  · rw [← List.isEmpty_eq_false_iff,Std.TreeMap.isEmpty_keys]
    constructor
    · intro some none
      simp only [exports,none] at some
      cases some
    · intro fields
      have filled : exports.isEmpty = false := foldl_some (fun field member exports =>
        exportField_some read (exported field member).1 (exported field member).2 exports) (.inl fields)
      refine commandLoop_some _ (.inl fun none => ?_)
      rw [← Std.TreeMap.isEmpty_toList,none] at filled
      cases filled
  · exact commandLoop_prefixed exports.toList fun name member => absurd member Std.TreeMap.not_mem_emptyc

theorem createPostfieldCommand_eq {mess : MnslpIpfixMessage} {exported filter : IpfixTemplate}
    (exports : getExportTemplate mess = .ok (some exported)) (filters : getFilterTemplate mess = .ok (some filter)) :
    installer.createPostfieldCommand key mess = Call.noThrow (do
      let text ← buildCommandFilterFields installer.applicationConfigurationContainer installer.meteringApplication mess filter
      installer.buildCommandExportFields key exported (' ' :: text)) := by
  unfold createPostfieldCommand
  simp only [exports,filters,Call.ok_bind,bind_map_left]

theorem printsFilter_iff {mess : MnslpIpfixMessage} {filter : IpfixTemplate} (found : getFilterTemplate mess = .ok (some filter))
    (takes : installer.TakesFilter mess filter) : installer.PrintsFilter mess ↔ ∃ text,
      buildCommandFilterFields installer.applicationConfigurationContainer installer.meteringApplication mess filter = .ok text := by
  have values {field : IpfixTemplateField} (member : field ∈ filter.allFields) :=
    @getFieldDataValues_returns mess filter field.elem fun record inside own => takes.2.1.values record inside own field member
  rw [build_returns takes.1]
  unfold PrintsFilter
  simp only [found,Except.ok.injEq,Option.some.injEq,forall_eq']
  exact forall₃_congr fun field member _ => (values member).symm

/-- What `check` accepts has commands just when there is something to export and the filter can
be printed. -/
theorem commanded_iff {mess : MnslpIpfixMessage} (read : installer.actionContainer.FullyRead)
    (accepted : installer.check mess = .ok ()) (key : MspecRuleKey) :
    (∃ commands, installer.createPostfieldCommand key mess = .ok commands ∧ Commanded key commands) ↔
      HasExport mess ∧ installer.PrintsFilter mess := by
  obtain ⟨t,first,second,live,two⟩ := pair_of_check accepted
  obtain ⟨exports,filters⟩ := (check_of_pair live two).mp accepted
  have exported : getExportTemplate mess = _ := getTemplateOfType_pair live two .dataTemplate
  have filter : getFilterTemplate mess = _ := getTemplateOfType_pair live two .optionTemplate
  rw [printsFilter_iff filter filters]
  unfold HasExport
  simp only [createPostfieldCommand_eq exported filter,exported,Call.noThrow_eq_ok,Call.bind_eq_ok,Except.ok.injEq,
    Option.some.injEq,forall_eq']
  constructor
  · rintro ⟨commands,⟨text,built,ended⟩,commanded⟩
    obtain ⟨_,again,some,_⟩ := buildCommandExportFields_returns key read exports (' ' :: text)
    cases ended.symm.trans again
    exact ⟨some.mp commanded.some,text,built⟩
  · rintro ⟨some,text,built⟩
    obtain ⟨commands,ended,nonempty,prefixed⟩ := buildCommandExportFields_returns key read exports (' ' :: text)
    exact ⟨commands,⟨text,built,ended⟩,nonempty.mpr some,Std.TreeMap.nodup_keys,
      fun name member => prefixed name (Std.TreeMap.mem_of_mem_keys member)⟩

section Run
variable {executeCommand : ExecuteCommand} (succeeds : ∀ call action postfields, executeCommand call action postfields = true)
include succeeds

theorem executeCommands_all (action : String) (commands : List (Text × Text)) (calls : Nat) (ruleKeys : List String) :
    executeCommands executeCommand action (calls,ruleKeys) commands =
      (calls + commands.length,ruleKeys ++ commands.map fun entry => String.ofList entry.1) := by
  induction commands generalizing calls ruleKeys with
  | nil => simp [executeCommands]
  | cons entry rest ih =>
    rw [executeCommands,ih,if_pos (succeeds _ _ _),List.append_assoc,List.length_cons,Nat.add_right_comm,Nat.add_assoc]
    rfl

theorem installObject_all (state : Installation) {obj : MspecObject} {commands : Commands}
    (created : installer.createPostfieldCommand key obj.message = .ok commands) (some : commands.keys ≠ []) :
    ∃ calls, installer.installObject executeCommand state (key,obj) =
      .ok ⟨calls,(state.ruleReturn.setObjectAt key obj.copy).setCommands key (commands.keys.map String.ofList)⟩ := by
  have keys : commands.toList.map (fun entry => String.ofList entry.1) = commands.keys.map String.ofList := by
    rw [← Std.TreeMap.map_fst_toList_eq_keys,List.map_map]
    rfl
  refine ⟨state.calls + commands.toList.length,?_⟩
  unfold installObject
  rw [created,Call.ok_bind,executeCommands_all succeeds,List.nil_append,keys]
  exact if_pos (List.length_pos_of_ne_nil (mt List.map_eq_nil_iff.mp some))

/-- The objects are installed one after the other, each with the keys of its commands. -/
theorem installObjects_all {entries : List (MspecRuleKey × MspecObject)} (increasing : Increasing entries)
    (each : ∀ entry ∈ entries, ∃ commands, installer.createPostfieldCommand entry.1 entry.2.message = .ok commands ∧
      Commanded entry.1 commands) (state : Installation)
    (fresh : ∀ entry ∈ entries, state.ruleReturn.ruleKeys.find entry.1 = none) :
    ∃ final, entries.foldlM (installer.installObject executeCommand) state = .ok final ∧
      final.ruleReturn.objects = entries.foldl (fun objects entry => objects.set entry.1 entry.2.copy) state.ruleReturn.objects ∧
      (∀ entry ∈ entries, ∃ commands, installer.createPostfieldCommand entry.1 entry.2.message = .ok commands ∧
        final.ruleReturn.ruleKeys.find entry.1 = some (commands.keys.map String.ofList)) ∧
      ∀ key, (∀ entry ∈ entries, Ranked.rank entry.1 ≠ Ranked.rank key) →
        final.ruleReturn.ruleKeys.find key = state.ruleReturn.ruleKeys.find key := by
  induction entries generalizing state with
  | nil => exact ⟨state,rfl,rfl,List.forall_mem_nil _,fun _ _ => rfl⟩
  | cons entry rest ih =>
    obtain ⟨above,increasing⟩ := List.pairwise_cons.mp increasing
    obtain ⟨⟨commands,created,commanded⟩,others⟩ := List.forall_mem_cons.mp each
    obtain ⟨absent,later⟩ := List.forall_mem_cons.mp fresh
    obtain ⟨calls,installed⟩ := installObject_all succeeds state created commanded.some
    have differs (other : MspecRuleKey × MspecObject) (member : other ∈ rest) : Ranked.rank other.1 ≠ Ranked.rank entry.1 :=
      (ne_of_lt (above other member)).symm
    have kept {probe : MspecRuleKey} (different : Ranked.rank probe ≠ Ranked.rank entry.1) :=
      state.ruleReturn.ruleKeys.find_insert_other entry.1 probe (commands.keys.map String.ofList) different
    obtain ⟨final,ran,objects,own,frame⟩ := ih increasing others
      ⟨calls,(state.ruleReturn.setObjectAt entry.1 entry.2.copy).setCommands entry.1 (commands.keys.map String.ofList)⟩
      fun other member => (kept (differs other member)).trans (later other member)
    refine ⟨final,?_,objects,List.forall_mem_cons.mpr ⟨⟨commands,created,?_⟩,own⟩,fun probe apart => ?_⟩
    · rw [List.foldlM_cons,installed]
      exact ran
    · rw [frame entry.1 differs]
      exact OrderedMap.find_insert_self_of_absent _ _ _ _ absent rfl
    · obtain ⟨here,behind⟩ := List.forall_mem_cons.mp apart
      exact (frame probe behind).trans (kept here.symm)

theorem install_all {rule : MtPolicyRule} (each : ∀ key obj, rule.objects.find key = some obj →
      ∃ commands, installer.createPostfieldCommand key obj.message = .ok commands ∧ Commanded key commands) :
    ∃ result, installer.install executeCommand rule = .ok result ∧ installer.InstalledAll rule result := by
  obtain ⟨final,ran,objects,own,frame⟩ := installObjects_all succeeds rule.objects.increasing
    (fun entry member => each _ _ (rule.objects.find_of_mem entry.1 entry.2 member)) ⟨0,{}⟩ fun _ _ => rfl
  refine ⟨final.ruleReturn,?_,?_,fun key obj found => ?_,fun key absent => ?_⟩
  · unfold install
    rw [ran]
    rfl
  · refine OrderedMap.ext_find MtPolicyRule.eq_of_rank fun key => ?_
    rw [objects,OrderedMap.find_foldl_set MspecObject.copy,OrderedMap.find_mapValues]
    exact Option.or_none
  · obtain ⟨stored,member,same⟩ := rule.objects.find_eq_some_mem key obj found
    cases MtPolicyRule.eq_of_rank stored key same
    exact own _ member
  · refine frame key fun entry member same => ?_
    have found := rule.objects.find_of_mem entry.1 entry.2 member
    rw [rule.objects.find_congr same,absent] at found
    cases found

end Run

/-- What `check` accepts can be installed just when every object has a field to export and values
that can be printed. -/
theorem installs_iff (installer : NetmateIpfixPolicyRuleInstaller) (read : installer.actionContainer.FullyRead)
    (rule : MtPolicyRule) (accepted : ∀ obj ∈ rule.objects.values, installer.check obj.message = .ok ()) :
    installer.Installs rule ↔ ∀ obj ∈ rule.objects.values, HasExport obj.message ∧ installer.PrintsFilter obj.message := by
  have member {key : MspecRuleKey} {obj : MspecObject} (found : rule.objects.find key = some obj) : obj ∈ rule.objects.values := by
    obtain ⟨stored,inside,_⟩ := rule.objects.find_eq_some_mem key obj found
    exact List.mem_map_of_mem inside
  constructor
  · intro installs obj inside
    obtain ⟨entry,stored,rfl⟩ := List.mem_map.mp inside
    exact (commanded_iff read (accepted _ inside) entry.1).mp (installs.commands _ _ (rule.objects.find_of_mem entry.1 entry.2 stored))
  · intro fits
    have each (key : MspecRuleKey) (obj : MspecObject) (found : rule.objects.find key = some obj) :=
      (commanded_iff read (accepted obj (member found)) key).mpr (fits obj (member found))
    exact ⟨each,fun _ succeeds => install_all succeeds each⟩

/-- A rule with one object, whose template 256 is the one for the export. -/
def protocolRule (exported : IpfixTemplate) : MtPolicyRule :=
  {objects := OrderedMap.empty.insert ⟨1⟩ ⟨.mandatory,protocolMessage exported (protocolTemplate .optionTemplate 257)⟩}

theorem installs_protocol_iff : protocolInstaller.Installs (protocolRule (protocolTemplate .dataTemplate 256)) ↔
    ∀ obj ∈ (protocolRule (protocolTemplate .dataTemplate 256)).objects.values,
      HasExport obj.message ∧ protocolInstaller.PrintsFilter obj.message :=
  installs_iff protocolInstaller (by unfold PolicyActionContainer.FullyRead; decide)
    (protocolRule (protocolTemplate .dataTemplate 256)) (by decide)

/-- A template for the export that has no field yet. -/
private def noFields : IpfixTemplate := {type := .dataTemplate, tid := 256, maxfields := 1}

theorem not_installs : ¬ ∀ (installer : NetmateIpfixPolicyRuleInstaller) (rule : MtPolicyRule),
    installer.actionContainer.FullyRead → (∀ obj ∈ rule.objects.values, installer.check obj.message = .ok ()) →
    installer.Installs rule := by
  intro always
  have read : protocolInstaller.actionContainer.FullyRead := by
    unfold PolicyActionContainer.FullyRead
    decide
  have accepted : protocolInstaller.check (protocolMessage noFields (protocolTemplate .optionTemplate 257)) = .ok () := by decide
  have commands := (always protocolInstaller (protocolRule noFields) read (by decide)).commands ⟨1⟩
    ⟨.mandatory,protocolMessage noFields (protocolTemplate .optionTemplate 257)⟩ rfl
  have exports := ((commanded_iff read accepted ⟨1⟩).mp commands).1
  exact exports noFields (by decide) rfl

end NetmateIpfixPolicyRuleInstaller
end Mnslp.Installer
