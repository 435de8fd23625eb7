import Mnslp.Msg.IpfixField

/-! Templates, their container and data records, after `mnslp_ipfix_template`,
`mnslp_template_container` and `mnslp_ipfix_data_record`. -/
namespace Mnslp.Msg
open Mnslp.Lib

inductive IpfixTemplType
  | dataTemplate | optionTemplate
deriving DecidableEq, Repr

inductive IpfixUnknownField
  | known | unknown
deriving DecidableEq, Repr

structure IpfixTemplateField where
  flength : UInt16
  unknownF : IpfixUnknownField
  relayF : Bool
  elem : IpfixFieldType
deriving DecidableEq, Repr

structure IpfixTemplate where
  type : IpfixTemplType
  tsend : Nat := 0
  tid : UInt16
  maxfields : Nat
  datafields : List IpfixTemplateField := []
  scopefields : List IpfixTemplateField := []
deriving DecidableEq, Repr

namespace IpfixTemplate

def getNumberScopefields (templ : IpfixTemplate) : Nat := templ.scopefields.length

def getNumberDatafields (templ : IpfixTemplate) : Nat := templ.datafields.length

def getNumfields (templ : IpfixTemplate) : Nat := templ.datafields.length + templ.scopefields.length

def getField (templ : IpfixTemplate) (i : Nat) : Call IpfixTemplateField :=
  if i ≥ templ.getNumfields then Call.badArgument "Invalid field number"
  else if i < templ.getNumberScopefields then
    match templ.scopefields[i]? with
    | some field => .ok field
    | none => Call.fault .readBeyondVector
  else
    -- the position counts the scope fields too, the vector of data fields does not
    match templ.datafields[i]? with
    | some field => .ok field
    | none => Call.fault .readBeyondVector

def addDataField (templ : IpfixTemplate) (field : IpfixTemplateField) : IpfixTemplate :=
  {templ with datafields := templ.datafields ++ [field]}

def addScopeField (templ : IpfixTemplate) (field : IpfixTemplateField) : IpfixTemplate :=
  {templ with scopefields := templ.scopefields ++ [field]}

/-- Copy constructor; the time of the last transmission is not copied. -/
def copy (templ : IpfixTemplate) : IpfixTemplate := {templ with tsend := 0}

end IpfixTemplate

abbrev TemplateContainer := OrderedMap UInt16 IpfixTemplate

namespace TemplateContainer

def getTemplate (templates : TemplateContainer) (templid : UInt16) : Call IpfixTemplate :=
  match templates.find templid with
  | some templ => .ok templ
  | none => Call.badArgument "Template not found in the container"

def addTemplate (templates : TemplateContainer) (templ : IpfixTemplate) : TemplateContainer :=
  templates.insert templ.tid templ

/-- Changes the template that `getTemplate` hands out by reference. -/
def updateTemplate (templates : TemplateContainer) (templid : UInt16) (f : IpfixTemplate → IpfixTemplate) :
    TemplateContainer :=
  match templates.find templid with
  | some templ => templates.set templid (f templ)
  | none => templates

/-- An absent template makes the loop run to `end()`, which is then deleted and erased. -/
def deleteTemplate (templates : TemplateContainer) (templid : UInt16) : Call TemplateContainer :=
  match templates.find templid with
  | some _ => .ok (templates.erase templid)
  | none => Call.fault .eraseEnd

def copy (templates : TemplateContainer) : TemplateContainer := templates.mapValues IpfixTemplate.copy

@[simp] theorem copy_copy (templates : TemplateContainer) : templates.copy.copy = templates.copy := by
  apply OrderedMap.ext_entries
  simp [copy,OrderedMap.mapValues,IpfixTemplate.copy]

theorem rank_ne {templid other : UInt16} (differs : other ≠ templid) :
    Ranked.rank other ≠ Ranked.rank templid := by
  intro same
  apply differs
  exact UInt16.toNat_inj.mp (Int.ofNat.inj same)

theorem find_updateTemplate_self {templates : TemplateContainer} {templid : UInt16} {templ : IpfixTemplate}
    (found : templates.find templid = some templ) (f : IpfixTemplate → IpfixTemplate) :
    (templates.updateTemplate templid f).find templid = some (f templ) := by
  unfold updateTemplate
  rw [found]
  exact templates.find_set_self templid _

theorem find_updateTemplate_other (templates : TemplateContainer) {templid other : UInt16} (differs : other ≠ templid)
    (f : IpfixTemplate → IpfixTemplate) : (templates.updateTemplate templid f).find other = templates.find other := by
  unfold updateTemplate
  split
  · exact templates.find_set_other _ _ _ (rank_ne differs)
  · rfl

theorem getTemplate_of_find {templates : TemplateContainer} {templid : UInt16} {templ : IpfixTemplate}
    (found : templates.find templid = some templ) : templates.getTemplate templid = .ok templ := by
  rw [getTemplate,found]

theorem getTemplate_of_absent {templates : TemplateContainer} {templid : UInt16} (absent : templates.find templid = none) :
    templates.getTemplate templid = Call.badArgument "Template not found in the container" := by
  rw [getTemplate,absent]

end TemplateContainer

structure IpfixDataRecord where
  templateId : UInt16
  fieldData : OrderedMap IpfixFieldKey IpfixValueField

namespace IpfixDataRecord

instance : DecidableEq IpfixDataRecord := fun a b =>
  decidable_of_iff (a.templateId = b.templateId ∧ a.fieldData = b.fieldData)
    ⟨fun ⟨ids,values⟩ => by cases a; cases b; cases ids; cases values; rfl,fun same => same ▸ ⟨rfl,rfl⟩⟩

def new (templateId : UInt16) : IpfixDataRecord := ⟨templateId,.empty⟩

def insertField (record : IpfixDataRecord) (key : IpfixFieldKey) (value : IpfixValueField) : IpfixDataRecord :=
  {record with fieldData := record.fieldData.insert key value.copy}

def getNumFields (record : IpfixDataRecord) : Nat := record.fieldData.size

def getField (record : IpfixDataRecord) (key : IpfixFieldKey) : Call IpfixValueField :=
  match record.fieldData.find key with
  | some value => .ok value
  | none => Call.badArgument "Parameter field was not found"

/-- The length is handed out as a 16-bit number. -/
def getLength (record : IpfixDataRecord) (key : IpfixFieldKey) : Call UInt16 :=
  (record.getField key).map (fun value => UInt16.ofNat value.length)

end IpfixDataRecord
end Mnslp.Msg
