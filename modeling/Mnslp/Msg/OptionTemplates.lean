import Mnslp.Msg.OutputSteps
import Mnslp.Msg.TemplateRecord

/-! The option templates of NetFlow 9, as a message writes them and as it reads them. -/
namespace Mnslp.Msg
open Mnslp.Lib Call

/-- Type and length of a field. -/
def IpfixTemplateField.typeAndLength (field : IpfixTemplateField) : IpfixFieldKey × UInt16 :=
  (field.elem.getFieldKey,field.flength)

/-- The decoder takes the set as a whole and stores a template with the fields of the given one. -/
def IpfixTemplate.DecodedFrom (templ : IpfixTemplate) (set : Bytes) (leftover : Leftover) (buffer : Bytes) (pos : Nat)
    (m : MnslpIpfixMessage) : Prop :=
  ∃ next t back, decodeTrecord leftover buffer m 1 (pos + 4) (set.length - 4) = .ok (next,set.length - 4) ∧
    next.message = .live t ∧ t.templates.getTemplate next.gLasttid = .ok back ∧
    back.scopefields.map IpfixTemplateField.typeAndLength = templ.scopefields.map IpfixTemplateField.typeAndLength ∧
    back.datafields.map IpfixTemplateField.typeAndLength = templ.datafields.map IpfixTemplateField.typeAndLength

/-- The set of the template is written and decoded wherever it stands, by a message without
templates and whatever the variables of the decoder held before. -/
def IpfixT.ReadBackNf9 (encodeNetwork : Bool) (now : Nat) (t : IpfixT) (templid : UInt16) (templ : IpfixTemplate) : Prop :=
  ∃ set written, writeTemplate encodeNetwork now t templid = .ok written ∧ written.buffer = set ++ t.buffer ∧
    ∀ leftover buffer pos m reader, m.message = .live reader → reader.templates = .empty →
      m.encodeNetwork = encodeNetwork → Bytes.Stands set buffer pos → templ.DecodedFrom set leftover buffer pos m

section
variable {t : IpfixT} {templid : UInt16} {templ : IpfixTemplate} {order : ByteOrder}

/-- The two lengths do not count the header of the record, which the decoder takes for a part of them. -/
theorem readTrecordHeader_templateSet (option : templ.type = .optionTemplate) {buffer : Bytes} {pos : Nat}
    (stands : Bytes.Stands (templ.templateSet order ipfixVersionNf9) buffer pos) :
    readTrecordHeader {} order buffer 1 (pos + 4) ((templ.templateSet order ipfixVersionNf9).length - 4) =
      badArgument "Invalid template data" := by
  have length : (templ.templateSet order ipfixVersionNf9).length =
      10 + (IpfixTemplate.specifierBytes templ.scopefields + IpfixTemplate.specifierBytes templ.datafields) := by
    rw [IpfixTemplate.length_templateSet,IpfixTemplate.setBytes,IpfixTemplate.headerBytes,option,
      IpfixTemplate.specifierBytes_allFields]
  have header := (Bytes.stands_append.mp stands).1
  unfold templateHeader at header
  rw [option] at header
  simp only [decide_true] at header
  rw [List.flatMap_cons,List.flatMap_cons,Bytes.stands_append,Bytes.stands_append] at header
  obtain ⟨_,_,record⟩ := header
  simp only [Bytes.length_encode,Nat.add_assoc] at record
  have scope := Nat.mod_le (IpfixTemplate.specifierBytes templ.scopefields) (2^16)
  have data := Nat.mod_le (IpfixTemplate.specifierBytes templ.datafields) (2^16)
  exact readTrecordHeader_short record (by omega) (by omega)

theorem decodeTrecord_templateSet (option : templ.type = .optionTemplate) {buffer : Bytes} {pos : Nat}
    {m : MnslpIpfixMessage} (stands : Bytes.Stands (templ.templateSet (headerOrder m.encodeNetwork) ipfixVersionNf9) buffer pos) :
    decodeTrecord {} buffer m 1 (pos + 4) ((templ.templateSet (headerOrder m.encodeNetwork) ipfixVersionNf9).length - 4) =
      badArgument "Invalid template data" := by
  unfold decodeTrecord
  dsimp only
  rw [readTrecordHeader_templateSet option stands]
  rfl

/-- What the writer puts in front is the set that the decoder refuses. -/
theorem refused_of_written {encodeNetwork : Bool} {now : Nat} {written : IpfixT} {set : Bytes}
    (nf9 : t.version = ipfixVersionNf9) (found : t.templates.find templid = some templ)
    (option : templ.type = .optionTemplate) (wrote : writeTemplate encodeNetwork now t templid = .ok written)
    (front : written.buffer = set ++ t.buffer) (m : MnslpIpfixMessage) (network : m.encodeNetwork = encodeNetwork) :
    decodeTrecord {} set m 1 4 (set.length - 4) = badArgument "Invalid template data" := by
  obtain ⟨_,_,rfl⟩ := (writeTemplate_eq_ok _ _ found).mp wrote
  have same := List.append_cancel_right front
  rw [nf9] at same
  subst same
  subst network
  exact decodeTrecord_templateSet option (Bytes.stands_self _)

/-- A message without templates that reads as the writer wrote. -/
def emptyReader (encodeNetwork : Bool) : MnslpIpfixMessage :=
  .init ⟨.null,0,0,[],encodeNetwork,true⟩ 0 0 ipfixVersionNf9

/-- The decoder refuses every option template that a message writes. -/
theorem not_readBackNf9 (encodeNetwork : Bool) (now : Nat) (t : IpfixT) (templid : UInt16) (templ : IpfixTemplate)
    (nf9 : t.version = ipfixVersionNf9) (found : t.templates.find templid = some templ)
    (option : templ.type = .optionTemplate) : ¬ t.ReadBackNf9 encodeNetwork now templid templ := by
  rintro ⟨set,written,wrote,front,decoded⟩
  obtain ⟨next,_,_,accepted,_⟩ := decoded {} set 0 (emptyReader encodeNetwork) _ rfl rfl rfl (Bytes.stands_self set)
  have refused := refused_of_written nf9 found option wrote front (emptyReader encodeNetwork) rfl
  rw [Nat.zero_add,refused] at accepted
  cases accepted

end

/-- One field in the scope, of four bytes. -/
def sourceScope : IpfixTemplate := ⟨.optionTemplate,0,256,1,[],[⟨4,.known,true,⟨0,8,4,.ipaddr⟩⟩]⟩

def optionsNf9 : IpfixT :=
  {sourceid := 0, version := ipfixVersionNf9, templates := TemplateContainer.addTemplate .empty sourceScope}

theorem not_readBackNf9_sourceScope : optionsNf9.version = ipfixVersionNf9 ∧
    optionsNf9.templates.find 256 = some sourceScope ∧ sourceScope.type = .optionTemplate ∧
    ¬ optionsNf9.ReadBackNf9 true 0 256 sourceScope :=
  ⟨rfl,rfl,rfl,not_readBackNf9 true 0 optionsNf9 256 sourceScope rfl rfl rfl⟩

/-- The set is written, 14 bytes long, and the decoder gets the lengths 4 and 0 for 10 bytes. -/
theorem sourceScope_refused : (∃ written, writeTemplate true 0 optionsNf9 256 = .ok written ∧
      written.buffer = [0,1,0,14,1,0,0,4,0,0,0,8,0,4]) ∧
    decodeTrecord {} [0,1,0,14,1,0,0,4,0,0,0,8,0,4] (emptyReader true) 1 4 10 = badArgument "Invalid template data" ∧
    ¬ ∀ (encodeNetwork : Bool) (now : Nat) (t : IpfixT) (templid : UInt16) (templ : IpfixTemplate),
      t.version = ipfixVersionNf9 → t.templates.find templid = some templ → templ.type = .optionTemplate →
      t.ReadBackNf9 encodeNetwork now templid templ := by
  refine ⟨⟨_,rfl,by decide⟩,rfl,fun always => ?_⟩
  obtain ⟨set,written,wrote,front,decoded⟩ := always true 0 optionsNf9 256 sourceScope rfl rfl rfl
  obtain ⟨next,_,_,accepted,_⟩ := decoded {} set 0 (emptyReader true) _ rfl rfl rfl (Bytes.stands_self set)
  rw [Nat.zero_add,refused_of_written rfl rfl rfl wrote front (emptyReader true) rfl] at accepted
  cases accepted

end Mnslp.Msg
