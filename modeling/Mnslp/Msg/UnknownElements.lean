import Mnslp.Msg.ImportMeaning

/-! Messages whose templates have fields with elements that the container does not know.
Such a field gets the element that stands for all of them, whose values no decoder accepts. -/
namespace Mnslp.Msg
open Mnslp.Lib Call

namespace FieldSpecifier

def unknown (spec : FieldSpecifier) : Bool :=
  match spec.element with
  | .ok _ => false
  | .error _ => true

theorem elem_of_unknown {spec : FieldSpecifier} (unknown : spec.unknown) (relay : Bool) :
    (spec.field relay).elem = unknownElement := by
  unfold FieldSpecifier.unknown at unknown
  unfold field
  cases looked : spec.element with
  | ok elem =>
    rw [looked] at unknown
    cases unknown
  | error stop => rfl

/-- The container knows the element, which accepts the length and prints such a value into 30 bytes. -/
def Reads (spec : FieldSpecifier) (value : Bytes) : Prop :=
  ∃ elem, spec.element = .ok elem ∧ elem.refuses value.length = false ∧ elem.snprintFits 30 value.length = true

end FieldSpecifier

def IpfixTemplate.HasUnknown (templ : IpfixTemplate) : Prop :=
  ∃ field ∈ templ.scopefields ++ templ.datafields, field.elem = FieldSpecifier.unknownElement

def TemplateRecord.HasUnknown (record : TemplateRecord) : Prop := ∃ spec ∈ record.specifiers, spec.unknown

theorem TemplateRecord.HasUnknown.template {record : TemplateRecord} (has : record.HasUnknown) (relay : Bool)
    (tid : UInt16) : ({record.template relay with tid := tid} : IpfixTemplate).HasUnknown := by
  obtain ⟨spec,member,unknown⟩ := has
  refine ⟨spec.field relay,?_,FieldSpecifier.elem_of_unknown unknown relay⟩
  have fields : ({record.template relay with tid := tid} : IpfixTemplate).scopefields ++
      ({record.template relay with tid := tid} : IpfixTemplate).datafields = record.specifiers.map (FieldSpecifier.field relay) :=
    List.map_append.symm
  rw [fields]
  exact List.mem_map_of_mem member

section
variable {encodeNetwork : Bool} {readable : Bytes} {templ : IpfixTemplate} {pos : Nat}

end

/-- No data set belongs to a template with an unknown element. The others find their template, which has fields of
one kind, are not padded, and have values that can be read. -/
def IpfixSet.Decodable (before : List TemplateRecord) : IpfixSet → Prop
  | templates _ _ _ => True
  | data templ rows padding => ¬ templ.HasUnknown ∧ TemplateRecord.held before.reverse templ.templid = some templ ∧
      (templ.scope = [] ∨ templ.data = []) ∧ padding = 0 ∧
      ∀ values ∈ rows, List.Forall₂ FieldSpecifier.Reads templ.specifiers values

namespace IpfixContent

def Decodable (content : IpfixContent) : Prop := ∀ before set after, content.sets = before ++ set :: after →
  set.Decodable (before.flatMap IpfixSet.templateRecords)

theorem Decodable.legible {content : IpfixContent} (decodable : content.Decodable) (wellFormed : content.WellFormed) :
    content.Legible := by
  refine ⟨wellFormed,fun before after templ rows padding split => (decodable before _ after split).2.1,?_⟩
  intro templ rows padding member
  obtain ⟨before,after,split⟩ := List.append_of_mem member
  obtain ⟨_,_,one,unpadded,_⟩ := decodable before _ after split
  exact ⟨unpadded,one⟩

end IpfixContent

namespace ImportState
variable {input : ImportInput} {m : MnslpIpfixMessage} {content : IpfixContent} {known : List TemplateRecord} {t : IpfixT}
  {result : Imported}

end ImportState

namespace IpfixContent
variable {content : IpfixContent} {m : MnslpIpfixMessage} {input : ImportInput}

/-- A field of an element that the container does not have. -/
def unlisted : FieldSpecifier := ⟨none,500,4,by decide⟩

def mixed : TemplateRecord := ⟨2,256,[],[TemplateRecord.octetDeltaCount 8,unlisted]⟩

def counter : TemplateRecord := ⟨2,257,[],[TemplateRecord.octetDeltaCount 8]⟩

/-- The two templates, and one record of one of them. -/
def withRecord (templ : TemplateRecord) (values : List Bytes) : IpfixContent :=
  ⟨0,0,0,[.templates 2 [mixed,counter] 0,.data templ [values] 0]⟩

def report : IpfixContent := withRecord mixed [[0,0,0,0,0,0,0,1],[0,0,0,2]]

end IpfixContent
end Mnslp.Msg
