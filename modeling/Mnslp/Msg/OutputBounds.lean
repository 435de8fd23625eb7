import Mnslp.Msg.Built

/-! Which messages an output writes into its buffer, and the first ones that it writes beyond. -/
namespace Mnslp.Msg
open Mnslp.Lib Call

namespace MnslpIpfixMessage

/-- The output returns, with all that it wrote below the length of the buffer. -/
def OutputsInside (now : Nat) (m : MnslpIpfixMessage) : Prop :=
  ∃ m' t, m.output now = .ok m' ∧ m'.message = .live t ∧ t.offset ≤ t.bufferLenght

/-- What there is to write has room in the buffer. -/
def Fits (m : MnslpIpfixMessage) : Prop :=
  m.requireOutput = true → ∃ t, m.message = .live t ∧ t.OutputFits m.dataList

theorem Settled.fits_iff {m : MnslpIpfixMessage} {t : IpfixT} (settled : m.Settled t) :
    m.Fits ↔ (m.requireOutput = true → t.OutputFits m.dataList) := by
  constructor
  · intro fits required
    obtain ⟨t',live,all⟩ := fits required
    cases settled.live.symm.trans live
    exact all
  · intro fits required
    exact ⟨t,settled.live,fits required⟩

theorem fits_of_outputsInside {now : Nat} {m : MnslpIpfixMessage} (built : m.Built) (inside : m.OutputsInside now) : m.Fits := by
  obtain ⟨t,settled⟩ := built.settled
  rw [settled.fits_iff]
  obtain ⟨m',_,ended,_,_⟩ := inside
  exact fun required => of_output settled.live settled.idle settled.keyed required ended

/-- An output stays in its buffer exactly if its sets and its header fit into the size that the
buffer has at first: the code never has a larger one. -/
theorem outputsInside_iff (now : Nat) (m : MnslpIpfixMessage) (built : m.Built) : m.OutputsInside now ↔ m.Fits := by
  constructor
  · exact fits_of_outputsInside built
  · intro fits
    obtain ⟨t,settled⟩ := built.settled
    rw [settled.fits_iff] at fits
    by_cases required : m.requireOutput = true
    · obtain ⟨sets,t',ended,grows,grown,room⟩ := output_grows now settled.live settled.idle settled.keyed required (fits required)
      refine ⟨_,t',ended,rfl,?_⟩
      rw [grown.offset,grown.bufferLenght,grows.bufferLenght,length_hdr,grows.version]
      exact room
    · have ended : m.output now = .ok m := by
        unfold output
        rw [if_neg required]
        rfl
      exact ⟨m,t,ended,settled.live,settled.inside (Bool.eq_false_of_not_eq_true required)⟩

end MnslpIpfixMessage

/-- The template 256, for one byte string of any length. -/
def sectionTemplate : IpfixTemplate := ⟨.dataTemplate,0,256,1,[⟨ipfixFtVarlen,.known,true,⟨0,313,65535,.bytes⟩⟩],[]⟩

/-- A record with the first bytes of a packet. -/
def sectionRecord (v : Bytes) : IpfixDataRecord :=
  (IpfixDataRecord.new 256).insertField ⟨0,313⟩ (({} : IpfixValueField).setValueVunit8 v)

def sectionState : IpfixT :=
  {sourceid := 1, version := ipfixVersion, templates := TemplateContainer.addTemplate .empty sectionTemplate}

def sectionMessage (v : Bytes) : MnslpIpfixMessage where
  message := .live sectionState
  gTstart := 0
  gLasttid := 256
  dataList := [sectionRecord v]
  encodeNetwork := true
  requireOutput := true

namespace MnslpIpfixMessage

theorem built_sectionMessage (v : Bytes) : (sectionMessage v).Built := by
  have started : Built (init ⟨.null,0,0,[],true,true⟩ 0 1 ipfixVersion) := .new 0 1 ipfixVersion true rfl
  have described := started.edit (.newTemplate .dataTemplate 1) rfl
  have filled := described.edit (.addField 256 0 313 ipfixFtVarlen) rfl
  exact filled.edit (.includeData 256 (sectionRecord v)) rfl

theorem getField_sectionRecord (v : Bytes) : (sectionRecord v).getField ⟨0,313⟩ =
    .ok (({} : IpfixValueField).setValueVunit8 v).copy := rfl

theorem length_copied (v : Bytes) : (({} : IpfixValueField).setValueVunit8 v).copy.length = v.length := by
  unfold IpfixValueField.copy
  split <;> rfl

theorem valuesSpan_sectionRecord (v : Bytes) : IpfixDataRecord.valuesSpan sectionTemplate (sectionRecord v) =
    (if v.length > 254 then 3 else 1) + v.length := by
  change (sectionRecord v).span ⟨ipfixFtVarlen,.known,true,⟨0,313,65535,.bytes⟩⟩ = _
  unfold IpfixDataRecord.span
  dsimp only [IpfixFieldType.getFieldKey]
  rw [getField_sectionRecord]
  dsimp only
  rw [if_pos rfl,length_copied]

theorem writable_sectionRecord {v : Bytes} (small : v.length < 2^16) :
    IpfixDataRecord.Writable sectionTemplate (sectionRecord v) := by
  intro field member
  cases List.mem_singleton.mp member
  refine ⟨_,getField_sectionRecord v,?_,by rw [length_copied]; exact small,.inl rfl⟩
  by_cases empty : v.length = 0
  · exact .inl ((length_copied v).trans empty)
  · refine .inr ⟨v,?_,Nat.le_of_eq (length_copied v)⟩
    unfold IpfixValueField.copy
    exact congrArg IpfixValueField.valuebyte (if_pos (Nat.pos_of_ne_zero empty))

/-- The set of the template takes 12 bytes, the header 16. -/
theorem fits_sectionMessage (v : Bytes) : (sectionMessage v).Fits ↔ v.length ≤ 1365 := by
  have sets : sectionState.OutputFits [sectionRecord v] ↔ setsFit [sectionRecord v] 1400 16 0 [sectionTemplate] := Iff.rfl
  have span := valuesSpan_sectionRecord v
  constructor
  · intro fits
    obtain ⟨t,live,all⟩ := fits rfl
    cases live
    obtain ⟨_,room⟩ := sets.mp all
    change 16 + (12 + 0 + (4 + IpfixDataRecord.valuesSpan sectionTemplate (sectionRecord v) + 0)) ≤ 1400 at room
    rw [span] at room
    split at room <;> omega
  · intro short required
    refine ⟨sectionState,rfl,sets.mpr ⟨⟨fun _ => .inl rfl,?_,fun _ => by decide,?_⟩,?_⟩⟩
    · intro record member
      cases List.mem_singleton.mp member
      exact writable_sectionRecord (by omega)
    · change (12 + 0 + 4 + IpfixDataRecord.valuesSpan sectionTemplate (sectionRecord v) ≤ 1400 ∧
        4 + IpfixDataRecord.valuesSpan sectionTemplate (sectionRecord v) + 2 * (12 + 0) ≤ 2 * 1400) ∧ True
      rw [span]
      refine ⟨?_,trivial⟩
      split <;> omega
    · change 16 + (12 + 0 + (4 + IpfixDataRecord.valuesSpan sectionTemplate (sectionRecord v) + 0)) ≤ 1400
      rw [span]
      split <;> omega

theorem outputsInside_three : (sectionMessage [1,2,3]).Built ∧ (sectionMessage [1,2,3]).OutputsInside 0 :=
  ⟨built_sectionMessage _,(outputsInside_iff 0 _ (built_sectionMessage _)).mpr ((fits_sectionMessage _).mpr (by decide))⟩

/-- The check lets the 1407 bytes of a set through, with 12 bytes written of 1400. -/
theorem not_outputsInside : ¬ ∀ (now : Nat) (m : MnslpIpfixMessage), m.Built → m.OutputsInside now := by
  intro always
  have built := built_sectionMessage (List.replicate 1400 0)
  have short := (fits_sectionMessage _).mp (fits_of_outputsInside built (always 0 _ built))
  rw [List.length_replicate] at short
  omega

end MnslpIpfixMessage
end Mnslp.Msg
