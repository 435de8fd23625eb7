import Mnslp.Msg.OutputImport
import Mnslp.Session.OwnMessages

/-! IPFIX messages as objects of the messages between the nodes: the first output of a message is read
as an equal one from the body of its object. -/
namespace Mnslp.Msg
open Mnslp.Lib Call

namespace MnslpIpfixMessage
variable {m : MnslpIpfixMessage} {t : IpfixT}

/-- A message in network order that was not output before, with its records in the order of its templates. -/
structure First (m : MnslpIpfixMessage) (t : IpfixT) : Prop where
  live : m.message = .live t
  required : m.requireOutput = true
  network : m.encodeNetwork = true
  portable : t.Portable m.encodeNetwork m.dataList
  fits : t.OutputFits m.dataList
  nrecords : t.nrecords = 0
  seqno : t.seqno = 0
  ordered : t.sentRecords m.dataList = m.dataList

theorem equals_of_sent {sent u : IpfixT} {now : Nat} {reader next : MnslpIpfixMessage} (first : m.First t)
    (made : m.Sent t now sent) (empty : reader.dataList = []) (mode : reader.encodeNetwork = m.encodeNetwork)
    (read : m.ReadBy t sent reader next u)
    (into : (t.content now sent.nrecords m.dataList).ReadInto reader (t.sentRecords m.dataList) next u) :
    u.equals sent = .ok true := by
  have templates : u.templates.equals sent.templates = .ok true := by
    rw [read.templates,← TemplateContainer.equals_copy,made.content,TemplateContainer.equals_copy]
    exact t.templates.equals_self
  have records : sent.nrecords = (t.sentRecords m.dataList).length := by
    rw [made.counts.nrecords,first.nrecords,Nat.zero_add]
  have version : sent.version = u.version := made.counts.version.trans into.version.symm
  have offset : u.offset = sent.offset := congrArg List.length read.buffer
  have nrecords : u.nrecords = sent.nrecords := by
    rw [into.nrecords,into.dataList,empty,List.nil_append,records]
  have seqno : u.seqno = sent.seqno := by
    rw [into.seqno,made.counts.seqno,first.seqno,UInt32.zero_add,← records]
    rfl
  have length : sent.length = u.length := by
    rw [into.length,mode,← made.buffer,made.length]
    rfl
  have exporttime : sent.exporttime = u.exporttime := made.exporttime.trans into.exporttime.symm
  have plain : u.version ≠ ipfixVersionNf9 := by
    rw [into.version]
    decide
  unfold IpfixT.equals
  rw [if_neg (by rw [read.sourceid,made.sourceid,version]; simp),templates,ok_bind]
  simp [nrecords,offset,made.bufferLenght,into.bufferLenght,seqno,plain,length,exporttime]

/-- The body of an object of the first output is read as an equal message. -/
theorem First.readsBack (first : m.First t) (built : m.Built) {now : Nat} {next : MnslpIpfixMessage}
    (ended : m.output now = .ok next) : next.ReadsBack ∧ 0 < next.getOffset := by
  obtain ⟨other,settled⟩ := built.settled
  cases settled.live.symm.trans first.live
  obtain ⟨sent,again,made⟩ := sent_of_output settled first.required first.portable first.fits now
  cases ended.symm.trans again
  have some : 0 < sent.offset := by
    have long := congrArg List.length made.buffer
    rw [IpfixContent.length_bytes] at long
    change sent.offset = _ at long
    omega
  refine ⟨fun env => ?_,some⟩
  have few : (List.replicate (padding sent.offset) (0 : UInt8)).length ≤ 4 := by
    rw [List.length_replicate]
    unfold padding
    split <;> omega
  have mode : (closedIpfixMessage env.now).encodeNetwork = m.encodeNetwork := first.network.symm
  obtain ⟨imported,u,read,by',into⟩ := @Sent.read m t sent now made settled.keyed first.portable (closedIpfixMessage env.now)
    {buffer := padded {m with message := .live sent, requireOutput := false}, now := env.now, leftover := env.leftover}
    (List.replicate (padding sent.offset) 0) mode few rfl
  refine ⟨imported,sent.offset,?_,?_⟩
  · unfold importBody
    rw [read]
  · rw [isEqual_of_live rfl by'.live,equals_of_sent first made rfl mode by' into,ok_bind,if_pos rfl,by'.dataList,first.ordered]
    exact equalRecords_self m.dataList

end MnslpIpfixMessage

namespace MspecObject

/-- The object has the first output of a message that its node has built. -/
def FirstOutput (obj : MspecObject) : Prop :=
  ∃ (m : MnslpIpfixMessage) (t : IpfixT) (now : Nat), m.Built ∧ m.First t ∧ m.output now = .ok obj.message

theorem FirstOutput.sendable {obj : MspecObject} (made : obj.FirstOutput) : obj.Sendable := by
  obtain ⟨m,t,now,built,first,ended⟩ := made
  obtain ⟨readsBack,some⟩ := first.readsBack built ended
  exact ⟨some,readsBack⟩

/-- The first bytes of one packet. -/
def sections : MspecObject where
  treatment := .mandatory
  message := match (sectionMessage [1,2,3]).output 60 with
    | .ok next => next
    | .error _ => sectionMessage [1,2,3]

theorem firstOutput_sections : sections.FirstOutput :=
  ⟨sectionMessage [1,2,3],sectionState,60,MnslpIpfixMessage.built_sectionMessage _,{
    live := rfl
    required := rfl
    network := rfl
    portable := MnslpIpfixMessage.portable_sectionState (by decide) (by decide)
    fits := MnslpIpfixMessage.outputFits_sectionState
    nrecords := rfl
    seqno := rfl
    ordered := rfl },rfl⟩

end MspecObject
end Mnslp.Msg
