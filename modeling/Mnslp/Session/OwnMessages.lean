import Mnslp.Msg.InformationCode
import Mnslp.Session.NfSession
import Mnslp.Session.NiSession

/-! The messages that a node builds itself, and which of them reach the next node as they
were built. -/
namespace Mnslp.Msg
open Mnslp.Lib Call

/-- `serialize` fills a buffer of the size of the message and says so, and an equal message
with equal IPFIX messages in the same order is read from the bytes. -/
def MnslpMsg.EncodesDecodes (m : MnslpMsg) : Prop :=
  ∃ msg written, m.serialize (.ofSize m.getSerializedSize) = .ok (msg,written) ∧ written.toNat = msg.pos ∧
    msg.pos = m.getSerializedSize ∧ ∀ env, ∃ other, deserialize env msg.buffer = .ok (.object other) ∧
      m.equals other = .ok true ∧
      List.Forall₂ (fun message imported => message.isEqual imported = .ok true) m.ipfixMessages other.ipfixMessages

/-- An IPFIX object that was written by `output`, and that is equal to the one imported
from its padded bytes. -/
structure MspecObject.Sendable (obj : MspecObject) : Prop where
  written : 0 < obj.message.getOffset
  readsBack : obj.message.ReadsBack

theorem TemplateContainer.equals_copy (templates rhs : TemplateContainer) :
    templates.equals rhs.copy = templates.equals rhs := by
  have size : rhs.copy.size = rhs.size := List.length_map _
  have each (entry : UInt16 × IpfixTemplate) : rhs.copy.find entry.1 = (rhs.find entry.1).map IpfixTemplate.copy :=
    OrderedMap.find_mapValues _ _ _
  unfold equals
  rw [size]
  congr 2
  funext entry
  rw [each]
  cases rhs.find entry.1 <;> rfl

namespace MnslpIpfixMessage
variable {m : MnslpIpfixMessage}

theorem getMessage_copy : m.copy.getMessage = m.getMessage := by
  unfold copy getMessage
  cases m.message <;> rfl

theorem getOffset_copy : m.copy.getOffset = m.getOffset := by
  unfold copy getOffset
  cases m.message <;> rfl

theorem isEqual_copy (imported : MnslpIpfixMessage) : m.copy.isEqual imported = m.isEqual imported := by
  have same (t rhs : IpfixT) : t.equals rhs.copy = t.equals rhs := by
    have templates := t.templates.equals_copy rhs.templates
    unfold IpfixT.equals
    change (if _ then _ else (t.templates.equals rhs.templates.copy >>= _)) = _
    rw [templates]
    rfl
  obtain ⟨message,gTstart,gLasttid,dataList,encodeNetwork,requireOutput⟩ := m
  cases message with
  | null | dangling => rfl
  | live t =>
    unfold isEqual copy
    cases imported.message with
    | null => rfl
    | dangling | live => simp only [liveMessage_mk,ok_bind,same]

end MnslpIpfixMessage

theorem MspecObject.Sendable.copy {obj : MspecObject} (sendable : obj.Sendable) : obj.copy.Sendable := by
  refine ⟨?_,fun env => ?_⟩
  · rw [MspecObject.copy,MnslpIpfixMessage.getOffset_copy]
    exact sendable.written
  · obtain ⟨imported,nread,read,same⟩ := sendable.readsBack env
    refine ⟨imported,nread,?_,(MnslpIpfixMessage.isEqual_copy imported).trans same⟩
    rw [MspecObject.copy,MnslpIpfixMessage.padded,MnslpIpfixMessage.getMessage_copy,MnslpIpfixMessage.getOffset_copy]
    exact read

/-- The contents with copies of some IPFIX objects behind the others. -/
def Contents.addCopies (c : Contents) (objects : List MspecObject) : Contents :=
  {c with ipfix := c.ipfix ++ objects.map MspecObject.copy}

theorem MnslpMsg.Holds.setMspecObjects {m : MnslpMsg} {c : Contents} (holds : m.Holds c) (objects : List MspecObject) :
    (m.setMspecObjects objects).Holds (c.addCopies objects) := by
  unfold MnslpMsg.setMspecObjects
  induction objects generalizing m c with
  | nil =>
    have same : c.addCopies [] = c := by simp [Contents.addCopies]
    rwa [same]
  | cons obj rest ih =>
    have next := ih (holds.add obj.copy)
    have same : (c.add obj.copy).addCopies rest = c.addCopies (obj :: rest) := by
      simp [Contents.addCopies,Contents.add]
    rwa [same] at next

theorem Contents.isSome_put {c : Contents} {obj : MnslpObject} (unique : obj.isUnique = true) (objectType : UInt16) :
    ((c.put obj).unique objectType).isSome = true ↔ objectType = obj.objectType ∨ (c.unique objectType).isSome = true := by
  rw [unique_put]
  by_cases same : objectType = obj.objectType
  · rw [if_pos ⟨unique,same⟩]
    exact iff_of_true rfl (.inl same)
  · rw [if_neg fun both => same both.2]
    exact (or_iff_right same).symm

/-- All objects can be written and read again. -/
def Contents.AllReadable (c : Contents) : Prop := ∀ obj ∈ c.objects, obj.Readable

theorem Contents.AllReadable.put {c : Contents} (all : c.AllReadable) {obj : MnslpObject} (readable : obj.Readable) :
    (c.put obj).AllReadable := by
  intro other member
  rcases mem_objects_put member with rfl | old
  · exact readable
  · exact all other old

theorem Contents.AllReadable.addCopies {c : Contents} (all : c.AllReadable) {objects : List MspecObject}
    (sendable : ∀ obj ∈ objects, obj.Sendable) : (c.addCopies objects).AllReadable := by
  intro other member
  rcases mem_objects.mp member with unique | ⟨ipfix,inside,rfl⟩
  · exact all other (mem_objects.mpr (.inl unique))
  · rcases List.mem_append.mp (show ipfix ∈ c.ipfix ++ objects.map MspecObject.copy from inside) with old | new
    · exact all _ (mem_objects.mpr (.inr ⟨ipfix,old,rfl⟩))
    · obtain ⟨obj,given,rfl⟩ := List.mem_map.mp new
      have copied := (sendable obj given).copy
      refine ⟨decide_eq_true ⟨objectType_fits _,decide_eq_true copied.written⟩,?_⟩
      intro message same
      cases same
      exact copied.readsBack

end Mnslp.Msg

namespace Mnslp.Session
open Mnslp.Lib Mnslp.Msg

/-- What a node is about to send, with the values it was built from. -/
inductive OwnMessage
  | configure (lifetime msn sme hopCount : UInt32) (objects : List MspecObject)
  | refresh (lifetime msn : UInt32)
  | response (request : NtlpMsg) (severity responseCode : UInt8) (objects : List MspecObject)
  | successResponse (request : NtlpMsg) (lifetime : UInt32) (objects : List MspecObject)
  | options (msn : UInt32)
  | notify (severity responseCode : UInt8) (objectType : UInt16)

namespace OwnMessage

/-- The calls of the setters that build the message. -/
def build : OwnMessage → MnslpMsg
  | configure lifetime msn sme hopCount objects =>
    (((((MnslpMsg.new .configure).setSessionLifetime lifetime).setMsgSequenceNumber msn).setSelectionMeteringEntities
      sme).setMessageHopCount hopCount).setMspecObjects objects
  | refresh lifetime msn => NtlpMsg.refreshRequest lifetime msn
  | response request severity responseCode objects =>
    (request.createResponse severity responseCode).msg.setMspecObjects objects
  | successResponse request lifetime objects => (request.createSuccessResponse lifetime).msg.setMspecObjects objects
  | options msn => (MnslpMsg.new .options).setMsgSequenceNumber msn
  | notify severity responseCode objectType =>
    (MnslpMsg.new .notify).setInformationCode severity responseCode objectType

/-- The IPFIX objects that are put into it. -/
def objects : OwnMessage → List MspecObject
  | configure _ _ _ _ objects | response _ _ _ objects | successResponse _ _ objects => objects
  | _ => []

def kind : OwnMessage → MsgKind
  | configure .. => .configure
  | refresh .. => .refresh
  | response .. | successResponse .. => .response
  | options .. => .options
  | notify .. => .notify

/-- What a RESPONSE to a request has, whatever its code. -/
def responseContents (request : NtlpMsg) (severity responseCode : UInt8) : Contents :=
  let contents := Contents.empty.put ⟨.mandatory,.informationCode severity responseCode 0⟩
  if request.msg.hasMsgSequenceNumber then
    contents.put ⟨.mandatory,.msgSequenceNumber request.msg.getMsgSequenceNumber⟩
  else contents

def contents : OwnMessage → Contents
  | configure lifetime msn sme hopCount objects =>
    ((((Contents.empty.put ⟨.mandatory,.sessionLifetime lifetime⟩).put ⟨.mandatory,.msgSequenceNumber msn⟩).put
      ⟨.mandatory,.selectionMeteringEntities sme⟩).put ⟨.mandatory,.messageHopCount hopCount⟩).addCopies objects
  | refresh lifetime msn =>
    (Contents.empty.put ⟨.mandatory,.sessionLifetime lifetime⟩).put ⟨.mandatory,.msgSequenceNumber msn⟩
  | response request severity responseCode objects =>
    (responseContents request severity responseCode).addCopies objects
  | successResponse request lifetime objects =>
    ((responseContents request MnslpMsg.scSuccess MnslpMsg.sucSuccessfullyProcessed).put
      ⟨.mandatory,.sessionLifetime lifetime⟩).addCopies objects
  | options msn => Contents.empty.put ⟨.mandatory,.msgSequenceNumber msn⟩
  | notify severity responseCode objectType =>
    Contents.empty.put ⟨.mandatory,.informationCode severity responseCode objectType⟩

theorem holds_createResponse (request : NtlpMsg) (severity responseCode : UInt8) :
    (request.createResponse severity responseCode).msg.Holds (responseContents request severity responseCode) := by
  have coded := (MnslpMsg.holds_new .response).put ⟨.mandatory,.informationCode severity responseCode 0⟩
  unfold NtlpMsg.createResponse responseContents
  dsimp only
  split
  · exact coded.put _
  · exact coded

theorem holds_build (o : OwnMessage) : o.build.Holds o.contents := by
  cases o with
  | configure lifetime msn sme hopCount objects =>
    exact (((((MnslpMsg.holds_new .configure).put _).put _).put _).put _).setMspecObjects objects
  | refresh lifetime msn => exact ((MnslpMsg.holds_new .refresh).put _).put _
  | response request severity responseCode objects =>
    exact (holds_createResponse request severity responseCode).setMspecObjects objects
  | successResponse request lifetime objects =>
    have answered := holds_createResponse request MnslpMsg.scSuccess MnslpMsg.sucSuccessfullyProcessed
    exact (answered.put ⟨.mandatory,.sessionLifetime lifetime⟩).setMspecObjects objects
  | options msn => exact (MnslpMsg.holds_new .options).put _
  | notify severity responseCode objectType => exact (MnslpMsg.holds_new .notify).put _

theorem kind_build (o : OwnMessage) : o.build.kind = o.kind := by
  cases o with
  | configure lifetime msn sme hopCount objects =>
    exact (MnslpMsg.kind_setMspecObjects _ _).trans (MnslpMsg.kind_setObject _ _ |>.trans <|
      MnslpMsg.kind_setObject _ _ |>.trans <| MnslpMsg.kind_setObject _ _ |>.trans (MnslpMsg.kind_setObject _ _))
  | refresh lifetime msn => exact NtlpMsg.kind_refreshRequest lifetime msn
  | response request severity responseCode objects =>
    exact (MnslpMsg.kind_setMspecObjects _ _).trans (NtlpMsg.kind_createResponse _ _ _)
  | successResponse request lifetime objects =>
    exact (MnslpMsg.kind_setMspecObjects _ _).trans ((MnslpMsg.kind_setObject _ _).trans (NtlpMsg.kind_createResponse _ _ _))
  | options msn => rfl
  | notify severity responseCode objectType => rfl

/-- The values with which the message gets through: a RESPONSE needs a session lifetime and
a request with a sequence number, a NOTIFY a severity of four bits and no object type, and
the number of bytes has 32 bits. -/
def Fits (o : OwnMessage) : Prop :=
  o.build.getSerializedSize < 2^32 ∧ match o with
    | response .. => False
    | successResponse request _ _ => request.msg.hasMsgSequenceNumber = true
    | notify severity _ objectType => severity < 16 ∧ objectType = 0
    | _ => True

/-- The types of the unique objects of the message. -/
def present : OwnMessage → List UInt16
  | configure .. => [messageHopCountType,selectionMeteringEntitiesType,msgSequenceNumberType,sessionLifetimeType]
  | refresh .. => [msgSequenceNumberType,sessionLifetimeType]
  | response request _ _ _ =>
    if request.msg.hasMsgSequenceNumber then [msgSequenceNumberType,informationCodeType] else [informationCodeType]
  | successResponse request _ _ => sessionLifetimeType ::
    if request.msg.hasMsgSequenceNumber then [msgSequenceNumberType,informationCodeType] else [informationCodeType]
  | options _ => [msgSequenceNumberType]
  | notify .. => [informationCodeType]

theorem isSome_empty (objectType : UInt16) : (Contents.empty.unique objectType).isSome = true ↔ objectType ∈ ([] : List UInt16) :=
  iff_of_false nofun nofun

theorem isSome_responseContents (request : NtlpMsg) (severity responseCode : UInt8) (objectType : UInt16) :
    ((responseContents request severity responseCode).unique objectType).isSome = true ↔ objectType ∈
      if request.msg.hasMsgSequenceNumber then [msgSequenceNumberType,informationCodeType] else [informationCodeType] := by
  unfold responseContents
  dsimp only
  split
  · rw [Contents.isSome_put rfl,Contents.isSome_put rfl,isSome_empty,← List.mem_cons,← List.mem_cons]
    rfl
  · rw [Contents.isSome_put rfl,isSome_empty,← List.mem_cons]
    rfl

theorem isSome_contents (o : OwnMessage) (objectType : UInt16) :
    (o.contents.unique objectType).isSome = true ↔ objectType ∈ o.present := by
  cases o with
  | configure lifetime msn sme hopCount objects =>
    unfold contents Contents.addCopies
    rw [Contents.isSome_put rfl,Contents.isSome_put rfl,Contents.isSome_put rfl,Contents.isSome_put rfl,isSome_empty,
      ← List.mem_cons,← List.mem_cons,← List.mem_cons,← List.mem_cons]
    rfl
  | refresh lifetime msn =>
    unfold contents
    rw [Contents.isSome_put rfl,Contents.isSome_put rfl,isSome_empty,← List.mem_cons,← List.mem_cons]
    rfl
  | response request severity responseCode objects => exact isSome_responseContents request severity responseCode objectType
  | successResponse request lifetime objects =>
    unfold contents Contents.addCopies
    rw [Contents.isSome_put rfl,isSome_responseContents,← List.mem_cons]
    rfl
  | options msn =>
    unfold contents
    rw [Contents.isSome_put rfl,isSome_empty,← List.mem_cons]
    rfl
  | notify severity responseCode objectType' =>
    unfold contents
    rw [Contents.isSome_put rfl,isSome_empty,← List.mem_cons]
    rfl

/-- The message has what its class writes, but a RESPONSE may lack two of its objects. -/
theorem suits_contents (o : OwnMessage) : o.contents.Suits o.kind ↔ match o with
    | response .. => False
    | successResponse request _ _ => request.msg.hasMsgSequenceNumber = true
    | _ => True := by
  have suits : o.contents.Suits o.kind ↔ (∀ objectType ∈ o.kind.writtenTypes, objectType ∈ o.present) ∧
      (∀ objectType ∈ uniqueTypes, objectType ∉ o.kind.writtenTypes → objectType ∉ o.present) := by
    have ipfix : o.kind.writesIpfix = true ∨ o.contents.ipfix = [] := by
      cases o with
      | configure | response | successResponse => exact .inl rfl
      | refresh | options | notify => exact .inr rfl
    constructor
    · rintro ⟨there,nothing⟩
      obtain ⟨absent,_⟩ := Contents.rest_eq_nil.mp nothing
      refine ⟨fun objectType written => (o.isSome_contents objectType).mp (there objectType written),?_⟩
      intro objectType known other member
      have some := (o.isSome_contents objectType).mpr member
      rw [absent objectType known other] at some
      cases some
    · rintro ⟨has,only⟩
      refine ⟨fun objectType written => (o.isSome_contents objectType).mpr (has objectType written),?_⟩
      refine Contents.rest_eq_nil.mpr ⟨fun objectType known other => ?_,ipfix⟩
      have absent := mt (o.isSome_contents objectType).mp (only objectType known other)
      simpa using absent
  rw [suits]
  cases o with
  | configure | refresh | options | notify =>
    simp [kind,present,MsgKind.writtenTypes,uniqueTypes,messageHopCountType,selectionMeteringEntitiesType,
      msgSequenceNumberType,sessionLifetimeType,informationCodeType]
  | response request severity responseCode objects =>
    cases numbered : request.msg.hasMsgSequenceNumber <;> simp [numbered,kind,present,MsgKind.writtenTypes,uniqueTypes,messageHopCountType,
      selectionMeteringEntitiesType,msgSequenceNumberType,sessionLifetimeType,informationCodeType]
  | successResponse request lifetime objects =>
    cases numbered : request.msg.hasMsgSequenceNumber <;> simp [numbered,kind,present,MsgKind.writtenTypes,uniqueTypes,messageHopCountType,
      selectionMeteringEntitiesType,msgSequenceNumberType,sessionLifetimeType,informationCodeType]

theorem allReadable_empty : Contents.empty.AllReadable := fun _ member => by cases member

theorem allReadable_successResponse (request : NtlpMsg) (lifetime : UInt32) {objects : List MspecObject}
    (sendable : ∀ obj ∈ objects, obj.Sendable) : (successResponse request lifetime objects).contents.AllReadable := by
  have coded := allReadable_empty.put
    (@readable_informationCode .mandatory MnslpMsg.scSuccess (by decide) MnslpMsg.sucSuccessfullyProcessed)
  have answered : (responseContents request MnslpMsg.scSuccess MnslpMsg.sucSuccessfullyProcessed).AllReadable := by
    unfold responseContents
    dsimp only
    split
    · exact coded.put (MnslpObject.readable_number rfl rfl)
    · exact coded
  exact (answered.put (MnslpObject.readable_number rfl rfl)).addCopies sendable

theorem allReadable_contents (o : OwnMessage) (sendable : ∀ obj ∈ o.objects, obj.Sendable) (fits : o.Fits) :
    o.contents.AllReadable := by
  have number {obj : MnslpObject} (unique : obj.isUnique = true) (valid : obj.checkBody = true) : obj.Readable :=
    MnslpObject.readable_number unique valid
  cases o with
  | configure lifetime msn sme hopCount objects =>
    exact ((((allReadable_empty.put (number rfl rfl)).put (number rfl rfl)).put (number rfl rfl)).put
      (number rfl rfl)).addCopies sendable
  | refresh lifetime msn => exact (allReadable_empty.put (number rfl rfl)).put (number rfl rfl)
  | response request severity responseCode objects => exact fits.2.elim
  | successResponse request lifetime objects => exact allReadable_successResponse request lifetime sendable
  | options msn => exact allReadable_empty.put (number rfl rfl)
  | notify severity responseCode objectType =>
    obtain ⟨_,small,rfl⟩ := fits
    exact allReadable_empty.put (readable_informationCode .mandatory small responseCode)

/-- A message that a node builds is read as it was built exactly if its values fit. -/
theorem encodesDecodes_iff (o : OwnMessage) (sendable : ∀ obj ∈ o.objects, obj.Sendable) :
    o.build.EncodesDecodes ↔ o.Fits := by
  have holds := o.holds_build
  have suits := o.suits_contents
  rw [← o.kind_build] at suits
  constructor
  · rintro ⟨msg,written,serialized,reported,full,_⟩
    obtain ⟨suited,checked⟩ := MnslpMsg.suits_of_serialize holds serialized full
    have size : o.build.getSerializedSize < 2^32 := by
      rw [← full,← reported]
      exact written.toNat_lt
    refine ⟨size,?_⟩
    have needed := suits.mp suited
    cases o with
    | response | successResponse | configure | refresh | options => exact needed
    | notify severity responseCode objectType =>
      obtain ⟨small,zero,_⟩ := MnslpObject.bodyBytes_informationCode
        (checked ⟨.mandatory,.informationCode severity responseCode objectType⟩ List.mem_cons_self)
      exact ⟨small,zero⟩
  · intro fits
    have suited : o.contents.Suits o.build.kind := by
      refine suits.mpr ?_
      cases o with
      | response | successResponse => exact fits.2
      | configure | refresh | options | notify => exact True.intro
    obtain ⟨bytes,serialized,back⟩ := MnslpMsg.round_trip holds suited (o.allReadable_contents sendable fits)
    refine ⟨_,_,serialized,?_,rfl,back⟩
    rw [UInt32.toNat_ofNat']
    exact Nat.mod_eq_of_lt fits.1

/-- An IPFIX object without templates and records. -/
def sampleObject : MspecObject :=
  ⟨.mandatory,{
    message := .live {
      sourceid := 1
      version := ipfixVersion
      buffer := [0,10,0,16,0,0,0,60,0,0,0,0,0,0,0,1]
      length := 16
      exporttime := 60 }
    gTstart := 0
    gLasttid := 255
    dataList := []
    encodeNetwork := true
    requireOutput := false }⟩

theorem sendable_sampleObject : sampleObject.Sendable := by
  have imported : importBody {} [0,10,0,16,0,0,0,60,0,0,0,0,0,0,0,1] = .ok (sampleObject.message,16) := rfl
  exact ⟨by decide,(@readable_ipfix {} .mandatory _ _ _ imported rfl rfl).imports _ rfl⟩

/-- A CONFIGURE with one IPFIX object. -/
theorem encodesDecodes_configure : (configure 60 7 0 5 [sampleObject]).build.EncodesDecodes ↔
    (configure 60 7 0 5 [sampleObject]).Fits :=
  encodesDecodes_iff (configure 60 7 0 5 [sampleObject]) fun _ member =>
    List.mem_singleton.mp member ▸ sendable_sampleObject

/-- An error RESPONSE has no session lifetime, which its class writes nevertheless. -/
theorem not_encodesDecodes : ¬ ∀ o : OwnMessage, (∀ obj ∈ o.objects, obj.Sendable) → o.build.EncodesDecodes := by
  intro always
  obtain ⟨msg,written,serialized,_⟩ := always (response (NtlpMsg.sample .configure 7 60) MnslpMsg.scPermanentFailure
    MnslpMsg.failInternalError []) nofun
  cases serialized

end OwnMessage

theorem NiSession.own_configure {s next : NiSession} {e : ApiConfigure} {missing : List MspecObject} {m : NtlpMsg}
    (built : s.buildConfigureMessage e missing = .ok (next,m)) : ∃ lifetime msn sme hopCount,
      m.msg = (OwnMessage.configure lifetime msn sme hopCount missing).build := by
  obtain ⟨mri,_,built⟩ := Call.bind_eq_ok.mp built
  cases built
  exact ⟨_,_,_,_,rfl⟩

theorem NfSession.own_configure {s : NfSession} {c : MnslpMsg} {missing : List MspecObject} {m : NtlpMsg}
    (built : s.buildConfigureMessage c missing = .ok m) : ∃ lifetime msn sme hopCount,
      m.msg = (OwnMessage.configure lifetime msn sme hopCount missing).build := by
  obtain ⟨mri,_,built⟩ := Call.bind_eq_ok.mp built
  cases built
  exact ⟨_,_,_,_,rfl⟩

theorem NiSession.own_refresh {s next : NiSession} {m : NtlpMsg} (built : s.buildRefreshMessage = .ok (next,m)) :
    ∃ lifetime msn, m.msg = (OwnMessage.refresh lifetime msn).build := by
  obtain ⟨mri,_,built⟩ := Call.bind_eq_ok.mp built
  cases built
  exact ⟨_,_,rfl⟩

theorem NfSession.own_refresh {s next : NfSession} {m : NtlpMsg} (built : s.buildTeardownMessage = .ok (next,m)) :
    ∃ lifetime msn, m.msg = (OwnMessage.refresh lifetime msn).build := by
  obtain ⟨mri,_,built⟩ := Call.bind_eq_ok.mp built
  cases built
  exact ⟨_,_,rfl⟩

end Mnslp.Session
