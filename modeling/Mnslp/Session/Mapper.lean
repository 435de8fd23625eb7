import Mnslp.Session.SentObjects
import Mnslp.Session.SessionManager

/-! The messages that a node exchanges with GIST, after `gistka_mapper.cpp`: what a session sends is
written into the payload of an API message, and what GIST hands up becomes an event. -/
namespace Mnslp.Session
open Mnslp.Lib Mnslp.Msg

/-- The values of `ntlp::APIMsg::error_t` that are told apart. -/
inductive ErrorStatus
  | routeChangedStatusBad
  | errorMsgNodeNotFound
  | other (code : Nat)

/-- An `ntlp::APIMsg` from GIST, by its subtype. -/
inductive ApiMsg
  | recvMessage (sid : Option Uint128) (data : Option Bytes) (adjacencyCheck : Bool) (mri : Option Mri)
      (siiHandle : UInt32) (finalHop : Bool)
  | networkNotification (status : ErrorStatus) (sid : Option Uint128) (mri : Option Mri)
  | messageStatus (status : ErrorStatus) (sid : Option Uint128)
  | other (subtype : Nat)

/-- An `ntlp::APIMsg` for GIST, with what `set_sendmessage` takes. -/
structure SendMessage where
  data : Bytes
  msgHandle : UInt32
  nslpId : UInt32
  sid : Uint128
  mri : Mri
  siiHandle : UInt32
  reliable : Bool
  secure : Bool
  timeout : UInt32
  ipTtl : UInt16
  ntlpHopCount : UInt32

/-- What the node behind the next hop gets. -/
def SendMessage.received (sent : SendMessage) (siiHandle : UInt32) (finalHop : Bool) : ApiMsg :=
  .recvMessage (some sent.sid) (some sent.data) false (some sent.mri) siiHandle finalHop

/-- A message in the input queue of a node. -/
inductive QueueMsg
  | api (msg : ApiMsg)
  | timer (sid : SessionId) (id : Nat)
  | event (evt : Option Arrival)
  | other

namespace MnslpConfig

def nslpId : UInt32 := 34

def sendMsgTimeout : UInt32 := 5

def sendMsgIpTtl : UInt16 := 100

def sendMsgGistHopCount : UInt32 := 10

end MnslpConfig

namespace GistkaMapper

/-- The words of the id; `ntlp::sessionid` is made of them as well. -/
def createNtlpSessionId (sid : SessionId) : Uint128 where
  w1 := .ofNat (sid.toNat / 2^96)
  w2 := .ofNat (sid.toNat / 2^64)
  w3 := .ofNat (sid.toNat / 2^32)
  w4 := .ofNat sid.toNat

def createMnslpSessionId (sid : Option Uint128) : Call SessionId := do
  let sid ← Call.assertSome .sessionId sid
  return sid.value

/-- Nothing is returned where the program ends: at `assert( false )` for an `IEError`, or since
no other exception may leave the function. -/
def createApiMsg (msg : NtlpMsg) : Option SendMessage :=
  match msg.msg.serialize (.ofSize msg.msg.getSerializedSize) with
  | .error _ => none
  | .ok (payload,_) => some {
      data := payload.buffer
      msgHandle := 0
      nslpId := MnslpConfig.nslpId
      sid := createNtlpSessionId msg.sid
      mri := msg.mri
      siiHandle := msg.siiHandle
      reliable := true
      secure := false
      timeout := MnslpConfig.sendMsgTimeout
      ipTtl := MnslpConfig.sendMsgIpTtl
      ntlpHopCount := MnslpConfig.sendMsgGistHopCount }

/-- `copy` of routing information that may be missing. -/
def copied (mri : Option Mri) : Call Mri :=
  match mri with
  | some mri => .ok mri
  | none => Call.fault .nullDereference

def mapApiReceiveMessage (env : ParseEnv) (sid : Option Uint128) (data : Option Bytes) (adjacencyCheck : Bool)
    (mri : Option Mri) (siiHandle : UInt32) (finalHop : Bool) : Call (Option Arrival) := do
  let sid ← createMnslpSessionId sid
  match data with
  | none =>
    if adjacencyCheck then do
      let mri ← copied mri
      return some (.routingStateCheck (some sid) (some mri))
    else return none
  | some payload => do
    let m ← Mnslp.Msg.mapApiReceiveMessage env payload
    let mri ← copied mri
    match m with
    | some m => return some (.event (some sid) (.msg ⟨sid,mri,siiHandle,m⟩ finalHop))
    | none => return some (.invalidMsg (some sid) sid mri)

-- the session id and the routing information are logged first
def mapApiNetworkNotification (status : ErrorStatus) (sid : Option Uint128) (mri : Option Mri) :
    Call (Option Arrival) :=
  if sid.isNone ∨ mri.isNone then Call.fault .nullDereference
  else match status with
  | .routeChangedStatusBad => do
    let sid ← createMnslpSessionId sid
    return some (.event (some sid) .routeChangedBad)
  | _ => .ok none

def mapApiMessageStatus (status : ErrorStatus) (sid : Option Uint128) : Call (Option Arrival) :=
  if sid.isNone then .ok none
  else match status with
  | .errorMsgNodeNotFound => do
    let sid ← createMnslpSessionId sid
    return some (.event (some sid) .noNextNodeFound)
  | _ => .ok none

def mapApiMessage (env : ParseEnv) : ApiMsg → Call (Option Arrival)
  | .recvMessage sid data adjacencyCheck mri siiHandle finalHop =>
    mapApiReceiveMessage env sid data adjacencyCheck mri siiHandle finalHop
  | .networkNotification status sid mri => mapApiNetworkNotification status sid mri
  | .messageStatus status sid => mapApiMessageStatus status sid
  | .other _ => .ok none

def mapToEvent (env : ParseEnv) : QueueMsg → Call (Option Arrival)
  | .api msg => mapApiMessage env msg
  | .timer sid id => .ok (some (.event (some sid) (.timer id)))
  | .event evt => .ok evt
  | .other => .ok none

/-- The id comes back from its words. -/
@[simp] theorem value_createNtlpSessionId (sid : SessionId) : (createNtlpSessionId sid).value = sid := by
  apply BitVec.eq_of_toNat_eq
  have bound : sid.toNat < 2^128 := sid.isLt
  simp only [Uint128.value,createNtlpSessionId,BitVec.toNat_ofNat,UInt32.toNat_ofNat']
  omega

section
variable {m : NtlpMsg} {sent : SendMessage} {payload : NetMsg} {written : UInt32}

theorem createApiMsg_of_serialize (serialized : m.msg.serialize (.ofSize m.msg.getSerializedSize) = .ok (payload,written)) :
    ∃ sent, createApiMsg m = some sent ∧ sent.data = payload.buffer ∧ sent.sid = createNtlpSessionId m.sid ∧ sent.mri = m.mri := by
  unfold createApiMsg
  rw [serialized]
  exact ⟨_,rfl,rfl,rfl,rfl⟩

/-- An error RESPONSE has no session lifetime to write. -/
theorem createApiMsg_createResponse (m : NtlpMsg) (severity responseCode : UInt8) :
    createApiMsg (m.createResponse severity responseCode) = none := by
  unfold createApiMsg
  cases serialized : (m.createResponse severity responseCode).msg.serialize
      (.ofSize (m.createResponse severity responseCode).msg.getSerializedSize) with
  | error stop => rfl
  | ok written =>
    have present := MnslpMsg.present_of_serialize (OwnMessage.holds_createResponse m severity responseCode) serialized
      sessionLifetimeType (by rw [NtlpMsg.kind_createResponse]; decide)
    rw [OwnMessage.isSome_responseContents] at present
    split at present <;> simp [sessionLifetimeType,msgSequenceNumberType,informationCodeType] at present

/-- A success RESPONSE is written if its request has a sequence number. -/
theorem createApiMsg_createSuccessResponse (m : NtlpMsg) (lifetime : UInt32) :
    (∃ sent, createApiMsg (m.createSuccessResponse lifetime) = some sent) ↔ m.msg.hasMsgSequenceNumber = true := by
  let o : OwnMessage := .successResponse m lifetime []
  have holds : (m.createSuccessResponse lifetime).msg.Holds o.contents := o.holds_build
  have kind : (m.createSuccessResponse lifetime).msg.kind = o.kind := o.kind_build
  constructor
  · rintro ⟨sent,created⟩
    unfold createApiMsg at created
    split at created
    · cases created
    · rename_i written serialized
      have present := MnslpMsg.present_of_serialize holds serialized msgSequenceNumberType
        (by simp [MsgKind.writtenTypes])
      rw [OwnMessage.isSome_contents] at present
      by_contra missing
      simp [o,OwnMessage.present,missing,sessionLifetimeType,msgSequenceNumberType,informationCodeType] at present
  · intro numbered
    have suits : o.contents.Suits (m.createSuccessResponse lifetime).msg.kind := by
      rw [kind]
      exact o.suits_contents.mpr numbered
    obtain ⟨bytes,serialized,_⟩ := MnslpMsg.round_trip holds suits (OwnMessage.allReadable_successResponse m lifetime (by simp))
    obtain ⟨sent,created,_⟩ := createApiMsg_of_serialize serialized
    exact ⟨sent,created⟩

/-- A payload that is parsed becomes an event for the session that the API message names. -/
theorem mapToEvent_received {env : ParseEnv} {parsed : MnslpMsg} (read : deserialize env sent.data = .ok (.object parsed))
    (siiHandle : UInt32) (finalHop : Bool) : mapToEvent env (.api (sent.received siiHandle finalHop)) =
      .ok (some (.event (some (sent.sid.value)) (.msg ⟨sent.sid.value,sent.mri,siiHandle,parsed⟩ finalHop))) := by
  have mapped : Mnslp.Msg.mapApiReceiveMessage env sent.data = .ok (some parsed) := by
    unfold Mnslp.Msg.mapApiReceiveMessage
    rw [read]
    rfl
  simp only [mapToEvent,SendMessage.received,mapApiMessage,mapApiReceiveMessage,createMnslpSessionId,Call.assertSome,
    Call.ok_bind,mapped,copied,Call.pure_eq]

end
end GistkaMapper

theorem OwnMessage.suits_build (o : OwnMessage) (fits : o.Fits) : o.contents.Suits o.build.kind := by
  rw [o.kind_build]
  refine o.suits_contents.mpr ?_
  cases o with
  | response | successResponse => exact fits.2
  | configure | refresh | options | notify => exact True.intro

/-- What a node sends of its own arrives at the next node as an event for the same session, with an equal message. -/
theorem OwnMessage.arrives (o : OwnMessage) (m : NtlpMsg) (own : m.msg = o.build) (fits : o.Fits)
    (made : ∀ obj ∈ o.objects, obj.FirstOutput) : ∃ sent, GistkaMapper.createApiMsg m = some sent ∧
      ∀ env siiHandle finalHop, ∃ other,
        GistkaMapper.mapToEvent env (.api (sent.received siiHandle finalHop)) =
          .ok (some (.event (some m.sid) (.msg ⟨m.sid,m.mri,siiHandle,other⟩ finalHop))) ∧
        m.msg.equals other = .ok true ∧
        List.Forall₂ (fun message imported => message.isEqual imported = .ok true) m.msg.ipfixMessages
          other.ipfixMessages := by
  have readable := o.allReadable_contents (fun obj member => (made obj member).sendable) fits
  obtain ⟨bytes,serialized,back⟩ := MnslpMsg.round_trip o.holds_build (o.suits_build fits) readable
  rw [← own] at serialized back
  obtain ⟨sent,created,data,sid,mri⟩ := GistkaMapper.createApiMsg_of_serialize serialized
  refine ⟨sent,created,fun env siiHandle finalHop => ?_⟩
  obtain ⟨other,read,same,ipfix⟩ := back env
  refine ⟨other,?_,same,ipfix⟩
  rw [GistkaMapper.mapToEvent_received (by rw [data]; exact read) siiHandle finalHop,sid,mri,
    GistkaMapper.value_createNtlpSessionId]

/-- A CONFIGURE with the first bytes of one packet. -/
private def configureSections : OwnMessage := .configure 60 7 0 5 [.sections]

theorem OwnMessage.arrives_sections : ∃ sent other,
    GistkaMapper.createApiMsg ⟨7,.other 0,0,configureSections.build⟩ = some sent ∧
    GistkaMapper.mapToEvent (fun _ => {}) (.api (sent.received 3 true)) =
      .ok (some (.event (some 7) (.msg ⟨7,.other 0,3,other⟩ true))) ∧
    configureSections.build.equals other = .ok true := by
  have fits : configureSections.Fits := ⟨by decide,True.intro⟩
  obtain ⟨sent,created,mapped⟩ := arrives configureSections ⟨7,.other 0,0,configureSections.build⟩ rfl fits
    fun obj member => List.mem_singleton.mp member ▸ MspecObject.firstOutput_sections
  obtain ⟨other,event,same,_⟩ := mapped (fun _ => {}) 3 true
  exact ⟨sent,other,created,event,same⟩

end Mnslp.Session
