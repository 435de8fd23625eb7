import Mnslp.Msg.Equality
import Mnslp.Msg.IpfixImport

/-! Writing and reading messages, after `mnslp_msg`, its subclasses, `mnslp_object` and
`MNSLP_IEManager`. Errors are not skipped, as no caller asks for it. -/
namespace Mnslp.Msg
open Mnslp.Lib

/-- protlib's buffer with a position, which throws where the bytes do not reach. -/
structure NetMsg where
  buffer : Bytes
  pos : Nat := 0

namespace NetMsg

def ofSize (size : Nat) : NetMsg := {buffer := List.replicate size 0}

def getBytesLeft (msg : NetMsg) : Nat := msg.buffer.length - msg.pos

/-- `decode32(false)` -/
def peek32 (msg : NetMsg) : Call UInt32 :=
  match Bytes.slice msg.buffer msg.pos 4 with
  | some bytes => .ok (UInt32.ofNat (Bytes.decode .network bytes))
  | none => Call.throw .netMsgError

def decode32 (msg : NetMsg) : Call (UInt32 × NetMsg) := do
  let value ← msg.peek32
  return (value,{msg with pos := msg.pos + 4})

/-- `copy_from` at the position, which is then set behind the bytes. -/
def write (msg : NetMsg) (bytes : Bytes) : Call NetMsg :=
  if msg.pos + bytes.length ≤ msg.buffer.length then
    .ok ⟨msg.buffer.take msg.pos ++ bytes ++ msg.buffer.drop (msg.pos + bytes.length),msg.pos + bytes.length⟩
  else Call.throw .netMsgError

def encode8 (msg : NetMsg) (value : UInt8) : Call NetMsg := msg.write [value]

def encode16 (msg : NetMsg) (value : UInt16) : Call NetMsg := msg.write (Bytes.encode .network 2 value.toNat)

def encode32 (msg : NetMsg) (value : UInt32) : Call NetMsg := msg.write (Bytes.encode .network 4 value.toNat)

end NetMsg

/-- protlib's `check_ser_args`, which throws for what fails its own check. -/
def checkSerArgs (valid : Bool) : Call Unit :=
  if valid then .ok () else Call.throw (.ieError .objSetFailed)

/-- The handlers that throw `IEMsgTooShort` for every `NetMsgError`. -/
def orTooShort {α : Type} : Call α → Call α
  | .error (.thrown .netMsgError) => Call.throw (.ieError .msgTooShort)
  | other => other

def Treatment.bits : Treatment → UInt32
  | .mandatory => 0
  | .optional => 1
  | .forward => 2
  | .reserved => 3

/-- The cast to `treatment_t` of a number of two bits. -/
def Treatment.ofBits (bits : UInt32) : Treatment :=
  if bits = 0 then .mandatory else if bits = 1 then .optional else if bits = 2 then .forward else .reserved

/-- The classes of objects that `register_known_ies` registers. -/
inductive ObjectClass
  | sessionLifetime | informationCode | messageHopCount | selectionMeteringEntities | msgSequenceNumber
  | mnslpIpfixMessage
deriving DecidableEq, Repr

def ObjectClass.objectType : ObjectClass → UInt16
  | .sessionLifetime => sessionLifetimeType
  | .informationCode => informationCodeType
  | .messageHopCount => messageHopCountType
  | .selectionMeteringEntities => selectionMeteringEntitiesType
  | .msgSequenceNumber => msgSequenceNumberType
  | .mnslpIpfixMessage => mnslpIpfixMessageType

def registeredObjects : List ObjectClass :=
  [.sessionLifetime,.informationCode,.messageHopCount,.selectionMeteringEntities,.msgSequenceNumber,
    .mnslpIpfixMessage]

def registeredMessages : List MsgKind := [.configure,.refresh,.options,.response,.notify]

/-- `new_instance` for objects. -/
def newObject (objectType : UInt16) : Option ObjectClass :=
  registeredObjects.find? fun cls => cls.objectType = objectType

/-- `new_instance` for messages. -/
def newMessage (msgType : UInt8) : Option MsgKind := registeredMessages.find? fun kind => kind.msgType = msgType

def extractObjectType (header : UInt32) : UInt16 := (header >>> 16 &&& 0xFFF).toUInt16

def extractMsgType (header : UInt32) : UInt8 := (header >>> 24).toUInt8

/-- The length of the body that an object header declares, in bytes. -/
def declaredLength (header : UInt32) : UInt16 := ((header &&& 0xFFF) * 4).toUInt16

def objectHeader (treatment : Treatment) (objectType bodyLength : UInt16) : UInt32 :=
  treatment.bits <<< 30 ||| objectType.toUInt32 <<< 16 ||| (bodyLength / 4).toUInt32

/-- The zeros behind an IPFIX message up to a multiple of four bytes. -/
def padding (length : Nat) : Nat := if length % 4 = 0 then 0 else 4 - length % 4

namespace MnslpObject

def checkBody (obj : MnslpObject) : Bool :=
  match obj.body with
  | .informationCode severity _ about => ¬ (severity &&& 0xF0 ≠ 0 ∨ about &&& 0xFFFF ≠ 0)
  | .ipfixMessage m => m.getOffset > 0
  | _ => true

def check (obj : MnslpObject) : Bool := obj.objectType &&& ~~~0xFFF = 0 ∧ obj.checkBody

/-- With the header. -/
def getSerializedSize (obj : MnslpObject) : Nat :=
  match obj.body with
  | .ipfixMessage m => 4 + m.getOffset + padding (4 + m.getOffset)
  | _ => 8

def serializeBody (obj : MnslpObject) (msg : NetMsg) : Call NetMsg :=
  match obj.body with
  | .informationCode severity code about => do
    let msg ← msg.encode8 (severity &&& 0xF)
    let msg ← msg.encode8 code
    msg.encode16 (about &&& 0xFFFF)
  | .selectionMeteringEntities value | .messageHopCount value | .msgSequenceNumber value | .sessionLifetime value =>
    msg.encode32 value
  | .ipfixMessage m => do
    let msg ← msg.write (m.getMessage.getD [])
    msg.write (List.replicate (padding m.getOffset) 0)

/-- `serialize` returns the buffer and the number of bytes it reports as written. -/
def serialize (obj : MnslpObject) (msg : NetMsg) : Call (NetMsg × UInt32) := do
  checkSerArgs obj.check
  let bodyLength := UInt16.ofNat (obj.getSerializedSize - 4)
  let headed ← orTooShort (msg.encode32 (objectHeader obj.treatment obj.objectType bodyLength))
  let written ← orTooShort (obj.serializeBody headed)
  return (written,UInt32.ofNat (written.pos - msg.pos))

end MnslpObject

namespace MnslpMsg

def hasKey (m : MnslpMsg) (objectType : UInt16) : Bool := m.objects.keys.any fun key => key.objectType = objectType

def checkConfigure (m : MnslpMsg) : Bool :=
  m.hasKey msgSequenceNumberType ∧ m.hasKey selectionMeteringEntitiesType ∧ m.hasKey sessionLifetimeType ∧
    m.hasKey messageHopCountType

def checkResponse (m : MnslpMsg) : Bool :=
  m.objects.keys.all fun key => key.objectType = msgSequenceNumberType ∨ key.objectType = informationCodeType ∨
    key.objectType = sessionLifetimeType ∨ key.objectType = mnslpIpfixMessageType

def checkRefresh (m : MnslpMsg) : Bool :=
  m.getNumObjects = 2 ∧ (m.getObject (uniqueKey msgSequenceNumberType)).isSome ∧
    (m.getObject (uniqueKey sessionLifetimeType)).isSome

def checkOptions (m : MnslpMsg) : Bool :=
  m.getNumObjects = 1 ∧ (m.getObject (uniqueKey msgSequenceNumberType)).isSome

def checkNotify (m : MnslpMsg) : Bool :=
  (m.getObject (uniqueKey informationCodeType)).isSome ∧ m.getNumObjects = 1

def check (m : MnslpMsg) : Bool :=
  match m.kind with
  | .configure => m.checkConfigure
  | .response => m.checkResponse
  | .notify => m.checkNotify
  | .options => m.checkOptions
  | .refresh => m.checkRefresh

/-- With the header. -/
def getSerializedSize (m : MnslpMsg) : Nat := 4 + (m.objects.values.map MnslpObject.getSerializedSize).sum

/-- `mnslp_msg::serialize`, which writes the header. -/
def serializeHeader (m : MnslpMsg) (msg : NetMsg) : Call (NetMsg × UInt32) := do
  checkSerArgs m.check
  let msg ← orTooShort (msg.encode32 (m.kind.msgType.toUInt32 <<< 24))
  return (msg,4)

/-- `serialize_object` falls off its end where the message has no such object. -/
def serializeObject (m : MnslpMsg) (msg : NetMsg) (key : IeObjectKey) : Call (NetMsg × UInt32) :=
  match m.getObject key with
  | some obj => obj.serialize msg
  | none => Call.fault .noReturnValue

/-- The header and the objects of some keys, in their order. -/
def serializeKeys (m : MnslpMsg) (keys : List IeObjectKey) (msg : NetMsg) : Call (NetMsg × UInt32) := do
  let start ← m.serializeHeader msg
  keys.foldlM (fun (msg,bytesWritten) key => do
    let (msg,written) ← m.serializeObject msg key
    return (msg,bytesWritten + written)) start

/-- The keys of the IPFIX messages up to the largest number. -/
def ipfixKeys (m : MnslpMsg) : List IeObjectKey :=
  (List.range (m.objects.getMaxSequence mnslpIpfixMessageType)).map fun i => ⟨mnslpIpfixMessageType,i + 1⟩

def serializeConfigure (m : MnslpMsg) (msg : NetMsg) : Call (NetMsg × UInt32) :=
  if m.checkConfigure then
    m.serializeKeys ([uniqueKey msgSequenceNumberType,uniqueKey sessionLifetimeType,
      uniqueKey selectionMeteringEntitiesType,uniqueKey messageHopCountType] ++ m.ipfixKeys) msg
  else Call.throw (.ieError .objSetFailed)

def serializeResponse (m : MnslpMsg) : NetMsg → Call (NetMsg × UInt32) :=
  m.serializeKeys ([uniqueKey msgSequenceNumberType,uniqueKey informationCodeType,uniqueKey sessionLifetimeType] ++
    m.ipfixKeys)

def serializeRefresh (m : MnslpMsg) : NetMsg → Call (NetMsg × UInt32) :=
  m.serializeKeys [uniqueKey msgSequenceNumberType,uniqueKey sessionLifetimeType]

def serializeOptions (m : MnslpMsg) : NetMsg → Call (NetMsg × UInt32) :=
  m.serializeKeys [uniqueKey msgSequenceNumberType]

def serializeNotify (m : MnslpMsg) : NetMsg → Call (NetMsg × UInt32) :=
  m.serializeKeys [uniqueKey informationCodeType]

/-- `serialize` of the class of the message. -/
def serialize (m : MnslpMsg) : NetMsg → Call (NetMsg × UInt32) :=
  match m.kind with
  | .configure => m.serializeConfigure
  | .response => m.serializeResponse
  | .notify => m.serializeNotify
  | .options => m.serializeOptions
  | .refresh => m.serializeRefresh

end MnslpMsg

/-- What parsing returns: an object, or NULL with the entries it put into the error list. -/
inductive Parsed (α : Type)
  | object (a : α)
  | null (errors : List IeErrorKind)

/-- What one call of the import finds: the time and the variables it reads unassigned. -/
structure ImportEnv where
  now : Nat := 0
  leftover : Leftover := {}

/-- The same for the imports of one parse, by the positions of the bodies. -/
abbrev ParseEnv := Nat → ImportEnv

/-- `deserialize_body` of an object with one number. -/
def deserializeValue (body : UInt32 → ObjectBody) (treatment : Treatment) (msg : NetMsg) :
    Call (Parsed (MnslpObject × NetMsg)) := do
  let (value,msg) ← msg.decode32
  return .object (⟨treatment,body value⟩,msg)

def deserializeInformationCode (treatment : Treatment) (msg : NetMsg) : Call (Parsed (MnslpObject × NetMsg)) := do
  let (value,msg) ← msg.decode32
  let obj : MnslpObject := ⟨treatment,.informationCode (value >>> 24 &&& 0xF).toUInt8 (value >>> 16 &&& 0xFF).toUInt8
    (value &&& 0xFFFF).toUInt16⟩
  if obj.check then return .object (obj,msg) else return .null [.pduSyntaxError]

/-- The object that reads an IPFIX message: a new one whose message has been closed. -/
def closedIpfixMessage (now : Nat) : MnslpIpfixMessage :=
  (MnslpIpfixMessage.init ⟨.null,0,0,[],true,true⟩ now 0 ipfixVersion).close

/-- `mnslp_ipfix_import` of the body of an object. -/
def importBody (env : ImportEnv) (body : Bytes) : Call Imported :=
  match mnslpIpfixImport {buffer := body, now := env.now, leftover := env.leftover} (closedIpfixMessage env.now) with
  | some imported => imported
  | none => .error .endless

def deserializeIpfixMessage (env : ImportEnv) (treatment : Treatment) (msg : NetMsg) (bodyLength : Nat) :
    Call (Parsed (MnslpObject × NetMsg)) := do
  let body := (msg.buffer.drop msg.pos).take bodyLength
  let (message,nread) ← importBody env body
  -- bytes behind the message that are no padding end the parse without an entry in the error list
  if (body.drop nread).all (· = 0) then
    return .object (⟨treatment,.ipfixMessage message⟩,{msg with pos := msg.pos + bodyLength})
  else return .null []

/-- `deserialize_body` of the class. -/
def deserializeBody (env : ParseEnv) (cls : ObjectClass) (treatment : Treatment) (msg : NetMsg) (bodyLength : Nat) :
    Call (Parsed (MnslpObject × NetMsg)) :=
  match cls with
  | .sessionLifetime => deserializeValue .sessionLifetime treatment msg
  | .informationCode => deserializeInformationCode treatment msg
  | .messageHopCount => deserializeValue .messageHopCount treatment msg
  | .selectionMeteringEntities => deserializeValue .selectionMeteringEntities treatment msg
  | .msgSequenceNumber => deserializeValue .msgSequenceNumber treatment msg
  | .mnslpIpfixMessage => deserializeIpfixMessage (env msg.pos) treatment msg bodyLength

/-- `MNSLP_IEManager::deserialize_object` with `mnslp_object::deserialize`. -/
def deserializeObject (env : ParseEnv) (msg : NetMsg) : Call (Parsed (MnslpObject × NetMsg)) :=
  match msg.decode32 with
  | .error _ => .ok (.null [.msgTooShort])
  | .ok (header,body) =>
    match newObject (extractObjectType header) with
    | none => .ok (.null [.wrongSubtype])
    | some cls =>
      if body.getBytesLeft < (declaredLength header).toNat then .ok (.null [.msgTooShort])
      else deserializeBody env cls (Treatment.ofBits (header >>> 30)) body (declaredLength header).toNat

structure ParseState where
  msg : NetMsg
  m : MnslpMsg

namespace ParseState

/-- One round of the loop of `mnslp_msg::deserialize`, or what follows it. -/
def step (env : ParseEnv) (s : ParseState) : Call (ParseState ⊕ Parsed MnslpMsg) :=
  if s.msg.getBytesLeft = 0 then
    .ok (.inr (if s.m.getNumObjects = 0 then .null [.pduSyntaxError] else .object s.m))
  else do
    match ← deserializeObject env s.msg with
    | .null errors => return .inr (.null errors)
    | .object (obj,msg) =>
      if obj.isUnique ∧ (s.m.getObject (uniqueKey obj.objectType)).isSome then return .inr (.null [.pduSyntaxError])
      else return .inl ⟨msg,s.m.setObject obj⟩

def machine (env : ParseEnv) : Machine ParseState (Call (Parsed MnslpMsg)) := fun s =>
  match s.step env with
  | .ok (.inl next) => .inl next
  | .ok (.inr parsed) => .inr (.ok parsed)
  | .error stop => .inr (.error stop)

/-- The loop and what follows it, for which as many rounds as bytes are left are enough. -/
def finish (env : ParseEnv) (s : ParseState) : Call (Parsed MnslpMsg) :=
  (Machine.run (machine env) (s.msg.getBytesLeft + 1) s).getD (.error .endless)

end ParseState

/-- The code before the loop. -/
def parseStart (bytes : Bytes) : Except IeErrorKind ParseState :=
  match NetMsg.decode32 {buffer := bytes} with
  | .error _ => .error .msgTooShort
  | .ok (header,msg) =>
    match newMessage (extractMsgType header) with
    | none => .error .wrongType
    | some kind => .ok ⟨msg,.new kind⟩

/-- `MNSLP_IEManager::deserialize` for messages. -/
def deserialize (env : ParseEnv) (bytes : Bytes) : Call (Parsed MnslpMsg) :=
  match parseStart bytes with
  | .error kind => .ok (.null [kind])
  | .ok s => s.finish env

/-- The part of `gistka_mapper::map_api_receive_message` that parses the payload. -/
def mapApiReceiveMessage (env : ParseEnv) (payload : Bytes) : Call (Option MnslpMsg) := do
  match ← deserialize env payload with
  | .object m => return some m
  | .null errors => if errors = [] then .error (.assertFailed .errorList) else return none

end Mnslp.Msg
