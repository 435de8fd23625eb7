import Mnslp.Msg.IpfixMessage

/-! Message objects and the store a message keeps them in, after `mnslp_object`, its
subclasses and `ie_store`. -/
namespace Mnslp.Msg
open Mnslp.Lib

inductive Treatment
  | mandatory | optional | forward | reserved
deriving DecidableEq, Repr

inductive ObjectBody
  | informationCode (severityClass responseCode : UInt8) (responseObjectType : UInt16)
  | selectionMeteringEntities (value : UInt32)
  | messageHopCount (value : UInt32)
  | msgSequenceNumber (value : UInt32)
  | sessionLifetime (value : UInt32)
  | ipfixMessage (message : MnslpIpfixMessage)

def informationCodeType : UInt16 := 0x00F4
def selectionMeteringEntitiesType : UInt16 := 0x00F5
def messageHopCountType : UInt16 := 0x00F6
def msgSequenceNumberType : UInt16 := 0x00F7
def sessionLifetimeType : UInt16 := 0x00F8
def mnslpIpfixMessageType : UInt16 := 0x00F9

def ObjectBody.objectType : ObjectBody → UInt16
  | .informationCode .. => informationCodeType
  | .selectionMeteringEntities _ => selectionMeteringEntitiesType
  | .messageHopCount _ => messageHopCountType
  | .msgSequenceNumber _ => msgSequenceNumberType
  | .sessionLifetime _ => sessionLifetimeType
  | .ipfixMessage _ => mnslpIpfixMessageType

def ObjectBody.isIpfix : ObjectBody → Bool
  | .ipfixMessage _ => true
  | _ => false

/-- An object. Its type and its `unique` flag are those its class was built with. -/
structure MnslpObject where
  treatment : Treatment
  body : ObjectBody

namespace MnslpObject

def objectType (obj : MnslpObject) : UInt16 := obj.body.objectType

def isUnique (obj : MnslpObject) : Bool := !obj.body.isIpfix

end MnslpObject

/-- A metering object. The IPFIX message is the only class of them. -/
structure MspecObject where
  treatment : Treatment
  message : MnslpIpfixMessage

namespace MspecObject

def toObject (obj : MspecObject) : MnslpObject := ⟨obj.treatment,.ipfixMessage obj.message⟩

/-- The copy constructor starts from treatment mandatory. -/
def copy (obj : MspecObject) : MspecObject := ⟨.mandatory,obj.message.copy⟩

end MspecObject

def MnslpObject.copy (obj : MnslpObject) : MnslpObject :=
  match obj.body with
  | .ipfixMessage m => (MspecObject.copy ⟨obj.treatment,m⟩).toObject
  | _ => obj

/-- The number counts the objects of one type in a message. -/
structure IeObjectKey where
  objectType : UInt16
  seqNbr : Nat
deriving DecidableEq, Repr

/-- `operator<` compares the sums of type and number. -/
instance : Ranked IeObjectKey := ⟨fun key => key.objectType.toNat + key.seqNbr⟩

abbrev IeStore := OrderedMap IeObjectKey MnslpObject

namespace IeStore

/-- `getMaxSequence` -/
def getMaxSequence (store : IeStore) (objectType : UInt16) : Nat :=
  store.keys.foldl (fun result key =>
    if key.objectType = objectType ∧ result ≤ key.seqNbr then key.seqNbr else result) 0

def copy (store : IeStore) : IeStore := store.mapValues MnslpObject.copy

end IeStore

def uniqueKey (objectType : UInt16) : IeObjectKey := ⟨objectType,1⟩

inductive MsgKind
  | configure | response | notify | options | refresh
deriving DecidableEq, Repr

def MsgKind.msgType : MsgKind → UInt8
  | .configure => 1
  | .response => 2
  | .notify => 3
  | .options => 4
  | .refresh => 5

/-- A message: the class it is an instance of and its objects. -/
structure MnslpMsg where
  kind : MsgKind
  objects : IeStore

namespace MnslpMsg

def new (kind : MsgKind) : MnslpMsg := ⟨kind,.empty⟩

def copy (m : MnslpMsg) : MnslpMsg := {m with objects := m.objects.copy}

def getNumObjects (m : MnslpMsg) : Nat := m.objects.size

def getObject (m : MnslpMsg) (key : IeObjectKey) : Option MnslpObject := m.objects.find key

def setObject (m : MnslpMsg) (obj : MnslpObject) : MnslpMsg :=
  if obj.isUnique then {m with objects := m.objects.set (uniqueKey obj.objectType) obj}
  else
    let sequence := m.objects.getMaxSequence obj.objectType + 1
    {m with objects := m.objects.set ⟨obj.objectType,sequence⟩ obj}

def setSessionLifetime (m : MnslpMsg) (value : UInt32) : MnslpMsg :=
  m.setObject ⟨.mandatory,.sessionLifetime value⟩

def setMsgSequenceNumber (m : MnslpMsg) (value : UInt32) : MnslpMsg :=
  m.setObject ⟨.mandatory,.msgSequenceNumber value⟩

def setSelectionMeteringEntities (m : MnslpMsg) (value : UInt32) : MnslpMsg :=
  m.setObject ⟨.mandatory,.selectionMeteringEntities value⟩

def setMessageHopCount (m : MnslpMsg) (value : UInt32) : MnslpMsg :=
  m.setObject ⟨.mandatory,.messageHopCount value⟩

def setInformationCode (m : MnslpMsg) (severity responseCode : UInt8) (objectType : UInt16) : MnslpMsg :=
  m.setObject ⟨.mandatory,.informationCode severity responseCode objectType⟩

/-- The value a getter finds in the unique object of a type, if that object is there. -/
def uniqueBody (m : MnslpMsg) (objectType : UInt16) : Option ObjectBody :=
  (m.getObject (uniqueKey objectType)).map MnslpObject.body

def sessionLifetime? (m : MnslpMsg) : Option UInt32 :=
  match m.uniqueBody sessionLifetimeType with
  | some (.sessionLifetime value) => some value
  | _ => none

def msgSequenceNumber? (m : MnslpMsg) : Option UInt32 :=
  match m.uniqueBody msgSequenceNumberType with
  | some (.msgSequenceNumber value) => some value
  | _ => none

def selectionMeteringEntities? (m : MnslpMsg) : Option UInt32 :=
  match m.uniqueBody selectionMeteringEntitiesType with
  | some (.selectionMeteringEntities value) => some value
  | _ => none

def messageHopCount? (m : MnslpMsg) : Option UInt32 :=
  match m.uniqueBody messageHopCountType with
  | some (.messageHopCount value) => some value
  | _ => none

-- a missing object reads as 0
def getSessionLifetime (m : MnslpMsg) : UInt32 := m.sessionLifetime?.getD 0

def getMsgSequenceNumber (m : MnslpMsg) : UInt32 := m.msgSequenceNumber?.getD 0

def getSelectionMeteringEntities (m : MnslpMsg) : UInt32 := m.selectionMeteringEntities?.getD 0

def getMessageHopCount (m : MnslpMsg) : UInt32 := m.messageHopCount?.getD 0

def hasMsgSequenceNumber (m : MnslpMsg) : Bool := m.msgSequenceNumber?.isSome

def scSuccess : UInt8 := 2
def scPermanentFailure : UInt8 := 5
def scSignalingSessionFailures : UInt8 := 6
def scInformational : UInt8 := 1
def scProtocolError : UInt8 := 3
def sucSuccessfullyProcessed : UInt8 := 1
def failAuthenticationFailed : UInt8 := 1
def failInternalError : UInt8 := 4
def failNrNotReached : UInt8 := 7
def failConfigurationFailed : UInt8 := 9
def sigfailLifetimeTooBig : UInt8 := 2
def sigfailRuleActionNotApplicable : UInt8 := 6
def sigfailWrongConfMessage : UInt8 := 7
def sigfailFilterActionNotApplicable : UInt8 := 8

/-- Severity class and response code of the information code object. -/
def informationCode? (m : MnslpMsg) : Option (UInt8 × UInt8) :=
  match m.uniqueBody informationCodeType with
  | some (.informationCode severity code _) => some (severity,code)
  | _ => none

def isSuccess (m : MnslpMsg) : Bool := m.informationCode? = some (scSuccess,sucSuccessfullyProcessed)

def isResponseTo (resp msg : MnslpMsg) : Bool := resp.getMsgSequenceNumber = msg.getMsgSequenceNumber

def isMspecCandidate (key : IeObjectKey) : Bool :=
  key.objectType ≠ messageHopCountType ∧ key.objectType ≠ selectionMeteringEntitiesType ∧
    key.objectType ≠ msgSequenceNumberType ∧ key.objectType ≠ sessionLifetimeType

/-- `get_mspec_objects`. An information code object passes the test on the type and
fails the cast. -/
def getMspecObjects (m : MnslpMsg) : Call (List MspecObject) :=
  (m.objects.entries.filter (fun entry => isMspecCandidate entry.1)).mapM fun entry =>
    match entry.2.body with
    | .ipfixMessage message => .ok (MspecObject.copy ⟨entry.2.treatment,message⟩)
    | _ => Call.fault .nullDereference

/-- The calls of `set_mspec_object` that put copies of the given objects into a message. -/
def setMspecObjects (m : MnslpMsg) (objects : List MspecObject) : MnslpMsg :=
  objects.foldl (fun m obj => m.setObject obj.copy.toObject) m

private theorem rank_uniqueKey (objectType : UInt16) :
    Ranked.rank (uniqueKey objectType) = (objectType.toNat + 1 : Int) := rfl

theorem uniqueBody_setObject (m : MnslpMsg) (obj : MnslpObject) (unique : obj.isUnique = true)
    (objectType : UInt16) : (m.setObject obj).uniqueBody objectType =
      if objectType = obj.objectType then some obj.body else m.uniqueBody objectType := by
  unfold uniqueBody getObject setObject
  rw [if_pos unique]
  by_cases same : objectType = obj.objectType
  · subst same
    simp
  · have different : Ranked.rank (uniqueKey objectType) ≠ Ranked.rank (uniqueKey obj.objectType) := by
      rw [rank_uniqueKey,rank_uniqueKey]
      intro equal
      exact same (UInt16.toNat_inj.mp (by omega))
    simp only [if_neg same]
    rw [OrderedMap.find_set_other _ _ _ _ different]

@[simp] theorem uniqueBody_setSessionLifetime (m : MnslpMsg) (value : UInt32) (objectType : UInt16) :
    (m.setSessionLifetime value).uniqueBody objectType =
      if objectType = sessionLifetimeType then some (.sessionLifetime value) else m.uniqueBody objectType :=
  uniqueBody_setObject _ _ rfl _

@[simp] theorem uniqueBody_setMsgSequenceNumber (m : MnslpMsg) (value : UInt32) (objectType : UInt16) :
    (m.setMsgSequenceNumber value).uniqueBody objectType =
      if objectType = msgSequenceNumberType then some (.msgSequenceNumber value) else m.uniqueBody objectType :=
  uniqueBody_setObject _ _ rfl _

@[simp] theorem uniqueBody_setSelectionMeteringEntities (m : MnslpMsg) (value : UInt32) (objectType : UInt16) :
    (m.setSelectionMeteringEntities value).uniqueBody objectType =
      if objectType = selectionMeteringEntitiesType then some (.selectionMeteringEntities value)
      else m.uniqueBody objectType :=
  uniqueBody_setObject _ _ rfl _

@[simp] theorem uniqueBody_setMessageHopCount (m : MnslpMsg) (value : UInt32) (objectType : UInt16) :
    (m.setMessageHopCount value).uniqueBody objectType =
      if objectType = messageHopCountType then some (.messageHopCount value) else m.uniqueBody objectType :=
  uniqueBody_setObject _ _ rfl _

@[simp] theorem uniqueBody_setInformationCode (m : MnslpMsg) (severity code : UInt8) (about objectType : UInt16) :
    (m.setInformationCode severity code about).uniqueBody objectType =
      if objectType = informationCodeType then some (.informationCode severity code about)
      else m.uniqueBody objectType :=
  uniqueBody_setObject _ _ rfl _

@[simp] theorem uniqueBody_new (kind : MsgKind) (objectType : UInt16) : (new kind).uniqueBody objectType = none := by
  simp [uniqueBody,getObject,new]

/-- The types of the unique objects lie below that of the IPFIX objects, whose keys
start at rank 250. -/
theorem uniqueBody_setObject_mspec (m : MnslpMsg) (obj : MspecObject) (objectType : UInt16)
    (small : objectType < mnslpIpfixMessageType) :
    (m.setObject obj.toObject).uniqueBody objectType = m.uniqueBody objectType := by
  have notUnique : ¬ obj.toObject.isUnique = true := by simp [MnslpObject.isUnique,MspecObject.toObject,ObjectBody.isIpfix]
  unfold uniqueBody getObject setObject
  rw [if_neg notUnique]
  have below : objectType.toNat < 0xF9 := small
  have different : Ranked.rank (uniqueKey objectType) ≠
      Ranked.rank (⟨mnslpIpfixMessageType,m.objects.getMaxSequence mnslpIpfixMessageType + 1⟩ : IeObjectKey) := by
    rw [rank_uniqueKey]
    change (objectType.toNat + 1 : Int) ≠ (0xF9 : Nat) + (m.objects.getMaxSequence _ + 1 : Nat)
    omega
  exact congrArg (Option.map MnslpObject.body) (OrderedMap.find_set_other _ _ _ _ different)

theorem uniqueBody_setMspecObjects (m : MnslpMsg) (objects : List MspecObject) (objectType : UInt16)
    (small : objectType < mnslpIpfixMessageType) :
    (m.setMspecObjects objects).uniqueBody objectType = m.uniqueBody objectType := by
  unfold setMspecObjects
  induction objects generalizing m with
  | nil => rfl
  | cons obj rest ih =>
    rw [List.foldl_cons,ih]
    exact uniqueBody_setObject_mspec _ _ _ small

@[simp] theorem msgSequenceNumber?_setMspecObjects (m : MnslpMsg) (objects : List MspecObject) :
    (m.setMspecObjects objects).msgSequenceNumber? = m.msgSequenceNumber? := by
  unfold msgSequenceNumber?
  rw [uniqueBody_setMspecObjects _ _ _ (by decide)]

@[simp] theorem sessionLifetime?_setMspecObjects (m : MnslpMsg) (objects : List MspecObject) :
    (m.setMspecObjects objects).sessionLifetime? = m.sessionLifetime? := by
  unfold sessionLifetime?
  rw [uniqueBody_setMspecObjects _ _ _ (by decide)]

@[simp] theorem messageHopCount?_setMspecObjects (m : MnslpMsg) (objects : List MspecObject) :
    (m.setMspecObjects objects).messageHopCount? = m.messageHopCount? := by
  unfold messageHopCount?
  rw [uniqueBody_setMspecObjects _ _ _ (by decide)]

@[simp] theorem selectionMeteringEntities?_setMspecObjects (m : MnslpMsg) (objects : List MspecObject) :
    (m.setMspecObjects objects).selectionMeteringEntities? = m.selectionMeteringEntities? := by
  unfold selectionMeteringEntities?
  rw [uniqueBody_setMspecObjects _ _ _ (by decide)]

theorem uniqueBody_copy (m : MnslpMsg) (objectType : UInt16) :
    m.copy.uniqueBody objectType = (m.getObject (uniqueKey objectType)).map (fun obj => obj.copy.body) := by
  unfold uniqueBody getObject copy IeStore.copy
  rw [OrderedMap.find_mapValues,Option.map_map]
  rfl

/-- The only other end of the loop is the failed cast. -/
theorem getMspecObjects_cases (m : MnslpMsg) :
    (∃ objects, m.getMspecObjects = .ok objects) ∨ m.getMspecObjects = Call.fault .nullDereference := by
  unfold getMspecObjects
  induction m.objects.entries.filter _ with
  | nil => exact .inl ⟨[],rfl⟩
  | cons entry rest ih =>
    rw [List.mapM_cons]
    rcases entry with ⟨key,treatment,body⟩
    cases body with
    | ipfixMessage message =>
      rcases ih with ⟨objects,collected⟩ | failed
      · exact .inl ⟨_,by rw [collected]; rfl⟩
      · exact .inr (by rw [failed]; rfl)
    | _ => exact .inr rfl

@[simp] theorem kind_copy (m : MnslpMsg) : m.copy.kind = m.kind := rfl

@[simp] theorem kind_setObject (m : MnslpMsg) (obj : MnslpObject) : (m.setObject obj).kind = m.kind := by
  unfold setObject
  split <;> rfl

theorem kind_setMspecObjects (m : MnslpMsg) (objects : List MspecObject) :
    (m.setMspecObjects objects).kind = m.kind := by
  unfold setMspecObjects
  induction objects generalizing m with
  | nil => rfl
  | cons obj rest ih => rw [List.foldl_cons,ih,kind_setObject]

@[simp] theorem sessionLifetime?_copy (m : MnslpMsg) : m.copy.sessionLifetime? = m.sessionLifetime? := by
  unfold sessionLifetime?
  rw [uniqueBody_copy,uniqueBody]
  rcases m.getObject (uniqueKey sessionLifetimeType) with _ | ⟨treatment,body⟩
  · rfl
  · cases body <;> rfl

@[simp] theorem msgSequenceNumber?_copy (m : MnslpMsg) : m.copy.msgSequenceNumber? = m.msgSequenceNumber? := by
  unfold msgSequenceNumber?
  rw [uniqueBody_copy,uniqueBody]
  rcases m.getObject (uniqueKey msgSequenceNumberType) with _ | ⟨treatment,body⟩
  · rfl
  · cases body <;> rfl

@[simp] theorem messageHopCount?_copy (m : MnslpMsg) : m.copy.messageHopCount? = m.messageHopCount? := by
  unfold messageHopCount?
  rw [uniqueBody_copy,uniqueBody]
  rcases m.getObject (uniqueKey messageHopCountType) with _ | ⟨treatment,body⟩
  · rfl
  · cases body <;> rfl

@[simp] theorem selectionMeteringEntities?_copy (m : MnslpMsg) :
    m.copy.selectionMeteringEntities? = m.selectionMeteringEntities? := by
  unfold selectionMeteringEntities?
  rw [uniqueBody_copy,uniqueBody]
  rcases m.getObject (uniqueKey selectionMeteringEntitiesType) with _ | ⟨treatment,body⟩
  · rfl
  · cases body <;> rfl

@[simp] theorem informationCode?_copy (m : MnslpMsg) : m.copy.informationCode? = m.informationCode? := by
  unfold informationCode?
  rw [uniqueBody_copy,uniqueBody]
  rcases m.getObject (uniqueKey informationCodeType) with _ | ⟨treatment,body⟩
  · rfl
  · cases body <;> rfl

@[simp] theorem getSessionLifetime_copy (m : MnslpMsg) : m.copy.getSessionLifetime = m.getSessionLifetime := by
  simp [getSessionLifetime]

@[simp] theorem getMsgSequenceNumber_copy (m : MnslpMsg) :
    m.copy.getMsgSequenceNumber = m.getMsgSequenceNumber := by
  simp [getMsgSequenceNumber]

@[simp] theorem getMessageHopCount_copy (m : MnslpMsg) : m.copy.getMessageHopCount = m.getMessageHopCount := by
  simp [getMessageHopCount]

@[simp] theorem getSelectionMeteringEntities_copy (m : MnslpMsg) :
    m.copy.getSelectionMeteringEntities = m.getSelectionMeteringEntities := by
  simp [getSelectionMeteringEntities]

@[simp] theorem hasMsgSequenceNumber_copy (m : MnslpMsg) :
    m.copy.hasMsgSequenceNumber = m.hasMsgSequenceNumber := by
  simp [hasMsgSequenceNumber]

@[simp] theorem isSuccess_copy (m : MnslpMsg) : m.copy.isSuccess = m.isSuccess := by
  simp [isSuccess]

end MnslpMsg
end Mnslp.Msg
