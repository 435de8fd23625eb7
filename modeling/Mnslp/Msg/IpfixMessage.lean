import Mnslp.Msg.IpfixTemplate

/-! The IPFIX message object: building it through its interface and writing it out.
`buffer` holds the bytes below the code's `offset`; the capacity stands beside it. -/
namespace Mnslp.Msg
open Mnslp.Lib

def ipfixDefaultBuflen : Nat := 1400

def ipfixVersionNf9 : UInt16 := 9

def ipfixVersion : UInt16 := 10

structure IpfixT where
  sourceid : UInt32
  version : UInt16
  templates : TemplateContainer := .empty
  buffer : Bytes := []
  bufferLenght : Nat := ipfixDefaultBuflen
  nrecords : Nat := 0
  seqno : UInt32 := 0
  csTid : Nat := 0
  csBytes : Nat := 0
  csOffset : Nat := 0
  csHeader : Option Nat := none
  count : UInt16 := 0
  sysuptime : UInt32 := 0
  unixtime : UInt32 := 0
  length : UInt16 := 0
  exporttime : UInt32 := 0

def IpfixT.offset (t : IpfixT) : Nat := t.buffer.length

/-- The `message` member; `close` deletes what it points to and leaves the pointer. -/
inductive MessagePtr
  | null | dangling | live (t : IpfixT)

structure MnslpIpfixMessage where
  message : MessagePtr
  gTstart : Nat
  gLasttid : UInt16
  dataList : List IpfixDataRecord
  encodeNetwork : Bool
  requireOutput : Bool

/-- Order of the numbers of headers and templates. Values follow `relay_f` instead. -/
def headerOrder (encodeNetwork : Bool) : ByteOrder := if encodeNetwork then .network else .host

namespace IpfixT

def allocateAdditionalMemory (t : IpfixT) (additional : Nat) : Call Unit :=
  -- `realloc` hands out memory, and the test for success is inverted
  if t.offset + additional > t.bufferLenght then
    Call.badArgument "Could not increse the memory of the final char pointer"
  else .ok ()

def checkSpace (t : IpfixT) (size : Nat) : Call Unit :=
  if size + t.offset > t.bufferLenght then t.allocateAdditionalMemory (size + t.offset - t.bufferLenght)
  else .ok ()

/-- `memmove` of the buffer and writing in front of it. -/
def prepend (t : IpfixT) (bytes : Bytes) : Call IpfixT :=
  if bytes.length + t.offset > t.bufferLenght then Call.fault .writeBeyondBuffer
  else .ok {t with buffer := bytes ++ t.buffer}

def append (t : IpfixT) (bytes : Bytes) : Call IpfixT :=
  if t.offset + bytes.length > t.bufferLenght then Call.fault .writeBeyondBuffer
  else .ok {t with buffer := t.buffer ++ bytes}

def reinitiateBuffer (t : IpfixT) : IpfixT := {t with buffer := [], bufferLenght := ipfixDefaultBuflen}

/-- The check is on the bytes that were written before, not on those to be copied. -/
def copyRawMessage (t : IpfixT) (msg : Bytes) : Call IpfixT :=
  if t.offset > t.bufferLenght then Call.badArgument "buffer length not enough for the raw copy"
  else if msg.length > t.bufferLenght then Call.fault .writeBeyondBuffer
  else .ok {t with buffer := msg}

/-- Copy constructor. -/
def copy (t : IpfixT) : IpfixT :=
  {t with templates := t.templates.copy, csHeader := t.csHeader.map (fun _ => t.csOffset)}

def finishCs (order : ByteOrder) (t : IpfixT) : IpfixT :=
  match t.csHeader with
  | none => t
  | some start =>
    {t with
      buffer := t.buffer.take start ++ (Bytes.encode order 2 t.csTid ++ Bytes.encode order 2 t.csBytes) ++
        t.buffer.drop (start + 4)
      csTid := 0, csBytes := 0, csOffset := 0, csHeader := none}

def outputFlush (order : ByteOrder) (t : IpfixT) : IpfixT :=
  if t.offset = 0 then t else if t.csTid > 0 then t.finishCs order else t

end IpfixT

/-- An `int` as the bits a 16 or 32-bit unsigned variable keeps of it. -/
def intBits (width : Nat) (value : Int) : Nat := (value % 2^width).toNat

def fieldSpecifierSize (field : IpfixTemplateField) : Nat := if field.elem.eno = 0 then 4 else 8

def fieldSpecifier (order : ByteOrder) (field : IpfixTemplateField) : Bytes :=
  if field.elem.eno = 0 then
    Bytes.encode order 2 (intBits 16 field.elem.ftype) ++ Bytes.encode order 2 field.flength.toNat
  else
    Bytes.encode order 2 (intBits 16 field.elem.ftype ||| ipfixEftVendorBit.toNat) ++
      Bytes.encode order 2 field.flength.toNat ++ Bytes.encode order 4 (intBits 32 field.elem.eno)

/-- The fields in the order of `get_field(0)`, `get_field(1)`, ... -/
def IpfixTemplate.fields (templ : IpfixTemplate) : Call (List IpfixTemplateField) :=
  (List.range templ.getNumfields).mapM templ.getField

def templateHeader (order : ByteOrder) (version : UInt16) (templ : IpfixTemplate) (ssize osize : Nat) : Bytes :=
  let numbers := match templ.type, decide (version = ipfixVersionNf9) with
    | .optionTemplate, true => [1,10 + osize + ssize,templ.tid.toNat,ssize,osize]
    | .dataTemplate, true => [0,8 + osize + ssize,templ.tid.toNat,templ.getNumfields]
    | .optionTemplate, false =>
      [3,10 + osize + ssize,templ.tid.toNat,templ.getNumfields,templ.getNumberScopefields]
    | .dataTemplate, false => [2,8 + osize + ssize,templ.tid.toNat,templ.getNumfields]
  numbers.flatMap (Bytes.encode order 2)

/-- `_write_template`: the template goes in front of all that was written before. -/
def writeTemplate (encodeNetwork : Bool) (now : Nat) (t : IpfixT) (templid : UInt16) : Call IpfixT := do
  let templ ← t.templates.getTemplate templid
  let order := headerOrder encodeNetwork
  let fields ← templ.fields
  let scope := fields.take templ.getNumberScopefields
  let data := fields.drop templ.getNumberScopefields
  let ssize := (scope.map fieldSpecifierSize).sum
  let osize := (data.map fieldSpecifierSize).sum
  let bytes := templateHeader order t.version templ ssize osize ++ fields.flatMap (fieldSpecifier order)
  t.checkSpace bytes.length
  let written ← t.prepend bytes
  return {written with
    csHeader := if t.offset > 0 ∧ t.csTid ≠ 0 then t.csHeader.map (· + bytes.length) else t.csHeader
    csOffset := if t.offset > 0 then t.csOffset + bytes.length else t.csOffset
    templates := t.templates.updateTemplate templid (fun templ => {templ with tsend := now})
    nrecords := if t.version = ipfixVersionNf9 then t.nrecords + 1 else t.nrecords}

/-- Bytes one value adds to a data set, its variable-length prefix included. -/
def valueSize (record : IpfixDataRecord) (field : IpfixTemplateField) : Call Nat := do
  let length ← record.getLength field.elem.getFieldKey
  if field.flength = ipfixFtVarlen then
    return (if length > 254 then 3 else 1) + length.toNat
  else if length > field.flength then
    Call.badArgument "Data length greater than field definition lenght"
  else return length.toNat

def varlenPrefix (order : ByteOrder) (length : UInt16) : Bytes :=
  if length > 254 then 0xFF :: Bytes.encode order 2 length.toNat else [UInt8.ofNat length.toNat]

def valueBytes (order : ByteOrder) (record : IpfixDataRecord) (field : IpfixTemplateField) : Call Bytes := do
  let length ← record.getLength field.elem.getFieldKey
  let value ← record.getField field.elem.getFieldKey
  let bytes ← field.elem.encode value field.relayF
  -- all bytes of the value are copied, those beyond the 16-bit length into a buffer that has no room for them
  if bytes.length ≠ length.toNat then Call.fault .writeBeyondBuffer
  else return if field.flength = ipfixFtVarlen then varlenPrefix order length ++ bytes else bytes

/-- One round of the loop of `output_set` over the data records. `datasetlen` keeps
counting over the records of the set. -/
def outputRecord (encodeNetwork newset : Bool) (templ : IpfixTemplate) (state : IpfixT × Nat)
    (record : IpfixDataRecord) : Call (IpfixT × Nat) := do
  if record.templateId ≠ templ.tid then return state
  let (t,datasetlen) := state
  let order := headerOrder encodeNetwork
  let fields ← templ.fields
  let sizes ← fields.mapM (valueSize record)
  let datasetlen := datasetlen + sizes.sum
  t.checkSpace datasetlen
  let header := if newset then Bytes.encode order 2 templ.tid.toNat ++ Bytes.encode order 2 datasetlen else []
  let values ← fields.mapM (valueBytes order record)
  let bytes := header ++ values.flatten
  let written ← t.append bytes
  let opened := if newset then
      {written with csBytes := 0, csHeader := some t.offset, csOffset := t.offset, csTid := templ.tid.toNat}
    else written
  let closed := {opened with nrecords := t.nrecords + 1, csBytes := opened.csBytes + bytes.length}.finishCs order
  return ({closed with seqno := if t.version = ipfixVersion then t.seqno + 1 else t.seqno},datasetlen)

def outputSet (encodeNetwork : Bool) (now : Nat) (dataList : List IpfixDataRecord) (t : IpfixT)
    (templid : UInt16) : Call IpfixT := do
  let order := headerOrder encodeNetwork
  let templ ← t.templates.getTemplate templid
  let t ← if templ.tsend = 0 then writeTemplate encodeNetwork now t templid else pure t
  let newset := decide (templ.tid.toNat ≠ t.csTid)
  let t := if newset ∧ t.csTid > 0 then t.finishCs order else t
  let (t,_) ← dataList.foldlM (outputRecord encodeNetwork newset templ) (t,if newset then 4 else 0)
  return t.outputFlush order

/-- `_write_hdr` -/
def writeHdr (encodeNetwork : Bool) (now gTstart : Nat) (t : IpfixT) : Call IpfixT := do
  let u16 := Bytes.encode (headerOrder encodeNetwork) 2
  let u32 := Bytes.encode (headerOrder encodeNetwork) 4
  if t.version = ipfixVersionNf9 then
    t.checkSpace 20
    let t := {t with seqno := t.seqno + 1}
    t.prepend (u16 t.version.toNat ++ u16 t.nrecords ++ u32 ((now - gTstart) * 1000) ++ u32 now ++
      u32 t.seqno.toNat ++ u32 t.sourceid.toNat)
  else
    t.checkSpace 16
    let written ← t.prepend (u16 t.version.toNat ++ u16 (t.offset + 16) ++ u32 now ++ u32 t.nrecords ++
      u32 t.sourceid.toNat)
    return {written with length := UInt16.ofNat (t.offset + 16), exporttime := UInt32.ofNat now}

namespace MnslpIpfixMessage

/-- What `message->...` reads or changes. -/
def liveMessage (m : MnslpIpfixMessage) : Call IpfixT :=
  match m.message with
  | .null => Call.fault .nullDereference
  | .dangling => Call.fault .danglingPointer
  | .live t => .ok t

@[simp] theorem liveMessage_mk (t : IpfixT) (gTstart : Nat) (gLasttid : UInt16) (dataList : List IpfixDataRecord)
    (encodeNetwork requireOutput : Bool) :
    (mk (.live t) gTstart gLasttid dataList encodeNetwork requireOutput).liveMessage = .ok t := rfl

theorem liveMessage_eq_ok {m : MnslpIpfixMessage} {t : IpfixT} (live : m.message = .live t) : m.liveMessage = .ok t := by
  rw [liveMessage,live]

/-- `init`, which also fills the field container; `ipfixFields` is that container. -/
def init (m : MnslpIpfixMessage) (now : Nat) (sourceid : UInt32) (version : UInt16) : MnslpIpfixMessage :=
  {m with message := .live {sourceid := sourceid, version := version}, gTstart := now, gLasttid := 255}

def new (now : Nat) (sourceid : UInt32) (version : UInt16) (encodeNetwork : Bool) : Call MnslpIpfixMessage :=
  if version = ipfixVersionNf9 ∨ version = ipfixVersion then
    .ok (init ⟨.null,0,0,[],encodeNetwork,true⟩ now sourceid version)
  else Call.badArgument "Invalid IP Fix Version"

def close (m : MnslpIpfixMessage) : MnslpIpfixMessage :=
  {m with message := match m.message with | .null => .null | _ => .dangling, dataList := []}

def newTemplate (m : MnslpIpfixMessage) (nfields : Nat) : Call (MnslpIpfixMessage × UInt16) := do
  match m.message with
  | .null => Call.badArgument "Message is not initialized"
  | _ =>
    let t ← m.liveMessage
    if nfields < 1 then Call.badArgument "Invalid number of fields"
    let tid := m.gLasttid + 1
    let templates := t.templates.addTemplate {type := .dataTemplate, tid := tid, maxfields := nfields}
    return ({m with message := .live {t with templates := templates}, gLasttid := tid, requireOutput := true},tid)

def newTypedTemplate (type : IpfixTemplType) (m : MnslpIpfixMessage) (nfields : Nat) :
    Call (MnslpIpfixMessage × UInt16) := do
  let (m,templid) ← m.newTemplate nfields
  let t ← m.liveMessage
  let templates := t.templates.updateTemplate templid (fun templ => {templ with type := type})
  return ({m with message := .live {t with templates := templates}},templid)

theorem newTypedTemplate_eq (type : IpfixTemplType) {m : MnslpIpfixMessage} {t : IpfixT} (live : m.message = .live t)
    (nfields : Nat) : newTypedTemplate type m nfields =
      if nfields < 1 then Call.badArgument "Invalid number of fields"
      else
        let tid := m.gLasttid + 1
        let added := t.templates.addTemplate {type := .dataTemplate, tid := tid, maxfields := nfields}
        let typed := added.updateTemplate tid fun templ => {templ with type := type}
        .ok ({m with message := .live {t with templates := typed}, gLasttid := tid, requireOutput := true},tid) := by
  unfold newTypedTemplate newTemplate
  rw [live]
  simp only [liveMessage_eq_ok live,Call.ok_bind]
  split
  · rfl
  · rfl

def newDataTemplate := newTypedTemplate .dataTemplate

def newOptionTemplate := newTypedTemplate .optionTemplate

def addField (m : MnslpIpfixMessage) (templid : UInt16) (eno : UInt32) (type length : UInt16) :
    Call MnslpIpfixMessage := do
  let t ← m.liveMessage
  let templ ← t.templates.getTemplate templid
  if templ.getNumfields < templ.maxfields ∧ type < ipfixEftVendorBit then
    let field ← getFieldType ((eno.toNat : Int).bmod (2^32)) type.toNat
    let added := t.templates.updateTemplate templid (·.addDataField ⟨length,.known,m.encodeNetwork,field⟩)
    return {m with message := .live {t with templates := added}, requireOutput := true}
  else Call.badArgument "Maximum number of field reach"

def addScopeField (m : MnslpIpfixMessage) (templid : UInt16) (eno : UInt32) (type length : UInt16) :
    Call MnslpIpfixMessage := do
  let t ← m.liveMessage
  let templ ← t.templates.getTemplate templid
  if templ.type ≠ .optionTemplate then Call.badArgument "The template is not an option template"
  if templ.getNumfields < templ.maxfields then
    let field ← getFieldType ((eno.toNat : Int).bmod (2^32)) type.toNat
    let added := t.templates.updateTemplate templid (·.addScopeField ⟨length,.known,m.encodeNetwork,field⟩)
    return {m with message := .live {t with templates := added}, requireOutput := true}
  else Call.badArgument "Maximum number of field reach"

def includeData (m : MnslpIpfixMessage) (templid : UInt16) (record : IpfixDataRecord) :
    Call MnslpIpfixMessage := do
  let t ← m.liveMessage
  let templ ← t.templates.getTemplate templid
  if templ.getNumfields ≠ record.getNumFields then
    Call.badArgument "The number of field values is different from template's fields"
  return {m with dataList := m.dataList ++ [record], requireOutput := true}

def output (now : Nat) (m : MnslpIpfixMessage) : Call MnslpIpfixMessage := do
  if m.requireOutput then
    let t ← m.liveMessage
    let t := t.reinitiateBuffer
    let lst := t.templates.keys
    let isOption := fun templid => (t.templates.find templid).any (fun templ => templ.type = .optionTemplate)
    let set := outputSet m.encodeNetwork now m.dataList
    let t ← (lst.filter isOption).foldlM set t
    let t ← (lst.filter (fun templid => !isOption templid)).foldlM set t
    let t ← writeHdr m.encodeNetwork now m.gTstart t
    return {m with message := .live t, requireOutput := false}
  else return m

def getMessage (m : MnslpIpfixMessage) : Option Bytes :=
  match m.message with
  | .live t => if m.requireOutput then none else some t.buffer
  | _ => none

def getOffset (m : MnslpIpfixMessage) : Nat :=
  match m.message with
  | .live t => if m.requireOutput then 0 else t.offset
  | _ => 0

/-- Copy constructor. -/
def copy (m : MnslpIpfixMessage) : MnslpIpfixMessage :=
  {m with message := match m.message with | .live t => .live t.copy | other => other}

end MnslpIpfixMessage
end Mnslp.Msg
