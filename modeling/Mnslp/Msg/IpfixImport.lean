import Mnslp.Lib.Machine
import Mnslp.Msg.IpfixMessage

/-! Reading an IPFIX message, after `mnslp_ipfix_import`. One round of each of its three
loops, over the sets, the template records of a set and the data records of a set, is a
step of a machine. -/
namespace Mnslp.Msg
open Mnslp.Lib

/-- The contents of local variables that are read before anything is assigned to them:
those of the set header, and the upper bytes of the two lengths that the reader of an
option template at a position fills with two bytes each. -/
structure Leftover where
  setid : UInt16 := 0
  setlen : UInt16 := 0
  scopelen : Nat → Nat := fun _ => 0
  optionlen : Nat → Nat := fun _ => 0

structure ImportInput where
  buffer : Bytes
  now : Nat := 0
  leftover : Leftover := {}
  /-- Whether a read of a data record beyond its set is treated as one beyond the buffer. -/
  checkSets : Bool := false

namespace ImportInput

def messageLength (input : ImportInput) : Nat := input.buffer.length

/-- The bytes that the reader of a data record may read. -/
def readable (input : ImportInput) (setEnd : Nat) : Bytes :=
  if input.checkSets then input.buffer.take setEnd else input.buffer

end ImportInput

def readBytes (buffer : Bytes) (pos count : Nat) : Call Bytes :=
  if count = 0 then .ok []
  else match Bytes.slice buffer pos count with
    | some bytes => .ok bytes
    | none => Call.fault .readBeyondBuffer

def readNumber (order : ByteOrder) (width : Nat) (buffer : Bytes) (pos : Nat) : Call Nat :=
  (readBytes buffer pos width).map (Bytes.decode order)

/-- `mnslp_ipfix_parse_hdr`, whose second parameter is an `int`. -/
def parseHdr (input : ImportInput) (m : MnslpIpfixMessage) : Call MnslpIpfixMessage := do
  let u16 := readNumber (headerOrder m.encodeNetwork) 2 input.buffer
  let u32 := readNumber (headerOrder m.encodeNetwork) 4 input.buffer
  let offset : Int := (input.messageLength : Int).bmod (2^32)
  let version ← u16 0
  if version = ipfixVersionNf9.toNat then
    if offset < 20 then Call.badArgument "Invalid message given"
    else
      let count ← u16 2
      let sysuptime ← u32 4
      let unixtime ← u32 8
      let seqno ← u32 12
      let sourceid ← u32 16
      let header : IpfixT := {
        sourceid := UInt32.ofNat sourceid
        version := ipfixVersionNf9
        count := UInt16.ofNat count
        sysuptime := UInt32.ofNat sysuptime
        unixtime := UInt32.ofNat unixtime
        seqno := UInt32.ofNat seqno }
      return {m.init input.now header.sourceid header.version with message := .live header}
  else if version = ipfixVersion.toNat then
    if offset < 16 then Call.badArgument "Length of the message header is less than required"
    else
      let length ← u16 2
      let exporttime ← u32 4
      let seqno ← u32 8
      let sourceid ← u32 12
      let header : IpfixT := {
        sourceid := UInt32.ofNat sourceid
        version := ipfixVersion
        length := UInt16.ofNat length
        exporttime := UInt32.ofNat exporttime
        seqno := UInt32.ofNat seqno }
      return {m.init input.now header.sourceid header.version with message := .live header}
  else
    -- the version is stored in the message that was there before, then the exception is thrown
    let _ ← m.liveMessage
    Call.badArgument "Invalid Message Version"

structure TrecordHeader where
  templid : UInt16
  nfields : UInt16
  nscopefields : UInt16
  offset : Nat

def isOptionSet (setid : UInt16) : Bool := setid = 1 ∨ setid = 3

/-- A length of which two bytes are assigned in host order and eight are used. -/
def partlyAssigned (order : ByteOrder) (upper low : Nat) : Nat :=
  match order with
  | .network => low
  | .host => (low + 2^16 * upper) % 2^64

def readTrecordHeader (leftover : Leftover) (order : ByteOrder) (buffer : Bytes) (setid : UInt16) (pos len : Nat) :
    Call TrecordHeader := do
  let u16 := readNumber order 2 buffer
  if setid = 3 then
    if len < 6 then Call.badArgument "invalid message lenght"
    else
      let templid ← u16 pos
      let nfields ← u16 (pos + 2)
      let nscopefields ← u16 (pos + 4)
      return ⟨UInt16.ofNat templid,UInt16.ofNat nfields,UInt16.ofNat nscopefields,6⟩
  else if setid = 1 then
    if len < 6 then Call.badArgument "invalid message lenght"
    else
      let templid ← u16 pos
      let scopelen := partlyAssigned order (leftover.scopelen pos) (← u16 (pos + 2))
      let optionlen := partlyAssigned order (leftover.optionlen pos) (← u16 (pos + 4))
      if (scopelen + optionlen) % 2^64 < len then Call.badArgument "Invalid template data"
      else
        let nscopefields := UInt16.ofNat (scopelen / 4)
        return ⟨UInt16.ofNat templid,nscopefields + UInt16.ofNat (optionlen / 4),nscopefields,6⟩
  else if setid = 2 ∨ setid = 0 then
    if len < 4 then Call.badArgument "invalid message lenght"
    else
      let templid ← u16 pos
      let nfields ← u16 (pos + 2)
      return ⟨UInt16.ofNat templid,UInt16.ofNat nfields,0,4⟩
  else Call.badArgument "Invalid template the setid is wrong"

/-- The entry that stands for elements the container does not know. -/
def fieldTypeOrUnknown (eno ftype : Int) : Call (IpfixFieldType × IpfixUnknownField) :=
  match getFieldType eno ftype with
  | .ok field => .ok (field,.known)
  | .error _ => (getFieldType 0 0).map fun field => (field,.unknown)

def readEno (order : ByteOrder) (buffer : Bytes) (pos : Nat) (vendor : Bool) : Call Nat :=
  if vendor then readNumber order 4 buffer pos else .ok 0

/-- `read_field` returns the template with the field and how many bytes it read. -/
def readField (order : ByteOrder) (relay : Bool) (buffer : Bytes) (templ : IpfixTemplate) (isscopefield : Bool)
    (pos buflen : Nat) : Call (IpfixTemplate × Nat) := do
  if buflen < 4 then Call.badArgument "Buffer has not enough information to read a field"
  else if templ.getNumfields ≥ templ.maxfields then
    Call.badArgument "It cannot insert the new field, max field reached"
  else
    let ftype ← readNumber order 2 buffer pos
    let length ← readNumber order 2 buffer (pos + 2)
    let vendor := decide (ftype ≥ ipfixEftVendorBit.toNat)
    if vendor ∧ buflen < 8 then Call.badArgument "Invalid buffer len for reading a vendor field"
    else
      let eno ← readEno order buffer (pos + 4) vendor
      let (elem,unknownF) ← fieldTypeOrUnknown ((eno : Int).bmod (2^32)) (ftype % ipfixEftVendorBit.toNat : Nat)
      let field : IpfixTemplateField := ⟨UInt16.ofNat length,unknownF,relay,elem⟩
      return (if isscopefield then templ.addScopeField field else templ.addDataField field,
        if vendor then 8 else 4)

/-- One round of the loop over the field specifiers of a template record. -/
def readFieldAt (order : ByteOrder) (relay : Bool) (buffer : Bytes) (header : TrecordHeader) (pos len : Nat)
    (read : IpfixTemplate × Nat) (i : Nat) : Call (IpfixTemplate × Nat) := do
  let (templ,offset) := read
  if offset ≥ len then Call.badArgument "Field in template has a longer length than message"
  else
    let (templ,nread) ←
      readField order relay buffer templ (i < header.nscopefields.toNat) (pos + offset) (len - offset)
    return (templ,offset + nread)

/-- The handler that throws another exception for every `mnslp_ipfix_bad_argument`. -/
def rethrown {α : Type} (text : String) : Call α → Call α
  | .error (.thrown (.ipfixBadArgument _)) => Call.badArgument text
  | other => other

/-- What a record without fields does to the templates. -/
def withdrawTemplate (templates : TemplateContainer) (setid : UInt16) (header : TrecordHeader) :
    Call TemplateContainer :=
  if header.nfields ≠ 0 then .ok templates
  else if header.templid = setid then .ok .empty
  else templates.deleteTemplate header.templid

/-- `mnslp_ipfix_decode_trecord` returns the message and how many bytes it read. A
withdrawal goes on to the code that creates the template. -/
def decodeTrecord (leftover : Leftover) (buffer : Bytes) (m : MnslpIpfixMessage) (setid : UInt16) (pos len : Nat) :
    Call (MnslpIpfixMessage × Nat) := do
  let order := headerOrder m.encodeNetwork
  let header ← readTrecordHeader leftover order buffer setid pos len
  let t ← m.liveMessage
  let templates ← withdrawTemplate t.templates setid header
  let templates := templates.erase header.templid
  let type := if isOptionSet setid then IpfixTemplType.optionTemplate else .dataTemplate
  let (m,templid) ← MnslpIpfixMessage.newTypedTemplate type
    {m with message := .live {t with templates := templates}} header.nfields.toNat
  let t ← m.liveMessage
  let templ ← t.templates.getTemplate templid
  let empty := {templ with tid := templid, maxfields := header.nfields.toNat}
  let (templ,nread) ← rethrown "Could not read the template information"
    ((List.range header.nfields.toNat).foldlM
      (readFieldAt order m.encodeNetwork buffer header pos len) (empty,header.offset))
  return ({m with message := .live {t with templates := t.templates.updateTemplate templid (fun _ => templ)}},nread)

/-- The length of a value and the bytes its length takes in the record. -/
def readValueLength (order : ByteOrder) (readable : Bytes) (field : IpfixTemplateField) (pos : Nat) :
    Call (Nat × Nat) := do
  if field.flength = ipfixFtVarlen then
    let short ← readNumber order 1 readable pos
    if short = 255 then
      let long ← readNumber order 2 readable (pos + 1)
      return (long,3)
    else return (short,1)
  else return (field.flength.toNat,0)

structure RecordProgress where
  nread : Nat
  bytesleft : Nat
  record : IpfixDataRecord

/-- One round of the loop over the fields of a data record. The bytes that hold the
length of a value are not taken from those left. -/
def decodeField (encodeNetwork : Bool) (readable : Bytes) (templ : IpfixTemplate) (pos : Nat)
    (read : RecordProgress) (i : Nat) : Call RecordProgress := do
  let field ← templ.getField i
  let (len,lead) ← readValueLength (headerOrder encodeNetwork) readable field (pos + read.nread)
  if read.bytesleft < len then Call.badArgument "Invalid buffer len for reading the data"
  else
    let bytes ← readBytes readable (pos + read.nread + lead) (field.elem.bytesRead len)
    let value ← field.elem.decode bytes len encodeNetwork
    field.elem.snprint 30 value
    return ⟨read.nread + lead + len,read.bytesleft - len,read.record.insertField field.elem.getFieldKey value⟩

/-- `mnslp_ipfix_decode_datarecord` returns the record and how many bytes it read. -/
def decodeDatarecord (encodeNetwork : Bool) (readable : Bytes) (templ : IpfixTemplate) (pos buflen : Nat) :
    Call (IpfixDataRecord × Nat) := do
  let read ← (List.range templ.getNumfields).foldlM (decodeField encodeNetwork readable templ pos)
    ⟨0,buflen,.new templ.tid⟩
  return (read.record,read.nread)

inductive ImportPoint
  | sets
  | templates (offset bytesleft : Nat)
  | records (templ : IpfixTemplate) (offset bytesleft : Nat)

structure ImportState where
  m : MnslpIpfixMessage
  i : Nat
  nread : Nat
  setid : UInt16
  setlen : UInt16
  point : ImportPoint

abbrev Imported := MnslpIpfixMessage × Nat

/-- An addition of `int` variables, none of them negative. -/
def addInt (a b : Nat) : Call Nat := if a + b < 2^31 then .ok (a + b) else Call.fault .signedOverflow

namespace ImportState

/-- The code from the label `end` on. -/
def finish (input : ImportInput) (s : ImportState) : Call Imported := do
  let t ← s.m.liveMessage
  let t ← t.copyRawMessage (input.buffer.take s.nread)
  let offset := (((s.nread : Int) - s.setlen.toNat) % 2^64).toNat
  let t := if s.setid > 255 then
      {t with csTid := s.setid.toNat, csBytes := s.setlen.toNat, csOffset := offset, csHeader := some offset}
    else t
  return ({s.m with message := .live {t with nrecords := s.m.dataList.length}, requireOutput := false},s.nread)

/-- The end of a round of the loop over the sets. -/
def closeSet (s : ImportState) : Call ImportState := do
  let nread ← addInt s.nread s.setlen.toNat
  return {s with nread := nread, i := s.i + 1, point := .sets}

/-- The body of the loop over the sets behind the header of a set, which ends at `nread`. -/
def readSet (input : ImportInput) (s : ImportState) (t : IpfixT) (nread : Nat) (setid setlen : UInt16) :
    Call (ImportState ⊕ Imported) := do
  if setlen < 4 then return .inl {s with setid := setid, setlen := setlen, nread := nread, i := s.i + 1}
  else
    let s := {s with setid := setid, setlen := setlen - 4, nread := nread}
    if s.setlen.toNat > input.messageLength - nread then return .inr (← s.finish input)
    else if setid ≤ 3 then return .inl {s with point := .templates nread s.setlen.toNat}
    else if setid > 255 then
      let templ ← t.templates.getTemplate setid
      return .inl {s with point := .records templ nread s.setlen.toNat}
    else return .inl (← s.closeSet)

def openSet (input : ImportInput) (s : ImportState) : Call (ImportState ⊕ Imported) := do
  let u16 := readNumber (headerOrder s.m.encodeNetwork) 2 input.buffer
  let nread ← addInt s.nread 4
  let t ← s.m.liveMessage
  if input.messageLength ≤ nread then return .inr (← s.finish input)
  else if t.version = ipfixVersionNf9 ∧ s.i ≥ t.count.toNat then return .inr (← s.finish input)
  else
    let setid ← u16 s.nread
    let setlen ← u16 (s.nread + 2)
    s.readSet input t nread (UInt16.ofNat setid) (UInt16.ofNat setlen)

def step (input : ImportInput) (s : ImportState) : Call (ImportState ⊕ Imported) := do
  match s.point with
  | .sets => s.openSet input
  | .templates offset bytesleft =>
    if bytesleft > 4 then
      let (m,bytes) ← decodeTrecord input.leftover input.buffer s.m s.setid offset bytesleft
      return .inl {s with m := m, point := .templates (offset + bytes) (bytesleft - bytes)}
    else return .inl (← s.closeSet)
  | .records templ offset bytesleft =>
    -- the count may fall below 0, which ends the loop as 0 does
    if bytesleft > 0 then
      let readable := input.readable (s.nread + s.setlen.toNat)
      let (record,bytes) ← decodeDatarecord s.m.encodeNetwork readable templ offset bytesleft
      return .inl {s with
        m := {s.m with dataList := s.m.dataList ++ [record]}
        point := .records templ (offset + bytes) (bytesleft - bytes) }
    else return .inl (← s.closeSet)

def machine (input : ImportInput) : Machine ImportState (Call Imported) := fun s =>
  match s.step input with
  | .ok (.inl next) => .inl next
  | .ok (.inr imported) => .inr (.ok imported)
  | .error stop => .inr (.error stop)

end ImportState

/-- The code before the loop over the sets. -/
def importStart (input : ImportInput) (m : MnslpIpfixMessage) : Call ImportState := do
  if input.messageLength < 2 then Call.badArgument "Invalid Message"
  else
    let m ← parseHdr input m
    let t ← m.liveMessage
    let s : ImportState := ⟨m,0,0,input.leftover.setid,input.leftover.setlen,.sets⟩
    if t.version = ipfixVersionNf9 then return {s with nread := 20}
    else if t.version = ipfixVersion then return {s with nread := 16}
    else Call.badArgument "Invalid IPFIX Version"

/-- A bound for the steps of the runs that end. -/
def importSteps (input : ImportInput) : Nat := 2 * input.messageLength + 1

/-- `mnslp_ipfix_import`, no result when it does not return. -/
def mnslpIpfixImport (input : ImportInput) (m : MnslpIpfixMessage) : Option (Call Imported) :=
  match importStart input m with
  | .error stop => some (.error stop)
  | .ok s => Machine.run (ImportState.machine input) (importSteps input) s

end Mnslp.Msg
