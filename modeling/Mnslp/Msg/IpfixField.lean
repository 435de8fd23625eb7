import Mnslp.Lib.Bytes
import Mnslp.Lib.OrderedMap
import Mnslp.Outcome

/-! Field types, field values and their codec, after `mnslp_ipfix_field`. Names and
documentation of the elements are left out: no modelled function reads them. -/
namespace Mnslp.Msg
open Mnslp.Lib

/-- `IPFIX_CODING_*`; the entry that stands for unknown elements has coding 0. -/
inductive IpfixCoding
  | none | int | uint | bytes | string | float | ntp | ipaddr
deriving DecidableEq, Repr

structure IpfixFieldType where
  eno : Int
  ftype : Int
  length : Int
  coding : IpfixCoding
deriving DecidableEq, Repr

structure IpfixFieldKey where
  eno : Int
  ftype : Int
deriving DecidableEq, Repr

/-- `operator<` compares `eno*1000+ftype`, an `int`. -/
instance : Ranked IpfixFieldKey := ⟨fun key => (key.eno * 1000 + key.ftype).bmod (2^32)⟩

def IpfixFieldType.getFieldKey (field : IpfixFieldType) : IpfixFieldKey := ⟨field.eno,field.ftype⟩

def revPen : Int := 29305

def ipfixFtVarlen : UInt16 := 65535

def ipfixEftVendorBit : UInt16 := 0x8000

/-- Type, length and coding of the elements of `initialize_forward`, in its order. -/
def ipfixElements : List (Int × Int × IpfixCoding) := [
  (1,8,.uint),(2,8,.uint),(3,8,.uint),(4,1,.uint),(5,1,.uint),(6,1,.uint),(7,2,.uint),(8,4,.ipaddr),
  (9,1,.uint),(10,4,.uint),(11,2,.uint),(12,4,.ipaddr),(13,1,.uint),(14,4,.uint),(15,4,.ipaddr),
  (16,4,.uint),(17,4,.uint),(18,4,.ipaddr),(19,8,.uint),(20,8,.uint),(21,4,.uint),(22,4,.uint),
  (23,8,.uint),(24,8,.uint),(25,8,.uint),(26,8,.uint),(27,16,.ipaddr),(28,16,.ipaddr),(29,1,.uint),
  (30,1,.uint),(31,4,.uint),(32,2,.uint),(33,1,.uint),(34,4,.uint),(35,1,.uint),(36,2,.uint),
  (37,2,.uint),(38,1,.uint),(39,1,.uint),(40,8,.uint),(41,8,.uint),(42,8,.uint),(44,4,.ipaddr),
  (45,4,.ipaddr),(46,1,.uint),(47,4,.ipaddr),(48,1,.uint),(49,1,.uint),(50,4,.uint),(52,1,.uint),
  (53,1,.uint),(54,4,.uint),(55,1,.uint),(56,6,.bytes),(57,6,.bytes),(58,2,.uint),(59,2,.uint),
  (60,1,.uint),(61,1,.uint),(62,16,.ipaddr),(63,16,.ipaddr),(64,4,.uint),(70,65535,.bytes),
  (71,65535,.bytes),(72,65535,.bytes),(73,65535,.bytes),(74,65535,.bytes),(75,65535,.bytes),
  (76,65535,.bytes),(77,65535,.bytes),(78,65535,.bytes),(79,65535,.bytes),(80,6,.bytes),(81,6,.bytes),
  (85,8,.uint),(86,8,.uint),(88,2,.uint),(90,65535,.bytes),(128,4,.uint),(129,4,.uint),(130,4,.ipaddr),
  (131,16,.ipaddr),(132,8,.uint),(133,8,.uint),(134,8,.uint),(135,8,.uint),(136,1,.uint),(137,8,.uint),
  (138,4,.uint),(139,2,.uint),(140,16,.ipaddr),(141,4,.uint),(142,4,.uint),(143,4,.uint),(144,4,.uint),
  (145,2,.uint),(146,1,.uint),(147,65535,.string),(148,8,.uint),(149,4,.uint),(150,4,.uint),
  (151,4,.uint),(152,8,.uint),(153,8,.uint),(154,8,.ntp),(155,8,.ntp),(156,8,.ntp),(157,8,.ntp),
  (158,4,.uint),(159,4,.uint),(160,8,.uint),(161,4,.uint),(162,4,.uint),(163,8,.uint),(164,8,.uint),
  (165,8,.uint),(166,8,.uint),(167,8,.uint),(168,8,.uint),(169,16,.ipaddr),(170,16,.ipaddr),
  (171,8,.uint),(172,8,.uint),(173,8,.uint),(174,8,.uint),(175,8,.uint),(176,1,.uint),(177,1,.uint),
  (178,1,.uint),(179,1,.uint),(180,2,.uint),(181,2,.uint),(182,2,.uint),(183,2,.uint),(184,4,.uint),
  (185,4,.uint),(186,2,.uint),(187,2,.uint),(188,1,.uint),(189,1,.uint),(190,2,.uint),(191,2,.uint),
  (192,1,.uint),(193,1,.uint),(194,4,.uint),(195,1,.uint),(196,1,.uint),(197,1,.uint),(198,8,.uint),
  (199,8,.uint),(200,1,.uint),(201,4,.uint),(202,4,.uint),(203,1,.uint),(204,4,.uint),(205,2,.uint),
  (206,1,.uint),(207,1,.uint),(208,4,.uint),(209,8,.uint),(210,65535,.bytes),(211,4,.ipaddr),
  (212,16,.ipaddr),(213,4,.uint),(214,1,.uint),(215,1,.uint),(216,2,.uint),(217,2,.uint),(218,8,.uint),
  (219,8,.uint),(220,8,.uint),(221,8,.uint),(222,8,.uint),(223,8,.uint),(224,8,.uint),(237,1,.uint),
  (238,2,.uint),(300,8,.uint),(301,8,.uint),(302,2,.uint),(303,2,.uint),(304,2,.uint),(305,4,.uint),
  (306,4,.uint),(307,8,.ntp),(308,8,.ntp),(309,4,.uint),(310,4,.uint),(311,8,.float),(312,4,.uint),
  (313,65535,.bytes),(314,65535,.bytes),(315,65535,.bytes),(316,65535,.bytes),(317,65535,.bytes),
  (318,8,.uint),(319,8,.uint),(320,8,.float),(321,8,.float),(322,4,.uint),(323,8,.uint),(324,8,.ntp),
  (325,8,.ntp),(326,8,.uint),(327,8,.uint),(328,8,.uint),(329,8,.uint),(330,8,.uint),(331,8,.uint),
  (332,8,.uint),(333,1,.bytes),(334,8,.uint),(0,-1,.none)]

/-- The container after `initialize_forward` and `initialize_reverse`, which repeats
the elements under the enterprise number of reverse flows. -/
def ipfixFields : List IpfixFieldType :=
  ipfixElements.map (fun (ftype,length,coding) => ⟨0,ftype,length,coding⟩) ++
    ipfixElements.map (fun (ftype,length,coding) => ⟨revPen,ftype,length,coding⟩)

/-- `msnlp_ipfix_field_container::get_field` -/
def getFieldType (eno ftype : Int) : Call IpfixFieldType :=
  match ipfixFields.find? (fun field => field.ftype == ftype && field.eno == eno) with
  | some field => .ok field
  | none => Call.badArgument "Field not found in the container"

/-- A field value. The code keeps one member for each width and two pointers. -/
structure IpfixValueField where
  value8 : UInt8 := 0
  value16 : UInt16 := 0
  value32 : UInt32 := 0
  value64 : UInt64 := 0
  length : Nat := 0
  valuechar : Option Bytes := none
  valuebyte : Option Bytes := none
deriving DecidableEq, Repr

namespace IpfixValueField

/-- Copy constructor and assignment, which drop the pointers of an empty value. -/
def copy (value : IpfixValueField) : IpfixValueField :=
  if value.length > 0 then value else {value with valuechar := none, valuebyte := none}

def setValueInt8 (value : IpfixValueField) (v : UInt8) : IpfixValueField := {value with value8 := v, length := 1}

def setValueInt16 (value : IpfixValueField) (v : UInt16) : IpfixValueField := {value with value16 := v, length := 2}

def setValueInt32 (value : IpfixValueField) (v : UInt32) : IpfixValueField := {value with value32 := v, length := 4}

def setValueInt64 (value : IpfixValueField) (v : UInt64) : IpfixValueField := {value with value64 := v, length := 8}

def setValueVunit8 (value : IpfixValueField) (v : Bytes) : IpfixValueField :=
  {value with valuebyte := some v, length := v.length}

def setValueVchar (value : IpfixValueField) (v : Bytes) : IpfixValueField :=
  {value with valuechar := some v, length := v.length}

end IpfixValueField

def valueMismatch {α : Type} : Call α := Call.badArgument "Value does not agree with Field Type"

namespace IpfixFieldType

def getIpfixValueField8 (field : IpfixFieldType) (v : UInt8) : Call IpfixValueField :=
  if field.length = 1 then .ok (({} : IpfixValueField).setValueInt8 v) else valueMismatch

def getIpfixValueField16 (field : IpfixFieldType) (v : UInt16) : Call IpfixValueField :=
  if field.length = 2 then .ok (({} : IpfixValueField).setValueInt16 v) else valueMismatch

def getIpfixValueField32 (field : IpfixFieldType) (v : UInt32) : Call IpfixValueField :=
  if field.length = 4 then .ok (({} : IpfixValueField).setValueInt32 v) else valueMismatch

def getIpfixValueField64 (field : IpfixFieldType) (v : UInt64) : Call IpfixValueField :=
  if field.length = 8 then .ok (({} : IpfixValueField).setValueInt64 v) else valueMismatch

/-- The lengths a byte value of the field may have. -/
def acceptsBytes (field : IpfixFieldType) (length : Nat) : Bool :=
  match field.coding with
  | .ipaddr => field.length = length
  | .bytes => field.length = length ∨ field.length = 65535
  | _ => false

def getIpfixValueFieldBytes (field : IpfixFieldType) (v : Bytes) : Call IpfixValueField :=
  if field.acceptsBytes v.length then .ok (({} : IpfixValueField).setValueVunit8 v) else valueMismatch

def getIpfixValueFieldChars (field : IpfixFieldType) (v : Bytes) : Call IpfixValueField :=
  if field.coding = .string then .ok (({} : IpfixValueField).setValueVchar v) else valueMismatch

/-- With the relay flag a number is copied as it lies in memory. -/
def relayOrder (relay : Bool) : ByteOrder := if relay then .host else .network

def ipfixEncodeInt (value : IpfixValueField) (relay : Bool) : Bytes :=
  match value.length with
  | 1 => [value.value8]
  | 2 => Bytes.encode (relayOrder relay) 2 value.value16.toNat
  | 4 => Bytes.encode (relayOrder relay) 4 value.value32.toNat
  | 8 => Bytes.encode (relayOrder relay) 8 value.value64.toNat
  | length => List.replicate length 0xff

def ipfixEncodeFloat (value : IpfixValueField) (relay : Bool) : Bytes :=
  match value.length with
  | 4 => Bytes.encode (relayOrder relay) 4 value.value32.toNat
  | 8 => Bytes.encode (relayOrder relay) 8 value.value64.toNat
  | length => List.replicate length 0xff

def ipfixEncodeBytes (value : IpfixValueField) : Call Bytes :=
  match value.valuebyte with
  | some bytes => if bytes.length < value.length then Call.fault .readBeyondBuffer else .ok (bytes.take value.length)
  | none => if value.length = 0 then .ok [] else Call.fault .nullDereference

def encode (field : IpfixFieldType) (value : IpfixValueField) (relay : Bool) : Call Bytes :=
  match field.coding with
  | .int | .uint | .ntp => .ok (ipfixEncodeInt value relay)
  | .float => .ok (ipfixEncodeFloat value relay)
  | .ipaddr | .string | .bytes | .none => ipfixEncodeBytes value

/-- How many bytes `decode` reads for a value of the given length. A number of another
width than its decoder knows is skipped, a byte string is copied once it is accepted. -/
def bytesRead (field : IpfixFieldType) (length : Nat) : Nat :=
  match field.coding with
  | .int | .uint | .ntp =>
    if length = 1 then (if field.length = 1 then 1 else 0)
    else if length = 2 ∨ length = 4 ∨ length = 8 then length else 0
  | .float => if length = 4 ∨ length = 8 then length else 0
  | .ipaddr | .bytes => if field.acceptsBytes length then length else 0
  | .string | .none => 0

def ipfixDecodeInt (field : IpfixFieldType) (input : Bytes) (length : Nat) (relay : Bool) :
    Call IpfixValueField :=
  match length with
  | 1 => field.getIpfixValueField8 (UInt8.ofNat (Bytes.decode .host input))
  | 2 => field.getIpfixValueField16 (UInt16.ofNat (Bytes.decode (relayOrder relay) input))
  | 4 => field.getIpfixValueField32 (UInt32.ofNat (Bytes.decode (relayOrder relay) input))
  | 8 => field.getIpfixValueField64 (UInt64.ofNat (Bytes.decode (relayOrder relay) input))
  | _ => .ok {}

def ipfixDecodeFloat (field : IpfixFieldType) (input : Bytes) (length : Nat) (relay : Bool) :
    Call IpfixValueField :=
  match length with
  | 4 => field.getIpfixValueField32 (UInt32.ofNat (Bytes.decode (relayOrder relay) input))
  | 8 => field.getIpfixValueField64 (UInt64.ofNat (Bytes.decode (relayOrder relay) input))
  | _ => .ok {}

def ipfixDecodeBytes (field : IpfixFieldType) (input : Bytes) (length : Nat) : Call IpfixValueField :=
  if field.acceptsBytes length then (field.getIpfixValueFieldBytes input).map IpfixValueField.copy
  else valueMismatch

/-- `decode` on the bytes it reads, `bytesRead` many of them. -/
def decode (field : IpfixFieldType) (input : Bytes) (length : Nat) (relay : Bool) : Call IpfixValueField :=
  match field.coding with
  | .int | .uint | .ntp => field.ipfixDecodeInt input length relay
  | .float => field.ipfixDecodeFloat input length relay
  | .ipaddr | .string | .bytes | .none => field.ipfixDecodeBytes input length

/-- The bytes `snprint` writes for a byte string: the digits that fit, `0x` before them
and the final NUL, for which the loop that drops digits leaves no room. -/
def snprintBytesWritten (size length : Nat) : Nat := 2 + 2 * min length ((size - 2) / 2) + 1

/-- The other codings are printed by `snprintf`, which stays inside. -/
def snprintFits (field : IpfixFieldType) (size length : Nat) : Bool :=
  match field.coding with
  | .bytes | .none => snprintBytesWritten size length ≤ size
  | .ipaddr => length = 4 ∨ length = 16 ∨ snprintBytesWritten size length ≤ size
  | _ => true

/-- `snprint` into `size` bytes, at least 4, as far as it writes beyond them. -/
def snprint (field : IpfixFieldType) (size : Nat) (value : IpfixValueField) : Call Unit :=
  if field.snprintFits size value.length then .ok () else Call.fault .writeBeyondBuffer

end IpfixFieldType
end Mnslp.Msg
