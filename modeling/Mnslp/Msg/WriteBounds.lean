import Mnslp.Msg.ImportBounds
import Mnslp.Msg.Printing

/-! How far the import and the printing of values write. The raw message is copied to a
buffer of a fixed size, and a byte string is printed with as many digits as leave no room
for the final NUL where the size is even. -/
namespace Mnslp.Msg
open Mnslp.Lib Call Text

namespace IpfixValueField

/-- How many bytes there are behind the pointer to the bytes of the value. -/
def readable (value : IpfixValueField) : Nat :=
  match value.valuebyte with
  | none => 0
  | some bytes => min bytes.length value.length

/-- The digits leave room for the NUL, or there are not enough bytes for them. -/
def BytesFit (value : IpfixValueField) (size : Nat) : Prop :=
  size < 4 ∨ (value.length + 1 < 2^30 ∧ (size % 2 = 1 ∨ value.readable < (size - 2) / 2))

/-- The text is not longer than the buffer, and its length was computed without overflow. -/
def Within (size : Nat) (text : Call Text) : Prop :=
  (∀ written, text = .ok written → written.length ≤ size) ∧ ¬ Faults .signedOverflow text

theorem within_ok {size : Nat} {text : Text} : Within size (.ok text) ↔ text.length ≤ size := by
  simp [Within]

theorem within_bind {size : Nat} {α : Type} {x : Call α} {f : α → Call Text} (quiet : ¬ Faults .signedOverflow x)
    (after : ∀ a, x = .ok a → Within size (f a)) : Within size (x >>= f) := by
  constructor
  · intro written ended
    obtain ⟨a,first,ended⟩ := bind_eq_ok.mp ended
    exact (after a first).1 written ended
  · rw [faults_bind]
    rintro (first | ⟨a,first,later⟩)
    · exact quiet first
    · exact (after a first).2 later

theorem readPointer_quiet (pointer : Option Bytes) (count : Nat) : ¬ Faults .signedOverflow (readPointer pointer count) := by
  unfold readPointer
  split
  · exact faults_ok _
  · cases pointer with
    | none => simp
    | some bytes =>
      dsimp only
      split <;> simp

theorem readPointer_readable {value : IpfixValueField} {count : Nat} (most : count ≤ value.length) :
    (∃ bytes, readPointer value.valuebyte count = .ok bytes) ↔ count ≤ value.readable := by
  unfold readPointer readable
  by_cases zero : count = 0
  · simp [zero]
  · rw [if_neg zero]
    cases value.valuebyte with
    | none => simp [fault,zero]
    | some behind =>
      dsimp only
      by_cases few : behind.length < count
      · simp [few,fault]
      · simp [few,most,Nat.le_of_not_lt few]

/-- The text of a byte string, when the bytes for all its digits are there. -/
theorem within_digits {value : IpfixValueField} {count size : Nat} (most : count ≤ value.length) :
    Within size (do let bytes ← readPointer value.valuebyte count; return "0x".toList ++ bytes.flatMap hexByte ++ [nul]) ↔
      (count ≤ value.readable → 2 * count + 3 ≤ size) := by
  have length {bytes : Bytes} (read : readPointer value.valuebyte count = .ok bytes) :
      ("0x".toList ++ bytes.flatMap hexByte ++ [nul]).length = 2 * count + 3 := by
    have marker : "0x".toList.length = 2 := rfl
    rw [List.length_append,List.length_append,length_hexBytes,length_readPointer read,marker,List.length_singleton]
    omega
  constructor
  · intro within behind
    obtain ⟨bytes,read⟩ := (readPointer_readable most).mpr behind
    rw [read,ok_bind] at within
    exact length read ▸ within_ok.mp within
  · intro fits
    refine within_bind (readPointer_quiet _ _) fun bytes read => within_ok.mpr ?_
    rw [length read]
    exact fits ((readPointer_readable most).mp ⟨bytes,read⟩)

theorem within_ipfixSnprintBytes (value : IpfixValueField) (size : Nat) :
    Within size (value.ipfixSnprintBytes size) ↔ value.BytesFit size := by
  have behind : value.readable ≤ value.length := by
    unfold readable
    cases value.valuebyte with
    | none => exact Nat.zero_le _
    | some bytes => exact Nat.min_le_right _ _
  unfold ipfixSnprintBytes BytesFit
  by_cases small : size < 4
  · rw [if_pos small]
    exact iff_of_true (within_ok.mpr (length_snprintf _ _)) (.inl small)
  · rw [if_neg small]
    by_cases long : 2 * value.length + 2 ≥ 2^31
    · rw [if_pos long]
      refine iff_of_false (fun within => within.2 rfl) ?_
      omega
    · rw [if_neg long,dropBytes_eq (by omega)]
      refine (within_digits (Nat.min_le_left _ _)).trans ?_
      omega

theorem within_ipfixSnprintString (value : IpfixValueField) (size : Nat) : Within size (value.ipfixSnprintString size) := by
  refine within_bind (readPointer_quiet _ _) fun chars read => ?_
  split
  · exact within_ok.mpr (length_snprintf _ _)
  · split
    · next short =>
      apply within_ok.mpr
      rw [List.length_append,List.length_map,length_readPointer read,List.length_singleton]
      exact short
    · exact within_ok.mpr (length_snprintf _ _)

theorem within_ipfixSnprintIpaddr (value : IpfixValueField) (size : Nat) : Within size (value.ipfixSnprintIpaddr size) ↔
    value.length = 4 ∨ value.length = 16 ∨ value.BytesFit size := by
  unfold ipfixSnprintIpaddr
  split
  · next four =>
    exact iff_of_true (within_bind (readPointer_quiet _ _) fun bytes _ => within_ok.mpr (length_snprintf _ _)) (.inl four)
  · next sixteen =>
    exact iff_of_true (within_bind (readPointer_quiet _ _) fun bytes _ => within_ok.mpr (length_snprintf _ _))
      (.inr (.inl sixteen))
  · next four sixteen =>
    rw [within_ipfixSnprintBytes]
    exact ⟨fun fits => .inr (.inr fits),fun fits => (fits.resolve_left four).resolve_left sixteen⟩

end IpfixValueField

namespace IpfixFieldType
open IpfixValueField

/-- The values that are printed as byte strings fit, all others are cut by `snprintf`. -/
def PrintFits (field : IpfixFieldType) (size : Nat) (value : IpfixValueField) : Prop :=
  match field.coding with
  | .bytes | .none => value.BytesFit size
  | .ipaddr => value.length = 4 ∨ value.length = 16 ∨ value.BytesFit size
  | .int | .uint | .ntp | .float | .string => True

theorem within_snprintText (field : IpfixFieldType) (size : Nat) (value : IpfixValueField) :
    Within size (field.snprintText size value) ↔ field.PrintFits size value := by
  unfold snprintText PrintFits
  cases field.coding with
  | int => exact iff_of_true (within_ok.mpr (length_ipfixSnprintInt size value)) trivial
  | uint | ntp => exact iff_of_true (within_ok.mpr (length_ipfixSnprintUint size value)) trivial
  | float => exact iff_of_true (within_ok.mpr (length_ipfixSnprintFloat size value)) trivial
  | ipaddr => exact value.within_ipfixSnprintIpaddr size
  | string => exact iff_of_true (value.within_ipfixSnprintString size) trivial
  | bytes | none => exact value.within_ipfixSnprintBytes size

theorem bytesFit_iff {value : IpfixValueField} {size : Nat} (four : 4 ≤ size) (small : value.length + 1 < 2^30)
    (behind : value.readable = value.length) : value.BytesFit size ↔ snprintBytesWritten size value.length ≤ size := by
  unfold BytesFit snprintBytesWritten
  rw [behind]
  omega

/-- The values that the import makes have the bytes that are printed of them. -/
theorem readable_of_decode {field : IpfixFieldType} {bytes : Bytes} {relay : Bool} {value : IpfixValueField}
    (decoded : field.decode bytes bytes.length relay = .ok value)
    (coding : field.coding = .bytes ∨ field.coding = .ipaddr) : value.length = bytes.length ∧ value.readable = value.length := by
  have made : field.ipfixDecodeBytes bytes bytes.length = .ok value := by
    rcases coding with coding | coding <;> simpa only [decode,coding] using decoded
  unfold ipfixDecodeBytes getIpfixValueFieldBytes at made
  split at made
  · next accepts =>
    cases made
    unfold IpfixValueField.copy readable
    split
    · exact ⟨rfl,Nat.min_self _⟩
    · next empty => exact ⟨rfl,(Nat.eq_zero_of_not_pos empty).symm⟩
  · cases made

/-- The text of a value that the import prints is longer than its buffer exactly where `snprint` goes wrong. -/
theorem snprint_of_decode {field : IpfixFieldType} {bytes : Bytes} {relay : Bool} {value : IpfixValueField} {size : Nat}
    (decoded : field.decode bytes bytes.length relay = .ok value) (four : 4 ≤ size) (small : bytes.length + 1 < 2^30) :
    field.snprint size value = .ok () ↔ Within size (field.snprintText size value) := by
  have printed : field.snprint size value = .ok () ↔ field.snprintFits size value.length = true := by
    unfold snprint
    split <;> simp [*,fault]
  rw [printed,within_snprintText]
  unfold snprintFits PrintFits
  cases coding : field.coding with
  | int | uint | ntp | float | string => simp
  | none => simp [decode,coding,ipfixDecodeBytes,acceptsBytes,valueMismatch,badArgument,Call.throw] at decoded
  | bytes =>
    obtain ⟨length,behind⟩ := readable_of_decode decoded (.inl coding)
    simp [bytesFit_iff four (by omega) behind]
  | ipaddr =>
    obtain ⟨length,behind⟩ := readable_of_decode decoded (.inr coding)
    simp [bytesFit_iff four (by omega) behind]

end IpfixFieldType
section
variable {encodeNetwork : Bool} {readable : Bytes} {templ : IpfixTemplate} {pos : Nat}

/-- The decoder takes the next value of a record, and its text is longer than the 30 bytes of the scratch buffer. -/
def OverprintsAt (encodeNetwork : Bool) (readable : Bytes) (templ : IpfixTemplate) (pos : Nat) (read : RecordProgress) (i : Nat) :
    Prop :=
  ∃ field len lead, templ.getField i = .ok field ∧
    readValueLength (headerOrder encodeNetwork) readable field (pos + read.nread) = .ok (len,lead) ∧
    len ≤ read.bytesleft ∧ pos + read.nread + lead + len ≤ readable.length ∧ field.elem.refuses len = false ∧
    field.elem.snprintFits 30 len = false

/-- One of the values of a record is printed beyond the scratch buffer. -/
def Overprints (encodeNetwork : Bool) (readable : Bytes) (templ : IpfixTemplate) (pos bytesleft : Nat) : Prop :=
  ∃ before i after read, List.range templ.getNumfields = before ++ i :: after ∧
    before.foldlM (decodeField encodeNetwork readable templ pos) ⟨0,bytesleft,.new templ.tid⟩ = .ok read ∧
    OverprintsAt encodeNetwork readable templ pos read i

theorem not_faults_readBytes (buffer : Bytes) (pos count : Nat) : ¬ Faults .writeBeyondBuffer (readBytes buffer pos count) := by
  unfold readBytes
  split
  · exact faults_ok _
  · split <;> simp

theorem not_faults_readNumber (order : ByteOrder) (width : Nat) (buffer : Bytes) (pos : Nat) :
    ¬ Faults .writeBeyondBuffer (readNumber order width buffer pos) := by
  unfold readNumber
  rw [faults_map]
  exact not_faults_readBytes _ _ _

theorem not_faults_getField (templ : IpfixTemplate) (i : Nat) : ¬ Faults .writeBeyondBuffer (templ.getField i) := by
  unfold IpfixTemplate.getField
  split
  · exact faults_badArgument _
  · split <;> split <;> simp

theorem not_faults_readValueLength (order : ByteOrder) (field : IpfixTemplateField) (pos : Nat) :
    ¬ Faults .writeBeyondBuffer (readValueLength order readable field pos) := by
  unfold readValueLength
  split
  · refine not_faults_bind (not_faults_readNumber _ _ _ _) fun short => ?_
    split
    · exact not_faults_bind (not_faults_readNumber _ _ _ _) fun long => faults_ok _
    · exact faults_ok _
  · exact faults_ok _

/-- Only byte strings are printed beyond the buffer, and those are read as a whole. -/
theorem bytesRead_of_unfit {field : IpfixFieldType} {len : Nat} (accepted : field.refuses len = false)
    (unfit : field.snprintFits 30 len = false) : field.bytesRead len = len := by
  unfold IpfixFieldType.refuses at accepted
  unfold IpfixFieldType.snprintFits at unfit
  unfold IpfixFieldType.bytesRead
  cases coding : field.coding with
  | int | uint | ntp | float | string => simp [coding] at unfit
  | bytes | ipaddr =>
    simp only [coding,Bool.not_eq_false'] at accepted
    exact if_pos accepted
  | none => simp [coding,IpfixFieldType.acceptsBytes] at accepted

theorem len_ne_zero_of_unfit {field : IpfixFieldType} {len : Nat} (unfit : field.snprintFits 30 len = false) : len ≠ 0 := by
  rintro rfl
  unfold IpfixFieldType.snprintFits IpfixFieldType.snprintBytesWritten at unfit
  cases coding : field.coding <;> simp [coding] at unfit

theorem faults_decodeField {read : RecordProgress} {i : Nat} :
    Faults .writeBeyondBuffer (decodeField encodeNetwork readable templ pos read i) ↔
      OverprintsAt encodeNetwork readable templ pos read i := by
  constructor
  · intro faults
    have ended := faults
    unfold decodeField at faults
    rw [faults_bind,or_iff_right (not_faults_getField templ i)] at faults
    obtain ⟨field,found,faults⟩ := faults
    rw [faults_bind,or_iff_right (not_faults_readValueLength _ _ _)] at faults
    obtain ⟨⟨len,lead⟩,length,_⟩ := faults
    by_cases short : read.bytesleft < len
    · rw [decodeField_short found length short] at ended
      exact absurd ended (faults_badArgument _)
    · by_cases within : field.elem.bytesRead len = 0 ∨ pos + read.nread + lead + field.elem.bytesRead len ≤ readable.length
      · rcases decodeField_cases found length short within with
          ⟨_,thrown⟩ | ⟨accepted,unfit,_⟩ | ⟨_,_,value,decoded⟩
        · rw [thrown] at ended
          exact absurd ended (faults_badArgument _)
        · have some := len_ne_zero_of_unfit unfit
          have all := bytesRead_of_unfit accepted unfit
          exact ⟨field,len,lead,found,length,Nat.le_of_not_lt short,by omega,accepted,unfit⟩
        · rw [decoded] at ended
          exact absurd ended (faults_ok _)
      · rw [not_or] at within
        rw [decodeField_outside found length short within.1 (Nat.lt_of_not_le within.2),faults_fault] at ended
        cases ended
  · rintro ⟨field,len,lead,found,length,enough,inside,accepted,unfit⟩
    have within : field.elem.bytesRead len = 0 ∨ pos + read.nread + lead + field.elem.bytesRead len ≤ readable.length := by
      rw [bytesRead_of_unfit accepted unfit]
      exact .inr inside
    rcases decodeField_cases found length (Nat.not_lt_of_le enough) within with
      ⟨refused,_⟩ | ⟨_,_,fails⟩ | ⟨_,fits,_⟩
    · rw [accepted] at refused
      cases refused
    · exact fails
    · rw [unfit] at fits
      cases fits

theorem faults_decodeDatarecord {buflen : Nat} :
    Faults .writeBeyondBuffer (decodeDatarecord encodeNetwork readable templ pos buflen) ↔
      Overprints encodeNetwork readable templ pos buflen := by
  unfold decodeDatarecord Overprints
  refine (faults_bind_left fun _ => faults_ok _).trans (faults_foldlM.trans ?_)
  simp only [faults_decodeField]

end

section
variable {order : ByteOrder} {buffer : Bytes} {templ : IpfixTemplate} {pos len : Nat}

theorem not_faults_readTrecordHeader (leftover : Leftover) (setid : UInt16) :
    ¬ Faults .writeBeyondBuffer (readTrecordHeader leftover order buffer setid pos len) := by
  have u16 (start : Nat) := not_faults_readNumber order 2 buffer start
  unfold readTrecordHeader
  split
  · split
    · exact faults_badArgument _
    · exact not_faults_bind (u16 _) fun _ => not_faults_bind (u16 _) fun _ => not_faults_bind (u16 _) fun _ => faults_ok _
  · split
    · split
      · exact faults_badArgument _
      · refine not_faults_bind (u16 _) fun _ => not_faults_bind (u16 _) fun _ => not_faults_bind (u16 _) fun _ => ?_
        dsimp only
        split
        · exact faults_badArgument _
        · exact faults_ok _
    · split
      · split
        · exact faults_badArgument _
        · exact not_faults_bind (u16 _) fun _ => not_faults_bind (u16 _) fun _ => faults_ok _
      · exact faults_badArgument _

theorem not_faults_getFieldType (eno ftype : Int) : ¬ Faults .writeBeyondBuffer (getFieldType eno ftype) := by
  unfold getFieldType
  split <;> simp

theorem not_faults_readField (relay isscopefield : Bool) (buflen : Nat) :
    ¬ Faults .writeBeyondBuffer (readField order relay buffer templ isscopefield pos buflen) := by
  unfold readField
  split
  · exact faults_badArgument _
  · split
    · exact faults_badArgument _
    · refine not_faults_bind (not_faults_readNumber _ _ _ _) fun ftype => not_faults_bind (not_faults_readNumber _ _ _ _) fun length => ?_
      dsimp only
      split
      · exact faults_badArgument _
      · refine not_faults_bind ?_ fun eno => not_faults_bind ?_ fun _ => faults_ok _
        · unfold readEno
          split
          · exact not_faults_readNumber _ _ _ _
          · exact faults_ok _
        · unfold fieldTypeOrUnknown
          split
          · exact faults_ok _
          · rw [faults_map]
            exact not_faults_getFieldType _ _

theorem not_faults_rethrown {α : Type} {text : String} {x : Call α} (quiet : ¬ Faults .writeBeyondBuffer x) :
    ¬ Faults .writeBeyondBuffer (rethrown text x) := by
  unfold rethrown
  split
  · exact faults_badArgument _
  · exact quiet

theorem not_faults_liveMessage (m : MnslpIpfixMessage) : ¬ Faults .writeBeyondBuffer m.liveMessage := by
  unfold MnslpIpfixMessage.liveMessage
  split <;> simp

theorem not_faults_getTemplate (templates : TemplateContainer) (templid : UInt16) :
    ¬ Faults .writeBeyondBuffer (templates.getTemplate templid) := by
  unfold TemplateContainer.getTemplate
  split <;> simp

theorem not_faults_withdrawTemplate (templates : TemplateContainer) (setid : UInt16) (header : TrecordHeader) :
    ¬ Faults .writeBeyondBuffer (withdrawTemplate templates setid header) := by
  unfold withdrawTemplate TemplateContainer.deleteTemplate
  split
  · exact faults_ok _
  · split
    · exact faults_ok _
    · split <;> simp

theorem not_faults_newTypedTemplate (type : IpfixTemplType) (m : MnslpIpfixMessage) (nfields : Nat) :
    ¬ Faults .writeBeyondBuffer (MnslpIpfixMessage.newTypedTemplate type m nfields) := by
  unfold MnslpIpfixMessage.newTypedTemplate MnslpIpfixMessage.newTemplate
  refine not_faults_bind ?_ fun created => not_faults_bind (not_faults_liveMessage _) fun t => faults_ok _
  split
  · exact faults_badArgument _
  · refine not_faults_bind (not_faults_liveMessage m) fun t => ?_
    split
    · exact not_faults_bind (faults_badArgument _) fun _ => faults_ok _
    · exact faults_ok _

theorem not_faults_decodeTrecord (leftover : Leftover) (m : MnslpIpfixMessage) (setid : UInt16) :
    ¬ Faults .writeBeyondBuffer (decodeTrecord leftover buffer m setid pos len) := by
  unfold decodeTrecord
  refine not_faults_bind (not_faults_readTrecordHeader _ _) fun header => not_faults_bind (not_faults_liveMessage m) fun t =>
    not_faults_bind (not_faults_withdrawTemplate _ _ _) fun templates => not_faults_bind (not_faults_newTypedTemplate _ _ _) fun created =>
    not_faults_bind (not_faults_liveMessage _) fun t => not_faults_bind (not_faults_getTemplate _ _) fun templ =>
    not_faults_bind (not_faults_rethrown (not_faults_foldlM (fun read i => ?_) _ _)) fun read => faults_ok _
  obtain ⟨templ,offset⟩ := read
  unfold readFieldAt
  dsimp only
  split
  · exact faults_badArgument _
  · exact not_faults_bind (not_faults_readField _ _ _) fun read => faults_ok _

end
namespace ImportState

/-- The raw message is copied only if it fits its buffer, and no value of a record is printed beyond the scratch buffer. -/
def WritesFit (input : ImportInput) (s : ImportState) : Prop :=
  match s.point with
  | .sets => s.nread + 4 < 2^31 →
    (s.AtEnd input → s.nread ≤ ipfixDefaultBuflen) ∧
      (¬ s.AtEnd input → 4 ≤ (s.setHeader input).2 →
        (s.setHeader input).2.toNat - 4 > input.messageLength - (s.nread + 4) → s.nread + 4 ≤ ipfixDefaultBuflen)
  | .templates _ _ => True
  | .records templ offset bytesleft => bytesleft > 0 →
    ¬ Overprints s.m.encodeNetwork (input.readable (s.nread + s.setlen.toNat)) templ offset bytesleft

variable {input : ImportInput} {s : ImportState} {t : IpfixT}

theorem not_faults_addInt (a b : Nat) : ¬ Faults .writeBeyondBuffer (addInt a b) := by
  unfold addInt
  split <;> simp

theorem not_faults_closeSet (s : ImportState) : ¬ Faults .writeBeyondBuffer s.closeSet :=
  not_faults_bind (not_faults_addInt _ _) fun _ => faults_ok _

theorem faults_finish (live : s.m.message = .live t) (empty : t.buffer = []) (size : t.bufferLenght = ipfixDefaultBuflen)
    (inside : s.nread ≤ input.messageLength) :
    Faults .writeBeyondBuffer (s.finish input) ↔ ¬ s.nread ≤ ipfixDefaultBuflen := by
  rcases finish_cases live empty size inside with ⟨fits,imported,ended⟩ | ⟨beyond,ended⟩
  · rw [ended]
    exact iff_of_false (faults_ok _) (not_not_intro fits)
  · rw [ended]
    exact iff_of_true rfl beyond

theorem faults_readSet (live : s.m.message = .live t) (empty : t.buffer = []) (size : t.bufferLenght = ipfixDefaultBuflen)
    {nread : Nat} (inside : nread ≤ input.messageLength) (setid setlen : UInt16) :
    Faults .writeBeyondBuffer (s.readSet input t nread setid setlen) ↔
      4 ≤ setlen ∧ setlen.toNat - 4 > input.messageLength - nread ∧ ¬ nread ≤ ipfixDefaultBuflen := by
  unfold readSet
  by_cases short : setlen < 4
  · rw [if_pos short]
    exact iff_of_false (faults_ok _) fun long => absurd short (UInt16.not_lt.mpr long.1)
  · have long : 4 ≤ setlen := UInt16.not_lt.mp short
    have rest : (setlen - 4).toNat = setlen.toNat - 4 := UInt16.toNat_sub_of_le _ _ long
    rw [if_neg short]
    dsimp only
    rw [rest,and_iff_right long]
    by_cases beyond : setlen.toNat - 4 > input.messageLength - nread
    · rw [if_pos beyond,and_iff_right beyond]
      exact (faults_bind_left fun _ => faults_ok _).trans (faults_finish live empty size inside)
    · rw [if_neg beyond]
      refine iff_of_false ?_ fun other => beyond other.1
      split
      · exact faults_ok _
      · split
        · exact not_faults_bind (not_faults_getTemplate _ _) fun _ => faults_ok _
        · exact not_faults_bind (not_faults_closeSet _) fun _ => faults_ok _

theorem faults_openSet (within : s.Within input) (atSets : s.point = .sets) :
    Faults .writeBeyondBuffer (s.openSet input) ↔ ¬ s.WritesFit input := by
  obtain ⟨t,live,empty,size⟩ := within.fresh
  have place := within.place
  rw [atSets] at place
  unfold WritesFit
  rw [atSets]
  rcases openSet_cases live with ⟨big,opened⟩ | ⟨small,atEnd,opened⟩ | ⟨small,more,room,opened⟩
  · rw [opened]
    refine iff_of_false (fun faults => ?_) (not_not_intro fun small => absurd small big)
    cases faults
  · rw [opened]
    refine ((faults_bind_left fun _ => faults_ok _).trans (faults_finish live empty size place)).trans (not_congr ?_)
    exact ⟨fun fits _ => ⟨fun _ => fits,fun more => absurd atEnd more⟩,fun fits => (fits small).1 atEnd⟩
  · rw [opened]
    refine (faults_readSet live empty size room _ _).trans ?_
    simp only [small,more,not_false_eq_true,true_imp_iff,false_imp_iff,true_and,Classical.not_imp]

theorem faults_step (within : s.Within input) : Faults .writeBeyondBuffer (s.step input) ↔ ¬ s.WritesFit input := by
  cases point : s.point with
  | sets =>
    unfold step
    rw [point]
    exact faults_openSet within point
  | templates offset bytesleft =>
    unfold step WritesFit
    rw [point]
    refine iff_of_false ?_ (not_not_intro trivial)
    dsimp only
    split
    · exact not_faults_bind (not_faults_decodeTrecord _ _ _) fun _ => faults_ok _
    · exact not_faults_bind (not_faults_closeSet _) fun _ => faults_ok _
  | records templ offset bytesleft =>
    unfold step WritesFit
    rw [point]
    dsimp only
    by_cases more : bytesleft > 0
    · rw [if_pos more]
      refine ((faults_bind_left fun _ => faults_ok _).trans faults_decodeDatarecord).trans ?_
      simp [more]
    · rw [if_neg more]
      exact iff_of_false (not_faults_bind (not_faults_closeSet _) fun _ => faults_ok _)
        (not_not_intro fun less => absurd less more)

end ImportState

section
variable {input : ImportInput} {m : MnslpIpfixMessage}

/-- The import ends with a fault in its start or in the step of a state that it reaches. -/
theorem import_faults_iff {reason : Fault} : mnslpIpfixImport input m = some (fault reason) ↔
    Faults reason (importStart input m) ∨ ∃ s reached, importStart input m = .ok s ∧
      Machine.Reaches (ImportState.machine input) s reached ∧ Faults reason (reached.step input) := by
  cases started : importStart input m with
  | error stop =>
    unfold mnslpIpfixImport
    rw [started]
    simp [Faults,fault]
  | ok s =>
    have runs : mnslpIpfixImport input m = Machine.run (ImportState.machine input) (importSteps input) s := by
      unfold mnslpIpfixImport
      rw [started]
    rw [or_iff_right (faults_ok s)]
    constructor
    · intro ended
      rw [runs] at ended
      obtain ⟨final,reaches,last⟩ := Machine.reaches_of_run ended
      exact ⟨s,final,rfl,reaches,ImportState.machine_inr.mp last⟩
    · rintro ⟨other,reached,same,reaches,faults⟩
      cases same
      have last : ImportState.machine input reached = .inr (fault reason) := ImportState.machine_inr.mpr faults
      obtain ⟨fuel,ends⟩ := reaches.run last
      have some : mnslpIpfixImport input m ≠ none := by
        intro unfinished
        obtain ⟨other,same,endless⟩ := import_eq_none.mp unfinished
        rw [started] at same
        cases same
        exact endless ⟨fuel,_,ends⟩
      obtain ⟨result,ended⟩ := Option.ne_none_iff_exists'.mp some
      rw [ended]
      rw [runs] at ended
      rw [Machine.run_unique ended ends]

theorem not_faults_parseHdr : ¬ Faults .writeBeyondBuffer (parseHdr input m) := by
  have number (order : ByteOrder) (width pos : Nat) := not_faults_readNumber order width input.buffer pos
  unfold parseHdr
  refine not_faults_bind (number _ _ _) fun version => ?_
  split
  · dsimp only
    split
    · exact faults_badArgument _
    · exact not_faults_bind (number _ _ _) fun _ => not_faults_bind (number _ _ _) fun _ => not_faults_bind (number _ _ _) fun _ =>
        not_faults_bind (number _ _ _) fun _ => not_faults_bind (number _ _ _) fun _ => faults_ok _
  · split
    · dsimp only
      split
      · exact faults_badArgument _
      · exact not_faults_bind (number _ _ _) fun _ => not_faults_bind (number _ _ _) fun _ =>
          not_faults_bind (number _ _ _) fun _ => not_faults_bind (number _ _ _) fun _ => faults_ok _
    · exact not_faults_bind (not_faults_liveMessage m) fun _ => faults_badArgument _

theorem not_faults_importStart : ¬ Faults .writeBeyondBuffer (importStart input m) := by
  unfold importStart
  split
  · exact faults_badArgument _
  · refine not_faults_bind not_faults_parseHdr fun m => not_faults_bind (not_faults_liveMessage m) fun t => ?_
    dsimp only
    split
    · exact faults_ok _
    · split
      · exact faults_ok _
      · exact faults_badArgument _

/-- The states that an import reaches write where they may. -/
def ImportWritesFit (input : ImportInput) (m : MnslpIpfixMessage) : Prop :=
  ∀ s reached, importStart input m = .ok s → Machine.Reaches (ImportState.machine input) s reached → reached.WritesFit input

theorem import_writes_iff : mnslpIpfixImport input m ≠ some (fault .writeBeyondBuffer) ↔ ImportWritesFit input m := by
  rw [Ne,import_faults_iff,or_iff_right not_faults_importStart]
  constructor
  · intro quiet s reached started reaches
    by_contra unfit
    exact quiet ⟨s,reached,started,reaches,(ImportState.faults_step (within_reached started reaches)).mpr unfit⟩
  · rintro fits ⟨s,reached,started,reaches,faults⟩
    exact (ImportState.faults_step (within_reached started reaches)).mp faults (fits s reached started reaches)

/-- An import writes inside its buffers when the message that it copies has at most 1400 bytes and no byte string in
its records has more than 13, and a value is printed inside its buffer when `snprintf` cuts the text or the digits
of a byte string leave room for the NUL. -/
theorem writes_in_bounds_iff (input : ImportInput) (m : MnslpIpfixMessage) (field : IpfixFieldType) (size : Nat)
    (value : IpfixValueField) :
    (mnslpIpfixImport input m ≠ some (fault .writeBeyondBuffer) ↔ ImportWritesFit input m) ∧
      (IpfixValueField.Within size (field.snprintText size value) ↔ field.PrintFits size value) :=
  ⟨import_writes_iff,field.within_snprintText size value⟩

private def writesBeyond : Call Imported → Bool
  | .error (.fault .writeBeyondBuffer) => true
  | _ => false

/-- A value of element 313 in a field of 14 bytes. -/
private def overprinting : ImportInput where
  buffer := [0,10,0,46,0,0,0,0,0,0,0,0,0,0,0,0] ++ [0,2,0,12,1,0,0,1,1,57,0,14] ++ [1,0,0,18] ++ List.replicate 14 1

theorem import_writes_beyond : ¬ ((∀ (input : ImportInput) (m : MnslpIpfixMessage),
      mnslpIpfixImport input m ≠ some (fault .writeBeyondBuffer)) ∧
    ∀ (field : IpfixFieldType) (size : Nat) (value : IpfixValueField),
      IpfixValueField.Within size (field.snprintText size value)) := by
  rintro ⟨inside,_⟩
  have beyond : (mnslpIpfixImport overprinting ⟨.null,0,0,[],true,true⟩).any writesBeyond = true := by decide +kernel
  obtain ⟨result,ended,fault⟩ := (Option.any_eq_true _ _).mp beyond
  apply inside overprinting ⟨.null,0,0,[],true,true⟩
  rw [ended]
  unfold writesBeyond at fault
  split at fault
  · rfl
  · cases fault

end
end Mnslp.Msg
