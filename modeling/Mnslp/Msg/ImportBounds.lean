import Mnslp.Msg.ImportTermination

/-! Which reads of the import lie inside. The bytes that hold the lengths of the values of
a data record are read, but they are not taken from the bytes that are left: a record may
leave its set by as many bytes as its lengths take. -/
namespace Mnslp.Msg
open Mnslp.Lib Call

/-- The length of the value at a position and the bytes its length takes there. -/
def lengthAt (order : ByteOrder) (readable : Bytes) (field : IpfixTemplateField) (pos : Nat) : Nat × Nat :=
  if field.flength ≠ ipfixFtVarlen then (field.flength.toNat,0)
  else
    let short := Bytes.decode order ((readable.drop pos).take 1)
    if short = 255 then (Bytes.decode order ((readable.drop (pos + 1)).take 2),3) else (short,1)

/-- The lengths of values that the decoder of the field throws at. -/
def IpfixFieldType.refuses (field : IpfixFieldType) (len : Nat) : Bool :=
  match field.coding with
  | .int | .uint | .ntp => (len = 1 ∨ len = 2 ∨ len = 4 ∨ len = 8) ∧ field.length ≠ len
  | .float => (len = 4 ∨ len = 8) ∧ field.length ≠ len
  | .ipaddr | .bytes | .string | .none => !field.acceptsBytes len

/-- The bytes left in the set cover what the lengths of this and the earlier values of the
record take, `owed` bytes up to here, and every value that is read besides; a value that
is printed fits its buffer. A value longer than what is left, or refused, ends the record. -/
def RecordFits (encodeNetwork : Bool) (readable : Bytes) (templ : IpfixTemplate) :
    List Nat → Nat → Nat → Nat → Prop
  | [], _, _, _ => True
  | i :: rest, pos, owed, left =>
    ∃ field, templ.getField i = .ok field ∧
      let (len,lead) := lengthAt (headerOrder encodeNetwork) readable field pos
      (lead = 0 ∨ owed + lead ≤ left) ∧
      (left < len ∨ ((field.elem.bytesRead len = 0 ∨ owed + lead + len ≤ left) ∧
        (field.elem.refuses len = true ∨ (field.elem.snprintFits 30 len = true ∧
          RecordFits encodeNetwork readable templ rest (pos + lead + len) (owed + lead) (left - len)))))

private theorem decodeInt_cases (field : IpfixFieldType) (bytes : Bytes) (len : Nat) (relay : Bool) :
    (((len = 1 ∨ len = 2 ∨ len = 4 ∨ len = 8) ∧ field.length ≠ len) ∧
      field.ipfixDecodeInt bytes len relay = valueMismatch) ∨
    (¬ ((len = 1 ∨ len = 2 ∨ len = 4 ∨ len = 8) ∧ field.length ≠ len) ∧
      ∃ value, field.ipfixDecodeInt bytes len relay = .ok value) := by
  unfold IpfixFieldType.ipfixDecodeInt IpfixFieldType.getIpfixValueField8 IpfixFieldType.getIpfixValueField16
    IpfixFieldType.getIpfixValueField32 IpfixFieldType.getIpfixValueField64
  split
  · by_cases same : field.length = 1 <;> simp [same]
  · by_cases same : field.length = 2 <;> simp [same]
  · by_cases same : field.length = 4 <;> simp [same]
  · by_cases same : field.length = 8 <;> simp [same]
  · right
    refine ⟨?_,_,rfl⟩
    rintro ⟨width | width | width | width,_⟩ <;> contradiction

private theorem decodeFloat_cases (field : IpfixFieldType) (bytes : Bytes) (len : Nat) (relay : Bool) :
    (((len = 4 ∨ len = 8) ∧ field.length ≠ len) ∧ field.ipfixDecodeFloat bytes len relay = valueMismatch) ∨
    (¬ ((len = 4 ∨ len = 8) ∧ field.length ≠ len) ∧ ∃ value, field.ipfixDecodeFloat bytes len relay = .ok value) := by
  unfold IpfixFieldType.ipfixDecodeFloat IpfixFieldType.getIpfixValueField32 IpfixFieldType.getIpfixValueField64
  split
  · by_cases same : field.length = 4 <;> simp [same]
  · by_cases same : field.length = 8 <;> simp [same]
  · right
    refine ⟨?_,_,rfl⟩
    rintro ⟨width | width,_⟩ <;> contradiction

private theorem decodeBytes_cases (field : IpfixFieldType) (bytes : Bytes) (len : Nat)
    (size : bytes.length = if field.acceptsBytes len then len else 0) :
    (field.acceptsBytes len = false ∧ field.ipfixDecodeBytes bytes len = valueMismatch) ∨
    (field.acceptsBytes len = true ∧ ∃ value, field.ipfixDecodeBytes bytes len = .ok value ∧ value.length = len) := by
  unfold IpfixFieldType.ipfixDecodeBytes IpfixFieldType.getIpfixValueFieldBytes
  cases accepts : field.acceptsBytes len with
  | false => simp
  | true =>
    rw [accepts,if_pos rfl] at size
    right
    refine ⟨rfl,_,by rw [if_pos rfl,size,if_pos accepts]; rfl,?_⟩
    rw [IpfixValueField.copy]
    split
    · exact size
    · exact size

theorem decode_cases (field : IpfixFieldType) (relay : Bool) {bytes : Bytes} {len : Nat}
    (size : bytes.length = field.bytesRead len) :
    (field.refuses len = true ∧ field.decode bytes len relay = valueMismatch) ∨
      (field.refuses len = false ∧ ∃ value, field.decode bytes len relay = .ok value ∧
        field.snprintFits 30 value.length = field.snprintFits 30 len) := by
  unfold IpfixFieldType.bytesRead at size
  unfold IpfixFieldType.refuses IpfixFieldType.decode IpfixFieldType.snprintFits
  cases coding : field.coding with
  | int | uint | ntp =>
    rcases decodeInt_cases field bytes len relay with ⟨refused,thrown⟩ | ⟨accepted,value,decoded⟩
    · exact .inl ⟨decide_eq_true refused,thrown⟩
    · exact .inr ⟨decide_eq_false accepted,value,decoded,rfl⟩
  | float =>
    rcases decodeFloat_cases field bytes len relay with ⟨refused,thrown⟩ | ⟨accepted,value,decoded⟩
    · exact .inl ⟨decide_eq_true refused,thrown⟩
    · exact .inr ⟨decide_eq_false accepted,value,decoded,rfl⟩
  | ipaddr | bytes =>
    rw [coding] at size
    rcases decodeBytes_cases field bytes len size with ⟨refused,thrown⟩ | ⟨accepted,value,decoded,length⟩
    · exact .inl ⟨by simp [refused],thrown⟩
    · exact .inr ⟨by simp [accepted],value,decoded,by rw [length]⟩
  | string | none =>
    have never : field.acceptsBytes len = false := by simp [IpfixFieldType.acceptsBytes,coding]
    left
    refine ⟨by simp [never],?_⟩
    dsimp only
    rw [IpfixFieldType.ipfixDecodeBytes,never]
    rfl

theorem bytesRead_eq (field : IpfixFieldType) (len : Nat) : field.bytesRead len = 0 ∨ field.bytesRead len = len := by
  unfold IpfixFieldType.bytesRead
  cases field.coding with
  | int | uint | ntp =>
    by_cases one : len = 1
    · by_cases same : field.length = 1 <;> simp [one,same]
    · simp only [if_neg one]
      split <;> simp
  | float | ipaddr | bytes =>
    dsimp only
    split <;> simp
  | string | none => exact .inl rfl

section
variable {order : ByteOrder} {encodeNetwork : Bool} {readable : Bytes} {templ : IpfixTemplate}

theorem readValueLength_inside {field : IpfixTemplateField} {pos : Nat}
    (inside : (lengthAt order readable field pos).2 = 0 ∨ pos + (lengthAt order readable field pos).2 ≤ readable.length) :
    readValueLength order readable field pos = .ok (lengthAt order readable field pos) := by
  unfold readValueLength
  unfold lengthAt at inside ⊢
  by_cases varlen : field.flength = ipfixFtVarlen
  · rw [if_pos varlen]
    rw [if_neg (not_not_intro varlen)] at inside ⊢
    dsimp only at inside ⊢
    by_cases long : Bytes.decode order ((readable.drop pos).take 1) = 255
    · rw [if_pos long] at inside ⊢
      have first : pos + 1 ≤ readable.length := by omega
      have second : pos + 1 + 2 ≤ readable.length := by omega
      rw [readNumber_inside order first,ok_bind,if_pos long,readNumber_inside order second]
      rfl
    · rw [if_neg long] at inside ⊢
      have first : pos + 1 ≤ readable.length := by omega
      rw [readNumber_inside order first,ok_bind,if_neg long]
      rfl
  · rw [if_neg varlen,if_pos varlen]
    rfl

theorem readValueLength_outside {field : IpfixTemplateField} {pos : Nat}
    (some : (lengthAt order readable field pos).2 ≠ 0)
    (outside : readable.length < pos + (lengthAt order readable field pos).2) :
    ¬ Orderly (readValueLength order readable field pos) := by
  intro orderly
  unfold readValueLength at orderly
  unfold lengthAt at some outside
  by_cases varlen : field.flength = ipfixFtVarlen
  · rw [if_neg (not_not_intro varlen)] at some outside
    rw [if_pos varlen,orderly_bind] at orderly
    have first := (orderly_readNumber order readable pos (by decide)).mp orderly.1
    have rest := orderly.2 _ (readNumber_inside order first)
    dsimp only at outside rest
    by_cases long : Bytes.decode order ((readable.drop pos).take 1) = 255
    · rw [if_pos long] at outside rest
      rw [orderly_bind] at rest
      have second := (orderly_readNumber order readable (pos + 1) (by decide)).mp rest.1
      dsimp only at outside
      omega
    · rw [if_neg long] at outside
      dsimp only at outside
      omega
  · rw [if_pos varlen] at some
    exact some rfl

theorem getField_error {i : Nat} {stop : Stop} (inside : i < templ.getNumfields)
    (failed : templ.getField i = .error stop) : stop = .fault .readBeyondVector := by
  unfold IpfixTemplate.getField at failed
  rw [if_neg (Nat.not_le_of_lt inside)] at failed
  split at failed
  · split at failed
    · cases failed
    · cases failed
      rfl
  · split at failed
    · cases failed
    · cases failed
      rfl

section
variable {field : IpfixTemplateField} {start len lead i : Nat} {read : RecordProgress}

theorem decodeField_short (found : templ.getField i = .ok field)
    (length : readValueLength (headerOrder encodeNetwork) readable field (start + read.nread) = .ok (len,lead))
    (short : read.bytesleft < len) : decodeField encodeNetwork readable templ start read i =
      badArgument "Invalid buffer len for reading the data" := by
  unfold decodeField
  rw [found,ok_bind,length,ok_bind]
  exact if_pos short

theorem decodeField_outside (found : templ.getField i = .ok field)
    (length : readValueLength (headerOrder encodeNetwork) readable field (start + read.nread) = .ok (len,lead))
    (enough : ¬ read.bytesleft < len) (some : field.elem.bytesRead len ≠ 0)
    (outside : readable.length < start + read.nread + lead + field.elem.bytesRead len) :
    decodeField encodeNetwork readable templ start read i = fault .readBeyondBuffer := by
  unfold decodeField
  rw [found,ok_bind,length,ok_bind]
  dsimp only
  rw [if_neg enough,readBytes_outside some outside]
  rfl

theorem decodeField_inside {bytes : Bytes} (found : templ.getField i = .ok field)
    (length : readValueLength (headerOrder encodeNetwork) readable field (start + read.nread) = .ok (len,lead))
    (enough : ¬ read.bytesleft < len)
    (taken : readBytes readable (start + read.nread + lead) (field.elem.bytesRead len) = .ok bytes) :
    decodeField encodeNetwork readable templ start read i = do
      let value ← field.elem.decode bytes len encodeNetwork
      field.elem.snprint 30 value
      return ⟨read.nread + lead + len,read.bytesleft - len,
        read.record.insertField field.elem.getFieldKey value⟩ := by
  unfold decodeField
  rw [found,ok_bind,length,ok_bind]
  dsimp only
  rw [if_neg enough,taken]
  rfl

theorem readBytes_bytesRead {pos : Nat}
    (within : field.elem.bytesRead len = 0 ∨ pos + field.elem.bytesRead len ≤ readable.length) :
    ∃ bytes, readBytes readable pos (field.elem.bytesRead len) = .ok bytes := by
  rcases within with none | within
  · exact ⟨[],by rw [none,readBytes,if_pos rfl]⟩
  · exact ⟨_,readBytes_inside within⟩

/-- What becomes of a value whose bytes are all there. -/
theorem decodeField_cases (found : templ.getField i = .ok field)
    (length : readValueLength (headerOrder encodeNetwork) readable field (start + read.nread) = .ok (len,lead))
    (enough : ¬ read.bytesleft < len)
    (within : field.elem.bytesRead len = 0 ∨ start + read.nread + lead + field.elem.bytesRead len ≤ readable.length) :
    (field.elem.refuses len = true ∧ decodeField encodeNetwork readable templ start read i = valueMismatch) ∨
      (field.elem.refuses len = false ∧ field.elem.snprintFits 30 len = false ∧
        decodeField encodeNetwork readable templ start read i = fault .writeBeyondBuffer) ∨
      (field.elem.refuses len = false ∧ field.elem.snprintFits 30 len = true ∧ ∃ value,
        decodeField encodeNetwork readable templ start read i =
          .ok ⟨read.nread + lead + len,read.bytesleft - len,read.record.insertField field.elem.getFieldKey value⟩) := by
  obtain ⟨bytes,taken⟩ := readBytes_bytesRead within
  rw [decodeField_inside found length enough taken]
  rcases decode_cases field.elem encodeNetwork (length_of_readBytes taken) with
    ⟨refused,thrown⟩ | ⟨accepted,value,decoded,prints⟩
  · rw [thrown]
    exact .inl ⟨refused,rfl⟩
  · rw [decoded,ok_bind,IpfixFieldType.snprint,prints]
    cases field.elem.snprintFits 30 len with
    | false => exact .inr (.inl ⟨accepted,rfl,rfl⟩)
    | true => exact .inr (.inr ⟨accepted,rfl,value,rfl⟩)

end

theorem orderly_decodeFields (start : Nat) {list : List Nat} (inside : ∀ i ∈ list, i < templ.getNumfields)
    (read : RecordProgress) (owed : Nat) (place : start + read.nread + read.bytesleft = readable.length + owed) :
    Orderly (list.foldlM (decodeField encodeNetwork readable templ start) read) ↔
      RecordFits encodeNetwork readable templ list (start + read.nread) owed read.bytesleft := by
  induction list generalizing read owed with
  | nil => exact iff_of_true (orderly_ok _) trivial
  | cons i rest ih =>
    rw [List.foldlM_cons,RecordFits]
    have others : ∀ j ∈ rest, j < templ.getNumfields := fun j member => inside j (List.mem_cons_of_mem i member)
    cases found : templ.getField i with
    | error stop =>
      cases getField_error (inside i (List.mem_cons_self ..)) found
      have fails : decodeField encodeNetwork readable templ start read i = fault .readBeyondVector := by
        unfold decodeField
        rw [found]
        rfl
      rw [fails,orderly_bind]
      refine iff_of_false (fun orderly => orderly_fault _ orderly.1) ?_
      rintro ⟨field,same,_⟩
      cases same
    | ok field =>
      simp only [Except.ok.injEq,exists_eq_left']
      generalize lengths : lengthAt (headerOrder encodeNetwork) readable field (start + read.nread) = pair
      obtain ⟨len,lead⟩ := pair
      dsimp only
      by_cases leadFits : lead = 0 ∨ owed + lead ≤ read.bytesleft
      · have length : readValueLength (headerOrder encodeNetwork) readable field (start + read.nread) = .ok (len,lead) := by
          rw [← lengths]
          apply readValueLength_inside
          rw [lengths]
          dsimp only
          omega
        by_cases short : read.bytesleft < len
        · rw [decodeField_short found length short,orderly_bind]
          exact iff_of_true ⟨orderly_badArgument _,fun _ same => by cases same⟩ ⟨leadFits,.inl short⟩
        · by_cases valueFits : field.elem.bytesRead len = 0 ∨ owed + lead + len ≤ read.bytesleft
          · have within : field.elem.bytesRead len = 0 ∨
                start + read.nread + lead + field.elem.bytesRead len ≤ readable.length := by
              rcases bytesRead_eq field.elem len with none | all
              · exact .inl none
              · omega
            rcases decodeField_cases found length short within with
              ⟨refused,thrown⟩ | ⟨accepted,overflows,fails⟩ | ⟨accepted,fits,value,decoded⟩
            · rw [thrown,valueMismatch,orderly_bind]
              exact iff_of_true ⟨orderly_badArgument _,fun _ same => by cases same⟩
                ⟨leadFits,.inr ⟨valueFits,.inl refused⟩⟩
            · rw [fails,orderly_bind]
              refine iff_of_false (fun orderly => orderly_fault _ orderly.1) ?_
              simp [short,accepted,overflows]
            · have later := ih others ⟨read.nread + lead + len,read.bytesleft - len,
                read.record.insertField field.elem.getFieldKey value⟩ (owed + lead) (by dsimp only; omega)
              rw [decoded,ok_bind,later]
              dsimp only
              rw [← Nat.add_assoc,← Nat.add_assoc]
              simp [leadFits,short,valueFits,accepted,fits]
          · have some : field.elem.bytesRead len ≠ 0 := fun none => valueFits (.inl none)
            have all : field.elem.bytesRead len = len := (bytesRead_eq field.elem len).resolve_left some
            rw [decodeField_outside found length short some (by omega),orderly_bind]
            refine iff_of_false (fun orderly => orderly_fault _ orderly.1) ?_
            rintro ⟨_,less | ⟨enough,_⟩⟩
            · exact short less
            · exact valueFits enough
      · refine iff_of_false (fun orderly => ?_) (fun fits => leadFits fits.1)
        have first := ((orderly_bind _ _).mp orderly).1
        unfold decodeField at first
        rw [found,ok_bind,orderly_bind] at first
        refine readValueLength_outside ?_ ?_ first.1
        · rw [lengths]
          exact fun none => leadFits (.inl none)
        · rw [lengths]
          dsimp only
          omega

end
namespace ImportState

/-- The two numbers at the start of a set, `setid` and `setlen`. -/
def setHeader (input : ImportInput) (s : ImportState) : UInt16 × UInt16 :=
  let u16 := fun pos => UInt16.ofNat (Bytes.decode (headerOrder s.m.encodeNetwork) ((input.buffer.drop pos).take 2))
  (u16 s.nread,u16 (s.nread + 2))

/-- The sets end here: too few bytes follow, or the count of the header is reached. -/
def AtEnd (input : ImportInput) (s : ImportState) : Prop :=
  input.messageLength ≤ s.nread + 4 ∨
    ∃ t, s.m.message = .live t ∧ t.version = ipfixVersionNf9 ∧ s.i ≥ t.count.toNat

/-- The `int` counters hold their values, and the message fits the buffer it is copied to. -/
def SetFits (input : ImportInput) (s : ImportState) : Prop :=
  s.nread + 4 < 2^31 ∧
    (s.AtEnd input → s.nread ≤ ipfixDefaultBuflen) ∧
    (¬ s.AtEnd input → 4 ≤ (s.setHeader input).2 →
      let (setid,setlen) := s.setHeader input
      if setlen.toNat - 4 > input.messageLength - (s.nread + 4) then s.nread + 4 ≤ ipfixDefaultBuflen
      else 3 < setid → setid ≤ 255 → s.nread + setlen.toNat < 2^31)

/-- What has to hold before a round of one of the loops for it to stay inside. -/
def Fits (input : ImportInput) (s : ImportState) : Prop :=
  match s.point with
  | .sets => s.SetFits input
  | .templates offset bytesleft =>
    if bytesleft > 4 then
      ∀ t, s.m.message = .live t → ¬ WithdrawsUnknown input.leftover input.buffer s.m.encodeNetwork t.templates s.setid
        offset bytesleft
    else s.nread + s.setlen.toNat < 2^31
  | .records templ offset bytesleft =>
    if bytesleft > 0 then
      RecordFits s.m.encodeNetwork (input.buffer.take (s.nread + s.setlen.toNat)) templ
        (List.range templ.getNumfields) offset 0 bytesleft
    else s.nread + s.setlen.toNat < 2^31

theorem addInt_small {a b : Nat} (small : a + b < 2^31) : addInt a b = .ok (a + b) := if_pos small

theorem orderly_addInt (a b : Nat) : Orderly (addInt a b) ↔ a + b < 2^31 := by
  by_cases small : a + b < 2^31
  · rw [addInt_small small]
    exact iff_of_true (orderly_ok _) small
  · rw [addInt,if_neg small]
    exact iff_of_false (orderly_fault _) small

theorem orderly_closeSet (s : ImportState) : Orderly s.closeSet ↔ s.nread + s.setlen.toNat < 2^31 := by
  exact Iff.trans (orderly_bind_left fun _ => orderly_ok _) (orderly_addInt _ _)

/-- The bytes read are copied to the new message, if they fit its buffer. -/
theorem finish_cases {input : ImportInput} {s : ImportState} {t : IpfixT} (live : s.m.message = .live t)
    (empty : t.buffer = []) (size : t.bufferLenght = ipfixDefaultBuflen) (inside : s.nread ≤ input.messageLength) :
    (s.nread ≤ ipfixDefaultBuflen ∧ ∃ imported, s.finish input = .ok imported) ∨
      (¬ s.nread ≤ ipfixDefaultBuflen ∧ s.finish input = fault .writeBeyondBuffer) := by
  have length : (input.buffer.take s.nread).length = s.nread := by
    rw [List.length_take]
    exact Nat.min_eq_left inside
  unfold finish
  rw [MnslpIpfixMessage.liveMessage_eq_ok live,ok_bind,copyRawMessage_new empty size,length]
  by_cases fits : s.nread ≤ ipfixDefaultBuflen
  · rw [if_neg (Nat.not_lt_of_le fits)]
    exact .inl ⟨fits,_,rfl⟩
  · rw [if_pos (Nat.lt_of_not_le fits)]
    exact .inr ⟨fits,rfl⟩

theorem orderly_finish {input : ImportInput} {s : ImportState} {t : IpfixT} (live : s.m.message = .live t)
    (empty : t.buffer = []) (size : t.bufferLenght = ipfixDefaultBuflen) (inside : s.nread ≤ input.messageLength) :
    Orderly (s.finish input) ↔ s.nread ≤ ipfixDefaultBuflen := by
  rcases finish_cases live empty size inside with ⟨fits,imported,ended⟩ | ⟨beyond,ended⟩
  · rw [ended]
    exact iff_of_true (orderly_ok _) fits
  · rw [ended]
    exact iff_of_false (orderly_fault _) beyond

/-- The end of the loop over the sets, for whatever of the state it does not read. -/
private theorem orderly_ended {input : ImportInput} {s : ImportState} {t : IpfixT} (live : s.m.message = .live t)
    (empty : t.buffer = []) (size : t.bufferLenght = ipfixDefaultBuflen) (inside : s.nread ≤ input.messageLength) :
    Orderly (do return (.inr (← s.finish input) : ImportState ⊕ Imported)) ↔ s.nread ≤ ipfixDefaultBuflen := by
  exact Iff.trans (orderly_bind_left fun _ => orderly_ok _) (orderly_finish live empty size inside)

theorem orderly_getTemplate (templates : TemplateContainer) (templid : UInt16) :
    Orderly (templates.getTemplate templid) := by
  unfold TemplateContainer.getTemplate
  split
  · exact orderly_ok _
  · exact orderly_badArgument _

/-- The rest of a round of the loop over the sets, once the header of the set is read. -/
private theorem orderly_setBody {input : ImportInput} {s : ImportState} {t : IpfixT} (live : s.m.message = .live t)
    (empty : t.buffer = []) (size : t.bufferLenght = ipfixDefaultBuflen) (inside : s.nread + 4 ≤ input.messageLength) :
    Orderly (s.readSet input t (s.nread + 4) (s.setHeader input).1 (s.setHeader input).2) ↔
      (4 ≤ (s.setHeader input).2 →
        let (setid,setlen) := s.setHeader input
        if setlen.toNat - 4 > input.messageLength - (s.nread + 4) then s.nread + 4 ≤ ipfixDefaultBuflen
        else 3 < setid → setid ≤ 255 → s.nread + setlen.toNat < 2^31) := by
  generalize s.setHeader input = header
  obtain ⟨setid,setlen⟩ := header
  dsimp only
  unfold readSet
  by_cases short : setlen < 4
  · rw [if_pos short]
    exact iff_of_true (orderly_ok _) fun long => absurd short (UInt16.not_lt.mpr long)
  · have long : 4 ≤ setlen := UInt16.not_lt.mp short
    have rest : (setlen - 4).toNat = setlen.toNat - 4 := UInt16.toNat_sub_of_le _ _ long
    have least : 4 ≤ setlen.toNat := long
    rw [if_neg short]
    dsimp only
    rw [rest]
    refine Iff.trans ?_ ⟨fun body _ => body,fun body => body long⟩
    by_cases beyond : setlen.toNat - 4 > input.messageLength - (s.nread + 4)
    · rw [if_pos beyond,if_pos beyond]
      exact orderly_ended live empty size inside
    · rw [if_neg beyond,if_neg beyond]
      by_cases template : setid ≤ 3
      · rw [if_pos template]
        exact iff_of_true (orderly_ok _) fun other => absurd template (UInt16.not_le.mpr other)
      · rw [if_neg template]
        by_cases data : setid > 255
        · rw [if_pos data]
          refine iff_of_true ?_ fun _ other => absurd data (UInt16.not_lt.mpr other)
          exact (orderly_bind_left fun _ => orderly_ok _).mpr (orderly_getTemplate _ _)
        · rw [if_neg data]
          refine Iff.trans (orderly_bind_left fun _ => orderly_ok _) (Iff.trans (orderly_closeSet _) ?_)
          dsimp only
          rw [rest]
          have sum : s.nread + 4 + (setlen.toNat - 4) = s.nread + setlen.toNat := by omega
          rw [sum]
          exact ⟨fun small _ _ => small,fun small => small (UInt16.not_le.mp template) (UInt16.not_lt.mp data)⟩

/-- What a round of the loop over the sets can do before it looks at the header of a set. -/
theorem openSet_cases {input : ImportInput} {s : ImportState} {t : IpfixT} (live : s.m.message = .live t) :
    (¬ s.nread + 4 < 2^31 ∧ s.openSet input = fault .signedOverflow) ∨
    (s.nread + 4 < 2^31 ∧ s.AtEnd input ∧ s.openSet input = do return .inr (← s.finish input)) ∨
    (s.nread + 4 < 2^31 ∧ ¬ s.AtEnd input ∧ s.nread + 4 ≤ input.messageLength ∧
      s.openSet input = s.readSet input t (s.nread + 4) (s.setHeader input).1 (s.setHeader input).2) := by
  unfold openSet
  by_cases small : s.nread + 4 < 2^31
  · right
    rw [addInt_small small,ok_bind,MnslpIpfixMessage.liveMessage_eq_ok live,ok_bind]
    by_cases few : input.messageLength ≤ s.nread + 4
    · rw [if_pos few]
      exact .inl ⟨small,.inl few,rfl⟩
    · by_cases counted : t.version = ipfixVersionNf9 ∧ s.i ≥ t.count.toNat
      · rw [if_neg few,if_pos counted]
        exact .inl ⟨small,.inr ⟨t,live,counted⟩,rfl⟩
      · have notEnd : ¬ s.AtEnd input := by
          rintro (other | ⟨other,same,reached⟩)
          · exact few other
          · rw [live] at same
            cases same
            exact counted reached
        have room : s.nread + 4 ≤ input.buffer.length := Nat.le_of_lt (Nat.lt_of_not_le few)
        have first : s.nread + 2 ≤ input.buffer.length := by omega
        have second : s.nread + 2 + 2 ≤ input.buffer.length := by omega
        rw [if_neg few,if_neg counted,readNumber_inside _ first,ok_bind,readNumber_inside _ second,ok_bind]
        exact .inr ⟨small,notEnd,room,rfl⟩
  · left
    rw [addInt,if_neg small]
    exact ⟨small,rfl⟩

theorem orderly_openSet {input : ImportInput} {s : ImportState} (within : s.Within input) (atSets : s.point = .sets) :
    Orderly (s.openSet input) ↔ s.SetFits input := by
  obtain ⟨t,live,empty,size⟩ := within.fresh
  have place := within.place
  rw [atSets] at place
  unfold SetFits
  rcases openSet_cases live with ⟨big,opened⟩ | ⟨small,atEnd,opened⟩ | ⟨small,more,room,opened⟩
  · rw [opened]
    exact iff_of_false (orderly_fault _) fun fits => big fits.1
  · rw [opened,orderly_ended live empty size place]
    exact ⟨fun fits => ⟨small,fun _ => fits,fun more => absurd atEnd more⟩,fun fits => fits.2.1 atEnd⟩
  · rw [opened,orderly_setBody live empty size room]
    exact ⟨fun body => ⟨small,fun atEnd => absurd atEnd more,fun _ => body⟩,fun fits => fits.2.2 more⟩

theorem orderly_step {input : ImportInput} {s : ImportState} (checked : input.checkSets = true)
    (within : s.Within input) : Orderly (s.step input) ↔ s.Fits input := by
  obtain ⟨t,live,empty,size⟩ := within.fresh
  have place := within.place
  rcases s with ⟨m,i,nread,setid,setlen,point⟩
  cases point with
  | sets => exact orderly_openSet within rfl
  | templates offset bytesleft =>
    dsimp only [step,Fits] at place live ⊢
    split
    · have inside : offset + bytesleft ≤ input.buffer.length := by
        unfold ImportInput.messageLength at place
        omega
      refine Iff.trans (orderly_bind_left fun _ => orderly_ok _) ?_
      rw [orderly_decodeTrecord live inside,live]
      simp
    · exact Iff.trans (orderly_bind_left fun _ => orderly_ok _) (orderly_closeSet _)
  | records templ offset bytesleft =>
    dsimp only [step,Fits] at place ⊢
    split
    · rename_i more
      have readable : input.readable (nread + setlen.toNat) = input.buffer.take (nread + setlen.toNat) := if_pos checked
      have length : (input.buffer.take (nread + setlen.toNat)).length = nread + setlen.toNat := by
        rw [List.length_take]
        exact Nat.min_eq_left place.1
      rw [readable,decodeDatarecord]
      refine Iff.trans (orderly_bind_left fun _ => orderly_ok _) (Iff.trans (orderly_bind_left fun _ => orderly_ok _) ?_)
      apply orderly_decodeFields offset fun i member => List.mem_range.mp member
      rw [length]
      have start := place.2.2 more
      dsimp only
      omega
    · exact Iff.trans (orderly_bind_left fun _ => orderly_ok _) (orderly_closeSet _)

end ImportState
section
variable {input : ImportInput} {m : MnslpIpfixMessage}

/-- A header of a known version makes its own message, any other is marked in the message
that was there before. -/
def HeaderFits (input : ImportInput) (m : MnslpIpfixMessage) : Prop :=
  let version := Bytes.decode (headerOrder m.encodeNetwork) (input.buffer.take 2)
  input.messageLength < 2 ∨ version = ipfixVersionNf9.toNat ∨ version = ipfixVersion.toNat ∨
    ∃ t, m.message = .live t

theorem orderly_liveMessage (m : MnslpIpfixMessage) : Orderly m.liveMessage ↔ ∃ t, m.message = .live t := by
  unfold MnslpIpfixMessage.liveMessage
  cases m.message with
  | null => simp
  | dangling => simp
  | live t => simp

theorem orderly_parseHdr (long : 2 ≤ input.messageLength) :
    Orderly (parseHdr input m) ↔ HeaderFits input m := by
  have notShort : ¬ input.messageLength < 2 := Nat.not_lt_of_le long
  have first : 0 + 2 ≤ input.buffer.length := long
  unfold parseHdr HeaderFits
  dsimp only
  rw [readNumber_inside _ first,ok_bind,List.drop_zero]
  generalize Bytes.decode (headerOrder m.encodeNetwork) (input.buffer.take 2) = version
  by_cases nf9 : version = ipfixVersionNf9.toNat
  · rw [if_pos nf9]
    refine iff_of_true ?_ (.inr (.inl nf9))
    split
    · exact orderly_badArgument _
    · rename_i enough
      have size := length_of_offset enough
      unfold ImportInput.messageLength at size
      have count : 2 + 2 ≤ input.buffer.length := by omega
      have sysuptime : 4 + 4 ≤ input.buffer.length := by omega
      have unixtime : 8 + 4 ≤ input.buffer.length := by omega
      have seqno : 12 + 4 ≤ input.buffer.length := by omega
      have sourceid : 16 + 4 ≤ input.buffer.length := by omega
      rw [readNumber_inside _ count,readNumber_inside _ sysuptime,readNumber_inside _ unixtime,
        readNumber_inside _ seqno,readNumber_inside _ sourceid]
      exact orderly_ok _
  · rw [if_neg nf9]
    by_cases ipfix : version = ipfixVersion.toNat
    · rw [if_pos ipfix]
      refine iff_of_true ?_ (.inr (.inr (.inl ipfix)))
      split
      · exact orderly_badArgument _
      · rename_i enough
        have size := length_of_offset enough
        unfold ImportInput.messageLength at size
        have length : 2 + 2 ≤ input.buffer.length := by omega
        have exporttime : 4 + 4 ≤ input.buffer.length := by omega
        have seqno : 8 + 4 ≤ input.buffer.length := by omega
        have sourceid : 12 + 4 ≤ input.buffer.length := by omega
        rw [readNumber_inside _ length,readNumber_inside _ exporttime,readNumber_inside _ seqno,
          readNumber_inside _ sourceid]
        exact orderly_ok _
    · rw [if_neg ipfix]
      refine Iff.trans (orderly_bind_left fun _ => orderly_badArgument _) (Iff.trans (orderly_liveMessage m) ?_)
      simp [notShort,nf9,ipfix]

theorem orderly_importStart : Orderly (importStart input m) ↔ HeaderFits input m := by
  unfold importStart
  by_cases short : input.messageLength < 2
  · rw [if_pos short]
    exact iff_of_true (orderly_badArgument _) (.inl short)
  · rw [if_neg short,orderly_bind,orderly_parseHdr (Nat.le_of_not_lt short)]
    refine and_iff_left fun parsed header => ?_
    obtain ⟨t,live,_⟩ := parseHdr_ok header
    rw [MnslpIpfixMessage.liveMessage_eq_ok live]
    simp only [ok_bind]
    split
    · exact orderly_ok _
    · split
      · exact orderly_ok _
      · exact orderly_badArgument _

theorem within_reached {s reached : ImportState} (started : importStart input m = .ok s)
    (reaches : Machine.Reaches (ImportState.machine input) s reached) : reached.Within input :=
  reaches.invariant (ImportState.Within input) (fun s next within taken => (ImportState.within_machine s next within taken).1)
    (within_start started)

/-- The reads of the import lie inside the buffer, those of a data record inside its set,
and it returns or throws `mnslp_ipfix_bad_argument`, exactly if the header is of a known
version and every state that it reaches fits. -/
theorem import_in_bounds_iff (buffer : Bytes) (now : Nat) (leftover : Leftover) (m : MnslpIpfixMessage) :
    (∃ result, mnslpIpfixImport ⟨buffer,now,leftover,true⟩ m = some result ∧ Orderly result) ↔
      HeaderFits ⟨buffer,now,leftover,true⟩ m ∧
      ∀ s reached, importStart ⟨buffer,now,leftover,true⟩ m = .ok s →
        Machine.Reaches (ImportState.machine ⟨buffer,now,leftover,true⟩) s reached →
        reached.Fits ⟨buffer,now,leftover,true⟩ ∧ ¬ reached.Starved := by
  generalize checked : (⟨buffer,now,leftover,true⟩ : ImportInput) = input
  have checks : input.checkSets = true := by rw [← checked]
  rw [← orderly_importStart]
  cases started : importStart input m with
  | error stop =>
    have failed : mnslpIpfixImport input m = some (.error stop) := by
      unfold mnslpIpfixImport
      rw [started]
    rw [failed]
    constructor
    · rintro ⟨result,same,orderly⟩
      cases same
      refine ⟨(orderly_error stop).mpr ((orderly_error stop).mp orderly),fun s _ other => ?_⟩
      cases other
    · intro ⟨orderly,_⟩
      exact ⟨_,rfl,(orderly_error stop).mpr ((orderly_error stop).mp orderly)⟩
  | ok s =>
    have runs : mnslpIpfixImport input m = Machine.run (ImportState.machine input) (importSteps input) s := by
      unfold mnslpIpfixImport
      rw [started]
    constructor
    · rintro ⟨result,ended,orderly⟩
      rw [runs] at ended
      refine ⟨orderly_ok s,fun other reached same reaches => ?_⟩
      cases same
      have ends := (ImportState.terminates_iff (within_start started)).mp ⟨_,_,ended⟩
      refine ⟨(ImportState.orderly_step checks (within_reached started reaches)).mp ?_,ends reached reaches⟩
      intro stop failed
      have last : ImportState.machine input reached = .inr (.error stop) := ImportState.machine_inr.mpr failed
      obtain ⟨fuel,again⟩ := reaches.run last
      have same := Machine.run_unique ended again
      exact orderly stop same
    · intro ⟨_,fits⟩
      have some : mnslpIpfixImport input m ≠ none := by
        intro unfinished
        obtain ⟨other,same,endless⟩ := import_eq_none.mp unfinished
        rw [started] at same
        cases same
        refine endless ((ImportState.terminates_iff (within_start started)).mpr fun reached reaches => ?_)
        exact (fits s reached rfl reaches).2
      obtain ⟨result,ended⟩ := Option.ne_none_iff_exists'.mp some
      refine ⟨result,ended,?_⟩
      rw [runs] at ended
      obtain ⟨final,reaches,last⟩ := Machine.reaches_of_run ended
      have orderly := (ImportState.orderly_step checks (within_reached started reaches)).mpr (fits s final rfl reaches).1
      rw [ImportState.machine_inr.mp last] at orderly
      exact (orderly_map _ _).mp orderly

/-- Two values of variable length, and a data set that ends behind the length of the first. -/
private def overrunning : ImportInput where
  buffer := [0,10,0,37,0,0,0,0,0,0,0,0,0,0,0,0] ++ [0,2,0,16,1,0,0,2,0,70,255,255,0,71,255,255] ++ [1,0,0,5,0]
  checkSets := true

theorem import_reads_beyond : ¬ ∀ (buffer : Bytes) (now : Nat) (leftover : Leftover) (m : MnslpIpfixMessage),
    ∃ result, mnslpIpfixImport ⟨buffer,now,leftover,true⟩ m = some result ∧ Orderly result := by
  intro inside
  obtain ⟨result,ended,orderly⟩ := inside overrunning.buffer 0 {} ⟨.null,0,0,[],true,true⟩
  have faulty : (mnslpIpfixImport overrunning ⟨.null,0,0,[],true,true⟩).any faulty = true := by decide +kernel
  obtain ⟨other,again,fault⟩ := (Option.any_eq_true _ _).mp faulty
  have same : result = other := Option.some.inj (ended.symm.trans again)
  rw [← same,orderly.not_faulty] at fault
  cases fault

end

section
variable {buffer : Bytes} {limit pos : Nat}

/-! What the import with checked sets returns is what the code returns. -/

theorem readBytes_take {count : Nat} (orderly : Orderly (readBytes (buffer.take limit) pos count)) :
    readBytes buffer pos count = readBytes (buffer.take limit) pos count := by
  rcases (orderly_readBytes _ _ _).mp orderly with none | inside
  · rw [none,readBytes,readBytes,if_pos rfl,if_pos rfl]
  · have size : (buffer.take limit).length ≤ buffer.length := List.length_take_le' ..
    have within : pos + count ≤ limit := by
      rw [List.length_take] at inside
      omega
    have outer : pos + count ≤ buffer.length := Nat.le_trans inside size
    rw [readBytes_inside inside,readBytes_inside outer,List.drop_take,List.take_take]
    have least : min count (limit - pos) = count := by omega
    rw [least]

theorem readNumber_take {order : ByteOrder} {width : Nat}
    (orderly : Orderly (readNumber order width (buffer.take limit) pos)) :
    readNumber order width buffer pos = readNumber order width (buffer.take limit) pos := by
  unfold readNumber at orderly ⊢
  rw [readBytes_take ((orderly_map _ _).mp orderly)]

theorem readValueLength_take {order : ByteOrder} {field : IpfixTemplateField}
    (orderly : Orderly (readValueLength order (buffer.take limit) field pos)) :
    readValueLength order buffer field pos = readValueLength order (buffer.take limit) field pos := by
  unfold readValueLength at orderly ⊢
  split at orderly
  · rename_i varlen
    rw [if_pos varlen,if_pos varlen]
    obtain ⟨first,rest⟩ := (orderly_bind _ _).mp orderly
    rw [readNumber_take first]
    cases short : readNumber order 1 (buffer.take limit) pos with
    | error stop => rfl
    | ok value =>
      have second := rest value short
      simp only [ok_bind]
      split at second
      · rename_i long
        rw [if_pos long,if_pos long,readNumber_take ((orderly_bind _ _).mp second).1]
      · rename_i long
        rw [if_neg long,if_neg long]
  · rename_i fixed
    rw [if_neg fixed,if_neg fixed]

theorem decodeField_take {encodeNetwork : Bool} {templ : IpfixTemplate} {read : RecordProgress} {i : Nat}
    (orderly : Orderly (decodeField encodeNetwork (buffer.take limit) templ pos read i)) :
    decodeField encodeNetwork buffer templ pos read i = decodeField encodeNetwork (buffer.take limit) templ pos read i := by
  unfold decodeField at orderly ⊢
  cases found : templ.getField i with
  | error stop => rfl
  | ok field =>
    rw [found,ok_bind] at orderly
    obtain ⟨first,rest⟩ := (orderly_bind _ _).mp orderly
    simp only [ok_bind]
    rw [readValueLength_take first]
    cases length : readValueLength (headerOrder encodeNetwork) (buffer.take limit) field (pos + read.nread) with
    | error stop => rfl
    | ok pair =>
      have second := rest pair length
      obtain ⟨len,lead⟩ := pair
      simp only [ok_bind]
      dsimp only at second ⊢
      split at second
      · rename_i short
        rw [if_pos short,if_pos short]
      · rename_i short
        rw [if_neg short,if_neg short,readBytes_take ((orderly_bind _ _).mp second).1]

theorem decodeFields_take {encodeNetwork : Bool} {templ : IpfixTemplate} (list : List Nat) {read : RecordProgress}
    (orderly : Orderly (list.foldlM (decodeField encodeNetwork (buffer.take limit) templ pos) read)) :
    list.foldlM (decodeField encodeNetwork buffer templ pos) read =
      list.foldlM (decodeField encodeNetwork (buffer.take limit) templ pos) read := by
  induction list generalizing read with
  | nil => rfl
  | cons i rest ih =>
    rw [List.foldlM_cons] at orderly ⊢
    obtain ⟨first,later⟩ := (orderly_bind _ _).mp orderly
    rw [List.foldlM_cons,decodeField_take first]
    cases step : decodeField encodeNetwork (buffer.take limit) templ pos read i with
    | error stop => rfl
    | ok next => exact ih (later next step)

theorem decodeDatarecord_take {encodeNetwork : Bool} {templ : IpfixTemplate} {buflen : Nat}
    (orderly : Orderly (decodeDatarecord encodeNetwork (buffer.take limit) templ pos buflen)) :
    decodeDatarecord encodeNetwork buffer templ pos buflen =
      decodeDatarecord encodeNetwork (buffer.take limit) templ pos buflen := by
  unfold decodeDatarecord at orderly ⊢
  rw [decodeFields_take _ ((orderly_bind _ _).mp orderly).1]

end

theorem ImportState.step_of_checked {buffer : Bytes} {now : Nat} {leftover : Leftover} {s : ImportState}
    (orderly : Orderly (s.step ⟨buffer,now,leftover,true⟩)) :
    s.step ⟨buffer,now,leftover,false⟩ = s.step ⟨buffer,now,leftover,true⟩ := by
  rcases s with ⟨m,i,nread,setid,setlen,point⟩
  cases point with
  | sets => rfl
  | templates offset bytesleft => rfl
  | records templ offset bytesleft =>
    dsimp only [step,ImportInput.readable] at orderly ⊢
    simp only [if_true] at orderly ⊢
    split
    · rename_i more
      rw [if_pos more] at orderly
      have record := ((orderly_bind _ _).mp orderly).1
      simp only [Bool.false_eq_true,if_false]
      rw [decodeDatarecord_take record]
    · rfl

/-- An import that stays inside with checked sets ends as the code does. -/
theorem import_of_checked {buffer : Bytes} {now : Nat} {leftover : Leftover} {m : MnslpIpfixMessage}
    {result : Call Imported} (ended : mnslpIpfixImport ⟨buffer,now,leftover,true⟩ m = some result)
    (orderly : Orderly result) : mnslpIpfixImport ⟨buffer,now,leftover,false⟩ m = some result := by
  have follows (fuel : Nat) : ∀ s, Machine.run (ImportState.machine ⟨buffer,now,leftover,true⟩) fuel s = some result →
      Machine.run (ImportState.machine ⟨buffer,now,leftover,false⟩) fuel s = some result := by
    induction fuel with
    | zero => exact fun s ended => nomatch ended
    | succ fuel ih =>
      intro s ended
      have quiet : Orderly (s.step ⟨buffer,now,leftover,true⟩) := by
        intro stop failed
        have last : ImportState.machine ⟨buffer,now,leftover,true⟩ s = .inr (.error stop) :=
          ImportState.machine_inr.mpr failed
        rw [Machine.run_result last] at ended
        exact orderly stop (Option.some.inj ended).symm
      have same : ImportState.machine ⟨buffer,now,leftover,false⟩ s = ImportState.machine ⟨buffer,now,leftover,true⟩ s := by
        unfold ImportState.machine
        rw [ImportState.step_of_checked quiet]
      cases taken : ImportState.machine ⟨buffer,now,leftover,true⟩ s with
      | inl next =>
        rw [Machine.run_next taken] at ended
        rw [Machine.run_next (same.trans taken)]
        exact ih next ended
      | inr other =>
        rw [Machine.run_result taken] at ended
        rw [Machine.run_result (same.trans taken)]
        exact ended
  have start : importStart ⟨buffer,now,leftover,false⟩ m = importStart ⟨buffer,now,leftover,true⟩ m := rfl
  unfold mnslpIpfixImport at ended ⊢
  rw [start]
  split at ended
  · exact ended
  · exact follows _ _ ended

end Mnslp.Msg
