import Mnslp.Msg.IpfixImport

/-! What one step of the import can do, and the position it keeps: the sets lie behind
each other in the buffer, and a record behind the other in its set. -/
namespace Mnslp.Msg
open Mnslp.Lib Call

theorem readBytes_inside {buffer : Bytes} {pos count : Nat} (inside : pos + count ≤ buffer.length) :
    readBytes buffer pos count = .ok ((buffer.drop pos).take count) := by
  unfold readBytes
  by_cases none : count = 0
  · subst none
    rw [if_pos rfl,List.take_zero]
  · rw [if_neg none,Bytes.slice_eq_some _ _ _ inside]

theorem readBytes_outside {buffer : Bytes} {pos count : Nat} (some : count ≠ 0) (outside : buffer.length < pos + count) :
    readBytes buffer pos count = fault .readBeyondBuffer := by
  have missing : Bytes.slice buffer pos count = none := if_neg (by omega)
  rw [readBytes,if_neg some,missing]

theorem orderly_readBytes (buffer : Bytes) (pos count : Nat) :
    Orderly (readBytes buffer pos count) ↔ count = 0 ∨ pos + count ≤ buffer.length := by
  by_cases inside : pos + count ≤ buffer.length
  · simp [readBytes_inside inside,inside]
  · by_cases none : count = 0
    · simp [none,readBytes]
    · have outside : buffer.length < pos + count := by omega
      simp [readBytes_outside none outside,none,inside]

theorem length_of_readBytes {buffer bytes : Bytes} {pos count : Nat} (read : readBytes buffer pos count = .ok bytes) :
    bytes.length = count := by
  unfold readBytes at read
  split at read
  · rename_i none
    cases read
    exact none.symm
  · split at read
    · rename_i found
      cases read
      exact Bytes.length_of_slice found
    · cases read

theorem orderly_readNumber (order : ByteOrder) {width : Nat} (buffer : Bytes) (pos : Nat) (wide : width ≠ 0) :
    Orderly (readNumber order width buffer pos) ↔ pos + width ≤ buffer.length := by
  rw [readNumber,orderly_map,orderly_readBytes]
  exact ⟨fun read => read.resolve_left wide,.inr⟩

theorem readNumber_inside (order : ByteOrder) {width : Nat} {buffer : Bytes} {pos : Nat}
    (inside : pos + width ≤ buffer.length) :
    readNumber order width buffer pos = .ok (Bytes.decode order ((buffer.drop pos).take width)) := by
  rw [readNumber,readBytes_inside inside]
  rfl

section
variable {leftover : Leftover} {order : ByteOrder} {buffer : Bytes} {setid : UInt16} {pos len : Nat}

theorem orderly_readTrecordHeader (inside : pos + len ≤ buffer.length) :
    Orderly (readTrecordHeader leftover order buffer setid pos len) := by
  have number (at' : Nat) (within : at' + 2 ≤ pos + len) : ∃ value, readNumber order 2 buffer at' = .ok value :=
    ⟨_,readNumber_inside order (by omega)⟩
  unfold readTrecordHeader
  split
  · split
    · exact orderly_badArgument _
    · obtain ⟨templid,first⟩ := number pos (by omega)
      obtain ⟨nfields,second⟩ := number (pos + 2) (by omega)
      obtain ⟨nscopefields,third⟩ := number (pos + 4) (by omega)
      simp [first,second,third]
  · split
    · split
      · exact orderly_badArgument _
      · obtain ⟨templid,first⟩ := number pos (by omega)
        obtain ⟨scopelen,second⟩ := number (pos + 2) (by omega)
        obtain ⟨optionlen,third⟩ := number (pos + 4) (by omega)
        simp only [first,second,third,ok_bind]
        split
        · exact orderly_badArgument _
        · exact orderly_ok _
    · split
      · split
        · exact orderly_badArgument _
        · obtain ⟨templid,first⟩ := number pos (by omega)
          obtain ⟨nfields,second⟩ := number (pos + 2) (by omega)
          simp [first,second]
      · exact orderly_badArgument _

theorem offset_of_readTrecordHeader {header : TrecordHeader}
    (read : readTrecordHeader leftover order buffer setid pos len = .ok header) :
    header.offset = (if isOptionSet setid then 6 else 4) ∧ header.offset ≤ len := by
  unfold readTrecordHeader at read
  unfold isOptionSet
  split at read
  · rename_i three
    split at read
    · cases read
    · obtain ⟨_,_,read⟩ := bind_eq_ok.mp read
      obtain ⟨_,_,read⟩ := bind_eq_ok.mp read
      obtain ⟨_,_,read⟩ := bind_eq_ok.mp read
      cases read
      exact ⟨by simp [three],by dsimp only; omega⟩
  · rename_i three
    split at read
    · rename_i one
      split at read
      · cases read
      · obtain ⟨_,_,read⟩ := bind_eq_ok.mp read
        obtain ⟨_,_,read⟩ := bind_eq_ok.mp read
        obtain ⟨_,_,read⟩ := bind_eq_ok.mp read
        dsimp only at read
        split at read
        · cases read
        · cases read
          exact ⟨by simp [one],by dsimp only; omega⟩
    · rename_i one
      split at read
      · split at read
        · cases read
        · obtain ⟨_,_,read⟩ := bind_eq_ok.mp read
          obtain ⟨_,_,read⟩ := bind_eq_ok.mp read
          cases read
          exact ⟨by simp [one,three],by dsimp only; omega⟩
      · cases read

end

theorem fieldTypeOrUnknown_eq_ok (eno ftype : Int) : ∃ found, fieldTypeOrUnknown eno ftype = .ok found := by
  have anyElement : ∃ field, getFieldType 0 0 = .ok field := ⟨_,rfl⟩
  obtain ⟨field,found⟩ := anyElement
  unfold fieldTypeOrUnknown
  split
  · exact ⟨_,rfl⟩
  · exact ⟨_,by rw [found]; rfl⟩

section
variable {order : ByteOrder} {relay scope : Bool} {buffer : Bytes} {templ : IpfixTemplate} {pos len : Nat}

theorem orderly_readField (inside : pos + len ≤ buffer.length) :
    Orderly (readField order relay buffer templ scope pos len) := by
  unfold readField
  split
  · exact orderly_badArgument _
  · split
    · exact orderly_badArgument _
    · rw [readNumber_inside order (by omega),readNumber_inside order (by omega)]
      simp only [ok_bind]
      split
      · exact orderly_badArgument _
      · rename_i short
        rw [orderly_bind]
        constructor
        · unfold readEno
          split
          · rename_i vendor
            rw [orderly_readNumber order buffer _ (by decide)]
            have room : ¬ len < 8 := fun small => short ⟨vendor,small⟩
            omega
          · exact orderly_ok _
        · intro eno _
          obtain ⟨found,looked⟩ := fieldTypeOrUnknown_eq_ok ((eno : Int).bmod (2^32))
            (Bytes.decode order ((buffer.drop pos).take 2) % ipfixEftVendorBit.toNat : Nat)
          rw [looked]
          exact orderly_ok _

theorem size_of_readField {next : IpfixTemplate} {nread : Nat}
    (read : readField order relay buffer templ scope pos len = .ok (next,nread)) : 4 ≤ nread ∧ nread ≤ len := by
  unfold readField at read
  split at read
  · cases read
  · split at read
    · cases read
    · obtain ⟨ftype,_,read⟩ := bind_eq_ok.mp read
      obtain ⟨length,_,read⟩ := bind_eq_ok.mp read
      dsimp only at read
      split at read
      · cases read
      · rename_i short
        obtain ⟨eno,_,read⟩ := bind_eq_ok.mp read
        obtain ⟨found,_,read⟩ := bind_eq_ok.mp read
        cases read
        split
        · rename_i vendor
          have room : ¬ len < 8 := fun small => short ⟨vendor,small⟩
          omega
        · omega

end

theorem orderly_rethrown {α : Type} {text : String} {x : Call α} (orderly : Orderly x) :
    Orderly (rethrown text x) := by
  unfold rethrown
  split
  · exact orderly_badArgument _
  · exact orderly

theorem rethrown_eq_ok {α : Type} {text : String} {x : Call α} {a : α} (ended : rethrown text x = .ok a) : x = .ok a := by
  unfold rethrown at ended
  split at ended
  · cases ended
  · exact ended

def typeOfSet (setid : UInt16) : IpfixTemplType := if isOptionSet setid then .optionTemplate else .dataTemplate

/-- The templates before the fields of a record are read, with the id that the record
names and the one that the counter names. -/
def TemplateContainer.renew (templates : TemplateContainer) (named numbered : UInt16) (type : IpfixTemplType) (nfields : Nat) :
    TemplateContainer :=
  let added := TemplateContainer.addTemplate (templates.erase named) {type := .dataTemplate, tid := numbered, maxfields := nfields}
  added.updateTemplate numbered fun templ => {templ with type := type}

section
variable {leftover : Leftover} {buffer : Bytes} {m : MnslpIpfixMessage} {t : IpfixT} {setid : UInt16} {pos len : Nat}

/-- A record without fields names a template that is not there. -/
def WithdrawsUnknown (leftover : Leftover) (buffer : Bytes) (encodeNetwork : Bool) (templates : TemplateContainer)
    (setid : UInt16) (pos len : Nat) : Prop :=
  ∃ header, readTrecordHeader leftover (headerOrder encodeNetwork) buffer setid pos len = .ok header ∧
    header.nfields = 0 ∧ header.templid ≠ setid ∧ templates.find header.templid = none

theorem orderly_withdrawTemplate (templates : TemplateContainer) (header : TrecordHeader) :
    Orderly (withdrawTemplate templates setid header) ↔
      ¬ (header.nfields = 0 ∧ header.templid ≠ setid ∧ templates.find header.templid = none) := by
  unfold withdrawTemplate TemplateContainer.deleteTemplate
  by_cases withdraws : header.nfields = 0
  · by_cases all : header.templid = setid
    · simp [withdraws,all]
    · cases found : templates.find header.templid with
      | none => simp [withdraws,all]
      | some templ => simp [withdraws,all]
  · simp [withdraws]

theorem orderly_readFields (order : ByteOrder) (relay : Bool) (header : TrecordHeader) (inside : pos + len ≤ buffer.length)
    (templ : IpfixTemplate) (offset : Nat) :
    Orderly ((List.range header.nfields.toNat).foldlM (readFieldAt order relay buffer header pos len) (templ,offset)) := by
  apply orderly_foldlM (fun _ => True) (fun _ _ _ _ _ => trivial)
  · intro (templ,offset) i _
    unfold readFieldAt
    dsimp only
    split
    · exact orderly_badArgument _
    · rw [orderly_bind]
      exact ⟨orderly_readField (by omega),fun _ _ => orderly_ok _⟩
  · trivial

/-- Every field takes at least four bytes. -/
theorem size_of_readFieldAt {order : ByteOrder} {relay : Bool} {header : TrecordHeader} {read next : IpfixTemplate × Nat}
    {i : Nat} (stepped : readFieldAt order relay buffer header pos len read i = .ok next) :
    read.2 + 4 ≤ next.2 ∧ next.2 ≤ len := by
  unfold readFieldAt at stepped
  dsimp only at stepped
  split at stepped
  · cases stepped
  · obtain ⟨⟨templ,nread⟩,field,stepped⟩ := bind_eq_ok.mp stepped
    have size := size_of_readField field
    cases stepped
    dsimp only
    omega

theorem offset_of_readFields {order : ByteOrder} {relay : Bool} {header : TrecordHeader} (list : List Nat)
    {read next : IpfixTemplate × Nat} (before : read.2 ≤ len)
    (ended : list.foldlM (readFieldAt order relay buffer header pos len) read = .ok next) :
    read.2 + 4 * list.length ≤ next.2 ∧ next.2 ≤ len := by
  induction list generalizing read with
  | nil =>
    cases ended
    exact ⟨Nat.le_refl _,before⟩
  | cons i rest ih =>
    rw [List.foldlM_cons] at ended
    obtain ⟨middle,first,ended⟩ := bind_eq_ok.mp ended
    obtain ⟨grown,inside⟩ := size_of_readFieldAt first
    obtain ⟨more,fits⟩ := ih inside ended
    rw [List.length_cons]
    omega

/-- A record with fields. Its template is read under the id of the counter. -/
theorem decodeTrecord_eq (live : m.message = .live t)
    (read : readTrecordHeader leftover (headerOrder m.encodeNetwork) buffer setid pos len = .ok header)
    (some : header.nfields ≠ 0) : decodeTrecord leftover buffer m setid pos len = (do
      let numbered := m.gLasttid + 1
      let nfields := header.nfields.toNat
      let templates := t.templates.renew header.templid numbered (typeOfSet setid) nfields
      let templ ← templates.getTemplate numbered
      let empty := {templ with tid := numbered, maxfields := nfields}
      let (templ,nread) ← rethrown "Could not read the template information" ((List.range nfields).foldlM
        (readFieldAt (headerOrder m.encodeNetwork) m.encodeNetwork buffer header pos len) (empty,header.offset))
      let filled := templates.updateTemplate numbered fun _ => templ
      return ({m with message := .live {t with templates := filled}, gLasttid := numbered, requireOutput := true},nread)) := by
  have many : ¬ header.nfields.toNat < 1 := by
    intro none
    apply some
    apply UInt16.toNat_inj.mp
    change header.nfields.toNat = 0
    omega
  unfold decodeTrecord withdrawTemplate
  dsimp only
  rw [read,ok_bind,MnslpIpfixMessage.liveMessage_eq_ok live,ok_bind,if_pos some,ok_bind,
    MnslpIpfixMessage.newTypedTemplate_eq _ rfl,if_neg many]
  rfl

/-- A record without fields. Whatever it does to the templates, the rest throws. -/
theorem decodeTrecord_withdrawal (live : m.message = .live t)
    (read : readTrecordHeader leftover (headerOrder m.encodeNetwork) buffer setid pos len = .ok header)
    (none : header.nfields = 0) : decodeTrecord leftover buffer m setid pos len =
      (withdrawTemplate t.templates setid header >>= fun _ => badArgument "Invalid number of fields") := by
  unfold decodeTrecord
  dsimp only
  rw [read,ok_bind,MnslpIpfixMessage.liveMessage_eq_ok live,ok_bind]
  apply congrArg (withdrawTemplate t.templates setid header >>= ·)
  funext templates
  rw [MnslpIpfixMessage.newTypedTemplate_eq _ rfl,none]
  rfl

/-- Decoding that returns has found a header that announces fields. -/
theorem header_of_decodeTrecord {result : MnslpIpfixMessage × Nat} (live : m.message = .live t)
    (decoded : decodeTrecord leftover buffer m setid pos len = .ok result) : ∃ header,
      readTrecordHeader leftover (headerOrder m.encodeNetwork) buffer setid pos len = .ok header ∧ header.nfields ≠ 0 := by
  have opened := decoded
  unfold decodeTrecord at opened
  obtain ⟨header,read,_⟩ := bind_eq_ok.mp opened
  refine ⟨header,read,fun none => ?_⟩
  rw [decodeTrecord_withdrawal live read none] at decoded
  obtain ⟨_,_,decoded⟩ := bind_eq_ok.mp decoded
  cases decoded

theorem orderly_decodeTrecord (live : m.message = .live t) (inside : pos + len ≤ buffer.length) :
    Orderly (decodeTrecord leftover buffer m setid pos len) ↔
      ¬ WithdrawsUnknown leftover buffer m.encodeNetwork t.templates setid pos len := by
  cases read : readTrecordHeader leftover (headerOrder m.encodeNetwork) buffer setid pos len with
  | error stop =>
    have orderly : Orderly (.error stop : Call TrecordHeader) := read ▸ orderly_readTrecordHeader inside
    have none : ¬ WithdrawsUnknown leftover buffer m.encodeNetwork t.templates setid pos len := by
      rintro ⟨header,found,_⟩
      rw [read] at found
      cases found
    unfold decodeTrecord
    rw [orderly_bind,read]
    exact iff_of_true ⟨orderly,fun header same => by cases same⟩ none
  | ok header =>
    have same : WithdrawsUnknown leftover buffer m.encodeNetwork t.templates setid pos len ↔
        header.nfields = 0 ∧ header.templid ≠ setid ∧ t.templates.find header.templid = none := by
      constructor
      · rintro ⟨other,found,withdraws⟩
        rw [read] at found
        cases found
        exact withdraws
      · intro withdraws
        exact ⟨header,read,withdraws⟩
    rw [same]
    by_cases none : header.nfields = 0
    · rw [decodeTrecord_withdrawal live read none,orderly_bind,← orderly_withdrawTemplate]
      exact and_iff_left fun _ _ => orderly_badArgument _
    · rw [decodeTrecord_eq live read none,orderly_bind]
      refine iff_of_true ⟨?_,fun templ _ => ?_⟩ fun withdraws => none withdraws.1
      · unfold TemplateContainer.getTemplate
        split
        · exact orderly_ok _
        · exact orderly_badArgument _
      · rw [orderly_bind]
        exact ⟨orderly_rethrown (orderly_readFields _ _ _ inside _ _),fun _ _ => orderly_ok _⟩

theorem decodeTrecord_ok {next : MnslpIpfixMessage} {bytes : Nat} (live : m.message = .live t)
    (decoded : decodeTrecord leftover buffer m setid pos len = .ok (next,bytes)) :
    ((if isOptionSet setid then 6 else 4) < bytes ∧ bytes ≤ len) ∧ ∃ templates lasttid,
      next = {m with message := .live {t with templates := templates}, gLasttid := lasttid, requireOutput := true} := by
  obtain ⟨header,read,some⟩ := header_of_decodeTrecord live decoded
  rw [decodeTrecord_eq live read some] at decoded
  obtain ⟨templ,_,decoded⟩ := bind_eq_ok.mp decoded
  obtain ⟨⟨filled,nread⟩,fields,decoded⟩ := bind_eq_ok.mp decoded
  cases decoded
  obtain ⟨offset,inside⟩ := offset_of_readTrecordHeader read
  obtain ⟨grown,fits⟩ := offset_of_readFields _ inside (rethrown_eq_ok fields)
  rw [List.length_range] at grown
  have many : header.nfields.toNat ≠ 0 := fun none => some (UInt16.toNat_inj.mp none)
  exact ⟨⟨by omega,fits⟩,_,_,rfl⟩

end
namespace ImportState

/-- A step that leads on. -/
inductive Stepped (input : ImportInput) (s : ImportState) : ImportState → Prop
  | tooShort (setid setlen : UInt16) (atSets : s.point = .sets) (room : s.nread + 4 < input.messageLength) :
      Stepped input s {s with setid := setid, setlen := setlen, nread := s.nread + 4, i := s.i + 1}
  | opened (setid setlen : UInt16) (point : ImportPoint) (atSets : s.point = .sets)
      (inside : s.nread + 4 + setlen.toNat ≤ input.messageLength)
      (kind : point = .templates (s.nread + 4) setlen.toNat ∨
        ∃ templ, point = .records templ (s.nread + 4) setlen.toNat) :
      Stepped input s {s with setid := setid, setlen := setlen, nread := s.nread + 4, point := point}
  | skipped (setid setlen : UInt16) (atSets : s.point = .sets)
      (inside : s.nread + 4 + setlen.toNat ≤ input.messageLength) :
      Stepped input s
        {s with setid := setid, setlen := setlen, nread := s.nread + 4 + setlen.toNat, i := s.i + 1, point := .sets}
  | trecord (offset bytesleft : Nat) (m : MnslpIpfixMessage) (bytes : Nat)
      (atTemplates : s.point = .templates offset bytesleft) (more : bytesleft > 4)
      (decoded : decodeTrecord input.leftover input.buffer s.m s.setid offset bytesleft = .ok (m,bytes)) :
      Stepped input s {s with m := m, point := .templates (offset + bytes) (bytesleft - bytes)}
  | record (templ : IpfixTemplate) (offset bytesleft : Nat) (record : IpfixDataRecord) (bytes : Nat)
      (atRecords : s.point = .records templ offset bytesleft) (more : bytesleft > 0)
      (decoded : decodeDatarecord s.m.encodeNetwork (input.readable (s.nread + s.setlen.toNat)) templ offset bytesleft =
        .ok (record,bytes)) :
      Stepped input s {s with
        m := {s.m with dataList := s.m.dataList ++ [record]}
        point := .records templ (offset + bytes) (bytesleft - bytes) }
  | closed (inSet : s.point ≠ .sets) :
      Stepped input s {s with nread := s.nread + s.setlen.toNat, i := s.i + 1, point := .sets}

theorem addInt_eq_ok {a b sum : Nat} (added : addInt a b = .ok sum) : sum = a + b := by
  unfold addInt at added
  split at added
  · cases added
    rfl
  · cases added

private theorem closeSet_ok {s next : ImportState} (closed : s.closeSet = .ok next) :
    next = {s with nread := s.nread + s.setlen.toNat, i := s.i + 1, point := .sets} := by
  obtain ⟨nread,added,closed⟩ := bind_eq_ok.mp closed
  cases closed
  rw [addInt_eq_ok added]

private theorem finish_ends {input : ImportInput} {s x : ImportState} :
    (do return Sum.inr (← x.finish input)) ≠ (.ok (.inl s) : Call (ImportState ⊕ Imported)) := by
  intro finished
  obtain ⟨_,_,finished⟩ := bind_eq_ok.mp finished
  cases finished

private theorem stepped_readSet {input : ImportInput} {s next : ImportState} {t : IpfixT} {setid setlen : UInt16}
    (atSets : s.point = .sets) (room : s.nread + 4 < input.messageLength)
    (read : s.readSet input t (s.nread + 4) setid setlen = .ok (.inl next)) : Stepped input s next := by
  unfold readSet at read
  dsimp only at read
  split at read
  · cases read
    exact .tooShort _ _ atSets room
  · split at read
    · exact absurd read finish_ends
    · rename_i beyond
      have inside : s.nread + 4 + (setlen - 4).toNat ≤ input.messageLength := by omega
      split at read
      · cases read
        exact .opened _ _ _ atSets inside (.inl rfl)
      · split at read
        · obtain ⟨templ,_,read⟩ := bind_eq_ok.mp read
          cases read
          exact .opened _ _ _ atSets inside (.inr ⟨templ,rfl⟩)
        · obtain ⟨closed,rest,read⟩ := bind_eq_ok.mp read
          cases read
          rw [closeSet_ok rest]
          exact .skipped _ _ atSets inside

private theorem stepped_openSet {input : ImportInput} {s next : ImportState} (atSets : s.point = .sets)
    (opened : s.openSet input = .ok (.inl next)) : Stepped input s next := by
  unfold openSet at opened
  obtain ⟨nread,added,opened⟩ := bind_eq_ok.mp opened
  cases addInt_eq_ok added
  obtain ⟨t,_,opened⟩ := bind_eq_ok.mp opened
  split at opened
  · exact absurd opened finish_ends
  · rename_i room
    split at opened
    · exact absurd opened finish_ends
    · obtain ⟨setid,_,opened⟩ := bind_eq_ok.mp opened
      obtain ⟨setlen,_,opened⟩ := bind_eq_ok.mp opened
      exact stepped_readSet atSets (Nat.lt_of_not_le room) opened

theorem stepped_of_step {input : ImportInput} {s next : ImportState} (taken : s.step input = .ok (.inl next)) :
    Stepped input s next := by
  unfold step at taken
  split at taken
  · rename_i atSets
    exact stepped_openSet atSets taken
  · rename_i offset bytesleft atTemplates
    split at taken
    · rename_i more
      obtain ⟨⟨m,bytes⟩,decoded,taken⟩ := bind_eq_ok.mp taken
      cases taken
      exact .trecord offset bytesleft m bytes atTemplates more decoded
    · obtain ⟨closed,rest,taken⟩ := bind_eq_ok.mp taken
      cases taken
      rw [closeSet_ok rest]
      exact .closed (by simp [atTemplates])
  · rename_i templ offset bytesleft atRecords
    split at taken
    · rename_i more
      obtain ⟨⟨record,bytes⟩,decoded,taken⟩ := bind_eq_ok.mp taken
      cases taken
      exact .record templ offset bytesleft record bytes atRecords more decoded
    · obtain ⟨closed,rest,taken⟩ := bind_eq_ok.mp taken
      cases taken
      rw [closeSet_ok rest]
      exact .closed (by simp [atRecords])

theorem machine_inl {input : ImportInput} {s next : ImportState} :
    machine input s = .inl next ↔ s.step input = .ok (.inl next) := by
  unfold machine
  split <;> simp_all

theorem machine_inr {input : ImportInput} {s : ImportState} {result : Call Imported} :
    machine input s = .inr result ↔ s.step input = result.map .inr := by
  unfold machine
  split <;> cases result <;> simp_all [Except.map]

theorem copyRawMessage_new {t : IpfixT} (empty : t.buffer = []) (size : t.bufferLenght = ipfixDefaultBuflen) (msg : Bytes) :
    t.copyRawMessage msg = if msg.length > ipfixDefaultBuflen then fault .writeBeyondBuffer else .ok {t with buffer := msg} := by
  have fresh : ¬ t.offset > t.bufferLenght := by
    rw [IpfixT.offset,empty]
    exact Nat.not_lt_zero _
  rw [IpfixT.copyRawMessage,if_neg fresh,size]

/-- What is left of a set lies inside the buffer, and nothing is written to the message
that the header created but templates. -/
structure Within (input : ImportInput) (s : ImportState) : Prop where
  fresh : ∃ t, s.m.message = .live t ∧ t.buffer = [] ∧ t.bufferLenght = ipfixDefaultBuflen
  place : match s.point with
    | .sets => s.nread ≤ input.messageLength
    | .templates offset bytesleft => s.nread + s.setlen.toNat ≤ input.messageLength ∧ bytesleft ≤ s.setlen.toNat ∧
        offset + bytesleft = s.nread + s.setlen.toNat
    | .records _ offset bytesleft => s.nread + s.setlen.toNat ≤ input.messageLength ∧ bytesleft ≤ s.setlen.toNat ∧
        (0 < bytesleft → offset + bytesleft = s.nread + s.setlen.toNat)

theorem within_step {input : ImportInput} {s next : ImportState} (within : s.Within input)
    (stepped : Stepped input s next) : next.Within input := by
  have place := within.place
  cases stepped with
  | tooShort setid setlen atSets room =>
    refine ⟨within.fresh,?_⟩
    simp only [atSets]
    omega
  | opened setid setlen point atSets inside kind =>
    refine ⟨within.fresh,?_⟩
    rcases kind with rfl | ⟨templ,rfl⟩
    · exact ⟨inside,Nat.le_refl _,rfl⟩
    · exact ⟨inside,Nat.le_refl _,fun _ => rfl⟩
  | skipped setid setlen atSets inside => exact ⟨within.fresh,inside⟩
  | trecord offset bytesleft m bytes atTemplates more decoded =>
    obtain ⟨t,live,empty,size⟩ := within.fresh
    obtain ⟨small,templates,lasttid,rfl⟩ := decodeTrecord_ok live decoded
    rw [atTemplates] at place
    refine ⟨⟨_,rfl,empty,size⟩,?_⟩
    dsimp only at place ⊢
    omega
  | record templ offset bytesleft record bytes atRecords more decoded =>
    rw [atRecords] at place
    refine ⟨within.fresh,?_⟩
    dsimp only at place ⊢
    omega
  | closed inSet =>
    refine ⟨within.fresh,?_⟩
    dsimp only
    split at place
    · contradiction
    · exact place.1
    · exact place.1

end ImportState

theorem length_of_offset {length : Nat} {least : Int} (long : ¬ (length : Int).bmod (2^32) < least) :
    least ≤ length := by
  rw [Int.bmod_def] at long
  split at long <;> omega

/-- The header makes a message without templates, and lies inside the buffer. -/
theorem parseHdr_ok {input : ImportInput} {m next : MnslpIpfixMessage} (parsed : parseHdr input m = .ok next) :
    ∃ header : IpfixT, next.message = .live header ∧ (header.buffer = [] ∧ header.bufferLenght = ipfixDefaultBuflen) ∧
      next.encodeNetwork = m.encodeNetwork ∧ next.dataList = m.dataList ∧
      ((header.version = ipfixVersionNf9 ∧ 20 ≤ input.messageLength) ∨
        (header.version = ipfixVersion ∧ 16 ≤ input.messageLength)) := by
  unfold parseHdr at parsed
  obtain ⟨version,_,parsed⟩ := bind_eq_ok.mp parsed
  split at parsed
  · split at parsed
    · cases parsed
    · rename_i long
      obtain ⟨_,_,parsed⟩ := bind_eq_ok.mp parsed
      obtain ⟨_,_,parsed⟩ := bind_eq_ok.mp parsed
      obtain ⟨_,_,parsed⟩ := bind_eq_ok.mp parsed
      obtain ⟨_,_,parsed⟩ := bind_eq_ok.mp parsed
      obtain ⟨_,_,parsed⟩ := bind_eq_ok.mp parsed
      have := length_of_offset long
      cases parsed
      exact ⟨_,rfl,⟨rfl,rfl⟩,rfl,rfl,.inl ⟨rfl,by omega⟩⟩
  · split at parsed
    · split at parsed
      · cases parsed
      · rename_i long
        obtain ⟨_,_,parsed⟩ := bind_eq_ok.mp parsed
        obtain ⟨_,_,parsed⟩ := bind_eq_ok.mp parsed
        obtain ⟨_,_,parsed⟩ := bind_eq_ok.mp parsed
        obtain ⟨_,_,parsed⟩ := bind_eq_ok.mp parsed
        have := length_of_offset long
        cases parsed
        exact ⟨_,rfl,⟨rfl,rfl⟩,rfl,rfl,.inr ⟨rfl,by omega⟩⟩
    · obtain ⟨_,_,parsed⟩ := bind_eq_ok.mp parsed
      cases parsed

/-- A parsed header is followed by the sets, if there are any. -/
theorem within_start {input : ImportInput} {m : MnslpIpfixMessage} {s : ImportState}
    (started : importStart input m = .ok s) : s.Within input := by
  unfold importStart at started
  split at started
  · cases started
  · obtain ⟨parsed,header,started⟩ := bind_eq_ok.mp started
    obtain ⟨t,live,⟨empty,size⟩,_,_,long⟩ := parseHdr_ok header
    rw [MnslpIpfixMessage.liveMessage_eq_ok live] at started
    simp only [ok_bind] at started
    have fresh : ∃ t, parsed.message = .live t ∧ t.buffer = [] ∧ t.bufferLenght = ipfixDefaultBuflen :=
      ⟨t,live,empty,size⟩
    split at started
    · rename_i version
      cases started
      refine ⟨fresh,?_⟩
      rcases long with ⟨_,long⟩ | ⟨other,_⟩
      · exact long
      · rw [version] at other
        exact absurd other (by decide)
    · split at started
      · rename_i version
        cases started
        refine ⟨fresh,?_⟩
        rcases long with ⟨other,_⟩ | ⟨_,long⟩
        · contradiction
        · exact long
      · cases started

theorem importStart_point {input : ImportInput} {m : MnslpIpfixMessage} {s : ImportState}
    (started : importStart input m = .ok s) : s.point = .sets := by
  unfold importStart at started
  split at started
  · cases started
  · obtain ⟨parsed,_,started⟩ := bind_eq_ok.mp started
    obtain ⟨t,_,started⟩ := bind_eq_ok.mp started
    dsimp only at started
    split at started
    · cases started
      rfl
    · split at started
      · cases started
        rfl
      · cases started

end Mnslp.Msg
