import Mnslp.Msg.ImportStep

/-! Every round of the loops of the import takes bytes, but for data records of a
template whose values are all empty: they take none, and the import reads them for ever. -/
namespace Mnslp.Msg
open Mnslp.Lib Call

/-- A value without bytes is decoded without an exception. -/
def IpfixFieldType.acceptsEmpty (field : IpfixFieldType) : Bool :=
  match field.coding with
  | .int | .uint | .ntp | .float => true
  | .ipaddr | .bytes | .string | .none => field.acceptsBytes 0

def IpfixTemplateField.readsNothing (field : IpfixTemplateField) : Bool :=
  field.flength = 0 ∧ field.elem.acceptsEmpty

/-- Every field has length 0 and accepts an empty value. -/
def IpfixTemplate.ReadsNothing (templ : IpfixTemplate) : Prop :=
  ∀ i < templ.getNumfields, (templ.getField i).toOption.any IpfixTemplateField.readsNothing = true

instance (templ : IpfixTemplate) : Decidable templ.ReadsNothing :=
  inferInstanceAs (Decidable (∀ i < templ.getNumfields, _ = true))

theorem IpfixTemplate.readsNothing_at (templ : IpfixTemplate) (i : Nat) :
    (templ.getField i).toOption.any IpfixTemplateField.readsNothing = true ↔
      ∃ field, templ.getField i = .ok field ∧ field.flength = 0 ∧ field.elem.acceptsEmpty = true := by
  cases templ.getField i with
  | error stop => simp [Except.toOption]
  | ok field => simp [Except.toOption,IpfixTemplateField.readsNothing]

section
variable {order : ByteOrder} {encodeNetwork : Bool} {readable : Bytes} {templ : IpfixTemplate} {pos : Nat}

theorem lead_of_readValueLength {field : IpfixTemplateField} {len lead : Nat}
    (read : readValueLength order readable field pos = .ok (len,lead)) :
    (field.flength = ipfixFtVarlen ∧ 1 ≤ lead) ∨ (field.flength ≠ ipfixFtVarlen ∧ len = field.flength.toNat ∧ lead = 0) := by
  unfold readValueLength at read
  split at read
  · rename_i varlen
    refine .inl ⟨varlen,?_⟩
    obtain ⟨short,_,read⟩ := bind_eq_ok.mp read
    split at read
    · obtain ⟨long,_,read⟩ := bind_eq_ok.mp read
      cases read
      decide
    · cases read
      decide
  · rename_i fixed
    cases read
    exact .inr ⟨fixed,rfl,rfl⟩

theorem decodeField_ok {read next : RecordProgress} {i : Nat}
    (decoded : decodeField encodeNetwork readable templ pos read i = .ok next) :
    ∃ field len lead bytes value, templ.getField i = .ok field ∧
      readValueLength (headerOrder encodeNetwork) readable field (pos + read.nread) = .ok (len,lead) ∧
      len ≤ read.bytesleft ∧
      readBytes readable (pos + read.nread + lead) (field.elem.bytesRead len) = .ok bytes ∧
      field.elem.decode bytes len encodeNetwork = .ok value ∧
      next = ⟨read.nread + lead + len,read.bytesleft - len,read.record.insertField field.elem.getFieldKey value⟩ := by
  unfold decodeField at decoded
  obtain ⟨field,found,decoded⟩ := bind_eq_ok.mp decoded
  obtain ⟨⟨len,lead⟩,length,decoded⟩ := bind_eq_ok.mp decoded
  dsimp only at decoded
  split at decoded
  · cases decoded
  · rename_i enough
    obtain ⟨bytes,taken,decoded⟩ := bind_eq_ok.mp decoded
    obtain ⟨value,made,decoded⟩ := bind_eq_ok.mp decoded
    obtain ⟨_,_,decoded⟩ := bind_eq_ok.mp decoded
    cases decoded
    exact ⟨field,len,lead,bytes,value,found,length,Nat.le_of_not_lt enough,taken,made,rfl⟩

theorem acceptsEmpty_of_decode {field : IpfixFieldType} {bytes : Bytes} {value : IpfixValueField} {relay : Bool}
    (decoded : field.decode bytes 0 relay = .ok value) : field.acceptsEmpty = true := by
  unfold IpfixFieldType.acceptsEmpty
  unfold IpfixFieldType.decode IpfixFieldType.ipfixDecodeBytes at decoded
  split at decoded
  · rename_i coding
    simp [coding]
  · simp [*]
  · simp [*]
  · simp [*]
  all_goals
    split at decoded
    · simp [*]
    · cases decoded

theorem decode_empty {field : IpfixFieldType} (accepts : field.acceptsEmpty = true) (relay : Bool) :
    ∃ value, field.decode [] 0 relay = .ok value ∧ value.length = 0 := by
  unfold IpfixFieldType.acceptsEmpty at accepts
  unfold IpfixFieldType.decode IpfixFieldType.ipfixDecodeBytes IpfixFieldType.getIpfixValueFieldBytes
  split at accepts
  all_goals rename_i coding
  all_goals simp only [coding]
  · exact ⟨_,rfl,rfl⟩
  · exact ⟨_,rfl,rfl⟩
  · exact ⟨_,rfl,rfl⟩
  · exact ⟨_,rfl,rfl⟩
  all_goals
    rw [if_pos accepts,List.length_nil,if_pos accepts]
    exact ⟨_,rfl,rfl⟩

theorem decodeField_empty (encodeNetwork : Bool) (readable : Bytes) (pos : Nat) {field : IpfixTemplateField} {i : Nat}
    (read : RecordProgress) (found : templ.getField i = .ok field) (none : field.flength = 0) (accepts : field.elem.acceptsEmpty = true) :
    ∃ record, decodeField encodeNetwork readable templ pos read i = .ok ⟨read.nread,read.bytesleft,record⟩ := by
  obtain ⟨value,decoded,empty⟩ := decode_empty accepts encodeNetwork
  have fixed : field.flength ≠ ipfixFtVarlen := by
    rw [none]
    decide
  have length : readValueLength (headerOrder encodeNetwork) readable field (pos + read.nread) = .ok (0,0) := by
    rw [readValueLength,if_neg fixed,none]
    rfl
  have nothing : field.elem.bytesRead 0 = 0 := by
    unfold IpfixFieldType.bytesRead
    split <;> simp
  have fits : field.elem.snprint 30 value = .ok () := by
    have small : field.elem.snprintFits 30 0 = true := by
      unfold IpfixFieldType.snprintFits
      split <;> decide
    rw [IpfixFieldType.snprint,empty,if_pos small]
  refine ⟨read.record.insertField field.elem.getFieldKey value,?_⟩
  unfold decodeField
  rw [found,ok_bind,length,ok_bind]
  dsimp only
  rw [if_neg (Nat.not_lt_zero _),nothing,readBytes,if_pos rfl,ok_bind,decoded,ok_bind,fits]
  rfl

theorem nread_of_decodeFields {list : List Nat} {read next : RecordProgress}
    (decoded : list.foldlM (decodeField encodeNetwork readable templ pos) read = .ok next) :
    read.nread ≤ next.nread ∧ (next.nread = read.nread → ∀ i ∈ list, ∃ field, templ.getField i = .ok field ∧
      field.flength = 0 ∧ field.elem.acceptsEmpty = true) := by
  induction list generalizing read with
  | nil =>
    cases decoded
    exact ⟨Nat.le_refl _,fun _ i member => by cases member⟩
  | cons i rest ih =>
    rw [List.foldlM_cons] at decoded
    obtain ⟨middle,first,decoded⟩ := bind_eq_ok.mp decoded
    obtain ⟨field,len,lead,bytes,value,found,length,_,_,made,rfl⟩ := decodeField_ok first
    obtain ⟨grows,still⟩ := ih decoded
    dsimp only at grows still
    refine ⟨by omega,fun same => ?_⟩
    have noLen : len = 0 := by omega
    have noLead : lead = 0 := by omega
    subst noLen noLead
    have none : field.flength = 0 := by
      rcases lead_of_readValueLength length with ⟨_,some⟩ | ⟨_,size,_⟩
      · omega
      · exact UInt16.toNat_inj.mp size.symm
    intro j member
    rcases List.mem_cons.mp member with rfl | tail
    · exact ⟨field,found,none,acceptsEmpty_of_decode made⟩
    · exact still (by omega) j tail

/-- A data record takes bytes unless its template reads nothing. -/
theorem decodeDatarecord_progress {buflen bytes : Nat} {record : IpfixDataRecord}
    (decoded : decodeDatarecord encodeNetwork readable templ pos buflen = .ok (record,bytes)) :
    0 < bytes ∨ templ.ReadsNothing := by
  unfold decodeDatarecord at decoded
  obtain ⟨read,fields,decoded⟩ := bind_eq_ok.mp decoded
  cases decoded
  obtain ⟨_,still⟩ := nread_of_decodeFields fields
  rcases Nat.eq_zero_or_pos read.nread with none | some
  · refine .inr fun i inside => (templ.readsNothing_at i).mpr ?_
    exact still none i (List.mem_range.mpr inside)
  · exact .inl some

theorem decodeDatarecord_empty (encodeNetwork : Bool) (readable : Bytes) (nothing : templ.ReadsNothing) (pos buflen : Nat) :
    ∃ record, decodeDatarecord encodeNetwork readable templ pos buflen = .ok (record,0) := by
  have fields (list : List Nat) (inside : ∀ i ∈ list, i < templ.getNumfields) : ∀ record, ∃ final,
      list.foldlM (decodeField encodeNetwork readable templ pos) ⟨0,buflen,record⟩ = .ok ⟨0,buflen,final⟩ := by
    induction list with
    | nil => exact fun record => ⟨record,rfl⟩
    | cons i rest ih =>
      intro record
      obtain ⟨field,found,none,accepts⟩ := (templ.readsNothing_at i).mp (nothing i (inside i (List.mem_cons_self ..)))
      obtain ⟨next,first⟩ := decodeField_empty encodeNetwork readable pos ⟨0,buflen,record⟩ found none accepts
      obtain ⟨final,others⟩ := ih (fun j member => inside j (List.mem_cons_of_mem i member)) next
      refine ⟨final,?_⟩
      rw [List.foldlM_cons,first]
      exact others
  obtain ⟨final,read⟩ := fields (List.range templ.getNumfields) (fun i member => List.mem_range.mp member) (.new templ.tid)
  refine ⟨final,?_⟩
  unfold decodeDatarecord
  rw [read]
  rfl

end

namespace ImportState

/-- The loop over the data records has bytes left that its template does not read. -/
def Starved (s : ImportState) : Prop :=
  match s.point with
  | .records templ _ bytesleft => 0 < bytesleft ∧ templ.ReadsNothing
  | _ => False

instance : (s : ImportState) → Decidable s.Starved
  | ⟨_,_,_,_,_,.sets⟩ => inferInstanceAs (Decidable False)
  | ⟨_,_,_,_,_,.templates _ _⟩ => inferInstanceAs (Decidable False)
  | ⟨_,_,_,_,_,.records templ _ bytesleft⟩ => inferInstanceAs (Decidable (0 < bytesleft ∧ templ.ReadsNothing))

/-- The bytes behind the current set count twice, those of the set once. -/
def remaining (input : ImportInput) (s : ImportState) : Nat :=
  match s.point with
  | .sets => 2 * (input.messageLength - s.nread)
  | .templates _ bytesleft | .records _ _ bytesleft =>
    2 * (input.messageLength - (s.nread + s.setlen.toNat)) + bytesleft + 1

theorem remaining_falls {input : ImportInput} {s next : ImportState} (within : s.Within input)
    (stepped : Stepped input s next) : next.remaining input < s.remaining input ∨ s.Starved := by
  have place := within.place
  unfold remaining
  cases stepped with
  | tooShort setid setlen atSets room =>
    left
    simp only [atSets]
    omega
  | opened setid setlen point atSets inside kind =>
    left
    rcases kind with rfl | ⟨templ,rfl⟩
    · simp only [atSets]
      omega
    · simp only [atSets]
      omega
  | skipped setid setlen atSets inside =>
    left
    simp only [atSets]
    omega
  | trecord offset bytesleft m bytes atTemplates more decoded =>
    left
    obtain ⟨t,live,_,_⟩ := within.fresh
    obtain ⟨small,_⟩ := decodeTrecord_ok live decoded
    simp only [atTemplates]
    omega
  | record templ offset bytesleft record bytes atRecords more decoded =>
    rcases decodeDatarecord_progress decoded with some | nothing
    · left
      simp only [atRecords]
      omega
    · right
      unfold Starved
      rw [atRecords]
      exact ⟨more,nothing⟩
  | closed inSet =>
    left
    cases point : s.point with
    | sets =>
      rw [point] at place
      contradiction
    | templates offset bytesleft =>
      simp only [point] at place ⊢
      omega
    | records templ offset bytesleft =>
      simp only [point] at place ⊢
      omega

theorem starved_stays {input : ImportInput} (s : ImportState) (starved : s.Starved) :
    ∃ next, machine input s = .inl next ∧ next.Starved := by
  rcases s with ⟨m,i,nread,setid,setlen,point⟩
  cases point with
  | sets => exact starved.elim
  | templates offset bytesleft => exact starved.elim
  | records templ offset bytesleft =>
    obtain ⟨more,nothing⟩ := starved
    obtain ⟨record,decoded⟩ := decodeDatarecord_empty m.encodeNetwork (input.readable (nread + setlen.toNat)) nothing
      offset bytesleft
    refine ⟨⟨{m with dataList := m.dataList ++ [record]},i,nread,setid,setlen,.records templ offset bytesleft⟩,?_,more,nothing⟩
    apply machine_inl.mpr
    unfold step
    dsimp only
    rw [if_pos more,decoded]
    rfl

theorem within_machine {input : ImportInput} (s next : ImportState) (within : s.Within input)
    (taken : machine input s = .inl next) :
    next.Within input ∧ (next.remaining input < s.remaining input ∨ s.Starved) := by
  have stepped := stepped_of_step (machine_inl.mp taken)
  exact ⟨within_step within stepped,remaining_falls within stepped⟩

theorem terminates_iff {input : ImportInput} {s : ImportState} (within : s.Within input) :
    Machine.Terminates (machine input) s ↔ ∀ reached, Machine.Reaches (machine input) s reached → ¬ reached.Starved :=
  Machine.terminates_iff (Within input) Starved (remaining input) within_machine starved_stays within

end ImportState

/-- The bounded run has a result when the code returns, throws or goes wrong. -/
theorem import_eq_none {input : ImportInput} {m : MnslpIpfixMessage} : mnslpIpfixImport input m = none ↔
    ∃ s, importStart input m = .ok s ∧ ¬ Machine.Terminates (ImportState.machine input) s := by
  unfold mnslpIpfixImport
  split
  · rename_i stop failed
    simp [failed]
  · rename_i s started
    have within := within_start started
    constructor
    · intro unfinished
      refine ⟨s,started,fun ends => ?_⟩
      have free := (ImportState.terminates_iff within).mp ends
      obtain ⟨result,ended⟩ := Machine.run_of_measure (ImportState.Within input) ImportState.Starved
        (ImportState.remaining input) ImportState.within_machine within free
      have enough : s.remaining input ≤ 2 * input.messageLength := by
        unfold ImportState.remaining
        rw [importStart_point started]
        dsimp only
        omega
      have longer := Machine.run_more ended (2 * input.messageLength - s.remaining input)
      have steps : s.remaining input + 1 + (2 * input.messageLength - s.remaining input) = importSteps input := by
        unfold importSteps
        omega
      rw [steps,unfinished] at longer
      cases longer
    · rintro ⟨other,same,endless⟩
      rw [started] at same
      cases same
      exact Option.eq_none_iff_forall_not_mem.mpr fun result ended => endless ⟨_,result,ended⟩

private def starving : ImportInput where
  buffer := [0,10,0,33,0,0,0,0,0,0,0,0,0,0,0,0] ++ [0,2,0,12,1,0,0,1,0,1,0,0] ++ [1,0,0,5,7]

/-- A template with one field of length 0 and a data set of one byte. -/
theorem import_reads_for_ever : ¬ ∀ (input : ImportInput) (m : MnslpIpfixMessage) (s : ImportState),
    importStart input m = .ok s → Machine.Terminates (ImportState.machine input) s := by
  intro ends
  have starved : ((importStart starving ⟨.null,0,0,[],true,true⟩).toOption.bind
      (Machine.after (ImportState.machine starving) 4)).any (fun s => decide s.Starved) = true := by decide +kernel
  obtain ⟨reached,ran,starved⟩ := (Option.any_eq_true _ _).mp starved
  obtain ⟨s,started,ran⟩ := Option.bind_eq_some_iff.mp ran
  have start : importStart starving ⟨.null,0,0,[],true,true⟩ = .ok s := by
    cases result : importStart starving ⟨.null,0,0,[],true,true⟩ with
    | error stop =>
      rw [result] at started
      cases started
    | ok other =>
      rw [result] at started
      cases started
      rfl
  have starved := of_decide_eq_true starved
  exact Machine.not_terminates ImportState.Starved ImportState.starved_stays (.of_after ran) starved (ends starving _ s start)

/-- The import ends exactly if no data set with a byte in it belongs, when it is read, to a
template all of whose fields have length 0 and accept that. -/
theorem import_terminates_iff (input : ImportInput) (m : MnslpIpfixMessage) :
    (∀ s, importStart input m = .ok s → Machine.Terminates (ImportState.machine input) s) ↔
      ∀ s reached, importStart input m = .ok s → Machine.Reaches (ImportState.machine input) s reached →
        ¬ reached.Starved := by
  constructor
  · intro ends s reached started reaches
    exact (ImportState.terminates_iff (within_start started)).mp (ends s started) reached reaches
  · intro free s started
    exact (ImportState.terminates_iff (within_start started)).mpr fun reached reaches => free s reached started reaches

end Mnslp.Msg
