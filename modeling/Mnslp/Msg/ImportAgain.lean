import Mnslp.Msg.ImportStep
import Mnslp.Msg.MnslpCodec

/-! Importing the same bytes again. The clock and what the variables held before leave no
trace in a message that the comparison of messages looks at. -/
namespace Mnslp.Msg
open Mnslp.Lib Call

namespace MnslpIpfixMessage

/-- The message as another clock would have made it. -/
def remade (m : MnslpIpfixMessage) (gTstart : Nat) : MnslpIpfixMessage := {m with gTstart := gTstart}

/-- Everything the comparison looks at is the same. -/
def Twin (m other : MnslpIpfixMessage) : Prop :=
  ∃ t csTid csBytes csOffset csHeader, m.message = .live t ∧
    other.message = .live {t with csTid := csTid, csBytes := csBytes, csOffset := csOffset, csHeader := csHeader} ∧
    other.dataList = m.dataList

theorem Twin.isEqual {m other : MnslpIpfixMessage} (twin : m.Twin other) : m.isEqual other = .ok true := by
  obtain ⟨t,csTid,csBytes,csOffset,csHeader,live,again,records⟩ := twin
  have same : IpfixT.equals
      {t with csTid := csTid, csBytes := csBytes, csOffset := csOffset, csHeader := csHeader} t = .ok true := by
    simp [IpfixT.equals,IpfixT.offset]
  unfold MnslpIpfixMessage.isEqual
  simp only [live,again,liveMessage,ok_bind,same,records,equalRecords_self]
  rfl

end MnslpIpfixMessage

theorem readTrecordHeader_network (leftover other : Leftover) (buffer : Bytes) (setid : UInt16) (pos len : Nat) :
    readTrecordHeader leftover .network buffer setid pos len = readTrecordHeader other .network buffer setid pos len :=
  rfl

theorem live_of_decodeTrecord {leftover : Leftover} {buffer : Bytes} {m next : MnslpIpfixMessage} {setid : UInt16}
    {pos len bytes : Nat} (decoded : decodeTrecord leftover buffer m setid pos len = .ok (next,bytes)) :
    ∃ t, m.message = .live t := by
  obtain ⟨_,_,decoded⟩ := bind_eq_ok.mp decoded
  obtain ⟨t,live,_⟩ := bind_eq_ok.mp decoded
  unfold MnslpIpfixMessage.liveMessage at live
  split at live
  · cases live
  · cases live
  · rename_i found
    exact ⟨_,found⟩

theorem decodeTrecord_again {leftover : Leftover} (other : Leftover) {buffer : Bytes} {m next : MnslpIpfixMessage}
    (gTstart : Nat) {setid : UInt16} {pos len bytes : Nat} (network : m.encodeNetwork = true)
    (decoded : decodeTrecord leftover buffer m setid pos len = .ok (next,bytes)) :
    decodeTrecord other buffer (m.remade gTstart) setid pos len = .ok (next.remade gTstart,bytes) := by
  obtain ⟨t,live⟩ := live_of_decodeTrecord decoded
  obtain ⟨header,read,some⟩ := header_of_decodeTrecord live decoded
  have order : headerOrder m.encodeNetwork = .network := by rw [network]; rfl
  have again : readTrecordHeader other (headerOrder (m.remade gTstart).encodeNetwork) buffer setid pos len = .ok header := by
    change readTrecordHeader other (headerOrder m.encodeNetwork) buffer setid pos len = .ok header
    rw [order] at read ⊢
    rwa [readTrecordHeader_network other leftover]
  have found : (m.remade gTstart).message = .live t := live
  rw [decodeTrecord_eq live read some] at decoded
  obtain ⟨templ,created,decoded⟩ := bind_eq_ok.mp decoded
  obtain ⟨⟨filled,nread⟩,fields,decoded⟩ := bind_eq_ok.mp decoded
  cases decoded
  rw [decodeTrecord_eq found again some]
  dsimp only [MnslpIpfixMessage.remade]
  rw [created,ok_bind,fields,ok_bind]
  rfl

namespace ImportState

/-- The state of another import of the same bytes. Outside of a set the numbers of the last
set header may differ, as there may have been none. -/
def Alike (s other : ImportState) : Prop :=
  s.m.encodeNetwork = true ∧ ∃ gTstart setid setlen,
    other = {s with m := s.m.remade gTstart, setid := setid, setlen := setlen} ∧
      (s.point = .sets ∨ (setid = s.setid ∧ setlen = s.setlen))

section
variable {input : ImportInput} (now : Nat) (leftover : Leftover) {s other : ImportState}

theorem closeSet_again {next : ImportState} (gTstart : Nat) (closed : s.closeSet = .ok next)
    (network : s.m.encodeNetwork = true) :
    ∃ again, closeSet {s with m := s.m.remade gTstart} = .ok again ∧ next.Alike again := by
  obtain ⟨nread,added,closed⟩ := bind_eq_ok.mp closed
  cases closed
  refine ⟨{s with m := s.m.remade gTstart, nread := nread, i := s.i + 1, point := .sets},?_,network,gTstart,_,_,rfl,
    .inl rfl⟩
  unfold closeSet
  dsimp only
  rw [added]
  rfl

theorem finish_again {imported : Imported} (gTstart : Nat) (setid setlen : UInt16)
    (finished : s.finish input = .ok imported) : ∃ again,
      finish {input with now := now, leftover := leftover}
        {s with m := s.m.remade gTstart, setid := setid, setlen := setlen} = .ok again ∧
      again.2 = imported.2 ∧ imported.1.Twin again.1 := by
  unfold finish at finished ⊢
  obtain ⟨t,live,finished⟩ := bind_eq_ok.mp finished
  obtain ⟨copied,fits,finished⟩ := bind_eq_ok.mp finished
  have found : (s.m.remade gTstart).liveMessage = .ok t := live
  cases finished
  dsimp only
  rw [found,ok_bind,fits,ok_bind]
  refine ⟨_,rfl,rfl,?_⟩
  split
  · split
    · exact ⟨_,_,_,_,_,rfl,rfl,rfl⟩
    · exact ⟨_,_,_,_,_,rfl,rfl,rfl⟩
  · split
    · exact ⟨_,_,_,_,_,rfl,rfl,rfl⟩
    · exact ⟨_,_,_,_,_,rfl,rfl,rfl⟩

/-- What a step comes to, again. -/
inductive Again : ImportState ⊕ Imported → ImportState ⊕ Imported → Prop
  | next {s other : ImportState} (alike : s.Alike other) : Again (.inl s) (.inl other)
  | imported {m other : MnslpIpfixMessage} {nread : Nat} (twin : m.Twin other) :
      Again (.inr (m,nread)) (.inr (other,nread))

theorem imported_again {outcome : ImportState ⊕ Imported} (gTstart : Nat) (setid setlen : UInt16)
    (ended : (do return .inr (← s.finish input)) = (.ok outcome : Call (ImportState ⊕ Imported))) : ∃ again,
      (do return .inr (← finish {input with now := now, leftover := leftover}
        {s with m := s.m.remade gTstart, setid := setid, setlen := setlen})) =
          (.ok again : Call (ImportState ⊕ Imported)) ∧ Again outcome again := by
  obtain ⟨⟨m,count⟩,finished,same⟩ := bind_eq_ok.mp ended
  obtain ⟨⟨other,again⟩,repeated,counted,twin⟩ := finish_again now leftover gTstart setid setlen finished
  dsimp only at counted
  subst counted
  cases same
  exact ⟨.inr (other,again),bind_eq_ok.mpr ⟨_,repeated,rfl⟩,.imported twin⟩

theorem closed_again {outcome : ImportState ⊕ Imported} (gTstart : Nat) (network : s.m.encodeNetwork = true)
    (ended : (do return .inl (← s.closeSet)) = (.ok outcome : Call (ImportState ⊕ Imported))) : ∃ again,
      (do return .inl (← closeSet {s with m := s.m.remade gTstart})) = (.ok again : Call (ImportState ⊕ Imported)) ∧
      Again outcome again := by
  obtain ⟨closed,added,same⟩ := bind_eq_ok.mp ended
  obtain ⟨again,repeated,alike⟩ := closeSet_again gTstart added network
  cases same
  exact ⟨.inl again,bind_eq_ok.mpr ⟨again,repeated,rfl⟩,.next alike⟩

theorem readSet_again {t : IpfixT} {nread : Nat} {setid setlen : UInt16} {outcome : ImportState ⊕ Imported}
    (gTstart : Nat) (before beforelen : UInt16) (network : s.m.encodeNetwork = true) (atSets : s.point = .sets)
    (read : s.readSet input t nread setid setlen = .ok outcome) : ∃ again,
      readSet {input with now := now, leftover := leftover}
        {s with m := s.m.remade gTstart, setid := before, setlen := beforelen} t nread setid setlen = .ok again ∧
      Again outcome again := by
  unfold readSet at read ⊢
  have size : ({input with now := now, leftover := leftover} : ImportInput).messageLength = input.messageLength := rfl
  dsimp only at read ⊢
  rw [size]
  split at read
  · rename_i short
    cases read
    rw [if_pos short]
    exact ⟨_,rfl,.next ⟨network,gTstart,_,_,rfl,.inl atSets⟩⟩
  · rename_i long
    rw [if_neg long]
    split at read
    · rename_i beyond
      rw [if_pos beyond]
      exact imported_again now leftover gTstart setid (setlen - 4) read
    · rename_i inside
      rw [if_neg inside]
      split at read
      · rename_i isTemplates
        cases read
        rw [if_pos isTemplates]
        exact ⟨_,rfl,.next ⟨network,gTstart,_,_,rfl,.inr ⟨rfl,rfl⟩⟩⟩
      · rename_i notTemplates
        rw [if_neg notTemplates]
        split at read
        · rename_i isData
          obtain ⟨templ,found,read⟩ := bind_eq_ok.mp read
          cases read
          rw [if_pos isData,found]
          exact ⟨_,rfl,.next ⟨network,gTstart,_,_,rfl,.inr ⟨rfl,rfl⟩⟩⟩
        · rename_i skipped
          rw [if_neg skipped]
          exact closed_again (s := {s with setid := setid, setlen := setlen - 4, nread := nread}) gTstart network read

theorem openSet_again {outcome : ImportState ⊕ Imported} (gTstart : Nat) (before beforelen : UInt16)
    (network : s.m.encodeNetwork = true) (atSets : s.point = .sets) (opened : s.openSet input = .ok outcome) :
    ∃ again, openSet {input with now := now, leftover := leftover}
        {s with m := s.m.remade gTstart, setid := before, setlen := beforelen} = .ok again ∧ Again outcome again := by
  unfold openSet at opened ⊢
  have size : ({input with now := now, leftover := leftover} : ImportInput).messageLength = input.messageLength := rfl
  have order : headerOrder (s.m.remade gTstart).encodeNetwork = headerOrder s.m.encodeNetwork := rfl
  obtain ⟨nread,added,opened⟩ := bind_eq_ok.mp opened
  obtain ⟨t,live,opened⟩ := bind_eq_ok.mp opened
  have found : (s.m.remade gTstart).liveMessage = .ok t := live
  dsimp only at opened ⊢
  rw [added,ok_bind,found,ok_bind,size,order]
  split at opened
  · rename_i beyond
    rw [if_pos beyond]
    exact imported_again now leftover gTstart before beforelen opened
  · rename_i room
    rw [if_neg room]
    split at opened
    · rename_i counted
      rw [if_pos counted]
      exact imported_again now leftover gTstart before beforelen opened
    · rename_i more
      obtain ⟨setid,first,opened⟩ := bind_eq_ok.mp opened
      obtain ⟨setlen,second,opened⟩ := bind_eq_ok.mp opened
      rw [if_neg more,first,ok_bind,second,ok_bind]
      exact readSet_again now leftover gTstart before beforelen network atSets opened

theorem step_again {outcome : ImportState ⊕ Imported} (alike : s.Alike other) (taken : s.step input = .ok outcome) :
    ∃ again, other.step {input with now := now, leftover := leftover} = .ok again ∧ Again outcome again := by
  obtain ⟨network,gTstart,setid,setlen,rfl,same⟩ := alike
  obtain ⟨m,i,nread,oldid,oldlen,point⟩ := s
  unfold step at taken ⊢
  cases point with
  | sets => exact openSet_again now leftover gTstart setid setlen network rfl taken
  | templates offset bytesleft =>
    obtain ⟨rfl,rfl⟩ := same.resolve_left nofun
    dsimp only at taken ⊢
    split at taken
    · rename_i more
      obtain ⟨⟨next,bytes⟩,decoded,taken⟩ := bind_eq_ok.mp taken
      have repeated := decodeTrecord_again leftover gTstart network decoded
      have still : next.encodeNetwork = true := by
        obtain ⟨t,live⟩ := live_of_decodeTrecord decoded
        obtain ⟨_,_,_,rfl⟩ := decodeTrecord_ok live decoded
        exact network
      cases taken
      rw [if_pos more,repeated]
      exact ⟨_,rfl,.next ⟨still,gTstart,_,_,rfl,.inr ⟨rfl,rfl⟩⟩⟩
    · rename_i done
      rw [if_neg done]
      exact closed_again gTstart network taken
  | records templ offset bytesleft =>
    obtain ⟨rfl,rfl⟩ := same.resolve_left nofun
    dsimp only at taken ⊢
    split at taken
    · rename_i more
      obtain ⟨⟨record,bytes⟩,decoded,taken⟩ := bind_eq_ok.mp taken
      cases taken
      refine ⟨_,?_,.next ⟨network,gTstart,_,_,rfl,.inr ⟨rfl,rfl⟩⟩⟩
      rw [if_pos more]
      exact bind_eq_ok.mpr ⟨_,decoded,rfl⟩
    · rename_i done
      rw [if_neg done]
      exact closed_again gTstart network taken

end
end ImportState

section
variable {input : ImportInput} (now : Nat) (leftover : Leftover) {m : MnslpIpfixMessage}

theorem parseHdr_again {next : MnslpIpfixMessage} (gTstart : Nat) (parsed : parseHdr input m = .ok next) :
    parseHdr {input with now := now, leftover := leftover} (m.remade gTstart) = .ok (next.remade now) := by
  unfold parseHdr at parsed ⊢
  have size : ({input with now := now, leftover := leftover} : ImportInput).messageLength = input.messageLength := rfl
  have order : headerOrder (m.remade gTstart).encodeNetwork = headerOrder m.encodeNetwork := rfl
  obtain ⟨version,read,parsed⟩ := bind_eq_ok.mp parsed
  dsimp only at parsed ⊢
  rw [size,order,read,ok_bind]
  split at parsed
  · rename_i isNf9
    rw [if_pos isNf9]
    split at parsed
    · cases parsed
    · rename_i long
      obtain ⟨count,first,parsed⟩ := bind_eq_ok.mp parsed
      obtain ⟨sysuptime,second,parsed⟩ := bind_eq_ok.mp parsed
      obtain ⟨unixtime,third,parsed⟩ := bind_eq_ok.mp parsed
      obtain ⟨seqno,fourth,parsed⟩ := bind_eq_ok.mp parsed
      obtain ⟨sourceid,fifth,parsed⟩ := bind_eq_ok.mp parsed
      cases parsed
      rw [if_neg long,first,ok_bind,second,ok_bind,third,ok_bind,fourth,ok_bind,fifth,ok_bind]
      rfl
  · rename_i notNf9
    rw [if_neg notNf9]
    split at parsed
    · rename_i isIpfix
      rw [if_pos isIpfix]
      split at parsed
      · cases parsed
      · rename_i long
        obtain ⟨length,first,parsed⟩ := bind_eq_ok.mp parsed
        obtain ⟨exporttime,second,parsed⟩ := bind_eq_ok.mp parsed
        obtain ⟨seqno,third,parsed⟩ := bind_eq_ok.mp parsed
        obtain ⟨sourceid,fourth,parsed⟩ := bind_eq_ok.mp parsed
        cases parsed
        rw [if_neg long,first,ok_bind,second,ok_bind,third,ok_bind,fourth,ok_bind]
        rfl
    · obtain ⟨_,_,parsed⟩ := bind_eq_ok.mp parsed
      cases parsed

theorem importStart_again {s : ImportState} (gTstart : Nat) (network : m.encodeNetwork = true)
    (started : importStart input m = .ok s) : ∃ again,
      importStart {input with now := now, leftover := leftover} (m.remade gTstart) = .ok again ∧ s.Alike again := by
  unfold importStart at started ⊢
  have size : ({input with now := now, leftover := leftover} : ImportInput).messageLength = input.messageLength := rfl
  rw [size]
  split at started
  · cases started
  · rename_i long
    obtain ⟨parsed,header,started⟩ := bind_eq_ok.mp started
    obtain ⟨t,live,started⟩ := bind_eq_ok.mp started
    obtain ⟨_,_,_,mode,_⟩ := parseHdr_ok header
    have found : (parsed.remade now).liveMessage = .ok t := live
    rw [if_neg long,parseHdr_again now leftover gTstart header,ok_bind,found,ok_bind]
    dsimp only at started ⊢
    split at started
    · rename_i isNf9
      cases started
      rw [if_pos isNf9]
      exact ⟨_,rfl,mode.trans network,now,_,_,rfl,.inl rfl⟩
    · rename_i notNf9
      rw [if_neg notNf9]
      split at started
      · rename_i isIpfix
        cases started
        rw [if_pos isIpfix]
        exact ⟨_,rfl,mode.trans network,now,_,_,rfl,.inl rfl⟩
      · cases started

end

/-- The loops of another import go through states alike. -/
theorem run_again {input : ImportInput} (now : Nat) (leftover : Leftover) {s other : ImportState}
    {m : MnslpIpfixMessage} {fuel nread : Nat} (alike : s.Alike other)
    (ended : Machine.run (ImportState.machine input) fuel s = some (.ok (m,nread))) : ∃ again,
      Machine.run (ImportState.machine {input with now := now, leftover := leftover}) fuel other =
        some (.ok (again,nread)) ∧ m.Twin again := by
  obtain ⟨result,repeated,again,rfl,twin⟩ := Machine.run_simulates ImportState.Alike
    (fun result : Call Imported => ∃ again, result = .ok (again,nread) ∧ m.Twin again) (fun s s' next alike taken => by
      obtain ⟨outcome,repeated,same⟩ := ImportState.step_again now leftover alike (ImportState.machine_inl.mp taken)
      cases same with
      | next alike => exact ⟨_,ImportState.machine_inl.mpr repeated,alike⟩)
    (fun s s' alike taken => by
      obtain ⟨outcome,repeated,same⟩ := ImportState.step_again now leftover alike (ImportState.machine_inr.mp taken)
      cases same with
      | imported twin => exact ⟨.ok (_,nread),ImportState.machine_inr.mpr repeated,_,rfl,twin⟩) alike ended
  exact ⟨again,repeated,twin⟩

/-- The same bytes make a twin of the message at any other time. -/
theorem importBody_again {env : ImportEnv} (other : ImportEnv) {body : Bytes} {m : MnslpIpfixMessage} {nread : Nat}
    (imported : importBody env body = .ok (m,nread)) :
    ∃ again, importBody other body = .ok (again,nread) ∧ m.Twin again := by
  unfold importBody mnslpIpfixImport at imported ⊢
  cases started : importStart {buffer := body, now := env.now, leftover := env.leftover} (closedIpfixMessage env.now) with
  | error stop =>
    rw [started] at imported
    cases imported
  | ok s =>
    rw [started] at imported
    obtain ⟨start,restarted,alike⟩ := importStart_again other.now other.leftover other.now rfl started
    have same : (closedIpfixMessage env.now).remade other.now = closedIpfixMessage other.now := rfl
    rw [same] at restarted
    dsimp only at imported restarted ⊢
    rw [restarted]
    dsimp only
    split at imported
    · rename_i result ended
      subst imported
      obtain ⟨again,repeated,twin⟩ := run_again other.now other.leftover alike ended
      have same : Machine.run (ImportState.machine {buffer := body, now := other.now, leftover := other.leftover})
          (importSteps {buffer := body, now := other.now, leftover := other.leftover}) start =
            some (.ok (again,nread)) := repeated
      exact ⟨again,by rw [same],twin⟩
    · cases imported

namespace ImportState

theorem least_step {input : ImportInput} {s next : ImportState} {least : Nat} (long : least ≤ s.nread)
    (stepped : Stepped input s next) : least ≤ next.nread := by
  cases stepped with
  | tooShort | skipped | closed | opened =>
    dsimp only
    omega
  | trecord | record => exact long

theorem finish_ok {input : ImportInput} {s : ImportState} {m : MnslpIpfixMessage} {nread : Nat}
    (within : s.Within input) (finished : s.finish input = .ok (m,nread)) :
    nread = s.nread ∧ m.getMessage = some (input.buffer.take nread) ∧ min nread input.messageLength ≤ ipfixDefaultBuflen := by
  obtain ⟨t,live,empty,size⟩ := within.fresh
  unfold finish at finished
  rw [MnslpIpfixMessage.liveMessage_eq_ok live,ok_bind,copyRawMessage_new empty size] at finished
  obtain ⟨copied,fits,finished⟩ := bind_eq_ok.mp finished
  split at fits
  · cases fits
  · rename_i short
    cases fits
    cases finished
    refine ⟨rfl,?_,?_⟩
    · by_cases data : s.setid > 255 <;> simp [MnslpIpfixMessage.getMessage,data]
    · rw [List.length_take] at short
      exact Nat.le_of_not_lt short

/-- The code from the label `end` on is run between two sets, or behind the header of one
that is too long. -/
theorem step_inr {input : ImportInput} {s : ImportState} {imported : Imported} (within : s.Within input)
    (taken : s.step input = .ok (.inr imported)) : ∃ final : ImportState, final.Within input ∧
      s.nread ≤ final.nread ∧ final.nread ≤ input.messageLength ∧ final.finish input = .ok imported := by
  have ended {final : ImportState}
      (finished : (do return .inr (← final.finish input)) = (.ok (.inr imported) : Call (ImportState ⊕ Imported))) :
      final.finish input = .ok imported := by
    obtain ⟨_,finished,same⟩ := bind_eq_ok.mp finished
    cases same
    exact finished
  have place := within.place
  unfold step at taken
  split at taken
  · rename_i atSets
    rw [atSets] at place
    unfold openSet at taken
    obtain ⟨nread,added,taken⟩ := bind_eq_ok.mp taken
    cases addInt_eq_ok added
    obtain ⟨t,_,taken⟩ := bind_eq_ok.mp taken
    split at taken
    · exact ⟨s,within,Nat.le_refl _,place,ended taken⟩
    · rename_i room
      split at taken
      · exact ⟨s,within,Nat.le_refl _,place,ended taken⟩
      · obtain ⟨setid,_,taken⟩ := bind_eq_ok.mp taken
        obtain ⟨setlen,_,taken⟩ := bind_eq_ok.mp taken
        unfold readSet at taken
        dsimp only at taken
        split at taken
        · cases taken
        · split at taken
          · refine ⟨{s with setid := UInt16.ofNat setid, setlen := UInt16.ofNat setlen - 4, nread := s.nread + 4},
              ⟨within.fresh,?_⟩,Nat.le_add_right _ _,Nat.le_of_not_le room,ended taken⟩
            simp only [atSets]
            omega
          · split at taken
            · cases taken
            · split at taken
              · obtain ⟨_,_,taken⟩ := bind_eq_ok.mp taken
                cases taken
              · obtain ⟨_,_,taken⟩ := bind_eq_ok.mp taken
                cases taken
  · split at taken
    · obtain ⟨_,_,taken⟩ := bind_eq_ok.mp taken
      cases taken
    · obtain ⟨_,_,taken⟩ := bind_eq_ok.mp taken
      cases taken
  · split at taken
    · obtain ⟨_,_,taken⟩ := bind_eq_ok.mp taken
      cases taken
    · obtain ⟨_,_,taken⟩ := bind_eq_ok.mp taken
      cases taken

end ImportState

theorem importStart_nread {input : ImportInput} {m : MnslpIpfixMessage} {s : ImportState}
    (started : importStart input m = .ok s) : 16 ≤ s.nread := by
  unfold importStart at started
  split at started
  · cases started
  · obtain ⟨parsed,_,started⟩ := bind_eq_ok.mp started
    obtain ⟨t,_,started⟩ := bind_eq_ok.mp started
    dsimp only at started
    split at started
    · cases started
      exact Nat.le_add_left _ _
    · split at started
      · cases started
        exact Nat.le_refl _
      · cases started

/-- An imported message consists of the bytes that were read. -/
theorem importBody_ok {env : ImportEnv} {body : Bytes} {m : MnslpIpfixMessage} {nread : Nat}
    (imported : importBody env body = .ok (m,nread)) :
    m.getMessage = some (body.take nread) ∧ 0 < nread ∧ nread ≤ body.length ∧ nread ≤ ipfixDefaultBuflen := by
  unfold importBody mnslpIpfixImport at imported
  split at imported
  · rename_i result ended
    subst imported
    split at ended
    · cases ended
    · rename_i start started
      have within := within_start started
      have long := importStart_nread started
      obtain ⟨s,reaches,last⟩ := Machine.reaches_of_run ended
      obtain ⟨within,long⟩ := reaches.invariant
        (fun s => s.Within {buffer := body, now := env.now, leftover := env.leftover} ∧ 16 ≤ s.nread)
        (fun s next ⟨within,long⟩ taken => by
          have stepped := ImportState.stepped_of_step (ImportState.machine_inl.mp taken)
          exact ⟨ImportState.within_step within stepped,ImportState.least_step long stepped⟩) ⟨within,long⟩
      obtain ⟨final,within,later,inside,finished⟩ := ImportState.step_inr within (ImportState.machine_inr.mp last)
      obtain ⟨rfl,message,small⟩ := ImportState.finish_ok within finished
      have size : final.nread ≤ body.length := inside
      refine ⟨message,by omega,size,?_⟩
      rwa [Nat.min_eq_left inside] at small
  · cases imported

end Mnslp.Msg
