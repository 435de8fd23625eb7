import Mnslp.Msg.MnslpCodec

/-! Which payloads are parsed in an orderly way: to a message, or to NULL with an entry in
the error list. The reader of an object takes for granted that the body it looks at is as
long as its class needs, and that an IPFIX message can be imported. -/
namespace Mnslp.Msg
open Mnslp.Lib Call

/-- A parse that fails says so. -/
def Parsed.Reported {α : Type} : Parsed α → Prop
  | .object _ => True
  | .null errors => errors ≠ []

/-- The body of an object can be read: a number has four bytes, and an IPFIX message is
imported, with nothing but zeros behind it. -/
def BodyFits (env : ParseEnv) (cls : ObjectClass) (body : NetMsg) (length : Nat) : Prop :=
  if cls = .mnslpIpfixMessage then
    let bytes := (body.buffer.drop body.pos).take length
    ∃ message nread, importBody (env body.pos) bytes = .ok (message,nread) ∧ (bytes.drop nread).all (· = 0) = true
  else 4 ≤ body.getBytesLeft

/-- So can the object at the position if its header names a registered class and it fits in. -/
def ObjectFits (env : ParseEnv) (msg : NetMsg) : Prop :=
  ∀ header body cls, msg.decode32 = .ok (header,body) → newObject (extractObjectType header) = some cls →
    (declaredLength header).toNat ≤ body.getBytesLeft → BodyFits env cls body (declaredLength header).toNat

/-- The same for every object that the loop of `mnslp_msg::deserialize` gets to. -/
def AllFit (env : ParseEnv) (payload : Bytes) : Prop :=
  ∀ start s, parseStart payload = .ok start → Machine.Reaches (ParseState.machine env) start s → ObjectFits env s.msg

/-- What `map_api_receive_message` takes for granted. -/
def TotalParse (env : ParseEnv) (payload : Bytes) : Prop :=
  (∃ parsed, deserialize env payload = .ok parsed ∧ parsed.Reported) ∧
    ∃ m, mapApiReceiveMessage env payload = .ok m

namespace NetMsg

theorem peek32_cases (msg : NetMsg) :
    (4 ≤ msg.getBytesLeft ∧ ∃ value, msg.peek32 = .ok value) ∨
      (msg.getBytesLeft < 4 ∧ msg.peek32 = Call.throw .netMsgError) := by
  unfold peek32 Bytes.slice getBytesLeft
  by_cases room : msg.pos + 4 ≤ msg.buffer.length
  · rw [if_pos room]
    exact .inl ⟨by omega,_,rfl⟩
  · rw [if_neg room]
    exact .inr ⟨by omega,rfl⟩

theorem decode32_cases (msg : NetMsg) :
    (4 ≤ msg.getBytesLeft ∧ ∃ value, msg.decode32 = .ok (value,{msg with pos := msg.pos + 4})) ∨
      (msg.getBytesLeft < 4 ∧ msg.decode32 = Call.throw .netMsgError) := by
  unfold decode32
  rcases msg.peek32_cases with ⟨room,value,read⟩ | ⟨short,threw⟩
  · exact .inl ⟨room,value,by rw [read]; rfl⟩
  · exact .inr ⟨short,by rw [threw]; rfl⟩

theorem decode32_ok {msg next : NetMsg} {value : UInt32} (read : msg.decode32 = .ok (value,next)) :
    4 ≤ msg.getBytesLeft ∧ next = {msg with pos := msg.pos + 4} := by
  rcases msg.decode32_cases with ⟨room,other,same⟩ | ⟨_,threw⟩
  · rw [same] at read
    cases read
    exact ⟨room,rfl⟩
  · rw [threw] at read
    cases read

end NetMsg

theorem objectType_fits (body : ObjectBody) : body.objectType &&& ~~~0xFFF = 0 := by
  cases body <;> simp only [ObjectBody.objectType] <;> decide

/-- What reading the body of an object with a number can come to. -/
inductive NumberRead (treatment : Treatment) (msg : NetMsg) : Call (Parsed (MnslpObject × NetMsg)) → Prop
  | object {obj : MnslpObject} (room : 4 ≤ msg.getBytesLeft) (treated : obj.treatment = treatment)
      (unique : obj.isUnique = true) (checked : obj.check = true) : NumberRead treatment msg (.ok (.object (obj,{msg with pos := msg.pos + 4})))
  | refused (room : 4 ≤ msg.getBytesLeft) : NumberRead treatment msg (.ok (.null [.pduSyntaxError]))
  | threw (short : msg.getBytesLeft < 4) : NumberRead treatment msg (Call.throw .netMsgError)

section
variable {env : ParseEnv} {msg : NetMsg} {cls : ObjectClass}

/-- The reader of a number takes four bytes, whatever the header says. -/
theorem numberRead_value {body : UInt32 → ObjectBody} (treatment : Treatment) (msg : NetMsg)
    (unique : ∀ value, MnslpObject.isUnique ⟨treatment,body value⟩ = true)
    (checked : ∀ value, MnslpObject.check ⟨treatment,body value⟩ = true) : NumberRead treatment msg (deserializeValue body treatment msg) := by
  unfold deserializeValue
  rcases msg.decode32_cases with ⟨room,value,read⟩ | ⟨short,threw⟩
  · rw [read,ok_bind]
    exact .object room rfl (unique value) (checked value)
  · rw [threw]
    exact .threw short

theorem numberRead_informationCode (treatment : Treatment) (msg : NetMsg) :
    NumberRead treatment msg (deserializeInformationCode treatment msg) := by
  unfold deserializeInformationCode
  rcases msg.decode32_cases with ⟨room,value,read⟩ | ⟨short,threw⟩
  · rw [read,ok_bind]
    dsimp only
    split
    · rename_i checked
      exact .object room rfl rfl checked
    · exact .refused room
  · rw [threw]
    exact .threw short

theorem numberRead_body (env : ParseEnv) (number : cls ≠ .mnslpIpfixMessage) (treatment : Treatment) (msg : NetMsg)
    (length : Nat) : NumberRead treatment msg (deserializeBody env cls treatment msg length) := by
  cases cls with
  | informationCode => exact numberRead_informationCode treatment msg
  | mnslpIpfixMessage => exact absurd rfl number
  | sessionLifetime | messageHopCount | selectionMeteringEntities | msgSequenceNumber =>
    exact numberRead_value treatment msg (fun _ => rfl) fun _ => decide_eq_true ⟨objectType_fits _,rfl⟩

theorem deserializeIpfixMessage_ok {env : ImportEnv} {treatment : Treatment} {length : Nat}
    {parsed : Parsed (MnslpObject × NetMsg)} (read : deserializeIpfixMessage env treatment msg length = .ok parsed) :
    ∃ message nread, importBody env ((msg.buffer.drop msg.pos).take length) = .ok (message,nread) ∧
      parsed = if (((msg.buffer.drop msg.pos).take length).drop nread).all (· = 0) = true then
        .object (⟨treatment,.ipfixMessage message⟩,{msg with pos := msg.pos + length}) else .null [] := by
  obtain ⟨⟨message,nread⟩,imported,read⟩ := bind_eq_ok.mp read
  refine ⟨message,nread,imported,?_⟩
  dsimp only at read
  split at read
  · rename_i zeros
    cases read
    rw [if_pos zeros]
  · rename_i other
    cases read
    rw [if_neg other]

theorem body_reported_iff (treatment : Treatment) (length : Nat) :
    (∃ parsed, deserializeBody env cls treatment msg length = .ok parsed ∧ parsed.Reported) ↔
      BodyFits env cls msg length := by
  unfold BodyFits
  by_cases number : cls = .mnslpIpfixMessage
  · rw [if_pos number,number]
    dsimp only
    constructor
    · rintro ⟨parsed,read,reported⟩
      obtain ⟨message,nread,imported,same⟩ := deserializeIpfixMessage_ok read
      refine ⟨message,nread,imported,?_⟩
      by_contra other
      rw [if_neg other] at same
      subst same
      exact reported rfl
    · rintro ⟨message,nread,imported,zeros⟩
      refine ⟨.object (⟨treatment,.ipfixMessage message⟩,{msg with pos := msg.pos + length}),?_,True.intro⟩
      rw [deserializeBody,deserializeIpfixMessage]
      dsimp only
      rw [imported,ok_bind]
      dsimp only
      rw [if_pos zeros]
      rfl
  · rw [if_neg number]
    generalize outcome : deserializeBody env cls treatment msg length = read
    have cases := numberRead_body env number treatment msg length
    rw [outcome] at cases
    cases cases with
    | object room => exact iff_of_true ⟨_,rfl,True.intro⟩ room
    | refused room => exact iff_of_true ⟨_,rfl,List.cons_ne_nil _ _⟩ room
    | threw short =>
      refine iff_of_false ?_ (Nat.not_le_of_lt short)
      rintro ⟨_,same,_⟩
      cases same

theorem object_reported_iff :
    (∃ parsed, deserializeObject env msg = .ok parsed ∧ parsed.Reported) ↔ ObjectFits env msg := by
  unfold deserializeObject ObjectFits
  rcases msg.decode32_cases with ⟨_,header,read⟩ | ⟨_,threw⟩
  · rw [read]
    generalize ({msg with pos := msg.pos + 4} : NetMsg) = body
    dsimp only
    cases found : newObject (extractObjectType header) with
    | none =>
      refine iff_of_true ⟨_,rfl,List.cons_ne_nil _ _⟩ fun other rest cls same known => ?_
      cases same
      rw [found] at known
      cases known
    | some cls =>
      dsimp only
      by_cases short : body.getBytesLeft < (declaredLength header).toNat
      · rw [if_pos short]
        refine iff_of_true ⟨_,rfl,List.cons_ne_nil _ _⟩ fun other rest cls same known fits => ?_
        cases same
        omega
      · rw [if_neg short,body_reported_iff]
        constructor
        · intro fits other rest cls' same known _
          cases same
          rw [found] at known
          cases known
          exact fits
        · intro all
          exact all header body cls rfl found (Nat.le_of_not_lt short)
  · rw [threw]
    refine iff_of_true ⟨_,rfl,List.cons_ne_nil _ _⟩ fun other rest cls same => ?_
    cases same

theorem deserializeObject_object {obj : MnslpObject} {next : NetMsg}
    (parsed : deserializeObject env msg = .ok (.object (obj,next))) :
    next.buffer = msg.buffer ∧ msg.pos + 4 ≤ next.pos := by
  unfold deserializeObject at parsed
  rcases msg.decode32_cases with ⟨_,header,read⟩ | ⟨_,threw⟩
  · rw [read] at parsed
    dsimp only at parsed
    split at parsed
    · cases parsed
    · rename_i cls _
      split at parsed
      · cases parsed
      · by_cases number : cls = .mnslpIpfixMessage
        · subst number
          obtain ⟨message,nread,_,same⟩ := deserializeIpfixMessage_ok parsed
          split at same
          · cases same
            exact ⟨rfl,Nat.le_add_right _ _⟩
          · cases same
        · have cases := numberRead_body env number (Treatment.ofBits (header >>> 30)) {msg with pos := msg.pos + 4}
            (declaredLength header).toNat
          rw [parsed] at cases
          cases cases
          exact ⟨rfl,Nat.le_add_right _ _⟩
  · rw [threw] at parsed
    cases parsed

end
namespace ParseState
variable {env : ParseEnv} {s next start : ParseState} {parsed : Parsed MnslpMsg}

theorem step_inl (taken : s.step env = .ok (.inl next)) :
    s.msg.getBytesLeft ≠ 0 ∧ ∃ obj, deserializeObject env s.msg = .ok (.object (obj,next.msg)) ∧
      ¬ (obj.isUnique = true ∧ (s.m.getObject (uniqueKey obj.objectType)).isSome = true) ∧
      next.m = s.m.setObject obj := by
  unfold step at taken
  split at taken
  · cases taken
  · rename_i more
    refine ⟨more,?_⟩
    obtain ⟨read,parsed,taken⟩ := bind_eq_ok.mp taken
    cases read with
    | null errors => cases taken
    | object read =>
      obtain ⟨obj,msg⟩ := read
      dsimp only at taken
      split at taken
      · cases taken
      · rename_i single
        cases taken
        exact ⟨obj,parsed,single,rfl⟩

/-- A round ends well exactly if the object it looks at fits. -/
theorem step_reported_iff : ((∃ next, s.step env = .ok (.inl next)) ∨
    ∃ parsed, s.step env = .ok (.inr parsed) ∧ parsed.Reported) ↔ ObjectFits env s.msg := by
  rw [← object_reported_iff]
  unfold step
  by_cases ended : s.msg.getBytesLeft = 0
  · rw [if_pos ended]
    constructor
    · intro _
      unfold deserializeObject
      rcases s.msg.decode32_cases with ⟨room,_⟩ | ⟨_,threw⟩
      · omega
      · rw [threw]
        exact ⟨_,rfl,List.cons_ne_nil _ _⟩
    · intro _
      refine .inr ⟨_,rfl,?_⟩
      split
      · exact List.cons_ne_nil _ _
      · exact True.intro
  · rw [if_neg ended]
    cases read : deserializeObject env s.msg with
    | error stop => simp
    | ok outcome =>
      rw [ok_bind]
      cases outcome with
      | null errors => simp [Parsed.Reported]
      | object both =>
        obtain ⟨obj,msg⟩ := both
        refine iff_of_true ?_ ⟨_,rfl,True.intro⟩
        dsimp only
        split
        · exact .inr ⟨_,rfl,List.cons_ne_nil _ _⟩
        · exact .inl ⟨_,rfl⟩

theorem machine_inl : machine env s = .inl next ↔ s.step env = .ok (.inl next) := by
  unfold machine
  rcases s.step env with stop | moved | ended <;> simp

theorem machine_ok (last : machine env s = .inr (.ok parsed)) : s.step env = .ok (.inr parsed) := by
  unfold machine at last
  rcases step : s.step env with stop | moved | ended
  · rw [step] at last
    cases last
  · rw [step] at last
    cases last
  · rw [step] at last
    cases last
    rfl

theorem machine_inr_reported (last : machine env s = .inr (.ok parsed)) (reported : parsed.Reported) :
    ObjectFits env s.msg := step_reported_iff.mp (.inr ⟨parsed,machine_ok last,reported⟩)

theorem machine_fits (fits : ObjectFits env s.msg) :
    (∃ next, machine env s = .inl next) ∨ ∃ parsed, machine env s = .inr (.ok parsed) ∧ parsed.Reported := by
  unfold machine
  rcases step_reported_iff.mpr fits with ⟨next,taken⟩ | ⟨parsed,ended,reported⟩
  · rw [taken]
    exact .inl ⟨next,rfl⟩
  · rw [ended]
    exact .inr ⟨parsed,rfl,reported⟩

theorem left_falls (taken : machine env s = .inl next) : next.msg.getBytesLeft < s.msg.getBytesLeft := by
  obtain ⟨more,obj,parsed,_⟩ := step_inl (machine_inl.mp taken)
  obtain ⟨same,further⟩ := deserializeObject_object parsed
  unfold NetMsg.getBytesLeft at more ⊢
  rw [same]
  omega

/-- The loop ends, with the result of the last of the states it gets to. -/
theorem finish_reaches (env : ParseEnv) (start : ParseState) :
    ∃ s fuel result, Machine.Reaches (machine env) start s ∧ machine env s = .inr result ∧
      Machine.run (machine env) fuel start = some result ∧ start.finish env = result := by
  have bounded : ∃ result, Machine.run (machine env) (start.msg.getBytesLeft + 1) start = some result :=
    Machine.run_of_measure (fun _ => True) (fun _ => False) (fun s => s.msg.getBytesLeft)
      (fun s next _ taken => ⟨True.intro,.inl (left_falls taken)⟩) True.intro fun _ _ => id
  obtain ⟨result,ended⟩ := bounded
  obtain ⟨s,reaches,last⟩ := Machine.reaches_of_run ended
  refine ⟨s,_,result,reaches,last,ended,?_⟩
  rw [finish,ended]
  rfl

theorem finish_reported_iff : (∃ parsed, start.finish env = .ok parsed ∧ parsed.Reported) ↔
    ∀ s, Machine.Reaches (machine env) start s → ObjectFits env s.msg := by
  obtain ⟨final,fuel,result,reaches,last,ended,same⟩ := finish_reaches env start
  rw [same]
  constructor
  · rintro ⟨parsed,rfl,reported⟩ s passed
    obtain ⟨fuel,rest⟩ := passed.run_on ended
    cases taken : machine env s with
    | inl next => exact step_reported_iff.mp (.inl ⟨next,machine_inl.mp taken⟩)
    | inr other =>
      have only := Machine.run_unique rest (Machine.run_result taken 0)
      subst only
      exact machine_inr_reported taken reported
  · intro fits
    rcases machine_fits (fits final reaches) with ⟨next,taken⟩ | ⟨parsed,taken,reported⟩
    · rw [taken] at last
      cases last
    · rw [taken] at last
      cases last
      exact ⟨parsed,rfl,reported⟩

end ParseState

theorem deserialize_reported_iff (env : ParseEnv) (payload : Bytes) :
    (∃ parsed, deserialize env payload = .ok parsed ∧ parsed.Reported) ↔ AllFit env payload := by
  unfold deserialize AllFit
  cases started : parseStart payload with
  | error kind =>
    refine iff_of_true ⟨_,rfl,List.cons_ne_nil _ _⟩ fun start s same => ?_
    cases same
  | ok start =>
    dsimp only
    rw [ParseState.finish_reported_iff]
    constructor
    · intro fits other s same reaches
      cases same
      exact fits s reaches
    · intro fits s reaches
      exact fits start s rfl reaches

/-- The assertion on the error list holds exactly where the parse is reported. -/
theorem mapApiReceiveMessage_ok_iff (env : ParseEnv) (payload : Bytes) :
    (∃ m, mapApiReceiveMessage env payload = .ok m) ↔
      ∃ parsed, deserialize env payload = .ok parsed ∧ parsed.Reported := by
  unfold mapApiReceiveMessage
  cases read : deserialize env payload with
  | error stop => simp
  | ok parsed =>
    rw [ok_bind]
    cases parsed with
    | object m => exact iff_of_true ⟨_,rfl⟩ ⟨_,rfl,True.intro⟩
    | null errors =>
      by_cases none : errors = []
      · simp [Parsed.Reported,none]
      · simp [Parsed.Reported,none]

/-- A payload is parsed in an orderly way exactly if every object that is looked at fits. -/
theorem parse_total_iff (env : ParseEnv) (payload : Bytes) : TotalParse env payload ↔ AllFit env payload := by
  unfold TotalParse
  rw [mapApiReceiveMessage_ok_iff,deserialize_reported_iff,and_self]

/-- A CONFIGURE that ends with the header of a message sequence number without a body. -/
theorem parse_not_total : ¬ ∀ (env : ParseEnv) (payload : Bytes), TotalParse env payload := by
  intro total
  obtain ⟨⟨parsed,read,_⟩,_⟩ := total (fun _ => {}) [1,0,0,0,0,0xF7,0,0]
  have threw : deserialize (fun _ => {}) [1,0,0,0,0,0xF7,0,0] = Call.throw .netMsgError := by rfl
  rw [threw] at read
  cases read

end Mnslp.Msg
