import Mnslp.Msg.RoundTrip

/-! Whether a node can forward what it accepts. The reader of a message takes any set of
registered objects, the writer of each class those of its own list. -/
namespace Mnslp.Msg
open Mnslp.Lib Call

/-- The message is written into a buffer of its size, fills it, and is found equal to the
message that is read from the result. -/
def MnslpMsg.RoundTrips (m : MnslpMsg) : Prop :=
  ∃ msg written, m.serialize (.ofSize m.getSerializedSize) = .ok (msg,written) ∧ msg.pos = m.getSerializedSize ∧
    ∀ env, ∃ other, deserialize env msg.buffer = .ok (.object other) ∧ m.equals other = .ok true

/-- Every object that the loop of `mnslp_msg::deserialize` reads is as long as its header says. -/
def ExactlyFramed (env : ParseEnv) (payload : Bytes) : Prop :=
  ∀ start s header body obj next, parseStart payload = .ok start →
    Machine.Reaches (ParseState.machine env) start s → s.msg.decode32 = .ok (header,body) →
    deserializeObject env s.msg = .ok (.object (obj,next)) →
    4 + (declaredLength header).toNat = obj.getSerializedSize

section
variable {env : ParseEnv} {msg next : NetMsg} {obj : MnslpObject}

/-- An IPFIX message that was imported from a body without anything behind its padding. -/
theorem readable_ipfix {env : ImportEnv} {treatment : Treatment} {message : MnslpIpfixMessage} {body : Bytes} {nread : Nat}
    (imported : importBody env body = .ok (message,nread)) (zeros : (body.drop nread).all (· = 0) = true)
    (framed : 4 + body.length = MnslpObject.getSerializedSize ⟨treatment,.ipfixMessage message⟩) :
    MnslpObject.Readable ⟨treatment,.ipfixMessage message⟩ := by
  obtain ⟨bytes,some,inside,_⟩ := importBody_ok imported
  obtain ⟨_,_,_,offset⟩ := MnslpIpfixMessage.getMessage_eq_some bytes
  rw [List.length_take,Nat.min_eq_left inside] at offset
  have padded : message.padded = body := by
    have length : body.length = nread + padding nread := by
      rw [MnslpObject.getSerializedSize] at framed
      dsimp only at framed
      rw [offset,padding_header] at framed
      omega
    have behind : body.drop nread = List.replicate (padding nread) 0 := by
      refine List.eq_replicate_iff.mpr ⟨?_,fun byte member => ?_⟩
      · rw [List.length_drop]
        omega
      · simpa using List.all_eq_true.mp zeros byte member
    rw [MnslpIpfixMessage.padded,bytes,offset,Option.getD_some,← behind,List.take_append_drop]
  refine ⟨decide_eq_true ⟨objectType_fits _,decide_eq_true ?_⟩,?_⟩
  · rw [offset]
    exact some
  · intro own same other
    cases same
    rw [padded]
    obtain ⟨again,repeated,twin⟩ := importBody_again other imported
    exact ⟨again,nread,repeated,twin.isEqual⟩

/-- What is read from an exactly framed object can be written and read again. -/
theorem readable_of_deserialize (parsed : deserializeObject env msg = .ok (.object (obj,next)))
    (framed : ∀ header body, msg.decode32 = .ok (header,body) →
      4 + (declaredLength header).toNat = obj.getSerializedSize) : obj.Readable := by
  unfold deserializeObject at parsed
  rcases msg.decode32_cases with ⟨_,header,read⟩ | ⟨_,threw⟩
  · have size := framed _ _ read
    rw [read] at parsed
    generalize ({msg with pos := msg.pos + 4} : NetMsg) = body at parsed
    dsimp only at parsed
    split at parsed
    · cases parsed
    · rename_i cls _
      split at parsed
      · cases parsed
      · rename_i room
        by_cases number : cls = .mnslpIpfixMessage
        · subst number
          obtain ⟨message,nread,imported,same⟩ := deserializeIpfixMessage_ok parsed
          split at same
          · rename_i zeros
            cases same
            apply readable_ipfix imported zeros
            rw [List.length_take,List.length_drop,← size]
            unfold NetMsg.getBytesLeft at room
            omega
          · cases same
        · have cases := numberRead_body env number (Treatment.ofBits (header >>> 30)) body (declaredLength header).toNat
          rw [parsed] at cases
          cases cases with
          | object room treated unique checked =>
            refine ⟨checked,fun message same => ?_⟩
            unfold MnslpObject.isUnique at unique
            rw [same] at unique
            cases unique
  · rw [threw] at parsed
    cases parsed

theorem parseStart_new {payload : Bytes} {start : ParseState} (started : parseStart payload = .ok start) :
    ∃ kind, start.m = .new kind := by
  unfold parseStart at started
  split at started
  · cases started
  · split at started
    · cases started
    · rename_i kind _
      cases started
      exact ⟨kind,rfl⟩

theorem step_object {s : ParseState} {m : MnslpMsg} (last : s.step env = .ok (.inr (.object m))) :
    s.m = m ∧ s.msg.getBytesLeft = 0 := by
  unfold ParseState.step at last
  split at last
  · rename_i ended
    split at last
    · cases last
    · cases last
      exact ⟨rfl,ended⟩
  · obtain ⟨read,_,last⟩ := bind_eq_ok.mp last
    cases read with
    | null errors => cases last
    | object both =>
      dsimp only at last
      split at last
      · cases last
      · cases last

/-- The message that is returned is the one of the last round. -/
theorem reaches_of_deserialize {payload : Bytes} {m : MnslpMsg} (accepted : deserialize env payload = .ok (.object m)) :
    ∃ start s, parseStart payload = .ok start ∧ Machine.Reaches (ParseState.machine env) start s ∧ s.m = m ∧
      s.msg.getBytesLeft = 0 := by
  unfold deserialize at accepted
  split at accepted
  · cases accepted
  · rename_i start started
    obtain ⟨s,fuel,result,reaches,last,_,same⟩ := ParseState.finish_reaches env start
    refine ⟨start,s,started,reaches,?_⟩
    rw [accepted] at same
    subst same
    exact step_object (ParseState.machine_ok last)

/-- An accepted message consists of objects that can be written and read again. -/
theorem accepted_readable {payload : Bytes} {m : MnslpMsg} (accepted : deserialize env payload = .ok (.object m))
    (framed : ExactlyFramed env payload) : ∃ c, m.Holds c ∧ ∀ obj ∈ c.objects, obj.Readable := by
  obtain ⟨start,s,started,reaches,rfl,_⟩ := reaches_of_deserialize accepted
  obtain ⟨kind,new⟩ := parseStart_new started
  have keep (s next : ParseState)
      (inv : Machine.Reaches (ParseState.machine env) start s ∧ ∃ c, s.m.Holds c ∧ ∀ obj ∈ c.objects, obj.Readable)
      (taken : ParseState.machine env s = .inl next) :
      Machine.Reaches (ParseState.machine env) start next ∧ ∃ c, next.m.Holds c ∧ ∀ obj ∈ c.objects, obj.Readable := by
    obtain ⟨before,c,holds,readable⟩ := inv
    obtain ⟨_,obj,parsed,_,set⟩ := ParseState.step_inl (ParseState.machine_inl.mp taken)
    refine ⟨before.trans (.single taken),c.put obj,set ▸ holds.put obj,fun other member => ?_⟩
    rcases Contents.mem_objects_put member with rfl | old
    · exact readable_of_deserialize parsed fun header body read =>
        framed start s header body other next.msg started before read parsed
    · exact readable other old
  refine (reaches.invariant (fun s => Machine.Reaches (ParseState.machine env) start s ∧ ∃ c, s.m.Holds c ∧
    ∀ obj ∈ c.objects, obj.Readable) keep ⟨.refl start,.empty,?_,nofun⟩).2
  rw [new]
  exact MnslpMsg.holds_new kind

/-- A node can forward a message that it accepts exactly if the message has every object
that its class writes and no other one. -/
theorem forwarded_iff {payload : Bytes} {m : MnslpMsg} (accepted : deserialize env payload = .ok (.object m))
    (framed : ExactlyFramed env payload) : m.RoundTrips ↔ m.Complete := by
  obtain ⟨c,holds,readable⟩ := accepted_readable accepted framed
  rw [holds.complete_iff]
  constructor
  · rintro ⟨msg,written,serialized,full,_⟩
    exact (MnslpMsg.suits_of_serialize holds serialized full).1
  · intro suits
    obtain ⟨bytes,serialized,back⟩ := MnslpMsg.round_trip holds suits readable
    refine ⟨_,_,serialized,rfl,fun env => ?_⟩
    obtain ⟨other,read,same,_⟩ := back env
    exact ⟨other,read,same⟩

theorem exactlyFramed_single {payload : Bytes} {start next : ParseState} (started : parseStart payload = .ok start)
    (one : ParseState.machine env start = .inl next) (done : next.msg.getBytesLeft = 0) {header : UInt32} {body : NetMsg}
    {obj : MnslpObject} (read : start.msg.decode32 = .ok (header,body))
    (parsed : deserializeObject env start.msg = .ok (.object (obj,next.msg)))
    (framed : 4 + (declaredLength header).toNat = obj.getSerializedSize) : ExactlyFramed env payload := by
  intro other s header' body' obj' msg same reaches read' parsed'
  rw [started] at same
  cases same
  cases reaches with
  | refl =>
    rw [read] at read'
    rw [parsed] at parsed'
    cases read'
    cases parsed'
    exact framed
  | @head _ second _ first rest =>
    rw [one] at first
    cases first
    cases rest with
    | refl =>
      obtain ⟨room,_⟩ := NetMsg.decode32_ok read'
      omega
    | head second rest => exact absurd done (ParseState.step_inl (ParseState.machine_inl.mp second)).1

end

/-- An OPTIONS message is accepted and forwarded. -/
theorem forwarded_options : ∃ m : MnslpMsg,
    deserialize (fun _ => {}) [4,0,0,0,0,0xF7,0,1,0,0,0,7] = .ok (.object m) ∧ (m.RoundTrips ↔ m.Complete) :=
  ⟨_,rfl,@forwarded_iff (fun _ => {}) [4,0,0,0,0,0xF7,0,1,0,0,0,7] _ rfl (exactlyFramed_single rfl rfl rfl rfl rfl rfl)⟩

/-- A REFRESH without a session lifetime is accepted and cannot be forwarded. -/
theorem not_forwarded : ¬ ∀ (env : ParseEnv) (payload : Bytes) (m : MnslpMsg),
    deserialize env payload = .ok (.object m) → ExactlyFramed env payload → m.RoundTrips := by
  intro always
  obtain ⟨msg,written,serialized,_⟩ := always (fun _ => {}) [5,0,0,0,0,0xF7,0,1,0,0,0,7] _ rfl
    (exactlyFramed_single rfl rfl rfl rfl rfl rfl)
  cases serialized

end Mnslp.Msg
