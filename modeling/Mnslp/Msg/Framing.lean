import Mnslp.Msg.ParseTotal

/-! Where one object of a payload ends and the next one starts: by the length in its
header, and by what the reader of its class takes. -/
namespace Mnslp.Msg
open Mnslp.Lib Call

/-- The length of a body in words, the low 12 bits of the header. -/
def declaredWords (header : UInt32) : Nat := (header &&& 0xFFF).toNat

theorem toNat_declaredLength (header : UInt32) : (declaredLength header).toNat = 4 * declaredWords header := by
  have small : (header &&& 0xFFF).toNat < 2^12 := by
    have mask : (0xFFF : UInt32).toNat = 2^12 - 1 := rfl
    rw [UInt32.toNat_and,mask,Nat.and_two_pow_sub_one_eq_mod]
    exact Nat.mod_lt _ (by decide)
  unfold declaredLength declaredWords
  rw [UInt32.toNat_toUInt16,UInt32.toNat_mul]
  change (header &&& 0xFFF).toNat * 4 % 2^32 % 2^16 = _
  omega

/-- Only the reader of IPFIX messages goes by the length; the other ones take one word. -/
def LengthFits (header : UInt32) : Prop :=
  extractObjectType header = mnslpIpfixMessageType ∨ declaredWords header = 1

/-- Where the sender starts an object: the first one behind the header of the message, each
other one behind the words that the object before it declares. -/
def boundary (payload : Bytes) : Nat → Option Nat
  | 0 => some 4
  | count + 1 => (boundary payload count).bind fun pos =>
    match NetMsg.peek32 ⟨payload,pos⟩ with
    | .ok header => some (pos + (4 + 4 * declaredWords header))
    | .error _ => none

/-- The loop of `mnslp_msg::deserialize` starts every object where the sender does. -/
def StartsAtBoundaries (env : ParseEnv) (payload : Bytes) : Prop :=
  ∀ start s count, parseStart payload = .ok start → Machine.after (ParseState.machine env) count start = some s →
    boundary payload count = some s.msg.pos

theorem objectType_newObject {objectType : UInt16} {cls : ObjectClass} (found : newObject objectType = some cls) :
    cls.objectType = objectType := by
  have same := List.find?_some found
  exact of_decide_eq_true same

theorem NetMsg.decode32_eq_ok {msg body : NetMsg} {header : UInt32} (read : msg.decode32 = .ok (header,body)) :
    msg.peek32 = .ok header ∧ body = {msg with pos := msg.pos + 4} := by
  unfold decode32 at read
  cases peeked : msg.peek32 with
  | error stop =>
    rw [peeked] at read
    cases read
  | ok value =>
    rw [peeked] at read
    cases read
    exact ⟨rfl,rfl⟩

section
variable {env : ParseEnv} {msg body next : NetMsg} {header : UInt32} {obj : MnslpObject}

/-- The bytes that the reader of a class takes from the body. -/
def bytesTaken (header : UInt32) : Nat :=
  if extractObjectType header = mnslpIpfixMessageType then 4 * declaredWords header else 4

theorem pos_deserializeObject (read : msg.decode32 = .ok (header,body))
    (parsed : deserializeObject env msg = .ok (.object (obj,next))) :
    next = {msg with pos := msg.pos + (4 + bytesTaken header)} := by
  obtain ⟨_,rfl⟩ := NetMsg.decode32_eq_ok read
  unfold deserializeObject at parsed
  rw [read] at parsed
  dsimp only at parsed
  split at parsed
  · cases parsed
  · rename_i cls found
    have typed := objectType_newObject found
    split at parsed
    · cases parsed
    · unfold bytesTaken
      by_cases number : cls = .mnslpIpfixMessage
      · subst number
        have ipfix : extractObjectType header = mnslpIpfixMessageType := typed.symm
        rw [if_pos ipfix,← toNat_declaredLength]
        obtain ⟨message,nread,_,same⟩ := deserializeIpfixMessage_ok parsed
        split at same
        · cases same
          exact congrArg (NetMsg.mk msg.buffer) (Nat.add_assoc _ _ _)
        · cases same
      · have other : extractObjectType header ≠ mnslpIpfixMessageType := by
          rw [← typed]
          intro same
          cases cls <;> first | exact number rfl | cases same
        rw [if_neg other]
        have cases := numberRead_body env number (Treatment.ofBits (header >>> 30)) {msg with pos := msg.pos + 4}
          (declaredLength header).toNat
        rw [parsed] at cases
        cases cases
        rfl

theorem bytesTaken_iff (header : UInt32) : bytesTaken header = 4 * declaredWords header ↔ LengthFits header := by
  unfold bytesTaken LengthFits
  split
  · rename_i ipfix
    exact iff_of_true rfl (.inl ipfix)
  · rename_i number
    rw [or_iff_right number]
    omega

theorem object_framed_iff (read : msg.decode32 = .ok (header,body))
    (parsed : deserializeObject env msg = .ok (.object (obj,next))) :
    next.pos = msg.pos + (4 + 4 * declaredWords header) ↔ LengthFits header := by
  rw [pos_deserializeObject read parsed,← bytesTaken_iff]
  dsimp only
  omega

end

theorem parseStart_pos {payload : Bytes} {start : ParseState} (started : parseStart payload = .ok start) :
    start.msg = ⟨payload,4⟩ := by
  unfold parseStart at started
  rcases (⟨payload,0⟩ : NetMsg).decode32_cases with ⟨_,header,read⟩ | ⟨_,threw⟩
  · rw [read] at started
    dsimp only at started
    split at started
    · cases started
    · cases started
      rfl
  · rw [threw] at started
    cases started

namespace ParseState
variable {env : ParseEnv} {payload : Bytes} {start s next : ParseState}

theorem buffer_next (taken : machine env s = .inl next) : next.msg.buffer = s.msg.buffer := by
  obtain ⟨_,obj,parsed,_⟩ := step_inl (machine_inl.mp taken)
  exact (deserializeObject_object parsed).1

theorem buffer_after {count : Nat} (started : parseStart payload = .ok start)
    (ran : Machine.after (machine env) count start = some s) : s.msg.buffer = payload := by
  have first : start.msg.buffer = payload := by rw [parseStart_pos started]
  exact (Machine.Reaches.of_after ran).invariant (fun s => s.msg.buffer = payload)
    (fun _ _ same taken => (buffer_next taken).trans same) first

/-- Behind an object that starts where the sender does, the next one does so exactly if the
reader has taken what the header declares. -/
theorem boundary_next {count : Nat} (started : parseStart payload = .ok start)
    (ran : Machine.after (machine env) count start = some s) (here : boundary payload count = some s.msg.pos)
    (taken : machine env s = .inl next) :
    ∃ header body, s.msg.decode32 = .ok (header,body) ∧
      (boundary payload (count + 1) = some next.msg.pos ↔ LengthFits header) := by
  have buffer := buffer_after started ran
  obtain ⟨more,obj,parsed,_⟩ := step_inl (machine_inl.mp taken)
  rcases s.msg.decode32_cases with ⟨_,header,read⟩ | ⟨_,threw⟩
  · refine ⟨header,_,read,?_⟩
    have whole : (⟨payload,s.msg.pos⟩ : NetMsg) = s.msg := by rw [← buffer]
    rw [boundary,here,Option.bind_some,whole,(NetMsg.decode32_eq_ok read).1,← object_framed_iff read parsed]
    dsimp only
    rw [Option.some_inj,eq_comm]
  · unfold deserializeObject at parsed
    rw [threw] at parsed
    cases parsed

end ParseState

/-- An object that is read ends where its header says exactly if the length fits its class, and the
objects of a payload start where the sender starts them exactly if those before them do so. -/
theorem framed_iff (env : ParseEnv) :
    (∀ msg header body obj next, msg.decode32 = .ok (header,body) →
      deserializeObject env msg = .ok (.object (obj,next)) →
      (next.pos = msg.pos + (4 + 4 * declaredWords header) ↔ LengthFits header)) ∧
    ∀ payload, StartsAtBoundaries env payload ↔ ∀ start s next header body, parseStart payload = .ok start →
      Machine.Reaches (ParseState.machine env) start s → ParseState.machine env s = .inl next →
      s.msg.decode32 = .ok (header,body) → LengthFits header := by
  refine ⟨fun msg header body obj next => object_framed_iff,fun payload => ?_⟩
  constructor
  · intro starts start s next header body started reaches taken read
    obtain ⟨count,ran⟩ := reaches.after
    obtain ⟨header',body',read',fits⟩ := ParseState.boundary_next started ran (starts start s count started ran) taken
    rw [read] at read'
    cases read'
    exact fits.mp (starts start next (count + 1) started (Machine.after_succ.mpr ⟨s,ran,taken⟩))
  · intro fits start s count started ran
    induction count generalizing s with
    | zero =>
      cases ran
      rw [parseStart_pos started]
      rfl
    | succ count ih =>
      obtain ⟨middle,before,taken⟩ := Machine.after_succ.mp ran
      obtain ⟨header,body,read,same⟩ := ParseState.boundary_next started before (ih middle before) taken
      exact same.mpr (fits start middle s header body started (.of_after before) taken read)

/-- A message sequence number that declares two words. -/
theorem number_not_framed : ¬ ∀ (env : ParseEnv) (msg : NetMsg) (header : UInt32) (body : NetMsg) (obj : MnslpObject)
    (next : NetMsg), msg.decode32 = .ok (header,body) → deserializeObject env msg = .ok (.object (obj,next)) →
    next.pos = msg.pos + (4 + 4 * declaredWords header) := by
  intro framed
  have ends := framed (fun _ => {}) {buffer := [0,0xF7,0,2,0,0,0,7,0,0,0,0]} 0x00F70002 _ _ _ rfl rfl
  exact absurd ends (by decide)

end Mnslp.Msg
