import Mnslp.Session.NullAsserts

/-! A CONFIGURE of lifetime 0 at a forwarder in PENDING. Initiators start at a random
number and wrap around, as RFC-1982 has it, but the handler compares the numbers as they are. -/
namespace Mnslp.Session
open Mnslp.Lib Mnslp.Msg
namespace NfSession

/-- The message is sent on and the session ends. -/
def Terminates (conf : NfConfig) (d : Dispatcher) (s : NfSession) (m : NtlpMsg) (forThisNode : Bool) : Prop :=
  ∃ next, processEvent conf d s (.msg m forThisNode) = .ok (next,[.send m.copyForForwarding]) ∧ next.state = .close

/-- The session does not end, unless the message has no path-coupled routing information. -/
def Endures (conf : NfConfig) (d : Dispatcher) (s : NfSession) (m : NtlpMsg) (forThisNode : Bool) : Prop :=
  ∀ next actions, processEvent conf d s (.msg m forThisNode) = .ok (next,actions) → next.state = .close →
    ∃ mrm, m.mri = .other mrm

/-- What the order of RFC-1982 asks for. -/
def SerialOrder (conf : NfConfig) (d : Dispatcher) (s : NfSession) (m previous : NtlpMsg) (forThisNode : Bool) : Prop :=
  (isGreaterThan m.msg.getMsgSequenceNumber previous.msg.getMsgSequenceNumber = true →
      Terminates conf d s m forThisNode) ∧
    (isGreaterThan previous.msg.getMsgSequenceNumber m.msg.getMsgSequenceNumber = true →
      ¬ Terminates conf d s m forThisNode ∧ Endures conf d s m forThisNode)

/-- A forwarder that waits for the RESPONSE to a CONFIGURE gets an authorized one that asks
for the end of the session. -/
structure Ending (d : Dispatcher) (s : NfSession) (m previous : NtlpMsg) : Prop where
  state : s.state = .pending
  stored : s.configureMessage = some previous
  configured : previous.msg.kind = .configure
  configure : m.msg.kind = .configure
  authorized : d.isAuthorized m = true
  zero : m.msg.getSessionLifetime = 0

section
variable {d : Dispatcher} {s : NfSession} {m previous : NtlpMsg}

private theorem processEvent_ending (ending : Ending d s m previous) (conf : NfConfig) (forThisNode : Bool) :
    processEvent conf d s (.msg m forThisNode) =
      if m.msg.getMsgSequenceNumber > previous.msg.getMsgSequenceNumber then
        .ok ({s with stateTimer := 0, state := .close},[.send m.copyForForwarding])
      else if m.msg.getMsgSequenceNumber = previous.msg.getMsgSequenceNumber then
        .ok ({s with stateTimer := d.timerId 0},
          [.send m.copyForForwarding,.startTimer (d.timerId 0) s.responseTimeout])
      else processStateClose d (s.taking m.msg.getSessionLifetime m) m := by
  have configure : (Event.msg m forThisNode).ofKind .configure = some m := by simp [Event.ofKind,ending.configure]
  have found : s.getLastConfigureMessage = .ok previous := by
    simp only [getLastConfigureMessage,ending.stored,Call.assertSome]
  have allowed : checkAuthorization d m = .ok () := by simp [checkAuthorization,ending.authorized]
  have handled : processEvent conf d s (.msg m forThisNode) = handleConfigureAgain d s m := by
    unfold processEvent handleStatePending
    rw [ending.state,configure]
  simp only [handled,handleConfigureAgain,found,Call.ok_bind,allowed]
  rw [if_neg (not_not.mpr ending.configured)]
  simp only [ending.zero,and_true]
  rfl

theorem terminates_iff (ending : Ending d s m previous) (conf : NfConfig) (forThisNode : Bool) :
    Terminates conf d s m forThisNode ↔
      m.msg.getMsgSequenceNumber > previous.msg.getMsgSequenceNumber := by
  unfold Terminates
  rw [processEvent_ending ending]
  constructor
  · rintro ⟨next,ok,_⟩
    split at ok
    · assumption
    · split at ok
      · simp at ok
      · rcases processStateClose_cases d (s.taking m.msg.getSessionLifetime m) m with
          ⟨mri,objects,rule,missing,_,_,_,_,outcome⟩ | ⟨mrm,_,outcome⟩ | outcome | outcome <;> rw [outcome] at ok
        · simp at ok
        · have sent := (Prod.mk.inj (Except.ok.inj ok)).2
          have kinds := congrArg (fun m => m.msg.kind) (Action.send.inj (List.cons.inj sent).1)
          simp [NtlpMsg.copyForForwarding,ending.configure] at kinds
        · cases ok
        · cases ok
  · intro greater
    rw [if_pos greater]
    exact ⟨_,rfl,rfl⟩

theorem endures_of_smaller (ending : Ending d s m previous) (conf : NfConfig) (forThisNode : Bool)
    (smaller : ¬ m.msg.getMsgSequenceNumber > previous.msg.getMsgSequenceNumber) : Endures conf d s m forThisNode := by
  intro next actions ok closed
  rw [processEvent_ending ending,if_neg smaller] at ok
  split at ok
  · cases ok
    rw [ending.state] at closed
    cases closed
  · rcases processStateClose_cases d (s.taking m.msg.getSessionLifetime m) m with
      ⟨mri,objects,rule,missing,_,_,_,_,outcome⟩ | ⟨mrm,other,_⟩ | outcome | outcome
    · rw [outcome] at ok
      cases ok
      cases closed
    · exact ⟨mrm,other⟩
    · rw [outcome] at ok
      cases ok
    · rw [outcome] at ok
      cases ok

end

/-- Numbers that are at most half of the range apart are in the order of RFC-1982 as they
are in the usual one. -/
theorem isGreaterThan_near {a b : UInt32} (near : a.toNat ≤ b.toNat + 2^31) (above : a > b) :
    isGreaterThan b a = false := by
  have order : b.toNat < a.toNat := above
  have distance : (a - b).toNat = a.toNat - b.toNat := UInt32.toNat_sub_of_le a b (Nat.le_of_lt order)
  unfold isGreaterThan
  apply decide_eq_false
  rintro ⟨_,⟨_,far⟩ | ⟨below,_⟩⟩
  · have beyond : 2147483648 < (a - b).toNat := far
    omega
  · exact absurd (UInt32.lt_trans below above) (UInt32.lt_irrefl _)

theorem isGreaterThan_far {a b : UInt32} (far : b.toNat + 2^31 < a.toNat) : isGreaterThan b a = true := by
  have order : b < a := UInt32.lt_iff_toNat_lt.mpr (by omega)
  have distance : (a - b).toNat = a.toNat - b.toNat := UInt32.toNat_sub_of_le a b (UInt32.le_of_lt order)
  refine decide_eq_true ⟨UInt32.ne_of_lt order,.inl ⟨order,?_⟩⟩
  change 2147483648 < (a - b).toNat
  omega

/-- Where the order of RFC-1982 is kept, the two numbers are at most half of the range apart. -/
theorem SerialOrder.near {conf : NfConfig} {d : Dispatcher} {s : NfSession} {m previous : NtlpMsg} {forThisNode : Bool}
    (ending : Ending d s m previous) (kept : SerialOrder conf d s m previous forThisNode) :
    m.msg.getMsgSequenceNumber.toNat ≤ previous.msg.getMsgSequenceNumber.toNat + 2^31 ∧
      previous.msg.getMsgSequenceNumber.toNat ≤ m.msg.getMsgSequenceNumber.toNat + 2^31 := by
  obtain ⟨greater,smaller⟩ := kept
  rw [terminates_iff ending] at greater smaller
  constructor
  · by_contra far
    have ahead : previous.msg.getMsgSequenceNumber.toNat + 2^31 < m.msg.getMsgSequenceNumber.toNat := by omega
    exact (smaller (isGreaterThan_far ahead)).1 (UInt32.lt_iff_toNat_lt.mpr (by omega))
  · by_contra far
    have behind : m.msg.getMsgSequenceNumber.toNat + 2^31 < previous.msg.getMsgSequenceNumber.toNat := by omega
    have order : previous.msg.getMsgSequenceNumber.toNat < m.msg.getMsgSequenceNumber.toNat :=
      greater (isGreaterThan_far behind)
    omega

/-- A forwarder in PENDING keeps the order of RFC-1982 exactly for numbers that are at most
half of the range apart. -/
theorem serialOrder_iff (conf : NfConfig) (d : Dispatcher) (s : NfSession) (m previous : NtlpMsg) (forThisNode : Bool)
    (ending : Ending d s m previous) : SerialOrder conf d s m previous forThisNode ↔
      m.msg.getMsgSequenceNumber.toNat ≤ previous.msg.getMsgSequenceNumber.toNat + 2^31 ∧
        previous.msg.getMsgSequenceNumber.toNat ≤ m.msg.getMsgSequenceNumber.toNat + 2^31 := by
  have endures := endures_of_smaller ending conf forThisNode
  constructor
  · exact SerialOrder.near ending
  · unfold SerialOrder
    rw [terminates_iff ending]
    revert endures
    generalize m.msg.getMsgSequenceNumber = new
    generalize previous.msg.getMsgSequenceNumber = old
    rintro endures ⟨ahead,behind⟩
    constructor
    · intro greater
      by_contra notAbove
      rcases UInt32.lt_or_eq_of_le (UInt32.not_lt.mp notAbove) with below | same
      · rw [isGreaterThan_near behind below] at greater
        cases greater
      · subst same
        simp [isGreaterThan] at greater
    · intro smaller
      have notAbove : ¬ new > old := fun above => by
        rw [isGreaterThan_near ahead above] at smaller
        cases smaller
      exact ⟨notAbove,endures notAbove⟩

/-- The number after the largest one is 0. -/
theorem serialOrder_lost : ¬ ∀ labels s, Run (Next ⟨100⟩) (new 0) labels s → ∀ d m previous forThisNode,
    Ending d s m previous → SerialOrder ⟨100⟩ d s m previous forThisNode := by
  intro always
  have run : Run (Next ⟨100⟩) (new 0) [(.willing,.msg (.sample .configure 4294967295 60) false)] _ := .single ⟨_,rfl⟩
  have kept := always _ _ run .willing (.sample .configure 0 0) (NtlpMsg.sample .configure 4294967295 60).copy false
    ⟨rfl,rfl,rfl,rfl,rfl,rfl⟩
  have near := SerialOrder.near ⟨rfl,rfl,rfl,rfl,rfl,rfl⟩ kept
  revert near
  decide

theorem serialOrder_kept : ∃ s, Run (Next ⟨100⟩) (new 0) [(.willing,.msg (.sample .configure 1 60) false)] s ∧
    SerialOrder ⟨100⟩ .willing s (.sample .configure 2 0) (NtlpMsg.sample .configure 1 60).copy false := by
  have run : Run (Next ⟨100⟩) (new 0) [(.willing,.msg (.sample .configure 1 60) false)] _ := .single ⟨_,rfl⟩
  exact ⟨_,run,(serialOrder_iff _ _ _ _ _ _ ⟨rfl,rfl,rfl,rfl,rfl,rfl⟩).mpr (by decide)⟩

end NfSession
end Mnslp.Session
