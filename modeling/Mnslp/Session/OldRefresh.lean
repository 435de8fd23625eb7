import Mnslp.Lib.Serial
import Mnslp.Session.NrStep
import Mnslp.Session.NullAsserts

/-! REFRESHes that come again late. A session takes a REFRESH whose number is greater than
the one it has stored, in the order of RFC-1982, and leaves the others alone. -/
namespace Mnslp.Session
open Mnslp.Lib Mnslp.Msg

/-- One number is greater than another unless it is at most half of the range behind. -/
theorem isGreaterThan_iff {a b : UInt32} : isGreaterThan a b = true ↔ 2 ^ 31 < ahead a b := by
  have first := a.toNat_lt
  have second := b.toNat_lt
  unfold isGreaterThan ahead
  rw [decide_eq_true_iff]
  simp only [ne_eq,← UInt32.toNat_inj,UInt32.lt_iff_toNat_lt,gt_iff_lt,UInt32.toNat_sub]
  have limit : (2147483648 : UInt32).toNat = 2147483648 := rfl
  rw [limit]
  omega

/-- What an old REFRESH is answered with: nothing, if it is authorized or asks for too much. -/
def answerToOld (d : Dispatcher) (maxLifetime : UInt32) (m : NtlpMsg) : List Action :=
  if m.msg.getSessionLifetime > maxLifetime ∨ d.isAuthorized m = true then [] else authenticationFailed m

theorem isOld_of_advance {old m now : UInt32} {moved : Nat} (advance : ahead m now = moved)
    (near : ahead old m + moved ≤ 2 ^ 31) : isGreaterThan old now = false := by
  have short : ahead old m + ahead m now < 2 ^ 32 := by omega
  rw [Bool.eq_false_iff,ne_eq,isGreaterThan_iff,ahead_add short,advance]
  omega

namespace NfSession

/-- A session in METERING sends the REFRESH on. -/
structure ForwardsRefresh (conf : NfConfig) (d : Dispatcher) (s : NfSession) (m : NtlpMsg) (forThisNode : Bool)
    (next : NfSession) : Prop where
  state : s.state = .metering
  kind : m.msg.kind = .refresh
  sends : ∃ actions, processEvent conf d s (.msg m forThisNode) = .ok (next,actions) ∧ .send m.copyForForwarding ∈ actions

/-- The session is as before and sends at most the RESPONSE to a REFRESH that is not authorized. -/
def Discards (conf : NfConfig) (d : Dispatcher) (s : NfSession) (m : NtlpMsg) (forThisNode : Bool) : Prop :=
  processEvent conf d s (.msg m forThisNode) = .ok (s,answerToOld d s.maxLifetime m)

section
variable {conf : NfConfig} {d : Dispatcher} {s next : NfSession} {m : NtlpMsg} {forThisNode : Bool}

theorem processEvent_refresh (state : s.state = .metering) (kind : m.msg.kind = .refresh) :
    processEvent conf d s (.msg m forThisNode) = handleRefresh d s m := by
  simp [processEvent,state,handleStateMetering,Event.ofKind,kind]

/-- The number of a REFRESH that leaves the session a lifetime is stored. -/
theorem ForwardsRefresh.msn_eq (forwards : ForwardsRefresh conf d s m forThisNode next) (lasting : next.lifetime ≠ 0) :
    next.msn = m.msg.getMsgSequenceNumber := by
  obtain ⟨state,kind,actions,ok,member⟩ := forwards
  rw [processEvent_refresh state kind,handleRefresh] at ok
  rcases checkPreconditions_cases d m s.maxLifetime with ⟨_,_,checked⟩ | ⟨_,checked⟩
  · rw [checked] at ok
    cases ok
    have kinds := congrArg (fun m => m.msg.kind) (Action.send.inj (List.mem_singleton.mp member))
    simp [NtlpMsg.copyForForwarding,kind] at kinds
  · rw [checked,Call.ok_bind] at ok
    simp only [] at ok
    split at ok
    · cases ok
      cases member
    · cases ok
      split at lasting
      · rename_i positive
        rw [if_pos positive]
      · rename_i zero
        exact absurd (by simpa using zero) lasting

theorem discards_of_old (state : s.state = .metering) (kind : m.msg.kind = .refresh)
    (old : isGreaterThan m.msg.getMsgSequenceNumber s.msn = false) : Discards conf d s m forThisNode := by
  unfold Discards answerToOld
  rw [processEvent_refresh state kind,handleRefresh]
  rcases checkPreconditions_cases d m s.maxLifetime with ⟨low,unauthorized,checked⟩ | ⟨allowed,checked⟩
  · rw [checked,if_neg (by simp [unauthorized,low])]
    rfl
  · rw [checked,if_pos allowed,Call.ok_bind]
    simp only [old,Bool.not_false,if_true]
    rfl

end
end NfSession

namespace NrSession

/-- One event that the session handled, with the dispatcher it met. -/
def Next (s : NrSession) (label : Dispatcher × Event) (next : NrSession) : Prop :=
  ∃ actions, processEvent label.1 s label.2 = .ok (next,actions)

/-- A session in METERING answers the REFRESH with a success. -/
structure AnswersRefresh (d : Dispatcher) (s : NrSession) (m : NtlpMsg) (forThisNode : Bool) (next : NrSession) : Prop where
  state : s.state = .metering
  kind : m.msg.kind = .refresh
  sends : ∃ actions lifetime, processEvent d s (.msg m forThisNode) = .ok (next,actions) ∧
    .send (m.createSuccessResponse lifetime) ∈ actions

def Discards (d : Dispatcher) (s : NrSession) (m : NtlpMsg) (forThisNode : Bool) : Prop :=
  processEvent d s (.msg m forThisNode) = .ok (s,answerToOld d s.maxLifetime m)

section
variable {d : Dispatcher} {s next : NrSession} {m : NtlpMsg} {forThisNode : Bool}

theorem processEvent_refresh (state : s.state = .metering) (kind : m.msg.kind = .refresh) :
    processEvent d s (.msg m forThisNode) = handleRefresh d s m := by
  simp [processEvent,state,handleStateMetering,Event.ofKind,kind]

/-- The number is stored, or the session ends: the lifetime that is granted decides. -/
theorem AnswersRefresh.cases (answers : AnswersRefresh d s m forThisNode next) :
    (capped m.msg.getSessionLifetime s.maxLifetime ≠ 0 ∧ next.msn = m.msg.getMsgSequenceNumber) ∨
      (capped m.msg.getSessionLifetime s.maxLifetime = 0 ∧ next.state = .close) := by
  obtain ⟨state,kind,actions,lifetime,ok,member⟩ := answers
  rw [processEvent_refresh state kind,handleRefresh] at ok
  rcases checkPreconditions_cases d m s.maxLifetime with ⟨_,_,checked⟩ | ⟨_,checked⟩
  · rw [checked] at ok
    cases ok
    have success := m.isSuccess_createSuccessResponse lifetime
    rw [Action.send.inj (List.mem_singleton.mp member)] at success
    simp [MnslpMsg.isSuccess,MnslpMsg.scSuccess,MnslpMsg.scPermanentFailure] at success
  · rw [checked,Call.ok_bind] at ok
    simp only [] at ok
    split at ok
    · cases ok
      cases member
    · split at ok
      · rename_i positive
        cases ok
        exact .inl ⟨UInt32.pos_iff_ne_zero.mp positive,rfl⟩
      · rename_i zero
        obtain ⟨removed,_,ok⟩ := Call.bind_eq_ok.mp ok
        cases ok
        exact .inr ⟨not_not.mp (mt UInt32.pos_iff_ne_zero.mpr zero),rfl⟩

theorem discards_of_old (state : s.state = .metering) (kind : m.msg.kind = .refresh)
    (old : isGreaterThan m.msg.getMsgSequenceNumber s.msn = false) : Discards d s m forThisNode := by
  unfold Discards answerToOld
  rw [processEvent_refresh state kind,handleRefresh]
  rcases checkPreconditions_cases d m s.maxLifetime with ⟨low,unauthorized,checked⟩ | ⟨allowed,checked⟩
  · rw [checked,if_neg (by simp [unauthorized,low])]
    rfl
  · rw [checked,if_pos allowed,Call.ok_bind]
    simp only [old,Bool.not_false,if_true]
    rfl

end
/-- A closed session takes CONFIGUREs only. -/
theorem closed_run {labels : List (Dispatcher × Event)} {s t : NrSession} (run : Run Next s labels t)
    (closed : s.state = .close) (others : ∀ label ∈ labels, label.2.ofKind .configure = none) : t = s := by
  induction run with
  | nil => rfl
  | cons first _ ih =>
    obtain ⟨actions,ok⟩ := first
    have other := others _ List.mem_cons_self
    simp only [processEvent,closed,handleStateClose,other] at ok
    cases ok
    exact ih closed fun label member => others label (List.mem_cons_of_mem _ member)

end NrSession

/-- A REFRESH that is at most half of the range behind the number that the session has reached
since it took another one changes nothing. A responder that has granted the lifetime 0 is closed, and takes
none until a CONFIGURE opens it again. -/
theorem old_refresh_discarded :
    (∀ (conf : NfConfig) (d d' : Dispatcher) (s next t : NfSession) (m old : NtlpMsg) (first second : Bool) (moved : Nat),
      NfSession.ForwardsRefresh conf d s m first next → next.lifetime ≠ 0 →
      Advances (NfSession.Next conf) NfSession.msn next moved t → t.state = .metering → old.msg.kind = .refresh →
      ahead old.msg.getMsgSequenceNumber m.msg.getMsgSequenceNumber + moved ≤ 2 ^ 31 →
      NfSession.Discards conf d' t old second) ∧
    (∀ (d d' : Dispatcher) (s next t : NrSession) (m old : NtlpMsg) (first second : Bool) (moved : Nat),
      NrSession.AnswersRefresh d s m first next → capped m.msg.getSessionLifetime s.maxLifetime ≠ 0 →
      Advances NrSession.Next NrSession.msn next moved t → t.state = .metering → old.msg.kind = .refresh →
      ahead old.msg.getMsgSequenceNumber m.msg.getMsgSequenceNumber + moved ≤ 2 ^ 31 →
      NrSession.Discards d' t old second) ∧
    (∀ (d d' : Dispatcher) (s next t : NrSession) (m old : NtlpMsg) (first second : Bool)
      (labels : List (Dispatcher × Event)), NrSession.AnswersRefresh d s m first next →
      capped m.msg.getSessionLifetime s.maxLifetime = 0 → Run NrSession.Next next labels t →
      (∀ label ∈ labels, label.2.ofKind .configure = none) → old.msg.kind = .refresh →
      t.state = .close ∧ NrSession.processEvent d' t (.msg old second) = .ok (t,[])) := by
  refine ⟨?_,?_,?_⟩
  · intro conf d d' s next t m old first second moved forwards lasting run state kind near
    have reached := run.ahead_eq (by omega)
    rw [forwards.msn_eq lasting] at reached
    exact NfSession.discards_of_old state kind (isOld_of_advance reached near)
  · intro d d' s next t m old first second moved answers lasting run state kind near
    have reached := run.ahead_eq (by omega)
    rw [(answers.cases.resolve_right fun zero => lasting zero.1).2] at reached
    exact NrSession.discards_of_old state kind (isOld_of_advance reached near)
  · intro d d' s next t m old first second labels answers zero run others kind
    have closed := (answers.cases.resolve_left fun lasting => lasting.1 zero).2
    rw [NrSession.closed_run run closed others]
    refine ⟨closed,?_⟩
    simp [NrSession.processEvent,closed,NrSession.handleStateClose,Event.ofKind,kind]

/-- REFRESHes that move on by a quarter of the range, after the first. -/
private def quarters : List (Dispatcher × Event) :=
  [(.willing,.msg (.sample .refresh 1073741826 60) true),(.willing,.msg (.sample .refresh 2147483650 60) true),
    (.willing,.msg (.sample .refresh 3221225474 60) true)]

/-- After three more REFRESHes the first one is taken again. -/
theorem old_refresh_taken :
    (¬ ∀ (conf : NfConfig) (d d' : Dispatcher) (s next t : NfSession) (m old : NtlpMsg) (first second : Bool)
      (labels : List (Dispatcher × Event)), NfSession.ForwardsRefresh conf d s m first next →
      Run (NfSession.Next conf) next labels t → t.state = .metering → old.msg.kind = .refresh →
      isGreaterThan old.msg.getMsgSequenceNumber m.msg.getMsgSequenceNumber = false →
      NfSession.processEvent conf d' t (.msg old second) = .ok (t,[])) ∧
    (¬ ∀ (d d' : Dispatcher) (s next t : NrSession) (m old : NtlpMsg) (first second : Bool)
      (labels : List (Dispatcher × Event)), NrSession.AnswersRefresh d s m first next →
      Run NrSession.Next next labels t → t.state = .metering → old.msg.kind = .refresh →
      isGreaterThan old.msg.getMsgSequenceNumber m.msg.getMsgSequenceNumber = false →
      NrSession.processEvent d' t (.msg old second) = .ok (t,[])) := by
  constructor
  · intro always
    have discarded := always ⟨100⟩ .willing .willing {NfSession.new 0 with state := .metering, msn := 1, maxLifetime := 100}
      _ _ (.sample .refresh 2 60) (.sample .refresh 2 60) true true quarters ⟨rfl,rfl,_,rfl,.head _⟩
      (.cons ⟨_,rfl⟩ (.cons ⟨_,rfl⟩ (.single ⟨_,rfl⟩))) rfl rfl rfl
    cases discarded
  · intro always
    have discarded := always .willing .willing {NrSession.new 0 ⟨100⟩ with state := .metering, msn := 1} _ _
      (.sample .refresh 2 60) (.sample .refresh 2 60) true true quarters ⟨rfl,rfl,_,60,rfl,.head _⟩
      (.cons ⟨_,rfl⟩ (.cons ⟨_,rfl⟩ (.single ⟨_,rfl⟩))) rfl rfl rfl
    cases discarded

/-- The same REFRESH twice, and once after a teardown. -/
theorem old_refresh_discarded_again :
    (∃ t, NfSession.Discards ⟨100⟩ .willing t (.sample .refresh 2 60) true) ∧
      (∃ t, NrSession.Discards .willing t (.sample .refresh 2 60) true) ∧
      ∃ t, t.state = .close ∧ NrSession.processEvent .willing t (.msg (.sample .refresh 2 60) true) = .ok (t,[]) :=
  ⟨⟨_,old_refresh_discarded.1 ⟨100⟩ .willing .willing
      {NfSession.new 0 with state := .metering, msn := 1, maxLifetime := 100} _ _ (.sample .refresh 2 60)
      (.sample .refresh 2 60) true true 0 ⟨rfl,rfl,_,rfl,.head _⟩ (by decide) (.nil _) rfl rfl (by decide)⟩,
    ⟨_,old_refresh_discarded.2.1 .willing .willing {NrSession.new 0 ⟨100⟩ with state := .metering, msn := 1} _ _
      (.sample .refresh 2 60) (.sample .refresh 2 60) true true 0 ⟨rfl,rfl,_,60,rfl,.head _⟩ (by decide) (.nil _) rfl rfl
      (by decide)⟩,
    ⟨_,old_refresh_discarded.2.2 .willing .willing {NrSession.new 0 ⟨100⟩ with state := .metering, msn := 1} _ _
      (.sample .refresh 2 0) (.sample .refresh 2 60) true true [] ⟨rfl,rfl,_,0,rfl,.head _⟩ rfl (.nil _) (by simp)
      rfl⟩⟩

end Mnslp.Session
