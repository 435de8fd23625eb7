import Mnslp.Session.NullAsserts

/-! The lifetime that a forwarder stores. Its first CONFIGURE and its REFRESHes pass
`check_lifetime`; a CONFIGURE that replaces the stored one does not. -/
namespace Mnslp.Session
open Mnslp.Lib Mnslp.Msg
namespace NfSession

/-- The stored lifetime is granted by the configuration, and a session that waits for a
RESPONSE has one. -/
def Bounded (conf : NfConfig) (s : NfSession) : Prop :=
  s.lifetime ≤ conf.nfMaxSessionLifetime ∧ (s.state = .pending → 0 < s.lifetime)

/-- The CONFIGURE is stored in place of the one the session waits for. -/
def Replaces (d : Dispatcher) (s : NfSession) (m : NtlpMsg) : Prop :=
  s.state = .pending ∧ d.isAuthorized m = true ∧ ∃ previous, s.configureMessage = some previous ∧
    m.msg.getMsgSequenceNumber ≠ previous.msg.getMsgSequenceNumber ∧
    ¬ (m.msg.getMsgSequenceNumber > previous.msg.getMsgSequenceNumber ∧ m.msg.getSessionLifetime = 0)

/-- A lifetime that `check_lifetime` lets pass; it is 0 only if the session cannot go on. -/
def Granted (conf : NfConfig) (m : NtlpMsg) : Prop :=
  m.msg.getSessionLifetime ≤ conf.nfMaxSessionLifetime ∧
    (m.msg.getSessionLifetime = 0 → ∃ mrm, m.mri = .other mrm)

def ReplacesWithin (conf : NfConfig) (s : NfSession) (label : Dispatcher × Event) : Prop :=
  ∀ m, label.2.ofKind .configure = some m → Replaces label.1 s m → Granted conf m

/-- An open session has the maximum of the configuration. -/
def Configured (conf : NfConfig) (s : NfSession) : Prop :=
  s.state ≠ .close → s.maxLifetime = conf.nfMaxSessionLifetime

section
variable {conf : NfConfig} {d : Dispatcher} {s next : NfSession} {evt : Event} {actions : List Action} {m : NtlpMsg}

private theorem replacesWithin_of_state (other : s.state ≠ .pending) : ReplacesWithin conf s (d,evt) :=
  fun _ _ replaces => absurd replaces.1 other

private theorem replacesWithin_of_none (none : evt.ofKind .configure = none) : ReplacesWithin conf s (d,evt) := by
  intro m found
  rw [none] at found
  cases found

private theorem replacesWithin_of_response {request : NtlpMsg} (response : evt.mnslpResponse request = some m) :
    ReplacesWithin conf s (d,evt) := by
  obtain ⟨⟨forThisNode,rfl⟩,kind⟩ := Event.ofKind_eq_some.mp (Event.mnslpResponse_eq_some.mp response).1
  apply replacesWithin_of_none
  simp [Event.ofKind,kind]

private theorem replacesWithin_iff (configure : evt.ofKind .configure = some m) (replaces : Replaces d s m) :
    ReplacesWithin conf s (d,evt) ↔ Granted conf m := by
  constructor
  · exact fun within => within m configure replaces
  · intro granted other found _
    rw [configure] at found
    cases found
    exact granted

/-- A CONFIGURE of the stored number, or one that ends the session, replaces nothing. -/
private theorem replacesWithin_of_not (configure : evt.ofKind .configure = some m) (kept : ¬ Replaces d s m) :
    ReplacesWithin conf s (d,evt) := by
  intro other found replaces
  rw [configure] at found
  cases found
  exact absurd replaces kept

/-- A greater number with lifetime 0 ends the session. -/
theorem state_of_terminated {previous : NtlpMsg} (state : s.state = .pending)
    (configure : evt.ofKind .configure = some m) (stored : s.configureMessage = some previous)
    (authorized : d.isAuthorized m = true) (greater : m.msg.getMsgSequenceNumber > previous.msg.getMsgSequenceNumber)
    (zero : m.msg.getSessionLifetime = 0) (ok : processEvent conf d s evt = .ok (next,actions)) :
    next.state = .close := by
  simp only [processEvent,state,handleStatePending,configure,handleConfigureAgain,getLastConfigureMessage,stored,
    Call.assertSome,Call.ok_bind,checkAuthorization,authorized,Bool.not_true,Bool.false_eq_true,if_false] at ok
  split at ok
  · cases ok
  · rw [if_pos ⟨greater,zero⟩] at ok
    cases ok
    rfl

theorem configured_step (configured : Configured conf s) (step : Step conf d s evt next actions) :
    Configured conf next := by
  cases step with
  | closeAccepted state configure allowed positive accepts =>
    cases accepts
    exact fun _ => rfl
  | pendingReplaced state configure stored authorized different accepts =>
    cases accepts
    exact fun _ => configured (by simp [state])
  | closeRejected | closeDiscarded => exact fun _ => rfl
  | pendingInstalled state => exact fun _ => configured (by simp [state])
  | pendingRejected | pendingResent | pendingIgnored | refreshRejected | refreshDuplicate | refreshForwarded
  | refreshConfirmed | meteringIgnored => exact configured
  | closeNoPath | pendingTerminated | pendingNoPath | pendingNotReached | pendingInstallFailed | pendingRefused
  | meteringNotReached | meteringTimedOut | meteringBadRoute | teardownConfirmed | refreshRefused =>
    exact fun other => absurd rfl other

private theorem Bounded.closed (state : s.state = .close) (small : s.lifetime ≤ conf.nfMaxSessionLifetime) : Bounded conf s := by
  refine ⟨small,fun waiting => ?_⟩
  rw [state] at waiting
  cases waiting

private theorem bounded_noPath {previous : NtlpMsg} {mrm : UInt8} (state : s.state = .pending)
    (configure : evt.ofKind .configure = some m) (stored : s.configureMessage = some previous)
    (authorized : d.isAuthorized m = true)
    (different : m.msg.getMsgSequenceNumber ≠ previous.msg.getMsgSequenceNumber) (other : m.mri = .other mrm) :
    Bounded conf {s.taking m.msg.getSessionLifetime m with configureMessage := some m.copy, state := .close} ↔
      ReplacesWithin conf s (d,evt) := by
  constructor
  · intro kept taken found _
    rw [configure] at found
    cases found
    exact ⟨kept.1,fun _ => ⟨mrm,other⟩⟩
  · intro granted
    apply Bounded.closed rfl
    by_cases ends : m.msg.getMsgSequenceNumber > previous.msg.getMsgSequenceNumber ∧ m.msg.getSessionLifetime = 0
    · simp only [taking,ends.2]
      exact UInt32.zero_le
    · exact (granted m configure ⟨state,authorized,previous,stored,different,ends⟩).1

private theorem bounded_replaced (configure : evt.ofKind .configure = some m) (replaces : Replaces d s m)
    (accepts : Accepts d (s.taking m.msg.getSessionLifetime m) m next actions) :
    Bounded conf next ↔ ReplacesWithin conf s (d,evt) := by
  rw [replacesWithin_iff configure replaces]
  cases accepts with
  | intro pathcoupled =>
    constructor
    · intro kept
      refine ⟨kept.1,fun zero => ?_⟩
      have positive : 0 < m.msg.getSessionLifetime := kept.2 rfl
      rw [zero] at positive
      exact absurd positive (UInt32.lt_irrefl 0)
    · intro granted
      refine ⟨granted.1,fun _ => UInt32.pos_iff_ne_zero.mpr fun zero => ?_⟩
      obtain ⟨mrm,other⟩ := granted.2 zero
      rw [pathcoupled] at other
      cases other

/-- A bounded session stays so exactly if a replacing CONFIGURE asks for a granted lifetime. -/
theorem bounded_next (configured : Configured conf s) (bounded : Bounded conf s)
    (ok : processEvent conf d s evt = .ok (next,actions)) : Bounded conf next ↔ ReplacesWithin conf s (d,evt) := by
  have small := bounded.1
  cases step_of_processEvent ok with
  | closeRejected state | closeDiscarded state =>
    exact iff_of_true (.closed state small) (replacesWithin_of_state (by simp [state]))
  | closeNoPath state =>
    exact iff_of_true (.closed rfl (capped_le _ _)) (replacesWithin_of_state (by simp [state]))
  | closeAccepted state configure allowed positive accepts =>
    cases accepts
    refine iff_of_true ⟨capped_le _ _,fun _ => ?_⟩ (replacesWithin_of_state (by simp [state]))
    exact UInt32.pos_iff_ne_zero.mpr positive
  | pendingRejected state configure stored kind unauthorized =>
    refine iff_of_true bounded (replacesWithin_of_not configure fun replaces => ?_)
    rw [replaces.2.1] at unauthorized
    cases unauthorized
  | pendingTerminated state configure stored authorized greater zero =>
    refine iff_of_true (.closed rfl small) (replacesWithin_of_not configure ?_)
    rintro ⟨_,_,previous,found,_,kept⟩
    rw [stored] at found
    cases found
    exact kept ⟨greater,zero⟩
  | pendingResent state configure stored authorized same =>
    refine iff_of_true bounded (replacesWithin_of_not configure ?_)
    rintro ⟨_,_,previous,found,different,_⟩
    rw [stored] at found
    cases found
    exact different same
  | pendingNoPath state configure stored authorized different other =>
    exact bounded_noPath state configure stored authorized different other
  | pendingReplaced state configure stored authorized different accepts =>
    refine bounded_replaced configure ⟨state,authorized,_,stored,different,fun ends => ?_⟩ accepts
    have shut := state_of_terminated state configure stored authorized ends.1 ends.2 ok
    cases accepts
    cases shut
  | pendingNotReached state stored unreachable =>
    refine iff_of_true (.closed rfl small) (replacesWithin_of_none ?_)
    cases evt <;> simp_all [Event.isNoNextNodeFound,Event.isTimer,Event.ofKind]
  | pendingInstalled state stored response =>
    exact iff_of_true ⟨small,fun waiting => State.noConfusion waiting⟩ (replacesWithin_of_response response)
  | pendingInstallFailed state stored response =>
    exact iff_of_true (.closed rfl UInt32.zero_le) (replacesWithin_of_response response)
  | pendingRefused state stored response =>
    exact iff_of_true (.closed rfl small) (replacesWithin_of_response response)
  | pendingIgnored state configure => exact iff_of_true bounded (replacesWithin_of_none configure)
  | refreshRejected state | refreshDuplicate state | meteringIgnored state | refreshConfirmed state =>
    exact iff_of_true bounded (replacesWithin_of_state (by simp [state]))
  | refreshForwarded state =>
    refine iff_of_true ⟨?_,fun waiting => ?_⟩ (replacesWithin_of_state (by simp [state]))
    · rw [← configured (by simp [state])]
      exact capped_le _ _
    · exact State.noConfusion (state.symm.trans waiting)
  | meteringNotReached state | meteringTimedOut state | meteringBadRoute state | teardownConfirmed state
  | refreshRefused state => exact iff_of_true (.closed rfl small) (replacesWithin_of_state (by simp [state]))

end

/-- The runs that keep the bound in every state are those in which every replacing
CONFIGURE asks for a granted lifetime. -/
theorem lifetime_bounded_iff (conf : NfConfig) (id : SessionId) (labels : List (Dispatcher × Event)) (s : NfSession) :
    Run (fun s label next => Next conf s label next ∧ Bounded conf next) (new id) labels s ↔
      Run (fun s label next => Next conf s label next ∧ ReplacesWithin conf s label) (new id) labels s := by
  have start : Configured conf (new id) ∧ Bounded conf (new id) :=
    ⟨fun other => absurd rfl other,UInt32.zero_le,fun waiting => State.noConfusion waiting⟩
  constructor
  · intro run
    refine run.mono_of (fun s => Configured conf s ∧ Bounded conf s) ?_ start
    rintro s label next ⟨configured,bounded⟩ ⟨⟨actions,ok⟩,kept⟩
    have granted := (bounded_next configured bounded ok).mp kept
    exact ⟨⟨⟨actions,ok⟩,granted⟩,configured_step configured (step_of_processEvent ok),kept⟩
  · intro run
    refine run.mono_of (fun s => Configured conf s ∧ Bounded conf s) ?_ start
    rintro s label next ⟨configured,bounded⟩ ⟨⟨actions,ok⟩,granted⟩
    have kept := (bounded_next configured bounded ok).mpr granted
    exact ⟨⟨⟨actions,ok⟩,kept⟩,configured_step configured (step_of_processEvent ok),kept⟩

/-- A CONFIGURE for a minute, and one for a thousand seconds that replaces it. -/
theorem lifetime_not_bounded : ¬ ∀ labels s, Run (Next ⟨100⟩) (new 0) labels s → Bounded ⟨100⟩ s := by
  intro always
  have run : Run (Next ⟨100⟩) (new 0) [(.willing,.msg (.sample .configure 1 60) false),
      (.willing,.msg (.sample .configure 2 1000) false)] _ := .cons ⟨_,rfl⟩ (.single ⟨_,rfl⟩)
  have small := (always _ _ run).1
  revert small
  decide

end NfSession
end Mnslp.Session
