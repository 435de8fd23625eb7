import Mnslp.Session.Life
import Mnslp.Session.NullAsserts
import Mnslp.Session.SelectObjects

/-! A CONFIGURE that an initiator sends again. A forwarder builds its own CONFIGURE from the
first one, with its lifetime and the objects it cannot meter, but it passes on a plain copy
of the second. -/
namespace Mnslp.Session
open Mnslp.Lib Mnslp.Msg

/-- The same request once more. -/
structure NtlpMsg.Repeats (again m : NtlpMsg) : Prop where
  kind : again.msg.kind = m.msg.kind
  number : again.msg.getMsgSequenceNumber = m.msg.getMsgSequenceNumber
  lifetime : again.msg.getSessionLifetime = m.msg.getSessionLifetime
  objects : again.msg.getMspecObjects = m.msg.getMspecObjects

namespace NfSession

/-- The message is the CONFIGURE that the event makes the session send. -/
def SendsConfigure (conf : NfConfig) (d : Dispatcher) (s : NfSession) (evt : Event) (sent : NtlpMsg) (next : NfSession) :
    Prop :=
  ∃ actions, processEvent conf d s evt = .ok (next,actions) ∧ .send sent ∈ actions ∧ sent.msg.kind = .configure

/-- The session stores the CONFIGURE and sends one on. -/
structure Opens (conf : NfConfig) (d : Dispatcher) (s : NfSession) (m : NtlpMsg) (forThisNode : Bool) (sent : NtlpMsg)
    (next : NfSession) : Prop where
  sends : SendsConfigure conf d s (.msg m forThisNode) sent next
  waits : next.state = .pending
  other : s.state = .pending → ∀ previous, s.configureMessage = some previous →
    m.msg.getMsgSequenceNumber ≠ previous.msg.getMsgSequenceNumber

/-- Meanwhile no other CONFIGURE is stored. -/
def KeepsWaiting (conf : NfConfig) (s : NfSession) (label : Dispatcher × Event) (next : NfSession) : Prop :=
  Next conf s label next ∧ next.state = .pending ∧ ∀ m, label.2.ofKind .configure = some m →
    label.1.isAuthorized m = true → ∀ previous, s.configureMessage = some previous →
      m.msg.getMsgSequenceNumber = previous.msg.getMsgSequenceNumber

/-- Both ask the next node for the same. -/
def SameRequest (sent again : NtlpMsg) : Prop :=
  again.msg.getSessionLifetime = sent.msg.getSessionLifetime ∧ again.msg.getMspecObjects = sent.msg.getMspecObjects

/-- The node grants the lifetime and meters none of the objects. -/
def Unchanged (conf : NfConfig) (d : Dispatcher) (s : NfSession) (m : NtlpMsg) : Prop :=
  (s.state = .close → m.msg.getSessionLifetime ≤ conf.nfMaxSessionLifetime) ∧
    ∀ objects, m.msg.getMspecObjects = .ok objects →
      ∀ obj ∈ objects, d.admits .forwarder m.msg.getSelectionMeteringEntities obj = false

section
variable {conf : NfConfig} {d : Dispatcher} {s next : NfSession} {m sent again : NtlpMsg} {forThisNode : Bool}

/-- What is sent for a CONFIGURE that is stored. -/
structure Forwarded (conf : NfConfig) (d : Dispatcher) (s : NfSession) (m sent : NtlpMsg) (next : NfSession) : Prop where
  stored : next.configureMessage = some m.copy
  waits : next.state = .pending
  kind : m.msg.kind = .configure
  lifetime : sent.msg.getSessionLifetime =
    if s.state = .close then capped m.msg.getSessionLifetime conf.nfMaxSessionLifetime else m.msg.getSessionLifetime
  objects : ∃ objects, m.msg.getMspecObjects = .ok objects ∧ sent.msg.getMspecObjects =
      .ok (objects.filter fun obj => !d.admits .forwarder m.msg.getSelectionMeteringEntities obj) ∧
    next.rule = (selectObjects d .forwarder m.msg.getSelectionMeteringEntities s.rule objects).1

private theorem forwarded_of_accepts {t : NfSession} {actions : List Action} (kind : m.msg.kind = .configure)
    (accepts : Accepts d t m next actions) (rules : t.rule = s.rule) (member : .send sent ∈ actions)
    (lifetime : (if t.lifetime ≤ m.msg.getSessionLifetime then t.lifetime else m.msg.getSessionLifetime) =
      if s.state = .close then capped m.msg.getSessionLifetime conf.nfMaxSessionLifetime else m.msg.getSessionLifetime) :
    Forwarded conf d s m sent next := by
  cases accepts with
  | @intro mri objects missing rule pathcoupled downstream collected selected =>
    simp only [List.mem_cons,Action.send.injEq,reduceCtorEq,List.not_mem_nil,or_false] at member
    subst member
    have copies := MnslpMsg.copies_getMspecObjects collected
    have left : missing = objects.filter fun obj => !d.admits .forwarder m.msg.getSelectionMeteringEntities obj := by
      have chosen := @missing_selectObjects d .forwarder m.msg.getSelectionMeteringEntities t.rule objects
      rw [selected] at chosen
      dsimp only at chosen
      rw [chosen]
      exact Copies.map_eq fun obj member => copies obj (List.mem_filter.mp member).1
    have own : Copies missing := fun obj member => copies obj (List.mem_filter.mp (left ▸ member)).1
    have sent : (t.configureToForward m.msg missing).getMspecObjects =
        .ok (objects.filter fun obj => !d.admits .forwarder m.msg.getSelectionMeteringEntities obj) := by
      rw [(t.carries_configureToForward m.msg missing).getMspecObjects,own.map_eq,own.map_eq,left]
    rw [rules] at selected
    exact ⟨rfl,rfl,kind,(getSessionLifetime_configureToForward _ _ _).trans lifetime,objects,collected,sent,
      (congrArg Prod.fst selected).symm⟩

/-- Only a CONFIGURE that is stored is answered by one with the session waiting for it. -/
theorem Opens.forwarded (opens : Opens conf d s m forThisNode sent next) : Forwarded conf d s m sent next := by
  obtain ⟨⟨actions,ok,member,kind⟩,waits,other⟩ := opens
  cases step_of_processEvent ok with
  | closeAccepted state configure allowed positive accepts =>
    obtain ⟨⟨_,same⟩,configured⟩ := Event.ofKind_eq_some.mp configure
    cases same
    refine forwarded_of_accepts configured accepts rfl member ?_
    rw [if_pos state]
    exact if_pos (capped_le_left _ _)
  | pendingReplaced state configure stored authorized different accepts =>
    obtain ⟨⟨_,same⟩,configured⟩ := Event.ofKind_eq_some.mp configure
    cases same
    refine forwarded_of_accepts configured accepts rfl member ?_
    have opened : s.state ≠ .close := by simp [state]
    rw [if_neg opened]
    exact if_pos (UInt32.le_refl _)
  | pendingResent state configure stored authorized equal =>
    obtain ⟨⟨_,same⟩,_⟩ := Event.ofKind_eq_some.mp configure
    cases same
    exact absurd equal (other state _ stored)
  | pendingRejected =>
    cases Action.send.inj (List.mem_singleton.mp member)
    simp at kind
  | closeDiscarded | pendingIgnored => cases member
  | closeRejected state => exact State.noConfusion (state.symm.trans waits)
  | refreshRejected state | refreshDuplicate state | refreshForwarded state | refreshConfirmed state
  | meteringIgnored state => exact State.noConfusion (state.symm.trans waits)
  | closeNoPath | pendingTerminated | pendingNoPath | pendingNotReached | pendingInstalled | pendingInstallFailed
  | pendingRefused | meteringNotReached | meteringTimedOut | meteringBadRoute | teardownConfirmed | refreshRefused =>
    cases waits

theorem waits_step {label : Dispatcher × Event} (taken : KeepsWaiting conf s label next) (waits : s.state = .pending) :
    next.configureMessage = s.configureMessage := by
  obtain ⟨⟨actions,ok⟩,still,known⟩ := taken
  cases step_of_processEvent ok with
  | pendingReplaced state configure stored authorized different accepts =>
    exact absurd (known _ configure authorized _ stored) different
  | pendingRejected | pendingResent | pendingIgnored => rfl
  | closeRejected state | closeDiscarded state | closeNoPath state | closeAccepted state | refreshRejected state
  | refreshDuplicate state | refreshForwarded state | refreshConfirmed state | meteringIgnored state
  | meteringNotReached state | meteringTimedOut state | meteringBadRoute state | teardownConfirmed state
  | refreshRefused state => exact State.noConfusion (state.symm.trans waits)
  | pendingTerminated | pendingNoPath | pendingNotReached | pendingInstalled | pendingInstallFailed
  | pendingRefused => cases still

/-- The session waits for the RESPONSE to the same CONFIGURE as before. -/
theorem waits_run {labels : List (Dispatcher × Event)} {final : NfSession} (run : Run (KeepsWaiting conf) s labels final)
    (waits : s.state = .pending) : final.state = .pending ∧ final.configureMessage = s.configureMessage := by
  refine run.invariant (fun t => t.state = .pending ∧ t.configureMessage = s.configureMessage) ?_ ⟨waits,rfl⟩
  rintro t label next ⟨waiting,same⟩ taken
  exact ⟨taken.2.1,(waits_step taken waiting).trans same⟩

theorem sent_again (waits : s.state = .pending) (stored : s.configureMessage = some m.copy) (repeats : again.Repeats m)
    (sends : SendsConfigure conf d s (.msg again forThisNode) sent next) : sent = again.copyForForwarding := by
  obtain ⟨actions,ok,member,kind⟩ := sends
  obtain ⟨m',configure,⟨copied,_⟩ | ⟨t,_,_,closed | ⟨_,previous,found,different⟩⟩⟩ :=
    (step_of_processEvent ok).configure_sent member kind
  · obtain ⟨⟨_,same⟩,_⟩ := Event.ofKind_eq_some.mp configure
    cases same
    exact copied
  · rw [waits] at closed
    cases closed
  · obtain ⟨⟨_,same⟩,_⟩ := Event.ofKind_eq_some.mp configure
    cases same
    rw [stored] at found
    cases found
    exact absurd (repeats.number.trans (MnslpMsg.getMsgSequenceNumber_copy m.msg).symm) different

end

/-- A CONFIGURE that is sent again leaves the node as the first one did exactly if the node
left its lifetime and its objects as they were. -/
theorem resent_same_iff (conf : NfConfig) (d d' : Dispatcher) (s waiting resting next : NfSession)
    (m again sent resent : NtlpMsg) (first second : Bool) (labels : List (Dispatcher × Event))
    (opens : Opens conf d s m first sent waiting) (run : Run (KeepsWaiting conf) waiting labels resting)
    (repeats : again.Repeats m) (sends : SendsConfigure conf d' resting (.msg again second) resent next) :
    SameRequest sent resent ↔ Unchanged conf d s m := by
  have forwarded := opens.forwarded
  obtain ⟨resting,kept⟩ := waits_run run forwarded.waits
  have copied := sent_again resting (kept.trans forwarded.stored) repeats sends
  obtain ⟨objects,collected,left,_⟩ := forwarded.objects
  have lifetime : resent.msg.getSessionLifetime = m.msg.getSessionLifetime := by
    rw [copied]
    exact (MnslpMsg.getSessionLifetime_copy _).trans repeats.lifetime
  have all : resent.msg.getMspecObjects = .ok objects := by
    rw [copied]
    exact (MnslpMsg.getMspecObjects_copy _).trans (repeats.objects.trans collected)
  unfold SameRequest Unchanged
  rw [lifetime,all,forwarded.lifetime,left]
  refine and_congr ?_ ?_
  · by_cases closed : s.state = .close
    · rw [if_pos closed]
      constructor
      · intro same _
        rw [same]
        exact capped_le _ _
      · exact fun granted => (capped_of_le (granted closed)).symm
    · rw [if_neg closed]
      exact iff_of_true rfl fun other => absurd other closed
  · rw [Except.ok.injEq,eq_comm,List.filter_eq_self]
    constructor
    · intro none other found obj member
      rw [collected] at found
      cases found
      simpa using none obj member
    · intro none obj member
      simpa using none objects collected obj member

/-- A forwarder with a maximum of a hundred seconds that gets a CONFIGURE for a thousand
seconds twice. -/
theorem resent_differs : ¬ ∀ (conf : NfConfig) (d d' : Dispatcher) (s waiting resting next : NfSession)
    (m again sent resent : NtlpMsg) (first second : Bool) (labels : List (Dispatcher × Event)),
    Opens conf d s m first sent waiting → Run (KeepsWaiting conf) waiting labels resting → again.Repeats m →
    SendsConfigure conf d' resting (.msg again second) resent next → SameRequest sent resent := by
  intro always
  let m : NtlpMsg := .sample .configure 1 1000
  have same := always ⟨100⟩ .willing .willing (new 0) _ _ _ m m _ _ false false []
    ⟨⟨_,rfl,.head _,rfl⟩,rfl,fun waits => State.noConfusion waits⟩ (.nil _) ⟨rfl,rfl,rfl,rfl⟩ ⟨_,rfl,.head _,rfl⟩
  exact absurd same.1 (by decide)

/-- For a minute it is the same CONFIGURE. -/
theorem resent_same : ∃ sent resent, SameRequest sent resent ↔
    Unchanged ⟨100⟩ .willing (new 0) (.sample .configure 1 60) :=
  let m : NtlpMsg := .sample .configure 1 60
  ⟨_,_,resent_same_iff ⟨100⟩ .willing .willing (new 0) _ _ _ m m _ _ false false []
    ⟨⟨_,rfl,.head _,rfl⟩,rfl,fun waits => State.noConfusion waits⟩ (.nil _) ⟨rfl,rfl,rfl,rfl⟩ ⟨_,rfl,.head _,rfl⟩⟩

end NfSession
end Mnslp.Session
