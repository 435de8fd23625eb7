import Mnslp.Session.Life

/-! A session that waits has a timer that will move it on. -/
namespace Mnslp.Session
open Mnslp.Lib Mnslp.Msg
namespace NodeSession

/-- The timers after a turn: its event is consumed, then it starts its own. -/
def ticking (ids : List Nat) (turn : Turn) : List Nat :=
  ids.filter (fun id => !turn.evt.isTimer id) ++ Action.starts turn.actions

/-- The timers that were started and whose events were not consumed. -/
def running (past : List Turn) : List Nat := past.foldl ticking []

/-- Where the timer of a waiting session is. -/
def Armed (ids : List Nat) : NodeSession → Prop
  | .initiator s => (s.state = .pending → s.responseTimer ∈ ids) ∧
      (s.state = .metering → s.refreshTimer ∈ ids ∨ s.responseTimer ∈ ids)
  | .forwarder s => s.state ≠ .close → s.stateTimer ∈ ids
  | .responder s => s.state ≠ .close → s.stateTimer ∈ ids

theorem mem_ticking_of_mem {ids : List Nat} {turn : Turn} {id : Nat} (member : id ∈ ids)
    (other : turn.evt.isTimer id = false) : id ∈ ticking ids turn :=
  List.mem_append_left _ (List.mem_filter.mpr ⟨member,by simp [other]⟩)

theorem mem_ticking_of_started {ids : List Nat} {turn : Turn} {id : Nat}
    (started : id ∈ Action.starts turn.actions) : id ∈ ticking ids turn := List.mem_append_right _ started

theorem isTimer_of_ofKind {evt : Event} {kind : MsgKind} {m : NtlpMsg} (found : evt.ofKind kind = some m) (id : Nat) :
    evt.isTimer id = false := by
  obtain ⟨⟨_,rfl⟩,_⟩ := Event.ofKind_eq_some.mp found
  rfl

section
variable {d : Dispatcher} {evt : Event} {actions : List Action} {ids : List Nat}

private theorem initiator_armed {s next : NiSession} (armed : Armed ids (.initiator s))
    (step : NiSession.Step d s evt next actions) : Armed (ticking ids ⟨d,evt,actions⟩) (.initiator next) := by
  cases step with
  | configured state =>
    refine ⟨fun _ => mem_ticking_of_started ?_,fun other => ?_⟩
    · split <;> simp [NiSession.opened]
    · cases other
  | closeIgnored state => exact ⟨fun other => by simp [state] at other,fun other => by simp [state] at other⟩
  | pendingRetried state =>
    exact ⟨fun _ => mem_ticking_of_started (by simp),fun other => by simp [state] at other⟩
  | pendingGivenUp | pendingNotReached | pendingTeardown | pendingRefused | refreshGivenUp | meteringTeardown
  | refreshRefused => exact ⟨fun other => State.noConfusion other,fun other => State.noConfusion other⟩
  | pendingInstalled state =>
    obtain ⟨interval,adopted⟩ := NiSession.adopting_eq d s _
    refine ⟨fun other => State.noConfusion other,fun _ => .inl (mem_ticking_of_started ?_)⟩
    rw [adopted]
    simp
  | pendingIgnored state still unanswered waiting =>
    exact ⟨fun _ => mem_ticking_of_mem (armed.1 state) waiting,fun other => by simp [state] at other⟩
  | refreshed state | refreshRetried state =>
    exact ⟨fun other => by simp [state] at other,fun _ => .inr (mem_ticking_of_started (by simp))⟩
  | refreshConfirmed state =>
    exact ⟨fun other => by simp [state] at other,fun _ => .inl (mem_ticking_of_started (by simp))⟩
  | meteringIgnored state still unanswered resting waiting =>
    refine ⟨fun other => by simp [state] at other,fun _ => ?_⟩
    rcases armed.2 state with refresh | response
    · exact .inl (mem_ticking_of_mem refresh resting)
    · exact .inr (mem_ticking_of_mem response waiting)

private theorem forwarder_armed {conf : NfConfig} {s next : NfSession} (armed : Armed ids (.forwarder s))
    (step : NfSession.Step conf d s evt next actions) : Armed (ticking ids ⟨d,evt,actions⟩) (.forwarder next) := by
  have accepted {from' : NfSession} {m : NtlpMsg} (accepts : NfSession.Accepts d from' m next actions) :
      Armed (ticking ids ⟨d,evt,actions⟩) (.forwarder next) := by
    cases accepts
    exact fun _ => mem_ticking_of_started (by simp [NfSession.accepted])
  have kept {kind : MsgKind} {m : NtlpMsg} (isOpen : s.state ≠ .close) (found : evt.ofKind kind = some m) :
      s.stateTimer ∈ ticking ids ⟨d,evt,actions⟩ :=
    mem_ticking_of_mem (armed isOpen) (isTimer_of_ofKind found _)
  cases step with
  | closeRejected state | closeDiscarded state =>
    intro other
    exact absurd state other
  | closeAccepted _ _ _ _ accepts | pendingReplaced _ _ _ _ _ accepts => exact accepted accepts
  | pendingRejected state configure => exact fun isOpen => kept isOpen configure
  | refreshRejected state refresh | refreshDuplicate state refresh | refreshForwarded state refresh =>
    exact fun isOpen => kept isOpen refresh
  | pendingResent | pendingInstalled | refreshConfirmed => exact fun _ => mem_ticking_of_started (by simp)
  | pendingIgnored state configure asked unanswered waiting =>
    exact fun isOpen => mem_ticking_of_mem (armed isOpen) waiting
  | meteringIgnored state refresh stored unanswered waiting holding =>
    exact fun isOpen => mem_ticking_of_mem (armed isOpen) holding
  | closeNoPath | pendingTerminated | pendingNoPath | pendingNotReached | pendingInstallFailed | pendingRefused
  | meteringNotReached | meteringTimedOut | meteringBadRoute | teardownConfirmed | refreshRefused =>
    exact fun isOpen => absurd rfl isOpen

private theorem responder_armed {s next : NrSession} (armed : Armed ids (.responder s))
    (step : NrSession.Step d s evt next actions) : Armed (ticking ids ⟨d,evt,actions⟩) (.responder next) := by
  cases step with
  | closeRejected state | closeZero state | closeIncomplete state | closeInstallFailed state | closeIgnored state =>
    intro other
    exact absurd state other
  | closeInstalled | refreshed => exact fun _ => mem_ticking_of_started (by simp)
  | refreshRejected state refresh | refreshDuplicate state refresh =>
    exact fun isOpen => mem_ticking_of_mem (armed isOpen) (isTimer_of_ofKind refresh _)
  | meteringIgnored state refresh holding => exact fun isOpen => mem_ticking_of_mem (armed isOpen) holding
  | tornDown | timedOut => exact fun isOpen => absurd rfl isOpen

end

theorem armed_next {net : Network} {i : Nat} {s next : NodeSession} {turn : Turn} {ids : List Nat} (armed : Armed ids s)
    (taken : Next net i s turn next) : Armed (ticking ids turn) next := by
  obtain ⟨_,ok⟩ := taken
  cases s with
  | initiator s =>
    obtain ⟨s',rfl,step⟩ := initiator_step ok
    exact initiator_armed armed step
  | forwarder s =>
    obtain ⟨s',rfl,step⟩ := forwarder_step ok
    exact forwarder_armed armed step
  | responder s =>
    obtain ⟨s',rfl,step⟩ := responder_step ok
    exact responder_armed armed step

theorem armed_of_isNew {s : NodeSession} (isNew : s.IsNew) : Armed [] s := by
  cases isNew with
  | initiator => exact ⟨fun other => State.noConfusion other,fun other => State.noConfusion other⟩
  | forwarder | responder => exact fun isOpen => absurd rfl isOpen

theorem armed_run {net : Network} {i : Nat} {start s : NodeSession} {past : List Turn} (isNew : start.IsNew)
    (run : Run (Next net i) start past s) : Armed (running past) s := by
  refine run.history (fun past s => Armed (running past) s) ?_ (armed_of_isNew isNew)
  intro past s turn next armed taken
  rw [running,List.foldl_append]
  exact armed_next armed taken

theorem started_of_running {past : List Turn} {id : Nat} (member : id ∈ running past) :
    ∃ turn ∈ past, id ∈ Action.starts turn.actions := by
  induction past using List.reverseRecOn with
  | nil => cases member
  | append_singleton past turn ih =>
    rw [running,List.foldl_append] at member
    rcases List.mem_append.mp member with old | new
    · obtain ⟨earlier,inside,started⟩ := ih (List.mem_of_mem_filter old)
      exact ⟨earlier,List.mem_append_left _ inside,started⟩
    · exact ⟨turn,List.mem_append_right _ (List.mem_singleton.mpr rfl),new⟩

/-- A session in PENDING or METERING is never stuck: one of its timers runs. -/
theorem never_stuck (net : Network) (i : Nat) (start s : NodeSession) (past : List Turn) (isNew : start.IsNew)
    (run : Run (Next net i) start past s)
    (nonzero : ∀ turn ∈ past, ∀ id ∈ Action.starts turn.actions, id ≠ 0) (waits : s.state ≠ .close) :
    ∃ id ∈ s.timers, id ≠ 0 ∧ id ∈ running past := by
  have armed := armed_run isNew run
  have valid (id : Nat) (member : id ∈ running past) : id ≠ 0 := by
    obtain ⟨turn,inside,started⟩ := started_of_running member
    exact nonzero turn inside id started
  cases s with
  | initiator s =>
    have which : s.responseTimer ∈ running past ∨ s.refreshTimer ∈ running past := by
      cases state : s.state with
      | close => exact absurd state waits
      | pending => exact .inl (armed.1 state)
      | metering => exact (armed.2 state).symm
    rcases which with response | refresh
    · exact ⟨s.responseTimer,by simp [timers],valid _ response,response⟩
    · exact ⟨s.refreshTimer,by simp [timers],valid _ refresh,refresh⟩
  | forwarder s => exact ⟨s.stateTimer,by simp [timers],valid _ (armed waits),armed waits⟩
  | responder s => exact ⟨s.stateTimer,by simp [timers],valid _ (armed waits),armed waits⟩

/-- A responder in METERING waits for its state timer. -/
theorem never_stuck_metering : ∃ past s, Run (Next .direct 1) (.responder (.new 0 ⟨100⟩)) past s ∧
    s.state = .metering ∧ ∃ id ∈ s.timers, id ≠ 0 ∧ id ∈ running past := by
  have isNew : IsNew (.responder (.new 0 ⟨100⟩)) := .responder 0 ⟨100⟩
  have installs : processEvent .direct 1 .willing (.responder (.new 0 ⟨100⟩)) (.msg (.sample .configure 1 60) true) =
    .ok (_,_) := rfl
  have run : Run (Next .direct 1) (.responder (.new 0 ⟨100⟩)) [⟨_,_,_⟩] _ := .single ⟨.inl isNew,installs⟩
  refine ⟨_,_,run,rfl,never_stuck .direct 1 _ _ _ isNew run ?_ (by decide)⟩
  intro turn member id started
  cases List.mem_singleton.mp member
  cases List.mem_singleton.mp started
  decide

end NodeSession
end Mnslp.Session
