import Mnslp.Session.Network

/-! The lifetimes along a path. Every node takes the smaller of what its neighbour asks
for and its own maximum, and the RESPONSE of the responder carries the smallest. A
forwarder that passes a repeated CONFIGURE on as it came breaks the agreement. -/
namespace Mnslp.Session
open Mnslp.Lib Mnslp.Msg
namespace Network

/-- The maximum of a node behind the initiator. -/
def maxLifetime (net : Network) (i : Nat) : UInt32 :=
  if i ≤ net.forwarders then (net.nfConf i).nfMaxSessionLifetime else net.nrConf.nrMaxSessionLifetime

/-- What node `i` leaves of a requested lifetime. -/
def granted (net : Network) (requested : UInt32) : Nat → UInt32
  | 0 => requested
  | i + 1 => capped (net.granted requested i) (net.maxLifetime (i + 1))

theorem granted_le (net : Network) (requested : UInt32) {i j : Nat} (before : i ≤ j) :
    net.granted requested j ≤ net.granted requested i := by
  induction before with
  | refl => exact UInt32.le_refl _
  | step _ ih => exact UInt32.le_trans (capped_le_left _ _) ih

section
variable (net : Network) (requested number : UInt32)

def agreed : UInt32 := net.granted requested (net.forwarders + 1)

theorem agreed_le_granted {i : Nat} (inside : i ≤ net.forwarders + 1) : net.agreed requested ≤ net.granted requested i :=
  net.granted_le requested inside

theorem agreed_le_maxLifetime {i : Nat} (inside : i + 1 ≤ net.forwarders + 1) :
    net.agreed requested ≤ net.maxLifetime (i + 1) :=
  UInt32.le_trans (net.agreed_le_granted requested inside) (capped_le _ _)

/-- A success RESPONSE to the CONFIGURE carries the lifetime all nodes agree on. -/
def Answers (m : NtlpMsg) : Prop :=
  m.msg.isSuccess = true → m.msg.getMsgSequenceNumber = number → m.msg.getSessionLifetime = net.agreed requested

/-- What may be on its way to the responder behind node `i`. -/
inductive Down (i : Nat) (m : NtlpMsg) : Prop
  | configure (kind : m.msg.kind = .configure) (goesDown : m.goesDown = true)
      (msn : m.msg.getMsgSequenceNumber = number) (lifetime : m.msg.getSessionLifetime = net.granted requested i)
  | refresh (kind : m.msg.kind = .refresh) (goesDown : m.goesDown = true)
      (lifetime : m.msg.getSessionLifetime = net.agreed requested ∨
        m.msg.getSessionLifetime = 0 ∧ m.msg.getMsgSequenceNumber ≠ number)
  | response (kind : m.msg.kind = .response) (answers : net.Answers requested number m)

structure Up (m : NtlpMsg) : Prop where
  kind : m.msg.kind = .response
  answers : net.Answers requested number m

structure Outgoing (i : Nat) (m : NtlpMsg) : Prop where
  down : m.goesDown = true → net.Down requested number i m
  up : m.goesDown = false → net.Up requested number m

/-- What node `i + 1` may receive. -/
def Incoming (i : Nat) (m : NtlpMsg) : Prop := net.Down requested number i m ∨ net.Up requested number m

end

section
variable {net : Network} {requested number : UInt32} {i : Nat} {m : NtlpMsg}

theorem Incoming.ofConfigure (incoming : net.Incoming requested number i m) (kind : m.msg.kind = .configure) :
    m.goesDown = true ∧ m.msg.getMsgSequenceNumber = number ∧
      m.msg.getSessionLifetime = net.granted requested i := by
  rcases incoming with down | up
  · cases down with
    | configure _ goesDown msn lifetime => exact ⟨goesDown,msn,lifetime⟩
    | refresh other => simp [kind] at other
    | response other => simp [kind] at other
  · simpa [kind] using up.kind

theorem Incoming.ofRefresh (incoming : net.Incoming requested number i m) (kind : m.msg.kind = .refresh) :
    m.goesDown = true ∧ (m.msg.getSessionLifetime = net.agreed requested ∨
      m.msg.getSessionLifetime = 0 ∧ m.msg.getMsgSequenceNumber ≠ number) := by
  rcases incoming with down | up
  · cases down with
    | configure other => simp [kind] at other
    | refresh _ goesDown lifetime => exact ⟨goesDown,lifetime⟩
    | response other => simp [kind] at other
  · simpa [kind] using up.kind

theorem Incoming.ofResponse (incoming : net.Incoming requested number i m) (kind : m.msg.kind = .response) :
    net.Answers requested number m := by
  rcases incoming with down | up
  · cases down with
    | configure other => simp [kind] at other
    | refresh other => simp [kind] at other
    | response _ answers => exact answers
  · exact up.answers

/-- The same for the message of an event, if it has one. -/
def IncomingEvent (net : Network) (requested number : UInt32) (i : Nat) (evt : Event) : Prop :=
  ∀ m forThisNode, evt = .msg m forThisNode → net.Incoming requested number i m

theorem IncomingEvent.ofConfigure {evt : Event} (incoming : net.IncomingEvent requested number i evt)
    (configure : evt.ofKind .configure = some m) : m.msg.kind = .configure ∧ m.goesDown = true ∧
      m.msg.getMsgSequenceNumber = number ∧ m.msg.getSessionLifetime = net.granted requested i := by
  obtain ⟨⟨forThisNode,sent⟩,kind⟩ := Event.ofKind_eq_some.mp configure
  exact ⟨kind,(incoming m forThisNode sent).ofConfigure kind⟩

theorem IncomingEvent.ofRefresh {evt : Event} (incoming : net.IncomingEvent requested number i evt)
    (refresh : evt.ofKind .refresh = some m) : m.msg.kind = .refresh ∧ m.goesDown = true ∧
      (m.msg.getSessionLifetime = net.agreed requested ∨
        m.msg.getSessionLifetime = 0 ∧ m.msg.getMsgSequenceNumber ≠ number) := by
  obtain ⟨⟨forThisNode,sent⟩,kind⟩ := Event.ofKind_eq_some.mp refresh
  exact ⟨kind,(incoming m forThisNode sent).ofRefresh kind⟩

theorem IncomingEvent.ofResponse {evt : Event} {request : NtlpMsg}
    (incoming : net.IncomingEvent requested number i evt) (response : evt.mnslpResponse request = some m) :
    m.msg.kind = .response ∧ net.Answers requested number m := by
  obtain ⟨⟨forThisNode,sent⟩,kind⟩ := Event.ofKind_eq_some.mp (Event.mnslpResponse_eq_some.mp response).1
  exact ⟨kind,(incoming m forThisNode sent).ofResponse kind⟩

theorem Outgoing.ofResponse (kind : m.msg.kind = .response) (answers : net.Answers requested number m) :
    net.Outgoing requested number i m := ⟨fun _ => .response kind answers,fun _ => ⟨kind,answers⟩⟩

theorem Outgoing.ofFailure {severity responseCode : UInt8} (failure : severity ≠ MnslpMsg.scSuccess) :
    net.Outgoing requested number i (m.createResponse severity responseCode) := by
  refine .ofResponse (NtlpMsg.kind_createResponse _ _ _) fun success => ?_
  simp [MnslpMsg.isSuccess,failure] at success

theorem Outgoing.ofSuccess {lifetime : UInt32}
    (agrees : m.msg.getMsgSequenceNumber = number → lifetime = net.agreed requested) :
    net.Outgoing requested number i (m.createSuccessResponse lifetime) := by
  refine .ofResponse (NtlpMsg.kind_createSuccessResponse _ _) fun _ msn => ?_
  simp only [MnslpMsg.getMsgSequenceNumber,NtlpMsg.msgSequenceNumber?_createSuccessResponse] at msn
  simpa [MnslpMsg.getSessionLifetime] using agrees msn

theorem Outgoing.ofForwarded (kind : m.msg.kind = .response) (answers : net.Answers requested number m) :
    net.Outgoing requested number i m.copyForForwarding := by
  refine .ofResponse (by simpa [NtlpMsg.copyForForwarding] using kind) ?_
  simpa [Answers,NtlpMsg.copyForForwarding] using answers

theorem Outgoing.ofDown (goesDown : m.goesDown = true) (down : net.Down requested number i m) :
    net.Outgoing requested number i m := ⟨fun _ => down,fun up => by simp [goesDown] at up⟩

end

section
variable (net : Network) (requested number : UInt32)

/-- The session of forwarder `i`. -/
structure ForwarderAgrees (i : Nat) (s : NfSession) : Prop where
  maxLifetime : s.state ≠ .close → s.maxLifetime = net.maxLifetime i
  nrMri : ∀ mri, s.nrMri = some mri → mri.goesDown = true
  stored : ∀ c, s.configureMessage = some c → c.msg.getMsgSequenceNumber = number
  pending : s.state = .pending → s.lifetime = net.granted requested i ∧ s.msn = number
  metering : s.state = .metering → net.agreed requested ≤ s.lifetime

variable {net requested number} in
theorem ForwarderAgrees.closed {i : Nat} {s other : NfSession} (agrees : net.ForwarderAgrees requested number i s)
    (state : other.state = .close) (nrMri : other.nrMri = s.nrMri)
    (stored : ∀ c, other.configureMessage = some c → c.msg.getMsgSequenceNumber = number) :
    net.ForwarderAgrees requested number i other where
  maxLifetime open' := absurd state open'
  nrMri := by
    rw [nrMri]
    exact agrees.nrMri
  stored := stored
  pending open' := by simp [state] at open'
  metering open' := by simp [state] at open'

theorem forwarderAgrees_new (i : Nat) (id : SessionId) : net.ForwarderAgrees requested number i (.new id) where
  maxLifetime := by simp [NfSession.new]
  nrMri := by simp [NfSession.new]
  stored := by simp [NfSession.new]
  pending := by simp [NfSession.new]
  metering := by simp [NfSession.new]

end

/-- A forwarder in PENDING that gets its CONFIGURE again gets it with no longer a lifetime
than its own. -/
def ResentCapped (s : NfSession) (m : NtlpMsg) : Prop :=
  s.state = .pending → m.msg.kind = .configure →
    ∀ previous, s.configureMessage = some previous →
      m.msg.getMsgSequenceNumber = previous.msg.getMsgSequenceNumber → m.msg.getSessionLifetime ≤ s.lifetime

/-- A REFRESH of lifetime 0 that a forwarder in METERING passes on. -/
def TearsDown (d : Dispatcher) (s : NfSession) (m : NtlpMsg) : Prop :=
  s.state = .metering ∧ m.msg.kind = .refresh ∧ m.msg.getSessionLifetime = 0 ∧ d.isAuthorized m = true ∧
    isGreaterThan m.msg.getMsgSequenceNumber s.msn = true

section
variable {net : Network} {requested number : UInt32} {i : Nat} {conf : NfConfig} {d : Dispatcher} {s next : NfSession}
  {evt : Event} {actions : List Action}

private theorem goesDown_sent (m : NtlpMsg) : m.copyForForwarding.goesDown = m.goesDown := rfl

/-- A CONFIGURE that a forwarder accepts leaves with the lifetime granted at this node. -/
private theorem accepts_agrees {m : NtlpMsg} (state : s.maxLifetime = net.maxLifetime (i + 1))
    (lifetime : s.lifetime = net.granted requested (i + 1)) (msn : s.msn = number)
    (nrNumber : m.msg.getMsgSequenceNumber = number) (asked : m.msg.getSessionLifetime = net.granted requested i)
    (accepts : NfSession.Accepts d s m next actions) :
    net.ForwarderAgrees requested number (i + 1) next ∧
      ∀ sent, .send sent ∈ actions → net.Outgoing requested number (i + 1) sent := by
  cases accepts with
  | intro pathcoupled downstream collected selected =>
    constructor
    · refine ⟨fun _ => state,fun mri found => ?_,fun c stored => ?_,fun _ => ⟨lifetime,msn⟩,fun other => ?_⟩
      · cases found
        exact downstream
      · cases stored
        simpa [NtlpMsg.copy] using nrNumber
      · cases other
    · intro sent member
      simp only [List.mem_cons,Action.send.injEq,reduceCtorEq,List.not_mem_nil,or_false] at member
      subst member
      refine .ofDown downstream (.configure (NfSession.kind_configureToForward _ _ _) downstream ?_ ?_)
      · simpa [MnslpMsg.getMsgSequenceNumber] using nrNumber
      · have smaller : s.lifetime ≤ m.msg.getSessionLifetime := by
          rw [lifetime,asked]
          exact net.granted_le requested (Nat.le_succ i)
        rw [NfSession.getSessionLifetime_configureToForward,if_pos smaller,lifetime]

private theorem first_agrees {m : NtlpMsg} (inside : i + 1 ≤ net.forwarders) (conf_eq : conf = net.nfConf (i + 1))
    (incoming : net.IncomingEvent requested number i evt) (configure : evt.ofKind .configure = some m)
    (accepts : NfSession.Accepts d
      ((s.configured conf).taking (capped m.msg.getSessionLifetime conf.nfMaxSessionLifetime) m) m next actions) :
    net.ForwarderAgrees requested number (i + 1) next ∧
      ∀ sent, .send sent ∈ actions → net.Outgoing requested number (i + 1) sent := by
  obtain ⟨_,_,msn,asked⟩ := incoming.ofConfigure configure
  have max : conf.nfMaxSessionLifetime = net.maxLifetime (i + 1) := by
    rw [conf_eq,maxLifetime,if_pos inside]
  refine accepts_agrees max ?_ msn msn asked accepts
  simp only [NfSession.taking]
  rw [asked,max,granted]

private theorem numbered {m previous : NtlpMsg} (agrees : net.ForwarderAgrees requested number (i + 1) s)
    (incoming : net.IncomingEvent requested number i evt) (configure : evt.ofKind .configure = some m)
    (stored : s.configureMessage = some previous) : m.msg.getMsgSequenceNumber = previous.msg.getMsgSequenceNumber :=
  (incoming.ofConfigure configure).2.2.1.trans (agrees.stored _ stored).symm

/-- A REFRESH that is passed on, and is no teardown, asks for the agreed lifetime. -/
private theorem refresh_kept {m : NtlpMsg} (incoming : net.IncomingEvent requested number i evt)
    (stays : ∀ m forThisNode, evt = .msg m forThisNode → ¬ TearsDown d s m) (state : s.state = .metering)
    (refresh : evt.ofKind .refresh = some m) (allowed : m.msg.getSessionLifetime > s.maxLifetime ∨ d.isAuthorized m = true)
    (newer : isGreaterThan m.msg.getMsgSequenceNumber s.msn = true) : m.msg.getSessionLifetime = net.agreed requested := by
  obtain ⟨kind,_,lifetime⟩ := incoming.ofRefresh refresh
  obtain ⟨⟨forThisNode,sent⟩,_⟩ := Event.ofKind_eq_some.mp refresh
  rcases lifetime with same | ⟨zero,_⟩
  · exact same
  · have authorized : d.isAuthorized m = true := allowed.resolve_left (by rw [zero]; exact UInt32.not_lt_zero)
    exact absurd ⟨state,kind,zero,authorized,newer⟩ (stays m forThisNode sent)

private theorem forwarderAgrees_next (inside : i + 1 ≤ net.forwarders) (conf_eq : conf = net.nfConf (i + 1))
    (agrees : net.ForwarderAgrees requested number (i + 1) s)
    (incoming : net.IncomingEvent requested number i evt)
    (stays : ∀ m forThisNode, evt = .msg m forThisNode → ¬ TearsDown d s m)
    (step : NfSession.Step conf d s evt next actions) : net.ForwarderAgrees requested number (i + 1) next := by
  cases step with
  | closeRejected state | closeDiscarded state => exact agrees.closed state rfl agrees.stored
  | closeNoPath state configure =>
    refine agrees.closed rfl rfl fun c stored => ?_
    cases stored
    simpa [NtlpMsg.copy] using (incoming.ofConfigure configure).2.2.1
  | closeAccepted state configure allowed positive accepts => exact (first_agrees inside conf_eq incoming configure accepts).1
  | pendingNoPath state configure stored authorized different | pendingReplaced state configure stored authorized different =>
    exact absurd (numbered agrees incoming configure stored) different
  | pendingInstalled state =>
    refine ⟨fun _ => agrees.maxLifetime (by simp [state]),agrees.nrMri,agrees.stored,
      fun other => State.noConfusion other,fun _ => ?_⟩
    have held := (agrees.pending state).1
    change net.agreed requested ≤ s.lifetime
    rw [held]
    exact net.agreed_le_granted requested (by omega)
  | refreshForwarded state refresh allowed newer =>
    rename_i m
    have most := agrees.maxLifetime (by simp [state])
    refine ⟨fun _ => most,agrees.nrMri,agrees.stored,fun other => ?_,fun _ => ?_⟩
    · simp [state] at other
    · change net.agreed requested ≤ capped m.msg.getSessionLifetime s.maxLifetime
      rw [refresh_kept incoming stays state refresh allowed newer,most,
        capped_of_le (net.agreed_le_maxLifetime requested (by omega))]
      exact UInt32.le_refl _
  | pendingTerminated | pendingNotReached | pendingInstallFailed | pendingRefused | meteringNotReached | meteringTimedOut
  | meteringBadRoute | teardownConfirmed | refreshRefused => exact agrees.closed rfl rfl agrees.stored
  | pendingRejected | pendingResent | pendingIgnored | refreshRejected | refreshDuplicate | refreshConfirmed
  | meteringIgnored => exact ⟨agrees.maxLifetime,agrees.nrMri,agrees.stored,agrees.pending,agrees.metering⟩

/-- What one event does to a forwarder, if it repeats its CONFIGURE capped and no
teardown comes by. -/
theorem forwarderAgrees_step (inside : i + 1 ≤ net.forwarders) (conf_eq : conf = net.nfConf (i + 1))
    (agrees : net.ForwarderAgrees requested number (i + 1) s)
    (incoming : net.IncomingEvent requested number i evt)
    (resent : ∀ m forThisNode, evt = .msg m forThisNode → ResentCapped s m)
    (stays : ∀ m forThisNode, evt = .msg m forThisNode → ¬ TearsDown d s m)
    (step : NfSession.Step conf d s evt next actions) :
    net.ForwarderAgrees requested number (i + 1) next ∧
      ∀ sent, .send sent ∈ actions → net.Outgoing requested number (i + 1) sent := by
  refine ⟨forwarderAgrees_next inside conf_eq agrees incoming stays step,fun sent member => ?_⟩
  cases step.origin member with
  | first state configure accepts => exact (first_agrees inside conf_eq incoming configure accepts).2 sent member
  | replaced state configure stored different => exact absurd (numbered agrees incoming configure stored) different
  | terminated state configure stored greater =>
    rw [numbered agrees incoming configure stored] at greater
    exact absurd greater (UInt32.lt_irrefl _)
  | resent state configure stored same =>
    rename_i m previous
    obtain ⟨kind,goesDown,msn,asked⟩ := incoming.ofConfigure configure
    obtain ⟨⟨forThisNode,sent⟩,_⟩ := Event.ofKind_eq_some.mp configure
    have low := resent m forThisNode sent state kind previous stored same
    rw [asked,(agrees.pending state).1] at low
    have equal := UInt32.le_antisymm low (net.granted_le requested (Nat.le_succ i))
    refine .ofDown (by rw [goesDown_sent,goesDown]) (.configure ?_ (by rw [goesDown_sent,goesDown]) ?_ ?_)
    · simpa [NtlpMsg.copyForForwarding] using kind
    · simpa [NtlpMsg.copyForForwarding] using msn
    · simpa [NtlpMsg.copyForForwarding] using asked.trans equal
  | refresh state refresh allowed newer =>
    obtain ⟨kind,goesDown,_⟩ := incoming.ofRefresh refresh
    have kept := refresh_kept incoming stays state refresh allowed newer
    refine .ofDown (by rw [goesDown_sent,goesDown]) (.refresh ?_ (by rw [goesDown_sent,goesDown]) (.inl ?_))
    · simpa [NtlpMsg.copyForForwarding] using kind
    · simpa [NtlpMsg.copyForForwarding] using kept
  | response answer => exact .ofForwarded (incoming.ofResponse answer).1 (incoming.ofResponse answer).2
  | rejected | notReached | installFailed => exact .ofFailure (by decide)
  | teardown state stored response success installed incomplete removable nrMri =>
    have goesDown := agrees.nrMri _ nrMri
    refine .ofDown goesDown (.refresh (NtlpMsg.kind_refreshRequest _ _) goesDown (.inr ⟨?_,?_⟩))
    · simp [MnslpMsg.getSessionLifetime]
    · simp [MnslpMsg.getMsgSequenceNumber,(agrees.pending state).2]

end

section
variable (net : Network) (requested number : UInt32)

structure ResponderAgrees (s : NrSession) : Prop where
  maxLifetime : s.maxLifetime = net.maxLifetime (net.forwarders + 1)
  metering : s.state = .metering → net.agreed requested ≤ s.lifetime

structure InitiatorAgrees (s : NiSession) : Prop where
  isOpen : s.state ≠ .close
  stored : s.state = .pending → ∃ c, s.lastConfigureMsg = some c ∧ c.msg.kind = .configure ∧
    c.msg.getMsgSequenceNumber = number ∧ c.msg.getSessionLifetime = requested
  metering : s.state = .metering → s.lifetime = net.agreed requested
  refresh : ∀ r, s.lastRefreshMsg = some r → r.msg.kind = .refresh ∧ r.msg.getSessionLifetime = net.agreed requested

end

section
variable {net : Network} {requested number : UInt32} {d : Dispatcher} {evt : Event} {actions : List Action}

theorem responderAgrees_new (id : SessionId) : net.ResponderAgrees requested (.new id net.nrConf) where
  maxLifetime := by simp [NrSession.new,maxLifetime]
  metering := by simp [NrSession.new]

private theorem granted_configure {s : NrSession} {m : NtlpMsg} (agrees : net.ResponderAgrees requested s)
    (incoming : net.IncomingEvent requested number net.forwarders evt) (configure : evt.ofKind .configure = some m) :
    capped m.msg.getSessionLifetime s.maxLifetime = net.agreed requested := by
  obtain ⟨_,_,_,asked⟩ := incoming.ofConfigure configure
  rw [asked,agrees.maxLifetime,agreed,granted]

private theorem granted_refresh {s : NrSession} {m : NtlpMsg} (agrees : net.ResponderAgrees requested s)
    (incoming : net.IncomingEvent requested number net.forwarders evt) (refresh : evt.ofKind .refresh = some m) :
    capped m.msg.getSessionLifetime s.maxLifetime = net.agreed requested ∨
      capped m.msg.getSessionLifetime s.maxLifetime = 0 ∧ m.msg.getMsgSequenceNumber ≠ number := by
  obtain ⟨_,_,same | ⟨zero,different⟩⟩ := incoming.ofRefresh refresh
  · rw [same,agrees.maxLifetime,capped_of_le (net.agreed_le_maxLifetime requested (Nat.le_refl _))]
    exact .inl rfl
  · rw [zero]
    exact .inr ⟨UInt32.le_antisymm (capped_le_left _ _) UInt32.zero_le,different⟩

private theorem responderAgrees_next {s next : NrSession} (agrees : net.ResponderAgrees requested s)
    (incoming : net.IncomingEvent requested number net.forwarders evt) (step : NrSession.Step d s evt next actions) :
    net.ResponderAgrees requested next := by
  have closed (other : NrSession) (state : other.state = .close) (max : other.maxLifetime = s.maxLifetime) :
      net.ResponderAgrees requested other := ⟨max.trans agrees.maxLifetime,fun open' => by simp [state] at open'⟩
  cases step with
  | closeRejected state | closeZero state | closeIncomplete state | closeInstallFailed state | closeIgnored state =>
    exact closed _ state rfl
  | closeInstalled state configure =>
    refine ⟨agrees.maxLifetime,fun _ => ?_⟩
    exact UInt32.le_of_eq (granted_configure agrees incoming configure).symm
  | refreshed state refresh newer positive =>
    refine ⟨agrees.maxLifetime,fun _ => ?_⟩
    have kept := (granted_refresh agrees incoming refresh).resolve_right fun other => positive other.1
    exact UInt32.le_of_eq kept.symm
  | tornDown | timedOut => exact closed _ rfl rfl
  | refreshRejected | refreshDuplicate | meteringIgnored => exact agrees

theorem responderAgrees_step {s next : NrSession} (agrees : net.ResponderAgrees requested s)
    (incoming : net.IncomingEvent requested number net.forwarders evt) (step : NrSession.Step d s evt next actions) :
    net.ResponderAgrees requested next ∧
      ∀ sent, .send sent ∈ actions → net.Outgoing requested number (net.forwarders + 1) sent := by
  refine ⟨responderAgrees_next agrees incoming step,fun sent member => ?_⟩
  cases step.origin member with
  | failed => exact .ofFailure (by decide)
  | installed state configure => exact .ofSuccess fun _ => granted_configure agrees incoming configure
  | refreshed state refresh positive =>
    exact .ofSuccess fun _ => (granted_refresh agrees incoming refresh).resolve_right fun other => positive other.1
  | tornDown state refresh zero =>
    refine .ofSuccess fun same => ?_
    rcases granted_refresh agrees incoming refresh with kept | ⟨_,different⟩
    · exact zero.symm.trans kept
    · exact absurd same different

private theorem initiatorAgrees_next {s next : NiSession} (agrees : net.InitiatorAgrees requested number s)
    (incoming : net.IncomingEvent requested number 0 evt) (step : NiSession.Step d s evt next actions)
    (stays : next.state ≠ .close) : net.InitiatorAgrees requested number next := by
  cases step with
  | configured state | closeIgnored state => exact absurd state agrees.isOpen
  | pendingGivenUp | pendingNotReached | pendingTeardown | pendingRefused | refreshGivenUp | meteringTeardown
  | refreshRefused => exact absurd rfl stays
  | pendingInstalled state stored response success installed complete =>
    rename_i m request result
    obtain ⟨c,found,_,msn,_⟩ := agrees.stored state
    rw [stored] at found
    cases found
    have number' : m.msg.getMsgSequenceNumber = number :=
      (Event.mnslpResponse_eq_some.mp response).2.2.2.symm.trans msn
    have lifetime := (incoming.ofResponse response).2 success number'
    obtain ⟨interval,adopted⟩ := NiSession.adopting_eq d s m.msg.getSessionLifetime
    rw [adopted]
    exact ⟨stays,fun other => State.noConfusion other,fun _ => lifetime,agrees.refresh⟩
  | refreshed state =>
    have kept := agrees.metering state
    refine ⟨stays,fun other => ?_,agrees.metering,fun r stored => ?_⟩
    · simp [state] at other
    · cases stored
      exact ⟨NtlpMsg.kind_refreshRequest _ _,by simpa [NiSession.refreshFor,MnslpMsg.getSessionLifetime] using kept⟩
  | pendingRetried | pendingIgnored | refreshRetried | refreshConfirmed | meteringIgnored =>
    exact ⟨stays,agrees.stored,agrees.metering,agrees.refresh⟩

theorem initiatorAgrees_step {s next : NiSession} (agrees : net.InitiatorAgrees requested number s)
    (incoming : net.IncomingEvent requested number 0 evt) (step : NiSession.Step d s evt next actions)
    (stays : next.state ≠ .close) :
    net.InitiatorAgrees requested number next ∧
      ∀ sent, .send sent ∈ actions → sent.goesDown = true → net.Down requested number 0 sent := by
  refine ⟨initiatorAgrees_next agrees incoming step stays,fun sent member goesDown => ?_⟩
  cases step.origin member with
  | configure state => exact absurd state agrees.isOpen
  | configureAgain state stored =>
    obtain ⟨c,found,kind,msn,lifetime⟩ := agrees.stored state
    rw [stored] at found
    cases found
    refine .configure ?_ goesDown ?_ ?_
    · simpa [NtlpMsg.copy] using kind
    · simpa [NtlpMsg.copy] using msn
    · simpa [NtlpMsg.copy,granted] using lifetime
  | refresh state =>
    have kept := agrees.metering state
    refine .refresh ?_ goesDown (.inl ?_)
    · simp [NtlpMsg.copy,NiSession.refreshFor]
    · simpa [NtlpMsg.copy,NiSession.refreshFor,MnslpMsg.getSessionLifetime] using kept
  | refreshAgain state stored =>
    obtain ⟨kind,lifetime⟩ := agrees.refresh _ stored
    refine .refresh ?_ goesDown (.inl ?_)
    · simpa [NtlpMsg.copy] using kind
    · simpa [NtlpMsg.copy] using lifetime
  | teardown found closes => exact absurd closes stays

end

end Network
end Mnslp.Session
