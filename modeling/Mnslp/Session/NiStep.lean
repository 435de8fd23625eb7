import Mnslp.Session.NiSession

/-! What one event can do to an initiator's session, branch by branch. -/
namespace Mnslp.Session
open Mnslp.Lib Mnslp.Msg
namespace NiSession

/-- The lifetime `setup_session` takes. -/
def lifetimeFor (s : NiSession) (e : ApiConfigure) : UInt32 :=
  if e.sessionLifetime ≠ 0 then e.sessionLifetime else s.lifetime

/-- The session after `setup_session` and `build_configure_message`. -/
def configuring (d : Dispatcher) (s : NiSession) (e : ApiConfigure) : NiSession :=
  let r := refreshIntervalOf (s.lifetimeFor e) s.maxRetries
  {s with
    mri := some (nslpMri e), lifetime := s.lifetimeFor e, refreshInterval := r
    responseTimeout := responseTimeoutOf d.rand r, msn := s.msn + 1
    rule := (selectObjects d .initiator e.selMetEntities s.rule e.mspecObjects).1}

theorem setupSession_eq (d : Dispatcher) (s : NiSession) (e : ApiConfigure) :
    setupSession d s e =
      if (configuring d s e).refreshInterval > 0 then
        .ok ({configuring d s e with msn := s.msn},
          (selectObjects d .initiator e.selMetEntities s.rule e.mspecObjects).2)
      else .error (.assertFailed .refreshInterval) := rfl

/-- The CONFIGURE that opens the session. -/
def configureFor (d : Dispatcher) (s : NiSession) (e : ApiConfigure) : NtlpMsg :=
  let lifetime := s.lifetimeFor e
  let configure := (MnslpMsg.new .configure).setSessionLifetime
    (if lifetime ≤ e.sessionLifetime then lifetime else e.sessionLifetime)
  let configure := configure.setMsgSequenceNumber (s.msn + 1)
  let configure := configure.setSelectionMeteringEntities e.selMetEntities
  let configure := configure.setMessageHopCount s.msgHopCount
  ⟨s.id,nslpMri e,0,
    configure.setMspecObjects (selectObjects d .initiator e.selMetEntities s.rule e.mspecObjects).2⟩

/-- The session that has sent its CONFIGURE. -/
def opened (d : Dispatcher) (s : NiSession) (e : ApiConfigure) : NiSession :=
  {configuring d s e with
    lastConfigureMsg := some (s.configureFor d e), responseTimer := d.timerId 0, state := .pending}

section
variable (d : Dispatcher) (s : NiSession) (e : ApiConfigure)

@[simp] theorem kind_configureFor : (s.configureFor d e).msg.kind = .configure := by
  simp [configureFor,MnslpMsg.kind_setMspecObjects,MnslpMsg.setMessageHopCount,
    MnslpMsg.setSelectionMeteringEntities,MnslpMsg.setMsgSequenceNumber,MnslpMsg.setSessionLifetime,MnslpMsg.new]

@[simp] theorem msgSequenceNumber?_configureFor :
    (s.configureFor d e).msg.msgSequenceNumber? = some (s.msn + 1) := by
  simp only [configureFor,MnslpMsg.msgSequenceNumber?_setMspecObjects]
  simp [MnslpMsg.msgSequenceNumber?,msgSequenceNumberType,messageHopCountType,selectionMeteringEntitiesType]

@[simp] theorem getSelectionMeteringEntities_configureFor :
    (s.configureFor d e).msg.getSelectionMeteringEntities = e.selMetEntities := by
  simp only [configureFor,MnslpMsg.getSelectionMeteringEntities,MnslpMsg.selectionMeteringEntities?_setMspecObjects]
  simp [MnslpMsg.selectionMeteringEntities?,messageHopCountType,selectionMeteringEntitiesType]

@[simp] theorem getMessageHopCount_configureFor : (s.configureFor d e).msg.getMessageHopCount = s.msgHopCount := by
  simp only [configureFor,MnslpMsg.getMessageHopCount,MnslpMsg.messageHopCount?_setMspecObjects]
  simp [MnslpMsg.messageHopCount?]

end

/-- The REFRESH with the session's lifetime and the next number. -/
def refreshFor (s : NiSession) (mri : Mri) : NtlpMsg :=
  ⟨s.id,mri,0,NtlpMsg.refreshRequest s.lifetime (s.msn + 1)⟩

theorem buildRefreshMessage_eq_ok {s next : NiSession} {refresh : NtlpMsg} :
    s.buildRefreshMessage = .ok (next,refresh) ↔
      ∃ mri, s.mri = some mri ∧ next = {s with msn := s.msn + 1} ∧ refresh = s.refreshFor mri := by
  unfold buildRefreshMessage
  rw [Call.bind_eq_ok]
  constructor
  · rintro ⟨mri,found,built⟩
    cases built
    exact ⟨mri,Call.assertSome_eq_ok.mp found,rfl,rfl⟩
  · rintro ⟨mri,found,rfl,rfl⟩
    exact ⟨mri,Call.assertSome_eq_ok.mpr found,rfl⟩

/-- A session adopts the lifetime of a RESPONSE and keeps everything but its timers. -/
theorem adopting_eq (d : Dispatcher) (s : NiSession) (lifetime : UInt32) : ∃ interval, s.adopting d lifetime =
    {s with lifetime := lifetime, refreshInterval := interval, responseTimer := 0, refreshTimer := d.timerId 0} := by
  unfold adopting calRefreshInterval
  by_cases same : lifetime = s.lifetime
  · exact ⟨s.refreshInterval,by simp [same]⟩
  · exact ⟨lifetime * 2 / 3,by simp [same]⟩

inductive Step (d : Dispatcher) (s : NiSession) : Event → NiSession → List Action → Prop
  | configured {e : ApiConfigure} (state : s.state = .close) (positive : (configuring d s e).refreshInterval > 0) :
      Step d s (.apiConfigure e) (opened d s e)
        ([.send (s.configureFor d e).copy,.startTimer (d.timerId 0) (configuring d s e).responseTimeout] ++
          if e.returnQueue then [.enqueueSessionId] else [])
  | closeIgnored {evt : Event} (state : s.state = .close) (other : ∀ e, evt ≠ .apiConfigure e) : Step d s evt s []
  | pendingRetried {evt : Event} {configure : NtlpMsg} (state : s.state = .pending)
      (fired : evt.isTimer s.responseTimer = true) (retries : s.configureCounter < s.maxRetries)
      (stored : s.lastConfigureMsg = some configure) :
      Step d s evt {s with configureCounter := s.configureCounter + 1, responseTimer := d.timerId 0}
        [.send configure.copy,.startTimer (d.timerId 0) s.responseTimeout]
  | pendingGivenUp {evt : Event} (state : s.state = .pending) (fired : evt.isTimer s.responseTimer = true)
      (exhausted : ¬ s.configureCounter < s.maxRetries) :
      Step d s evt {s with state := .close} [.reportAsyncEvent "got no response for our Configure"]
  | pendingNotReached {evt : Event} (state : s.state = .pending) (unreachable : evt.isNoNextNodeFound = true) :
      Step d s evt {s with state := .close} []
  | pendingTeardown {evt : Event} {mri : Mri} (state : s.state = .pending) (teardown : evt.isApiTeardown = true)
      (removable : ¬ d.RemovalFails s.rule) (found : s.mri = some mri) :
      Step d s evt {s with lifetime := 0, lastConfigureMsg := none, msn := s.msn + 1, state := .close}
        (Dispatcher.removal s.rule ++ [.send ({s with lifetime := 0}.refreshFor mri)])
  | pendingInstalled {evt : Event} {m request : NtlpMsg} {result : MtPolicyRule} (state : s.state = .pending)
      (stored : s.lastConfigureMsg = some request) (response : evt.mnslpResponse request = some m)
      (success : m.msg.isSuccess = true) (installed : d.installPolicyRules s.rule = .ok result)
      (complete : result.getNumberMspecObjects = s.rule.getNumberMspecObjects) :
      Step d s evt
        {s.adopting d m.msg.getSessionLifetime with rule := result, configureCounter := 0, state := .metering}
        [.reportAsyncEvent "CONFIGURE session initiated",
          .startTimer (d.timerId 0) (s.adopting d m.msg.getSessionLifetime).refreshInterval,.install result]
  | pendingRefused {evt : Event} {m request : NtlpMsg} (state : s.state = .pending)
      (stored : s.lastConfigureMsg = some request) (response : evt.mnslpResponse request = some m)
      (failure : m.msg.isSuccess = false) :
      Step d s evt {s with state := .close} [.reportAsyncEvent "cannot initiate Configure session"]
  | pendingIgnored {evt : Event} (state : s.state = .pending) (still : evt.isApiTeardown = false)
      (unanswered : ∀ request, s.lastConfigureMsg = some request → evt.mnslpResponse request = none)
      (waiting : evt.isTimer s.responseTimer = false) :
      Step d s evt s []
  | refreshed {evt : Event} {mri : Mri} (state : s.state = .metering) (fired : evt.isTimer s.refreshTimer = true)
      (found : s.mri = some mri) :
      Step d s evt
        {s with
          msn := s.msn + 1, lastRefreshMsg := some (s.refreshFor mri), refreshCounter := 0
          responseTimer := d.timerId 0}
        [.send (s.refreshFor mri).copy,.startTimer (d.timerId 0) s.responseTimeout]
  | refreshRetried {evt : Event} {refresh : NtlpMsg} (state : s.state = .metering)
      (fired : evt.isTimer s.responseTimer = true) (retries : s.refreshCounter < s.maxRetries)
      (stored : s.lastRefreshMsg = some refresh) :
      Step d s evt {s with refreshCounter := s.refreshCounter + 1, responseTimer := d.timerId 0}
        [.send refresh.copy,.startTimer (d.timerId 0) s.responseTimeout]
  | refreshGivenUp {evt : Event} (state : s.state = .metering) (fired : evt.isTimer s.responseTimer = true)
      (exhausted : ¬ s.refreshCounter < s.maxRetries) (removable : ¬ d.RemovalFails s.rule) :
      Step d s evt {s with state := .close}
        (Dispatcher.removal s.rule ++ [.reportAsyncEvent "got no response to our REFRESH message"])
  | meteringTeardown {evt : Event} {mri : Mri} (state : s.state = .metering) (teardown : evt.isApiTeardown = true)
      (removable : ¬ d.RemovalFails s.rule) (found : s.mri = some mri) :
      Step d s evt {s with lifetime := 0, lastRefreshMsg := none, msn := s.msn + 1, state := .close}
        (Dispatcher.removal s.rule ++ [.send ({s with lifetime := 0}.refreshFor mri)])
  | refreshConfirmed {evt : Event} {m request : NtlpMsg} (state : s.state = .metering)
      (stored : s.lastRefreshMsg = some request) (response : evt.mnslpResponse request = some m)
      (success : m.msg.isSuccess = true) :
      Step d s evt {s with responseTimer := 0, refreshTimer := d.timerId 0, refreshCounter := 0}
        [.reportAsyncEvent "REFRESH successful",.startTimer (d.timerId 0) s.refreshInterval]
  | refreshRefused {evt : Event} {m request : NtlpMsg} (state : s.state = .metering)
      (stored : s.lastRefreshMsg = some request) (response : evt.mnslpResponse request = some m)
      (failure : m.msg.isSuccess = false) (removable : ¬ d.RemovalFails s.rule) :
      Step d s evt {s with state := .close}
        (Dispatcher.removal s.rule ++ [.reportAsyncEvent "REFRESH session died"])
  | meteringIgnored {evt : Event} (state : s.state = .metering) (still : evt.isApiTeardown = false)
      (unanswered : ∀ request, s.lastRefreshMsg = some request → evt.mnslpResponse request = none)
      (resting : evt.isTimer s.refreshTimer = false) (waiting : evt.isTimer s.responseTimer = false) :
      Step d s evt s []

private theorem step_close (d : Dispatcher) (s next : NiSession) (evt : Event) (actions : List Action)
    (state : s.state = .close) (ok : handleStateClose d s evt = .ok (next,actions)) :
    Step d s evt next actions := by
  cases evt with
  | apiConfigure e =>
    by_cases positive : (configuring d s e).refreshInterval > 0
    · obtain ⟨⟨prepared,missing⟩,setup,ok⟩ := Call.bind_eq_ok.mp ok
      rw [setupSession_eq,if_pos positive] at setup
      cases setup
      cases ok
      exact .configured state positive
    · obtain ⟨prepared,setup,_⟩ := Call.bind_eq_ok.mp ok
      rw [setupSession_eq,if_neg positive] at setup
      cases setup
  | msg m forThisNode => cases ok; exact .closeIgnored state (by simp)
  | timer id => cases ok; exact .closeIgnored state (by simp)
  | noNextNodeFound => cases ok; exact .closeIgnored state (by simp)
  | routeChangedBad => cases ok; exact .closeIgnored state (by simp)
  | apiTeardown => cases ok; exact .closeIgnored state (by simp)
  | unexpected => cases ok; exact .closeIgnored state (by simp)

private theorem step_configureResponse (d : Dispatcher) (s next : NiSession) (evt : Event) (m request : NtlpMsg)
    (actions : List Action) (state : s.state = .pending) (stored : s.lastConfigureMsg = some request)
    (response : evt.mnslpResponse request = some m)
    (ok : handleConfigureResponse d s m.msg = .ok (next,actions)) : Step d s evt next actions := by
  unfold handleConfigureResponse at ok
  split at ok
  · rename_i success
    obtain ⟨result,installed,ok⟩ := Call.bind_eq_ok.mp ok
    have rule : (adopting d s m.msg.getSessionLifetime).rule = s.rule := by
      obtain ⟨interval,same⟩ := adopting_eq d s m.msg.getSessionLifetime
      rw [same]
    split at ok
    · rename_i complete
      cases ok
      have same : d.installPolicyRules s.rule = .ok result := by
        rw [← rule]
        exact installed
      exact .pendingInstalled state stored response success same (rule ▸ complete)
    · obtain ⟨removed,_,ok⟩ := Call.bind_eq_ok.mp ok
      obtain ⟨refresh,_,ok⟩ := Call.bind_eq_ok.mp ok
      cases ok
  · rename_i failure
    cases ok
    exact .pendingRefused state stored response (by simpa using failure)

/-- The end of the chain of tests in both states: the event is taken for a RESPONSE. -/
private theorem awaited (evt : Event) (getter : Call NtlpMsg) (stored : Option NtlpMsg) (kind : MsgKind)
    (s next : NiSession) (actions : List Action) (handler : NtlpMsg → Call (NiSession × List Action))
    (found : ∀ request, getter = .ok request → stored = some request)
    (ok : (if evt.isAnyTimer then return (s,[]) else do
      let request ← getter
      match evt.mnslpResponse request with
      | some m =>
        if request.msg.kind ≠ kind then Call.fault .nullDereference
        else if !m.msg.isResponseTo request.msg then return (s,[])
        else handler m
      | none => return (s,[])) = .ok (next,actions)) :
    (∃ request m, stored = some request ∧ evt.mnslpResponse request = some m ∧ handler m = .ok (next,actions)) ∨
      (next = s ∧ actions = [] ∧ ∀ request, stored = some request → evt.mnslpResponse request = none) := by
  split at ok
  · rename_i stale
    cases ok
    refine .inr ⟨rfl,rfl,fun request _ => ?_⟩
    cases evt <;> simp_all [Event.isAnyTimer,Event.mnslpResponse,Event.ofKind]
  · obtain ⟨request,got,ok⟩ := Call.bind_eq_ok.mp ok
    have same := found request got
    cases response : evt.mnslpResponse request with
    | none =>
      simp only [response] at ok
      cases ok
      refine .inr ⟨rfl,rfl,fun other equal => ?_⟩
      rw [same] at equal
      cases equal
      exact response
    | some m =>
      simp only [response,evt.isResponseTo_of_mnslpResponse response] at ok
      split at ok
      · cases ok
      · exact .inl ⟨request,m,same,response,ok⟩

private theorem step_pending (d : Dispatcher) (s next : NiSession) (evt : Event) (actions : List Action)
    (state : s.state = .pending) (ok : handleStatePending d s evt = .ok (next,actions)) :
    Step d s evt next actions := by
  unfold handleStatePending at ok
  split at ok
  · rename_i fired
    split at ok
    · rename_i retries
      obtain ⟨configure,stored,ok⟩ := Call.bind_eq_ok.mp ok
      cases ok
      exact .pendingRetried state fired retries (Call.assertSome_eq_ok.mp stored)
    · rename_i exhausted
      cases ok
      exact .pendingGivenUp state fired exhausted
  · rename_i waiting
    split at ok
    · rename_i unreachable
      cases ok
      exact .pendingNotReached state unreachable
    · split at ok
      · rename_i teardown
        obtain ⟨removed,uninstalled,ok⟩ := Call.bind_eq_ok.mp ok
        obtain ⟨removable,rfl⟩ := (Dispatcher.uninstall_eq_ok _ _ _).mp uninstalled
        obtain ⟨⟨torn,refresh⟩,built,ok⟩ := Call.bind_eq_ok.mp ok
        obtain ⟨mri,found,rfl,rfl⟩ := buildRefreshMessage_eq_ok.mp built
        cases ok
        exact .pendingTeardown state teardown removable found
      · rename_i still
        rcases awaited evt _ s.lastConfigureMsg .configure s next actions _
            (fun request got => Call.assertSome_eq_ok.mp got) ok with
          ⟨request,m,stored,response,ok⟩ | ⟨rfl,rfl,unanswered⟩
        · exact step_configureResponse d s next evt m request actions state stored response ok
        · exact .pendingIgnored state (by simpa using still) unanswered (by simpa using waiting)

private theorem step_refreshResponse (d : Dispatcher) (s next : NiSession) (evt : Event) (m request : NtlpMsg)
    (actions : List Action) (state : s.state = .metering) (stored : s.lastRefreshMsg = some request)
    (response : evt.mnslpResponse request = some m)
    (ok : handleRefreshResponse d s m.msg = .ok (next,actions)) : Step d s evt next actions := by
  unfold handleRefreshResponse at ok
  split at ok
  · rename_i success
    cases ok
    exact .refreshConfirmed state stored response success
  · rename_i failure
    obtain ⟨removed,uninstalled,ok⟩ := Call.bind_eq_ok.mp ok
    obtain ⟨removable,rfl⟩ := (Dispatcher.uninstall_eq_ok _ _ _).mp uninstalled
    cases ok
    exact .refreshRefused state stored response (by simpa using failure) removable

private theorem step_metering (d : Dispatcher) (s next : NiSession) (evt : Event) (actions : List Action)
    (state : s.state = .metering) (ok : handleStateMetering d s evt = .ok (next,actions)) :
    Step d s evt next actions := by
  unfold handleStateMetering at ok
  split at ok
  · rename_i fired
    obtain ⟨⟨sent,refresh⟩,built,ok⟩ := Call.bind_eq_ok.mp ok
    obtain ⟨mri,found,rfl,rfl⟩ := buildRefreshMessage_eq_ok.mp built
    cases ok
    exact .refreshed state fired found
  · rename_i resting
    split at ok
    · rename_i fired
      split at ok
      · rename_i retries
        obtain ⟨refresh,stored,ok⟩ := Call.bind_eq_ok.mp ok
        cases ok
        exact .refreshRetried state fired retries (Call.assertSome_eq_ok.mp stored)
      · rename_i exhausted
        obtain ⟨removed,uninstalled,ok⟩ := Call.bind_eq_ok.mp ok
        obtain ⟨removable,rfl⟩ := (Dispatcher.uninstall_eq_ok _ _ _).mp uninstalled
        cases ok
        exact .refreshGivenUp state fired exhausted removable
    · rename_i waiting
      split at ok
      · rename_i teardown
        obtain ⟨removed,uninstalled,ok⟩ := Call.bind_eq_ok.mp ok
        obtain ⟨removable,rfl⟩ := (Dispatcher.uninstall_eq_ok _ _ _).mp uninstalled
        obtain ⟨⟨torn,refresh⟩,built,ok⟩ := Call.bind_eq_ok.mp ok
        obtain ⟨mri,found,rfl,rfl⟩ := buildRefreshMessage_eq_ok.mp built
        cases ok
        exact .meteringTeardown state teardown removable found
      · rename_i still
        rcases awaited evt _ s.lastRefreshMsg .refresh s next actions _
            (fun request got => Call.assertSome_eq_ok.mp got) ok with
          ⟨request,m,stored,response,ok⟩ | ⟨rfl,rfl,unanswered⟩
        · exact step_refreshResponse d s next evt m request actions state stored response ok
        · exact .meteringIgnored state (by simpa using still) unanswered (by simpa using resting) (by simpa using waiting)

theorem step_of_processEvent {d : Dispatcher} {s next : NiSession} {evt : Event} {actions : List Action}
    (ok : processEvent d s evt = .ok (next,actions)) : Step d s evt next actions := by
  unfold processEvent at ok
  cases state : s.state <;> rw [state] at ok
  · exact step_close d s next evt actions state ok
  · exact step_pending d s next evt actions state ok
  · exact step_metering d s next evt actions state ok

/-- A session in CLOSE opens for its user or ignores the event. -/
theorem Step.of_close {d : Dispatcher} {s next : NiSession} {evt : Event} {actions : List Action}
    (step : Step d s evt next actions) (state : s.state = .close) :
    (∃ e, evt = .apiConfigure e ∧ next = opened d s e ∧
      ∀ sent, .send sent ∈ actions → sent = (s.configureFor d e).copy) ∨
      next = s ∧ actions = [] := by
  cases step with
  | configured =>
    rename_i e _ _
    refine .inl ⟨e,rfl,rfl,fun sent member => ?_⟩
    have inList := (List.mem_append.mp member).resolve_right (by split <;> simp)
    simpa using inList
  | closeIgnored => exact .inr ⟨rfl,rfl⟩
  | pendingRetried other | pendingGivenUp other | pendingNotReached other | pendingTeardown other
  | pendingInstalled other | pendingRefused other | pendingIgnored other =>
    exact State.noConfusion (state.symm.trans other)
  | refreshed other | refreshRetried other | refreshGivenUp other | meteringTeardown other
  | refreshConfirmed other | refreshRefused other | meteringIgnored other =>
    exact State.noConfusion (state.symm.trans other)

theorem Step.entering {d : Dispatcher} {s next : NiSession} {evt : Event} {actions : List Action}
    (step : Step d s evt next actions) (outside : s.state ≠ .metering) (inside : next.state = .metering) :
    s.state = .pending ∧ d.installPolicyRules s.rule = .ok next.rule ∧
      next.rule.getNumberMspecObjects = s.rule.getNumberMspecObjects ∧
      ∃ request m, s.lastConfigureMsg = some request ∧ evt.mnslpResponse request = some m ∧ m.msg.isSuccess = true := by
  cases step with
  | pendingInstalled state stored response success installed complete =>
    exact ⟨state,installed,complete,_,_,stored,response,success⟩
  | configured | pendingGivenUp | pendingNotReached | pendingTeardown | pendingRefused | refreshGivenUp
  | meteringTeardown | refreshRefused => cases inside
  | closeIgnored | pendingRetried | pendingIgnored | refreshed | refreshRetried | refreshConfirmed
  | meteringIgnored => exact absurd inside outside

/-- A session in METERING stays there until it closes. -/
theorem Step.of_metering {d : Dispatcher} {s next : NiSession} {evt : Event} {actions : List Action}
    (step : Step d s evt next actions) (metering : s.state = .metering) :
    next.state = .metering ∨ next.state = .close := by
  cases step with
  | refreshGivenUp | meteringTeardown | refreshRefused => exact .inr rfl
  | refreshed | refreshRetried | refreshConfirmed | meteringIgnored => exact .inl metering
  | configured state | closeIgnored state => exact State.noConfusion (metering.symm.trans state)
  | pendingRetried state | pendingGivenUp state | pendingNotReached state | pendingTeardown state
  | pendingInstalled state | pendingRefused state | pendingIgnored state =>
    exact State.noConfusion (metering.symm.trans state)

/-- Where a message that an initiator sends comes from. -/
inductive Origin (d : Dispatcher) (s : NiSession) (evt : Event) (next : NiSession) : NtlpMsg → Prop
  | configure {e : ApiConfigure} (state : s.state = .close) (configure : evt = .apiConfigure e) :
      Origin d s evt next (s.configureFor d e).copy
  | configureAgain {configure : NtlpMsg} (state : s.state = .pending) (stored : s.lastConfigureMsg = some configure) :
      Origin d s evt next configure.copy
  | refresh {mri : Mri} (state : s.state = .metering) (found : s.mri = some mri) :
      Origin d s evt next (s.refreshFor mri).copy
  | refreshAgain {refresh : NtlpMsg} (state : s.state = .metering) (stored : s.lastRefreshMsg = some refresh) :
      Origin d s evt next refresh.copy
  | teardown {mri : Mri} (found : s.mri = some mri) (closes : next.state = .close) :
      Origin d s evt next ({s with lifetime := 0}.refreshFor mri)

theorem Step.origin {d : Dispatcher} {s next : NiSession} {evt : Event} {actions : List Action} {sent : NtlpMsg}
    (step : Step d s evt next actions) (member : .send sent ∈ actions) : Origin d s evt next sent := by
  cases step with
  | configured state =>
    have inList := (List.mem_append.mp member).resolve_right (by split <;> simp)
    obtain rfl : sent = _ := by simpa using inList
    exact .configure state rfl
  | pendingRetried state fired retries stored =>
    obtain rfl : sent = _ := by simpa using member
    exact .configureAgain state stored
  | refreshed state fired found =>
    obtain rfl : sent = _ := by simpa using member
    exact .refresh state found
  | refreshRetried state fired retries stored =>
    obtain rfl : sent = _ := by simpa using member
    exact .refreshAgain state stored
  | pendingTeardown state teardown removable found | meteringTeardown state teardown removable found =>
    have last := (List.mem_append.mp member).resolve_left (Action.send_notMem_removal _ _)
    obtain rfl := Action.send.inj (List.mem_singleton.mp last)
    exact .teardown found rfl
  | refreshGivenUp | refreshRefused => simp [Action.send_notMem_removal] at member
  | closeIgnored | pendingGivenUp | pendingNotReached | pendingInstalled | pendingRefused | pendingIgnored
  | refreshConfirmed | meteringIgnored => simp at member

/-- The CONFIGUREs of an open session are copies of the one it stored. -/
theorem Step.configure_sent {d : Dispatcher} {s next : NiSession} {evt : Event} {actions : List Action}
    {sent : NtlpMsg} (step : Step d s evt next actions) (isOpen : s.state ≠ .close)
    (refresh : ∀ r, s.lastRefreshMsg = some r → r.msg.kind = .refresh) (member : .send sent ∈ actions)
    (kind : sent.msg.kind = .configure) : ∃ c, s.lastConfigureMsg = some c ∧ sent = c.copy := by
  cases step.origin member with
  | configure state => exact absurd state isOpen
  | configureAgain state stored => exact ⟨_,stored,rfl⟩
  | refresh => simp [NtlpMsg.copy,refreshFor] at kind
  | refreshAgain state stored => simp [NtlpMsg.copy,refresh _ stored] at kind
  | teardown => simp [refreshFor] at kind

end NiSession
end Mnslp.Session
