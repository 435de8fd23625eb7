import Mnslp.Session.NullAsserts
import Mnslp.Session.Network

/-! The direction of what a forwarder sends: requests go down the path, responses up. -/
namespace Mnslp.Session
open Mnslp.Lib Mnslp.Msg

def Mri.goesUp : Mri → Bool
  | .pathcoupled m => !m.downstream
  | .other _ => false

theorem Mri.goesUp_invertDirection {mri : Mri} (down : mri.goesDown = true) : mri.invertDirection.goesUp = true := by
  cases mri with
  | pathcoupled m => simpa [goesDown,goesUp,invertDirection] using down
  | other mrm => cases down

theorem Mri.not_goesUp_invertDirection {mri : Mri} (up : mri.goesUp = true) : mri.invertDirection.goesUp = false := by
  cases mri with
  | pathcoupled m => simpa [goesUp,invertDirection] using up
  | other mrm => cases up

namespace NtlpMsg

/-- A request that goes down or a RESPONSE that goes up. -/
structure Directed (m : NtlpMsg) : Prop where
  response : m.msg.kind = .response → m.mri.goesUp = true
  configure : m.msg.kind = .configure → m.mri.goesDown = true
  refresh : m.msg.kind = .refresh → m.mri.goesDown = true

theorem Directed.forwarded {m : NtlpMsg} (directed : m.Directed) : m.copyForForwarding.Directed :=
  ⟨directed.response,directed.configure,directed.refresh⟩

theorem Directed.of_response {m : NtlpMsg} (kind : m.msg.kind = .response) (up : m.mri.goesUp = true) : m.Directed :=
  ⟨fun _ => up,fun other => by simp [kind] at other,fun other => by simp [kind] at other⟩

theorem Directed.of_goesDown {m : NtlpMsg} (kind : m.msg.kind ≠ .response) (down : m.mri.goesDown = true) : m.Directed :=
  ⟨fun other => absurd other kind,fun _ => down,fun _ => down⟩

theorem directed_createResponse {m : NtlpMsg} (down : m.mri.goesDown = true) (severity code : UInt8) :
    (m.createResponse severity code).Directed :=
  .of_response (kind_createResponse m severity code) (Mri.goesUp_invertDirection down)

end NtlpMsg

def Event.Directed (evt : Event) : Prop := ∀ m forThisNode, evt = .msg m forThisNode → m.Directed

theorem Event.Directed.ofKind {evt : Event} (directed : evt.Directed) {kind : MsgKind} {m : NtlpMsg}
    (found : evt.ofKind kind = some m) : m.Directed := by
  obtain ⟨⟨forThisNode,rfl⟩,_⟩ := Event.ofKind_eq_some.mp found
  exact directed m forThisNode rfl

namespace NfSession

/-- The stored messages and the stored routing information of requests go down. -/
structure Heading (s : NfSession) : Prop where
  configure : ∀ m, s.configureMessage = some m → m.msg.kind = .configure ∧ m.mri.goesDown = true
  refresh : ∀ m, s.refreshMessage = some m → m.mri.goesDown = true
  nrMri : ∀ mri, s.nrMri = some mri → mri.goesDown = true

theorem heading_new (id : SessionId) : (new id).Heading := ⟨by simp [new],by simp [new],by simp [new]⟩

theorem Heading.closed {s other : NfSession} (heading : s.Heading) (configure : other.configureMessage = s.configureMessage)
    (refresh : other.refreshMessage = s.refreshMessage) (nrMri : other.nrMri = s.nrMri) : other.Heading where
  configure m stored := heading.configure m (configure ▸ stored)
  refresh m stored := heading.refresh m (refresh ▸ stored)
  nrMri mri stored := heading.nrMri mri (nrMri ▸ stored)

/-- The installer gives back a rule with another number of objects. -/
def InstallsPartly (d : Dispatcher) (s : NfSession) (evt : Event) : Prop :=
  s.state = .pending ∧ ∃ request m result, s.configureMessage = some request ∧ evt.mnslpResponse request = some m ∧
    m.msg.isSuccess = true ∧ d.installPolicyRules s.rule = .ok result ∧
    result.getNumberMspecObjects ≠ s.rule.getNumberMspecObjects ∧ ¬ d.RemovalFails result

/-- What the event makes the session send, also before an exception. -/
def Sends (conf : NfConfig) (d : Dispatcher) (s : NfSession) (evt : Event) (m : NtlpMsg) : Prop :=
  match s.processEvent conf d evt with
  | .ok (_,actions) => .send m ∈ actions
  | .error _ => .send m ∈ (NodeSession.forwarder s).sentBeforeThrow evt

section
variable {conf : NfConfig} {d : Dispatcher} {s next : NfSession} {evt : Event} {actions : List Action}

private theorem accepts_heading {from' : NfSession} {m : NtlpMsg} (accepts : Accepts d from' m next actions)
    (heading : from'.Heading) (kind : m.msg.kind = .configure) (directed : m.Directed) :
    next.Heading ∧ ∀ sent, .send sent ∈ actions → sent.Directed := by
  have down : m.mri.goesDown = true := directed.configure kind
  cases accepts with
  | intro pathcoupled downstream collected selected =>
    rename_i mri objects missing rule
    constructor
    · exact {
        configure := fun stored same => by
          cases same
          exact ⟨kind,down⟩
        refresh := heading.refresh
        nrMri := fun other same => by
          cases same
          exact downstream }
    · intro sent member
      simp only [List.mem_cons,Action.send.injEq,reduceCtorEq,List.not_mem_nil,or_false] at member
      subst member
      apply NtlpMsg.Directed.of_goesDown
      · simp
      · exact downstream

private theorem heading_step (heading : s.Heading) (directed : evt.Directed) (step : Step conf d s evt next actions) :
    next.Heading := by
  cases step with
  | closeAccepted state configure allowed positive accepts | pendingReplaced state configure stored authorized different accepts =>
    exact (accepts_heading accepts (heading.closed rfl rfl rfl) (Event.ofKind_eq_some.mp configure).2
      (directed.ofKind configure)).1
  | closeNoPath state configure positive other | pendingNoPath state configure stored authorized different other =>
    have kind := (Event.ofKind_eq_some.mp configure).2
    have down := (directed.ofKind configure).configure kind
    simp [other,Mri.goesDown] at down
  | refreshForwarded state refresh =>
    exact {
      configure := heading.configure
      refresh := fun m same => by
        cases same
        exact (directed.ofKind refresh).refresh (Event.ofKind_eq_some.mp refresh).2
      nrMri := heading.nrMri }
  | _ => exact heading.closed rfl rfl rfl

theorem directed_step (heading : s.Heading) (directed : evt.Directed) (step : Step conf d s evt next actions) :
    next.Heading ∧ (¬ s.InstallsPartly d evt → ∀ sent, .send sent ∈ actions → sent.Directed) := by
  refine ⟨heading_step heading directed step,fun whole sent member => ?_⟩
  cases step.origin member with
  | first state configure accepts | replaced state configure stored different accepts =>
    exact (accepts_heading accepts (heading.closed rfl rfl rfl) (Event.ofKind_eq_some.mp configure).2
      (directed.ofKind configure)).2 sent member
  | resent state configure | terminated state configure => exact (directed.ofKind configure).forwarded
  | refresh state refresh => exact (directed.ofKind refresh).forwarded
  | response answer => exact (directed.ofKind (Event.mnslpResponse_eq_some.mp answer).1).forwarded
  | rejected request found =>
    have same := (Event.ofKind_eq_some.mp found).2
    have well := directed.ofKind found
    apply NtlpMsg.directed_createResponse
    rcases request with rfl | rfl
    · exact well.configure same
    · exact well.refresh same
  | notReached stored =>
    apply NtlpMsg.directed_createResponse
    rcases stored with configure | refresh
    · exact (heading.configure _ configure).2
    · exact heading.refresh _ refresh
  | teardown state stored response success installed incomplete removable
  | installFailed state stored response success installed incomplete removable =>
    exact absurd ⟨state,_,_,_,stored,response,success,installed,incomplete,removable⟩ whole

private theorem handleConfigureResponse_partly {m : NtlpMsg} {result : MtPolicyRule} {mri : Mri}
    (success : m.msg.isSuccess = true) (installed : d.installPolicyRules s.rule = .ok result)
    (incomplete : result.getNumberMspecObjects ≠ s.rule.getNumberMspecObjects) (removable : ¬ d.RemovalFails result)
    (nrMri : s.nrMri = some mri) :
    handleConfigureResponse d s m = .ok ({s with lifetime := 0, rule := result, msn := s.msn + 1, state := .close},
      [.install result] ++ Dispatcher.removal result ++ [.send ⟨s.id,mri,0,NtlpMsg.refreshRequest 0 (s.msn + 1)⟩,
        .send (m.createResponse MnslpMsg.scPermanentFailure MnslpMsg.failInternalError)]) := by
  have removed : d.uninstall result = .ok (Dispatcher.removal result) := by
    rw [Dispatcher.uninstall_eq_ok]
    exact ⟨removable,rfl⟩
  simp only [handleConfigureResponse,if_pos success,installed,Call.ok_bind,if_neg incomplete,removed,
    buildTeardownMessage,getNrMri,nrMri,Call.assertSome]
  rfl

theorem processEvent_response {request m : NtlpMsg} (state : s.state = .pending) (stored : s.configureMessage = some request)
    (kind : request.msg.kind = .configure) (response : evt.mnslpResponse request = some m) :
    s.processEvent conf d evt = handleConfigureResponse d s m := by
  have matching := Event.isResponseTo_of_mnslpResponse _ response
  obtain ⟨⟨forThisNode,rfl⟩,same⟩ := Event.ofKind_eq_some.mp (Event.mnslpResponse_eq_some.mp response).1
  have other : Event.ofKind .configure (.msg m forThisNode) = none := by simp [Event.ofKind,same]
  simp only [processEvent,state,handleStatePending,other,Event.isNoNextNodeFound,Event.isTimer,Event.isAnyTimer,
    Bool.false_eq_true,or_self,if_false,getLastConfigureMessage,stored,Call.assertSome,Call.ok_bind,response,kind,matching,
    ne_eq,not_true_eq_false]

end

/-- Everything a forwarder sends goes the right way exactly if no installation stays
partial. -/
theorem direction_iff (conf : NfConfig) (id : SessionId) (labels : List (Dispatcher × Event)) (s : NfSession)
    (run : Run (fun s label next => label.2.Directed ∧ Next conf s label next) (new id) labels s) (d : Dispatcher)
    (evt : Event) (directed : evt.Directed) :
    (∀ m, s.Sends conf d evt m → m.Directed) ↔ ¬ s.InstallsPartly d evt := by
  have heading : s.Heading := run.invariant Heading
    (fun _ _ _ heading ⟨directed,_,ok⟩ => (directed_step heading directed (step_of_processEvent ok)).1) (heading_new id)
  have stored : s.Stored := stored_run (run.mono fun _ _ _ taken => taken.2)
  unfold Sends
  constructor
  · rintro all ⟨state,request,m,result,configure,response,success,installed,incomplete,removable⟩
    obtain ⟨mri,nrMri⟩ := stored.nrMri (by simp [state])
    rw [processEvent_response state configure (heading.configure _ configure).1 response,
      handleConfigureResponse_partly success installed incomplete removable nrMri] at all
    have sent := all (m.createResponse MnslpMsg.scPermanentFailure MnslpMsg.failInternalError) (by simp)
    have up := (directed.ofKind (Event.mnslpResponse_eq_some.mp response).1).response
      (Event.ofKind_eq_some.mp (Event.mnslpResponse_eq_some.mp response).1).2
    have wrong : m.mri.invertDirection.goesUp = false := Mri.not_goesUp_invertDirection up
    have right := sent.response (NtlpMsg.kind_createResponse _ _ _)
    rw [show (m.createResponse MnslpMsg.scPermanentFailure MnslpMsg.failInternalError).mri = m.mri.invertDirection from rfl,
      wrong] at right
    cases right
  · intro whole m sent
    cases outcome : s.processEvent conf d evt with
    | ok result =>
      rw [outcome] at sent
      exact (directed_step heading directed (step_of_processEvent outcome)).2 whole m sent
    | error stop =>
      rw [outcome] at sent
      obtain ⟨_,request,response,_,_,found,rfl⟩ := NodeSession.mem_sentBeforeThrow sent
      exact (directed.ofKind (Event.mnslpResponse_eq_some.mp found).1).forwarded

/-- A node whose meter takes no objects. -/
private def refusing : Dispatcher := {Dispatcher.willing with installer := fun _ => .ok {}}

private def oneObject : NtlpMsg :=
  let m := NtlpMsg.sample .configure 1 60
  let m := m.msg.setSelectionMeteringEntities smeAll
  {NtlpMsg.sample .configure 1 60 with msg := m.setObject (MspecObject.toObject ⟨.mandatory,⟨.null,0,0,[],true,true⟩⟩)}

/-- The error RESPONSE of a forwarder that cannot install goes down the path. -/
theorem direction_lost : ¬ ∀ (conf : NfConfig) (id : SessionId) (labels : List (Dispatcher × Event)) (s : NfSession),
    Run (fun s label next => label.2.Directed ∧ Next conf s label next) (new id) labels s → ∀ (d : Dispatcher)
    (evt : Event), evt.Directed → ∀ m, s.Sends conf d evt m → m.Directed := by
  intro all
  have request : Event.Directed (.msg oneObject false) := by
    rintro m forThisNode ⟨⟩
    exact .of_goesDown (by decide) rfl
  have answer : Event.Directed (.msg (oneObject.createSuccessResponse 60) false) := by
    rintro m forThisNode ⟨⟩
    exact .of_response rfl rfl
  have accepts : Next ⟨100⟩ (new 0) (refusing,.msg oneObject false) _ := ⟨_,rfl⟩
  have well := all ⟨100⟩ 0 _ _ (.single ⟨request,accepts⟩) refusing _ answer
    ((oneObject.createSuccessResponse 60).createResponse MnslpMsg.scPermanentFailure MnslpMsg.failInternalError)
    (by right; right; left)
  cases well.response rfl

/-- A node that installs every object passes the RESPONSE on. -/
theorem direction_kept : ∃ s, Run (fun s label next => label.2.Directed ∧ Next ⟨100⟩ s label next) (new 0)
      [(.willing,.msg (.sample .configure 1 60) false)] s ∧
    ∀ m, s.Sends ⟨100⟩ .willing (.msg ((NtlpMsg.sample .configure 1 60).createSuccessResponse 60) false) m →
      m.Directed := by
  have request : Event.Directed (.msg (.sample .configure 1 60) false) := by
    rintro m forThisNode ⟨⟩
    exact .of_goesDown (by decide) rfl
  have answer : Event.Directed (.msg ((NtlpMsg.sample .configure 1 60).createSuccessResponse 60) false) := by
    rintro m forThisNode ⟨⟩
    exact .of_response rfl rfl
  have accepts : Next ⟨100⟩ (new 0) (.willing,.msg (.sample .configure 1 60) false) _ := ⟨_,rfl⟩
  have run : Run (fun s label next => label.2.Directed ∧ Next ⟨100⟩ s label next) (new 0)
    [(.willing,.msg (.sample .configure 1 60) false)] _ := .single ⟨request,accepts⟩
  refine ⟨_,run,(direction_iff ⟨100⟩ 0 _ _ run .willing _ answer).mpr ?_⟩
  rintro ⟨_,_,_,result,_,_,_,installed,incomplete,_⟩
  cases installed
  exact incomplete rfl

end NfSession
end Mnslp.Session
