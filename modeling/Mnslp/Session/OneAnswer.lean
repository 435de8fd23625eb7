import Mnslp.Session.Mapper
import Mnslp.Session.SessionTable

/-! The answer of a responder to a CONFIGURE. `handle_state_close` hands one RESPONSE to `send_message` on
each of its ways out, but the exceptions of the rule and its installer are left to `dispatcher::process`,
which sends none, and `send_message` can only write a RESPONSE that tells of a success. -/
namespace Mnslp.Session
open Mnslp.Lib Mnslp.Msg
namespace NrSession

/-- The session is in the table, or the message makes the dispatcher create it. -/
inductive Hosted (net : Network) (table : SessionTable) (forThisNode : Bool) (s : NrSession) : Prop
  | stored (found : table.find s.id = some (.responder s))
  | created (absent : table.find s.id = none) (here : forThisNode = true) (fresh : s = new s.id net.nrConf)

/-- The session that is in the table afterwards is in METERING. -/
def Meters (table : SessionTable) (id : SessionId) (t : NrSession) : Prop :=
  table.find id = some (.responder t) ∧ t.state = .metering

/-- The RESPONSE is the one that is handed to `send_message`, and it tells how the session ended. -/
def HandsOver (net : Network) (i : Nat) (d : Dispatcher) (draws : Draws) (table : SessionTable) (s : NrSession)
    (m : NtlpMsg) (forThisNode : Bool) (response : NtlpMsg) : Prop :=
  ∃ next actions,
    SessionTable.process net i d draws table (.event (some s.id) (.msg m forThisNode)) = .ok (next,.actions actions) ∧
      Action.sends actions = [response] ∧ response.msg.kind = .response ∧
      (response.msg.isSuccess = true ↔ ∃ t, Meters next s.id t) ∧
      ∀ t, Meters next s.id t → response.msg.getSessionLifetime = t.lifetime ∧ 0 < t.lifetime ∧ t.lifetime ≤ t.maxLifetime

/-- One RESPONSE is sent: `send_message` gets it, and can write it for GIST. -/
def AnswersOnce (net : Network) (i : Nat) (d : Dispatcher) (draws : Draws) (table : SessionTable) (s : NrSession)
    (m : NtlpMsg) (forThisNode : Bool) : Prop :=
  ∃ response sent, HandsOver net i d draws table s m forThisNode response ∧ GistkaMapper.createApiMsg response = some sent

/-- The rule of the request is collected, admitted by the node and installed as a whole. -/
inductive RuleInstalled (d : Dispatcher) (s : NrSession) (m : NtlpMsg) : Prop
  | whole {pc : MriPathcoupled} {objects : List MspecObject} {rule result : MtPolicyRule} (path : m.mri = .pathcoupled pc)
      (collected : m.msg.getMspecObjects = .ok objects)
      (selected : selectObjects d .receiver m.msg.getSelectionMeteringEntities s.rule objects = (rule,[]))
      (installed : d.installPolicyRules rule = .ok result)
      (complete : result.getNumberMspecObjects = rule.getNumberMspecObjects)

/-- The request has a number to answer to, passes the checks, and its rule is installed. -/
structure Accepts (d : Dispatcher) (s : NrSession) (m : NtlpMsg) : Prop where
  numbered : m.msg.hasMsgSequenceNumber = true
  allowed : m.msg.getSessionLifetime > s.maxLifetime ∨ d.isAuthorized m = true
  positive : capped m.msg.getSessionLifetime s.maxLifetime ≠ 0
  rule : RuleInstalled d s m

/-- The rule of the request cannot be collected, or its installer gives up. -/
inductive RuleFails (d : Dispatcher) (s : NrSession) (m : NtlpMsg) : Prop
  | noPath {mrm : UInt8} (other : m.mri = .other mrm)
  | notCollected (uncollected : ∀ objects, m.msg.getMspecObjects ≠ .ok objects)
  | notInstalled {objects : List MspecObject} {rule : MtPolicyRule} (collected : m.msg.getMspecObjects = .ok objects)
      (selected : selectObjects d .receiver m.msg.getSelectionMeteringEntities s.rule objects = (rule,[]))
      (uninstalled : ∀ result, d.installPolicyRules rule ≠ .ok result)
  | notRemoved {objects : List MspecObject} {rule result : MtPolicyRule} (collected : m.msg.getMspecObjects = .ok objects)
      (selected : selectObjects d .receiver m.msg.getSelectionMeteringEntities s.rule objects = (rule,[]))
      (installed : d.installPolicyRules rule = .ok result)
      (incomplete : result.getNumberMspecObjects ≠ rule.getNumberMspecObjects) (fails : d.RemovalFails result)

/-- The request passes the checks, and its rule fails. -/
structure Breaks (d : Dispatcher) (s : NrSession) (m : NtlpMsg) : Prop where
  allowed : m.msg.getSessionLifetime > s.maxLifetime ∨ d.isAuthorized m = true
  positive : capped m.msg.getSessionLifetime s.maxLifetime ≠ 0
  rule : RuleFails d s m

section
variable {net : Network} {i : Nat} {d : Dispatcher} {table : SessionTable} {s next : NrSession}
  {m : NtlpMsg} {forThisNode : Bool} {actions : List Action}

private theorem ruleFails_iff {pc : MriPathcoupled} {objects missing : List MspecObject} {rule : MtPolicyRule}
    (path : m.mri = .pathcoupled pc) (collected : m.msg.getMspecObjects = .ok objects)
    (selected : selectObjects d .receiver m.msg.getSelectionMeteringEntities s.rule objects = (rule,missing)) :
    RuleFails d s m ↔ missing = [] ∧ ((∀ result, d.installPolicyRules rule ≠ .ok result) ∨
      ∃ result, d.installPolicyRules rule = .ok result ∧
        result.getNumberMspecObjects ≠ rule.getNumberMspecObjects ∧ d.RemovalFails result) := by
  constructor
  · intro fails
    cases fails with
    | noPath other =>
      rw [path] at other
      cases other
    | notCollected uncollected => exact absurd collected (uncollected objects)
    | notInstalled again whole uninstalled =>
      rw [collected] at again
      cases again
      rw [selected] at whole
      cases whole
      exact ⟨rfl,.inl uninstalled⟩
    | notRemoved again whole installed incomplete fails =>
      rw [collected] at again
      cases again
      rw [selected] at whole
      cases whole
      exact ⟨rfl,.inr ⟨_,installed,incomplete,fails⟩⟩
  · rintro ⟨rfl,uninstalled | ⟨result,installed,incomplete,fails⟩⟩
    · exact .notInstalled collected selected uninstalled
    · exact .notRemoved collected selected installed incomplete fails

private theorem initiateSession_ok_iff (lifetime : UInt32) :
    (∃ result, initiateSession d s m lifetime = .ok result) ↔ ¬ RuleFails d s m := by
  unfold initiateSession saveMtPolicyRule
  cases mri : m.mri with
  | other mrm =>
    constructor
    · rintro ⟨_,ok⟩
      cases ok
    · exact fun fine => absurd (.noPath mri) fine
  | pathcoupled pc =>
    rcases m.msg.getMspecObjects_cases with ⟨objects,collected⟩ | failed
    · cases selected : selectObjects d .receiver m.msg.getSelectionMeteringEntities s.rule objects with
      | mk rule missing =>
        simp only [collected,Call.ok_bind,selected,Call.pure_eq]
        rw [ruleFails_iff mri collected selected]
        split
        · rename_i left
          exact iff_of_true ⟨_,rfl⟩ fun fails => List.ne_nil_of_length_pos left fails.1
        · rename_i none
          have nothing : missing = [] := List.eq_nil_of_length_eq_zero (Nat.eq_zero_of_not_pos none)
          cases installed : d.installPolicyRules rule with
          | error stop =>
            exact iff_of_false (fun ⟨_,ok⟩ => by cases ok) (not_not.mpr ⟨nothing,.inl (by simp)⟩)
          | ok result =>
            simp only [Call.ok_bind]
            split
            · rename_i complete
              refine iff_of_true ⟨_,rfl⟩ ?_
              rintro ⟨_,uninstalled | ⟨_,same,incomplete,_⟩⟩
              · exact uninstalled result rfl
              · cases same
                exact incomplete complete
            · rename_i incomplete
              rw [Dispatcher.uninstall_eq]
              by_cases fails : d.RemovalFails result
              · rw [if_pos fails]
                exact iff_of_false (fun ⟨_,ok⟩ => by cases ok)
                  (not_not.mpr ⟨nothing,.inr ⟨result,rfl,incomplete,fails⟩⟩)
              · rw [if_neg fails]
                refine iff_of_true ⟨_,rfl⟩ ?_
                rintro ⟨_,uninstalled | ⟨_,same,_,fails'⟩⟩
                · exact uninstalled result rfl
                · cases same
                  exact fails fails'
    · rw [failed]
      refine iff_of_false (fun ⟨_,ok⟩ => by cases ok) (not_not.mpr ?_)
      exact .notCollected (by simp [failed,Call.fault])

/-- The handler returns unless the rule fails after the checks. -/
theorem processEvent_configure_ok_iff (forThisNode : Bool) (closed : s.state = .close)
    (kind : m.msg.kind = .configure) : (∃ result, processEvent d s (.msg m forThisNode) = .ok result) ↔ ¬ Breaks d s m := by
  have configure : (Event.msg m forThisNode).ofKind .configure = some m := by simp [Event.ofKind,kind]
  simp only [processEvent,closed,handleStateClose,configure]
  rcases checkPreconditions_cases d m s.maxLifetime with ⟨low,unauthorized,checked⟩ | ⟨allowed,checked⟩
  · rw [checked]
    refine iff_of_true ⟨_,rfl⟩ fun breaks => ?_
    rcases breaks.allowed with exceeds | authorized
    · exact low exceeds
    · rw [unauthorized] at authorized
      cases authorized
  · rw [checked,Call.ok_bind]
    simp only []
    split
    · rename_i positive
      rw [initiateSession_ok_iff]
      exact not_congr ⟨fun fails => ⟨allowed,UInt32.pos_iff_ne_zero.mp positive,fails⟩,Breaks.rule⟩
    · rename_i zero
      exact iff_of_true ⟨_,rfl⟩ fun breaks => zero (UInt32.pos_iff_ne_zero.mpr breaks.positive)

private theorem own_configure {m' : NtlpMsg} (configure : (Event.msg m forThisNode).ofKind .configure = some m') : m' = m := by
  obtain ⟨⟨_,same⟩,_⟩ := Event.ofKind_eq_some.mp configure
  cases same
  rfl

/-- What the session hands to `send_message` in the end. -/
inductive Tells (m : NtlpMsg) (next : NrSession) : NtlpMsg → Prop
  | success (state : next.state = .metering) (positive : 0 < next.lifetime) (bound : next.lifetime ≤ next.maxLifetime) :
      Tells m next (m.createSuccessResponse next.lifetime)
  | failure (state : next.state = .close) (code : UInt8) :
      Tells m next (m.createResponse MnslpMsg.scPermanentFailure code)

theorem Step.answers (step : Step d s (.msg m forThisNode) next actions) (closed : s.state = .close)
    (kind : m.msg.kind = .configure) : ∃ response, Action.sends actions = [response] ∧ Tells m next response := by
  cases step with
  | closeRejected state configure =>
    cases own_configure configure
    exact ⟨_,rfl,.failure closed _⟩
  | closeZero state configure =>
    cases own_configure configure
    exact ⟨_,rfl,.failure closed _⟩
  | closeIncomplete state configure =>
    cases own_configure configure
    exact ⟨_,rfl,.failure (by simp [taking,closed]) _⟩
  | closeInstalled state configure allowed positive =>
    cases own_configure configure
    exact ⟨_,rfl,.success rfl (UInt32.pos_iff_ne_zero.mpr positive) (capped_le _ _)⟩
  | closeInstallFailed state configure =>
    cases own_configure configure
    exact ⟨m.createResponse MnslpMsg.scPermanentFailure MnslpMsg.failInternalError,by simp,.failure (by simp [taking,closed]) _⟩
  | closeIgnored state other => simp [Event.ofKind,kind] at other
  | refreshRejected state | refreshDuplicate state | refreshed state | tornDown state | timedOut state
  | meteringIgnored state => exact State.noConfusion (closed.symm.trans state)

theorem Tells.response {response : NtlpMsg} (tells : Tells m next response) : response.msg.kind = .response ∧
    (response.msg.isSuccess = true ↔ next.state = .metering) ∧
    (next.state = .metering → response.msg.getSessionLifetime = next.lifetime ∧ 0 < next.lifetime ∧
      next.lifetime ≤ next.maxLifetime) := by
  cases tells with
  | success state positive bound =>
    exact ⟨by simp,by simp [state],fun _ => ⟨by simp [MnslpMsg.getSessionLifetime],positive,bound⟩⟩
  | failure state code =>
    have failed : (m.createResponse MnslpMsg.scPermanentFailure code).msg.isSuccess = false := by
      simp [MnslpMsg.isSuccess,MnslpMsg.scSuccess,MnslpMsg.scPermanentFailure]
    have closed : next.state ≠ .metering := by simp [state]
    rw [failed]
    exact ⟨by simp,iff_of_false (by decide) closed,fun metering => absurd metering closed⟩

/-- Only the answer of a session in METERING is written. -/
theorem Tells.written_iff {response : NtlpMsg} (tells : Tells m next response) :
    (∃ sent, GistkaMapper.createApiMsg response = some sent) ↔ m.msg.hasMsgSequenceNumber = true ∧ next.state = .metering := by
  cases tells with
  | success state => simp [GistkaMapper.createApiMsg_createSuccessResponse,state]
  | failure state => simp [GistkaMapper.createApiMsg_createResponse,state]

/-- The handler ends in METERING for the requests that pass the checks and whose rules are installed. -/
theorem metering_iff (ok : processEvent d s (.msg m forThisNode) = .ok (next,actions)) (closed : s.state = .close)
    (kind : m.msg.kind = .configure) : next.state = .metering ↔
      (m.msg.getSessionLifetime > s.maxLifetime ∨ d.isAuthorized m = true) ∧
      capped m.msg.getSessionLifetime s.maxLifetime ≠ 0 ∧ RuleInstalled d s m := by
  have fine := (processEvent_configure_ok_iff forThisNode closed kind).mp ⟨_,ok⟩
  cases step_of_processEvent ok with
  | closeRejected state configure low unauthorized =>
    cases own_configure configure
    refine iff_of_false (by simp [closed]) fun ⟨allowed,_⟩ => ?_
    rcases allowed with exceeds | authorized
    · exact low exceeds
    · rw [unauthorized] at authorized
      cases authorized
  | closeZero state configure zero =>
    cases own_configure configure
    exact iff_of_false (by simp [closed]) fun ⟨_,positive,_⟩ => positive zero
  | closeIncomplete state configure positive collected selected left =>
    cases own_configure configure
    refine iff_of_false (by simp [taking,closed]) fun ⟨_,_,rule⟩ => ?_
    cases rule with
    | whole path again whole =>
      rw [collected] at again
      cases again
      rw [selected] at whole
      cases whole
      exact left rfl
  | closeInstalled state configure allowed positive collected selected installed complete =>
    cases own_configure configure
    refine iff_of_true rfl ⟨allowed,positive,?_⟩
    cases mri : m.mri with
    | other mrm => exact absurd ⟨allowed,positive,.noPath mri⟩ fine
    | pathcoupled pc => exact .whole mri collected selected installed complete
  | closeInstallFailed state configure positive collected selected installed incomplete =>
    cases own_configure configure
    refine iff_of_false (by simp [taking,closed]) fun ⟨_,_,rule⟩ => ?_
    cases rule with
    | whole path again whole installs complete =>
      rw [collected] at again
      cases again
      rw [selected] at whole
      cases whole
      rw [installed] at installs
      cases installs
      exact incomplete complete
  | closeIgnored state other => simp [Event.ofKind,kind] at other
  | refreshRejected state | refreshDuplicate state | refreshed state | tornDown state | timedOut state
  | meteringIgnored state => exact State.noConfusion (closed.symm.trans state)

/-- The rule of a request that is accepted does not fail. -/
theorem RuleInstalled.not_ruleFails (rule : RuleInstalled d s m) : ¬ RuleFails d s m := by
  cases rule with
  | whole path collected selected installed complete =>
    rw [ruleFails_iff path collected selected]
    rintro ⟨_,uninstalled | ⟨_,same,incomplete,_⟩⟩
    · exact uninstalled _ installed
    · rw [installed] at same
      cases same
      exact incomplete complete

private theorem process_hosted (i : Nat) (d : Dispatcher) (draws : Draws) (hosted : Hosted net table forThisNode s)
    (kind : m.msg.kind = .configure) :
    ∃ table', SessionTable.process net i d draws table (.event (some s.id) (.msg m forThisNode)) =
      SessionTable.processSession net i d table' s.id (.responder s) (.msg m forThisNode) := by
  cases hosted with
  | stored found =>
    refine ⟨table,?_⟩
    simp [SessionTable.process,Arrival.sid,SessionTable.getSession,found]
  | created absent here fresh =>
    refine ⟨table.set s.id (.responder s),?_⟩
    have made : table.createNrSession net.nrConf s.id = (table.set s.id (.responder s),.responder s) := by
      unfold SessionTable.createNrSession
      rw [← fresh]
      rfl
    simp [SessionTable.process,Arrival.sid,SessionTable.getSession,absent,SessionTable.createSession,kind,here,made]
    rfl

private theorem processSession_ok (net : Network) (i : Nat) (table : SessionTable)
    (ok : processEvent d s (.msg m forThisNode) = .ok (next,actions)) :
    ∃ table', SessionTable.processSession net i d table s.id (.responder s) (.msg m forThisNode) =
        .ok (table',.actions actions) ∧ ∀ t, Meters table' s.id t ↔ t = next ∧ next.state = .metering := by
  have same : next.id = s.id := by
    cases step_of_processEvent ok <;> rfl
  have handled : (NodeSession.responder s).processEvent net i d (.msg m forThisNode) = .ok (.responder next,actions) := by
    simp [NodeSession.processEvent,ok]
  simp only [SessionTable.processSession,handled]
  by_cases final : next.state = .close
  · refine ⟨(table.set s.id (.responder next)).erase s.id,?_,fun t => ?_⟩
    · have isFinal : (NodeSession.responder next).isFinal = true := by simp [NodeSession.isFinal,NrSession.isFinal,final]
      have id' : (NodeSession.responder next).id = s.id := same
      rw [if_pos isFinal,id']
      simp [SessionTable.removeSession]
    · simp [Meters,final]
  · refine ⟨table.set s.id (.responder next),?_,fun t => ?_⟩
    · have isOpen : ¬ (NodeSession.responder next).isFinal = true := by simp [NodeSession.isFinal,NrSession.isFinal,final]
      rw [if_neg isOpen]
    · simp only [Meters,OrderedMap.find_set_self,Option.some.injEq,NodeSession.responder.injEq]
      constructor
      · rintro ⟨rfl,metering⟩
        exact ⟨rfl,metering⟩
      · rintro ⟨rfl,metering⟩
        exact ⟨rfl,metering⟩

private theorem processSession_error {table next : SessionTable} {stop : Stop}
    (threw : processEvent d s (.msg m forThisNode) = .error stop)
    (ok : SessionTable.processSession net i d table s.id (.responder s) (.msg m forThisNode) = .ok (next,.actions actions)) :
    actions = [] := by
  have handled : (NodeSession.responder s).processEvent net i d (.msg m forThisNode) = .error stop := by
    simp [NodeSession.processEvent,threw]
  simp only [SessionTable.processSession,handled] at ok
  cases stop with
  | thrown exception =>
    obtain ⟨removed,_,done⟩ := Call.bind_eq_ok.mp ok
    cases done
    rfl
  | _ => cases ok

private theorem processEvent_ok_of_handsOver {draws : Draws} {table : SessionTable} {response : NtlpMsg}
    (hosted : Hosted net table forThisNode s) (kind : m.msg.kind = .configure)
    (hands : HandsOver net i d draws table s m forThisNode response) :
    ∃ next actions, processEvent d s (.msg m forThisNode) = .ok (next,actions) ∧ Action.sends actions = [response] := by
  obtain ⟨table',same⟩ := process_hosted i d draws hosted kind
  obtain ⟨after,actions,ok,sends,_⟩ := hands
  rw [same] at ok
  cases outcome : processEvent d s (.msg m forThisNode) with
  | ok result =>
    obtain ⟨next,own⟩ := result
    obtain ⟨_,handled,_⟩ := processSession_ok net i table' outcome
    rw [handled] at ok
    cases ok
    exact ⟨next,actions,rfl,sends⟩
  | error stop =>
    rw [processSession_error outcome ok] at sends
    cases sends

/-- An answer of the handler reaches `send_message`. -/
theorem handsOver_of_processEvent (net : Network) (i : Nat) (draws : Draws) {table : SessionTable}
    (hosted : Hosted net table forThisNode s) (closed : s.state = .close) (kind : m.msg.kind = .configure)
    (ok : processEvent d s (.msg m forThisNode) = .ok (next,actions)) :
    ∃ response, HandsOver net i d draws table s m forThisNode response ∧ Tells m next response := by
  obtain ⟨table',hands⟩ := process_hosted i d draws hosted kind
  obtain ⟨after,handled,meters⟩ := processSession_ok net i table' ok
  obtain ⟨response,sends,tells⟩ := (step_of_processEvent ok).answers closed kind
  obtain ⟨isResponse,success,values⟩ := tells.response
  refine ⟨response,⟨after,actions,hands.trans handled,sends,isResponse,success.trans ?_,fun t metering => ?_⟩,tells⟩
  · constructor
    · exact fun metering => ⟨next,(meters next).mpr ⟨rfl,metering⟩⟩
    · rintro ⟨t,metering⟩
      exact ((meters t).mp metering).2
  · obtain ⟨rfl,metering⟩ := (meters t).mp metering
    exact values metering

end

/-- A responder hands over one answer to a CONFIGURE, and as its state tells, unless the checks pass and then
the rule cannot be collected or installed without an exception. -/
theorem hands_over_iff (net : Network) (i : Nat) (d : Dispatcher) (draws : Draws) (table : SessionTable) (s : NrSession)
    (m : NtlpMsg) (forThisNode : Bool) (hosted : Hosted net table forThisNode s) (closed : s.state = .close)
    (kind : m.msg.kind = .configure) :
    (∃ response, HandsOver net i d draws table s m forThisNode response) ↔ ¬ Breaks d s m := by
  rw [← processEvent_configure_ok_iff forThisNode closed kind]
  constructor
  · rintro ⟨response,hands⟩
    obtain ⟨next,actions,ok,_⟩ := processEvent_ok_of_handsOver hosted kind hands
    exact ⟨_,ok⟩
  · rintro ⟨⟨next,actions⟩,ok⟩
    obtain ⟨response,hands,_⟩ := handsOver_of_processEvent net i draws hosted closed kind ok
    exact ⟨response,hands⟩

theorem answersOnce_of_accepts (net : Network) (i : Nat) (draws : Draws) {d : Dispatcher} {table : SessionTable} {s : NrSession}
    {m : NtlpMsg} {forThisNode : Bool} (hosted : Hosted net table forThisNode s) (closed : s.state = .close)
    (kind : m.msg.kind = .configure) (accepts : Accepts d s m) : AnswersOnce net i d draws table s m forThisNode := by
  obtain ⟨numbered,allowed,positive,rule⟩ := accepts
  obtain ⟨⟨next,actions⟩,ok⟩ := (processEvent_configure_ok_iff forThisNode closed kind).mpr fun breaks =>
    rule.not_ruleFails breaks.rule
  obtain ⟨response,hands,tells⟩ := handsOver_of_processEvent net i draws hosted closed kind ok
  obtain ⟨sent,created⟩ := tells.written_iff.mpr ⟨numbered,(metering_iff ok closed kind).mpr ⟨allowed,positive,rule⟩⟩
  exact ⟨response,sent,hands,created⟩

theorem accepts_of_answersOnce {net : Network} {i : Nat} {d : Dispatcher} {draws : Draws} {table : SessionTable} {s : NrSession}
    {m : NtlpMsg} {forThisNode : Bool} (hosted : Hosted net table forThisNode s) (closed : s.state = .close)
    (kind : m.msg.kind = .configure) (once : AnswersOnce net i d draws table s m forThisNode) : Accepts d s m := by
  obtain ⟨response,sent,hands,created⟩ := once
  obtain ⟨next,actions,ok,sends⟩ := processEvent_ok_of_handsOver hosted kind hands
  obtain ⟨other,again,tells⟩ := (step_of_processEvent ok).answers closed kind
  rw [sends] at again
  cases again
  obtain ⟨numbered,metering⟩ := tells.written_iff.mp ⟨sent,created⟩
  obtain ⟨allowed,positive,rule⟩ := (metering_iff ok closed kind).mp metering
  exact ⟨numbered,allowed,positive,rule⟩

/-- A responder answers a CONFIGURE once, and as its state tells, exactly if it accepts it: no refusal can be
written, and the exceptions of the rule are not answered. -/
theorem answers_once_iff (net : Network) (i : Nat) (d : Dispatcher) (draws : Draws) (table : SessionTable) (s : NrSession)
    (m : NtlpMsg) (forThisNode : Bool) (hosted : Hosted net table forThisNode s) (closed : s.state = .close)
    (kind : m.msg.kind = .configure) : AnswersOnce net i d draws table s m forThisNode ↔ Accepts d s m :=
  ⟨accepts_of_answersOnce hosted closed kind,answersOnce_of_accepts net i draws hosted closed kind⟩

/-- A CONFIGURE whose routing information is not path-coupled gets no answer. -/
theorem answers_once_lost : ¬ ∀ (net : Network) (i : Nat) (d : Dispatcher) (draws : Draws) (table : SessionTable)
    (s : NrSession) (m : NtlpMsg) (forThisNode : Bool), Hosted net table forThisNode s → s.state = .close →
    m.msg.kind = .configure → AnswersOnce net i d draws table s m forThisNode := by
  intro always
  let m : NtlpMsg := {NtlpMsg.sample .configure 1 60 with mri := .other 127}
  have hosted : Hosted .direct .empty true (new 0 Network.direct.nrConf) := .created rfl rfl rfl
  have once := always .direct 1 .willing ⟨[],0⟩ .empty _ m true hosted rfl rfl
  cases (accepts_of_answersOnce hosted rfl rfl once).rule with
  | whole path => cases path

/-- With path-coupled information it is answered. -/
theorem answers_once_pathcoupled : AnswersOnce .direct 1 .willing ⟨[],0⟩ .empty (new 0 Network.direct.nrConf) (.sample .configure 1 60)
    true :=
  (answers_once_iff .direct 1 .willing ⟨[],0⟩ .empty _ _ true (.created rfl rfl rfl) rfl rfl).mpr
    ⟨rfl,.inr rfl,by decide,.whole rfl rfl rfl rfl rfl⟩

end NrSession
end Mnslp.Session
