import Mnslp.Session.Life

/-! Handlers that run off their end. `handle_state_pending` of the initiator tears a session
down whose install was not complete, but forgets to return; `handle_state_close` of the
forwarder returns for a CONFIGURE only. -/
namespace Mnslp
namespace Call
variable {α β : Type}

/-- The call reaches the end of a function that has to return a value. -/
def RunsOff (x : Call α) : Prop := x = fault .noReturnValue

@[simp] theorem runsOff_fault (reason : Fault) : RunsOff (fault reason : Call α) ↔ reason = .noReturnValue := by
  simp [RunsOff,fault]

@[simp] theorem not_runsOff_ok (a : α) : ¬ RunsOff (.ok a : Call α) := nofun

@[simp] theorem not_runsOff_throw (exception : Thrown) : ¬ RunsOff (throw exception : Call α) := nofun

@[simp] theorem not_runsOff_assertSome (assertion : Assertion) (value : Option α) :
    ¬ RunsOff (assertSome assertion value) := by
  cases value <;> exact nofun

theorem runsOff_bind (x : Call α) (f : α → Call β) : RunsOff (x >>= f) ↔ RunsOff x ∨ ∃ a, x = .ok a ∧ RunsOff (f a) := by
  unfold RunsOff
  exact bind_eq_error

end Call

namespace Session
open Mnslp.Lib Mnslp.Msg

@[simp] theorem Dispatcher.not_runsOff_uninstall (d : Dispatcher) (rule : MtPolicyRule) :
    ¬ Call.RunsOff (d.uninstall rule) := by
  rw [uninstall_eq]
  split <;> simp

@[simp] theorem Dispatcher.not_runsOff_installPolicyRules (d : Dispatcher) (rule : MtPolicyRule) :
    ¬ Call.RunsOff (d.installPolicyRules rule) := by
  unfold installPolicyRules
  cases d.installer rule <;> exact nofun

namespace NiSession

/-- The session waits for the RESPONSE to its CONFIGURE and gets it: a success. -/
structure Succeeds (s : NiSession) (evt : Event) (request m : NtlpMsg) : Prop where
  stored : s.lastConfigureMsg = some request
  configured : request.msg.kind = .configure
  response : evt.mnslpResponse request = some m
  success : m.msg.isSuccess = true

/-- What has to follow an install of fewer objects than the rule has: the keys that came
back are removed, one REFRESH of lifetime 0 is sent, and the session ends. -/
def EndsFailedInstall (d : Dispatcher) (s : NiSession) (evt : Event) : Prop :=
  ∀ request m result, s.Succeeds evt request m → d.installPolicyRules s.rule = .ok result →
    result.getNumberMspecObjects < s.rule.getNumberMspecObjects →
    ∃ next actions refresh, handleStatePending d s evt = .ok (next,actions) ∧ next.state = .close ∧
      Action.removes actions = keyed [result] ∧ Action.sends actions = [refresh] ∧
      refresh.msg.kind = .refresh ∧ refresh.msg.getSessionLifetime = 0

/-- The install does not give as many objects as the rule has. More than that is noticed only
if the branch goes on to its end. -/
def InstallsPartly (d : Dispatcher) (s : NiSession) (evt : Event) : Prop :=
  ∃ request m result, s.Succeeds evt request m ∧ d.installPolicyRules s.rule = .ok result ∧
    (result.getNumberMspecObjects < s.rule.getNumberMspecObjects ∨
      s.rule.getNumberMspecObjects < result.getNumberMspecObjects ∧ ¬ d.RemovalFails result ∧ s.mri ≠ none)

section
variable (d : Dispatcher) (s : NiSession) (evt : Event)

@[simp] theorem not_runsOff_buildRefreshMessage : ¬ Call.RunsOff s.buildRefreshMessage := by
  unfold buildRefreshMessage getMri
  rw [Call.runsOff_bind]
  simp

theorem handleStatePending_succeeds {request m : NtlpMsg} (succeeds : s.Succeeds evt request m) :
    handleStatePending d s evt = handleConfigureResponse d s m.msg := by
  have response := succeeds.response
  have matching := Event.isResponseTo_of_mnslpResponse _ response
  obtain ⟨⟨forThisNode,rfl⟩,_⟩ := Event.ofKind_eq_some.mp (Event.mnslpResponse_eq_some.mp response).1
  simp only [handleStatePending,Event.isTimer,Event.isNoNextNodeFound,Event.isApiTeardown,Event.isAnyTimer,
    Bool.false_eq_true,if_false,getLastConfigureMessage,succeeds.stored,Call.assertSome,Call.ok_bind,response,
    succeeds.configured,matching,ne_eq,not_true_eq_false]

/-- The handler runs off after it was asked for the REFRESH that tears the session down. -/
theorem runsOff_handleConfigureResponse (m : MnslpMsg) : Call.RunsOff (handleConfigureResponse d s m) ↔
    m.isSuccess = true ∧ ∃ result, d.installPolicyRules s.rule = .ok result ∧
      result.getNumberMspecObjects ≠ s.rule.getNumberMspecObjects ∧ ¬ d.RemovalFails result ∧ s.mri ≠ none := by
  obtain ⟨interval,adopted⟩ := adopting_eq d s m.getSessionLifetime
  unfold handleConfigureResponse
  rw [adopted]
  by_cases success : m.isSuccess = true
  · rw [if_pos success,Call.runsOff_bind]
    simp only [Dispatcher.not_runsOff_installPolicyRules,false_or,success,true_and]
    apply exists_congr
    intro result
    apply and_congr_right
    intro _
    by_cases complete : result.getNumberMspecObjects = s.rule.getNumberMspecObjects
    · rw [if_pos complete]
      simp [complete]
    · rw [if_neg complete,Call.runsOff_bind]
      simp only [Dispatcher.not_runsOff_uninstall,false_or,Dispatcher.uninstall_eq_ok,Call.runsOff_bind,
        not_runsOff_buildRefreshMessage,Call.runsOff_fault,and_true,Prod.exists,buildRefreshMessage_eq_ok]
      constructor
      · rintro ⟨removed,⟨removable,_⟩,next,refresh,mri,found,_⟩
        exact ⟨complete,removable,by rw [found]; exact Option.some_ne_none mri⟩
      · rintro ⟨_,removable,found⟩
        obtain ⟨mri,found⟩ := Option.ne_none_iff_exists'.mp found
        exact ⟨_,⟨removable,rfl⟩,_,_,mri,found,rfl,rfl⟩
  · rw [if_neg success]
    simp [success]

theorem runsOff_handleStatePending : Call.RunsOff (handleStatePending d s evt) ↔
    ∃ request m, s.Succeeds evt request m ∧ Call.RunsOff (handleConfigureResponse d s m.msg) := by
  constructor
  · intro off
    unfold handleStatePending at off
    split at off
    · split at off
      · rw [Call.runsOff_bind] at off
        simp [getLastConfigureMessage] at off
      · exact absurd off (Call.not_runsOff_ok _)
    · split at off
      · exact absurd off (Call.not_runsOff_ok _)
      · split at off
        · rw [Call.runsOff_bind] at off
          simp [Call.runsOff_bind] at off
        · split at off
          · exact absurd off (Call.not_runsOff_ok _)
          · rw [Call.runsOff_bind] at off
            rcases off with off | ⟨request,found,off⟩
            · exact absurd off (Call.not_runsOff_assertSome _ _)
            · cases response : evt.mnslpResponse request with
              | none =>
                rw [response] at off
                exact absurd off (Call.not_runsOff_ok _)
              | some m =>
                simp only [response,evt.isResponseTo_of_mnslpResponse response,Bool.false_eq_true,if_false] at off
                split at off
                · cases off
                · rename_i configured
                  have success := ((runsOff_handleConfigureResponse d s m.msg).mp off).1
                  exact ⟨request,m,⟨Call.assertSome_eq_ok.mp found,by simpa using configured,response,success⟩,off⟩
  · rintro ⟨request,m,succeeds,off⟩
    rwa [handleStatePending_succeeds d s evt succeeds]

/-- An install of fewer objects never ends in a state. -/
theorem handleConfigureResponse_fewer {m : MnslpMsg} {result : MtPolicyRule} (success : m.isSuccess = true)
    (installed : d.installPolicyRules s.rule = .ok result)
    (fewer : result.getNumberMspecObjects < s.rule.getNumberMspecObjects) (ended : NiSession × List Action) :
    handleConfigureResponse d s m ≠ .ok ended := by
  obtain ⟨interval,adopted⟩ := adopting_eq d s m.getSessionLifetime
  unfold handleConfigureResponse
  rw [adopted,if_pos success]
  intro ok
  obtain ⟨other,again,ok⟩ := Call.bind_eq_ok.mp ok
  cases installed.symm.trans again
  rw [if_neg (Nat.ne_of_lt fewer)] at ok
  obtain ⟨removed,_,ok⟩ := Call.bind_eq_ok.mp ok
  obtain ⟨refresh,_,ok⟩ := Call.bind_eq_ok.mp ok
  cases ok

theorem endsFailedInstall_iff : EndsFailedInstall d s evt ∧ ¬ Call.RunsOff (handleStatePending d s evt) ↔
    ¬ InstallsPartly d s evt := by
  constructor
  · rintro ⟨ends,stays⟩ ⟨request,m,result,succeeds,installed,fewer | ⟨more,removable,found⟩⟩
    · obtain ⟨next,actions,_,ok,_⟩ := ends request m result succeeds installed fewer
      rw [handleStatePending_succeeds d s evt succeeds] at ok
      exact handleConfigureResponse_fewer d s succeeds.success installed fewer _ ok
    · apply stays
      rw [runsOff_handleStatePending]
      refine ⟨request,m,succeeds,(runsOff_handleConfigureResponse d s m.msg).mpr ?_⟩
      exact ⟨succeeds.success,result,installed,Nat.ne_of_gt more,removable,found⟩
  · intro whole
    constructor
    · intro request m result succeeds installed fewer
      exact absurd ⟨request,m,result,succeeds,installed,.inl fewer⟩ whole
    · intro off
      obtain ⟨request,m,succeeds,off⟩ := (runsOff_handleStatePending d s evt).mp off
      obtain ⟨_,result,installed,different,removable,found⟩ := (runsOff_handleConfigureResponse d s m.msg).mp off
      apply whole
      refine ⟨request,m,result,succeeds,installed,?_⟩
      rcases Nat.lt_or_gt_of_ne different with fewer | more
      · exact .inl fewer
      · exact .inr ⟨more,removable,found⟩

end
end NiSession

theorem NfSession.not_runsOff_processStateClose (d : Dispatcher) (s : NfSession) (m : NtlpMsg) :
    ¬ Call.RunsOff (processStateClose d s m) := by
  rcases processStateClose_cases d s m with ⟨_,_,_,_,_,_,_,_,outcome⟩ | ⟨_,_,outcome⟩ | outcome | outcome
  all_goals
    rw [outcome]
    exact nofun

theorem NfSession.runsOff_handleStateClose (conf : NfConfig) (d : Dispatcher) (s : NfSession) (evt : Event) :
    Call.RunsOff (handleStateClose conf d s evt) ↔ evt.ofKind .configure = none := by
  unfold handleStateClose
  cases evt.ofKind .configure with
  | none => simp
  | some m =>
    refine iff_of_false ?_ (Option.some_ne_none m)
    rcases checkPreconditions_cases d m conf.nfMaxSessionLifetime with ⟨_,_,checked⟩ | ⟨_,checked⟩
    · simp only [checked]
      exact Call.not_runsOff_ok _
    · simp only [checked,Call.ok_bind]
      split
      · exact Call.not_runsOff_ok _
      · exact not_runsOff_processStateClose d _ m

/-- The handlers end in a state exactly if the initiator has no install of another size
than its rule, and if the forwarder gets a CONFIGURE. -/
theorem defined_return_iff (conf : NfConfig) (d : Dispatcher) (s : NiSession) (f : NfSession) (evt : Event) :
    (NiSession.EndsFailedInstall d s evt ∧ ¬ Call.RunsOff (NiSession.handleStatePending d s evt) ↔
      ¬ NiSession.InstallsPartly d s evt) ∧
    (¬ Call.RunsOff (NfSession.handleStateClose conf d f evt) ↔ evt.ofKind .configure ≠ none) :=
  ⟨NiSession.endsFailedInstall_iff d s evt,not_congr (NfSession.runsOff_handleStateClose conf d f evt)⟩

/-- A session that asked for one object, and a meter that takes none. -/
theorem runs_off : ¬ ((∀ d s evt, NiSession.EndsFailedInstall d s evt ∧
      ¬ Call.RunsOff (NiSession.handleStatePending d s evt)) ∧
    ∀ conf d s evt, ¬ Call.RunsOff (NfSession.handleStateClose conf d s evt)) := by
  rintro ⟨always,_⟩
  let asked : MtPolicyRule := MtPolicyRule.setObject {} ⟨0⟩ ⟨.mandatory,⟨.null,0,0,[],true,true⟩⟩
  let s : NiSession := {NiSession.new 0 ⟨30,3,10⟩ 0 with
    state := .pending, rule := asked, mri := some (NtlpMsg.sample .configure 1 60).mri
    lastConfigureMsg := some (.sample .configure 1 60) }
  let d : Dispatcher := {Dispatcher.willing with installer := fun _ => .ok {}}
  have succeeds : s.Succeeds (.msg ((NtlpMsg.sample .configure 1 60).createSuccessResponse 60) true)
      (.sample .configure 1 60) ((NtlpMsg.sample .configure 1 60).createSuccessResponse 60) := ⟨rfl,rfl,rfl,rfl⟩
  have partly : NiSession.InstallsPartly d s _ := ⟨_,_,{},succeeds,rfl,.inl (by decide)⟩
  exact (NiSession.endsFailedInstall_iff d s _).mp (always d s _) partly

end Session
end Mnslp
