import Mnslp.Session.Network

/-! The life of one session: the events it handles until the dispatcher removes it. What
it has installed and what it has armed is read off the actions of the events so far. -/
namespace Mnslp.Session
open Mnslp.Lib Mnslp.Msg

/-- A handled event, the dispatcher it met and what was done. -/
structure Turn where
  d : Dispatcher
  evt : Event
  actions : List Action

namespace Action

@[simp] def installed? : Action → Option MtPolicyRule
  | .install rule => some rule
  | _ => none

@[simp] def removed? : Action → Option MtPolicyRule
  | .remove rule => some rule
  | _ => none

@[simp] def started? : Action → Option Nat
  | .startTimer id _ => some id
  | _ => none

@[simp] def sent? : Action → Option NtlpMsg
  | .send m => some m
  | _ => none

def installs (actions : List Action) : List MtPolicyRule := actions.filterMap installed?

def removes (actions : List Action) : List MtPolicyRule := actions.filterMap removed?

def starts (actions : List Action) : List Nat := actions.filterMap started?

def sends (actions : List Action) : List NtlpMsg := actions.filterMap sent?

section
variable (action : Action) (first rest : List Action)

@[simp] theorem installs_nil : installs [] = [] := rfl

@[simp] theorem removes_nil : removes [] = [] := rfl

@[simp] theorem starts_nil : starts [] = [] := rfl

@[simp] theorem sends_nil : sends [] = [] := rfl

@[simp] theorem installs_cons : installs (action :: rest) = action.installed?.toList ++ installs rest := by
  cases action <;> rfl

@[simp] theorem removes_cons : removes (action :: rest) = action.removed?.toList ++ removes rest := by
  cases action <;> rfl

@[simp] theorem starts_cons : starts (action :: rest) = action.started?.toList ++ starts rest := by
  cases action <;> rfl

@[simp] theorem sends_cons : sends (action :: rest) = action.sent?.toList ++ sends rest := by
  cases action <;> rfl

@[simp] theorem installs_append : installs (first ++ rest) = installs first ++ installs rest := List.filterMap_append

@[simp] theorem removes_append : removes (first ++ rest) = removes first ++ removes rest := List.filterMap_append

@[simp] theorem starts_append : starts (first ++ rest) = starts first ++ starts rest := List.filterMap_append

@[simp] theorem sends_append : sends (first ++ rest) = sends first ++ sends rest := List.filterMap_append

end

end Action

def MtPolicyRule.HasKeys (rule : MtPolicyRule) : Prop := rule.getNumberRuleKeys > 0

instance (rule : MtPolicyRule) : Decidable rule.HasKeys := inferInstanceAs (Decidable (_ > _))

def keyed (rules : List MtPolicyRule) : List MtPolicyRule := rules.filter fun rule => rule.HasKeys

@[simp] theorem keyed_append (first rest : List MtPolicyRule) : keyed (first ++ rest) = keyed first ++ keyed rest :=
  List.filter_append ..

@[simp] theorem installs_removal (rule : MtPolicyRule) : Action.installs (Dispatcher.removal rule) = [] := by
  unfold Dispatcher.removal
  split <;> rfl

@[simp] theorem removes_removal (rule : MtPolicyRule) : Action.removes (Dispatcher.removal rule) = keyed [rule] := by
  unfold Dispatcher.removal
  by_cases keys : rule.getNumberRuleKeys > 0
  · have kept : keyed [rule] = [rule] := List.filter_eq_self.mpr (by simpa [MtPolicyRule.HasKeys] using keys)
    rw [if_pos keys,kept]
    rfl
  · have dropped : keyed [rule] = [] := List.filter_eq_nil_iff.mpr (by simpa [MtPolicyRule.HasKeys] using keys)
    rw [if_neg keys,dropped]
    rfl

@[simp] theorem starts_removal (rule : MtPolicyRule) : Action.starts (Dispatcher.removal rule) = [] := by
  unfold Dispatcher.removal
  split <;> rfl

@[simp] theorem sends_removal (rule : MtPolicyRule) : Action.sends (Dispatcher.removal rule) = [] := by
  unfold Dispatcher.removal
  split <;> rfl

/-- Choosing the objects of a rule gives it no keys. -/
@[simp] theorem ruleKeys_selectObjects (d : Dispatcher) (type : SessionType) (sme : UInt32) (rule : MtPolicyRule)
    (objects : List MspecObject) : (selectObjects d type sme rule objects).1.ruleKeys = rule.ruleKeys := by
  have onwards (list : List (MspecObject × Nat)) : ∀ chosen : MtPolicyRule × List MspecObject,
      (list.foldl (fun chosen entry =>
        if checkParticipating type sme ∧ d.check entry.1 then
          (chosen.1.setObject (d.ruleKey entry.2) entry.1.copy,chosen.2)
        else (chosen.1,chosen.2 ++ [entry.1.copy])) chosen).1.ruleKeys = chosen.1.ruleKeys := by
    induction list with
    | nil => exact fun chosen => rfl
    | cons entry rest ih =>
      intro chosen
      rw [List.foldl_cons,ih]
      split <;> rfl
  rw [selectObjects_eq]
  exact onwards _ (rule,[])

namespace NodeSession

def state : NodeSession → State
  | .initiator s => s.state
  | .forwarder s => s.state
  | .responder s => s.state

def rule : NodeSession → MtPolicyRule
  | .initiator s => s.rule
  | .forwarder s => s.rule
  | .responder s => s.rule

/-- The timers whose events can move the session on. -/
def timers : NodeSession → List Nat
  | .initiator s => [s.responseTimer,s.refreshTimer]
  | .forwarder s => [s.stateTimer]
  | .responder s => [s.stateTimer]

/-- As the session manager creates it. -/
inductive IsNew : NodeSession → Prop
  | initiator (id : SessionId) (conf : NiConfig) (randomNumber : UInt32) : IsNew (.initiator (.new id conf randomNumber))
  | forwarder (id : SessionId) : IsNew (.forwarder (.new id))
  | responder (id : SessionId) (conf : NrConfig) : IsNew (.responder (.new id conf))

/-- The dispatcher removes a session that has returned to CLOSE. -/
def Next (net : Network) (i : Nat) (s : NodeSession) (turn : Turn) (next : NodeSession) : Prop :=
  (s.IsNew ∨ s.state ≠ .close) ∧ s.processEvent net i turn.d turn.evt = .ok (next,turn.actions)

def installed (past : List Turn) : List MtPolicyRule := past.flatMap fun turn => Action.installs turn.actions

def removed (past : List Turn) : List MtPolicyRule := past.flatMap fun turn => Action.removes turn.actions

/-- The rule that is in the meter. -/
def held (s : NodeSession) : List MtPolicyRule := if s.state = .metering then keyed [s.rule] else []

/-- Nothing is installed before METERING. -/
def Unkeyed (s : NodeSession) : Prop := s.state = .pending → ¬ s.rule.HasKeys

/-- The rules with keys that a turn installs are those it removes and those it leaves in
the meter, after those that were there. -/
def Balances (s : NodeSession) (actions : List Action) (next : NodeSession) : Prop :=
  s.held ++ keyed (Action.installs actions) = Action.removes actions ++ next.held

theorem unkeyed_of_close {s : NodeSession} (state : s.state = .close) : s.Unkeyed := by
  intro other
  rw [state] at other
  cases other

theorem unkeyed_of_metering {s : NodeSession} (state : s.state = .metering) : s.Unkeyed := by
  intro other
  rw [state] at other
  cases other

private theorem keyed_of_not {rule : MtPolicyRule} (none : ¬ rule.HasKeys) : keyed [rule] = [] :=
  List.filter_eq_nil_iff.mpr (by simpa using none)

section
variable {d : Dispatcher} {evt : Event} {actions : List Action}

private theorem initiator_balances {s next : NiSession} (unkeyed : (initiator s).Unkeyed)
    (alive : (initiator s).IsNew ∨ s.state ≠ .close) (step : NiSession.Step d s evt next actions) :
    (initiator next).Unkeyed ∧ (initiator s).Balances actions (initiator next) := by
  unfold Balances
  cases step with
  | configured state =>
    rename_i e _
    have fresh : ¬ s.rule.HasKeys := by
      rcases alive with new | other
      · cases new
        exact Nat.lt_irrefl 0
      · exact absurd state other
    refine ⟨fun _ => ?_,by split <;> simp [held,NodeSession.state,state,NiSession.opened,keyed]⟩
    unfold MtPolicyRule.HasKeys MtPolicyRule.getNumberRuleKeys at fresh ⊢
    dsimp only [NodeSession.rule,NiSession.opened,NiSession.configuring]
    rwa [ruleKeys_selectObjects]
  | closeIgnored | meteringIgnored | pendingIgnored => exact ⟨unkeyed,by simp [keyed]⟩
  | pendingRetried state => exact ⟨unkeyed,by simp [held,NodeSession.state,state,keyed]⟩
  | pendingGivenUp state | pendingNotReached state | pendingRefused state =>
    exact ⟨unkeyed_of_close rfl,by simp [held,NodeSession.state,state,keyed]⟩
  | pendingTeardown state =>
    have none : keyed [s.rule] = [] := keyed_of_not (unkeyed state)
    refine ⟨unkeyed_of_close rfl,?_⟩
    simp [held,NodeSession.state,state,none]
    rfl
  | pendingInstalled state =>
    exact ⟨unkeyed_of_metering rfl,by simp [held,NodeSession.state,state,NodeSession.rule]⟩
  | refreshed state | refreshRetried state | refreshConfirmed state =>
    exact ⟨unkeyed_of_metering state,by simp [held,NodeSession.state,state,NodeSession.rule,keyed]⟩
  | refreshGivenUp state | meteringTeardown state | refreshRefused state =>
    exact ⟨unkeyed_of_close rfl,by simp [held,NodeSession.state,state,NodeSession.rule,keyed]⟩

private theorem forwarder_balances {conf : NfConfig} {s next : NfSession} (unkeyed : (forwarder s).Unkeyed)
    (alive : (forwarder s).IsNew ∨ s.state ≠ .close) (step : NfSession.Step conf d s evt next actions) :
    (forwarder next).Unkeyed ∧ (forwarder s).Balances actions (forwarder next) := by
  unfold Balances
  have accepted {from' : NfSession} {m : NtlpMsg} (clean : ¬ from'.rule.HasKeys) (state : s.state ≠ .metering)
      (accepts : NfSession.Accepts d from' m next actions) :
      (forwarder next).Unkeyed ∧ (forwarder s).Balances actions (forwarder next) := by
    cases accepts with
    | intro pathcoupled downstream collected selected =>
      refine ⟨fun _ => ?_,by simp [Balances,held,NodeSession.state,state,NfSession.accepted,keyed]⟩
      have kept := ruleKeys_selectObjects d .forwarder m.msg.getSelectionMeteringEntities from'.rule
      unfold MtPolicyRule.HasKeys MtPolicyRule.getNumberRuleKeys at clean ⊢
      rw [← kept,selected] at clean
      exact clean
  cases step with
  | closeRejected state | closeDiscarded state | closeNoPath state =>
    exact ⟨unkeyed_of_close (by simp [NodeSession.state,NfSession.configured,state]),
      by simp [held,NodeSession.state,NfSession.configured,state,authenticationFailed,NfSession.noPathCoupledMri,keyed]⟩
  | closeAccepted state configure allowed positive accepts =>
    refine accepted ?_ (by simp [state]) accepts
    rcases alive with new | other
    · cases new
      exact Nat.lt_irrefl 0
    · exact absurd state other
  | pendingReplaced state configure stored authorized different accepts =>
    refine accepted ?_ (by simp [state]) accepts
    exact unkeyed state
  | pendingRejected state | pendingResent state | pendingIgnored state =>
    exact ⟨unkeyed,by simp [held,NodeSession.state,state,authenticationFailed,keyed]⟩
  | pendingTerminated state | pendingNoPath state | pendingNotReached state | pendingRefused state =>
    exact ⟨unkeyed_of_close rfl,by simp [held,NodeSession.state,state,NfSession.noPathCoupledMri,keyed]⟩
  | pendingInstalled state =>
    exact ⟨unkeyed_of_metering rfl,by simp [held,NodeSession.state,state,NodeSession.rule]⟩
  | pendingInstallFailed state =>
    exact ⟨unkeyed_of_close rfl,by simp [held,NodeSession.state,state]⟩
  | refreshRejected state | refreshDuplicate state | refreshForwarded state | refreshConfirmed state
  | meteringIgnored state =>
    exact ⟨unkeyed_of_metering state,by
      simp [held,NodeSession.state,state,NodeSession.rule,authenticationFailed,keyed]⟩
  | meteringNotReached state | meteringTimedOut state | meteringBadRoute state | teardownConfirmed state
  | refreshRefused state =>
    exact ⟨unkeyed_of_close rfl,by simp [held,NodeSession.state,state,NodeSession.rule,keyed]⟩

private theorem responder_balances {s next : NrSession} (step : NrSession.Step d s evt next actions) :
    (responder next).Unkeyed ∧ (responder s).Balances actions (responder next) := by
  unfold Balances
  cases step with
  | closeRejected state | closeZero state | closeIncomplete state | closeIgnored state =>
    exact ⟨unkeyed_of_close (by simp [NodeSession.state,NrSession.taking,state]),
      by simp [held,NodeSession.state,NrSession.taking,state,authenticationFailed,keyed]⟩
  | closeInstalled state =>
    exact ⟨unkeyed_of_metering rfl,by simp [held,NodeSession.state,state,NodeSession.rule]⟩
  | closeInstallFailed state =>
    exact ⟨unkeyed_of_close (by simp [NodeSession.state,NrSession.taking,state]),
      by simp [held,NodeSession.state,NrSession.taking,state]⟩
  | refreshRejected state | refreshDuplicate state | refreshed state | meteringIgnored state =>
    exact ⟨unkeyed_of_metering (by simp [NodeSession.state,NrSession.taking,state]),by
      simp [held,NodeSession.state,NrSession.taking,state,NodeSession.rule,authenticationFailed,keyed]⟩
  | tornDown state | timedOut state =>
    exact ⟨unkeyed_of_close rfl,by simp [held,NodeSession.state,state,NodeSession.rule,keyed]⟩

theorem balances_next {net : Network} {i : Nat} {s next : NodeSession} {turn : Turn} (unkeyed : s.Unkeyed)
    (taken : Next net i s turn next) : next.Unkeyed ∧ s.Balances turn.actions next := by
  obtain ⟨alive,ok⟩ := taken
  cases s with
  | initiator s =>
    obtain ⟨s',rfl,step⟩ := initiator_step ok
    exact initiator_balances unkeyed alive step
  | forwarder s =>
    obtain ⟨s',rfl,step⟩ := forwarder_step ok
    exact forwarder_balances unkeyed alive step
  | responder s =>
    obtain ⟨s',rfl,step⟩ := responder_step ok
    exact responder_balances step

theorem IsNew.state {s : NodeSession} (isNew : s.IsNew) : s.state = .close := by
  cases isNew <;> rfl

/-- The rules with keys that were installed and those that were removed, in order. -/
theorem installed_eq_removed {net : Network} {i : Nat} {start s : NodeSession} {past : List Turn}
    (isNew : start.IsNew) (run : Run (Next net i) start past s) : keyed (installed past) = removed past ++ s.held := by
  have kept := run.history (fun past s => s.Unkeyed ∧ keyed (installed past) = removed past ++ s.held)
    (fun past s turn next inv taken => by
      obtain ⟨unkeyed,balance⟩ := balances_next inv.1 taken
      refine ⟨unkeyed,?_⟩
      simp only [installed,removed,List.flatMap_append,List.flatMap_singleton,keyed_append] at inv ⊢
      rw [inv.2,List.append_assoc,List.append_assoc]
      exact congrArg _ balance)
    ⟨unkeyed_of_close isNew.state,by simp [installed,removed,keyed,held,isNew.state]⟩
  exact kept.2

/-- When a session closes, all keys that it got from the installer were handed back, and
no rule was removed more often than it was installed. -/
theorem rules_handed_back (net : Network) (i : Nat) (start s : NodeSession) (past : List Turn) (isNew : start.IsNew)
    (run : Run (Next net i) start past s) :
    (s.state = .close → ∀ rule ∈ installed past, ∀ key ∈ rule.keyStrings, ∃ gone ∈ removed past, key ∈ gone.keyStrings) ∧
      (removed past).Sublist (installed past) := by
  have balance := installed_eq_removed isNew run
  constructor
  · intro closed rule member key inside
    have none : s.held = [] := if_neg (by simp [closed])
    rw [none,List.append_nil] at balance
    have keys : rule.HasKeys := by
      unfold MtPolicyRule.HasKeys MtPolicyRule.getNumberRuleKeys OrderedMap.size
      apply List.length_pos_of_ne_nil
      intro empty
      simp [MtPolicyRule.keyStrings,OrderedMap.values,empty] at inside
    refine ⟨rule,?_,inside⟩
    rw [← balance]
    exact List.mem_filter.mpr ⟨member,by simpa using keys⟩
  · have first : (removed past).Sublist (keyed (installed past)) := by
      rw [balance]
      exact List.sublist_append_left _ _
    exact first.trans List.filter_sublist

end
end NodeSession

/-- A path without forwarders. -/
def Network.direct : Network where
  forwarders := 0
  niConf := ⟨30,3,10⟩
  nfConf _ := ⟨100⟩
  nrConf := ⟨100⟩
  id := 0
  randomNumber := 0

/-- A node whose meter hands out a key for every rule. -/
def Dispatcher.keying : Dispatcher :=
  {Dispatcher.willing with installer := fun rule => .ok {rule with ruleKeys := rule.ruleKeys.set ⟨0⟩ ["key"]}}

namespace NodeSession

/-- A new responder after a CONFIGURE for a minute. -/
private def metered : NodeSession :=
  .responder {NrSession.new 0 ⟨100⟩ with
    state := .metering, msn := 1, lifetime := 60, stateTimer := 1
    rule := {ruleKeys := OrderedMap.empty.set ⟨0⟩ ["key"]}}

/-- A responder that installs, and that is torn down by a REFRESH. -/
theorem rules_handed_back_closed : ∃ past s, Run (Next .direct 1) (.responder (.new 0 ⟨100⟩)) past s ∧
    s.state = .close ∧ (installed past).map MtPolicyRule.keyStrings = [["key"]] ∧
    ∀ rule ∈ installed past, ∀ key ∈ rule.keyStrings, ∃ gone ∈ removed past, key ∈ gone.keyStrings := by
  have isNew : IsNew (.responder (.new 0 ⟨100⟩)) := .responder 0 ⟨100⟩
  have installs : processEvent .direct 1 .keying (.responder (.new 0 ⟨100⟩)) (.msg (.sample .configure 1 60) true) =
    .ok (metered,_) := rfl
  have tearsDown : processEvent .direct 1 .keying metered (.msg (.sample .refresh 2 0) true) = .ok (_,_) := rfl
  have run : Run (Next .direct 1) (.responder (.new 0 ⟨100⟩)) [⟨_,_,_⟩,⟨_,_,_⟩] _ :=
    .cons ⟨.inl isNew,installs⟩ (.single ⟨.inr (fun closed => State.noConfusion closed),tearsDown⟩)
  exact ⟨_,_,run,rfl,rfl,(rules_handed_back .direct 1 _ _ _ isNew run).1 rfl⟩

end NodeSession
end Mnslp.Session
