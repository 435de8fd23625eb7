import Mnslp.Session.ResentConfigure

/-! The rule of a forwarder that waits. It lives as long as the session, so a CONFIGURE that
is stored adds its objects to those of the CONFIGUREs that it replaces. -/
namespace Mnslp.Session
open Mnslp.Lib Mnslp.Msg

/-- A CONFIGURE and the dispatcher that it met. -/
abbrev Request := Dispatcher × NtlpMsg

namespace Request

def objects (request : Request) : List MspecObject := request.2.msg.getMspecObjects.toOption.getD []

/-- The objects that the node meters. -/
def admitted (request : Request) : List MspecObject :=
  request.objects.filter fun obj => request.1.admits .forwarder request.2.msg.getSelectionMeteringEntities obj

/-- The objects that are left for the next node. -/
def remaining (request : Request) : List MspecObject :=
  request.objects.filter fun obj => !request.1.admits .forwarder request.2.msg.getSelectionMeteringEntities obj

end Request

namespace NfSession

/-- A session that waits for a RESPONSE, the CONFIGUREs it has stored, those that came again
since it stored the last of them, and the CONFIGUREs it has sent on. -/
inductive Collected (conf : NfConfig) (id : SessionId) :
    List Request → List NtlpMsg → List NtlpMsg → NfSession → Prop
  | opened {d : Dispatcher} {m out : NtlpMsg} {forThisNode : Bool} {next : NfSession}
      (opens : Opens conf d (new id) m forThisNode out next) (keys : d.FreshKeys (new id).rule) :
      Collected conf id [(d,m)] [] [out] next
  | replaced {taken : List Request} {again sent : List NtlpMsg} {d : Dispatcher} {m out : NtlpMsg} {forThisNode : Bool}
      {s next : NfSession} (earlier : Collected conf id taken again sent s)
      (opens : Opens conf d s m forThisNode out next) (keys : d.FreshKeys s.rule) :
      Collected conf id (taken ++ [(d,m)]) [] (sent ++ [out]) next
  | resent {taken : List Request} {again sent : List NtlpMsg} {d : Dispatcher} {m out previous : NtlpMsg}
      {forThisNode : Bool} {s next : NfSession} (earlier : Collected conf id taken again sent s)
      (sends : SendsConfigure conf d s (.msg m forThisNode) out next) (waits : next.state = .pending)
      (stored : s.configureMessage = some previous)
      (same : m.msg.getMsgSequenceNumber = previous.msg.getMsgSequenceNumber) :
      Collected conf id taken (again ++ [m]) (sent ++ [out]) next
  | idle {taken : List Request} {again sent : List NtlpMsg} {d : Dispatcher} {evt : Event} {s next : NfSession}
      {actions : List Action} (earlier : Collected conf id taken again sent s)
      (ok : processEvent conf d s evt = .ok (next,actions)) (waits : next.state = .pending)
      (silent : ∀ out, .send out ∈ actions → out.msg.kind ≠ .configure) : Collected conf id taken again sent next

/-- The rule has the objects of the request that the node meters, and the last CONFIGURE that
was sent on has the others. -/
structure Serves (request : Request) (sent : List NtlpMsg) (rule : MtPolicyRule) : Prop where
  rule : rule.objects.values.Perm request.admitted
  forwarded : ∃ out, sent.getLast? = some out ∧ out.msg.getMspecObjects = .ok request.remaining

section
variable {conf : NfConfig} {id : SessionId} {d : Dispatcher} {s next : NfSession} {m out : NtlpMsg} {forThisNode : Bool}
variable {evt : Event} {actions : List Action} {taken : List Request} {again sent : List NtlpMsg}

theorem Opens.rule (opens : Opens conf d s m forThisNode out next) (keys : d.FreshKeys s.rule) :
    next.rule.objects.values.Perm (s.rule.objects.values ++ Request.admitted (d,m)) := by
  obtain ⟨objects,collected,_,rule⟩ := opens.forwarded.objects
  have copies := MnslpMsg.copies_getMspecObjects collected
  have admitted : (objects.filter fun obj => d.admits .forwarder m.msg.getSelectionMeteringEntities obj).map
      MspecObject.copy = Request.admitted (d,m) := by
    rw [Copies.map_eq fun obj member => copies obj (List.mem_filter.mp member).1]
    simp only [Request.admitted,Request.objects,collected]
    rfl
  rw [rule,← admitted]
  exact values_selectObjects _ _ keys objects

theorem Opens.remaining (opens : Opens conf d s m forThisNode out next) :
    out.msg.getMspecObjects = .ok (Request.remaining (d,m)) := by
  obtain ⟨objects,collected,left,_⟩ := opens.forwarded.objects
  rw [left]
  simp only [Request.remaining,Request.objects,collected]
  rfl

theorem resent_copy (waits : s.state = .pending) {previous : NtlpMsg} (stored : s.configureMessage = some previous)
    (same : m.msg.getMsgSequenceNumber = previous.msg.getMsgSequenceNumber)
    (sends : SendsConfigure conf d s (.msg m forThisNode) out next) (still : next.state = .pending) :
    out = m.copyForForwarding ∧ next.rule = s.rule := by
  obtain ⟨actions,ok,member,kind⟩ := sends
  have step := step_of_processEvent ok
  have refuted {m' : NtlpMsg} (configure : Event.ofKind .configure (.msg m forThisNode) = some m')
      (takes : Takes d s m' next actions) : False := by
    obtain ⟨⟨_,event⟩,_⟩ := Event.ofKind_eq_some.mp configure
    cases event
    obtain ⟨t,_,_,closed | ⟨_,earlier,found,different⟩⟩ := takes
    · rw [waits] at closed
      cases closed
    · rw [stored] at found
      cases found
      exact different same
  constructor
  · obtain ⟨m',configure,⟨copied,_⟩ | takes⟩ := step.configure_sent member kind
    · obtain ⟨⟨_,event⟩,_⟩ := Event.ofKind_eq_some.mp configure
      cases event
      exact copied
    · exact (refuted configure takes).elim
  · rcases step.into_pending still with ⟨_,rule,_⟩ | ⟨m',configure,takes⟩
    · exact rule
    · exact (refuted configure takes).elim

theorem rule_of_silent (ok : processEvent conf d s evt = .ok (next,actions)) (waits : next.state = .pending)
    (silent : ∀ out, .send out ∈ actions → out.msg.kind ≠ .configure) : s.state = .pending ∧ next.rule = s.rule := by
  rcases (step_of_processEvent ok).into_pending waits with ⟨state,rule,_⟩ | ⟨m,_,t,accepts,_⟩
  · exact ⟨state,rule⟩
  · cases accepts
    exact absurd (kind_configureToForward _ _ _) (silent _ List.mem_cons_self)

theorem Collected.pending (waiting : Collected conf id taken again sent s) : s.state = .pending := by
  cases waiting with
  | opened opens => exact opens.waits
  | replaced _ opens => exact opens.waits
  | resent _ _ waits => exact waits
  | idle _ _ waits => exact waits

theorem Collected.values (waiting : Collected conf id taken again sent s) :
    s.rule.objects.values.Perm (taken.flatMap Request.admitted) := by
  induction waiting with
  | opened opens keys =>
    have added := opens.rule keys
    rw [List.flatMap_singleton]
    exact added
  | replaced earlier opens keys ih =>
    rw [List.flatMap_append,List.flatMap_singleton]
    exact (opens.rule keys).trans (ih.append_right _)
  | resent earlier sends waits stored same ih =>
    rw [(resent_copy earlier.pending stored same sends waits).2]
    exact ih
  | idle earlier ok waits silent ih =>
    rw [(rule_of_silent ok waits silent).2]
    exact ih

theorem Collected.forwarded {last : Request} (waiting : Collected conf id (taken ++ [last]) again sent s) :
    ∃ out, sent.getLast? = some out ∧ out.msg.getMspecObjects =
      (again.getLast?.elim (.ok last.remaining) fun m => m.msg.getMspecObjects) := by
  generalize all : taken ++ [last] = requests at waiting
  induction waiting with
  | opened opens =>
    obtain ⟨_,one⟩ := List.append_inj' (all.trans (List.nil_append _).symm) rfl
    cases one
    exact ⟨_,rfl,opens.remaining⟩
  | replaced earlier opens =>
    obtain ⟨_,one⟩ := List.append_inj' all rfl
    cases one
    exact ⟨_,List.getLast?_concat,opens.remaining⟩
  | resent earlier sends waits stored same =>
    refine ⟨_,List.getLast?_concat,?_⟩
    rw [List.getLast?_concat,(resent_copy earlier.pending stored same sends waits).1]
    exact MnslpMsg.getMspecObjects_copy _
  | idle earlier ok waits silent ih => exact ih all

theorem Step.install_asked {result : MtPolicyRule} (step : Step conf d s evt next actions)
    (installs : .install result ∈ actions) : d.installPolicyRules s.rule = .ok result := by
  have removed (rule : MtPolicyRule) : .install result ∉ Dispatcher.removal rule := by
    unfold Dispatcher.removal
    split <;> simp
  cases step with
  | pendingInstalled state stored response success installed =>
    simp only [List.mem_cons,Action.install.injEq,reduceCtorEq,List.not_mem_nil,or_false] at installs
    rw [installed,installs]
  | pendingInstallFailed state stored response success installed =>
    simp only [List.mem_append,List.mem_cons,Action.install.injEq,reduceCtorEq,List.not_mem_nil,or_false,
      removed] at installs
    rw [installed,installs]
  | closeAccepted state configure allowed positive accepts => cases accepts; simp at installs
  | pendingReplaced state configure stored authorized different accepts => cases accepts; simp at installs
  | closeRejected | closeDiscarded | closeNoPath | pendingRejected | pendingTerminated | pendingResent | pendingNoPath
  | pendingNotReached | pendingRefused | pendingIgnored | refreshRejected | refreshDuplicate | refreshForwarded
  | refreshConfirmed | meteringIgnored => simp [authenticationFailed,noPathCoupledMri] at installs
  | meteringNotReached | meteringTimedOut | meteringBadRoute | teardownConfirmed | refreshRefused =>
    simp [removed] at installs

/-- One turn of a live session. -/
def Lives (conf : NfConfig) (id : SessionId) (s : NfSession) (label : Dispatcher × Event) (next : NfSession) : Prop :=
  (s = new id ∨ s.state ≠ .close) ∧ Next conf s label next ∧ label.1.FreshKeys s.rule

private theorem waiting_next {label : Dispatcher × Event} (taken : Lives conf id s label next)
    (waits : next.state = .pending) (before : s = new id ∨ ∃ taken last again sent,
      Collected conf id (taken ++ [last]) again sent s) :
    ∃ taken last again sent, Collected conf id (taken ++ [last]) again sent next := by
  obtain ⟨_,⟨actions,ok⟩,keys⟩ := taken
  by_cases sends : ∃ out, .send out ∈ actions ∧ out.msg.kind = .configure
  · obtain ⟨out,member,kind⟩ := sends
    obtain ⟨m,configure,_⟩ := (step_of_processEvent ok).configure_sent member kind
    obtain ⟨⟨forThisNode,event⟩,_⟩ := Event.ofKind_eq_some.mp configure
    rw [event] at ok
    have sent : SendsConfigure conf label.1 s (.msg m forThisNode) out next := ⟨actions,ok,member,kind⟩
    rcases before with rfl | ⟨taken,last,again,earlier,waiting⟩
    · exact ⟨[],_,_,_,.opened ⟨sent,waits,fun pending => State.noConfusion pending⟩ keys⟩
    · by_cases known : ∃ previous, s.configureMessage = some previous ∧
          m.msg.getMsgSequenceNumber = previous.msg.getMsgSequenceNumber
      · obtain ⟨previous,stored,same⟩ := known
        exact ⟨_,_,_,_,waiting.resent sent waits stored same⟩
      · refine ⟨_,_,_,_,waiting.replaced ⟨sent,waits,fun _ previous stored same => ?_⟩ keys⟩
        exact known ⟨previous,stored,same⟩
  · have silent : ∀ out, .send out ∈ actions → out.msg.kind ≠ .configure :=
      fun out member kind => sends ⟨out,member,kind⟩
    rcases before with rfl | ⟨taken,last,again,earlier,waiting⟩
    · cases (rule_of_silent ok waits silent).1
    · exact ⟨_,_,_,_,waiting.idle ok waits silent⟩

/-- Every session that waits got there in this way. -/
theorem Collected.of_run {labels : List (Dispatcher × Event)} (run : Run (Lives conf id) (new id) labels s)
    (waits : s.state = .pending) : ∃ taken last again sent, Collected conf id (taken ++ [last]) again sent s := by
  have reached : s = new id ∨ (s.state = .pending →
      ∃ taken last again sent, Collected conf id (taken ++ [last]) again sent s) := by
    refine run.invariant (fun s => s = new id ∨ (s.state = .pending →
      ∃ taken last again sent, Collected conf id (taken ++ [last]) again sent s)) ?_ (.inl rfl)
    intro s label next ih taken
    refine .inr fun waits => waiting_next taken waits ?_
    obtain ⟨alive,⟨actions,ok⟩,_⟩ := taken
    rcases alive with fresh | living
    · exact .inl fresh
    · rcases (step_of_processEvent ok).into_pending waits with ⟨state,_⟩ | ⟨_,_,_,_,_,closed | ⟨state,_⟩⟩
      · exact ih.imp_right fun waiting => waiting state
      · exact absurd closed living
      · exact ih.imp_right fun waiting => waiting state
  rcases reached with rfl | waiting
  · cases waits
  · exact waiting waits

end

/-- The rule that is installed is that of the last CONFIGURE exactly if the node meters no object
of the CONFIGUREs before, and no copy with other objects was sent on. -/
theorem rule_replaced_iff (conf : NfConfig) (id : SessionId) (taken : List Request) (last : Request)
    (again sent : List NtlpMsg) (s next : NfSession) (d : Dispatcher) (evt : Event) (actions : List Action)
    (result : MtPolicyRule) (waiting : Collected conf id (taken ++ [last]) again sent s)
    (ok : processEvent conf d s evt = .ok (next,actions)) (installs : .install result ∈ actions) :
    d.installPolicyRules s.rule = .ok result ∧ (Serves last sent s.rule ↔
      (∀ request ∈ taken, request.admitted = []) ∧
        ∀ m, again.getLast? = some m → m.msg.getMspecObjects = .ok last.remaining) := by
  refine ⟨(step_of_processEvent ok).install_asked installs,?_⟩
  have values := waiting.values
  rw [List.flatMap_append,List.flatMap_singleton] at values
  obtain ⟨out,final,objects⟩ := waiting.forwarded
  constructor
  · rintro ⟨rule,out',final',objects'⟩
    rw [final] at final'
    cases final'
    constructor
    · have lengths := (values.symm.trans rule).length_eq
      rw [List.length_append] at lengths
      have none : taken.flatMap Request.admitted = [] := List.length_eq_zero_iff.mp (by omega)
      exact List.flatMap_eq_nil_iff.mp none
    · intro m resent
      rw [resent,objects'] at objects
      exact objects.symm
  · rintro ⟨none,resent⟩
    rw [List.flatMap_eq_nil_iff.mpr none,List.nil_append] at values
    refine ⟨values,out,final,?_⟩
    rw [objects]
    cases copied : again.getLast? with
    | none => rfl
    | some m => exact resent m copied

/-- A node whose keys count from the first. -/
private def keysFrom (first : Nat) : Dispatcher := {Dispatcher.willing with ruleKey := fun index => ⟨first + index⟩}

private theorem keysFrom_distinct (first a b : Nat) (same : (keysFrom first).ruleKey a = (keysFrom first).ruleKey b) :
    a = b := by
  simpa [keysFrom] using same

private def request (number : UInt32) (objects : List MspecObject) : NtlpMsg :=
  let m := NtlpMsg.sample .configure number 60
  {m with msg := (m.msg.setSelectionMeteringEntities smeAll).setMspecObjects objects}

private def template : MspecObject := ⟨.mandatory,⟨.null,0,0,[],true,true⟩⟩

/-- The object of the first CONFIGURE is metered although the second, without objects, replaced it. -/
theorem rule_not_replaced : ¬ ∀ (conf : NfConfig) (id : SessionId) (taken : List Request) (last : Request)
    (again sent : List NtlpMsg) (s next : NfSession) (d : Dispatcher) (evt : Event) (actions : List Action)
    (result : MtPolicyRule), Collected conf id (taken ++ [last]) again sent s →
    processEvent conf d s evt = .ok (next,actions) → .install result ∈ actions → Serves last sent s.rule := by
  intro always
  have serves := always ⟨100⟩ 0 [(keysFrom 0,request 1 [template])] (keysFrom 1,request 2 []) [] _ _ _ .willing
    (.msg ((request 2 []).createSuccessResponse 60) false) _ _
    (@Collected.replaced _ _ _ _ _ _ _ _ false _ _ (@Collected.opened _ _ _ _ _ false _ ⟨⟨_,rfl,.head _,rfl⟩,rfl,fun waits => State.noConfusion waits⟩
        ⟨keysFrom_distinct 0,fun _ => rfl⟩)
      ⟨⟨_,rfl,.head _,rfl⟩,rfl,fun _ previous stored same => by cases stored; exact absurd same (by decide)⟩
      ⟨keysFrom_distinct 1,fun number => OrderedMap.find_insert_other _ _ _ _ (by simp [keysFrom,Ranked.rank]; omega)⟩)
    rfl (.head _)
  exact absurd serves.rule.length_eq (by decide)

/-- Nothing is left of a CONFIGURE without objects. -/
theorem rule_replaced : ∃ sent rule, Serves (keysFrom 0,request 2 [template]) sent rule :=
  ⟨_,_,(rule_replaced_iff ⟨100⟩ 0 [(keysFrom 0,request 1 [])] (keysFrom 0,request 2 [template]) [] _ _ _ .willing
    (.msg ((request 2 []).createSuccessResponse 60) false) _ _
    (@Collected.replaced _ _ _ _ _ _ _ _ false _ _ (@Collected.opened _ _ _ _ _ false _
        ⟨⟨_,rfl,.head _,rfl⟩,rfl,fun waits => State.noConfusion waits⟩ ⟨keysFrom_distinct 0,fun _ => rfl⟩)
      ⟨⟨_,rfl,.head _,rfl⟩,rfl,fun _ previous stored same => by cases stored; exact absurd same (by decide)⟩
      ⟨keysFrom_distinct 0,fun _ => rfl⟩)
    rfl (.head _)).2.mpr ⟨by simp only [List.mem_singleton,forall_eq]; rfl,by simp⟩⟩

end NfSession
end Mnslp.Session
