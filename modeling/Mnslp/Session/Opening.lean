import Mnslp.Session.Network

/-! The beginning of every run: the initiator waits for its user, and its CONFIGURE is
the first message on the path. -/
namespace Mnslp.Session
open Mnslp.Lib Mnslp.Msg
namespace Network

/-- The session of the initiator when it is created. -/
def opener (net : Network) : NiSession := .new net.id net.niConf net.randomNumber

/-- Before the request of the user nothing has happened. -/
structure Fresh (net : Network) (c : Path) : Prop where
  initiator : (c.node 0).session = some (.initiator net.opener)
  others : ∀ i, i ≠ 0 → (c.node i).session = none
  down : ∀ i, c.down i = []
  up : ∀ i, c.up i = []

/-- The request of the user has been sent on. -/
structure Opened (net : Network) (d : Dispatcher) (e : ApiConfigure) (c : Path) : Prop where
  initiator : (c.node 0).session = some (.initiator (net.opener.opened d e))
  others : ∀ i, i ≠ 0 → (c.node i).session = none
  down : ∀ i, ∀ m ∈ c.down i, i = 0 ∧ m = (net.opener.configureFor d e).copy
  up : ∀ i, c.up i = []

/-- There is no session, and no message that could create one. -/
structure Over (c : Path) : Prop where
  nodes : ∀ i, (c.node i).session = none
  down : ∀ i, c.down i = []
  up : ∀ i, c.up i = []

theorem fresh_start (net : Network) : net.Fresh net.start where
  initiator := rfl
  others i notFirst := by simp [start,notFirst]
  down _ := rfl
  up _ := rfl

section
variable {net : Network} {c next : Path} {label : Label}

theorem Fresh.thinned {thin : Path} (fresh : net.Fresh c) (fewer : Chain.Thinned c thin) : net.Fresh thin where
  initiator := by
    rw [fewer.node]
    exact fresh.initiator
  others := by
    rw [fewer.node]
    exact fresh.others
  down i := List.eq_nil_iff_forall_not_mem.mpr fun m member => by
    simpa [fresh.down i] using fewer.down i m member
  up i := List.eq_nil_iff_forall_not_mem.mpr fun m member => by
    simpa [fresh.up i] using fewer.up i m member

theorem Fresh.own (fresh : net.Fresh c) {evt : Event} {s : NodeSession} (has : net.Has 0 evt (c.node 0) s) :
    s = .initiator net.opener :=
  has.existing fresh.initiator

private theorem Fresh.configured {d : Dispatcher} {e : ApiConfigure} {actions : List Action} (fresh : net.Fresh c)
    (installed : List String) (sends : ∀ sent, .send sent ∈ actions → sent = (net.opener.configureFor d e).copy) :
    net.Opened d e (c.act 0
      ⟨⟨some (.initiator (net.opener.opened d e)),installed⟩,Action.sentDown actions,Action.sentUp actions⟩) where
  initiator := by rw [Chain.act_node_self]
  others i later := by
    rw [Chain.act_node_of_ne _ _ later]
    exact fresh.others i later
  down i sent member := by
    by_cases first : i = 0
    · subst first
      rw [Chain.act_down_self,fresh.down 0,List.nil_append] at member
      exact ⟨rfl,sends sent (Action.mem_sentDown.mp member).1⟩
    · rw [Chain.act_down_of_ne _ _ first,fresh.down i] at member
      cases member
  up i := by
    rw [Chain.act_up_of_ne _ _ (Nat.succ_ne_zero i)]
    exact fresh.up i

private theorem Fresh.ended (fresh : net.Fresh c) (installed : List String) : Over (c.act 0 ⟨⟨none,installed⟩,[],[]⟩) where
  nodes i := by
    by_cases first : i = 0
    · subst first
      rw [Chain.act_node_self]
    · rw [Chain.act_node_of_ne _ _ first]
      exact fresh.others i first
  down i := by
    by_cases first : i = 0
    · subst first
      rw [Chain.act_down_self,List.append_nil]
      exact fresh.down 0
    · rw [Chain.act_down_of_ne _ _ first]
      exact fresh.down i
  up i := by
    rw [Chain.act_up_of_ne _ _ (Nat.succ_ne_zero i)]
    exact fresh.up i

/-- The session of the initiator ends, waits on, or opens for its user. -/
theorem fresh_step (fresh : net.Fresh c) (taken : net.Next c label next) :
    Over next ∨ (net.Fresh next ∧ ∀ d x, label ≠ .input 0 d x) ∨
      ∃ d e, label = .input 0 d (.apiConfigure e) ∧ net.Opened d e next := by
  by_cases own : ∃ d x, label = .input 0 d x
  · obtain ⟨d,x,rfl⟩ := own
    obtain ⟨r,takes,rfl⟩ := Chain.input_taken taken
    have outcome : net.process 0 d x.event (c.node 0) = some r := takes
    cases handled outcome with
    | discarded absent =>
      rw [fresh.initiator] at absent
      cases absent
    | initiator existing step =>
      rw [fresh.initiator] at existing
      cases existing
      rcases step.of_close rfl with ⟨e,event,rfl,sends⟩ | ⟨rfl,rfl⟩
      · have asked : x = .apiConfigure e := by cases x <;> cases event; rfl
        subst asked
        exact .inr (.inr ⟨d,e,rfl,fresh.configured _ sends⟩)
      · exact .inl (fresh.ended _)
    | forwarder has => exact NodeSession.noConfusion (fresh.own has)
    | responder has => exact NodeSession.noConfusion (fresh.own has)
    | threw has =>
      rw [fresh.own has]
      exact .inl (fresh.ended _)
  · refine .inr (.inl ⟨?_,fun d x same => own ⟨d,x,same⟩⟩)
    rcases Chain.step_cases taken with fewer | ⟨i,r,thin,reacts,fewer,rfl⟩
    · exact fresh.thinned fewer
    · cases reacts with
      | down found => simp [fresh.down] at found
      | up found => simp [fresh.up] at found
      | input takes =>
        rename_i d x
        have uncreated : net.createSession i x.event = none := by simp [createSession]
        have later : i ≠ 0 := by
          intro first
          subst first
          exact own ⟨d,x,rfl⟩
        rw [discarded_of_absent (fresh.others i later) uncreated takes]
        have same : thin.act i ⟨c.node i,[],[]⟩ = thin := by
          rw [← fewer.node]
          simp [Chain.act]
        rw [same]
        exact fresh.thinned fewer

/-- A session of the initiator that is gone does not come back. -/
theorem initiator_gone (gone : (c.node 0).session = none) (taken : net.Next c label next) :
    (next.node 0).session = none := by
  have stays (d : Dispatcher) (evt : Event) (r : Reaction Node NtlpMsg)
      (outcome : net.process 0 d evt (c.node 0) = some r) : r.node.session = none := by
    have uncreated : net.createSession 0 evt = none := by
      unfold createSession
      split <;> rfl
    rw [discarded_of_absent gone uncreated outcome]
    exact gone
  rcases Chain.step_cases taken with fewer | ⟨i,r,thin,reacts,fewer,rfl⟩
  · rw [fewer.node]
    exact gone
  · by_cases first : i = 0
    · subst first
      rw [Chain.act_node_self]
      cases reacts with
      | up found receives => exact stays _ _ _ receives
      | input takes => exact stays _ _ _ takes
    · rw [Chain.act_node_of_ne _ _ (Ne.symm first),fewer.node]
      exact gone

/-- A step of the path leaves the session of the initiator, removes it or hands it an event. -/
theorem initiator_next {s : NiSession} (session : (c.node 0).session = some (.initiator s))
    (taken : net.Next c label next) :
    (next.node 0).session = some (.initiator s) ∨ (next.node 0).session = none ∨
      ∃ d evt s' actions, net.Gets c label 0 d evt ∧ NiSession.Step d s evt s' actions ∧ s'.state ≠ .close ∧
        (next.node 0).session = some (.initiator s') := by
  rcases Chain.step_cases taken with fewer | ⟨i,r,thin,reacts,fewer,rfl⟩
  · rw [fewer.node]
    exact .inl session
  · by_cases first : i = 0
    · subst first
      obtain ⟨d,evt,gets,outcome⟩ := gets_of_reacts reacts
      rw [Chain.act_node_self]
      cases handled outcome with
      | discarded absent =>
        rw [session] at absent
        cases absent
      | initiator existing step =>
        rename_i s' actions ok
        rw [session] at existing
        cases existing
        by_cases closed : s'.state = .close
        · exact .inr (.inl (by simp [reaction,NodeSession.isFinal,NiSession.isFinal,closed]))
        · refine .inr (.inr ⟨d,evt,s',actions,gets,step,closed,?_⟩)
          simp [reaction,NodeSession.isFinal,NiSession.isFinal,closed]
      | forwarder has => exact NodeSession.noConfusion (has.existing session)
      | responder has => exact NodeSession.noConfusion (has.existing session)
      | threw => exact .inr (.inl rfl)
    · rw [Chain.act_node_of_ne _ _ (Ne.symm first),fewer.node]
      exact .inl session

theorem initiator_first {past : List Label} (run : Run net.Next net.start past c) {s : NodeSession}
    (session : (c.node 0).session = some s) : ∃ n, s = .initiator n := by
  have first : ∀ s, (c.node 0).session = some s → ∃ n, s = .initiator n := by
    refine run.invariant (fun c => ∀ s, (c.node 0).session = some s → ∃ n, s = .initiator n)
      (fun c label next own taken s' kept => ?_) (fun s kept => ?_)
    · cases before : (c.node 0).session with
      | none =>
        rw [initiator_gone before taken] at kept
        cases kept
      | some s =>
        obtain ⟨n,rfl⟩ := own s before
        rcases initiator_next before taken with same | gone | ⟨d,evt,n',actions,_,_,_,same⟩
        · rw [same] at kept
          exact ⟨n,(Option.some.inj kept).symm⟩
        · rw [gone] at kept
          cases kept
        · rw [same] at kept
          exact ⟨n',(Option.some.inj kept).symm⟩
    · exact ⟨net.opener,(Option.some.inj kept).symm⟩
  exact first s session

end
end Network
end Mnslp.Session
