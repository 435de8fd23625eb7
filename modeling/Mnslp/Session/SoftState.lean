import Mnslp.Session.Timers
import Mnslp.Session.BoundedRetries

/-! Soft state: a session that hears from nobody any more closes, after a number of timer
events that is known beforehand, and what it has installed is removed. -/
namespace Mnslp.Session
open Mnslp.Lib Mnslp.Msg
namespace NodeSession

/-- The number of times that an unanswered request is sent again. -/
def maxRetries : NodeSession → Nat
  | .initiator s => s.maxRetries.toNat
  | _ => 0

/-- How often the timers that run can still make a session send. -/
def patience (ids : List Nat) : NodeSession → Nat
  | .initiator s =>
    match s.state with
    | .close => 0
    | .pending => s.maxRetries.toNat - s.configureCounter.toNat
    | .metering =>
      (if s.refreshTimer ∈ ids then s.maxRetries.toNat + 1 else 0) + (s.maxRetries.toNat - s.refreshCounter.toNat)
  | _ => 0

/-- A timer whose event is still to come sets off at most one round of requests. -/
theorem patience_le (ids : List Nat) (s : NodeSession) : s.patience ids ≤ 2 * s.maxRetries + 1 := by
  cases s with
  | initiator s =>
    unfold patience maxRetries
    dsimp only
    split
    · exact Nat.zero_le _
    · omega
    · split <;> omega
  | _ => exact Nat.zero_le _

theorem patience_of_close {ids : List Nat} {s : NodeSession} (state : s.state = .close) : s.patience ids = 0 := by
  cases s with
  | initiator s =>
    have closed : s.state = .close := state
    simp only [patience,closed]
  | _ => rfl

section
variable {d : Dispatcher} {id : Nat} {actions : List Action} {ids : List Nat}

private theorem length_ticking (d : Dispatcher) (actions : List Action) (fires : id ∈ ids) :
    (ticking ids ⟨d,.timer id,actions⟩).length < ids.length + (Action.starts actions).length := by
  unfold ticking
  rw [List.length_append]
  have shorter : (ids.filter fun other => !(Event.timer id).isTimer other).length < ids.length := by
    refine List.length_filter_lt_length_iff_exists.mpr ⟨id,fires,?_⟩
    simp [Event.isTimer]
  exact Nat.add_lt_add_right shorter _

/-- A timer other than those that are started runs only if it did before. -/
private theorem mem_of_mem_ticking {other : Nat} (member : other ∈ ticking ids ⟨d,.timer id,actions⟩)
    (known : other ∉ Action.starts actions) : other ∈ ids ∧ other ≠ id := by
  rcases List.mem_append.mp member with old | new
  · obtain ⟨inside,different⟩ := List.mem_filter.mp old
    refine ⟨inside,fun same => ?_⟩
    simp [Event.isTimer,same] at different
  · exact absurd new known

/-- What timers still can do after an event that ends the session or that nothing follows. -/
private theorem falls_of_patience {s next : NodeSession} (fires : id ∈ ids) (quiet : Action.starts actions = [])
    (less : next.patience (ticking ids ⟨d,.timer id,actions⟩) ≤ s.patience ids) :
    (ticking ids ⟨d,.timer id,actions⟩).length + next.patience (ticking ids ⟨d,.timer id,actions⟩) <
      ids.length + s.patience ids := by
  have shorter := length_ticking d actions fires
  rw [quiet] at shorter
  exact Nat.add_lt_add_of_lt_of_le shorter less

private theorem falls_of_sent {s next : NodeSession} {started : Nat} (fires : id ∈ ids)
    (sent : Action.starts actions = [started])
    (less : next.patience (ticking ids ⟨d,.timer id,actions⟩) < s.patience ids) :
    (ticking ids ⟨d,.timer id,actions⟩).length + next.patience (ticking ids ⟨d,.timer id,actions⟩) <
      ids.length + s.patience ids := by
  have shorter := length_ticking d actions fires
  rw [sent,List.length_singleton] at shorter
  exact Nat.add_lt_add_of_le_of_lt (Nat.le_of_lt_succ shorter) less

private theorem initiator_falls {s next : NiSession} (step : NiSession.Step d s (.timer id) next actions)
    (fires : id ∈ ids) (known : s.refreshTimer ∉ Action.starts actions) :
    (ticking ids ⟨d,.timer id,actions⟩).length + patience (ticking ids ⟨d,.timer id,actions⟩) (.initiator next) <
      ids.length + patience ids (.initiator s) := by
  have still (other : Nat) (unknown : other ∉ Action.starts actions) :
      (if other ∈ ticking ids ⟨d,.timer id,actions⟩ then s.maxRetries.toNat + 1 else 0) ≤
        if other ∈ ids then s.maxRetries.toNat + 1 else 0 := by
    by_cases member : other ∈ ticking ids ⟨d,.timer id,actions⟩
    · rw [if_pos member,if_pos (mem_of_mem_ticking member unknown).1]
    · rw [if_neg member]
      exact Nat.zero_le _
  cases step with
  | closeIgnored state => exact falls_of_patience fires rfl (by simp only [patience,state]; exact Nat.le_refl 0)
  | pendingRetried state fired retries =>
    have counted := NiSession.toNat_succ retries
    have below : s.configureCounter.toNat < s.maxRetries.toNat := retries
    refine falls_of_sent fires rfl ?_
    simp only [patience,state,counted]
    omega
  | pendingGivenUp | pendingNotReached | pendingRefused =>
    refine falls_of_patience fires rfl ?_
    rw [patience_of_close rfl]
    exact Nat.zero_le _
  | refreshGivenUp | refreshRefused | pendingTeardown | meteringTeardown =>
    refine falls_of_patience fires (by simp) ?_
    rw [patience_of_close rfl]
    exact Nat.zero_le _
  | pendingIgnored state => exact falls_of_patience fires rfl (by simp only [patience,state]; exact Nat.le_refl _)
  | refreshed state fired =>
    have same : id = s.refreshTimer := by simpa [Event.isTimer] using fired
    have gone : s.refreshTimer ∉ ticking ids ⟨d,.timer id,_⟩ := fun member => (mem_of_mem_ticking member known).2 same.symm
    refine falls_of_sent fires rfl ?_
    simp only [patience,state]
    rw [if_neg gone,if_pos (same ▸ fires)]
    simp
    omega
  | refreshRetried state fired retries =>
    have counted := NiSession.toNat_succ retries
    have below : s.refreshCounter.toNat < s.maxRetries.toNat := retries
    have kept := still s.refreshTimer known
    refine falls_of_sent fires rfl ?_
    simp only [patience,state,counted]
    omega
  | pendingInstalled state stored response | refreshConfirmed state stored response => cases response
  | meteringIgnored state =>
    refine falls_of_patience fires rfl ?_
    have kept := still s.refreshTimer known
    simp only [patience,state]
    omega

private theorem forwarder_silent {conf : NfConfig} {s next : NfSession}
    (step : NfSession.Step conf d s (.timer id) next actions) : Action.starts actions = [] := by
  cases step with
  | closeAccepted state configure | pendingResent state configure | pendingReplaced state configure => cases configure
  | refreshForwarded state refresh => cases refresh
  | pendingInstalled state stored response | refreshConfirmed state stored response => cases response
  | pendingInstallFailed state stored response => cases response
  | _ => simp [authenticationFailed,NfSession.noPathCoupledMri]

private theorem responder_silent {s next : NrSession} (step : NrSession.Step d s (.timer id) next actions) :
    Action.starts actions = [] := by
  cases step with
  | closeInstalled state configure | closeInstallFailed state configure => cases configure
  | refreshed state refresh | tornDown state refresh => cases refresh
  | _ => simp [authenticationFailed]

theorem falls {net : Network} {i : Nat} {s next : NodeSession} (taken : Next net i s ⟨d,.timer id,actions⟩ next)
    (fires : id ∈ ids) (known : ∀ ni, s = .initiator ni → ni.refreshTimer ∉ Action.starts actions) :
    (ticking ids ⟨d,.timer id,actions⟩).length + next.patience (ticking ids ⟨d,.timer id,actions⟩) <
      ids.length + s.patience ids := by
  obtain ⟨_,ok⟩ := taken
  cases s with
  | initiator s =>
    obtain ⟨s',rfl,step⟩ := initiator_step ok
    exact initiator_falls step fires (known s rfl)
  | forwarder s =>
    obtain ⟨s',rfl,step⟩ := forwarder_step ok
    exact falls_of_patience fires (forwarder_silent step) (Nat.le_refl 0)
  | responder s =>
    obtain ⟨s',rfl,step⟩ := responder_step ok
    exact falls_of_patience fires (responder_silent step) (Nat.le_refl 0)

end

private theorem initiator_keeps {s next : NiSession} {d : Dispatcher} {evt : Event} {actions : List Action}
    (step : NiSession.Step d s evt next actions) : next.maxRetries = s.maxRetries ∧
      (next.refreshTimer = s.refreshTimer ∨ next.refreshTimer ∈ Action.starts actions) := by
  cases step with
  | pendingInstalled =>
    obtain ⟨interval,adopted⟩ := NiSession.adopting_eq d s _
    rw [adopted]
    exact ⟨rfl,.inr (by simp)⟩
  | refreshConfirmed => exact ⟨rfl,.inr (by simp)⟩
  | _ => exact ⟨rfl,.inl rfl⟩

/-- The timers that were started. -/
def started (past : List Turn) : List Nat := past.flatMap fun turn => Action.starts turn.actions

theorem started_append (past more : List Turn) : started (past ++ more) = started past ++ started more :=
  List.flatMap_append

theorem started_singleton (turn : Turn) : started [turn] = Action.starts turn.actions := List.flatMap_singleton ..

/-- The timer for the next REFRESH is one that was started, or none. -/
def RefreshTimerKnown (past : List Turn) (s : NodeSession) : Prop :=
  ∀ ni, s = .initiator ni → ni.refreshTimer = 0 ∨ ni.refreshTimer ∈ started past

theorem refreshTimerKnown_next {net : Network} {i : Nat} {s next : NodeSession} {turn : Turn} {past : List Turn}
    (known : s.RefreshTimerKnown past) (taken : Next net i s turn next) : next.RefreshTimerKnown (past ++ [turn]) := by
  obtain ⟨_,ok⟩ := taken
  intro ni same
  rw [started_append,started_singleton,List.mem_append]
  cases s with
  | initiator s =>
    obtain ⟨s',rfl,step⟩ := initiator_step ok
    cases same
    rcases (initiator_keeps step).2 with kept | new
    · rw [kept]
      exact (known s rfl).imp_right .inl
    · exact .inr (.inr new)
  | forwarder s =>
    obtain ⟨s',rfl,_⟩ := forwarder_step ok
    cases same
  | responder s =>
    obtain ⟨s',rfl,_⟩ := responder_step ok
    cases same

theorem refreshTimerKnown_run {net : Network} {i : Nat} {start s : NodeSession} {past : List Turn} (isNew : start.IsNew)
    (run : Run (Next net i) start past s) : s.RefreshTimerKnown past := by
  refine run.history (fun past s => s.RefreshTimerKnown past) (fun _ _ _ _ known taken => refreshTimerKnown_next known taken) ?_
  intro ni same
  subst same
  cases isNew
  exact .inl rfl

/-- Only timers that run give events. -/
def Alone (past later : List Turn) : Prop :=
  ∀ earlier turn rest, later = earlier ++ turn :: rest → ∃ id ∈ running (past ++ earlier), turn.evt = .timer id

/-- No timer is handed out twice, and 0 is none. -/
structure Distinct (past : List Turn) : Prop where
  nodup : (started past).Nodup
  nonzero : 0 ∉ started past

theorem Distinct.of_append {past more : List Turn} (distinct : Distinct (past ++ more)) : Distinct past := by
  obtain ⟨nodup,nonzero⟩ := distinct
  rw [started_append] at nodup nonzero
  exact ⟨nodup.of_append_left,fun member => nonzero (List.mem_append_left _ member)⟩

private theorem running_concat (past : List Turn) (turn : Turn) : running (past ++ [turn]) = ticking (running past) turn := by
  rw [running,List.foldl_append]
  rfl

/-- Every event of a timer uses up some of what timers can still do. -/
private theorem used_up {net : Network} {i : Nat} {start s t : NodeSession} {past later : List Turn} (isNew : start.IsNew)
    (run : Run (Next net i) start past s) (onwards : Run (Next net i) s later t) (alone : Alone past later)
    (distinct : Distinct (past ++ later)) :
    later.length + (running (past ++ later)).length ≤ (running past).length + s.patience (running past) := by
  induction onwards generalizing past with
  | nil => simp
  | @cons s middle t turn later taken rest ih =>
    obtain ⟨id,fires,event⟩ := alone [] turn later rfl
    rw [List.append_nil] at fires
    have onePast : Run (Next net i) start (past ++ [turn]) middle := run.append (.single taken)
    have split : past ++ turn :: later = past ++ [turn] ++ later := by simp
    have known (ni : NiSession) (same : s = .initiator ni) : ni.refreshTimer ∉ Action.starts turn.actions := by
      obtain ⟨nodup,nonzero⟩ := (split ▸ distinct : Distinct (past ++ [turn] ++ later)).of_append
      rw [started_append,started_singleton] at nodup nonzero
      intro again
      rcases refreshTimerKnown_run isNew run ni same with none | old
      · exact nonzero (none ▸ List.mem_append_right _ again)
      · exact List.disjoint_of_nodup_append nodup old again
    have following : Alone (past ++ [turn]) later := by
      intro earlier next rest' same
      have found := alone (turn :: earlier) next rest' (by rw [same]; rfl)
      simpa using found
    have less := ih onePast following (split ▸ distinct)
    obtain ⟨d,evt,actions⟩ := turn
    cases event
    have falling := falls taken fires known
    rw [running_concat] at less
    rw [split]
    simp only [List.length_cons]
    omega

/-- A session that gets nothing but the events of its timers gets a bounded number of them,
and when no timer runs any more it is closed and the meter has none of its rules. -/
theorem left_alone (net : Network) (i : Nat) (start s t : NodeSession) (past later : List Turn) (isNew : start.IsNew)
    (run : Run (Next net i) start past s) (onwards : Run (Next net i) s later t) (alone : Alone past later)
    (distinct : Distinct (past ++ later)) :
    later.length ≤ (running past).length + 2 * s.maxRetries + 1 ∧
      (running (past ++ later) = [] →
        t.state = .close ∧ keyed (installed (past ++ later)) = removed (past ++ later)) := by
  have whole : Run (Next net i) start (past ++ later) t := run.append onwards
  constructor
  · have bound := used_up isNew run onwards alone distinct
    have most := patience_le (running past) s
    omega
  · intro silent
    have armed := armed_run isNew whole
    rw [silent] at armed
    have closed : t.state = .close := by
      by_contra isOpen
      cases t with
      | initiator t =>
        cases state : t.state with
        | close => exact isOpen state
        | pending => exact absurd (armed.1 state) List.not_mem_nil
        | metering => rcases armed.2 state with member | member <;> cases member
      | forwarder t => exact absurd (armed isOpen) List.not_mem_nil
      | responder t => exact absurd (armed isOpen) List.not_mem_nil
    refine ⟨closed,?_⟩
    have balance := installed_eq_removed isNew whole
    have held : t.held = [] := if_neg (by simp [closed])
    rwa [held,List.append_nil] at balance

/-- A new responder after a CONFIGURE for a minute. -/
private def waiting : NodeSession :=
  .responder {NrSession.new 0 ⟨100⟩ with
    state := .metering, msn := 1, lifetime := 60, stateTimer := 1
    rule := {ruleKeys := OrderedMap.empty.set ⟨0⟩ ["key"]}}

/-- A responder that is forgotten after its CONFIGURE. -/
theorem left_alone_responder : ∃ past later t, Run (Next .direct 1) (.responder (.new 0 ⟨100⟩)) past waiting ∧
    Run (Next .direct 1) waiting later t ∧ later.length = 1 ∧ t.state = .close ∧
    keyed (installed (past ++ later)) = removed (past ++ later) ∧ (installed past).length = 1 := by
  have isNew : IsNew (.responder (.new 0 ⟨100⟩)) := .responder 0 ⟨100⟩
  have installs : processEvent .direct 1 .keying (.responder (.new 0 ⟨100⟩)) (.msg (.sample .configure 1 60) true) =
    .ok (waiting,_) := rfl
  have timesOut : processEvent .direct 1 .keying waiting (.timer 1) = .ok (_,_) := rfl
  have run : Run (Next .direct 1) (.responder (.new 0 ⟨100⟩)) [⟨_,_,_⟩] _ := .single ⟨.inl isNew,installs⟩
  have onwards : Run (Next .direct 1) waiting [⟨_,_,_⟩] _ :=
    .single ⟨.inr fun closed => State.noConfusion closed,timesOut⟩
  have ended := fun alone => (left_alone .direct 1 _ _ _ _ _ isNew run onwards alone ⟨by decide,by decide⟩).2 rfl
  obtain ⟨closed,balanced⟩ := ended (by
    intro earlier turn rest same
    cases earlier with
    | nil =>
      cases same
      exact ⟨1,.head _,rfl⟩
    | cons first earlier => cases earlier <;> cases same)
  exact ⟨_,_,_,run,onwards,rfl,closed,balanced,rfl⟩

end NodeSession
end Mnslp.Session
