import Mnslp.Lib.Rows
import Mnslp.Session.Life
import Mnslp.Session.NiStep

/-! How often an initiator sends a request. A timer makes it send its last request again
until a counter is used up, and every new request takes the next number. -/
namespace Mnslp.Session
open Mnslp.Lib Mnslp.Msg
namespace NiSession

/-- A handled event. The id of a timer that runs is not that of one that was stopped. -/
def Turns (s : NiSession) (turn : Turn) (next : NiSession) : Prop :=
  turn.evt ≠ .timer 0 ∧ processEvent turn.d s turn.evt = .ok (next,turn.actions)

def sent (past : List Turn) : List NtlpMsg := past.flatMap fun turn => Action.sends turn.actions

/-- The messages of one call. The branch for a rule that could not be installed in full sends
a REFRESH before it runs off its end. -/
def sending (d : Dispatcher) (s : NiSession) (evt : Event) : List NtlpMsg :=
  match processEvent d s evt with
  | .ok (_,actions) => Action.sends actions
  | .error stop => if stop = .fault .noReturnValue then s.mri.toList.map {s with lifetime := 0}.refreshFor else []

/-- The number of the request with the given index. -/
def numberOf (randomNumber : UInt32) (k : Nat) : UInt32 := randomNumber + UInt32.ofNat (k + 1)

structure IsRequest (randomNumber : UInt32) (k : Nat) (m : NtlpMsg) : Prop where
  kind : m.msg.kind = .configure ∨ m.msg.kind = .refresh
  number : m.msg.getMsgSequenceNumber = numberOf randomNumber k

/-- The last row holds copies of the stored request, not more than the counter tells. -/
def Repeating (rows : List (Nat × NtlpMsg)) (stored : Option NtlpMsg) (counter : UInt32) : Prop :=
  ∃ earlier n m, rows = earlier ++ [(n,m.copy)] ∧ stored = some m ∧ n ≤ 1 + counter.toNat

/-- What holds of the messages so far and the session that has sent them. -/
structure Counted (conf : NiConfig) (randomNumber : UInt32) (past : List NtlpMsg) (rows : List (Nat × NtlpMsg))
    (s : NiSession) : Prop where
  inRows : InRows (1 + conf.niMaxRetries.toNat) (IsRequest randomNumber) past rows
  number : s.msn = randomNumber + UInt32.ofNat rows.length
  most : s.maxRetries = conf.niMaxRetries
  configures : s.configureCounter ≤ s.maxRetries
  refreshes : s.refreshCounter ≤ s.maxRetries
  configure : s.state = .pending → Repeating rows s.lastConfigureMsg s.configureCounter
  refresh : s.state = .metering → s.responseTimer ≠ 0 → Repeating rows s.lastRefreshMsg s.refreshCounter

section
variable {conf : NiConfig} {randomNumber : UInt32} {past : List NtlpMsg} {rows : List (Nat × NtlpMsg)}
  {s next : NiSession} {d : Dispatcher} {evt : Event} {actions : List Action}

theorem numberOf_injective {i j : Nat} (first : i < 2 ^ 32) (second : j < 2 ^ 32)
    (same : numberOf randomNumber i = numberOf randomNumber j) : i = j := by
  have numbers := congrArg UInt32.toNat ((UInt32.add_right_inj _).mp same)
  simp only [UInt32.toNat_ofNat'] at numbers
  omega

theorem Counted.isRequest (counted : Counted conf randomNumber past rows s) {m : NtlpMsg}
    (kind : m.msg.kind = .configure ∨ m.msg.kind = .refresh) (number : m.msg.msgSequenceNumber? = some (s.msn + 1)) :
    InRows (1 + conf.niMaxRetries.toNat) (IsRequest randomNumber) (past ++ [m]) (rows ++ [(1,m)]) := by
  refine counted.inRows.concat (by omega) ⟨kind,?_⟩
  unfold MnslpMsg.getMsgSequenceNumber numberOf
  rw [number,counted.number,UInt32.ofNat_add,← UInt32.add_assoc]
  rfl

theorem Counted.nextNumber (counted : Counted conf randomNumber past rows s) (row : Nat × NtlpMsg) :
    s.msn + 1 = randomNumber + UInt32.ofNat (rows ++ [row]).length := by
  rw [counted.number,List.length_append,List.length_singleton,UInt32.ofNat_add,← UInt32.add_assoc]
  rfl

theorem Counted.refreshes_next (counted : Counted conf randomNumber past rows s) (lifetime : UInt32) (mri : Mri) :
    InRows (1 + conf.niMaxRetries.toNat) (IsRequest randomNumber) (past ++ [{s with lifetime := lifetime}.refreshFor mri])
      (rows ++ [(1,{s with lifetime := lifetime}.refreshFor mri)]) :=
  counted.isRequest (.inr (by simp [refreshFor])) (by simp [refreshFor])

theorem toNat_succ {counter bound : UInt32} (less : counter < bound) : (counter + 1).toNat = counter.toNat + 1 := by
  have below : counter.toNat < bound.toNat := less
  have bounded := bound.toNat_lt
  rw [UInt32.toNat_add]
  exact Nat.mod_eq_of_lt (show counter.toNat + 1 < 2 ^ 32 by omega)

private theorem succ_le {counter bound : UInt32} (less : counter < bound) : counter + 1 ≤ bound := by
  have below : counter.toNat < bound.toNat := less
  rw [UInt32.le_iff_toNat_le,toNat_succ less]
  exact below

/-- The stored request is sent once more. -/
theorem Repeating.again {bound : UInt32} {stored : Option NtlpMsg} {counter : UInt32} {m : NtlpMsg}
    (repeating : Repeating rows stored counter) (found : stored = some m) (less : counter < bound)
    (inRows : InRows (1 + bound.toNat) (IsRequest randomNumber) past rows) :
    ∃ rows', InRows (1 + bound.toNat) (IsRequest randomNumber) (past ++ [m.copy]) rows' ∧
      rows'.length = rows.length ∧ Repeating rows' stored (counter + 1) := by
  obtain ⟨earlier,n,m',rfl,stored,copies⟩ := repeating
  rw [stored] at found
  cases found
  have below : counter.toNat < bound.toNat := less
  have counted := toNat_succ less
  exact ⟨_,inRows.again (by omega),by simp,earlier,n + 1,m,rfl,stored,by omega⟩

theorem counted_step (counted : Counted conf randomNumber past rows s) (running : evt ≠ .timer 0)
    (step : Step d s evt next actions) : ∃ rows', Counted conf randomNumber (past ++ Action.sends actions) rows' next := by
  have bound : InRows (1 + s.maxRetries.toNat) (IsRequest randomNumber) past rows := counted.most ▸ counted.inRows
  cases step with
  | configured state positive =>
    rename_i e
    have requests : InRows _ _ (past ++ [(s.configureFor d e).copy]) _ :=
      counted.isRequest (.inl (by simp [NtlpMsg.copy])) (by simp [NtlpMsg.copy])
    have sends : Action.sends ([.send (s.configureFor d e).copy,
        .startTimer (d.timerId 0) (configuring d s e).responseTimeout] ++
        if e.returnQueue then [.enqueueSessionId] else []) = [(s.configureFor d e).copy] := by
      split <;> simp
    rw [sends]
    exact ⟨_,requests,counted.nextNumber _,counted.most,counted.configures,counted.refreshes,
      fun _ => ⟨rows,1,_,rfl,rfl,by omega⟩,fun metering => State.noConfusion metering⟩
  | closeIgnored | pendingIgnored | meteringIgnored =>
    rw [Action.sends_nil,List.append_nil]
    exact ⟨rows,counted⟩
  | pendingRetried state fired retries stored =>
    obtain ⟨rows',inRows,same,repeating⟩ := (counted.configure state).again stored retries bound
    exact ⟨rows',counted.most ▸ inRows,same ▸ counted.number,counted.most,succ_le retries,counted.refreshes,
      fun _ => repeating,fun metering => State.noConfusion (state.symm.trans metering)⟩
  | pendingGivenUp | pendingNotReached | pendingRefused | refreshGivenUp | refreshRefused =>
    refine ⟨rows,?_,counted.number,counted.most,counted.configures,counted.refreshes,
      fun pending => State.noConfusion pending,fun metering => State.noConfusion metering⟩
    simpa using counted.inRows
  | pendingTeardown state teardown removable found | meteringTeardown state teardown removable found =>
    rename_i mri
    have sends : Action.sends (Dispatcher.removal s.rule ++ [.send ({s with lifetime := 0}.refreshFor mri)]) =
        [{s with lifetime := 0}.refreshFor mri] := by simp
    rw [sends]
    exact ⟨_,counted.refreshes_next 0 mri,counted.nextNumber _,counted.most,counted.configures,counted.refreshes,
      fun pending => State.noConfusion pending,fun metering => State.noConfusion metering⟩
  | pendingInstalled state =>
    rename_i m _ _ _ _ _ _ _
    obtain ⟨interval,same⟩ := adopting_eq d s m.msg.getSessionLifetime
    rw [same]
    refine ⟨rows,?_,counted.number,counted.most,UInt32.zero_le,counted.refreshes,
      fun pending => State.noConfusion pending,fun _ other => absurd rfl other⟩
    simpa using counted.inRows
  | refreshed state fired found =>
    rename_i mri
    have requests : InRows _ _ (past ++ [(s.refreshFor mri).copy]) _ :=
      counted.isRequest (.inr (by simp [refreshFor,NtlpMsg.copy])) (by simp [refreshFor,NtlpMsg.copy])
    exact ⟨_,requests,counted.nextNumber _,counted.most,counted.configures,UInt32.zero_le,
      fun pending => State.noConfusion (state.symm.trans pending),fun _ _ => ⟨rows,1,_,rfl,rfl,by omega⟩⟩
  | refreshRetried state fired retries stored =>
    have started : s.responseTimer ≠ 0 := by
      intro stopped
      rw [stopped] at fired
      cases evt with
      | timer id => exact running (congrArg _ (of_decide_eq_true fired))
      | _ => cases fired
    obtain ⟨rows',inRows,same,repeating⟩ := (counted.refresh state started).again stored retries bound
    exact ⟨rows',counted.most ▸ inRows,same ▸ counted.number,counted.most,counted.configures,succ_le retries,
      fun pending => State.noConfusion (state.symm.trans pending),fun _ _ => repeating⟩
  | refreshConfirmed state =>
    refine ⟨rows,?_,counted.number,counted.most,counted.configures,UInt32.zero_le,
      fun pending => State.noConfusion (state.symm.trans pending),fun _ other => absurd rfl other⟩
    simpa using counted.inRows

theorem counted_new (id : SessionId) : Counted conf randomNumber [] [] (new id conf randomNumber) where
  inRows := .nil
  number := (UInt32.add_zero _).symm
  most := rfl
  configures := UInt32.zero_le
  refreshes := UInt32.zero_le
  configure := nofun
  refresh := nofun

theorem counted_run {id : SessionId} {past : List Turn} (run : Run Turns (new id conf randomNumber) past s) :
    ∃ rows, Counted conf randomNumber (sent past) rows s := by
  refine run.history (fun past s => ∃ rows, Counted conf randomNumber (sent past) rows s) ?_ ⟨[],counted_new id⟩
  intro past s turn next ⟨rows,counted⟩ ⟨running,ok⟩
  unfold sent
  rw [List.flatMap_append,List.flatMap_singleton]
  exact counted_step counted running (step_of_processEvent ok)

/-- With those of one more call, however it ends. -/
theorem Counted.sending (counted : Counted conf randomNumber past rows s) (running : evt ≠ .timer 0) :
    ∃ rows', InRows (1 + conf.niMaxRetries.toNat) (IsRequest randomNumber) (past ++ sending d s evt) rows' := by
  unfold NiSession.sending
  cases outcome : processEvent d s evt with
  | ok result =>
    obtain ⟨rows',counted'⟩ := counted_step counted running (step_of_processEvent outcome)
    exact ⟨rows',counted'.inRows⟩
  | error stop =>
    dsimp only
    split
    · cases s.mri with
      | none => exact ⟨rows,by simpa using counted.inRows⟩
      | some mri => exact ⟨_,counted.refreshes_next 0 mri⟩
    · exact ⟨rows,by simpa using counted.inRows⟩

end

/-- A request is sent once and not more than `ni_max_retries` times again, each time the same,
and the next request has the next number. While the numbers do not come round again, a number tells
the request. -/
theorem bounded_retries (id : SessionId) (conf : NiConfig) (randomNumber : UInt32) (past : List Turn) (s : NiSession)
    (d : Dispatcher) (evt : Event) (run : Run Turns (new id conf randomNumber) past s) (running : evt ≠ .timer 0) :
    ∃ rows, InRows (1 + conf.niMaxRetries.toNat) (IsRequest randomNumber) (sent past ++ sending d s evt) rows ∧
      (rows.length ≤ 2 ^ 32 → ∀ m ∈ sent past ++ sending d s evt,
        ((sent past ++ sending d s evt).filter fun other =>
            other.msg.getMsgSequenceNumber = m.msg.getMsgSequenceNumber).length ≤ 1 + conf.niMaxRetries.toNat ∧
          ∀ other ∈ sent past ++ sending d s evt,
            other.msg.getMsgSequenceNumber = m.msg.getMsgSequenceNumber → other = m) := by
  obtain ⟨rows,counted⟩ := counted_run run
  obtain ⟨rows',inRows⟩ := counted.sending running
  refine ⟨rows',inRows,fun short m member => ?_⟩
  have apart : ∀ i j (a b : NtlpMsg), i < rows'.length → j < rows'.length → IsRequest randomNumber i a →
      IsRequest randomNumber j b → a.msg.getMsgSequenceNumber = b.msg.getMsgSequenceNumber → i = j := by
    intro i j a b first second isFirst isSecond same
    rw [isFirst.number,isSecond.number] at same
    exact numberOf_injective (by omega) (by omega) same
  exact ⟨inRows.count_key_le (fun m => m.msg.getMsgSequenceNumber) apart _,
    fun other inside same => inRows.eq_of_key (fun m => m.msg.getMsgSequenceNumber) apart inside member same⟩

private def emptyRequest : ApiConfigure := ⟨0,0,1,2,17,[],60,smeAll,false⟩

/-- The CONFIGURE, and its copy when the timer fires. -/
theorem bounded_retries_once : ∃ past s rows, (sent past ++ sending .willing s (.timer 1)).length = 2 ∧
    InRows 4 (IsRequest 4) (sent past ++ sending .willing s (.timer 1)) rows := by
  have opens : processEvent .willing (new 0 ⟨30,3,10⟩ 4) (.apiConfigure emptyRequest) = .ok (_,_) := rfl
  have run : Run Turns (new 0 ⟨30,3,10⟩ 4) [⟨.willing,.apiConfigure emptyRequest,_⟩] _ := .single ⟨nofun,opens⟩
  obtain ⟨rows,inRows,_⟩ := bounded_retries 0 ⟨30,3,10⟩ 4 _ _ .willing (.timer 1) run (by simp)
  exact ⟨_,_,rows,rfl,inRows⟩

end NiSession
end Mnslp.Session
