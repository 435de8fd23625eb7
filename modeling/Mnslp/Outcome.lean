import Mathlib.Data.List.Forall2

/-! How a call of the program can end other than by returning: an exception, one that leaves a
function which must not throw, a failed assertion, a step whose behaviour the language leaves
undefined, or a loop it never leaves. A function that returns a value on some of its ways and comes to
its end on others has the fault `noReturnValue` there, used or not. One that has no `return` at all, and
whose value nobody reads, is taken as returning: `mnslp_ipfix_value_field::operator=`,
`mnslp_ipfix_field::encode`, `execute_command` and `operator<<` of `mt_policy_rule`. -/
namespace Mnslp

/-- The classes of the entries of protlib's error list that this program creates. -/
inductive IeErrorKind
  | msgTooShort | pduSyntaxError | wrongType | wrongSubtype | category | objSetFailed
deriving DecidableEq, Repr

inductive Thrown
  | ipfixBadArgument (text : String)
  | netMsgError
  | ieError (kind : IeErrorKind)
  | requestError (text : String) (severity responseCode : UInt8)
  | policyRuleInstallerError (text : String) (severity responseCode : UInt8)
  | overrideLifetime (text : String) (severity responseCode : UInt8)
deriving DecidableEq, Repr

inductive Assertion
  | lastConfigureMessage | lastRefreshMessage | mri | niMri | nrMri
  | downstream | previousConfigure | refreshInterval | invalidState | errorList | sessionId
deriving DecidableEq, Repr

inductive Fault
  | nullDereference | danglingPointer | readBeyondBuffer | readBeyondVector | writeBeyondBuffer
  | eraseEnd | signedOverflow | noReturnValue
deriving DecidableEq, Repr

inductive Stop
  | thrown (exception : Thrown)
  | unexpected
  | assertFailed (assertion : Assertion)
  | fault (fault : Fault)
  | endless
deriving DecidableEq, Repr

abbrev Call := Except Stop

namespace Call

def throw {α : Type} (exception : Thrown) : Call α := .error (.thrown exception)

def badArgument {α : Type} (text : String) : Call α := throw (.ipfixBadArgument text)

def fault {α : Type} (fault : Fault) : Call α := .error (.fault fault)

/-- The body of a function that is declared `throw ()`. -/
def noThrow {α : Type} : Call α → Call α
  | .error (.thrown _) => .error .unexpected
  | x => x

/-- `assert` on a pointer: the value behind it, or the failed assertion. -/
def assertSome {α : Type} (assertion : Assertion) : Option α → Call α
  | some value => .ok value
  | none => .error (.assertFailed assertion)

@[simp] theorem ok_bind {α β : Type} (a : α) (f : α → Call β) : (Except.ok a : Call α) >>= f = f a := rfl

@[simp] theorem pure_eq {α : Type} (a : α) : (pure a : Call α) = .ok a := rfl

@[simp] theorem error_bind {α β : Type} (stop : Stop) (f : α → Call β) :
    (Except.error stop : Call α) >>= f = .error stop := rfl

@[simp] theorem assertSome_eq_ok {α : Type} {assertion : Assertion} {value : Option α} {a : α} :
    assertSome assertion value = .ok a ↔ value = some a := by
  cases value <;> simp [assertSome]

@[simp] theorem noThrow_eq_ok {α : Type} {x : Call α} {a : α} : noThrow x = .ok a ↔ x = .ok a := by
  rcases x with (_ | _ | _ | _ | _) | b <;> simp [noThrow]

theorem bind_eq_ok {α β : Type} {x : Call α} {f : α → Call β} {b : β} :
    x >>= f = .ok b ↔ ∃ a, x = .ok a ∧ f a = .ok b := by
  cases x with
  | error stop =>
    constructor
    · intro ended
      cases ended
    · rintro ⟨a,ended,-⟩
      cases ended
  | ok a => exact ⟨fun ended => ⟨a,rfl,ended⟩,fun ⟨b,same,ended⟩ => by cases same; exact ended⟩

theorem bind_eq_error {α β : Type} {x : Call α} {f : α → Call β} {stop : Stop} :
    x >>= f = .error stop ↔ x = .error stop ∨ ∃ a, x = .ok a ∧ f a = .error stop := by
  cases x with
  | error other =>
    constructor
    · intro ended
      cases ended
      exact .inl rfl
    · rintro (ended | ⟨a,ended,-⟩) <;> cases ended
      rfl
  | ok a =>
    constructor
    · intro ended
      exact .inr ⟨a,rfl,ended⟩
    · rintro (ended | ⟨b,same,ended⟩)
      · cases ended
      · cases same
        exact ended

end Call

/-- The assertions on pointers that the getters of the stored messages and of the
routing information evaluate. -/
def Assertion.onNull : Assertion → Bool
  | .lastConfigureMessage | .lastRefreshMessage | .mri | .nrMri => true
  | _ => false

namespace Call
variable {α β : Type}

/-- The call runs into an assertion on a null pointer. -/
def AssertsNull (x : Call α) : Prop := ∃ assertion, assertion.onNull = true ∧ x = .error (.assertFailed assertion)

@[simp] theorem assertsNull_ok (a : α) : ¬ AssertsNull (.ok a : Call α) := by
  rintro ⟨_,_,same⟩
  cases same

@[simp] theorem assertsNull_throw (exception : Thrown) : ¬ AssertsNull (throw exception : Call α) := by
  rintro ⟨_,_,same⟩
  cases same

@[simp] theorem assertsNull_fault (reason : Fault) : ¬ AssertsNull (fault reason : Call α) := by
  rintro ⟨_,_,same⟩
  cases same

@[simp] theorem assertsNull_assertFailed (assertion : Assertion) :
    AssertsNull (.error (.assertFailed assertion) : Call α) ↔ assertion.onNull = true := by
  constructor
  · rintro ⟨other,onNull,same⟩
    cases same
    exact onNull
  · intro onNull
    exact ⟨assertion,onNull,rfl⟩

theorem assertsNull_bind (x : Call α) (f : α → Call β) :
    AssertsNull (x >>= f) ↔ AssertsNull x ∨ ∃ a, x = .ok a ∧ AssertsNull (f a) := by
  cases x with
  | error stop => simp [AssertsNull]
  | ok a => simp

@[simp] theorem assertsNull_assertSome (assertion : Assertion) (value : Option α) :
    AssertsNull (assertSome assertion value) ↔ value = none ∧ assertion.onNull = true := by
  cases value <;> simp [assertSome]

/-- The call returns or throws `mnslp_ipfix_bad_argument`. -/
def Orderly (x : Call α) : Prop := ∀ stop, x = .error stop → ∃ text, stop = .thrown (.ipfixBadArgument text)

@[simp] theorem orderly_ok (a : α) : Orderly (.ok a : Call α) := by
  intro stop same
  cases same

@[simp] theorem orderly_badArgument (text : String) : Orderly (badArgument text : Call α) := by
  intro stop same
  cases same
  exact ⟨text,rfl⟩

@[simp] theorem orderly_fault (reason : Fault) : ¬ Orderly (fault reason : Call α) := by
  intro orderly
  obtain ⟨_,same⟩ := orderly _ rfl
  cases same

theorem orderly_error (stop : Stop) :
    Orderly (.error stop : Call α) ↔ ∃ text, stop = .thrown (.ipfixBadArgument text) := by
  constructor
  · intro orderly
    exact orderly stop rfl
  · rintro thrown other same
    cases same
    exact thrown

/-- The call returns or throws an exception. -/
def Finishes (x : Call α) : Prop := ∀ stop, x = .error stop → ∃ exception, stop = .thrown exception

@[simp] theorem finishes_ok (a : α) : Finishes (.ok a : Call α) := by
  intro stop same
  cases same

@[simp] theorem finishes_throw (exception : Thrown) : Finishes (throw exception : Call α) := by
  intro stop same
  cases same
  exact ⟨exception,rfl⟩

@[simp] theorem not_finishes_fault (reason : Fault) : ¬ Finishes (fault reason : Call α) := by
  intro finishes
  obtain ⟨_,same⟩ := finishes _ rfl
  cases same

@[simp] theorem not_finishes_endless : ¬ Finishes (.error .endless : Call α) := by
  intro finishes
  obtain ⟨_,same⟩ := finishes _ rfl
  cases same

theorem Finishes.bind {x : Call α} {f : α → Call β} (first : Finishes x) (after : ∀ a, x = .ok a → Finishes (f a)) :
    Finishes (x >>= f) := by
  cases x with
  | error stop =>
    intro other same
    cases same
    exact first _ rfl
  | ok a => exact after a rfl

theorem Finishes.of_bind {x : Call α} {f : α → Call β} (both : Finishes (x >>= f)) : Finishes x := by
  intro stop same
  subst same
  exact both stop rfl

/-- The call ends in a step whose behaviour the language leaves undefined. -/
def faulty : Call α → Bool
  | .error (.fault _) => true
  | _ => false

theorem Orderly.not_faulty {x : Call α} (orderly : Orderly x) : x.faulty = false := by
  unfold faulty
  split
  · obtain ⟨_,same⟩ := orderly _ rfl
    cases same
  · rfl

theorem orderly_bind (x : Call α) (f : α → Call β) :
    Orderly (x >>= f) ↔ Orderly x ∧ ∀ a, x = .ok a → Orderly (f a) := by
  cases x with
  | error stop =>
    constructor
    · intro orderly
      refine ⟨fun other same => orderly other ?_,fun a same => by cases same⟩
      cases same
      rfl
    · intro ⟨orderly,_⟩ other same
      cases same
      exact orderly _ rfl
  | ok a => simp

/-- What follows a call may be left out where it always ends orderly. -/
theorem orderly_bind_left {x : Call α} {f : α → Call β} (after : ∀ a, Orderly (f a)) :
    Orderly (x >>= f) ↔ Orderly x := by
  rw [orderly_bind]
  exact and_iff_left fun a _ => after a

theorem orderly_map (x : Call α) (f : α → β) : Orderly (x.map f) ↔ Orderly x := by
  cases x with
  | error stop =>
    constructor
    · intro orderly other same
      cases same
      exact orderly _ rfl
    · intro orderly other same
      cases same
      exact orderly _ rfl
  | ok a => simp [Except.map]

/-- The invariant rule for the loops of the program over a list. -/
theorem foldlM_invariant {f : β → α → Call β} (Inv : β → Prop)
    (keep : ∀ b a next, Inv b → f b a = .ok next → Inv next) {list : List α} {b final : β}
    (ended : list.foldlM f b = .ok final) (start : Inv b) : Inv final := by
  induction list generalizing b with
  | nil =>
    cases ended
    exact start
  | cons a rest ih =>
    rw [List.foldlM_cons] at ended
    obtain ⟨next,first,ended⟩ := bind_eq_ok.mp ended
    exact ih ended (keep b a next start first)

theorem orderly_foldlM {f : β → α → Call β} (Inv : β → Prop)
    (keep : ∀ b a next, Inv b → f b a = .ok next → Inv next) (each : ∀ b a, Inv b → Orderly (f b a))
    (list : List α) {b : β} (start : Inv b) : Orderly (list.foldlM f b) := by
  induction list generalizing b with
  | nil => exact orderly_ok b
  | cons a rest ih =>
    rw [List.foldlM_cons,orderly_bind]
    exact ⟨each b a start,fun next first => ih (keep b a next start first)⟩

/-- The call ends with the fault. -/
def Faults (reason : Fault) (x : Call α) : Prop := x = .error (.fault reason)

section
variable {reason : Fault}

@[simp] theorem faults_ok (a : α) : ¬ Faults reason (.ok a : Call α) := fun same => nomatch same

@[simp] theorem faults_badArgument (text : String) : ¬ Faults reason (badArgument text : Call α) := by
  intro same
  cases same

@[simp] theorem faults_fault {other : Fault} : Faults reason (fault other : Call α) ↔ other = reason := by
  simp [Faults,fault]

theorem faults_bind (x : Call α) (f : α → Call β) :
    Faults reason (x >>= f) ↔ Faults reason x ∨ ∃ a, x = .ok a ∧ Faults reason (f a) := bind_eq_error

@[simp] theorem faults_map (x : Call α) (f : α → β) : Faults reason (x.map f) ↔ Faults reason x := by
  cases x <;> simp [Faults,Except.map]

/-- What follows a call may be left out where it never ends with the fault. -/
theorem faults_bind_left {x : Call α} {f : α → Call β} (after : ∀ a, ¬ Faults reason (f a)) :
    Faults reason (x >>= f) ↔ Faults reason x := by
  rw [faults_bind]
  exact or_iff_left fun ⟨a,_,later⟩ => after a later

theorem not_faults_bind {x : Call α} {f : α → Call β} (first : ¬ Faults reason x) (after : ∀ a, ¬ Faults reason (f a)) :
    ¬ Faults reason (x >>= f) := fun both => first ((faults_bind_left after).mp both)

/-- A loop ends with the fault in one of its rounds. -/
theorem faults_foldlM {f : β → α → Call β} {list : List α} {b : β} : Faults reason (list.foldlM f b) ↔
    ∃ before a after c, list = before ++ a :: after ∧ before.foldlM f b = .ok c ∧ Faults reason (f c a) := by
  induction list generalizing b with
  | nil =>
    refine iff_of_false (faults_ok b) ?_
    rintro ⟨before,a,after,_,whole,_⟩
    exact absurd whole (by simp)
  | cons head rest ih =>
    rw [List.foldlM_cons,faults_bind]
    constructor
    · rintro (first | ⟨next,first,later⟩)
      · exact ⟨[],head,rest,b,rfl,rfl,first⟩
      · obtain ⟨before,a,after,c,rfl,ran,ended⟩ := ih.mp later
        refine ⟨head :: before,a,after,c,rfl,?_,ended⟩
        rw [List.foldlM_cons,first]
        exact ran
    · rintro ⟨before,a,after,c,whole,ran,ended⟩
      cases before with
      | nil =>
        cases whole
        cases ran
        exact .inl ended
      | cons first before =>
        cases whole
        rw [List.foldlM_cons] at ran
        obtain ⟨next,took,ran⟩ := bind_eq_ok.mp ran
        exact .inr ⟨next,took,ih.mpr ⟨before,a,after,c,rfl,ran,ended⟩⟩

theorem not_faults_foldlM {f : β → α → Call β} (each : ∀ b a, ¬ Faults reason (f b a)) (list : List α) (b : β) :
    ¬ Faults reason (list.foldlM f b) := by
  intro ended
  obtain ⟨_,a,_,c,_,_,last⟩ := faults_foldlM.mp ended
  exact each c a last

end

theorem mapM_eq_ok {f : α → Call β} {list : List α} {results : List β} :
    list.mapM f = .ok results ↔ List.Forall₂ (fun a b => f a = .ok b) list results := by
  induction list generalizing results with
  | nil =>
    rw [List.mapM_nil,List.forall₂_nil_left_iff]
    exact ⟨fun same => (Except.ok.inj same).symm,fun same => same ▸ rfl⟩
  | cons a rest ih =>
    rw [List.mapM_cons,bind_eq_ok,List.forall₂_cons_left_iff]
    constructor
    · rintro ⟨b,first,ended⟩
      obtain ⟨others,more,ended⟩ := bind_eq_ok.mp ended
      cases ended
      exact ⟨b,others,first,ih.mp more,rfl⟩
    · rintro ⟨b,others,first,more,rfl⟩
      exact ⟨b,first,bind_eq_ok.mpr ⟨others,ih.mpr more,rfl⟩⟩

theorem exists_mapM {f : α → Call β} {list : List α} :
    (∃ results, list.mapM f = .ok results) ↔ ∀ a ∈ list, ∃ b, f a = .ok b := by
  induction list with
  | nil => exact iff_of_true ⟨[],mapM_eq_ok.mpr .nil⟩ (List.forall_mem_nil _)
  | cons head rest ih =>
    rw [List.forall_mem_cons,← ih]
    constructor
    · rintro ⟨results,ended⟩
      cases mapM_eq_ok.mp ended with
      | cons first others => exact ⟨⟨_,first⟩,_,mapM_eq_ok.mpr others⟩
    · rintro ⟨⟨b,first⟩,results,others⟩
      exact ⟨b :: results,mapM_eq_ok.mpr (.cons first (mapM_eq_ok.mp others))⟩

theorem mapM_of_forall {f : α → Call β} {g : α → β} {list : List α} (each : ∀ a ∈ list, f a = .ok (g a)) :
    list.mapM f = .ok (list.map g) := by
  rw [mapM_eq_ok,List.forall₂_map_right_iff,List.forall₂_same]
  exact each

/-- Reading an element and going on is going on with what is read. -/
theorem foldlM_of_mapM {γ : Type} {f : α → Call β} {list : List α} {results : List β} (read : list.mapM f = .ok results)
    (step : γ → β → Call γ) (start : γ) :
    list.foldlM (fun state a => do let b ← f a; step state b) start = results.foldlM step start := by
  induction mapM_eq_ok.mp read generalizing start with
  | nil => rfl
  | cons first _ ih =>
    rw [List.foldlM_cons,List.foldlM_cons,first,ok_bind]
    cases step start _ with
    | error stop => rfl
    | ok next => exact ih (mapM_eq_ok.mpr ‹_›) next

/-- Every round of a loop that ended has returned. -/
theorem round_of_foldlM {f : β → α → Call β} {list : List α} {b final : β} (ended : list.foldlM f b = .ok final) {a : α}
    (member : a ∈ list) : ∃ state next, f state a = .ok next := by
  induction list generalizing b with
  | nil => cases member
  | cons head rest ih =>
    rw [List.foldlM_cons] at ended
    obtain ⟨next,first,ended⟩ := bind_eq_ok.mp ended
    rcases List.mem_cons.mp member with rfl | inside
    · exact ⟨b,next,first⟩
    · exact ih ended inside

end Call

end Mnslp
