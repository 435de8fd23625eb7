import Mathlib.Logic.Function.Basic
import Mnslp.Lib.Run

/-! Nodes in a row with a channel in each direction between neighbours. What a node does
with a message or an input of its own is a parameter; a node that stops for good has no
step. Properties of single nodes and single messages are kept by every step if the nodes
keep them. -/
namespace Mnslp.Lib

/-- Channel `i` runs between nodes `i` and `i + 1`. -/
structure Chain (σ μ : Type) where
  node : Nat → σ
  down : Nat → List μ
  up : Nat → List μ

inductive ChainLabel (δ ι : Type)
  | deliverDown (i position : Nat) (d : δ)
  | deliverUp (i position : Nat) (d : δ)
  | dropDown (i position : Nat)
  | dropUp (i position : Nat)
  | duplicateDown (i position : Nat)
  | duplicateUp (i position : Nat)
  | input (i : Nat) (d : δ) (x : ι)

/-- The node after a step and what it sends in the two directions. -/
structure Reaction (σ μ : Type) where
  node : σ
  down : List μ
  up : List μ

structure ChainRules (σ μ δ ι : Type) where
  receive : Nat → δ → μ → σ → Option (Reaction σ μ)
  take : Nat → δ → ι → σ → Option (Reaction σ μ)

namespace Chain
variable {σ μ δ ι : Type}

/-- What the first node sends up is lost. -/
def act (c : Chain σ μ) (i : Nat) (r : Reaction σ μ) : Chain σ μ where
  node := Function.update c.node i r.node
  down := Function.update c.down i (c.down i ++ r.down)
  up := if i = 0 then c.up else Function.update c.up (i - 1) (c.up (i - 1) ++ r.up)

section
variable (c : Chain σ μ) (r : Reaction σ μ)

@[simp] theorem act_node_self (i : Nat) : (c.act i r).node i = r.node := Function.update_self ..

theorem act_node_of_ne {i j : Nat} (other : j ≠ i) : (c.act i r).node j = c.node j := Function.update_of_ne other ..

@[simp] theorem act_down_self (i : Nat) : (c.act i r).down i = c.down i ++ r.down := Function.update_self ..

theorem act_down_of_ne {i j : Nat} (other : j ≠ i) : (c.act i r).down j = c.down j := Function.update_of_ne other ..

@[simp] theorem act_up_self (i : Nat) : (c.act (i + 1) r).up i = c.up i ++ r.up := Function.update_self ..

theorem act_up_of_ne {i j : Nat} (other : j + 1 ≠ i) : (c.act i r).up j = c.up j := by
  unfold act
  cases i with
  | zero => rfl
  | succ i =>
    have different : j ≠ i := fun same => other (congrArg (· + 1) same)
    simp [different]

end

def step (rules : ChainRules σ μ δ ι) (c : Chain σ μ) : ChainLabel δ ι → Option (Chain σ μ)
  | .deliverDown i position d => do
    let m ← (c.down i)[position]?
    let r ← rules.receive (i + 1) d m (c.node (i + 1))
    return act {c with down := Function.update c.down i ((c.down i).eraseIdx position)} (i + 1) r
  | .deliverUp i position d => do
    let m ← (c.up i)[position]?
    let r ← rules.receive i d m (c.node i)
    return act {c with up := Function.update c.up i ((c.up i).eraseIdx position)} i r
  | .dropDown i position =>
    some {c with down := Function.update c.down i ((c.down i).eraseIdx position)}
  | .dropUp i position =>
    some {c with up := Function.update c.up i ((c.up i).eraseIdx position)}
  | .duplicateDown i position => do
    let m ← (c.down i)[position]?
    return {c with down := Function.update c.down i (c.down i ++ [m])}
  | .duplicateUp i position => do
    let m ← (c.up i)[position]?
    return {c with up := Function.update c.up i (c.up i ++ [m])}
  | .input i d x => do
    let r ← rules.take i d x (c.node i)
    return act c i r

/-- The step relation that `Run` takes. -/
def Next (rules : ChainRules σ μ δ ι) (c : Chain σ μ) (label : ChainLabel δ ι) (next : Chain σ μ) : Prop :=
  c.step rules label = some next

theorem run_of_foldlM {rules : ChainRules σ μ δ ι} {c final : Chain σ μ} {labels : List (ChainLabel δ ι)}
    (steps : labels.foldlM (Chain.step rules) c = some final) : Run (Next rules) c labels final := by
  induction labels generalizing c with
  | nil =>
    cases steps
    exact .nil _
  | cons label labels ih =>
    rw [List.foldlM_cons,Option.bind_eq_bind,Option.bind_eq_some_iff] at steps
    obtain ⟨middle,first,rest⟩ := steps
    exact .cons first (ih rest)

/-- The reaction of the node that a label makes move. -/
inductive Reacts (rules : ChainRules σ μ δ ι) (c : Chain σ μ) : ChainLabel δ ι → Nat → Reaction σ μ → Prop
  | down {i position : Nat} {d : δ} {m : μ} {r : Reaction σ μ} (found : (c.down i)[position]? = some m)
      (receives : rules.receive (i + 1) d m (c.node (i + 1)) = some r) :
      Reacts rules c (.deliverDown i position d) (i + 1) r
  | up {i position : Nat} {d : δ} {m : μ} {r : Reaction σ μ} (found : (c.up i)[position]? = some m)
      (receives : rules.receive i d m (c.node i) = some r) :
      Reacts rules c (.deliverUp i position d) i r
  | input {i : Nat} {d : δ} {x : ι} {r : Reaction σ μ} (takes : rules.take i d x (c.node i) = some r) :
      Reacts rules c (.input i d x) i r

/-- The same nodes, and no message in a channel that was not in it. -/
structure Thinned (c thin : Chain σ μ) : Prop where
  node : thin.node = c.node
  down : ∀ i, ∀ m ∈ thin.down i, m ∈ c.down i
  up : ∀ i, ∀ m ∈ thin.up i, m ∈ c.up i

private theorem mem_update {channel : Nat → List μ} {i : Nat} {messages : List μ}
    (all : ∀ m ∈ messages, m ∈ channel i) :
    ∀ j, ∀ m ∈ Function.update channel i messages j, m ∈ channel j := by
  intro j m member
  by_cases same : j = i
  · subst same
    rw [Function.update_self] at member
    exact all m member
  · rwa [Function.update_of_ne same] at member

private theorem mem_repeated {messages : List μ} {m : μ} {position : Nat} (found : messages[position]? = some m) :
    ∀ other ∈ messages ++ [m], other ∈ messages := by
  intro other member
  rcases List.mem_append.mp member with old | new
  · exact old
  · cases List.mem_singleton.mp new
    exact List.mem_of_getElem? found

/-- A step only loses or repeats messages, or lets one node move after that. -/
theorem step_cases {rules : ChainRules σ μ δ ι} {c next : Chain σ μ} {label : ChainLabel δ ι}
    (taken : c.step rules label = some next) :
    Thinned c next ∨ ∃ i r thin, Reacts rules c label i r ∧ Thinned c thin ∧ next = thin.act i r := by
  cases label with
  | deliverDown i position d =>
    simp only [Chain.step,Option.bind_eq_bind,Option.bind_eq_some_iff,Option.pure_def,Option.some.injEq] at taken
    obtain ⟨m,found,r,receives,rfl⟩ := taken
    refine .inr ⟨i + 1,r,_,.down found receives,?_,rfl⟩
    exact ⟨rfl,mem_update fun _ => List.mem_of_mem_eraseIdx,fun _ _ member => member⟩
  | deliverUp i position d =>
    simp only [Chain.step,Option.bind_eq_bind,Option.bind_eq_some_iff,Option.pure_def,Option.some.injEq] at taken
    obtain ⟨m,found,r,receives,rfl⟩ := taken
    refine .inr ⟨i,r,_,.up found receives,?_,rfl⟩
    exact ⟨rfl,fun _ _ member => member,mem_update fun _ => List.mem_of_mem_eraseIdx⟩
  | dropDown i position =>
    cases taken
    exact .inl ⟨rfl,mem_update fun _ => List.mem_of_mem_eraseIdx,fun _ _ member => member⟩
  | dropUp i position =>
    cases taken
    exact .inl ⟨rfl,fun _ _ member => member,mem_update fun _ => List.mem_of_mem_eraseIdx⟩
  | duplicateDown i position =>
    simp only [Chain.step,Option.bind_eq_bind,Option.bind_eq_some_iff,Option.pure_def,Option.some.injEq] at taken
    obtain ⟨m,found,rfl⟩ := taken
    exact .inl ⟨rfl,mem_update (mem_repeated found),fun _ _ member => member⟩
  | duplicateUp i position =>
    simp only [Chain.step,Option.bind_eq_bind,Option.bind_eq_some_iff,Option.pure_def,Option.some.injEq] at taken
    obtain ⟨m,found,rfl⟩ := taken
    exact .inl ⟨rfl,fun _ _ member => member,mem_update (mem_repeated found)⟩
  | input i d x =>
    simp only [Chain.step,Option.bind_eq_bind,Option.bind_eq_some_iff,Option.pure_def,Option.some.injEq] at taken
    obtain ⟨r,takes,rfl⟩ := taken
    exact .inr ⟨i,r,c,.input takes,⟨rfl,fun _ _ member => member,fun _ _ member => member⟩,rfl⟩

theorem input_taken {rules : ChainRules σ μ δ ι} {c next : Chain σ μ} {i : Nat} {d : δ} {x : ι}
    (taken : c.step rules (.input i d x) = some next) :
    ∃ r, rules.take i d x (c.node i) = some r ∧ next = c.act i r := by
  simp only [Chain.step,Option.bind_eq_bind,Option.bind_eq_some_iff,Option.pure_def,Option.some.injEq] at taken
  obtain ⟨r,takes,rfl⟩ := taken
  exact ⟨r,takes,rfl⟩

theorem dropDown_taken {rules : ChainRules σ μ δ ι} {c next : Chain σ μ} {i position : Nat}
    (taken : c.step rules (.dropDown i position) = some next) :
    next.node = c.node ∧ next.down i = (c.down i).eraseIdx position ∧ next.up = c.up := by
  cases taken
  exact ⟨rfl,Function.update_self ..,rfl⟩

theorem dropUp_taken {rules : ChainRules σ μ δ ι} {c next : Chain σ μ} {i position : Nat}
    (taken : c.step rules (.dropUp i position) = some next) :
    next.node = c.node ∧ next.down = c.down ∧ next.up i = (c.up i).eraseIdx position := by
  cases taken
  exact ⟨rfl,rfl,Function.update_self ..⟩

/-- The first message of a channel was taken down to the next node. -/
structure DeliveredDown (c next : Chain σ μ) (i : Nat) (rest : List μ) (r : Reaction σ μ) : Prop where
  node : next.node (i + 1) = r.node
  others : ∀ j, j ≠ i + 1 → next.node j = c.node j
  rest : next.down i = rest
  sent : next.down (i + 1) = c.down (i + 1) ++ r.down
  down : ∀ j, j ≠ i → j ≠ i + 1 → next.down j = c.down j
  answered : next.up i = c.up i ++ r.up
  up : ∀ j, j ≠ i → next.up j = c.up j

theorem deliverDown_first {rules : ChainRules σ μ δ ι} {c next : Chain σ μ} {i : Nat} {d : δ}
    (taken : c.step rules (.deliverDown i 0 d) = some next) :
    ∃ m rest r, c.down i = m :: rest ∧ rules.receive (i + 1) d m (c.node (i + 1)) = some r ∧
      DeliveredDown c next i rest r := by
  simp only [Chain.step,Option.bind_eq_bind,Option.bind_eq_some_iff,Option.pure_def,Option.some.injEq] at taken
  obtain ⟨m,found,r,receives,rfl⟩ := taken
  cases channel : c.down i with
  | nil => simp [channel] at found
  | cons first rest =>
    rw [channel] at found
    cases found
    refine ⟨m,rest,r,rfl,receives,?_⟩
    exact {
      node := act_node_self ..
      others := fun j other => act_node_of_ne _ _ other
      rest := by
        rw [act_down_of_ne _ _ (Nat.ne_of_lt (Nat.lt_succ_self i))]
        exact Function.update_self ..
      sent := by
        rw [act_down_self]
        exact congrArg (· ++ r.down) (Function.update_of_ne (Nat.succ_ne_self i) ..)
      down := fun j other later => by
        rw [act_down_of_ne _ _ later]
        exact Function.update_of_ne other ..
      answered := act_up_self ..
      up := fun j other => act_up_of_ne _ _ (fun same => other (Nat.succ.inj same)) }

/-- The first message of a channel was taken up to the node before it. -/
structure DeliveredUp (c next : Chain σ μ) (i : Nat) (rest : List μ) (r : Reaction σ μ) : Prop where
  node : next.node i = r.node
  others : ∀ j, j ≠ i → next.node j = c.node j
  sent : next.down i = c.down i ++ r.down
  down : ∀ j, j ≠ i → next.down j = c.down j
  rest : next.up i = rest
  passed : ∀ j, j + 1 = i → next.up j = c.up j ++ r.up
  up : ∀ j, j ≠ i → j + 1 ≠ i → next.up j = c.up j

theorem deliverUp_first {rules : ChainRules σ μ δ ι} {c next : Chain σ μ} {i : Nat} {d : δ}
    (taken : c.step rules (.deliverUp i 0 d) = some next) :
    ∃ m rest r, c.up i = m :: rest ∧ rules.receive i d m (c.node i) = some r ∧ DeliveredUp c next i rest r := by
  simp only [Chain.step,Option.bind_eq_bind,Option.bind_eq_some_iff,Option.pure_def,Option.some.injEq] at taken
  obtain ⟨m,found,r,receives,rfl⟩ := taken
  cases channel : c.up i with
  | nil => simp [channel] at found
  | cons first rest =>
    rw [channel] at found
    cases found
    refine ⟨m,rest,r,rfl,receives,?_⟩
    exact {
      node := act_node_self ..
      others := fun j other => act_node_of_ne _ _ other
      sent := act_down_self ..
      down := fun j other => act_down_of_ne _ _ other
      rest := by
        rw [act_up_of_ne _ _ (Nat.succ_ne_self i)]
        exact Function.update_self ..
      passed := fun j same => by
        subst same
        rw [act_up_self]
        exact congrArg (· ++ r.up) (Function.update_of_ne (Nat.ne_of_lt (Nat.lt_succ_self j)) ..)
      up := fun j other later => by
        rw [act_up_of_ne _ _ later]
        exact Function.update_of_ne other .. }

/-- Every node and every message in a channel has a property of its own. -/
structure Locally (atNode : Nat → σ → Prop) (onDown onUp : Nat → μ → Prop) (c : Chain σ μ) : Prop where
  node : ∀ i, atNode i (c.node i)
  down : ∀ i, ∀ m ∈ c.down i, onDown i m
  up : ∀ i, ∀ m ∈ c.up i, onUp i m

structure Allowed (atNode : Nat → σ → Prop) (onDown onUp : Nat → μ → Prop) (i : Nat) (r : Reaction σ μ) : Prop where
  node : atNode i r.node
  down : ∀ m ∈ r.down, onDown i m
  up : i ≠ 0 → ∀ m ∈ r.up, onUp (i - 1) m

namespace Locally
variable {atNode : Nat → σ → Prop} {onDown onUp : Nat → μ → Prop} {c : Chain σ μ}

theorem act (locally' : Locally atNode onDown onUp c) {i : Nat} {r : Reaction σ μ}
    (allowed : Allowed atNode onDown onUp i r) : Locally atNode onDown onUp (c.act i r) := by
  refine ⟨fun j => ?_,fun j m member => ?_,fun j m member => ?_⟩
  · by_cases same : j = i
    · subst same
      rw [act_node_self]
      exact allowed.node
    · rw [act_node_of_ne _ _ same]
      exact locally'.node j
  · by_cases same : j = i
    · subst same
      rw [act_down_self] at member
      rcases List.mem_append.mp member with old | new
      · exact locally'.down j m old
      · exact allowed.down m new
    · rw [act_down_of_ne _ _ same] at member
      exact locally'.down j m member
  · by_cases same : j + 1 = i
    · subst same
      rw [act_up_self] at member
      rcases List.mem_append.mp member with old | new
      · exact locally'.up j m old
      · exact allowed.up (Nat.succ_ne_zero j) m new
    · rw [act_up_of_ne _ _ same] at member
      exact locally'.up j m member

theorem thinned {thin : Chain σ μ} (locally' : Locally atNode onDown onUp c) (fewer : Thinned c thin) :
    Locally atNode onDown onUp thin where
  node i := by
    rw [fewer.node]
    exact locally'.node i
  down i m member := locally'.down i m (fewer.down i m member)
  up i m member := locally'.up i m (fewer.up i m member)

/-- A step keeps the properties if the node that moves does. -/
theorem step {rules : ChainRules σ μ δ ι} {label : ChainLabel δ ι} {next : Chain σ μ}
    (locally' : Locally atNode onDown onUp c) (taken : c.step rules label = some next)
    (keep : ∀ i r, Reacts rules c label i r → next.node i = r.node → Allowed atNode onDown onUp i r) :
    Locally atNode onDown onUp next := by
  rcases step_cases taken with fewer | ⟨i,r,thin,reacts,fewer,rfl⟩
  · exact locally'.thinned fewer
  · exact (locally'.thinned fewer).act (keep i r reacts (act_node_self ..))

end Locally
end Chain
end Mnslp.Lib
