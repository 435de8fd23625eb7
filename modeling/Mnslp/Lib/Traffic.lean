import Mathlib.Algebra.BigOperators.Group.Finset.Piecewise
import Mnslp.Lib.Chain

/-! Bounds on the traffic of a chain. Nodes and messages have weights, and a node that takes a
message weighs less together with what it sends than it did together with the message. Then every
delivery is paid for by an input or by the repetition of a message. -/
namespace Mnslp.Lib
namespace Chain
variable {σ μ δ ι : Type}

structure Weights (σ μ : Type) where
  node : Nat → σ → Nat
  down : Nat → μ → Nat
  up : Nat → μ → Nat

def weigh (weight : μ → Nat) : List μ → Nat
  | [] => 0
  | m :: messages => weight m + weigh weight messages

section
variable (weight : μ → Nat)

@[simp] theorem weigh_nil : weigh weight [] = 0 := rfl

@[simp] theorem weigh_cons (m : μ) (messages : List μ) : weigh weight (m :: messages) = weight m + weigh weight messages := rfl

@[simp] theorem weigh_append (messages more : List μ) :
    weigh weight (messages ++ more) = weigh weight messages + weigh weight more := by
  induction messages with
  | nil => simp
  | cons m messages ih => simp [ih,Nat.add_assoc]

theorem weigh_eraseIdx {messages : List μ} {position : Nat} {m : μ} (found : messages[position]? = some m) :
    weigh weight (messages.eraseIdx position) + weight m = weigh weight messages := by
  induction messages generalizing position with
  | nil => cases found
  | cons first messages ih =>
    cases position with
    | zero =>
      cases found
      exact Nat.add_comm ..
    | succ position =>
      rw [List.eraseIdx_cons_succ,weigh_cons,weigh_cons,Nat.add_assoc,ih found]

theorem weigh_eraseIdx_le (messages : List μ) (position : Nat) :
    weigh weight (messages.eraseIdx position) ≤ weigh weight messages := by
  cases found : messages[position]? with
  | some m => exact Nat.le_of_add_right_le (Nat.le_of_eq (weigh_eraseIdx weight found))
  | none => rw [List.eraseIdx_of_length_le (List.getElem?_eq_none_iff.mp found)]

end

/-- The weight of the first `n` nodes and channels. -/
def potential (w : Weights σ μ) (n : Nat) (c : Chain σ μ) : Nat :=
  (∑ i ∈ Finset.range n, w.node i (c.node i)) + (∑ i ∈ Finset.range n, weigh (w.down i) (c.down i)) +
    ∑ i ∈ Finset.range n, weigh (w.up i) (c.up i)

/-- What a node and the messages it sends weigh after it moved. -/
def emitted (w : Weights σ μ) (i : Nat) (r : Reaction σ μ) : Nat :=
  w.node i r.node + weigh (w.down i) r.down + if i = 0 then 0 else weigh (w.up (i - 1)) r.up

section
variable {α : Type} (weight : Nat → α → Nat) (f : Nat → α) {i n : Nat} (a : α)

private theorem sum_update (inside : i < n) : (∑ j ∈ Finset.range n, weight j (Function.update f i a j)) + weight i (f i) =
    (∑ j ∈ Finset.range n, weight j (f j)) + weight i a := by
  have member : i ∈ Finset.range n := Finset.mem_range.mpr inside
  simp only [Function.apply_update fun j => weight j]
  rw [Finset.sum_update_of_mem member,← Finset.add_sum_erase _ _ member,Finset.sdiff_singleton_eq_erase]
  omega

end

variable {w : Weights σ μ} {n : Nat} {c next : Chain σ μ}

/-- A node moves. -/
theorem potential_act {i : Nat} (r : Reaction σ μ) (inside : i < n) :
    potential w n (c.act i r) + w.node i (c.node i) = potential w n c + emitted w i r := by
  have nodes := sum_update w.node c.node r.node inside
  have downs := sum_update (fun j => weigh (w.down j)) c.down (c.down i ++ r.down) inside
  unfold potential emitted
  cases i with
  | zero =>
    simp only [weigh_append] at downs
    simp only [act,if_true]
    omega
  | succ i =>
    have ups := sum_update (fun j => weigh (w.up j)) c.up (c.up i ++ r.up) (Nat.lt_of_succ_lt inside)
    simp only [weigh_append] at downs ups
    simp only [act,Nat.succ_ne_zero,if_false,Nat.add_sub_cancel]
    omega

/-- A channel loses a message, or it gets one. -/
private theorem potential_down {i : Nat} (messages : List μ) (inside : i < n) :
    potential w n {c with down := Function.update c.down i messages} + weigh (w.down i) (c.down i) =
      potential w n c + weigh (w.down i) messages := by
  have downs := sum_update (fun j => weigh (w.down j)) c.down messages inside
  simp only [potential]
  omega

private theorem potential_up {i : Nat} (messages : List μ) (inside : i < n) :
    potential w n {c with up := Function.update c.up i messages} + weigh (w.up i) (c.up i) =
      potential w n c + weigh (w.up i) messages := by
  have ups := sum_update (fun j => weigh (w.up j)) c.up messages inside
  simp only [potential]
  omega

/-- What is known about the chains of a run. Nothing is in a channel from `n` on. -/
structure Bounded (w : Weights σ μ) (n cost : Nat) (c : Chain σ μ) : Prop where
  down : ∀ i, ∀ m ∈ c.down i, i + 1 < n ∧ w.down i m ≤ cost
  up : ∀ i, ∀ m ∈ c.up i, i < n ∧ w.up i m ≤ cost

/-- A node that does not move. -/
def idle (c : Chain σ μ) (i : Nat) : Reaction σ μ := ⟨c.node i,[],[]⟩

theorem act_idle (i : Nat) : c.act i (c.idle i) = c := by
  unfold act idle
  simp only [List.append_nil,Function.update_eq_self]
  split <;> rfl

/-- The reactions pay for themselves, those to an input up to its cost. -/
structure Pays (rules : ChainRules σ μ δ ι) (w : Weights σ μ) (n cost : Nat) (Inv : Chain σ μ → Prop) : Prop where
  bounded : ∀ c, Inv c → Bounded w n cost c
  receiveDown : ∀ c i d m r, Inv c → m ∈ c.down i → rules.receive (i + 1) d m (c.node (i + 1)) = some r →
    emitted w (i + 1) r < w.node (i + 1) (c.node (i + 1)) + w.down i m
  receiveUp : ∀ c i d m r, Inv c → m ∈ c.up i → rules.receive i d m (c.node i) = some r →
    emitted w i r < w.node i (c.node i) + w.up i m
  take : ∀ c i d x r, Inv c → rules.take i d x (c.node i) = some r →
    r = c.idle i ∨ i < n ∧ emitted w i r ≤ w.node i (c.node i) + cost

def isDelivery : ChainLabel δ ι → Bool
  | .deliverDown .. => true
  | .deliverUp .. => true
  | _ => false

/-- The steps that bring something new: inputs and repetitions. -/
def isSource : ChainLabel δ ι → Bool
  | .duplicateDown .. => true
  | .duplicateUp .. => true
  | .input .. => true
  | _ => false

section
variable {rules : ChainRules σ μ δ ι} {cost : Nat} {Inv : Chain σ μ → Prop} {label : ChainLabel δ ι}

/-- Losing a message does not add weight. -/
private theorem potential_drop (bounded : Bounded w n cost c) (i position : Nat) :
    potential w n {c with down := Function.update c.down i ((c.down i).eraseIdx position)} ≤ potential w n c ∧
      potential w n {c with up := Function.update c.up i ((c.up i).eraseIdx position)} ≤ potential w n c := by
  have lighter := weigh_eraseIdx_le (w.down i) (c.down i) position
  have lighter' := weigh_eraseIdx_le (w.up i) (c.up i) position
  by_cases inside : i < n
  · have down := potential_down (w := w) (c := c) ((c.down i).eraseIdx position) inside
    have up := potential_up (w := w) (c := c) ((c.up i).eraseIdx position) inside
    omega
  · have empty : c.down i = [] := List.eq_nil_iff_forall_not_mem.mpr fun m member => by
      have := (bounded.down i m member).1
      omega
    have empty' : c.up i = [] := List.eq_nil_iff_forall_not_mem.mpr fun m member => inside (bounded.up i m member).1
    rw [empty,empty',List.eraseIdx_nil,← empty,Function.update_eq_self,empty,← empty',Function.update_eq_self]
    exact ⟨Nat.le_refl _,Nat.le_refl _⟩

/-- A step costs no more than it brings in, and a delivery costs one. -/
theorem Pays.step (pays : Pays rules w n cost Inv) (inv : Inv c) (taken : c.step rules label = some next) :
    potential w n next + (if isDelivery label then 1 else 0) ≤ potential w n c + if isSource label then cost else 0 := by
  have bounded := pays.bounded c inv
  cases label with
  | deliverDown i position d =>
    simp only [Chain.step,Option.bind_eq_bind,Option.bind_eq_some_iff,Option.pure_def,Option.some.injEq] at taken
    obtain ⟨m,found,r,receives,rfl⟩ := taken
    have member := List.mem_of_getElem? found
    have inside := (bounded.down i m member).1
    have taken := potential_down (w := w) (c := c) ((c.down i).eraseIdx position) (Nat.lt_of_succ_lt inside)
    have erased := weigh_eraseIdx (w.down i) found
    have moved := potential_act (w := w) (c := {c with down := Function.update c.down i ((c.down i).eraseIdx position)}) r inside
    have falls := pays.receiveDown c i d m r inv member receives
    simp only [isDelivery,isSource,if_true,Bool.false_eq_true,if_false]
    dsimp only at moved
    omega
  | deliverUp i position d =>
    simp only [Chain.step,Option.bind_eq_bind,Option.bind_eq_some_iff,Option.pure_def,Option.some.injEq] at taken
    obtain ⟨m,found,r,receives,rfl⟩ := taken
    have member := List.mem_of_getElem? found
    have inside := (bounded.up i m member).1
    have taken := potential_up (w := w) (c := c) ((c.up i).eraseIdx position) inside
    have erased := weigh_eraseIdx (w.up i) found
    have moved := potential_act (w := w) (c := {c with up := Function.update c.up i ((c.up i).eraseIdx position)}) r inside
    have falls := pays.receiveUp c i d m r inv member receives
    simp only [isDelivery,isSource,if_true,Bool.false_eq_true,if_false]
    dsimp only at moved
    omega
  | dropDown i position =>
    cases taken
    simp only [isDelivery,isSource,Bool.false_eq_true,if_false,Nat.add_zero]
    exact (potential_drop bounded i position).1
  | dropUp i position =>
    cases taken
    simp only [isDelivery,isSource,Bool.false_eq_true,if_false,Nat.add_zero]
    exact (potential_drop bounded i position).2
  | duplicateDown i position =>
    simp only [Chain.step,Option.bind_eq_bind,Option.bind_eq_some_iff,Option.pure_def,Option.some.injEq] at taken
    obtain ⟨m,found,rfl⟩ := taken
    obtain ⟨inside,affordable⟩ := bounded.down i m (List.mem_of_getElem? found)
    have repeated := potential_down (w := w) (c := c) (c.down i ++ [m]) (Nat.lt_of_succ_lt inside)
    rw [weigh_append,weigh_cons,weigh_nil,Nat.add_zero] at repeated
    simp only [isDelivery,isSource,if_true,Bool.false_eq_true,if_false]
    omega
  | duplicateUp i position =>
    simp only [Chain.step,Option.bind_eq_bind,Option.bind_eq_some_iff,Option.pure_def,Option.some.injEq] at taken
    obtain ⟨m,found,rfl⟩ := taken
    obtain ⟨inside,affordable⟩ := bounded.up i m (List.mem_of_getElem? found)
    have repeated := potential_up (w := w) (c := c) (c.up i ++ [m]) inside
    rw [weigh_append,weigh_cons,weigh_nil,Nat.add_zero] at repeated
    simp only [isDelivery,isSource,if_true,Bool.false_eq_true,if_false]
    omega
  | input i d x =>
    simp only [Chain.step,Option.bind_eq_bind,Option.bind_eq_some_iff,Option.pure_def,Option.some.injEq] at taken
    obtain ⟨r,takes,rfl⟩ := taken
    simp only [isDelivery,isSource,if_true,Bool.false_eq_true,if_false]
    rcases pays.take c i d x r inv takes with rfl | ⟨inside,affordable⟩
    · rw [act_idle]
      omega
    · have moved := potential_act (w := w) (c := c) r inside
      omega

/-- The deliveries of a run are paid for by its inputs and its repetitions. -/
theorem Pays.run (pays : Pays rules w n cost Inv) {labels : List (ChainLabel δ ι)}
    (keep : ∀ {c next : Chain σ μ} {label}, Inv c → c.step rules label = some next → Inv next)
    (inv : Inv c) (run : Run (Next rules) c labels next) :
    potential w n next + labels.countP isDelivery ≤ potential w n c + cost * labels.countP isSource := by
  induction run with
  | nil => simp
  | @cons c middle next label labels taken _ ih =>
    have first := pays.step inv taken
    have rest := ih (keep inv taken)
    rw [List.countP_cons,List.countP_cons,Nat.mul_add,apply_ite (cost * ·),Nat.mul_one,Nat.mul_zero]
    omega

end

end Chain
end Mnslp.Lib
