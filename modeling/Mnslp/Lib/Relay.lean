import Mnslp.Lib.Chain

/-! One message through a row of nodes and back. Each node hands the request on and waits, the
last one answers it, and the answer passes the waiting nodes on its way to the first. While
nothing is lost or repeated every channel is crossed once in each direction. -/
namespace Mnslp.Lib
namespace Chain
variable {σ μ δ ι : Type}

/-- One message is on its way, and it goes down. -/
structure OnlyDown (c : Chain σ μ) (p : Nat) (m : μ) : Prop where
  here : c.down p = [m]
  down : ∀ j, j ≠ p → c.down j = []
  up : ∀ j, c.up j = []

/-- One message is on its way, and it goes up. -/
structure OnlyUp (c : Chain σ μ) (p : Nat) (m : μ) : Prop where
  down : ∀ j, c.down j = []
  here : c.up p = [m]
  up : ∀ j, j ≠ p → c.up j = []

structure Emptied (c : Chain σ μ) : Prop where
  down : ∀ j, c.down j = []
  up : ∀ j, c.up j = []

/-- The label delivers a message that suits what its node depends on. -/
def Delivers (suits : Nat → δ → μ → Prop) (c : Chain σ μ) : ChainLabel δ ι → Prop
  | .deliverDown i position d => ∀ m, (c.down i)[position]? = some m → suits (i + 1) d m
  | .deliverUp i position d => ∀ m, (c.up i)[position]? = some m → suits i d m
  | _ => False

abbrev DeliversNext (rules : ChainRules σ μ δ ι) (suits : Nat → δ → μ → Prop) (c : Chain σ μ)
    (label : ChainLabel δ ι) (next : Chain σ μ) : Prop := Delivers suits c label ∧ Next rules c label next

/-- One message is on its way, and every suitable delivery of it is a step. -/
def Moving (rules : ChainRules σ μ δ ι) (suits : Nat → δ → μ → Prop) (c : Chain σ μ) : Prop :=
  (∃ p m, c.OnlyDown p m ∧ ∀ d, suits (p + 1) d m → ∃ next, Next rules c (.deliverDown p 0 d) next) ∨
    ∃ p m, c.OnlyUp p m ∧ ∀ d, suits p d m → ∃ next, Next rules c (.deliverUp p 0 d) next

section
variable {rules : ChainRules σ μ δ ι} {suits : Nat → δ → μ → Prop} {c next : Chain σ μ} {label : ChainLabel δ ι}
  {p : Nat} {m x : μ} {s : σ}

private theorem singleton_getElem? {position : Nat} {channel : List μ} {found : μ} (here : channel = [m])
    (at' : channel[position]? = some found) : position = 0 ∧ found = m := by
  subst here
  cases position with
  | zero =>
    cases at'
    exact ⟨rfl,rfl⟩
  | succ position => cases at'

theorem OnlyDown.delivered (only : c.OnlyDown p m) (step : DeliversNext rules suits c label next) :
    ∃ d r, suits (p + 1) d m ∧ rules.receive (p + 1) d m (c.node (p + 1)) = some r ∧ DeliveredDown c next p [] r := by
  obtain ⟨delivers,taken⟩ := step
  cases label with
  | deliverDown i position d =>
    have taken' := taken
    simp only [Next,Chain.step,Option.bind_eq_bind,Option.bind_eq_some_iff] at taken'
    obtain ⟨found,at',_⟩ := taken'
    by_cases place : i = p
    · subst place
      obtain ⟨rfl,rfl⟩ := singleton_getElem? only.here at'
      obtain ⟨_,rest,r,channel,receives,moved⟩ := deliverDown_first taken
      rw [only.here] at channel
      cases channel
      exact ⟨d,r,delivers _ at',receives,moved⟩
    · rw [only.down i place] at at'
      cases at'
  | deliverUp i position d =>
    simp only [Next,Chain.step,only.up i,List.getElem?_nil] at taken
    cases taken
  | _ => exact delivers.elim

theorem OnlyUp.delivered (only : c.OnlyUp p m) (step : DeliversNext rules suits c label next) :
    ∃ d r, suits p d m ∧ rules.receive p d m (c.node p) = some r ∧ DeliveredUp c next p [] r := by
  obtain ⟨delivers,taken⟩ := step
  cases label with
  | deliverUp i position d =>
    have taken' := taken
    simp only [Next,Chain.step,Option.bind_eq_bind,Option.bind_eq_some_iff] at taken'
    obtain ⟨found,at',_⟩ := taken'
    by_cases place : i = p
    · subst place
      obtain ⟨rfl,rfl⟩ := singleton_getElem? only.here at'
      obtain ⟨_,rest,r,channel,receives,moved⟩ := deliverUp_first taken
      rw [only.here] at channel
      cases channel
      exact ⟨d,r,delivers _ at',receives,moved⟩
    · rw [only.up i place] at at'
      cases at'
  | deliverDown i position d =>
    simp only [Next,Chain.step,only.down i,List.getElem?_nil] at taken
    cases taken
  | _ => exact delivers.elim

theorem Emptied.no_delivery (empty : c.Emptied) : ¬ DeliversNext rules suits c label next := by
  rintro ⟨delivers,taken⟩
  cases label with
  | deliverDown i position d =>
    simp only [Next,Chain.step,empty.down i,List.getElem?_nil] at taken
    cases taken
  | deliverUp i position d =>
    simp only [Next,Chain.step,empty.up i,List.getElem?_nil] at taken
    cases taken
  | _ => exact delivers.elim

theorem Emptied.not_moving (empty : c.Emptied) : ¬ Moving rules suits c := by
  rintro (⟨p,m,only,_⟩ | ⟨p,m,only,_⟩)
  · cases only.here.symm.trans (empty.down p)
  · cases only.here.symm.trans (empty.up p)

theorem OnlyDown.handed (only : c.OnlyDown p m) (moved : DeliveredDown c next p [] ⟨s,[x],[]⟩) :
    next.OnlyDown (p + 1) x where
  here := by rw [moved.sent,only.down (p + 1) (Nat.succ_ne_self p),List.nil_append]
  down j other := by
    by_cases left : j = p
    · subst left
      exact moved.rest
    · rw [moved.down j left other,only.down j left]
  up j := by
    by_cases place : j = p
    · subst place
      rw [moved.answered,only.up j,List.append_nil]
    · rw [moved.up j place,only.up j]

theorem OnlyDown.turned (only : c.OnlyDown p m) (moved : DeliveredDown c next p [] ⟨s,[],[x]⟩) : next.OnlyUp p x where
  down j := by
    by_cases left : j = p
    · subst left
      exact moved.rest
    · by_cases later : j = p + 1
      · subst later
        rw [moved.sent,only.down _ left,List.append_nil]
      · rw [moved.down j left later,only.down j left]
  here := by rw [moved.answered,only.up p,List.nil_append]
  up j other := by rw [moved.up j other,only.up j]

theorem OnlyUp.returned (only : c.OnlyUp (p + 1) m) (moved : DeliveredUp c next (p + 1) [] ⟨s,[],[x]⟩) :
    next.OnlyUp p x where
  down j := by
    by_cases place : j = p + 1
    · subst place
      rw [moved.sent,only.down,List.append_nil]
    · rw [moved.down j place,only.down]
  here := by rw [moved.passed p rfl,only.up p (Nat.ne_of_lt (Nat.lt_succ_self p)),List.nil_append]
  up j other := by
    by_cases left : j = p + 1
    · subst left
      exact moved.rest
    · rw [moved.up j left (fun same => other (Nat.succ.inj same)),only.up j left]

theorem OnlyUp.ended {sent : List μ} (only : c.OnlyUp 0 m) (moved : DeliveredUp c next 0 [] ⟨s,[],sent⟩) :
    next.Emptied where
  down j := by
    by_cases place : j = 0
    · subst place
      rw [moved.sent,only.down,List.append_nil]
    · rw [moved.down j place,only.down]
  up j := by
    by_cases place : j = 0
    · subst place
      exact moved.rest
    · rw [moved.up j place (Nat.succ_ne_zero j),only.up j place]

theorem OnlyDown.deliver {d : δ} {r : Reaction σ μ} (only : c.OnlyDown p m)
    (receives : rules.receive (p + 1) d m (c.node (p + 1)) = some r) :
    ∃ next, Next rules c (.deliverDown p 0 d) next := by
  refine Option.isSome_iff_exists.mp ?_
  simp [Chain.step,only.here,receives]

theorem OnlyUp.deliver {d : δ} {r : Reaction σ μ} (only : c.OnlyUp p m)
    (receives : rules.receive p d m (c.node p) = some r) : ∃ next, Next rules c (.deliverUp p 0 d) next := by
  refine Option.isSome_iff_exists.mp ?_
  simp [Chain.step,only.here,receives]

end
end Chain

/-- What the nodes `0` to `last` do with a request and with its answer. -/
structure Relay {σ μ δ ι : Type} (rules : ChainRules σ μ δ ι) (last : Nat) (suits : Nat → δ → μ → Prop)
    (asks answers : μ → Prop) (before waiting after : Nat → σ → Prop) : Prop where
  hands : ∀ i d m s, i ≠ 0 → i < last → suits i d m → asks m → before i s →
    ∃ next sent, rules.receive i d m s = some ⟨next,[sent],[]⟩ ∧ waiting i next ∧ asks sent
  turns : ∀ d m s, suits last d m → asks m → before last s →
    ∃ next sent, rules.receive last d m s = some ⟨next,[],[sent]⟩ ∧ after last next ∧ answers sent
  returns : ∀ i d m s, i ≠ 0 → i < last → suits i d m → answers m → waiting i s →
    ∃ next sent, rules.receive i d m s = some ⟨next,[],[sent]⟩ ∧ after i next ∧ answers sent
  ends : ∀ d m s, suits 0 d m → answers m → waiting 0 s →
    ∃ next sent, rules.receive 0 d m s = some ⟨next,[],sent⟩ ∧ after 0 next

namespace Relay
variable {σ μ δ ι : Type} {rules : ChainRules σ μ δ ι} {last : Nat} {suits : Nat → δ → μ → Prop}
  {asks answers : μ → Prop} {before waiting after : Nat → σ → Prop} {c next final : Chain σ μ}
  {label : ChainLabel δ ι} {n : Nat}

/-- Where the message is after `n` deliveries, and how far the nodes are. -/
inductive At (last : Nat) (asks answers : μ → Prop) (before waiting after : Nat → σ → Prop) (c : Chain σ μ) :
    Nat → Prop
  | down {p : Nat} {m : μ} (inside : p < last) (only : c.OnlyDown p m) (asking : asks m)
      (behind : ∀ i ≤ p, waiting i (c.node i)) (ahead : ∀ i, p < i → i ≤ last → before i (c.node i)) :
      At last asks answers before waiting after c p
  | up {p n : Nat} {m : μ} (place : p + n + 1 = 2 * last) (inside : p < last) (only : c.OnlyUp p m)
      (answering : answers m) (behind : ∀ i ≤ p, waiting i (c.node i))
      (ahead : ∀ i, p < i → i ≤ last → after i (c.node i)) :
      At last asks answers before waiting after c n
  | done (empty : c.Emptied) (all : ∀ i ≤ last, after i (c.node i)) :
      At last asks answers before waiting after c (2 * last)

theorem At.le (here : At last asks answers before waiting after c n) : n ≤ 2 * last := by
  cases here with
  | down inside => omega
  | up place => omega
  | done => exact Nat.le_refl _

theorem At.finished (here : At last asks answers before waiting after c n) (all : n = 2 * last) :
    c.Emptied ∧ ∀ i ≤ last, after i (c.node i) := by
  cases here with
  | down inside => omega
  | up place => omega
  | done empty finished => exact ⟨empty,finished⟩

/-- An input of the first node puts the request on its way. -/
theorem At.begins {d : δ} {x : ι} {s : σ} {sent : μ} (inside : 0 < last) (empty : c.Emptied)
    (taken : Chain.Next rules c (.input 0 d x) next) (takes : rules.take 0 d x (c.node 0) = some ⟨s,[sent],[]⟩)
    (asking : asks sent) (waits : waiting 0 s) (ahead : ∀ i, 0 < i → i ≤ last → before i (c.node i)) :
    At last asks answers before waiting after next 0 := by
  obtain ⟨r,reacts,rfl⟩ := Chain.input_taken taken
  rw [takes] at reacts
  cases reacts
  refine .down inside ⟨?_,fun j later => ?_,fun j => ?_⟩ asking (fun i first => ?_) fun i later within => ?_
  · rw [Chain.act_down_self,empty.down,List.nil_append]
  · rw [Chain.act_down_of_ne _ _ later]
    exact empty.down j
  · rw [Chain.act_up_of_ne _ _ (Nat.succ_ne_zero j)]
    exact empty.up j
  · obtain rfl := Nat.le_zero.mp first
    rw [Chain.act_node_self]
    exact waits
  · rw [Chain.act_node_of_ne _ _ (by omega)]
    exact ahead i later within

theorem step (relay : Relay rules last suits asks answers before waiting after)
    (here : At last asks answers before waiting after c n) (taken : Chain.DeliversNext rules suits c label next) :
    At last asks answers before waiting after next (n + 1) := by
  cases here with
  | @down _ m inside only asking behind ahead =>
    obtain ⟨d,r,suitable,receives,moved⟩ := only.delivered taken
    have receiver := ahead (n + 1) (Nat.lt_succ_self n) inside
    have others (i : Nat) (other : i ≠ n + 1) : next.node i = c.node i := moved.others i other
    by_cases end' : n + 1 = last
    · subst end'
      obtain ⟨s,sent,reaction,finished,answering⟩ := relay.turns d m _ suitable asking receiver
      rw [receives] at reaction
      cases reaction
      refine .up (by omega) inside (only.turned moved) answering (fun i within => ?_) fun i beyond within => ?_
      · rw [others i (by omega)]
        exact behind i within
      · obtain rfl : i = n + 1 := by omega
        rw [moved.node]
        exact finished
    · obtain ⟨s,sent,reaction,waits,asking⟩ :=
        relay.hands (n + 1) d m _ (Nat.succ_ne_zero n) (by omega) suitable asking receiver
      rw [receives] at reaction
      cases reaction
      refine .down (by omega) (only.handed moved) asking (fun i within => ?_) fun i beyond within => ?_
      · by_cases last' : i = n + 1
        · subst last'
          rw [moved.node]
          exact waits
        · rw [others i last']
          exact behind i (by omega)
      · rw [others i (by omega)]
        exact ahead i (by omega) within
  | @up p _ m place inside only answering behind ahead =>
    obtain ⟨d,r,suitable,receives,moved⟩ := only.delivered taken
    have receiver := behind p (Nat.le_refl p)
    have others (i : Nat) (other : i ≠ p) : next.node i = c.node i := moved.others i other
    cases p with
    | zero =>
      obtain ⟨s,sent,reaction,finished⟩ := relay.ends d m _ suitable answering receiver
      rw [receives] at reaction
      cases reaction
      have all : n + 1 = 2 * last := by omega
      rw [all]
      refine .done (only.ended moved) fun i within => ?_
      by_cases first : i = 0
      · subst first
        rw [moved.node]
        exact finished
      · rw [others i first]
        exact ahead i (by omega) within
    | succ p =>
      obtain ⟨s,sent,reaction,finished,answering⟩ :=
        relay.returns (p + 1) d m _ (Nat.succ_ne_zero p) inside suitable answering receiver
      rw [receives] at reaction
      cases reaction
      refine .up (by omega) (by omega) (only.returned moved) answering (fun i within => ?_)
        fun i beyond within => ?_
      · rw [others i (by omega)]
        exact behind i (by omega)
      · by_cases first : i = p + 1
        · subst first
          rw [moved.node]
          exact finished
        · rw [others i first]
          exact ahead i (by omega) within
  | done empty => exact absurd taken empty.no_delivery

theorem run (relay : Relay rules last suits asks answers before waiting after)
    (here : At last asks answers before waiting after c n) {labels : List (ChainLabel δ ι)}
    (delivered : Run (Chain.DeliversNext rules suits) c labels final) :
    At last asks answers before waiting after final (n + labels.length) :=
  delivered.history (fun past c => At last asks answers before waiting after c (n + past.length))
    (fun past c label next reached taken => by
      rw [List.length_append]
      exact relay.step reached taken) here

theorem moving (relay : Relay rules last suits asks answers before waiting after)
    (here : At last asks answers before waiting after c n) (open' : n < 2 * last) : Chain.Moving rules suits c := by
  cases here with
  | @down _ m inside only asking behind ahead =>
    refine .inl ⟨n,m,only,fun d suitable => ?_⟩
    have receiver := ahead (n + 1) (Nat.lt_succ_self n) inside
    by_cases end' : n + 1 = last
    · subst end'
      obtain ⟨_,_,receives,_⟩ := relay.turns d m _ suitable asking receiver
      exact only.deliver receives
    · obtain ⟨_,_,receives,_⟩ := relay.hands (n + 1) d m _ (Nat.succ_ne_zero n) (by omega) suitable asking receiver
      exact only.deliver receives
  | @up p _ m place inside only answering behind ahead =>
    refine .inr ⟨p,m,only,fun d suitable => ?_⟩
    have receiver := behind p (Nat.le_refl p)
    by_cases first : p = 0
    · subst first
      obtain ⟨_,_,receives,_⟩ := relay.ends d m _ suitable answering receiver
      exact only.deliver receives
    · obtain ⟨_,_,receives,_⟩ := relay.returns p d m _ first inside suitable answering receiver
      exact only.deliver receives
  | done => omega

end Relay
end Mnslp.Lib
