import Mnslp.Lib.Relay

/-! A row of nodes that does the work of another one. Its nodes show those of the other row, and its
messages are what the messages there are written as and what they are read from. Whatever is relayed
there is relayed here. -/
namespace Mnslp.Lib

/-- Messages that are written by the sender and read by the receiver, which may depend on where it is read. -/
structure Script (μ β ε : Type) where
  write : μ → Option β
  read : ε → β → Option μ

namespace Script
variable {μ β ε : Type} (script : Script μ β ε)

/-- It stands for a message with the property. -/
def Carries (p : μ → Prop) (b : β) : Prop := ∃ m, p m ∧ script.write m = some b

/-- Messages with the property can be written, and are read as messages with the property. -/
def Keeps (p : μ → Prop) : Prop := ∀ m, p m → ∃ b, script.write m = some b ∧ ∀ e, ∃ again, script.read e b = some again ∧ p again

variable {script} {p : μ → Prop}

theorem Keeps.read (keeps : script.Keeps p) {b : β} (carries : script.Carries p b) (e : ε) :
    ∃ m, script.read e b = some m ∧ p m := by
  obtain ⟨m,has,written⟩ := carries
  obtain ⟨b',again,reads⟩ := keeps m has
  rw [written] at again
  cases again
  exact reads e

theorem Keeps.carries (keeps : script.Keeps p) {m : μ} (has : p m) : ∃ b, script.write m = some b ∧ script.Carries p b := by
  obtain ⟨b,written,_⟩ := keeps m has
  exact ⟨b,written,m,has,written⟩

end Script

variable {σ τ μ β δ ε ι κ : Type}

/-- What a node of one row does with what it reads, a node of the other does with the message. -/
structure Enacts (rules : ChainRules σ μ δ ι) (acted : ChainRules τ β ε κ) (script : Script μ β ε) (view : τ → σ)
    (choice : ε → δ) (able : σ → Prop) : Prop where
  receive : ∀ i e b m t (r : Reaction σ μ) down up, script.read e b = some m → able (view t) →
    rules.receive i (choice e) m (view t) = some r → r.down.mapM script.write = some down →
    r.up.mapM script.write = some up → ∃ next, acted.receive i e b t = some ⟨next,down,up⟩ ∧ view next = r.node

namespace Relay
variable {rules : ChainRules σ μ δ ι} {acted : ChainRules τ β ε κ} {script : Script μ β ε} {view : τ → σ} {choice : ε → δ}
  {able : σ → Prop} {last : Nat} {suits : Nat → δ → μ → Prop} {asks answers : μ → Prop} {before waiting after : Nat → σ → Prop}

/-- A relay that sends nothing more when the answer is back is a relay for the other row as well. -/
theorem enacted (relay : Relay rules last suits asks answers before waiting after)
    (enacts : Enacts rules acted script view choice able) (asking : script.Keeps asks) (answering : script.Keeps answers)
    (ready : ∀ i s, before i s ∨ waiting i s → able s)
    (quiet : ∀ d m s r, suits 0 d m → answers m → waiting 0 s → rules.receive 0 d m s = some r → r.up = []) :
    Relay acted last (fun i e b => ∀ m, script.read e b = some m → suits i (choice e) m)
      (script.Carries asks) (script.Carries answers) (fun i t => before i (view t)) (fun i t => waiting i (view t))
      (fun i t => after i (view t)) where
  hands := by
    intro i e b t later inside suitable carries ahead
    obtain ⟨m,read,has⟩ := asking.read carries e
    obtain ⟨s,sent,receives,waits,goes⟩ := relay.hands i (choice e) m (view t) later inside (suitable m read) has ahead
    obtain ⟨b',written,carried⟩ := asking.carries goes
    obtain ⟨next,acts,same⟩ := enacts.receive i e b m t _ [b'] [] read (ready i _ (.inl ahead)) receives
      (by simp [written]) rfl
    exact ⟨next,b',acts,by rw [same]; exact waits,carried⟩
  turns := by
    intro e b t suitable carries ahead
    obtain ⟨m,read,has⟩ := asking.read carries e
    obtain ⟨s,sent,receives,finished,goes⟩ := relay.turns (choice e) m (view t) (suitable m read) has ahead
    obtain ⟨b',written,carried⟩ := answering.carries goes
    obtain ⟨next,acts,same⟩ := enacts.receive last e b m t _ [] [b'] read (ready last _ (.inl ahead)) receives
      rfl (by simp [written])
    exact ⟨next,b',acts,by rw [same]; exact finished,carried⟩
  returns := by
    intro i e b t later inside suitable carries waits
    obtain ⟨m,read,has⟩ := answering.read carries e
    obtain ⟨s,sent,receives,finished,goes⟩ := relay.returns i (choice e) m (view t) later inside (suitable m read) has waits
    obtain ⟨b',written,carried⟩ := answering.carries goes
    obtain ⟨next,acts,same⟩ := enacts.receive i e b m t _ [] [b'] read (ready i _ (.inr waits)) receives
      rfl (by simp [written])
    exact ⟨next,b',acts,by rw [same]; exact finished,carried⟩
  ends := by
    intro e b t suitable carries waits
    obtain ⟨m,read,has⟩ := answering.read carries e
    obtain ⟨s,sent,receives,finished⟩ := relay.ends (choice e) m (view t) (suitable m read) has waits
    obtain rfl : sent = [] := quiet _ _ _ _ (suitable m read) has waits receives
    obtain ⟨next,acts,same⟩ := enacts.receive 0 e b m t _ [] [] read (ready 0 _ (.inr waits)) receives rfl rfl
    exact ⟨next,[],acts,by rw [same]; exact finished⟩

end Relay
end Mnslp.Lib
