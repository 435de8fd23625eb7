import Mnslp.Lib.Machine

/-! Machines that compute in the course of a run what a program with exceptions computes. The
program is composed as programs are, the runs are put one behind the other. -/
namespace Mnslp.Lib.Machine
variable {σ ρ ε α β : Type} {step : Machine σ (Except ε ρ)}

/-- From `s` on the machine comes to a state that goes with the value of the program, or it ends with
the exception of the program. -/
def Computes (step : Machine σ (Except ε ρ)) (s : σ) (program : Except ε α) (after : α → σ → Prop) : Prop :=
  match program with
  | .ok a => ∃ final, Reaches step s final ∧ after a final
  | .error e => ∃ final, Reaches step s final ∧ step final = .inr (.error e)

namespace Computes
variable {s : σ} {program : Except ε α} {after : α → σ → Prop}

theorem here {a : α} (holds : after a s) : Computes step s (.ok a) after := ⟨s,.refl s,holds⟩

theorem failed {e : ε} (last : step s = .inr (.error e)) : Computes step s (.error e) after := ⟨s,.refl s,last⟩

theorem behind {middle : σ} (before : Reaches step s middle) (rest : Computes step middle program after) :
    Computes step s program after := by
  cases program with
  | ok a =>
    obtain ⟨final,reaches,holds⟩ := rest
    exact ⟨final,before.trans reaches,holds⟩
  | error e =>
    obtain ⟨final,reaches,last⟩ := rest
    exact ⟨final,before.trans reaches,last⟩

/-- The rule for programs one after the other. -/
theorem bind {f : α → Except ε β} {afterwards : β → σ → Prop} (first : Computes step s program after)
    (rest : ∀ a middle, after a middle → Computes step middle (f a) afterwards) :
    Computes step s (program >>= f) afterwards := by
  cases program with
  | ok a =>
    obtain ⟨middle,reaches,holds⟩ := first
    exact (rest a middle holds).behind reaches
  | error e => exact first

end Computes
end Mnslp.Lib.Machine
