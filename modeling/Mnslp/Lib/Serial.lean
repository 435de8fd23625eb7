import Mathlib.Tactic.Ring
import Mnslp.Lib.Run

/-! Numbers of 32 bits that go round. How far one is ahead of another is known only modulo
2^32, so distances can be added up along a run as long as they stay below. -/
namespace Mnslp.Lib

/-- The steps from the first number on to the second. -/
def ahead (a b : UInt32) : Nat := (b - a).toNat

@[simp] theorem ahead_self (a : UInt32) : ahead a a = 0 := by simp [ahead]

theorem ahead_eq (a b : UInt32) : ahead a b = (2 ^ 32 - a.toNat + b.toNat) % 2 ^ 32 := UInt32.toNat_sub b a

theorem ahead_add {a b c : UInt32} (short : ahead a b + ahead b c < 2 ^ 32) : ahead a c = ahead a b + ahead b c := by
  have first := a.toNat_lt
  have second := b.toNat_lt
  have third := c.toNat_lt
  rw [ahead_eq,ahead_eq] at *
  rw [ahead_eq]
  omega

variable {σ ℓ : Type}

/-- A run and how far a number of the state has moved on in all of its steps. -/
inductive Advances (step : σ → ℓ → σ → Prop) (number : σ → UInt32) : σ → Nat → σ → Prop
  | nil (s : σ) : Advances step number s 0 s
  | cons {s middle final : σ} {label : ℓ} {n : Nat} (first : step s label middle)
      (rest : Advances step number middle n final) :
      Advances step number s (ahead (number s) (number middle) + n) final

namespace Advances
variable {step : σ → ℓ → σ → Prop} {number : σ → UInt32}

theorem of_run {s final : σ} {labels : List ℓ} (run : Run step s labels final) : ∃ n, Advances step number s n final := by
  induction run with
  | nil => exact ⟨0,.nil _⟩
  | cons first _ ih =>
    obtain ⟨n,rest⟩ := ih
    exact ⟨_,.cons first rest⟩

theorem invariant (Inv : σ → Prop) (keep : ∀ s label next, Inv s → step s label next → Inv next) {s final : σ} {n : Nat}
    (run : Advances step number s n final) (start : Inv s) : Inv final := by
  induction run with
  | nil => exact start
  | cons first _ ih => exact ih (keep _ _ _ start first)

/-- A number that has not gone round is as far on as its steps add up to. -/
theorem ahead_eq {s final : σ} {n : Nat} (run : Advances step number s n final) (short : n < 2 ^ 32) :
    ahead (number s) (number final) = n := by
  induction run with
  | nil => exact ahead_self _
  | @cons s middle final _ n _ _ ih =>
    have rest := ih (by omega)
    have short : ahead (number s) (number middle) + ahead (number middle) (number final) < 2 ^ 32 := by omega
    rw [ahead_add short,rest]

end Advances
end Mnslp.Lib
