import Mathlib.Data.Rat.Floor
import Mathlib.Algebra.Order.Floor.Semifield
import Mnslp.Session.NiStep

/-! When an initiator refreshes its session. `setup_session` rounds a quotient up and
`cal_refresh_interval` takes two thirds in 32 bits; a REFRESH has to be sent before the
lifetime ends. -/
namespace Mnslp.Session
open Mnslp.Lib Mnslp.Msg

theorem roundedUp_le {n d k : Nat} (positive : 0 < d) (enough : n ≤ k * d) : (n + d - 1) / d ≤ k := by
  rw [← Nat.lt_succ_iff,Nat.div_lt_iff_lt_mul positive,Nat.succ_mul]
  omega

theorem le_roundedUp {n d k : Nat} (positive : 0 < d) (less : k * d < n) : k < (n + d - 1) / d := by
  rw [← Nat.succ_le_iff,Nat.le_div_iff_mul_le positive,Nat.succ_mul]
  omega

theorem natCeil_div (n d : Nat) (positive : 0 < d) : ⌈(n : ℚ) / d⌉₊ = (n + d - 1) / d := by
  have scale : (0 : ℚ) < d := by exact_mod_cast positive
  apply le_antisymm
  · rw [Nat.ceil_le,div_le_iff₀ scale]
    have enough : n ≤ (n + d - 1) / d * d := by
      have remainder := @Nat.lt_div_mul_add (n + d - 1) d positive
      omega
    exact_mod_cast enough
  · apply roundedUp_le positive
    have enough : (n : ℚ) ≤ ⌈(n : ℚ) / d⌉₊ * d := (div_le_iff₀ scale).mp (Nat.le_ceil _)
    exact_mod_cast enough

namespace NiSession

/-- A REFRESH that is sent after the interval meets the session alive. -/
def RefreshesBefore (lifetime interval : UInt32) : Prop := 0 < interval ∧ interval < lifetime

/-- `setup_session` passes its assertion and computes the interval without overflow. -/
def SetsUp (d : Dispatcher) (s : NiSession) (e : ApiConfigure) : Prop :=
  ∃ next missing, setupSession d s e = .ok (next,missing) ∧ next.lifetime = e.sessionLifetime ∧
    next.refreshInterval.toNat = ⌈(e.sessionLifetime.toNat : ℚ) / ((s.maxRetries.toNat + 1/2) * (3/2))⌉₊ ∧
    RefreshesBefore e.sessionLifetime next.refreshInterval

/-- What a RESPONSE with another lifetime makes of the interval. -/
def Recomputes (d : Dispatcher) (s : NiSession) (lifetime : UInt32) : Prop :=
  (s.adopting d lifetime).refreshInterval.toNat = ⌊(lifetime.toNat : ℚ) * 2 / 3⌋₊ ∧
    RefreshesBefore lifetime (s.adopting d lifetime).refreshInterval

/-- `assert( r > 0 )` does not fail. -/
def PassesAssertion (d : Dispatcher) (s : NiSession) (e : ApiConfigure) : Prop :=
  setupSession d s e ≠ .error (.assertFailed .refreshInterval)

section
variable {lifetime retries : UInt32} (retry : 1 ≤ retries)
include retry

private theorem divisor_le : 9 ≤ 3 * (2 * retries.toNat + 1) := by
  have atLeast : 1 ≤ retries.toNat := retry
  omega

private theorem roundedUp_le_lifetime : (4 * lifetime.toNat + 3 * (2 * retries.toNat + 1) - 1) /
    (3 * (2 * retries.toNat + 1)) ≤ lifetime.toNat := by
  have divisor := divisor_le retry
  apply roundedUp_le (by omega)
  have scaled := Nat.mul_le_mul_left lifetime.toNat divisor
  omega

private theorem toNat_eq_roundedUp : (refreshIntervalOf lifetime retries).toNat =
    (4 * lifetime.toNat + 3 * (2 * retries.toNat + 1) - 1) / (3 * (2 * retries.toNat + 1)) := by
  have small := Nat.lt_of_le_of_lt (roundedUp_le_lifetime retry) lifetime.toNat_lt
  exact (UInt32.toNat_ofNat' ..).trans (Nat.mod_eq_of_lt small)

/-- The quotient has 32 bits, and it is the one of the source. -/
theorem toNat_refreshIntervalOf : (refreshIntervalOf lifetime retries).toNat =
    ⌈(lifetime.toNat : ℚ) / ((retries.toNat + 1/2) * (3/2))⌉₊ := by
  have divisor := divisor_le retry
  have same : (lifetime.toNat : ℚ) / ((retries.toNat + 1/2) * (3/2)) =
      ((4 * lifetime.toNat : ℕ) : ℚ) / ((3 * (2 * retries.toNat + 1) : ℕ) : ℚ) := by
    have nonzero : (2 * (retries.toNat : ℚ) + 1) ≠ 0 := by positivity
    have half : (retries.toNat : ℚ) + 1/2 ≠ 0 := by positivity
    push_cast
    field_simp
    ring
  rw [same,natCeil_div _ _ (by omega)]
  exact toNat_eq_roundedUp retry

theorem refreshIntervalOf_pos_iff : 0 < refreshIntervalOf lifetime retries ↔ lifetime ≠ 0 := by
  rw [UInt32.lt_iff_toNat_lt,toNat_eq_roundedUp retry]
  constructor
  · rintro positive rfl
    have none := @roundedUp_le_lifetime 0 retries retry
    exact absurd (Nat.lt_of_lt_of_le positive none) (Nat.lt_irrefl 0)
  · intro lasting
    have divisor := divisor_le retry
    have positive : 0 < lifetime.toNat := UInt32.pos_iff_ne_zero.mpr lasting
    have zero : (0 : UInt32).toNat = 0 := rfl
    apply le_roundedUp (by omega)
    rw [zero,Nat.zero_mul]
    omega

theorem refreshesBefore_refreshIntervalOf (lasting : 2 ≤ lifetime) :
    RefreshesBefore lifetime (refreshIntervalOf lifetime retries) := by
  have enough : 2 ≤ lifetime.toNat := lasting
  constructor
  · apply (refreshIntervalOf_pos_iff retry).mpr
    rintro rfl
    cases enough
  · have divisor := divisor_le retry
    have scaled := Nat.mul_le_mul_left (lifetime.toNat - 1) divisor
    rw [UInt32.lt_iff_toNat_lt,toNat_eq_roundedUp retry,← Nat.le_sub_one_iff_lt (by omega)]
    apply roundedUp_le (by omega)
    omega

end

section
variable (d : Dispatcher) (s : NiSession)

theorem setsUp_of_lasting (retry : 1 ≤ s.maxRetries) (e : ApiConfigure) (lasting : 2 ≤ e.sessionLifetime) :
    SetsUp d s e := by
  have given : e.sessionLifetime ≠ 0 := by
    intro none
    rw [none] at lasting
    cases lasting
  have lifetime : s.lifetimeFor e = e.sessionLifetime := if_pos given
  have before := refreshesBefore_refreshIntervalOf retry lasting
  have interval : (configuring d s e).refreshInterval = refreshIntervalOf e.sessionLifetime s.maxRetries := by
    rw [← lifetime]
    rfl
  have passed : setupSession d s e = .ok ({configuring d s e with msn := s.msn},
      (selectObjects d .initiator e.selMetEntities s.rule e.mspecObjects).2) := by
    rw [setupSession_eq,if_pos (interval ▸ before.1)]
  refine ⟨_,_,passed,lifetime,?_,?_⟩
  · exact (congrArg UInt32.toNat interval).trans (toNat_refreshIntervalOf retry)
  · exact interval ▸ before

theorem passesAssertion_iff (retry : 1 ≤ s.maxRetries) (e : ApiConfigure) :
    PassesAssertion d s e ↔ s.lifetimeFor e ≠ 0 := by
  unfold PassesAssertion
  rw [setupSession_eq,← refreshIntervalOf_pos_iff retry]
  change _ ↔ (configuring d s e).refreshInterval > 0
  split <;> simp_all

theorem recomputes_iff {lifetime : UInt32} (lasting : 2 ≤ lifetime) (other : lifetime ≠ s.lifetime) :
    Recomputes d s lifetime ↔ lifetime < 2147483648 := by
  have enough : 2 ≤ lifetime.toNat := lasting
  have interval : (s.adopting d lifetime).refreshInterval = lifetime * 2 / 3 := by
    unfold adopting
    rw [if_pos other]
    rfl
  have product : (lifetime * 2 / 3).toNat = lifetime.toNat * 2 % 2^32 / 3 := by
    rw [UInt32.toNat_div,UInt32.toNat_mul]
    rfl
  have exactly : ⌊(lifetime.toNat : ℚ) * 2 / 3⌋₊ = lifetime.toNat * 2 / 3 := by
    exact_mod_cast Nat.floor_div_eq_div (K := ℚ) (lifetime.toNat * 2) 3
  unfold Recomputes RefreshesBefore
  rw [interval,product,exactly,UInt32.lt_iff_toNat_lt,UInt32.lt_iff_toNat_lt,UInt32.lt_iff_toNat_lt,product]
  have bound := lifetime.toNat_lt
  have half : (2147483648 : UInt32).toNat = 2^31 := rfl
  rw [half]
  constructor
  · rintro ⟨fits,_⟩
    omega
  · intro small
    rw [Nat.mod_eq_of_lt (by omega)]
    refine ⟨rfl,?_,?_⟩
    · change 0 < _
      omega
    · omega

/-- An initiator that retries refreshes a session before its lifetime ends unless the
product overflows, and opens one without a given lifetime only if it has one already. -/
theorem refresh_before_expiry_iff (retry : 1 ≤ s.maxRetries) :
    (∀ e : ApiConfigure, 2 ≤ e.sessionLifetime → SetsUp d s e) ∧
      (∀ lifetime, 2 ≤ lifetime → lifetime ≠ s.lifetime → (Recomputes d s lifetime ↔ lifetime < 2147483648)) ∧
      ∀ e : ApiConfigure, e.sessionLifetime = 0 → (PassesAssertion d s e ↔ s.lifetime ≠ 0) := by
  refine ⟨setsUp_of_lasting d s retry,fun _ lasting other => recomputes_iff d s lasting other,fun e none => ?_⟩
  have kept : s.lifetimeFor e = s.lifetime := if_neg (not_not.mpr none)
  rw [passesAssertion_iff d s retry,kept]

end

/-- A new initiator with three retries: half of the range of a lifetime, doubled, is 0. -/
theorem refresh_after_expiry : ¬ ∀ (d : Dispatcher) (s : NiSession), 1 ≤ s.maxRetries →
    (∀ e : ApiConfigure, 2 ≤ e.sessionLifetime → SetsUp d s e) ∧
      (∀ lifetime, 2 ≤ lifetime → lifetime ≠ s.lifetime → Recomputes d s lifetime) ∧
      ∀ e : ApiConfigure, e.sessionLifetime = 0 → PassesAssertion d s e := by
  intro always
  obtain ⟨_,recomputes,_⟩ := always .willing (new 0 ⟨30,3,10⟩ 0) (by decide)
  have small := (recomputes_iff .willing (new 0 ⟨30,3,10⟩ 0) (by decide) (by decide)).mp
    (recomputes 2147483648 (by decide) (by decide))
  exact absurd small (UInt32.lt_irrefl _)

theorem refresh_before_expiry_new :
    (∀ e : ApiConfigure, 2 ≤ e.sessionLifetime → SetsUp .willing (new 0 ⟨30,3,10⟩ 0) e) ∧
      (∀ lifetime, 2 ≤ lifetime → lifetime ≠ 0 →
        (Recomputes .willing (new 0 ⟨30,3,10⟩ 0) lifetime ↔ lifetime < 2147483648)) ∧
      ∀ e : ApiConfigure, e.sessionLifetime = 0 →
        (PassesAssertion .willing (new 0 ⟨30,3,10⟩ 0) e ↔ (0 : UInt32) ≠ 0) :=
  refresh_before_expiry_iff .willing (new 0 ⟨30,3,10⟩ 0) (by decide)

end NiSession
end Mnslp.Session
