import Mathlib.Init

/-! Deterministic machines whose steps lead to a state or to a result. A run is bounded
by a number of steps; a measure that falls outside of known loops says how many are
enough. -/
namespace Mnslp.Lib

abbrev Machine (σ ρ : Type) := σ → σ ⊕ ρ

namespace Machine
variable {σ ρ : Type} {step : Machine σ ρ}

def run (step : Machine σ ρ) : Nat → σ → Option ρ
  | 0, _ => none
  | fuel + 1, s => match step s with
    | .inl next => run step fuel next
    | .inr result => some result

/-- The state after a number of steps that lead on. -/
def after (step : Machine σ ρ) : Nat → σ → Option σ
  | 0, s => some s
  | count + 1, s => match step s with
    | .inl next => after step count next
    | .inr _ => none

inductive Reaches (step : Machine σ ρ) : σ → σ → Prop
  | refl (s : σ) : Reaches step s s
  | head {s next final : σ} (first : step s = .inl next) (rest : Reaches step next final) : Reaches step s final

def Terminates (step : Machine σ ρ) (s : σ) : Prop := ∃ fuel result, run step fuel s = some result

theorem run_next {s next : σ} (first : step s = .inl next) (fuel : Nat) :
    run step (fuel + 1) s = run step fuel next := by
  rw [run,first]

theorem run_result {s : σ} {result : ρ} (last : step s = .inr result) (fuel : Nat) :
    run step (fuel + 1) s = some result := by
  rw [run,last]

theorem run_more {fuel : Nat} {s : σ} {result : ρ} (ended : run step fuel s = some result) (more : Nat) :
    run step (fuel + more) s = some result := by
  induction fuel generalizing s with
  | zero => cases ended
  | succ fuel ih =>
    rw [Nat.succ_add]
    cases taken : step s with
    | inl next =>
      rw [run_next taken] at ended ⊢
      exact ih ended
    | inr other =>
      rw [run_result taken] at ended ⊢
      exact ended

/-- A machine that goes along with every step of another one, up to a result of it, ends
with it. -/
theorem run_simulates {σ' ρ' : Type} {other : Machine σ' ρ'} {result : ρ} (R : σ → σ' → Prop) (Q : ρ' → Prop)
    (along : ∀ s s' next, R s s' → step s = .inl next → ∃ next', other s' = .inl next' ∧ R next next')
    (last : ∀ s s', R s s' → step s = .inr result → ∃ result', other s' = .inr result' ∧ Q result')
    {fuel : Nat} {s : σ} {s' : σ'} (related : R s s') (ended : run step fuel s = some result) :
    ∃ result', run other fuel s' = some result' ∧ Q result' := by
  induction fuel generalizing s s' with
  | zero => cases ended
  | succ fuel ih =>
    cases taken : step s with
    | inl next =>
      obtain ⟨next',followed,still⟩ := along s s' next related taken
      rw [run_next taken] at ended
      rw [run_next followed]
      exact ih still ended
    | inr final =>
      rw [run_result taken] at ended
      cases ended
      obtain ⟨result',followed,meets⟩ := last s s' related taken
      exact ⟨result',run_result followed fuel,meets⟩

theorem run_unique {fuel other : Nat} {s : σ} {result again : ρ} (ended : run step fuel s = some result)
    (endedAgain : run step other s = some again) : result = again := by
  have first := run_more ended other
  have second := run_more endedAgain fuel
  rw [Nat.add_comm] at second
  exact Option.some.inj (first.symm.trans second)

theorem after_succ {count : Nat} {s final : σ} :
    after step (count + 1) s = some final ↔ ∃ middle, after step count s = some middle ∧ step middle = .inl final := by
  induction count generalizing s with
  | zero =>
    rw [after]
    cases taken : step s with
    | inl next => simp [after,taken]
    | inr result => simp [after,taken]
  | succ count ih =>
    rw [after]
    cases taken : step s with
    | inl next =>
      rw [after,taken]
      exact ih
    | inr result =>
      rw [after,taken]
      simp

namespace Reaches

theorem single {s next : σ} (first : step s = .inl next) : Reaches step s next := .head first (.refl next)

theorem trans {s middle final : σ} (before : Reaches step s middle) (after : Reaches step middle final) :
    Reaches step s final := by
  induction before with
  | refl => exact after
  | head first _ ih => exact .head first (ih after)

theorem of_after {count : Nat} {s final : σ} (ran : after step count s = some final) : Reaches step s final := by
  induction count generalizing s with
  | zero =>
    cases ran
    exact .refl _
  | succ count ih =>
    unfold after at ran
    split at ran
    · rename_i next first
      exact .head first (ih ran)
    · cases ran

theorem after {s final : σ} (reaches : Reaches step s final) : ∃ count, Machine.after step count s = some final := by
  induction reaches with
  | refl => exact ⟨0,rfl⟩
  | head first _ ih =>
    obtain ⟨count,ran⟩ := ih
    exact ⟨count + 1,by rw [Machine.after,first]; exact ran⟩

theorem invariant (Inv : σ → Prop) (keep : ∀ s next, Inv s → step s = .inl next → Inv next) {s final : σ}
    (reaches : Reaches step s final) (start : Inv s) : Inv final := by
  induction reaches with
  | refl => exact start
  | head first _ ih => exact ih (keep _ _ start first)

theorem run {s final : σ} {result : ρ} (reaches : Reaches step s final) (last : step final = .inr result) :
    ∃ fuel, run step fuel s = some result := by
  induction reaches with
  | refl => exact ⟨1,run_result last 0⟩
  | head first _ ih =>
    obtain ⟨fuel,ended⟩ := ih last
    exact ⟨fuel + 1,(run_next first fuel).trans ended⟩

end Reaches

/-- A run that ends also ends from every state on its way. -/
theorem Reaches.run_on {s middle : σ} {fuel : Nat} {result : ρ} (reaches : Reaches step s middle)
    (ended : Machine.run step fuel s = some result) : ∃ fuel, Machine.run step fuel middle = some result := by
  induction reaches generalizing fuel with
  | refl => exact ⟨fuel,ended⟩
  | head first _ ih =>
    cases fuel with
    | zero => cases ended
    | succ fuel =>
      rw [run_next first] at ended
      exact ih ended

theorem reaches_of_run {fuel : Nat} {s : σ} {result : ρ} (ended : run step fuel s = some result) :
    ∃ final, Reaches step s final ∧ step final = .inr result := by
  induction fuel generalizing s with
  | zero => cases ended
  | succ fuel ih =>
    cases taken : step s with
    | inl next =>
      rw [run_next taken] at ended
      obtain ⟨final,reaches,last⟩ := ih ended
      exact ⟨final,.head taken reaches,last⟩
    | inr other =>
      rw [run_result taken] at ended
      exact ⟨s,.refl s,taken.trans (congrArg Sum.inr (Option.some.inj ended))⟩

/-- A set of states that every step stays in holds no state from which a run ends. -/
theorem not_terminates (Loops : σ → Prop) (stays : ∀ s, Loops s → ∃ next, step s = .inl next ∧ Loops next)
    {s loop : σ} (reaches : Reaches step s loop) (inside : Loops loop) : ¬ Terminates step s := by
  have never (fuel : Nat) : ∀ s, Loops s → run step fuel s = none := by
    induction fuel with
    | zero => exact fun _ _ => rfl
    | succ fuel ih =>
      intro s inside
      obtain ⟨next,first,still⟩ := stays s inside
      rw [run_next first]
      exact ih next still
  rintro ⟨fuel,result,ended⟩
  induction reaches generalizing fuel with
  | refl =>
    rw [never fuel _ inside] at ended
    cases ended
  | head first _ ih =>
    cases fuel with
    | zero => cases ended
    | succ fuel =>
      rw [run_next first] at ended
      exact ih inside fuel ended

/-- Where the measure falls in every step outside of the loops, a run that meets no loop
ends within as many steps as the measure says. -/
theorem run_of_measure (Inv Loops : σ → Prop) (measure : σ → Nat)
    (progress : ∀ s next, Inv s → step s = .inl next → Inv next ∧ (measure next < measure s ∨ Loops s))
    {s : σ} (start : Inv s) (free : ∀ loop, Reaches step s loop → ¬ Loops loop) :
    ∃ result, run step (measure s + 1) s = some result := by
  have bounded (fuel : Nat) : ∀ s, Inv s → (∀ loop, Reaches step s loop → ¬ Loops loop) → measure s < fuel →
      ∃ result, run step fuel s = some result := by
    induction fuel with
    | zero => exact fun s _ _ small => absurd small (Nat.not_lt_zero _)
    | succ fuel ih =>
      intro s inv free small
      cases taken : step s with
      | inr result => exact ⟨result,run_result taken fuel⟩
      | inl next =>
        obtain ⟨still,falls⟩ := progress s next inv taken
        have less := falls.resolve_right (free s (.refl s))
        rw [run_next taken]
        exact ih next still (fun loop reaches => free loop (.head taken reaches)) (Nat.lt_of_lt_of_le less (Nat.le_of_lt_succ small))
  exact bounded _ s start free (Nat.lt_succ_self _)

theorem terminates_iff (Inv Loops : σ → Prop) (measure : σ → Nat)
    (progress : ∀ s next, Inv s → step s = .inl next → Inv next ∧ (measure next < measure s ∨ Loops s))
    (stays : ∀ s, Loops s → ∃ next, step s = .inl next ∧ Loops next) {s : σ} (start : Inv s) :
    Terminates step s ↔ ∀ loop, Reaches step s loop → ¬ Loops loop := by
  constructor
  · intro ends loop reaches inside
    exact not_terminates Loops stays reaches inside ends
  · intro free
    obtain ⟨result,ended⟩ := run_of_measure Inv Loops measure progress start free
    exact ⟨_,result,ended⟩

end Machine
end Mnslp.Lib
