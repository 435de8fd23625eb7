import Mathlib.Data.List.Basic

/-! Runs of a labelled transition system and the two rules that prove invariants of
them: one step keeps the property, hence every run does. -/
namespace Mnslp.Lib

variable {σ ℓ : Type}

inductive Run (step : σ → ℓ → σ → Prop) : σ → List ℓ → σ → Prop
  | nil (s : σ) : Run step s [] s
  | cons {s middle final : σ} {label : ℓ} {labels : List ℓ} (first : step s label middle)
      (rest : Run step middle labels final) : Run step s (label :: labels) final

namespace Run
variable {step : σ → ℓ → σ → Prop}

theorem single {s next : σ} {label : ℓ} (first : step s label next) : Run step s [label] next :=
  .cons first (.nil next)

theorem append {s middle final : σ} {labels more : List ℓ} (first : Run step s labels middle)
    (rest : Run step middle more final) : Run step s (labels ++ more) final := by
  induction first with
  | nil => exact rest
  | cons head _ ih => exact .cons head (ih rest)

/-- The invariant rule. -/
theorem invariant (Inv : σ → Prop) (keep : ∀ s label next, Inv s → step s label next → Inv next)
    {s final : σ} {labels : List ℓ} (run : Run step s labels final) (start : Inv s) : Inv final := by
  induction run with
  | nil => exact start
  | cons head _ ih => exact ih (keep _ _ _ start head)

/-- The invariant rule for properties of the past and the state it led to. -/
theorem history (Inv : List ℓ → σ → Prop)
    (keep : ∀ past s label next, Inv past s → step s label next → Inv (past ++ [label]) next)
    {s final : σ} {labels : List ℓ} (run : Run step s labels final) (start : Inv [] s) : Inv labels final := by
  have onwards : ∀ past, Inv past s → Inv (past ++ labels) final := by
    clear start
    induction run with
    | nil => exact fun past inv => by rwa [List.append_nil]
    | @cons s middle final label labels head _ ih =>
      intro past inv
      have next := ih (past ++ [label]) (keep past s label middle inv head)
      rwa [List.append_assoc,List.singleton_append] at next
  exact onwards [] start

theorem mono {other : σ → ℓ → σ → Prop} (weaker : ∀ s label next, step s label next → other s label next)
    {s final : σ} {labels : List ℓ} (run : Run step s labels final) : Run other s labels final := by
  induction run with
  | nil => exact .nil _
  | cons head _ ih => exact .cons (weaker _ _ _ head) ih

/-- An invariant says more about every step of a run. -/
theorem mono_of {other : σ → ℓ → σ → Prop} (Inv : σ → Prop)
    (weaker : ∀ s label next, Inv s → step s label next → other s label next ∧ Inv next) {s final : σ}
    {labels : List ℓ} (run : Run step s labels final) (start : Inv s) : Run other s labels final := by
  induction run with
  | nil => exact .nil _
  | cons head _ ih =>
    obtain ⟨taken,inv⟩ := weaker _ _ _ start head
    exact .cons taken (ih inv)

/-- The labels of a run may say more about its steps. -/
theorem mono_mem {other : σ → ℓ → σ → Prop} {s final : σ} {labels : List ℓ} (run : Run step s labels final)
    (weaker : ∀ label ∈ labels, ∀ s next, step s label next → other s label next) : Run other s labels final := by
  induction run with
  | nil => exact .nil _
  | cons head _ ih =>
    refine .cons (weaker _ List.mem_cons_self _ _ head) (ih fun label member => ?_)
    exact weaker label (List.mem_cons_of_mem _ member)

/-- A step with the property was taken on the way from the start along the labels. -/
def Happened (step : σ → ℓ → σ → Prop) (start : σ) (P : σ → ℓ → σ → Prop) (past : List ℓ) : Prop :=
  ∃ earlier label later s next, past = earlier ++ label :: later ∧ Run step start earlier s ∧ step s label next ∧
    P s label next

theorem Happened.append {start : σ} {P : σ → ℓ → σ → Prop} {past : List ℓ} (happened : Happened step start P past)
    (more : List ℓ) : Happened step start P (past ++ more) := by
  obtain ⟨earlier,own,later,s,next,rfl,run,taken,holds⟩ := happened
  exact ⟨earlier,own,later ++ more,s,next,by simp,run,taken,holds⟩

theorem Happened.later {start : σ} {P : σ → ℓ → σ → Prop} {past : List ℓ} (happened : Happened step start P past)
    (label : ℓ) : Happened step start P (past ++ [label]) := happened.append [label]

theorem Happened.mono {start : σ} {P Q : σ → ℓ → σ → Prop} {past : List ℓ} (happened : Happened step start P past)
    (weaker : ∀ s label next, P s label next → Q s label next) : Happened step start Q past := by
  obtain ⟨earlier,own,later,s,next,same,run,taken,holds⟩ := happened
  exact ⟨earlier,own,later,s,next,same,run,taken,weaker _ _ _ holds⟩

theorem not_happened_nil {start : σ} {P : σ → ℓ → σ → Prop} : ¬ Happened step start P [] := by
  intro ⟨earlier,own,later,_,_,same,_⟩
  cases earlier <;> cases same

/-- Where a step leaves no choice, a run ends in one state. -/
theorem unique (functional : ∀ s label a b, step s label a → step s label b → a = b) {s a b : σ} {labels : List ℓ}
    (first : Run step s labels a) (second : Run step s labels b) : a = b := by
  induction first with
  | nil =>
    cases second
    rfl
  | cons head _ ih =>
    cases second with
    | cons other rest =>
      cases functional _ _ _ _ head other
      exact ih rest

/-- What happened up to a step happened before it or is the step. -/
theorem happened_concat (functional : ∀ s label a b, step s label a → step s label b → a = b) {start s next : σ}
    {P : σ → ℓ → σ → Prop} {past : List ℓ} {label : ℓ} (run : Run step start past s) (taken : step s label next)
    (happened : Happened step start P (past ++ [label])) : Happened step start P past ∨ P s label next := by
  obtain ⟨earlier,own,later,middle,after,same,before,stepped,holds⟩ := happened
  rcases List.eq_nil_or_concat later with rfl | ⟨rest,last,rfl⟩
  · obtain ⟨rfl,one⟩ := List.append_inj' same rfl
    cases one
    cases unique functional run before
    cases functional _ _ _ _ taken stepped
    exact .inr holds
  · rw [List.concat_eq_append,← List.cons_append,← List.append_assoc] at same
    obtain ⟨rfl,_⟩ := List.append_inj' same rfl
    exact .inl ⟨earlier,own,rest,middle,after,rfl,before,stepped,holds⟩

end Run
end Mnslp.Lib
