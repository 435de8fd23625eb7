import Mnslp.Lib.Run

/-! Systems whose state has one component for each key, where a step belongs to at most one
key. A run is seen from each key as a run of its component, and runs of the components make
up a run of the whole in any order that keeps the steps of each key in theirs. -/
namespace Mnslp.Lib
variable {σ ℓ κ α : Type}

/-- The labels of a run that belong to a key, as its component sees them. -/
inductive Share (step : σ → ℓ → σ → Prop) (owner : σ → ℓ → Option κ) (seen : ℓ → ℓ) (key : κ) :
    σ → List ℓ → List ℓ → σ → Prop
  | nil (s : σ) : Share step owner seen key s [] [] s
  | own {s middle final : σ} {label : ℓ} {labels mine : List ℓ} (first : step s label middle)
      (owned : owner s label = some key) (rest : Share step owner seen key middle labels mine final) :
      Share step owner seen key s (label :: labels) (seen label :: mine) final
  | other {s middle final : σ} {label : ℓ} {labels mine : List ℓ} (first : step s label middle)
      (foreign : owner s label ≠ some key) (rest : Share step owner seen key middle labels mine final) :
      Share step owner seen key s (label :: labels) mine final

namespace Share
variable {step : σ → ℓ → σ → Prop} {owner : σ → ℓ → Option κ} {seen : ℓ → ℓ} {key : κ}

theorem run {s final : σ} {labels mine : List ℓ} (share : Share step owner seen key s labels mine final) :
    Run step s labels final := by
  induction share with
  | nil => exact .nil _
  | own first _ _ ih => exact .cons first ih
  | other first _ _ ih => exact .cons first ih

theorem of_run {s final : σ} {labels : List ℓ} (run : Run step s labels final) :
    ∃ mine, Share step owner seen key s labels mine final := by
  classical
  induction run with
  | nil => exact ⟨[],.nil _⟩
  | @cons s middle final label labels first _ ih =>
    obtain ⟨mine,share⟩ := ih
    by_cases owned : owner s label = some key
    · exact ⟨seen label :: mine,.own first owned share⟩
    · exact ⟨mine,.other first owned share⟩

/-- The component goes along with the steps of its key and does not see the others. -/
theorem component (view : σ → α) (own : α → ℓ → α → Prop) (Inv : σ → Prop)
    (keep : ∀ s label next, Inv s → step s label next → Inv next)
    (local' : ∀ s label next, Inv s → step s label next → owner s label = some key →
      own (view s) (seen label) (view next))
    (frame : ∀ s label next, Inv s → step s label next → owner s label ≠ some key → view next = view s)
    {s final : σ} {labels mine : List ℓ} (share : Share step owner seen key s labels mine final) (start : Inv s) :
    Run own (view s) mine (view final) := by
  induction share with
  | nil => exact .nil _
  | own first owned _ ih => exact .cons (local' _ _ _ start first owned) (ih (keep _ _ _ start first))
  | other first foreign _ ih =>
    rw [← frame _ _ _ start first foreign]
    exact ih (keep _ _ _ start first)

/-- Where the owner of a label does not depend on the state, the labels of a key are those with it as owner. -/
theorem eq_filter [DecidableEq κ] {named : ℓ → Option κ} {s final : σ} {labels mine : List ℓ}
    (share : Share step (fun _ label => named label) id key s labels mine final) :
    mine = labels.filter fun label => named label = some key := by
  induction share with
  | nil => rfl
  | own _ owned _ ih =>
    rw [List.filter_cons_of_pos (by simpa using owned),← ih]
    rfl
  | other _ foreign _ ih =>
    rw [List.filter_cons_of_neg (by simpa using foreign),ih]

end Share

namespace Run
variable [DecidableEq κ] {step : σ → ℓ → σ → Prop} {own : κ → α → ℓ → α → Prop}

theorem step_of_mem {s final : σ} {labels : List ℓ} (run : Run step s labels final) {label : ℓ} (member : label ∈ labels) :
    ∃ before after, step before label after := by
  induction run with
  | nil => cases member
  | cons first _ ih =>
    rcases List.mem_cons.mp member with rfl | later
    · exact ⟨_,_,first⟩
    · exact ih later

theorem eq_of_nil {step : α → ℓ → α → Prop} {a final : α} (run : Run step a [] final) : a = final := by
  cases run
  rfl

/-- Runs of the components, one for each key, are a run of the whole. -/
theorem assemble (named : ℓ → Option κ) (view : σ → κ → α) (Inv : σ → Prop) (keep : ∀ s label next, Inv s → step s label next → Inv next)
    (owned : ∀ s label key a, Inv s → named label = some key → own key (view s key) label a →
      ∃ next, step s label next ∧ view next key = a ∧ ∀ other, other ≠ key → view next other = view s other)
    {labels : List ℓ} (ownerless : ∀ label ∈ labels, named label = none → ∀ s, Inv s → step s label s)
    {s : σ} (start : Inv s) {target : κ → α}
    (components : ∀ key, Run (own key) (view s key) (labels.filter fun label => named label = some key) (target key)) :
    ∃ final, Run step s labels final ∧ view final = target := by
  induction labels generalizing s with
  | nil =>
    exact ⟨s,.nil s,funext fun key => eq_of_nil (components key)⟩
  | cons label labels ih =>
    have later (l : ℓ) (member : l ∈ labels) := ownerless l (List.mem_cons_of_mem _ member)
    cases owner : named label with
    | none =>
      have first := ownerless label List.mem_cons_self owner s start
      have same (key : κ) : (label :: labels).filter (fun label => named label = some key) =
          labels.filter fun label => named label = some key := List.filter_cons_of_neg (by simp [owner])
      obtain ⟨final,rest,ends⟩ := ih later start (fun key => same key ▸ components key)
      exact ⟨final,.cons first rest,ends⟩
    | some key =>
      have mine := components key
      rw [List.filter_cons_of_pos (by simpa using owner)] at mine
      cases mine with
      | @cons _ a _ _ _ head tail =>
        obtain ⟨next,first,moved,others⟩ := owned s label key a start owner head
        have onwards (other : κ) :
            Run (own other) (view next other) (labels.filter fun label => named label = some other) (target other) := by
          by_cases same : other = key
          · subst same
            rw [moved]
            exact tail
          · rw [others other same]
            have foreign := components other
            rwa [List.filter_cons_of_neg (by simp [owner,Ne.symm same])] at foreign
        obtain ⟨final,rest,ends⟩ := ih later (keep _ _ _ start first) onwards
        exact ⟨final,.cons first rest,ends⟩

end Run
end Mnslp.Lib
