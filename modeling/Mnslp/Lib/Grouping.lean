import Mathlib.Algebra.Order.BigOperators.Group.List
import Mathlib.Algebra.Order.Ring.Nat
import Mathlib.Data.List.Nodup
import Mathlib.Data.List.Perm.Basic

/-! Values that are put into the groups they name, one group for each name, and sums that agree. -/
namespace Mnslp.Lib

variable {α β κ : Type} [DecidableEq κ]

theorem flatMap_ite (p : β → Prop) [DecidablePred p] (f : β → α) (values : List β) :
    (values.flatMap fun b => if p b then [f b] else []) = (values.filter fun b => decide (p b)).map f := by
  induction values with
  | nil => rfl
  | cons b rest ih =>
    rw [List.flatMap_cons,List.filter_cons,ih]
    by_cases own : p b
    · rw [if_pos own,decide_eq_true own,if_pos rfl]
      rfl
    · rw [if_neg own,decide_eq_false own,if_neg Bool.false_ne_true]
      rfl

/-- Going through the groups finds the same pairs as going through the values, when no two
groups have one name. -/
theorem perm_flatMap_filter (key : α → κ) (name : β → κ) {groups : List α} (distinct : (groups.map key).Nodup)
    (values : List β) :
    (groups.flatMap fun a => (values.filter fun b => decide (name b = key a)).map (Prod.mk a)).Perm
      (values.flatMap fun b => (groups.find? fun a => decide (key a = name b)).toList.map (·,b)) := by
  induction groups with
  | nil => simp
  | cons group rest ih =>
    obtain ⟨absent,distinct⟩ := List.nodup_cons.mp distinct
    have split (b : β) : ((group :: rest).find? fun a => decide (key a = name b)).toList.map (·,b) =
        (if name b = key group then [(group,b)] else []) ++
          (rest.find? fun a => decide (key a = name b)).toList.map (·,b) := by
      rw [List.find?_cons]
      by_cases own : key group = name b
      · have none : (rest.find? fun a => decide (key a = name b)) = none := by
          rw [List.find?_eq_none]
          intro other member same
          exact absent (List.mem_map.mpr ⟨other,member,(of_decide_eq_true same).trans own.symm⟩)
        rw [none,decide_eq_true own,if_pos own.symm]
        rfl
      · rw [decide_eq_false own,if_neg fun same => own same.symm]
        rfl
    rw [List.flatMap_cons]
    simp only [split]
    refine List.Perm.trans ?_ (List.flatMap_append_perm _ _ _)
    rw [flatMap_ite (fun b => name b = key group)]
    exact (ih distinct).append_left _

/-- In whatever order they stand, the one with a name is found. -/
theorem find?_perm (key : α → κ) {groups others : List α} (distinct : (groups.map key).Nodup) (perm : groups.Perm others)
    (name : κ) : groups.find? (fun a => decide (key a = name)) = others.find? fun a => decide (key a = name) := by
  cases found : others.find? (fun a => decide (key a = name)) with
  | none => exact List.find?_eq_none.mpr fun a member => List.find?_eq_none.mp found a (perm.mem_iff.mp member)
  | some a =>
    have member := perm.mem_iff.mpr (List.mem_of_find?_eq_some found)
    have named := List.find?_some found
    rw [decide_eq_true_eq] at named
    cases other : groups.find? (fun a => decide (key a = name)) with
    | none => exact absurd (decide_eq_true named) (List.find?_eq_none.mp other a member)
    | some b =>
      have same := List.find?_some other
      rw [decide_eq_true_eq] at same
      rw [List.inj_on_of_nodup_map distinct (List.mem_of_find?_eq_some other) member (same.trans named.symm)]

/-- Sums of smaller values are equal only if the values are. -/
theorem eq_of_sum_eq {l : List α} {f g : α → Nat} (le : ∀ a ∈ l, f a ≤ g a)
    (same : (l.map g).sum ≤ (l.map f).sum) : ∀ a ∈ l, f a = g a := by
  induction l with
  | nil => exact fun _ none => absurd none List.not_mem_nil
  | cons head rest ih =>
    obtain ⟨here,others⟩ := List.forall_mem_cons.mp le
    have below := List.sum_le_sum others
    rw [List.map_cons,List.map_cons,List.sum_cons,List.sum_cons] at same
    have first := Nat.le_of_add_le_add_right (same.trans (Nat.add_le_add_left below (f head)))
    have rests := Nat.le_of_add_le_add_left (same.trans (Nat.add_le_add_right here (rest.map f).sum))
    exact List.forall_mem_cons.mpr ⟨Nat.le_antisymm here first,ih others rests⟩

end Mnslp.Lib
