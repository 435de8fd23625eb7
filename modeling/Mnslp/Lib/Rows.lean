import Mathlib.Data.List.Basic

/-! Values that come in rows of equal copies, as requests do that are sent again until they
are answered. A row has an index, a bounded length and one value. -/
namespace Mnslp.Lib

variable {α κ : Type}

/-- A length and a value for each row. -/
def flatten (rows : List (Nat × α)) : List α := rows.flatMap fun row => List.replicate row.1 row.2

@[simp] theorem flatten_nil : flatten ([] : List (Nat × α)) = [] := rfl

@[simp] theorem flatten_append (first rest : List (Nat × α)) : flatten (first ++ rest) = flatten first ++ flatten rest :=
  List.flatMap_append

@[simp] theorem flatten_singleton (row : Nat × α) : flatten [row] = List.replicate row.1 row.2 :=
  List.flatMap_singleton ..

/-- The rows that the values make up, with what holds of a value by the index of its row. -/
structure InRows (bound : Nat) (P : Nat → α → Prop) (values : List α) (rows : List (Nat × α)) : Prop where
  values : flatten rows = values
  sizes : ∀ row ∈ rows, 0 < row.1 ∧ row.1 ≤ bound
  each : ∀ k row, rows[k]? = some row → P k row.2

namespace InRows
variable {bound : Nat} {P : Nat → α → Prop} {values : List α} {rows : List (Nat × α)}

theorem nil : InRows bound P [] [] where
  values := rfl
  sizes := by simp
  each := by simp

/-- A place of a longer list is one of the list itself, or the last one. -/
private theorem getElem?_concat {row last : Nat × α} {k : Nat} (found : (rows ++ [last])[k]? = some row) :
    rows[k]? = some row ∨ (k = rows.length ∧ row = last) := by
  rcases Nat.lt_or_ge k rows.length with inside | outside
  · rw [List.getElem?_append_left inside] at found
    exact .inl found
  · rw [List.getElem?_append_right outside,List.getElem?_singleton] at found
    split at found
    · cases found
      exact .inr ⟨by omega,rfl⟩
    · cases found

/-- A new value starts a row. -/
theorem concat (inRows : InRows bound P values rows) {a : α} (positive : 0 < bound) (own : P rows.length a) :
    InRows bound P (values ++ [a]) (rows ++ [(1,a)]) where
  values := by simp [inRows.values]
  sizes := by
    intro row member
    rcases List.mem_append.mp member with before | last
    · exact inRows.sizes row before
    · rw [List.mem_singleton.mp last]
      exact ⟨Nat.one_pos,positive⟩
  each := by
    intro k row found
    rcases getElem?_concat found with before | ⟨rfl,rfl⟩
    · exact inRows.each k row before
    · exact own

/-- The last value comes once more. -/
theorem again {n : Nat} {a : α} (inRows : InRows bound P values (rows ++ [(n,a)])) (less : n < bound) :
    InRows bound P (values ++ [a]) (rows ++ [(n + 1,a)]) where
  values := by
    rw [← inRows.values,flatten_append,flatten_append,flatten_singleton,flatten_singleton,List.append_assoc]
    exact congrArg _ List.replicate_succ'
  sizes := by
    intro row member
    rcases List.mem_append.mp member with before | last
    · exact inRows.sizes row (List.mem_append_left _ before)
    · rw [List.mem_singleton.mp last]
      exact ⟨Nat.succ_pos n,less⟩
  each := by
    intro k row found
    rcases getElem?_concat found with before | ⟨rfl,rfl⟩
    · have inside := (List.getElem?_eq_some_iff.mp before).1
      exact inRows.each k row (by rwa [List.getElem?_append_left inside])
    · exact inRows.each rows.length (n,a) List.getElem?_concat_length

theorem mem_flatten {rows : List (Nat × α)} {a : α} (member : a ∈ flatten rows) :
    ∃ (k n : Nat), rows[k]? = some (n,a) := by
  obtain ⟨⟨n,b⟩,inside,copy⟩ := List.mem_flatMap.mp member
  obtain ⟨k,found⟩ := List.getElem?_of_mem inside
  rw [List.eq_of_mem_replicate copy]
  exact ⟨k,n,found⟩

section
variable (inRows : InRows bound P values rows) (key : α → κ)
  (apart : ∀ i j a b, i < rows.length → j < rows.length → P i a → P j b → key a = key b → i = j)
include inRows apart

private theorem index_eq {i j n m : Nat} {a b : α} (first : rows[i]? = some (n,a)) (second : rows[j]? = some (m,b))
    (same : key a = key b) : i = j :=
  apart i j a b (List.getElem?_eq_some_iff.mp first).1 (List.getElem?_eq_some_iff.mp second).1
    (inRows.each i _ first) (inRows.each j _ second) same

/-- Where the key of a value tells its row, values of one key are equal. -/
theorem eq_of_key {a b : α} (first : a ∈ values) (second : b ∈ values) (same : key a = key b) : a = b := by
  rw [← inRows.values] at first second
  obtain ⟨i,n,at'⟩ := mem_flatten first
  obtain ⟨j,m,found⟩ := mem_flatten second
  cases inRows.index_eq key apart at' found same
  rw [at'] at found
  cases found
  rfl

/-- Where the key of a value tells its row, a key comes no more often than a row is long. -/
theorem count_key_le [DecidableEq κ] (k : κ) : (values.filter fun a => key a = k).length ≤ bound := by
  by_cases some' : ∃ a ∈ values, key a = k
  · obtain ⟨a,member,rfl⟩ := some'
    rw [← inRows.values] at member ⊢
    obtain ⟨i,n,found⟩ := mem_flatten member
    obtain ⟨first,rest,split⟩ := List.append_of_mem (List.mem_of_getElem? found)
    have here : rows[first.length]? = some (n,a) := by simp [split]
    have before : (flatten first).filter (fun b => key b = key a) = [] := by
      refine List.filter_eq_nil_iff.mpr fun b inside same => ?_
      obtain ⟨j,m,earlier⟩ := mem_flatten inside
      have below := (List.getElem?_eq_some_iff.mp earlier).1
      have other : rows[j]? = some (m,b) := by rw [split,List.getElem?_append_left below,earlier]
      have equal := inRows.index_eq key apart other here (of_decide_eq_true same)
      omega
    have after : (flatten rest).filter (fun b => key b = key a) = [] := by
      refine List.filter_eq_nil_iff.mpr fun b inside same => ?_
      obtain ⟨j,m,later⟩ := mem_flatten inside
      have other : rows[first.length + 1 + j]? = some (m,b) := by
        rw [split,List.getElem?_append_right (by omega),show first.length + 1 + j - first.length = j + 1 by omega,
          List.getElem?_cons_succ,later]
      have equal := inRows.index_eq key apart other here (of_decide_eq_true same)
      omega
    have whole : flatten rows = flatten first ++ (List.replicate n a ++ flatten rest) := by
      rw [split]
      exact List.flatMap_append
    rw [whole,List.filter_append,List.filter_append,before,after,List.nil_append,List.append_nil]
    calc ((List.replicate n a).filter fun b => key b = key a).length
      _ ≤ (List.replicate n a).length := List.length_filter_le _ _
      _ = n := List.length_replicate
      _ ≤ bound := (inRows.sizes (n,a) (List.mem_of_getElem? found)).2
  · have none : values.filter (fun a => key a = k) = [] :=
      List.filter_eq_nil_iff.mpr fun a member same => some' ⟨a,member,of_decide_eq_true same⟩
    rw [none]
    exact Nat.zero_le bound

end
end InRows
end Mnslp.Lib
