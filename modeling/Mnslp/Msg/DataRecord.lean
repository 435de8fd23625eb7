import Mathlib.Tactic.Ring
import Mnslp.Msg.IpfixTemplate

/-! The fields of a data record, with the comparison of their keys as the language defines
it: an addition or multiplication of `int` that does not fit has no result. -/
namespace Mnslp.Msg
open Mnslp.Lib Call

namespace IpfixFieldKey

/-- `eno*(1000) + ftype` -/
def sum (key : IpfixFieldKey) : Int := key.eno * 1000 + key.ftype

/-- The product and the sum are values of an `int`. -/
def Fits (key : IpfixFieldKey) : Prop :=
  (-2^31 ≤ key.eno * 1000 ∧ key.eno * 1000 < 2^31) ∧ -2^31 ≤ key.sum ∧ key.sum < 2^31

instance (key : IpfixFieldKey) : Decidable key.Fits := by
  unfold Fits
  infer_instance

theorem Fits.rank {key : IpfixFieldKey} (fits : key.Fits) : Ranked.rank key = key.sum := by
  obtain ⟨_,low,high⟩ := fits
  change key.sum.bmod (2^32) = key.sum
  apply Int.bmod_eq_of_le <;> omega

end IpfixFieldKey

namespace IpfixDataRecord

/-- A search compares the key with the root of the tree and maybe with others. Every key that
was not the first has been compared before, so that one that does not fit is alone. -/
def compareKeys (record : IpfixDataRecord) (key : IpfixFieldKey) : Call Unit :=
  if record.fieldData.keys = [] ∨ (key.Fits ∧ ∀ stored ∈ record.fieldData.keys, stored.Fits) then .ok ()
  else Call.fault .signedOverflow

def insertFieldChecked (record : IpfixDataRecord) (key : IpfixFieldKey) (value : IpfixValueField) :
    Call IpfixDataRecord := do
  record.compareKeys key
  return record.insertField key value

def getFieldChecked (record : IpfixDataRecord) (key : IpfixFieldKey) : Call IpfixValueField := do
  record.compareKeys key
  record.getField key

def insertFields (templateId : UInt16) (calls : List (IpfixFieldKey × IpfixValueField)) : Call IpfixDataRecord :=
  calls.foldlM (fun record call => record.insertFieldChecked call.1 call.2) (new templateId)

/-- What a map would answer: the value that was given for the key. -/
def expected (calls : List (IpfixFieldKey × IpfixValueField)) (probe : IpfixFieldKey) : Call IpfixValueField :=
  match calls.find? fun call => call.1 = probe with
  | some call => .ok call.2.copy
  | none => Call.badArgument "Parameter field was not found"

/-- The record has as many fields as were put into it, and finds under a key what was put there. -/
def KeepsFields (templateId : UInt16) (calls : List (IpfixFieldKey × IpfixValueField)) (probe : IpfixFieldKey) : Prop :=
  ∃ record, insertFields templateId calls = .ok record ∧ record.getNumFields = calls.length ∧
    record.getFieldChecked probe = expected calls probe

/-- No comparison overflows, and different keys have different sums. -/
def Separated (keys : List IpfixFieldKey) : Prop :=
  (∀ key ∈ keys, key.Fits) ∧ ∀ key ∈ keys, ∀ other ∈ keys, key ≠ other → key.sum ≠ other.sum

section
variable {record next : IpfixDataRecord} {key : IpfixFieldKey} {value : IpfixValueField}
  {calls : List (IpfixFieldKey × IpfixValueField)}

theorem compareKeys_eq_ok {done : Unit} : record.compareKeys key = .ok done ↔
    record.fieldData.keys = [] ∨ (key.Fits ∧ ∀ stored ∈ record.fieldData.keys, stored.Fits) := by
  unfold compareKeys
  split
  · rename_i fits
    exact iff_of_true rfl fits
  · rename_i overflows
    refine iff_of_false ?_ overflows
    intro ended
    cases ended

theorem insertFieldChecked_eq_ok : record.insertFieldChecked key value = .ok next ↔
    (record.fieldData.keys = [] ∨ (key.Fits ∧ ∀ stored ∈ record.fieldData.keys, stored.Fits)) ∧
      next = record.insertField key value := by
  rw [← @compareKeys_eq_ok record key ()]
  unfold insertFieldChecked
  constructor
  · intro ended
    obtain ⟨_,compared,ended⟩ := bind_eq_ok.mp ended
    cases ended
    exact ⟨compared,rfl⟩
  · rintro ⟨compared,rfl⟩
    exact bind_eq_ok.mpr ⟨_,compared,rfl⟩

theorem insertField_absent (absent : record.fieldData.find key = none) :
    (record.insertField key value).fieldData.keys.Perm (key :: record.fieldData.keys) :=
  (OrderedMap.perm_place_of_absent _ _ _ _ record.fieldData.increasing absent).map Prod.fst

/-- A record that has a field for each of some calls has the keys of these calls. -/
structure Stores (record : IpfixDataRecord) (calls : List (IpfixFieldKey × IpfixValueField)) : Prop where
  keys : record.fieldData.keys.Perm (calls.map Prod.fst)
  values : ∀ probe, (∀ call ∈ calls, call.1 ≠ probe → Ranked.rank call.1 ≠ Ranked.rank probe) →
    record.fieldData.find probe = (calls.find? fun call => call.1 = probe).map fun call => call.2.copy

theorem Stores.insert (stores : record.Stores calls) (fresh : ∀ call ∈ calls, Ranked.rank call.1 ≠ Ranked.rank key) :
    (record.insertField key value).Stores (calls ++ [(key,value)]) := by
  have missing : calls.find? (fun call => call.1 = key) = none := by
    apply List.find?_eq_none.mpr
    intro call member same
    exact fresh call member (congrArg Ranked.rank (of_decide_eq_true same))
  have absent : record.fieldData.find key = none := by
    rw [stores.values key fun call member _ => fresh call member,missing]
    rfl
  constructor
  · rw [List.map_append]
    exact (insertField_absent absent).trans ((stores.keys.cons key).trans (List.perm_append_singleton key _).symm)
  · intro probe separate
    have before := stores.values probe fun call member => separate call (List.mem_append_left _ member)
    rw [List.find?_append]
    by_cases own : key = probe
    · subst own
      rw [missing]
      have found := OrderedMap.find_insert_self_of_absent record.fieldData key key value.copy absent rfl
      simpa [insertField] using found
    · have different := separate (key,value) (List.mem_append_right _ List.mem_cons_self) own
      have kept := OrderedMap.find_insert_other record.fieldData key probe value.copy (Ne.symm different)
      rw [List.find?_cons,decide_eq_false own,List.find?_nil,Option.or_none,← before]
      exact kept

theorem stores_new (templateId : UInt16) : (new templateId).Stores [] := ⟨.refl _,fun _ _ => rfl⟩

theorem insertFields_separated {done rest : List (IpfixFieldKey × IpfixValueField)} (stores : record.Stores done)
    (distinct : ((done ++ rest).map Prod.fst).Nodup) (separated : Separated ((done ++ rest).map Prod.fst)) :
    ∃ final, rest.foldlM (fun record call => record.insertFieldChecked call.1 call.2) record = .ok final ∧
      final.Stores (done ++ rest) := by
  induction rest generalizing record done with
  | nil => exact ⟨record,rfl,by rwa [List.append_nil]⟩
  | cons call rest ih =>
    have known {key : IpfixFieldKey} (member : key = call.1 ∨ key ∈ done.map Prod.fst) :
        key ∈ (done ++ call :: rest).map Prod.fst := by
      rw [List.map_append,List.mem_append,List.map_cons]
      rcases member with rfl | inside
      · exact .inr List.mem_cons_self
      · exact .inl inside
    have fits : call.1.Fits := separated.1 _ (known (.inl rfl))
    have stored : ∀ key ∈ record.fieldData.keys, key.Fits := fun key member =>
      separated.1 key (known (.inr (stores.keys.mem_iff.mp member)))
    have fresh : ∀ old ∈ done, Ranked.rank old.1 ≠ Ranked.rank call.1 := by
      intro old member
      have inside : old.1 ∈ done.map Prod.fst := List.mem_map_of_mem member
      rw [(separated.1 _ (known (.inr inside))).rank,fits.rank]
      apply separated.2 _ (known (.inr inside)) _ (known (.inl rfl))
      intro same
      rw [List.map_append,List.map_cons] at distinct
      exact (List.nodup_append.mp distinct).2.2 _ inside _ List.mem_cons_self same
    have whole : done ++ call :: rest = (done ++ [(call.1,call.2)]) ++ rest := List.append_cons _ _ _
    rw [whole] at distinct separated ⊢
    obtain ⟨final,ended,complete⟩ := ih (stores.insert fresh) distinct separated
    rw [List.foldlM_cons]
    exact ⟨final,bind_eq_ok.mpr ⟨_,insertFieldChecked_eq_ok.mpr ⟨.inr ⟨fits,stored⟩,rfl⟩,ended⟩,complete⟩

/-- A record grows by at most one field in each call, and keeps every key if it always grows. -/
theorem insertFields_keys {final : IpfixDataRecord}
    (ended : calls.foldlM (fun record call => record.insertFieldChecked call.1 call.2) record = .ok final) :
    final.fieldData.keys.length ≤ record.fieldData.keys.length + calls.length ∧
      (final.fieldData.keys.length = record.fieldData.keys.length + calls.length →
        final.fieldData.keys.Perm (calls.map Prod.fst ++ record.fieldData.keys)) := by
  induction calls generalizing record with
  | nil =>
    cases ended
    exact ⟨Nat.le_refl _,fun _ => .refl _⟩
  | cons call rest ih =>
    rw [List.foldlM_cons] at ended
    obtain ⟨next,inserted,ended⟩ := bind_eq_ok.mp ended
    obtain ⟨_,rfl⟩ := insertFieldChecked_eq_ok.mp inserted
    obtain ⟨most,all⟩ := ih ended
    rw [List.length_cons]
    cases found : record.fieldData.find call.1 with
    | some old =>
      have same : (record.insertField call.1 call.2).fieldData = record.fieldData :=
        OrderedMap.insert_of_present _ _ old _ found
      rw [same] at most
      exact ⟨by omega,fun full => by omega⟩
    | none =>
      have keys := @insertField_absent record call.1 call.2 found
      have size := keys.length_eq
      rw [List.length_cons] at size
      refine ⟨by omega,fun full => ?_⟩
      exact (all (by omega)).trans ((keys.append_left _).trans List.perm_middle)

theorem separated_of_keeps {templateId : UInt16} {probe : IpfixFieldKey} (keeps : KeepsFields templateId calls probe) :
    calls = [] ∨ Separated (probe :: calls.map Prod.fst) := by
  obtain ⟨final,ended,count,answer⟩ := keeps
  obtain ⟨_,all⟩ := insertFields_keys ended
  have perm : final.fieldData.keys.Perm (calls.map Prod.fst) := by
    have keys := all (by
      change final.fieldData.size = _ at count
      rw [OrderedMap.keys,List.length_map]
      exact count.trans (Nat.zero_add _).symm)
    rwa [show (new templateId).fieldData.keys = [] from rfl,List.append_nil] at keys
  have searched : final.fieldData.keys = [] ∨ (probe.Fits ∧ ∀ stored ∈ final.fieldData.keys, stored.Fits) := by
    by_contra overflows
    have fault : final.compareKeys probe = Call.fault .signedOverflow := if_neg overflows
    unfold getFieldChecked expected at answer
    rw [fault] at answer
    split at answer <;> cases answer
  rcases searched with empty | ⟨own,stored⟩
  · rw [empty] at perm
    exact .inl (List.map_eq_nil_iff.mp perm.symm.eq_nil)
  · refine .inr ?_
    have compared : final.compareKeys probe = .ok () := if_pos (.inr ⟨own,stored⟩)
    unfold getFieldChecked at answer
    rw [compared,ok_bind] at answer
    have fits : ∀ key ∈ probe :: calls.map Prod.fst, key.Fits :=
      List.forall_mem_cons.mpr ⟨own,fun key member => stored key (perm.mem_iff.mpr member)⟩
    have apart {key other : IpfixFieldKey} (member : key ∈ calls.map Prod.fst) (inside : other ∈ calls.map Prod.fst)
        (different : key ≠ other) : Ranked.rank key ≠ Ranked.rank other :=
      final.fieldData.rank_ne_of_keys (perm.mem_iff.mpr member) (perm.mem_iff.mpr inside) different
    have away {key : IpfixFieldKey} (member : key ∈ calls.map Prod.fst) (different : probe ≠ key) :
        Ranked.rank probe ≠ Ranked.rank key := by
      by_cases there : probe ∈ calls.map Prod.fst
      · exact apart there member different
      · intro same
        obtain ⟨entry,inside,rfl⟩ := List.mem_map.mp (perm.mem_iff.mpr member)
        have found := OrderedMap.find_of_mem final.fieldData entry.1 entry.2 inside
        rw [← OrderedMap.find_congr _ same] at found
        have absent : calls.find? (fun call => call.1 = probe) = none := by
          apply List.find?_eq_none.mpr
          intro call present equal
          exact there (of_decide_eq_true equal ▸ List.mem_map_of_mem present)
        unfold getField expected at answer
        rw [found,absent] at answer
        cases answer
    refine ⟨fits,fun key member other inside different => ?_⟩
    rw [← (fits key member).rank,← (fits other inside).rank]
    rcases List.mem_cons.mp member with rfl | first
    · rcases List.mem_cons.mp inside with rfl | second
      · exact absurd rfl different
      · exact away second different
    · rcases List.mem_cons.mp inside with rfl | second
      · exact (away first (Ne.symm different)).symm
      · exact apart first second different

/-- A record keeps the fields of different keys, and answers for one of them or any other key,
exactly if no comparison overflows and no two of the keys have one sum. -/
theorem fields_kept_iff (templateId : UInt16) (distinct : (calls.map Prod.fst).Nodup) (probe : IpfixFieldKey) :
    KeepsFields templateId calls probe ↔ calls = [] ∨ Separated (probe :: calls.map Prod.fst) := by
  constructor
  · exact separated_of_keeps
  · rintro (rfl | separated)
    · exact ⟨new templateId,rfl,rfl,rfl⟩
    · obtain ⟨fits,sums⟩ := separated
      obtain ⟨own,stored⟩ := List.forall_mem_cons.mp fits
      have others : Separated (calls.map Prod.fst) := ⟨stored,fun key member other inside =>
        sums key (List.mem_cons_of_mem _ member) other (List.mem_cons_of_mem _ inside)⟩
      obtain ⟨final,ended,stores⟩ := insertFields_separated (stores_new templateId) distinct others
      rw [List.nil_append] at stores
      refine ⟨final,ended,?_,?_⟩
      · have length := stores.keys.length_eq
        rwa [OrderedMap.keys,List.length_map,List.length_map] at length
      · have compared : final.compareKeys probe = .ok () :=
          if_pos (.inr ⟨own,fun key member => stored key (stores.keys.mem_iff.mp member)⟩)
        have found := stores.values probe fun call member different => by
          have inside : call.1 ∈ calls.map Prod.fst := List.mem_map_of_mem member
          rw [(stored _ inside).rank,own.rank]
          exact sums _ (List.mem_cons_of_mem _ inside) _ List.mem_cons_self different
        unfold getFieldChecked getField expected
        rw [compared,ok_bind,found]
        cases calls.find? fun call => decide (call.1 = probe) <;> rfl

end

theorem fields_kept_two : KeepsFields 256 [(⟨0,1⟩,{}),(⟨0,2⟩,{})] ⟨0,1⟩ ↔
    ([(⟨0,1⟩,{}),(⟨0,2⟩,{})] : List (IpfixFieldKey × IpfixValueField)) = [] ∨
      Separated [⟨0,1⟩,⟨0,1⟩,⟨0,2⟩] :=
  @fields_kept_iff [(⟨0,1⟩,{}),(⟨0,2⟩,{})] 256 (by decide) ⟨0,1⟩

/-- A standard element and one of enterprise 1, of which the second is dropped. -/
theorem fields_not_kept : ¬ ∀ (templateId : UInt16) (calls : List (IpfixFieldKey × IpfixValueField)) (probe : IpfixFieldKey),
    (calls.map Prod.fst).Nodup → KeepsFields templateId calls probe := by
  intro always
  obtain ⟨record,ended,count,_⟩ := always 256 [(⟨0,1000⟩,{}),(⟨1,0⟩,{})] ⟨1,0⟩ (by decide)
  cases ended
  exact absurd count (by decide)

end IpfixDataRecord
end Mnslp.Msg
