import Mnslp.Msg.IpfixMessage

/-! The fields of a template by their positions: those of the scope first, as the header of
`get_field` says. -/
namespace Mnslp.Msg
open Mnslp.Lib Call

/-- A call of `add_scope_field` or `add_data_field`. -/
inductive FieldCall
  | scope (field : IpfixTemplateField)
  | data (field : IpfixTemplateField)

namespace FieldCall

def scope? : FieldCall → Option IpfixTemplateField
  | scope field => some field
  | data _ => none

def data? : FieldCall → Option IpfixTemplateField
  | scope _ => none
  | data field => some field

end FieldCall

namespace IpfixTemplate

def add (templ : IpfixTemplate) : FieldCall → IpfixTemplate
  | .scope field => templ.addScopeField field
  | .data field => templ.addDataField field

/-- `get_field`, whose parameter is an `int`. -/
def getFieldInt (templ : IpfixTemplate) (i : Int) : Call IpfixTemplateField :=
  if i ≥ templ.getNumfields ∨ i < 0 then badArgument "Invalid field number" else templ.getField i.toNat

/-- The positions run through the fields of the scope and then through the data fields. -/
structure Enumerates (templ : IpfixTemplate) (scope data : List IpfixTemplateField) : Prop where
  ofScope (i : Nat) (field : IpfixTemplateField) : scope[i]? = some field → templ.getFieldInt i = .ok field
  ofData (i : Nat) (field : IpfixTemplateField) : data[i]? = some field →
    templ.getFieldInt (scope.length + i : Nat) = .ok field
  outside (i : Int) : i < 0 ∨ (scope.length + data.length : Nat) ≤ i →
    templ.getFieldInt i = badArgument "Invalid field number"

theorem foldl_add (templ : IpfixTemplate) (calls : List FieldCall) : calls.foldl add templ = {templ with
    scopefields := templ.scopefields ++ calls.filterMap FieldCall.scope?
    datafields := templ.datafields ++ calls.filterMap FieldCall.data? } := by
  induction calls generalizing templ with
  | nil => simp
  | cons call rest ih =>
    rw [List.foldl_cons,ih]
    cases call <;> simp [add,addScopeField,addDataField,FieldCall.scope?,FieldCall.data?,List.filterMap_cons]

theorem getFieldInt_inside (templ : IpfixTemplate) {i : Nat} (inside : i < templ.getNumfields) :
    templ.getFieldInt i = templ.getField i := by
  unfold getFieldInt
  rw [if_neg (by omega),Int.toNat_natCast]

theorem getFieldInt_outside (templ : IpfixTemplate) {i : Int} (outside : i < 0 ∨ templ.getNumfields ≤ i) :
    templ.getFieldInt i = badArgument "Invalid field number" := if_pos outside.symm

theorem getField_scope (templ : IpfixTemplate) {i : Nat} {field : IpfixTemplateField}
    (found : templ.scopefields[i]? = some field) : templ.getField i = .ok field := by
  obtain ⟨inside,_⟩ := List.getElem?_eq_some_iff.mp found
  unfold getField getNumfields getNumberScopefields
  rw [if_neg (by omega),if_pos inside,found]

/-- Behind the scope the vector of data fields is read at the position itself. -/
theorem getField_data (templ : IpfixTemplate) {i : Nat} (behind : templ.scopefields.length ≤ i)
    (inside : i < templ.getNumfields) : templ.getField i =
      match templ.datafields[i]? with
      | some field => .ok field
      | none => fault .readBeyondVector := by
  unfold getField getNumberScopefields
  exact (if_neg (Nat.not_le_of_lt inside)).trans (if_neg (Nat.not_lt_of_le behind))

theorem getField_of_oneKind (templ : IpfixTemplate) {i : Nat} {field : IpfixTemplateField}
    (one : templ.scopefields = [] ∨ templ.datafields = [])
    (found : (templ.scopefields ++ templ.datafields)[i]? = some field) : templ.getField i = .ok field := by
  obtain ⟨inside,_⟩ := List.getElem?_eq_some_iff.mp found
  unfold getField getNumfields getNumberScopefields
  rcases one with none | none
  · simp only [none,List.nil_append] at found inside ⊢
    rw [if_neg (by simpa using inside)]
    simp only [List.length_nil,Nat.not_lt_zero,if_false,found]
  · simp only [none,List.append_nil] at found inside ⊢
    rw [if_neg (by simpa using inside),if_pos inside,found]

theorem getField_beyond (templ : IpfixTemplate) (scope : templ.scopefields ≠ []) (data : templ.datafields ≠ []) :
    templ.getField (templ.getNumfields - 1) = fault .readBeyondVector := by
  have count : templ.getNumfields = templ.datafields.length + templ.scopefields.length := rfl
  have some := List.length_pos_of_ne_nil scope
  have others := List.length_pos_of_ne_nil data
  rw [templ.getField_data (by omega) (by omega),List.getElem?_eq_none (by omega)]

theorem forall₂_range {list : List IpfixTemplateField} {f : Nat → Call IpfixTemplateField}
    (each : ∀ i field, list[i]? = some field → f i = .ok field) :
    List.Forall₂ (fun i field => f i = .ok field) (List.range list.length) list := by
  refine List.forall₂_iff_get.mpr ⟨List.length_range,fun i inside last => ?_⟩
  simp only [List.get_eq_getElem,List.getElem_range]
  exact each i _ (List.getElem?_eq_getElem last)

/-- All fields can be read when they are of one kind. -/
theorem fields_of_oneKind (templ : IpfixTemplate) (one : templ.scopefields = [] ∨ templ.datafields = []) :
    templ.fields = .ok (templ.scopefields ++ templ.datafields) := by
  have count : templ.getNumfields = (templ.scopefields ++ templ.datafields).length := by
    rw [List.length_append,Nat.add_comm]
    rfl
  unfold fields
  rw [mapM_eq_ok,count]
  exact forall₂_range fun i field found => templ.getField_of_oneKind one found

theorem oneKind_of_fields {templ : IpfixTemplate} {fields : List IpfixTemplateField} (read : templ.fields = .ok fields) :
    templ.scopefields = [] ∨ templ.datafields = [] := by
  by_contra both
  rw [not_or] at both
  have some := List.length_pos_of_ne_nil both.1
  have each := mapM_eq_ok.mp read
  have last : templ.getNumfields - 1 ∈ List.range templ.getNumfields := by
    have count : templ.getNumfields = templ.datafields.length + templ.scopefields.length := rfl
    rw [List.mem_range]
    omega
  obtain ⟨field,_,found⟩ := partner_of_mem each last
  rw [templ.getField_beyond both.1 both.2] at found
  cases found

theorem enumerates_fields_iff (templ : IpfixTemplate) : templ.Enumerates templ.scopefields templ.datafields ↔
    templ.scopefields = [] ∨ templ.datafields = [] := by
  have count : templ.getNumfields = templ.datafields.length + templ.scopefields.length := rfl
  constructor
  · intro enumerates
    by_contra both
    rw [not_or] at both
    have scope := List.length_pos_of_ne_nil both.1
    have data := List.length_pos_of_ne_nil both.2
    have last : templ.datafields.length - 1 < templ.datafields.length := by omega
    have found := enumerates.ofData _ _ (List.getElem?_eq_getElem last)
    have beyond : templ.datafields[templ.scopefields.length + (templ.datafields.length - 1)]? = none :=
      List.getElem?_eq_none (by omega)
    rw [templ.getFieldInt_inside (by omega),templ.getField_data (by omega) (by omega),beyond] at found
    cases found
  · intro one
    constructor
    · intro i field found
      obtain ⟨inside,_⟩ := List.getElem?_eq_some_iff.mp found
      rw [templ.getFieldInt_inside (by omega),templ.getField_scope found]
    · intro i field found
      obtain ⟨inside,_⟩ := List.getElem?_eq_some_iff.mp found
      have none : templ.scopefields = [] := one.resolve_right (List.ne_nil_of_length_pos (by omega))
      rw [none,List.length_nil,Nat.zero_add,templ.getFieldInt_inside (by omega),
        templ.getField_data (by simp [none]) (by omega),found]
    · intro i outside
      rw [Nat.add_comm,← count] at outside
      exact templ.getFieldInt_outside outside

/-- With fields of both kinds the last data fields are looked for beyond their vector. -/
theorem enumerates_iff (type : IpfixTemplType) (tid : UInt16) (maxfields : Nat) (calls : List FieldCall) :
    (calls.foldl add {type := type, tid := tid, maxfields := maxfields}).Enumerates (calls.filterMap FieldCall.scope?)
        (calls.filterMap FieldCall.data?) ↔
      calls.filterMap FieldCall.scope? = [] ∨ calls.filterMap FieldCall.data? = [] := by
  rw [foldl_add]
  exact enumerates_fields_iff _

/-- One field of the scope and one data field. -/
theorem not_enumerates : ¬ ∀ (type : IpfixTemplType) (tid : UInt16) (maxfields : Nat) (calls : List FieldCall),
    (calls.foldl add {type := type, tid := tid, maxfields := maxfields}).Enumerates (calls.filterMap FieldCall.scope?)
      (calls.filterMap FieldCall.data?) := by
  intro always
  have found := (always .optionTemplate 256 2 [.scope ⟨4,.known,true,⟨0,8,4,.ipaddr⟩⟩,.data ⟨8,.known,true,⟨0,1,8,.uint⟩⟩]).ofData 0 _ rfl
  cases found

end IpfixTemplate
end Mnslp.Msg
