import Mnslp.Installer.FilterCommand
import Mnslp.Lib.Walk
import Mathlib.Data.List.Sort

/-! Looking up a field in the actions of a node, after `policy_action` and
`policy_action_container`: whether there is an action for it, the package that meters it, and
its name in the metering application. -/
namespace Mnslp.Installer
open Mnslp.Lib Mnslp.Msg

/-- The configuration of a metering application. The export interval is not read anywhere. -/
structure MeteringConfig where
  priority : Int := 2^31 - 1
  meteringProcedure : Text := []
  exportProcedure : Text := []
  exportDirectory : Text := []
deriving DecidableEq

structure PolicyActionMapping where
  fields : PolicyFieldMapping := []
  meteringApplication : Text
  meterConfig : Option MeteringConfig := none

def PolicyActionMapping.getPriority (mapping : PolicyActionMapping) : Int :=
  match mapping.meterConfig with
  | some config => config.priority
  | none => 2^31 - 1

structure PolicyAction where
  action : Text
  priority : Int
  actionMappings : Std.TreeMap Text PolicyActionMapping

abbrev PolicyActionContainer := Std.TreeMap Text PolicyAction

/-- The order of pairs of a priority and a name. -/
def Before (first second : Int × Text) : Prop :=
  first.1 < second.1 ∨ (first.1 = second.1 ∧ (compare first.2 second.2).isLE = true)

instance : DecidableRel Before := fun _ _ => inferInstanceAs (Decidable (_ ∨ _))

/-- The priorities are sorted together with the names, which are then found in the map again. -/
def inOrder {ν : Type} (priority : ν → Int) (map : Std.TreeMap Text ν) : List (Text × ν) :=
  map.toList.insertionSort fun entry other => Before (priority entry.2,entry.1) (priority other.2,other.1)

namespace PolicyAction

/-- The loops over the mappings begin with the same sorting. -/
def mappings (action : PolicyAction) : List (Text × PolicyActionMapping) :=
  inOrder PolicyActionMapping.getPriority action.actionMappings

/-- The first mapping for an application, at which two of the lookups stop. -/
def preferred (action : PolicyAction) (app : Text) : Option PolicyActionMapping :=
  (action.mappings.find? fun entry => app = entry.2.meteringApplication).map Prod.snd

def checkFieldAvailability (action : PolicyAction) (app : Text) (field : IpfixFieldType) : Bool :=
  match action.preferred app with
  | some mapping => mapping.fields.checkFieldAvailability field
  | none => false

def getFieldTraslate (action : PolicyAction) (app : Text) (field : IpfixFieldType) : Text :=
  match action.preferred app with
  | some mapping => mapping.fields.getFieldTraslate field
  | none => []

/-- The first mapping for an application that has the field, with its key. -/
def covering (action : PolicyAction) (app : Text) (field : IpfixFieldType) : Option (Text × PolicyActionMapping) :=
  action.mappings.find? fun entry => app = entry.2.meteringApplication ∧ entry.2.fields.checkFieldAvailability field

/-- A pointer to the configuration of a mapping stands for the key of the mapping. -/
def getPackage (action : PolicyAction) (app : Text) (field : IpfixFieldType) : Option (Text × MeteringConfig) :=
  match action.covering app field with
  | some (key,mapping) => mapping.meterConfig.map (key,·)
  | none => none

/-- The action has a mapping for the application that has the field. -/
def Covers (action : PolicyAction) (app : Text) (field : IpfixFieldType) : Prop :=
  ∃ (key : Text) (mapping : PolicyActionMapping), action.actionMappings[key]? = some mapping ∧
    mapping.meteringApplication = app ∧ mapping.fields.checkFieldAvailability field = true

/-- The first mapping for the application has the field. -/
def Leads (action : PolicyAction) (app : Text) (field : IpfixFieldType) : Prop :=
  ∃ mapping, action.preferred app = some mapping ∧ mapping.fields.checkFieldAvailability field = true

/-- The first mapping for the application has a name for the field. -/
def Names (action : PolicyAction) (app : Text) (field : IpfixFieldType) : Prop :=
  ∃ mapping, action.preferred app = some mapping ∧ mapping.fields.getFieldTraslate field ≠ []

/-- The first mapping for the application that has the field has a configuration. -/
def Configured (action : PolicyAction) (app : Text) (field : IpfixFieldType) : Prop :=
  ∃ entry, action.covering app field = some entry ∧ entry.2.meterConfig.isSome

end PolicyAction

namespace PolicyActionContainer

def actions (container : PolicyActionContainer) : List (Text × PolicyAction) := inOrder PolicyAction.priority container

def checkFieldAvailability (container : PolicyActionContainer) (app : Text) (field : IpfixFieldType) : Bool :=
  container.actions.any fun entry => entry.2.checkFieldAvailability app field

/-- The loop that stops at the first name which is not empty. -/
def traslateLoop (app : Text) (field : IpfixFieldType) (valReturn : Text) : List (Text × PolicyAction) → Text
  | [] => valReturn
  | entry :: rest =>
    let valReturn := entry.2.getFieldTraslate app field
    if valReturn.length > 0 then valReturn else traslateLoop app field valReturn rest

def getFieldTraslate (container : PolicyActionContainer) (app : Text) (field : IpfixFieldType) : Text :=
  traslateLoop app field [] container.actions

/-- A pointer to the configuration of a mapping, with the names of the action and the mapping. -/
def getPackage (container : PolicyActionContainer) (app : Text) (field : IpfixFieldType) : Option (Text × Text × MeteringConfig) :=
  container.actions.findSome? fun entry => (entry.2.getPackage app field).map (entry.1,·)

/-- The action is the first one that covers the field, in the order of priorities and names. -/
structure Chooses (container : PolicyActionContainer) (app : Text) (field : IpfixFieldType) (name : Text)
    (action : PolicyAction) : Prop where
  present : container[name]? = some action
  covers : action.Covers app field
  least (other : Text) (another : PolicyAction) : container[other]? = some another → another.Covers app field →
    Before (action.priority,name) (another.priority,other)

/-- A field is available just when there is a package for it, and then the package and the name
are those of the first action that covers it. -/
structure ConsistentLookup (container : PolicyActionContainer) (app : Text) (field : IpfixFieldType) : Prop where
  available : container.checkFieldAvailability app field = true ↔ (container.getPackage app field).isSome
  chosen : (container.getPackage app field).isSome → ∃ name action, container.Chooses app field name action ∧
    (∃ package, action.getPackage app field = some package ∧ container.getPackage app field = some (name,package)) ∧
    container.getFieldTraslate app field = action.getFieldTraslate app field

end PolicyActionContainer

section Order
variable {ν : Type} {priority : ν → Int} {map : Std.TreeMap Text ν}

theorem before_antisymm {first second : Int × Text} (forth : Before first second) (back : Before second first) : first = second := by
  rcases forth with less | ⟨same,below⟩
  · rcases back with greater | ⟨same,_⟩ <;> omega
  · rcases back with greater | ⟨_,above⟩
    · omega
    · exact Prod.ext same (Std.compare_eq_iff_eq.mp (Std.OrientedCmp.isLE_antisymm below above))

private theorem before_total (first second : Int × Text) : Before first second ∨ Before second first := by
  unfold Before
  rcases Int.lt_trichotomy first.1 second.1 with less | same | greater
  · exact .inl (.inl less)
  · by_cases below : (compare first.2 second.2).isLE = true
    · exact .inl (.inr ⟨same,below⟩)
    · exact .inr (.inr ⟨same.symm,Ordering.isLE_of_eq_lt (Std.OrientedCmp.lt_of_not_isLE below)⟩)
  · exact .inr (.inl greater)

private theorem before_trans {first second third : Int × Text} (forth : Before first second) (onwards : Before second third) :
    Before first third := by
  unfold Before at *
  rcases forth with less | ⟨same,below⟩ <;> rcases onwards with less' | ⟨same',below'⟩
  · exact .inl (less.trans less')
  · exact .inl (same' ▸ less)
  · exact .inl (same ▸ less')
  · exact .inr ⟨same.trans same',Std.TransCmp.isLE_trans below below'⟩

theorem mem_inOrder {name : Text} {value : ν} : (name,value) ∈ inOrder priority map ↔ map[name]? = some value := by
  rw [inOrder,List.mem_insertionSort,Std.TreeMap.mem_toList_iff_getElem?_eq_some]

theorem inOrder_sorted : (inOrder priority map).Pairwise fun entry other => Before (priority entry.2,entry.1) (priority other.2,other.1) := by
  have total : Std.Total fun (entry other : Text × ν) => Before (priority entry.2,entry.1) (priority other.2,other.1) :=
    ⟨fun _ _ => before_total _ _⟩
  have trans : IsTrans (Text × ν) fun entry other => Before (priority entry.2,entry.1) (priority other.2,other.1) :=
    ⟨fun _ _ _ => before_trans⟩
  exact List.pairwise_insertionSort _ _

end Order

theorem PolicyFieldMapping.available_of_traslate {mapping : PolicyFieldMapping} {field : IpfixFieldType}
    (named : mapping.getFieldTraslate field ≠ []) : mapping.checkFieldAvailability field = true := by
  unfold getFieldTraslate at named
  unfold checkFieldAvailability
  cases found : mapping.entry field with
  | none =>
    rw [found] at named
    exact absurd rfl named
  | some entry => rfl

namespace PolicyAction
variable {action : PolicyAction} {app : Text} {field : IpfixFieldType}

theorem check_iff : action.checkFieldAvailability app field = true ↔ action.Leads app field := by
  unfold checkFieldAvailability Leads
  cases action.preferred app <;> simp

theorem traslate_iff : action.getFieldTraslate app field ≠ [] ↔ action.Names app field := by
  unfold getFieldTraslate Names
  cases action.preferred app <;> simp

theorem getPackage_iff : (∃ package, action.getPackage app field = some package) ↔ action.Configured app field := by
  unfold getPackage Configured
  cases action.covering app field with
  | none => simp
  | some entry => simp [Option.isSome_iff_exists]

theorem Leads.covers (leads : action.Leads app field) : action.Covers app field := by
  obtain ⟨mapping,first,available⟩ := leads
  obtain ⟨⟨key,value⟩,found,same⟩ := Option.map_eq_some_iff.mp first
  cases same
  have matched := List.find?_some found
  exact ⟨key,_,mem_inOrder.mp (List.mem_of_find?_eq_some found),(of_decide_eq_true matched).symm,available⟩

theorem Names.leads (names : action.Names app field) : action.Leads app field := by
  obtain ⟨mapping,first,named⟩ := names
  exact ⟨mapping,first,PolicyFieldMapping.available_of_traslate named⟩

theorem Configured.covers (configured : action.Configured app field) : action.Covers app field := by
  obtain ⟨entry,found,_⟩ := configured
  have matched := List.find?_some found
  simp only [decide_eq_true_eq] at matched
  exact ⟨entry.1,entry.2,mem_inOrder.mp (List.mem_of_find?_eq_some found),matched.1.symm,matched.2⟩

theorem Covers.configured (covers : action.Covers app field)
    (read : ∀ entry ∈ action.actionMappings.toList, entry.2.meterConfig.isSome) : action.Configured app field := by
  obtain ⟨key,mapping,present,same,available⟩ := covers
  have member : (key,mapping) ∈ action.mappings := mem_inOrder.mpr present
  have first : (action.covering app field).isSome := List.find?_isSome.mpr ⟨_,member,by simp [same,available]⟩
  obtain ⟨entry,found⟩ := Option.isSome_iff_exists.mp first
  have stored := mem_inOrder.mp (List.mem_of_find?_eq_some found)
  exact ⟨entry,found,read entry (Std.TreeMap.mem_toList_iff_getElem?_eq_some.mpr stored)⟩

end PolicyAction

namespace PolicyActionContainer
variable {container : PolicyActionContainer} {app : Text} {field : IpfixFieldType}

theorem check_iff : container.checkFieldAvailability app field = true ↔
    ∃ entry ∈ container.actions, entry.2.Leads app field := by
  unfold checkFieldAvailability
  simp only [List.any_eq_true,PolicyAction.check_iff]

theorem getPackage_iff : (container.getPackage app field).isSome ↔
    ∃ entry ∈ container.actions, entry.2.Configured app field := by
  rw [getPackage,List.findSome?_isSome_iff]
  refine exists_congr fun entry => and_congr_right fun _ => ?_
  rw [Option.isSome_map,Option.isSome_iff_exists,PolicyAction.getPackage_iff]

theorem traslateLoop_eq_nil (list : List (Text × PolicyAction)) :
    traslateLoop app field [] list = [] ↔ ∀ entry ∈ list, ¬ entry.2.Names app field := by
  induction list with
  | nil => simp [traslateLoop]
  | cons entry rest ih =>
    rw [traslateLoop,List.forall_mem_cons,← PolicyAction.traslate_iff,not_not]
    cases named : entry.2.getFieldTraslate app field with
    | nil => simpa using ih
    | cons first others => simp

/-- The loop gets to the first action with a name. -/
theorem traslateLoop_of_split {before after : List (Text × PolicyAction)} {entry : Text × PolicyAction}
    (none : ∀ other ∈ before, ¬ other.2.Names app field) (names : entry.2.Names app field) :
    traslateLoop app field [] (before ++ entry :: after) = entry.2.getFieldTraslate app field := by
  induction before with
  | nil =>
    have some := List.length_pos_of_ne_nil (PolicyAction.traslate_iff.mpr names)
    exact if_pos some
  | cons head rest ih =>
    obtain ⟨first,others⟩ := List.forall_mem_cons.mp none
    have empty := not_not.mp (mt PolicyAction.traslate_iff.mp first)
    rw [List.cons_append,traslateLoop,empty]
    exact ih others

theorem exists_chooses (covers : ∃ entry ∈ container.actions, entry.2.Covers app field) :
    ∃ before name action after, container.actions = before ++ (name,action) :: after ∧
      container.Chooses app field name action ∧ ∀ entry ∈ before, ¬ entry.2.Covers app field := by
  obtain ⟨before,⟨name,action⟩,after,split,first,none⟩ := exists_first covers
  have sorted : container.actions.Pairwise fun entry other => Before (entry.2.priority,entry.1) (other.2.priority,other.1) :=
    inOrder_sorted
  rw [split] at sorted
  have behind := (List.pairwise_cons.mp (List.pairwise_append.mp sorted).2.1).1
  have member (other : Text) (another : PolicyAction) : (other,another) ∈ container.actions ↔ container[other]? = some another :=
    mem_inOrder
  refine ⟨before,name,action,after,split,⟨(member _ _).mp (split ▸ by simp),first,fun other another present covered => ?_⟩,none⟩
  have inside := (member _ _).mpr present
  rw [split] at inside
  rcases List.mem_append.mp inside with early | late
  · exact absurd covered (none _ early)
  · rcases List.mem_cons.mp late with same | later
    · cases same
      exact .inr ⟨rfl,Std.ReflCmp.isLE_rfl⟩
    · exact behind _ later

theorem Chooses.unique {name other : Text} {action another : PolicyAction} (first : container.Chooses app field name action)
    (second : container.Chooses app field other another) : name = other ∧ action = another := by
  have forth := first.least other another second.present second.covers
  have back := second.least name action first.present first.covers
  have same : name = other := congrArg Prod.snd (before_antisymm forth back)
  refine ⟨same,Option.some.inj ?_⟩
  rw [← first.present,← second.present,same]

/-- The package is the one of the first action with a configuration for the field. -/
theorem getPackage_of_split {before after : List (Text × PolicyAction)} {name : Text} {action : PolicyAction}
    (split : container.actions = before ++ (name,action) :: after)
    (none : ∀ entry ∈ before, ¬ entry.2.Configured app field) {package : Text × MeteringConfig}
    (found : action.getPackage app field = some package) : container.getPackage app field = some (name,package) := by
  have early : before.findSome? (fun entry => (entry.2.getPackage app field).map (entry.1,·)) = Option.none := by
    refine List.findSome?_eq_none_iff.mpr fun entry member => ?_
    cases other : entry.2.getPackage app field with
    | none => rfl
    | some package => exact absurd (PolicyAction.getPackage_iff.mp ⟨package,other⟩) (none entry member)
  rw [getPackage,split,List.findSome?_append,early,Option.none_or,List.findSome?_cons]
  simp only [found,Option.map_some]

private theorem covers_of_leads (leads : ∃ entry ∈ container.actions, entry.2.Leads app field) :
    ∃ entry ∈ container.actions, entry.2.Covers app field := by
  obtain ⟨entry,member,leads⟩ := leads
  exact ⟨entry,member,leads.covers⟩

private theorem traslate_of_split {before after : List (Text × PolicyAction)} {name : Text} {action : PolicyAction}
    (split : container.actions = before ++ (name,action) :: after) (early : ∀ entry ∈ before, ¬ entry.2.Covers app field)
    (named : action.Names app field ∨ ∀ entry ∈ container.actions, ¬ entry.2.Names app field) :
    container.getFieldTraslate app field = action.getFieldTraslate app field := by
  unfold getFieldTraslate
  rcases named with names | none
  · rw [split]
    exact traslateLoop_of_split (fun other member named => early other member named.leads.covers) names
  · have here : (name,action) ∈ container.actions := split ▸ List.mem_append_right _ List.mem_cons_self
    rw [(traslateLoop_eq_nil _).mpr none]
    exact (not_not.mp (mt PolicyAction.traslate_iff.mp (none _ here))).symm

private theorem named_of_traslate {action : PolicyAction}
    (same : container.getFieldTraslate app field = action.getFieldTraslate app field) :
    action.Names app field ∨ ∀ entry ∈ container.actions, ¬ entry.2.Names app field := by
  by_cases names : action.Names app field
  · exact .inl names
  · have empty := not_not.mp (mt PolicyAction.traslate_iff.mp names)
    exact .inr ((traslateLoop_eq_nil _).mp (same.trans empty))

theorem consistentLookup_iff (container : PolicyActionContainer) (app : Text) (field : IpfixFieldType) :
    container.ConsistentLookup app field ↔ ∀ name action, container.Chooses app field name action →
      ((∃ entry ∈ container.actions, entry.2.Leads app field) → action.Configured app field ∧
        (action.Names app field ∨ ∀ entry ∈ container.actions, ¬ entry.2.Names app field)) ∧
      ((∀ entry ∈ container.actions, ¬ entry.2.Leads app field) →
        ∀ entry ∈ container.actions, ¬ entry.2.Configured app field) := by
  constructor
  · intro consistent name action chooses
    refine ⟨fun leads => ?_,fun none entry member configured => ?_⟩
    · obtain ⟨other,another,first,⟨package,found,_⟩,same⟩ :=
        consistent.chosen (consistent.available.mp (check_iff.mpr leads))
      obtain ⟨rfl,rfl⟩ := chooses.unique first
      exact ⟨PolicyAction.getPackage_iff.mp ⟨package,found⟩,named_of_traslate same⟩
    · have some := getPackage_iff.mpr ⟨entry,member,configured⟩
      obtain ⟨other,inside,leads⟩ := check_iff.mp (consistent.available.mpr some)
      exact none other inside leads
  · intro condition
    have chosen (covered : ∃ entry ∈ container.actions, entry.2.Covers app field)
        (leads : ∃ entry ∈ container.actions, entry.2.Leads app field) :
        ∃ name action, container.Chooses app field name action ∧ (∃ package,
          action.getPackage app field = some package ∧ container.getPackage app field = some (name,package)) ∧
          container.getFieldTraslate app field = action.getFieldTraslate app field := by
      obtain ⟨before,name,action,after,split,chooses,early⟩ := exists_chooses covered
      obtain ⟨configured,named⟩ := (condition name action chooses).1 leads
      obtain ⟨package,found⟩ := PolicyAction.getPackage_iff.mpr configured
      exact ⟨name,action,chooses,⟨package,found,getPackage_of_split split
        (fun entry member configured => early entry member configured.covers) found⟩,traslate_of_split split early named⟩
    have leads_of_some (some : (container.getPackage app field).isSome) : ∃ entry ∈ container.actions, entry.2.Leads app field := by
      obtain ⟨entry,member,configured⟩ := getPackage_iff.mp some
      obtain ⟨_,name,action,_,_,chooses,_⟩ := exists_chooses ⟨entry,member,configured.covers⟩
      by_contra none
      exact (condition name action chooses).2 (fun other inside leads => none ⟨other,inside,leads⟩) entry member configured
    refine ⟨check_iff.trans ⟨fun leads => ?_,leads_of_some⟩,fun some => ?_⟩
    · obtain ⟨_,_,_,⟨_,_,found⟩,_⟩ := chosen (covers_of_leads leads) leads
      rw [found]
      rfl
    · have leads := leads_of_some some
      exact chosen (covers_of_leads leads) leads

/-- Two procedures of one application, of which the second one alone has the number of packets. -/
def twoProcedures : PolicyActionContainer :=
  let bandwidth : PolicyActionMapping := {
    meteringApplication := "netmate".toList
    fields := [(⟨0,5⟩,{applicationFieldKey := "IPToS".toList, isExportField := true})]
    meterConfig := some {priority := 1, meteringProcedure := "BandWidth".toList} }
  let count : PolicyActionMapping := {
    meteringApplication := "netmate".toList
    fields := [(⟨0,2⟩,{applicationFieldKey := "packets".toList, isExportField := true})]
    meterConfig := some {priority := 2, meteringProcedure := "Count".toList} }
  let traffic : PolicyAction := {
    action := "traffic".toList
    priority := 1
    actionMappings := Std.TreeMap.ofList [("BandWidth".toList,bandwidth),("Count".toList,count)] }
  Std.TreeMap.ofList [("traffic".toList,traffic)]

/-- There is a package for the field but it is not available. -/
theorem not_consistentLookup : ¬ ∀ (container : PolicyActionContainer) (app : Text) (field : IpfixFieldType),
    container.ConsistentLookup app field := by
  intro always
  have available := (always twoProcedures "netmate".toList ⟨0,2,8,.uint⟩).available
  revert available
  decide

end PolicyActionContainer
end Mnslp.Installer
