import Mnslp.Msg.Printing
import Mnslp.Msg.TemplateFields
import Mathlib.Algebra.Order.BigOperators.Group.List
import Mathlib.Data.List.Dedup
import Std.Data.TreeMap

/-! The filter of the command that installs a rule, after `build_command_filter_fields`. -/
namespace Mnslp.Installer
open Mnslp.Lib Mnslp.Msg

structure ApplicationFieldMapping where
  isConfigurationField : Bool := false
  isFilterField : Bool := false
  isExportField : Bool := false
  applicationFieldKey : Text

/-- The fields in the order in which the code runs through its map. -/
abbrev PolicyFieldMapping := List (IpfixFieldKey × ApplicationFieldMapping)

namespace PolicyFieldMapping

/-- The loop that looks for the key of a field. -/
def entry (mapping : PolicyFieldMapping) (field : IpfixFieldType) : Option ApplicationFieldMapping :=
  (mapping.find? fun entry => field.getFieldKey = entry.1).map Prod.snd

def checkFieldAvailability (mapping : PolicyFieldMapping) (field : IpfixFieldType) : Bool := (mapping.entry field).isSome

def isFilterField (mapping : PolicyFieldMapping) (field : IpfixFieldType) : Bool :=
  match mapping.entry field with
  | some entry => entry.isFilterField
  | none => false

def isExportField (mapping : PolicyFieldMapping) (field : IpfixFieldType) : Bool :=
  match mapping.entry field with
  | some entry => entry.isExportField
  | none => false

def getFieldTraslate (mapping : PolicyFieldMapping) (field : IpfixFieldType) : Text :=
  match mapping.entry field with
  | some entry => entry.applicationFieldKey
  | none => []

end PolicyFieldMapping

abbrev PolicyApplicationConfigurationContainer := List (Text × PolicyFieldMapping)

namespace PolicyApplicationConfigurationContainer

def checkFieldAvailability (applications : PolicyApplicationConfigurationContainer) (app : Text) (field : IpfixFieldType) : Bool :=
  match applications.find? fun entry => app = entry.1 with
  | some entry => entry.2.checkFieldAvailability field
  | none => false

def isFilterField (applications : PolicyApplicationConfigurationContainer) (app : Text) (field : IpfixFieldType) : Bool :=
  match applications.find? fun entry => app = entry.1 with
  | some entry => entry.2.isFilterField field
  | none => false

def isExportField (applications : PolicyApplicationConfigurationContainer) (app : Text) (field : IpfixFieldType) : Bool :=
  match applications.find? fun entry => app = entry.1 with
  | some entry => entry.2.isExportField field
  | none => false

def getFieldTraslate (applications : PolicyApplicationConfigurationContainer) (app : Text) (field : IpfixFieldType) : Text :=
  match applications.find? fun entry => app = entry.1 with
  | some entry => entry.2.getFieldTraslate field
  | none => []

end PolicyApplicationConfigurationContainer

/-- `std::map<std::string,std::string>`, whose `insert` keeps what a name already has. -/
abbrev FilterFields := Std.TreeMap Text Text

/-- The rounds behind the first one; `comma` grows with each of them. -/
def printOtherValues (name comma : Text) : List Text → FilterFields → FilterFields
  | [], filterFields => filterFields
  | value :: values, filterFields =>
    printOtherValues name (comma ++ value) values (filterFields.insertIfNew name (comma ++ value))

def printFilterValues (name : Text) (values : List Text) (filterFields : FilterFields) : FilterFields :=
  match values with
  | [] => filterFields
  | value :: values => printOtherValues name [','] values (filterFields.insertIfNew name value)

section
variable (applications : PolicyApplicationConfigurationContainer) (app : Text)

def filterField (m : MnslpIpfixMessage) (templ : IpfixTemplate) (filterFields : FilterFields) (field : IpfixFieldType) :
    Call FilterFields := do
  if applications.isFilterField app field then
    let values ← m.getFieldDataValues templ field
    return printFilterValues (applications.getFieldTraslate app field) values filterFields
  else return filterFields

/-- The entries of the map as the options of the command. -/
def commandText (entries : List (Text × Text)) : Text :=
  "-r".toList ++ entries.flatMap fun entry => ' ' :: entry.1 ++ '=' :: entry.2

def buildCommandFilterFields (m : MnslpIpfixMessage) (templ : IpfixTemplate) : Call Text := do
  let filterFields ← (List.range templ.getNumfields).foldlM (fun filterFields i => do
    let field ← templ.getField i
    filterField applications app m templ filterFields field.elem) {}
  return commandText filterFields.toList

/-- The different filter fields of a template. -/
def filterFieldsOf (templ : IpfixTemplate) : List IpfixFieldType :=
  (((templ.scopefields ++ templ.datafields).map IpfixTemplateField.elem).filter (applications.isFilterField app ·)).dedup

/-- The command has one entry for each filter field, with all its values. -/
def FilterComplete (m : MnslpIpfixMessage) (templ : IpfixTemplate) (values : IpfixFieldType → List Text) : Prop :=
  ∃ entries, entries.Perm ((filterFieldsOf applications app templ).map fun field =>
      (applications.getFieldTraslate app field,[','].intercalate (values field))) ∧
    buildCommandFilterFields applications app m templ = .ok (commandText entries)

end

theorem getElem?_insertIfNew (filterFields : FilterFields) (name probe value : Text) :
    (filterFields.insertIfNew name value)[probe]? =
      filterFields[probe]?.or (if name = probe then some value else none) := by
  rw [Std.TreeMap.getElem?_insertIfNew]
  simp only [Std.compare_eq_iff_eq,Std.TreeMap.mem_iff_isSome_getElem?]
  by_cases same : name = probe
  · subst same
    cases filterFields[name]? <;> simp
  · simp [same]

/-- The other values change nothing, the name has its first one by then. -/
theorem getElem?_printOtherValues (name probe comma : Text) (values : List Text) {filterFields : FilterFields}
    (present : filterFields[name]?.isSome = true) : (printOtherValues name comma values filterFields)[probe]? = filterFields[probe]? := by
  induction values generalizing comma filterFields with
  | nil => rfl
  | cons value rest ih =>
    have same (probe : Text) : (filterFields.insertIfNew name (comma ++ value))[probe]? = filterFields[probe]? := by
      rw [getElem?_insertIfNew]
      by_cases here : name = probe
      · subst here
        obtain ⟨old,found⟩ := Option.isSome_iff_exists.mp present
        rw [found,Option.some_or]
      · rw [if_neg here,Option.or_none]
    rw [printOtherValues,ih _ (by rw [same]; exact present),same]

theorem getElem?_printFilterValues (name probe : Text) (values : List Text) (filterFields : FilterFields) :
    (printFilterValues name values filterFields)[probe]? =
      filterFields[probe]?.or (if name = probe then values.head? else none) := by
  cases values with
  | nil => simp [printFilterValues]
  | cons value rest =>
    have present : (filterFields.insertIfNew name value)[name]?.isSome = true := by
      rw [getElem?_insertIfNew,if_pos rfl]
      cases filterFields[name]? <;> rfl
    rw [printFilterValues,getElem?_printOtherValues _ _ _ _ present,getElem?_insertIfNew,List.head?_cons]

section
variable {applications : PolicyApplicationConfigurationContainer} {app : Text} {m : MnslpIpfixMessage} {templ : IpfixTemplate}
  {values : IpfixFieldType → List Text}

/-- What the name of a filter field stands for in the command. -/
def firstEntry (applications : PolicyApplicationConfigurationContainer) (app : Text) (values : IpfixFieldType → List Text)
    (field : IpfixFieldType) : Option (Text × Text) :=
  (values field).head?.map fun value => (applications.getFieldTraslate app field,value)

theorem foldlM_filterField {fields : List IpfixFieldType} (filterFields : FilterFields)
    (printed : ∀ field ∈ fields, applications.isFilterField app field = true → m.getFieldDataValues templ field = .ok (values field)) :
    ∃ final, fields.foldlM (filterField applications app m templ) filterFields = .ok final ∧ ∀ probe : Text, final[probe]? =
      filterFields[probe]?.or ((fields.filter (applications.isFilterField app ·)).findSome? fun field =>
        if applications.getFieldTraslate app field = probe then (values field).head? else none) := by
  induction fields generalizing filterFields with
  | nil => exact ⟨filterFields,rfl,fun probe => by simp⟩
  | cons field rest ih =>
    have others := fun other member => printed other (List.mem_cons_of_mem field member)
    rw [List.foldlM_cons,filterField]
    cases filters : applications.isFilterField app field with
    | false =>
      obtain ⟨final,ran,entries⟩ := ih filterFields others
      refine ⟨final,ran,fun probe => ?_⟩
      rw [entries,List.filter_cons_of_neg (by simp [filters])]
    | true =>
      rw [if_pos rfl,printed field List.mem_cons_self filters]
      obtain ⟨final,ran,entries⟩ := ih (printFilterValues (applications.getFieldTraslate app field) (values field) filterFields) others
      refine ⟨final,ran,fun probe => ?_⟩
      rw [entries,getElem?_printFilterValues,List.filter_cons_of_pos filters,List.findSome?_cons,Option.or_assoc]
      congr 1
      cases (if applications.getFieldTraslate app field = probe then (values field).head? else none) <;> rfl

theorem oneKind_of_build {text : Text} (built : buildCommandFilterFields applications app m templ = .ok text) :
    templ.scopefields = [] ∨ templ.datafields = [] := by
  by_contra both
  rw [not_or] at both
  obtain ⟨final,ran,_⟩ := Call.bind_eq_ok.mp built
  have some := List.length_pos_of_ne_nil both.1
  have count : templ.getNumfields = templ.datafields.length + templ.scopefields.length := rfl
  obtain ⟨state,next,round⟩ := Call.round_of_foldlM ran (List.mem_range.mpr (by omega : templ.getNumfields - 1 < templ.getNumfields))
  rw [templ.getField_beyond both.1 both.2] at round
  cases round

/-- The command has the first value of every filter field, if there is one. -/
theorem build_of_oneKind
    (distinct : ∀ field ∈ filterFieldsOf applications app templ, ∀ other ∈ filterFieldsOf applications app templ,
      applications.getFieldTraslate app field = applications.getFieldTraslate app other → field = other)
    (printed : ∀ field ∈ filterFieldsOf applications app templ, m.getFieldDataValues templ field = .ok (values field))
    (one : templ.scopefields = [] ∨ templ.datafields = []) :
    ∃ entries, entries.Perm ((filterFieldsOf applications app templ).filterMap (firstEntry applications app values)) ∧
      buildCommandFilterFields applications app m templ = .ok (commandText entries) := by
  have member (field : IpfixFieldType) : field ∈ filterFieldsOf applications app templ ↔
      field ∈ ((templ.scopefields ++ templ.datafields).map IpfixTemplateField.elem).filter (applications.isFilterField app ·) :=
    List.mem_dedup
  have read := templ.fields_of_oneKind one
  obtain ⟨final,ran,entries⟩ := foldlM_filterField {} fun field inside filters =>
    printed field ((member field).mpr (List.mem_filter.mpr ⟨inside,filters⟩))
  have found (name value : Text) : (name,value) ∈ final.toList ↔
      ∃ field ∈ filterFieldsOf applications app templ, firstEntry applications app values field = some (name,value) := by
    rw [Std.TreeMap.mem_toList_iff_getElem?_eq_some,entries,Std.TreeMap.getElem?_emptyc,Option.none_or]
    constructor
    · intro first
      obtain ⟨field,inside,own⟩ := List.exists_of_findSome?_eq_some first
      refine ⟨field,(member field).mpr inside,?_⟩
      split at own
      · next same => simp [firstEntry,own,same]
      · cases own
    · rintro ⟨field,inside,own⟩
      unfold firstEntry at own
      obtain ⟨first,head,same⟩ := Option.map_eq_some_iff.mp own
      cases same
      cases chosen : (((templ.scopefields ++ templ.datafields).map IpfixTemplateField.elem).filter
          (applications.isFilterField app ·)).findSome? fun other =>
            if applications.getFieldTraslate app other = applications.getFieldTraslate app field then (values other).head? else none with
      | none =>
        have nothing := List.findSome?_eq_none_iff.mp chosen field ((member field).mp inside)
        rw [if_pos rfl,head] at nothing
        cases nothing
      | some other =>
        obtain ⟨field',inside',own'⟩ := List.exists_of_findSome?_eq_some chosen
        split at own'
        · next same =>
          cases distinct field' ((member field').mpr inside') field inside same
          rw [← own',head]
        · cases own'
  refine ⟨final.toList,(List.perm_ext_iff_of_nodup ?_ ?_).mpr fun entry => ?_,?_⟩
  · refine Std.TreeMap.distinct_keys_toList.imp fun differ same => differ ?_
    rw [same]
    exact Std.ReflCmp.compare_self
  · refine List.pairwise_filterMap.mpr ((List.nodup_dedup _).imp_of_mem fun {field other} inside inside' differ entry own entry' own' same => ?_)
    subst same
    obtain ⟨_,_,here⟩ := Option.map_eq_some_iff.mp own
    obtain ⟨_,_,there⟩ := Option.map_eq_some_iff.mp own'
    exact differ (distinct field inside other inside' ((Prod.ext_iff.mp (here.trans there.symm)).1))
  · rw [found,List.mem_filterMap]
  · unfold buildCommandFilterFields
    rw [Call.foldlM_of_mapM read]
    rw [List.foldlM_map] at ran
    rw [ran]
    rfl

/-- As many values as there are records of the template. -/
theorem length_values {field : IpfixFieldType} (printed : m.getFieldDataValues templ field = .ok (values field)) :
    (values field).length = (m.dataList.filter fun record => record.templateId = templ.tid).length :=
  (Call.mapM_eq_ok.mp printed).length_eq.symm

theorem length_commandText (entries : List (Text × Text)) :
    (commandText entries).length = 2 + (entries.map fun entry => entry.1.length + entry.2.length + 2).sum := by
  have start : "-r".toList.length = 2 := rfl
  unfold commandText
  rw [List.length_append,start,List.length_flatMap]
  congr 2
  apply List.map_congr_left
  intro entry _
  simp
  omega

theorem length_of_perm {entries others : List (Text × Text)} (same : entries.Perm others) :
    (commandText entries).length = (commandText others).length := by
  rw [length_commandText,length_commandText,(same.map _).sum_eq]

theorem sum_filterMap {α β : Type} (f : α → Option β) (cost : β → Nat) (list : List α) :
    ((list.filterMap f).map cost).sum = (list.map fun a => (f a).elim 0 cost).sum := by
  induction list with
  | nil => rfl
  | cons a rest ih =>
    rw [List.filterMap_cons,List.map_cons,List.sum_cons,← ih]
    cases f a <;> simp

/-- A name without a value, or with more than the first one, takes more room. -/
theorem length_first_lt (fields : List IpfixFieldType) (some : fields ≠ []) (other : ∀ field ∈ fields, (values field).length ≠ 1) :
    (commandText (fields.filterMap (firstEntry applications app values))).length <
      (commandText (fields.map fun field => (applications.getFieldTraslate app field,[','].intercalate (values field)))).length := by
  rw [length_commandText,length_commandText,sum_filterMap,List.map_map]
  refine Nat.add_lt_add_left (List.sum_lt_sum_of_ne_nil some _ _ fun field inside => ?_) 2
  have count := other field inside
  rw [Function.comp_apply,firstEntry]
  match values field, count with
  | [], _ => exact Nat.succ_pos _
  | [_], single => exact absurd rfl single
  | first :: second :: rest, _ =>
    rw [List.intercalate_cons_cons,List.length_append,List.length_append]
    simp only [List.head?_cons,Option.map_some,Option.elim_some,List.length_singleton]
    omega

/-- The command is complete if there is nothing to filter, or just one record: the map keeps the first value only. -/
theorem filterComplete_iff (applications : PolicyApplicationConfigurationContainer) (app : Text) (m : MnslpIpfixMessage)
    (templ : IpfixTemplate) (values : IpfixFieldType → List Text)
    (distinct : ∀ field ∈ filterFieldsOf applications app templ, ∀ other ∈ filterFieldsOf applications app templ,
      applications.getFieldTraslate app field = applications.getFieldTraslate app other → field = other)
    (printed : ∀ field ∈ filterFieldsOf applications app templ, m.getFieldDataValues templ field = .ok (values field)) :
    FilterComplete applications app m templ values ↔ (templ.scopefields = [] ∨ templ.datafields = []) ∧
      (filterFieldsOf applications app templ = [] ∨
        (m.dataList.filter fun record => record.templateId = templ.tid).length = 1) := by
  constructor
  · rintro ⟨entries,all,built⟩
    have one := oneKind_of_build built
    refine ⟨one,?_⟩
    by_contra neither
    rw [not_or] at neither
    obtain ⟨firsts,perm,again⟩ := build_of_oneKind distinct printed one
    have lengths := congrArg List.length (Except.ok.inj (built.symm.trans again))
    rw [length_of_perm all,length_of_perm perm] at lengths
    refine absurd lengths (Nat.ne_of_gt (length_first_lt _ neither.1 fun field inside => ?_))
    rw [length_values (printed field inside)]
    exact neither.2
  · rintro ⟨one,fits⟩
    obtain ⟨firsts,perm,built⟩ := build_of_oneKind distinct printed one
    refine ⟨firsts,perm.trans (List.Perm.of_eq ?_),built⟩
    rcases fits with none | single
    · rw [none]
      rfl
    · rw [← List.filterMap_eq_map]
      apply List.filterMap_congr
      intro field inside
      obtain ⟨value,same⟩ := List.length_eq_one_iff.mp ((length_values (printed field inside)).trans single)
      simp [firstEntry,same]

/-- The protocol as the only filter field. -/
private def protocolFilter : PolicyApplicationConfigurationContainer :=
  [("netmate".toList,[(⟨0,4⟩,{isFilterField := true, applicationFieldKey := "proto".toList})])]

private def protocolTemplate : IpfixTemplate :=
  {type := .optionTemplate, tid := 256, maxfields := 1, datafields := [⟨1,.known,true,⟨0,4,1,.uint⟩⟩]}

private def protocols (numbers : List UInt8) : MnslpIpfixMessage :=
  ⟨.null,0,255,numbers.map fun number => (IpfixDataRecord.new 256).insertField ⟨0,4⟩ {value8 := number, length := 1},true,true⟩

theorem filterComplete_one : FilterComplete protocolFilter "netmate".toList (protocols [6]) protocolTemplate fun _ => [['6']] :=
  (filterComplete_iff _ _ (protocols [6]) _ _ (by decide) (by decide)).mpr ⟨.inl rfl,.inr (by decide)⟩

/-- Two records with the protocols 6 and 7. -/
theorem not_filterComplete : ¬ ∀ (applications : PolicyApplicationConfigurationContainer) (app : Text) (m : MnslpIpfixMessage)
    (templ : IpfixTemplate) (values : IpfixFieldType → List Text),
    (∀ field ∈ filterFieldsOf applications app templ, ∀ other ∈ filterFieldsOf applications app templ,
      applications.getFieldTraslate app field = applications.getFieldTraslate app other → field = other) →
    (∀ field ∈ filterFieldsOf applications app templ, m.getFieldDataValues templ field = .ok (values field)) →
    FilterComplete applications app m templ values := by
  intro always
  obtain ⟨entries,all,built⟩ := always protocolFilter "netmate".toList (protocols [6,7]) protocolTemplate (fun _ => [['6'],['7']])
    (by decide) (by decide)
  have single : entries = [("proto".toList,"6,7".toList)] := List.perm_singleton.mp all
  have found : buildCommandFilterFields protocolFilter "netmate".toList (protocols [6,7]) protocolTemplate =
      .ok "-r proto=6".toList := by decide
  rw [single,found] at built
  revert built
  decide

end
end Mnslp.Installer
