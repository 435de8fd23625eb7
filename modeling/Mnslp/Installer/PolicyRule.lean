import Mnslp.Installer.Removal
import Mnslp.Msg.EqualityLaws
import Mnslp.Msg.MspecObjects
import Mathlib.Data.String.Basic

/-! Assignment and equality of policy rules, after `operator=`, `operator==` and the copy
constructor of `mt_policy_rule`. -/
namespace Mnslp.Session.MtPolicyRule
open Mnslp.Lib Mnslp.Msg

/-- `set_object` with a key, which deletes the object that the key had. -/
def setObjectAt (rule : MtPolicyRule) (key : MspecRuleKey) (obj : MspecObject) : MtPolicyRule :=
  {rule with objects := rule.objects.set key obj}

/-- `operator=`. The copy constructor runs the same loops from an empty rule. -/
def assign (rule rhs : MtPolicyRule) : MtPolicyRule :=
  rhs.ruleKeys.entries.foldl (fun rule entry => rule.setCommands entry.1 entry.2)
    (rhs.objects.entries.foldl (fun rule entry => rule.setObjectAt entry.1 entry.2.copy) rule)

theorem eq_of_rank (key other : MspecRuleKey) (same : Ranked.rank key = Ranked.rank other) : key = other := by
  cases key
  cases other
  exact congrArg MspecRuleKey.mk (Int.ofNat.inj same)

theorem assign_eq (rule rhs : MtPolicyRule) : rule.assign rhs =
    ⟨rhs.objects.entries.foldl (fun objects entry => objects.set entry.1 entry.2.copy) rule.objects,
      rhs.ruleKeys.entries.foldl (fun ruleKeys entry => ruleKeys.insert entry.1 entry.2) rule.ruleKeys⟩ := by
  have objects (entries : List (MspecRuleKey × MspecObject)) (rule : MtPolicyRule) :
      entries.foldl (fun rule entry => rule.setObjectAt entry.1 entry.2.copy) rule =
        ⟨entries.foldl (fun objects entry => objects.set entry.1 entry.2.copy) rule.objects,rule.ruleKeys⟩ := by
    induction entries generalizing rule with
    | nil => rfl
    | cons entry rest ih => exact ih _
  have commands (entries : List (MspecRuleKey × List String)) (rule : MtPolicyRule) :
      entries.foldl (fun rule entry => rule.setCommands entry.1 entry.2) rule =
        ⟨rule.objects,entries.foldl (fun ruleKeys entry => ruleKeys.insert entry.1 entry.2) rule.ruleKeys⟩ := by
    induction entries generalizing rule with
    | nil => rfl
    | cons entry rest ih => exact ih _
  unfold assign
  rw [objects,commands]

theorem find_objects_assign (rule rhs : MtPolicyRule) (key : MspecRuleKey) :
    (rule.assign rhs).objects.find key = ((rhs.objects.find key).map MspecObject.copy).or (rule.objects.find key) := by
  rw [assign_eq]
  exact OrderedMap.find_foldl_set MspecObject.copy rhs.objects rule.objects key

theorem find_ruleKeys_assign (rule rhs : MtPolicyRule) (key : MspecRuleKey) :
    (rule.assign rhs).ruleKeys.find key = (rule.ruleKeys.find key).or (rhs.ruleKeys.find key) := by
  rw [assign_eq]
  exact (OrderedMap.find_foldl_insert id rhs.ruleKeys rule.ruleKeys key).trans (by rw [Option.map_id_fun,id])

theorem ext_find {rule rhs : MtPolicyRule} (objects : ∀ key, rule.objects.find key = rhs.objects.find key)
    (ruleKeys : ∀ key, rule.ruleKeys.find key = rhs.ruleKeys.find key) : rule = rhs := by
  have sameObjects := OrderedMap.ext_find eq_of_rank objects
  have sameKeys := OrderedMap.ext_find eq_of_rank ruleKeys
  cases rule
  cases rhs
  cases sameObjects
  cases sameKeys
  rfl

theorem assign_empty (rhs : MtPolicyRule) : assign {} rhs = rhs.copy := by
  refine ext_find (fun key => ?_) fun key => ?_
  · rw [find_objects_assign,copy,OrderedMap.find_mapValues]
    exact Option.or_none
  · rw [find_ruleKeys_assign]
    rfl

/-- A second assignment finds copies in the place of copies. -/
theorem assign_assign (rule rhs : MtPolicyRule) : (rule.assign rhs).assign rhs = rule.assign rhs := by
  refine ext_find (fun key => ?_) fun key => ?_
  · rw [find_objects_assign,find_objects_assign]
    cases (rhs.objects.find key).map MspecObject.copy <;> rfl
  · rw [find_ruleKeys_assign,find_ruleKeys_assign]
    cases rule.ruleKeys.find key <;> cases rhs.ruleKeys.find key <;> rfl

section Assignment
variable {ι : Type} [DecidableEq ι]

/-- The rules of a program, by their names, after `r = s`. -/
def assignTo (rules : ι → MtPolicyRule) (r s : ι) : ι → MtPolicyRule := Function.update rules r ((rules r).assign (rules s))

/-- The rule has copies of the objects of the other one, and its command lists; the other one is
as it was, and another assignment changes nothing. -/
structure Assigned (rules : ι → MtPolicyRule) (r s : ι) : Prop where
  objects : (assignTo rules r s r).objects = (rules s).objects.mapValues MspecObject.copy
  ruleKeys : (assignTo rules r s r).ruleKeys = (rules s).ruleKeys
  unchanged : assignTo rules r s s = rules s
  again : assignTo (assignTo rules r s) r s = assignTo rules r s

@[simp] theorem assignTo_self (rules : ι → MtPolicyRule) (r s : ι) :
    assignTo rules r s r = (rules r).assign (rules s) := Function.update_self _ _ _

theorem assignTo_other (rules : ι → MtPolicyRule) {r s : ι} (other : s ≠ r) : assignTo rules r s s = rules s :=
  Function.update_of_ne other _ _

theorem assign_own (rule : MtPolicyRule) : (rule.assign rule).assign (rule.assign rule) = rule.assign rule := by
  have own (key : MspecRuleKey) : (rule.assign rule).objects.find key = (rule.objects.find key).map MspecObject.copy := by
    rw [find_objects_assign]
    cases rule.objects.find key <;> rfl
  refine ext_find (fun key => ?_) fun key => ?_
  · rw [find_objects_assign,own]
    cases rule.objects.find key with
    | none => rfl
    | some obj => simp
  · rw [find_ruleKeys_assign]
    cases (rule.assign rule).ruleKeys.find key <;> rfl

theorem assignTo_again (rules : ι → MtPolicyRule) (r s : ι) : assignTo (assignTo rules r s) r s = assignTo rules r s := by
  have same : (assignTo rules r s r).assign (assignTo rules r s s) = assignTo rules r s r := by
    by_cases one : s = r
    · rw [one,assignTo_self]
      exact assign_own (rules r)
    · rw [assignTo_other rules one,assignTo_self]
      exact assign_assign (rules r) (rules s)
  rw [assignTo,same]
  exact Function.update_eq_self _ _

/-- The assignment merges, so it assigns only where the old rule has nothing of its own: no other
object, and no other commands for a key. -/
theorem assigned_iff (rules : ι → MtPolicyRule) (r s : ι) : Assigned rules r s ↔
    (∀ key, (rules s).objects.find key = none → (rules r).objects.find key = none) ∧
      (∀ key commands, (rules r).ruleKeys.find key = some commands → (rules s).ruleKeys.find key = some commands) ∧
      (r = s → (rules s).objects.mapValues MspecObject.copy = (rules s).objects) := by
  constructor
  · rintro ⟨objects,ruleKeys,unchanged,_⟩
    rw [assignTo_self] at objects ruleKeys
    refine ⟨fun key absent => ?_,fun key commands kept => ?_,fun one => ?_⟩
    · have found := find_objects_assign (rules r) (rules s) key
      rw [objects,OrderedMap.find_mapValues,absent] at found
      exact found.symm
    · have found := find_ruleKeys_assign (rules r) (rules s) key
      rw [ruleKeys,kept] at found
      exact found
    · subst one
      rw [assignTo_self] at unchanged
      rw [← objects,unchanged]
  · rintro ⟨fewer,same,own⟩
    have objects : ((rules r).assign (rules s)).objects = (rules s).objects.mapValues MspecObject.copy := by
      refine OrderedMap.ext_find eq_of_rank fun key => ?_
      rw [find_objects_assign,OrderedMap.find_mapValues]
      cases found : (rules s).objects.find key with
      | none => exact fewer key found
      | some obj => rfl
    have ruleKeys : ((rules r).assign (rules s)).ruleKeys = (rules s).ruleKeys := by
      refine OrderedMap.ext_find eq_of_rank fun key => ?_
      rw [find_ruleKeys_assign]
      cases kept : (rules r).ruleKeys.find key with
      | none => rfl
      | some commands => exact (same key commands kept).symm
    refine ⟨by rw [assignTo_self,objects],by rw [assignTo_self,ruleKeys],?_,assignTo_again rules r s⟩
    by_cases one : s = r
    · subst one
      rw [assignTo_self]
      exact ext_find (fun key => by rw [objects,own rfl]) fun key => by rw [ruleKeys]
    · exact assignTo_other rules one

/-- The rule `true` is assigned one with other commands for its only key. -/
theorem not_assigned : ¬ ∀ (rules : Bool → MtPolicyRule) (r s : Bool), Assigned rules r s := by
  intro always
  let rules (name : Bool) : MtPolicyRule := ({} : MtPolicyRule).setCommands ⟨1⟩ [if name then "1_1" else "1_2"]
  have same := congrArg (·.find ⟨1⟩) (always rules true false).ruleKeys
  rw [assignTo_self] at same
  revert same
  decide

end Assignment

/-- The own objects are looked up in the other rule. -/
def equalObjects (rule rhs : MtPolicyRule) : Call Bool :=
  if rule.objects.size ≠ rhs.objects.size then .ok false
  else rule.objects.entries.allM fun entry =>
    match rhs.objects.find entry.1 with
    | some obj => entry.2.message.isEqual obj.message
    | none => .ok false

/-- The loop of `are_equal`, whose bound is not the length of the lists. -/
def compareCommands : Nat → List String → List String → Call Bool
  | 0,_,_ => .ok true
  | index + 1,left :: lefts,right :: rights => if left = right then compareCommands index lefts rights else .ok false
  | _,_,_ => Call.fault .readBeyondVector

def sorted (commands : List String) : List String := commands.insertionSort (· ≤ ·)

def areEqual (rule : MtPolicyRule) (left right : List String) : Call Bool :=
  compareCommands rule.ruleKeys.size (sorted left) (sorted right)

def equalCommands (rule rhs : MtPolicyRule) : Call Bool :=
  if rule.ruleKeys.size ≠ rhs.ruleKeys.size then .ok false
  else rule.ruleKeys.entries.allM fun entry =>
    match rhs.ruleKeys.find entry.1 with
    | some commands => rule.areEqual entry.2 commands
    | none => .ok false

/-- `operator==` -/
def equals (rule rhs : MtPolicyRule) : Call Bool := do
  if ← rule.equalObjects rhs then rule.equalCommands rhs else return false

/-- The same keys with equal objects. -/
def SameObjects (rule rhs : MtPolicyRule) : Prop :=
  List.Forall₂ (fun entry other => entry.1 = other.1 ∧ entry.2.message.isEqual other.2.message = .ok true)
    rule.objects.entries rhs.objects.entries

/-- The same keys with the same commands, each as often. -/
def SameCommands (rule rhs : MtPolicyRule) : Prop :=
  List.Forall₂ (fun entry other => entry.1 = other.1 ∧ entry.2.Perm other.2) rule.ruleKeys.entries rhs.ruleKeys.entries

/-- The comparison finds the rules equal just when they are, ends with a verdict on the commands
without a look outside of a list, and takes copies for equal. -/
structure EqualityMeans (rule rhs : MtPolicyRule) : Prop where
  equal : rule.equals rhs = .ok true ↔ rule.SameObjects rhs ∧ rule.SameCommands rhs
  inside : rule.equalObjects rhs = .ok true → ¬ Breaks (rule.equals rhs)
  copies : rule.equals rule.copy = .ok true ∧ rule.copy.equals rule = .ok true

/-- Both lists have so many commands, and the first of them in their order are the same. -/
def AgreeUpTo (count : Nat) (left right : List String) : Prop :=
  count ≤ left.length ∧ count ≤ right.length ∧ (sorted left).take count = (sorted right).take count

/-- One list has fewer commands, and no difference stands before its end. -/
def EndsBefore (count : Nat) (left right : List String) : Prop :=
  ∃ length < count, (length = left.length ∨ length = right.length) ∧ (sorted left).take length = (sorted right).take length

theorem compareCommands_eq_true {count : Nat} {lefts rights : List String} : compareCommands count lefts rights = .ok true ↔
    count ≤ lefts.length ∧ count ≤ rights.length ∧ lefts.take count = rights.take count := by
  induction count generalizing lefts rights with
  | zero => simp [compareCommands]
  | succ index ih =>
    rcases lefts with _ | ⟨left,lefts⟩
    · simp [compareCommands,Call.fault]
    · rcases rights with _ | ⟨right,rights⟩
      · simp [compareCommands,Call.fault]
      · rw [compareCommands]
        by_cases same : left = right
        · rw [if_pos same,ih]
          simp [same]
        · rw [if_neg same]
          simp [same]

theorem compareCommands_breaks {count : Nat} {lefts rights : List String} : Breaks (compareCommands count lefts rights) ↔
    ∃ length < count, (length = lefts.length ∨ length = rights.length) ∧ lefts.take length = rights.take length := by
  induction count generalizing lefts rights with
  | zero => simp [compareCommands]
  | succ index ih =>
    rcases lefts with _ | ⟨left,lefts⟩
    · exact iff_of_true ⟨_,by simp only [compareCommands]; rfl⟩ ⟨0,Nat.succ_pos _,.inl rfl,rfl⟩
    · rcases rights with _ | ⟨right,rights⟩
      · exact iff_of_true ⟨_,rfl⟩ ⟨0,Nat.succ_pos _,.inr rfl,rfl⟩
      · rw [compareCommands]
        by_cases same : left = right
        · rw [if_pos same,ih]
          constructor
          · rintro ⟨length,below,ends,agree⟩
            exact ⟨length + 1,Nat.succ_lt_succ below,ends.imp (congrArg (· + 1)) (congrArg (· + 1)),by simp [same,agree]⟩
          · rintro ⟨length,below,ends,agree⟩
            cases length with
            | zero => simp at ends
            | succ length =>
              refine ⟨length,Nat.lt_of_succ_lt_succ below,ends.imp Nat.succ.inj Nat.succ.inj,?_⟩
              simpa [same] using agree
        · rw [if_neg same]
          refine iff_of_false (not_breaks_ok false) ?_
          rintro ⟨length,_,ends,agree⟩
          cases length with
          | zero => simp at ends
          | succ length => simp [same] at agree

theorem sorted_eq_iff {left right : List String} : sorted left = sorted right ↔ left.Perm right := by
  constructor
  · intro same
    have back : (sorted right).Perm right := List.perm_insertionSort _ right
    rw [← same] at back
    exact (List.perm_insertionSort _ left).symm.trans back
  · intro perm
    have permSorted := (List.perm_insertionSort (· ≤ ·) left).trans (perm.trans (List.perm_insertionSort (· ≤ ·) right).symm)
    exact permSorted.eq_of_pairwise' (List.pairwise_insertionSort _ _) (List.pairwise_insertionSort _ _)

@[simp] theorem length_sorted (commands : List String) : (sorted commands).length = commands.length :=
  List.length_insertionSort _ _

section
variable {rule rhs : MtPolicyRule}

theorem areEqual_eq_true {left right : List String} :
    rule.areEqual left right = .ok true ↔ AgreeUpTo rule.ruleKeys.size left right := by
  unfold areEqual AgreeUpTo
  rw [compareCommands_eq_true,length_sorted,length_sorted]

theorem areEqual_breaks {left right : List String} :
    Breaks (rule.areEqual left right) ↔ EndsBefore rule.ruleKeys.size left right := by
  unfold areEqual EndsBefore
  rw [compareCommands_breaks,length_sorted,length_sorted]

/-- Lists with the same commands agree as far as they go. -/
theorem agree_or_ends {count : Nat} {left right : List String} (perm : left.Perm right) :
    AgreeUpTo count left right ∨ EndsBefore count left right := by
  have same := sorted_eq_iff.mpr perm
  rcases Nat.lt_or_ge left.length count with few | enough
  · exact .inr ⟨left.length,few,.inl rfl,by rw [same]⟩
  · exact .inl ⟨enough,perm.length_eq ▸ enough,by rw [same]⟩

theorem equalObjects_eq_true : rule.equalObjects rhs = .ok true ↔ rule.SameObjects rhs := by
  have tested : rule.equalObjects rhs = .ok true ↔ rhs.objects.size = rule.objects.size ∧
      rule.objects.Inside (fun own obj => own.message.isEqual obj.message = .ok true) rhs.objects := by
    unfold equalObjects
    split
    · rename_i sizes
      exact iff_of_false (by simp) fun all => sizes all.1.symm
    · rename_i sizes
      rw [and_iff_right (not_not.mp sizes).symm]
      apply OrderedMap.allM_find_eq_true
      · intro entry none
        rw [none]
      · intro entry obj found
        rw [found]
  rw [tested]
  constructor
  · rintro ⟨sizes,inside⟩
    exact (inside.forall₂_of_size sizes).imp fun _ _ same => ⟨eq_of_rank _ _ same.1,same.2⟩
  · intro same
    refine ⟨(List.Forall₂.length_eq same).symm,OrderedMap.Inside.of_forall₂ (same.imp fun _ _ same => ?_)⟩
    exact ⟨congrArg Ranked.rank same.1,same.2⟩

theorem equalCommands_eq_true : rule.equalCommands rhs = .ok true ↔ rule.ruleKeys.size = rhs.ruleKeys.size ∧
    rule.ruleKeys.Inside (AgreeUpTo rule.ruleKeys.size) rhs.ruleKeys := by
  unfold equalCommands
  split
  · rename_i sizes
    exact iff_of_false (by simp) fun all => sizes all.1
  · rename_i sizes
    rw [and_iff_right (not_not.mp sizes)]
    apply OrderedMap.allM_find_eq_true
    · intro entry none
      rw [none]
    · intro entry commands found
      rw [found]
      exact areEqual_eq_true

/-- The first key of the own rule whose commands do not agree has a list that ends too early. -/
def RunsShort (rule rhs : MtPolicyRule) : Prop :=
  rule.ruleKeys.size = rhs.ruleKeys.size ∧
    FirstStuck (fun entry => ∃ commands, rhs.ruleKeys.find entry.1 = some commands ∧ AgreeUpTo rule.ruleKeys.size entry.2 commands)
      (fun entry => ∃ commands, rhs.ruleKeys.find entry.1 = some commands ∧ EndsBefore rule.ruleKeys.size entry.2 commands)
      rule.ruleKeys.entries

theorem equalCommands_breaks : Breaks (rule.equalCommands rhs) ↔ rule.RunsShort rhs := by
  unfold equalCommands RunsShort
  split
  · rename_i sizes
    exact iff_of_false (not_breaks_ok false) fun short => sizes short.1
  · rename_i sizes
    rw [and_iff_right (not_not.mp sizes)]
    apply OrderedMap.allM_find_breaks
    · intro entry none
      rw [none]
    · intro entry commands found
      rw [found]
      exact areEqual_eq_true
    · intro entry commands found
      rw [found]
      exact areEqual_breaks

theorem equals_eq_true : rule.equals rhs = .ok true ↔ rule.SameObjects rhs ∧ rule.ruleKeys.size = rhs.ruleKeys.size ∧
    rule.ruleKeys.Inside (AgreeUpTo rule.ruleKeys.size) rhs.ruleKeys := by
  unfold equals
  rw [both_eq_true,equalObjects_eq_true,equalCommands_eq_true]

theorem sameCommands_iff : rule.SameCommands rhs ↔
    rule.ruleKeys.size = rhs.ruleKeys.size ∧ rule.ruleKeys.Inside List.Perm rhs.ruleKeys := by
  constructor
  · intro same
    refine ⟨List.Forall₂.length_eq same,OrderedMap.Inside.of_forall₂ (same.imp fun _ _ same => ?_)⟩
    exact ⟨congrArg Ranked.rank same.1,same.2⟩
  · rintro ⟨sizes,inside⟩
    exact (inside.forall₂_of_size sizes.symm).imp fun _ _ same => ⟨eq_of_rank _ _ same.1,same.2⟩

theorem sameObjects_copy (kept : ∀ obj ∈ rule.objects.values, obj.message.message ≠ .dangling) :
    rule.SameObjects rule.copy ∧ rule.copy.SameObjects rule := by
  have alike (entry : MspecRuleKey × MspecObject) (member : entry ∈ rule.objects.entries) :=
    MnslpIpfixMessage.alike_copy (kept entry.2 (List.mem_map.mpr ⟨entry,member,rfl⟩))
  constructor
  · refine List.forall₂_map_right_iff.mpr (List.forall₂_same.mpr fun entry member => ⟨rfl,?_⟩)
    exact (MnslpIpfixMessage.isEqual_eq_true _ _).mpr (alike entry member).within
  · refine List.forall₂_map_left_iff.mpr (List.forall₂_same.mpr fun entry member => ⟨rfl,?_⟩)
    exact (MnslpIpfixMessage.isEqual_eq_true _ _).mpr (alike entry member).symm.within

/-- A message whose `ipfix_t` was deleted is not compared with its copy. -/
theorem kept_of_sameObjects_copy (same : rule.SameObjects rule.copy) : ∀ obj ∈ rule.objects.values, obj.message.message ≠ .dangling := by
  intro obj member deleted
  obtain ⟨entry,inside,rfl⟩ := List.mem_map.mp member
  have each := List.forall₂_same.mp (List.forall₂_map_right_iff.mp same)
  have equal := (each entry inside).2
  simp [MspecObject.copy,MnslpIpfixMessage.isEqual,MnslpIpfixMessage.copy,MnslpIpfixMessage.liveMessage,deleted,Call.fault] at equal

theorem agreeUpTo_self {count : Nat} {commands : List String} : AgreeUpTo count commands commands ↔ count ≤ commands.length :=
  ⟨And.left,fun enough => ⟨enough,enough,rfl⟩⟩

theorem inside_self : rule.ruleKeys.Inside (AgreeUpTo rule.ruleKeys.size) rule.ruleKeys ↔
    ∀ commands ∈ rule.ruleKeys.values, rule.ruleKeys.size ≤ commands.length := by
  constructor
  · intro inside commands member
    obtain ⟨entry,present,rfl⟩ := List.mem_map.mp member
    exact agreeUpTo_self.mp (inside.turn present (rule.ruleKeys.find_of_mem _ _ present))
  · intro enough entry member
    refine ⟨entry.2,rule.ruleKeys.find_of_mem _ _ member,agreeUpTo_self.mpr ?_⟩
    exact enough entry.2 (List.mem_map.mpr ⟨entry,member,rfl⟩)

end

/-- The comparison looks at as many commands of each list as the rule has keys. -/
theorem equalityMeans_iff (rule rhs : MtPolicyRule) : EqualityMeans rule rhs ↔
    (∀ obj ∈ rule.objects.values, obj.message.message ≠ .dangling) ∧
      (∀ commands ∈ rule.ruleKeys.values, rule.ruleKeys.size ≤ commands.length) ∧
      (rule.SameObjects rhs → ¬ rule.RunsShort rhs) ∧
      (rule.SameObjects rhs → rule.ruleKeys.size = rhs.ruleKeys.size →
        rule.ruleKeys.Inside (AgreeUpTo rule.ruleKeys.size) rhs.ruleKeys → rule.ruleKeys.Inside List.Perm rhs.ruleKeys) := by
  constructor
  · rintro ⟨equal,inside,copied,_⟩
    obtain ⟨objects,_,commands⟩ := equals_eq_true.mp copied
    refine ⟨kept_of_sameObjects_copy objects,inside_self.mp commands,fun same short => ?_,fun same sizes agree => ?_⟩
    · refine inside (equalObjects_eq_true.mpr same) ?_
      unfold equals
      exact both_breaks.mpr (.inr ⟨equalObjects_eq_true.mpr same,equalCommands_breaks.mpr short⟩)
    · exact (sameCommands_iff.mp (equal.mp (equals_eq_true.mpr ⟨same,sizes,agree⟩)).2).2
  · rintro ⟨kept,enough,long,complete⟩
    obtain ⟨forth,back⟩ := sameObjects_copy kept
    refine ⟨⟨fun equal => ?_,fun ⟨objects,commands⟩ => ?_⟩,fun objects broken => ?_,?_,?_⟩
    · obtain ⟨objects,sizes,agree⟩ := equals_eq_true.mp equal
      exact ⟨objects,sameCommands_iff.mpr ⟨sizes,complete objects sizes agree⟩⟩
    · obtain ⟨sizes,perm⟩ := sameCommands_iff.mp commands
      have each : ∀ entry ∈ rule.ruleKeys.entries,
          (∃ commands, rhs.ruleKeys.find entry.1 = some commands ∧ AgreeUpTo rule.ruleKeys.size entry.2 commands) ∨
            ∃ commands, rhs.ruleKeys.find entry.1 = some commands ∧ EndsBefore rule.ruleKeys.size entry.2 commands := by
        intro entry member
        obtain ⟨commands,found,same⟩ := perm entry member
        exact (agree_or_ends same).imp (fun agree => ⟨commands,found,agree⟩) fun ends => ⟨commands,found,ends⟩
      have agree := (all_or_firstStuck each).resolve_right fun short => long objects ⟨sizes,short⟩
      exact equals_eq_true.mpr ⟨objects,sizes,agree⟩
    · have same := equalObjects_eq_true.mp objects
      unfold equals at broken
      rcases both_breaks.mp broken with first | ⟨_,commands⟩
      · rw [objects] at first
        exact not_breaks_ok true first
      · exact long same (equalCommands_breaks.mp commands)
    · exact equals_eq_true.mpr ⟨forth,rfl,inside_self.mpr enough⟩
    · exact equals_eq_true.mpr ⟨back,rfl,inside_self.mpr enough⟩

/-- Two keys with one command each: the second command is read. -/
theorem not_equalityMeans : ¬ ∀ rule rhs : MtPolicyRule, EqualityMeans rule rhs := by
  intro always
  have copied := (always ((({} : MtPolicyRule).setCommands ⟨1⟩ ["1_1"]).setCommands ⟨2⟩ ["2_1"]) {}).copies.1
  revert copied
  decide

end Mnslp.Session.MtPolicyRule
