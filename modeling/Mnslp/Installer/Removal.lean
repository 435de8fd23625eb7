import Mnslp.Session.Session
import Mathlib.Data.List.MinMax

/-! Removing the rules of a policy from the metering application, after `remove` of the class
`netmate_ipfix_policy_rule_installer`. -/
namespace Mnslp.Session.MtPolicyRule
open Mnslp.Lib Mnslp.Msg

/-- `insert` keeps the list that a key already has. -/
def setCommands (rule : MtPolicyRule) (key : MspecRuleKey) (commands : List String) : MtPolicyRule :=
  {rule with ruleKeys := rule.ruleKeys.insert key commands}

def clearCommands (rule : MtPolicyRule) : MtPolicyRule := {rule with ruleKeys := .empty}

def copy (rule : MtPolicyRule) : MtPolicyRule := {rule with objects := rule.objects.mapValues MspecObject.copy}

end Mnslp.Session.MtPolicyRule

namespace Mnslp.Installer
open Mnslp.Lib Mnslp.Msg Mnslp.Session

def ruleGroup : String := "NETMATE_IPFIX"

/-- Which calls of `execute_command` succeed, by their numbers, actions and post fields; the
others throw a `policy_rule_installer_error`. -/
abbrev ExecuteCommand := Nat → String → String → Bool

def removeAction : String := "/rm_task"

def removePostfields (key : String) : String := "RuleID=" ++ ruleGroup ++ "." ++ key

structure Removal where
  calls : Nat
  returnKeys : List String
  ruleReturn : MtPolicyRule

variable (executeCommand : ExecuteCommand)

/-- The loop over the keys of an object, which catches what `execute_command` throws. -/
def removeKeys (state : Nat × List String) : List String → Nat × List String
  | [] => state
  | key :: keys =>
    let postfields := removePostfields key
    let returnKeys := if executeCommand state.1 removeAction postfields then state.2 ++ [postfields] else state.2
    removeKeys (state.1 + 1,returnKeys) keys

/-- One round of the loop over the objects; the keys of the objects before are still in the list. -/
def removeObject (state : Removal) (entry : MspecRuleKey × List String) : Removal :=
  let (calls,returnKeys) := removeKeys executeCommand (state.calls,state.returnKeys) entry.2
  ⟨calls,returnKeys,state.ruleReturn.setCommands entry.1 returnKeys⟩

def remove (rule : MtPolicyRule) : MtPolicyRule :=
  (rule.ruleKeys.entries.foldl (removeObject executeCommand) ⟨0,[],rule.copy.clearCommands⟩).ruleReturn

/-- The keys whose removal succeeds, when the first of them is removed by the given call. -/
def removed (calls : Nat) : List String → List String
  | [] => []
  | key :: keys =>
    let rest := removed (calls + 1) keys
    if executeCommand calls removeAction (removePostfields key) then key :: rest else rest

/-- The number of the call that removes the first key of the object behind these entries. -/
def callsBefore (entries : List (MspecRuleKey × List String)) : Nat := (entries.map fun entry => entry.2.length).sum

/-- What the rule given back has to say about one object. -/
def ReportsObject (result : MtPolicyRule) (key : MspecRuleKey) (removed : List String) : Prop :=
  match result.ruleKeys.find key with
  | none => removed = []
  | some commands => removed ≠ [] ∧ ∀ command, command ∈ commands ↔ command ∈ removed

/-- Every object keeps the keys that were removed, and the dispatcher throws when none of the keys of an object was. -/
structure ReportsRemoval (rule : MtPolicyRule) : Prop where
  objects (before after : List (MspecRuleKey × List String)) (key : MspecRuleKey) (keys : List String) :
    rule.ruleKeys.entries = before ++ (key,keys) :: after →
    ReportsObject (remove executeCommand rule) key (removed executeCommand (callsBefore before) keys)
  others (key : MspecRuleKey) : rule.ruleKeys.find key = none → (remove executeCommand rule).ruleKeys.find key = none
  throws (d : Dispatcher) (before after : List (MspecRuleKey × List String)) (key : MspecRuleKey) (keys : List String) :
    d.remover = remove executeCommand → rule.ruleKeys.entries = before ++ (key,keys) :: after → keys ≠ [] →
    removed executeCommand (callsBefore before) keys = [] → ∃ exception, d.removePolicyRules rule = .error (.thrown exception)

variable {executeCommand}

theorem removeKeys_eq (calls : Nat) (returnKeys keys : List String) : removeKeys executeCommand (calls,returnKeys) keys =
    (calls + keys.length,returnKeys ++ (removed executeCommand calls keys).map removePostfields) := by
  induction keys generalizing calls returnKeys with
  | nil => simp [removeKeys,removed]
  | cons key rest ih =>
    rw [removeKeys,ih,removed,List.length_cons,Nat.add_right_comm,Nat.add_assoc]
    cases executeCommand calls removeAction (removePostfields key) <;> simp

/-- The entries of the rule given back: the list of each object goes on with the list of the one before. -/
def accumulated (executeCommand : ExecuteCommand) (calls : Nat) (returnKeys : List String) :
    List (MspecRuleKey × List String) → List (MspecRuleKey × List String)
  | [] => []
  | (key,keys) :: rest =>
    let returnKeys := returnKeys ++ (removed executeCommand calls keys).map removePostfields
    (key,returnKeys) :: accumulated executeCommand (calls + keys.length) returnKeys rest

theorem keys_accumulated (executeCommand : ExecuteCommand) (calls : Nat) (returnKeys : List String) (entries : List (MspecRuleKey × List String)) :
    (accumulated executeCommand calls returnKeys entries).map Prod.fst = entries.map Prod.fst := by
  induction entries generalizing calls returnKeys with
  | nil => rfl
  | cons entry rest ih => simp [accumulated,ih]

theorem foldl_removeObject (state : Removal) {entries : List (MspecRuleKey × List String)} (increasing : Increasing entries)
    (above : ∀ old ∈ state.ruleReturn.ruleKeys.entries, ∀ entry ∈ entries, Ranked.rank old.1 < Ranked.rank entry.1) :
    (entries.foldl (removeObject executeCommand) state).ruleReturn.ruleKeys.entries =
      state.ruleReturn.ruleKeys.entries ++ accumulated executeCommand state.calls state.returnKeys entries := by
  induction entries generalizing state with
  | nil => simp [accumulated]
  | cons entry rest ih =>
    obtain ⟨first,later⟩ := List.pairwise_cons.mp increasing
    have placed : (removeObject executeCommand state entry).ruleReturn.ruleKeys.entries = state.ruleReturn.ruleKeys.entries ++
        [(entry.1,state.returnKeys ++ (removed executeCommand state.calls entry.2).map removePostfields)] := by
      unfold removeObject
      rw [removeKeys_eq]
      exact OrderedMap.place_above _ _ _ _ fun old member => above old member entry List.mem_cons_self
    have reached : (removeObject executeCommand state entry).calls = state.calls + entry.2.length ∧
        (removeObject executeCommand state entry).returnKeys =
          state.returnKeys ++ (removed executeCommand state.calls entry.2).map removePostfields := by
      unfold removeObject
      rw [removeKeys_eq]
      exact ⟨rfl,rfl⟩
    rw [List.foldl_cons,ih _ later,placed,reached.1,reached.2,List.append_assoc]
    · rfl
    · intro old member next inside
      rw [placed] at member
      rcases List.mem_append.mp member with there | here
      · exact above old there next (List.mem_cons_of_mem _ inside)
      · cases List.mem_singleton.mp here
        exact first next inside

theorem entries_remove (executeCommand : ExecuteCommand) (rule : MtPolicyRule) : (remove executeCommand rule).ruleKeys.entries =
    accumulated executeCommand 0 [] rule.ruleKeys.entries := by
  unfold remove
  rw [foldl_removeObject _ rule.ruleKeys.increasing (by simp [MtPolicyRule.clearCommands,OrderedMap.empty])]
  rfl

/-- Every object has an entry, whatever became of its rules. -/
theorem getNumberRuleKeys_remove (rule : MtPolicyRule) :
    (remove executeCommand rule).getNumberRuleKeys = rule.getNumberRuleKeys := by
  have keys := congrArg List.length (keys_accumulated executeCommand 0 [] rule.ruleKeys.entries)
  rw [List.length_map,List.length_map,← entries_remove] at keys
  exact keys

theorem length_removePostfields (key : String) : key.length < (removePostfields key).length := by
  unfold removePostfields ruleGroup
  simp only [String.length_append]
  have group : "RuleID=".length = 7 := rfl
  omega

/-- The longest of the keys has another text in the list that is given back. -/
theorem not_same_postfields {keys : List String} (some : keys ≠ []) :
    ¬ ∀ command, command ∈ keys.map removePostfields ↔ command ∈ keys := by
  intro same
  obtain ⟨longest,chosen⟩ : ∃ longest, longest ∈ keys.argmax String.length := by
    rcases found : keys.argmax String.length with _ | longest
    · exact absurd (List.argmax_eq_none.mp found) some
    · exact ⟨longest,rfl⟩
  have inside := (same _).mp (List.mem_map_of_mem (List.argmax_mem chosen))
  have least := List.le_of_mem_argmax inside chosen
  exact Nat.not_le_of_lt (length_removePostfields longest) least

theorem not_reportsRemoval {rule : MtPolicyRule} (some : rule.ruleKeys.entries ≠ []) : ¬ ReportsRemoval executeCommand rule := by
  intro reports
  obtain ⟨⟨key,keys⟩,after,entries⟩ := List.exists_cons_of_ne_nil some
  have result := entries_remove executeCommand rule
  rw [entries,accumulated] at result
  have found := OrderedMap.find_of_mem (remove executeCommand rule).ruleKeys key _ (result ▸ List.mem_cons_self)
  have object := reports.objects [] after key keys entries
  unfold ReportsObject at object
  rw [found] at object
  exact not_same_postfields object.1 object.2

theorem removePolicyRules_ok {d : Dispatcher} (installer : d.remover = remove executeCommand) (rule : MtPolicyRule) :
    d.removePolicyRules rule = .ok () := by
  unfold Dispatcher.removePolicyRules
  rw [installer,getNumberRuleKeys_remove,if_neg (not_not_intro rfl)]

/-- The report is right when there is nothing to remove, and else wrong already for the first object. -/
theorem reportsRemoval_iff (executeCommand : ExecuteCommand) (rule : MtPolicyRule) :
    ReportsRemoval executeCommand rule ↔ rule.getNumberRuleKeys = 0 := by
  constructor
  · intro reports
    by_contra some
    exact not_reportsRemoval (fun none => some (congrArg List.length none)) reports
  · intro none
    have empty : rule.ruleKeys.entries = [] := List.length_eq_zero_iff.mp none
    have result : (remove executeCommand rule).ruleKeys = .empty := by
      apply OrderedMap.ext_entries
      rw [entries_remove,empty]
      rfl
    constructor
    · intro before after key keys entries
      rw [empty] at entries
      exact absurd entries.symm (by simp)
    · intro key _
      rw [result,OrderedMap.find_empty]
    · intro d before after key keys _ entries
      rw [empty] at entries
      exact absurd entries.symm (by simp)

/-- One object with one key, which the metering application does not remove. -/
theorem not_reportsRemoval_failed : ¬ ∀ (executeCommand : ExecuteCommand) (rule : MtPolicyRule), ReportsRemoval executeCommand rule := by
  intro always
  exact not_reportsRemoval (List.cons_ne_nil _ _) (always (fun _ _ _ => false) (({} : MtPolicyRule).setCommands ⟨1⟩ ["1_1"]))

end Mnslp.Installer
