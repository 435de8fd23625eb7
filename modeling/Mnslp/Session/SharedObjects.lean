import Mnslp.Session.SelectObjects
import Mnslp.Session.MeteringAgreement

/-! Who meters what. Every node takes the objects it can meter into its own rule and sends
the others on, so an object ends in the rule of the first node that can meter it. -/
namespace Mnslp.Session
open Mnslp.Lib Mnslp.Msg

/-- A dispatcher whose node meters what `check` says, gives each object a key of its own
and installs copies of objects it was asked for. -/
structure Dispatcher.Steady (check : MspecObject → Bool) (d : Dispatcher) : Prop where
  checks : ∀ obj, d.check obj = check obj.copy
  keys : ∀ a b, d.ruleKey a = d.ruleKey b → a = b
  installs : ∀ rule result, d.installer rule = .ok result →
    result.objects.entries.Sublist (rule.objects.mapValues MspecObject.copy).entries

/-- The rule has exactly the given objects that `check` accepts. -/
def MtPolicyRule.Selects (check : MspecObject → Bool) (objects : List MspecObject) (rule : MtPolicyRule) : Prop :=
  ∀ obj, obj ∈ rule.objects.values ↔ obj ∈ objects ∧ check obj = true

/-- A selection value with which every node takes part. -/
def AllParticipate (sme : UInt32) : Prop := sme = smeAll ∨ sme = smeAny

theorem checkParticipating_of_all {sme : UInt32} (all : AllParticipate sme) (type : SessionType) :
    checkParticipating type sme = true := by
  rcases all with rfl | rfl <;> cases type <;> decide

section
variable {check : MspecObject → Bool} {d : Dispatcher}

theorem selectObjects_steady (steady : d.Steady check) (type : SessionType) {sme : UInt32} (all : AllParticipate sme)
    {rule chosen : MtPolicyRule} (empty : rule.objects = .empty) {objects missing : List MspecObject}
    (selected : selectObjects d type sme rule objects = (chosen,missing)) :
    chosen.Selects check (objects.map MspecObject.copy) ∧
      missing = (objects.map MspecObject.copy).filter fun obj => !check obj := by
  have fresh : d.FreshKeys rule := ⟨steady.keys,fun number => by rw [empty]; rfl⟩
  have admits (obj : MspecObject) : d.admits type sme obj = check obj.copy := by
    simp [Dispatcher.admits,checkParticipating_of_all all,steady.checks]
  have left := @missing_selectObjects d type sme rule objects
  have taken := values_selectObjects type sme fresh objects
  rw [selected] at left taken
  simp only [admits] at left taken
  constructor
  · intro obj
    rw [taken.mem_iff,empty]
    change obj ∈ [] ++ _ ↔ _
    rw [List.nil_append,List.mem_map]
    constructor
    · rintro ⟨original,member,rfl⟩
      obtain ⟨inside,good⟩ := List.mem_filter.mp member
      exact ⟨List.mem_map_of_mem inside,good⟩
    · rintro ⟨member,good⟩
      obtain ⟨original,inside,rfl⟩ := List.mem_map.mp member
      exact ⟨original,List.mem_filter.mpr ⟨inside,good⟩,rfl⟩
  · rw [left,List.filter_map]
    rfl

theorem selects_installed (steady : d.Steady check) {rule result : MtPolicyRule} {objects : List MspecObject}
    (copies : Copies objects) (selects : rule.Selects check objects) (installed : d.installPolicyRules rule = .ok result)
    (complete : result.getNumberMspecObjects = rule.getNumberMspecObjects) : result.Selects check objects := by
  have given : d.installer rule = .ok result := by
    unfold Dispatcher.installPolicyRules at installed
    cases outcome : d.installer rule with
    | error exception =>
      rw [outcome] at installed
      cases installed
    | ok other =>
      rw [outcome] at installed
      cases installed
      rfl
  have whole : result.objects.entries = (rule.objects.mapValues MspecObject.copy).entries := by
    apply (steady.installs rule result given).eq_of_length
    simpa [OrderedMap.mapValues,MtPolicyRule.getNumberMspecObjects,OrderedMap.size] using complete
  have same : result.objects.values = rule.objects.values := by
    have own : Copies rule.objects.values := fun obj member => copies obj ((selects obj).mp member).1
    rw [← own.map_eq]
    simp [OrderedMap.values,whole,OrderedMap.mapValues]
  unfold MtPolicyRule.Selects
  rw [same]
  exact selects

end

/-- The objects that reach node `i` if every node before it keeps what it accepts. -/
def arriving (accept : Nat → MspecObject → Bool) (e : ApiConfigure) : Nat → List MspecObject
  | 0 => e.mspecObjects.map MspecObject.copy
  | i + 1 => (arriving accept e i).filter fun obj => !accept i obj

section
variable {accept : Nat → MspecObject → Bool} {e : ApiConfigure}

theorem copies_arriving (i : Nat) : Copies (arriving accept e i) := by
  induction i with
  | zero => exact copies_map _
  | succ i ih => exact fun obj member => ih obj (List.mem_filter.mp member).1

theorem mem_arriving {i : Nat} {obj : MspecObject} :
    obj ∈ arriving accept e i ↔ obj ∈ e.mspecObjects.map MspecObject.copy ∧ ∀ j < i, accept j obj = false := by
  induction i with
  | zero => simp [arriving]
  | succ i ih =>
    rw [arriving,List.mem_filter,ih,Bool.not_eq_true']
    constructor
    · intro ⟨⟨inside,before⟩,here⟩
      refine ⟨inside,fun j below => ?_⟩
      rcases Nat.lt_succ_iff_lt_or_eq.mp below with earlier | rfl
      · exact before j earlier
      · exact here
    · intro ⟨inside,before⟩
      exact ⟨⟨inside,fun j below => before j (Nat.lt_succ_of_lt below)⟩,before i (Nat.lt_succ_self i)⟩

end
end Mnslp.Session
