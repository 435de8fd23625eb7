import Mnslp.Msg.MspecObjects
import Mnslp.Session.NfSession

/-! What the loop over the metering objects of a request takes and what it leaves. -/
namespace Mnslp.Session
open Mnslp.Lib Mnslp.Msg

/-- The node takes part in the metering and can meter the object. -/
def Dispatcher.admits (d : Dispatcher) (type : SessionType) (sme : UInt32) (obj : MspecObject) : Bool :=
  checkParticipating type sme && d.check obj

/-- `uuid_generate_time_safe` hands out keys that are in use nowhere. -/
structure Dispatcher.FreshKeys (d : Dispatcher) (rule : MtPolicyRule) : Prop where
  distinct : ∀ a b, d.ruleKey a = d.ruleKey b → a = b
  unused : ∀ number, rule.objects.find (d.ruleKey number) = none

section
variable {d : Dispatcher} (type : SessionType) (sme : UInt32)

/-- One round of the loop. -/
private def choose (d : Dispatcher) (chosen : MtPolicyRule × List MspecObject) (entry : MspecObject × Nat) :
    MtPolicyRule × List MspecObject :=
  if d.admits type sme entry.1 then (chosen.1.setObject (d.ruleKey entry.2) entry.1.copy,chosen.2)
  else (chosen.1,chosen.2 ++ [entry.1.copy])

private theorem selectObjects_choose (rule : MtPolicyRule) (objects : List MspecObject) :
    selectObjects d type sme rule objects = objects.zipIdx.foldl (choose type sme d) (rule,[]) := by
  rw [selectObjects_eq]
  congr 1
  funext chosen entry
  simp [choose,Dispatcher.admits]

theorem missing_selectObjects (rule : MtPolicyRule) (objects : List MspecObject) :
    (selectObjects d type sme rule objects).2 =
      (objects.filter fun obj => !d.admits type sme obj).map MspecObject.copy := by
  have onwards (objects : List MspecObject) : ∀ first chosen,
      ((objects.zipIdx first).foldl (choose type sme d) chosen).2 =
        chosen.2 ++ (objects.filter fun obj => !d.admits type sme obj).map MspecObject.copy := by
    induction objects with
    | nil => simp
    | cons obj rest ih =>
      intro first chosen
      rw [List.zipIdx_cons,List.foldl_cons,ih,choose,List.filter_cons]
      cases d.admits type sme obj <;> simp
  rw [selectObjects_choose,onwards,List.nil_append]

theorem Dispatcher.FreshKeys.rank_ne {rule : MtPolicyRule} (fresh : d.FreshKeys rule) {a b : Nat} (different : a ≠ b) :
    Ranked.rank (d.ruleKey a) ≠ Ranked.rank (d.ruleKey b) := by
  intro same
  apply different
  apply fresh.distinct
  have uuid : (d.ruleKey a).uuid = (d.ruleKey b).uuid := Int.ofNat.inj same
  cases left : d.ruleKey a
  cases right : d.ruleKey b
  rw [left,right] at uuid
  exact congrArg MspecRuleKey.mk uuid

theorem values_selectObjects {rule : MtPolicyRule} (fresh : d.FreshKeys rule) (objects : List MspecObject) :
    (selectObjects d type sme rule objects).1.objects.values.Perm
      (rule.objects.values ++ (objects.filter fun obj => d.admits type sme obj).map MspecObject.copy) := by
  have onwards (objects : List MspecObject) : ∀ first chosen,
      (∀ number ≥ first, chosen.1.objects.find (d.ruleKey number) = none) →
      ((objects.zipIdx first).foldl (choose type sme d) chosen).1.objects.values.Perm
        (chosen.1.objects.values ++ (objects.filter fun obj => d.admits type sme obj).map MspecObject.copy) := by
    induction objects with
    | nil => simp
    | cons obj rest ih =>
      intro first chosen unused
      rw [List.zipIdx_cons,List.foldl_cons,List.filter_cons]
      cases admitted : d.admits type sme obj with
      | true =>
        have absent := unused first (Nat.le_refl first)
        have later : ∀ number ≥ first + 1, (chosen.1.setObject (d.ruleKey first) obj.copy).objects.find
            (d.ruleKey number) = none := by
          intro number above
          have different := fresh.rank_ne (show number ≠ first by omega)
          exact (OrderedMap.find_insert_other _ _ _ _ different).trans (unused number (by omega))
        have taken := ih (first + 1) (chosen.1.setObject (d.ruleKey first) obj.copy,chosen.2) later
        have inserted : (chosen.1.setObject (d.ruleKey first) obj.copy).objects.values.Perm
            (obj.copy :: chosen.1.objects.values) := OrderedMap.values_insert_of_absent _ _ _ absent
        simp only [choose,admitted,if_true,List.map_cons]
        exact taken.trans ((inserted.append_right _).trans List.perm_middle.symm)
      | false =>
        simp only [choose,admitted,Bool.false_eq_true,if_false]
        exact ih (first + 1) _ fun number above => unused number (by omega)
  rw [selectObjects_choose]
  exact onwards objects 0 (rule,[]) fun number _ => fresh.unused number

end

theorem NfSession.carries_configureToForward (s : NfSession) (c : MnslpMsg) (missing : List MspecObject) :
    (s.configureToForward c missing).Carries (missing.map MspecObject.copy) := by
  have bare := ((((MnslpMsg.bare_new .configure).setSessionLifetime
    (if s.lifetime ≤ c.getSessionLifetime then s.lifetime else c.getSessionLifetime)).setMsgSequenceNumber
    c.getMsgSequenceNumber).setSelectionMeteringEntities c.getSelectionMeteringEntities).setMessageHopCount
    c.getMessageHopCount
  exact bare.carries.setMspecObjects missing

end Mnslp.Session
