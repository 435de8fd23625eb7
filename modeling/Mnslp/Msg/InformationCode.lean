import Mnslp.Msg.Forwarded

/-! The information code of an answer: which of its values are checked, written and read as
they were built, alone and in the messages that carry them. -/
namespace Mnslp.Msg
open Mnslp.Lib Call

/-- The object passes its check, is written as 8 bytes wherever there is room, and an equal
object is read from them. -/
def MnslpObject.CodeRoundTrips (obj : MnslpObject) : Prop :=
  obj.check = true ∧ ∀ msg : NetMsg, 8 ≤ msg.getBytesLeft → ∃ next, obj.serialize msg = .ok (next,8) ∧
    next.pos = msg.pos + 8 ∧ ∀ env, ∃ other,
      deserializeObject env {next with pos := msg.pos} = .ok (.object (other,next)) ∧ obj.equals other = .ok true

/-- A NOTIFY or RESPONSE with the object and with whatever else belongs into it is sent and
parsed, if the other objects are. -/
def MnslpObject.CodeIsCarried (obj : MnslpObject) : Prop :=
  ∀ (m : MnslpMsg) c, m.Holds c → m.kind = .notify ∨ m.kind = .response → (c.put obj).Suits m.kind →
    (∀ other ∈ (c.put obj).objects, other ≠ obj → other.Readable) → (m.setObject obj).RoundTrips

theorem MnslpObject.readable_number {obj : MnslpObject} (unique : obj.isUnique = true) (valid : obj.checkBody = true) :
    obj.Readable := by
  refine ⟨decide_eq_true ⟨objectType_fits _,valid⟩,fun message same => ?_⟩
  unfold isUnique at unique
  rw [same] at unique
  cases unique

section
variable (treatment : Treatment) {severity : UInt8} (small : severity < 16) (responseCode : UInt8)
include small

theorem readable_informationCode : MnslpObject.Readable ⟨treatment,.informationCode severity responseCode 0⟩ := by
  apply MnslpObject.readable_number rfl
  apply decide_eq_true
  rw [not_or,not_not,not_not]
  refine ⟨?_,rfl⟩
  have all : ∀ n < 16, n &&& 0xF0 = 0 := by decide
  apply UInt8.toNat_inj.mp
  rw [UInt8.toNat_and]
  exact all severity.toNat small

theorem codeRoundTrips : MnslpObject.CodeRoundTrips ⟨treatment,.informationCode severity responseCode 0⟩ := by
  have readable := readable_informationCode treatment small responseCode
  generalize same : (⟨treatment,.informationCode severity responseCode 0⟩ : MnslpObject) = obj at readable
  have length : obj.bytes.length = 8 := by
    rw [MnslpObject.length_bytes readable.checked,← same]
    rfl
  refine ⟨readable.checked,fun msg room => ?_⟩
  have inside : msg.pos + 8 ≤ msg.buffer.length := by
    unfold NetMsg.getBytesLeft at room
    omega
  have front : (msg.buffer.take msg.pos).length = msg.pos := by
    rw [List.length_take]
    omega
  have wrote := NetMsg.write_eq_ok.mpr ⟨length ▸ inside,rfl⟩
  refine ⟨_,MnslpObject.serialize_eq_ok.mpr ⟨readable.checked,wrote,by rw [length]; rfl⟩,by rw [length],fun env => ?_⟩
  obtain ⟨other,read,rebuilt⟩ := MnslpObject.deserializeObject_bytes env readable (msg.buffer.take msg.pos)
    (msg.buffer.drop (msg.pos + obj.bytes.length))
  rw [front,← List.append_assoc] at read
  exact ⟨other,read,rebuilt.equals⟩

theorem codeIsCarried : MnslpObject.CodeIsCarried ⟨treatment,.informationCode severity responseCode 0⟩ := by
  have readable := readable_informationCode treatment small responseCode
  intro m c holds _ suits others
  have put := holds.put ⟨treatment,.informationCode severity responseCode 0⟩
  obtain ⟨bytes,serialized,back⟩ := MnslpMsg.round_trip put ((MnslpMsg.kind_setObject m _).symm ▸ suits) (fun other member => by
    by_cases same : other = ⟨treatment,.informationCode severity responseCode 0⟩
    · exact same ▸ readable
    · exact others other member same)
  refine ⟨_,_,serialized,rfl,fun env => ?_⟩
  obtain ⟨other,read,same,_⟩ := back env
  exact ⟨other,read,same⟩

/-- The check of the object type tests all bits that it has instead of those it does not
have, so that only the code about no object comes through. -/
theorem informationCode_round_trip_iff (about : UInt16) :
    (MnslpObject.CodeRoundTrips ⟨treatment,.informationCode severity responseCode about⟩ ∧
      MnslpObject.CodeIsCarried ⟨treatment,.informationCode severity responseCode about⟩) ↔ about = 0 := by
  constructor
  · rintro ⟨⟨checked,_⟩,_⟩
    exact (MnslpObject.bodyBytes_informationCode checked).2.1
  · rintro rfl
    exact ⟨codeRoundTrips treatment small responseCode,codeIsCarried treatment small responseCode⟩

end

theorem informationCode_round_trip_success :
    (MnslpObject.CodeRoundTrips ⟨.mandatory,.informationCode 2 1 0⟩ ∧
      MnslpObject.CodeIsCarried ⟨.mandatory,.informationCode 2 1 0⟩) ↔ (0 : UInt16) = 0 :=
  @informationCode_round_trip_iff .mandatory 2 (by decide) 1 0

/-- A protocol error about a session lifetime does not pass its check. -/
theorem informationCode_not_round_trip : ¬ ∀ (treatment : Treatment) (severity responseCode : UInt8) (about : UInt16),
    severity < 16 → MnslpObject.CodeRoundTrips ⟨treatment,.informationCode severity responseCode about⟩ := by
  intro always
  obtain ⟨checked,_⟩ := always .mandatory 3 1 0xF8 (by decide)
  cases checked

end Mnslp.Msg
